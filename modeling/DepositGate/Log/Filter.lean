import DepositGate.Log.Directive
import DepositGate.Text.Pieces

/-!
# Log filters

A filter is a list of directives, of which the most specific one that concerns an entry decides whether
it is written. Directives about spans add what lies in the spans they name.
-/

namespace DepositGate.Log

/-- The rank of a level, lower for what is more important. -/
def rank : Level → Verbosity
  | .error => 1
  | .warn => 2
  | .info => 3
  | .debug => 4

structure Filter where
  /-- What decides on entries by their scope and the names of their fields, the most specific first. -/
  plain : List Directive
  /-- What adds the entries in some spans. -/
  inSpans : List Directive
deriving DecidableEq, Repr

def commaParts (s : String) : List String :=
  ((Text.pieces ',' s.toList).filter (!·.isEmpty)).map String.ofList

/-- The filter of some directives. Of two that are equally specific and alike, the later one counts. -/
def Filter.ofDirectives (directives : List Directive) : Filter :=
  let (spanned, free) := directives.partition Directive.concernsSpans
  let plain := (free ++ spanned.filter Directive.concernsEntries).foldl Directive.insert []
  ⟨plain, spanned⟩

/-- Reads a filter. What is not understood is left out; with nothing left, errors are written. -/
def Filter.read (s : String) : Filter :=
  let directives := (commaParts s).filterMap fun part ↦ (Directive.read part).toOption
  ofDirectives (if directives.isEmpty then [Directive.ofVerbosity (rank .error)] else directives)

def Filter.misread (s : String) : List (String × Misread) :=
  (commaParts s).filterMap fun part ↦
    match Directive.read part with
    | .ok _ => none
    | .error fault => some (part, fault)

def Filter.admits (f : Filter) (scope : String) (e : Event) : Bool :=
  let here := e.spans.any fun span ↦
    f.inSpans.any fun d ↦ d.fitsSpan scope span && rank e.level ≤ d.verbosity
  here ||
    match f.plain.find? (·.fitsEntry scope e) with
    | some d => rank e.level ≤ d.verbosity
    | none => false

end DepositGate.Log
