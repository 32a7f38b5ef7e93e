import DepositGate.Log
import DepositGate.Text.Character
import DepositGate.Text.Pieces
import DepositGate.Text.Utf8

/-!
# Directives of log filters

A directive gives the lowest level at which entries are written: all of them, those of some scope, or
those in some span, with some fields. It is written `scope[span{field=value}]=level`, where each part may be
missing.
-/

namespace DepositGate.Log

/-- How much is written: nothing, or entries up to a rank. -/
abbrev Verbosity := Nat

def verbosityNames : List String := ["off", "error", "warn", "info", "debug", "trace"]

def everything : Verbosity := 5

def number? (cs : List Char) : Option Nat :=
  let digits := match cs with
    | '+' :: rest => rest
    | _ => cs
  if digits.isEmpty || !digits.all Char.isDigit then none
  else some (digits.foldl (fun n c ↦ 10 * n + (c.toNat - 48)) 0)

/-- Reads a verbosity: a name in letters of either case, or a number. None at all is that of errors. -/
def verbosity? (s : String) : Option Verbosity :=
  let named := verbosityNames.findIdx? (· == String.ofList (s.toList.map Char.toLower))
  if s.isEmpty then some 1
  else
    match number? s.toList with
    | some n => if n < verbosityNames.length then some n else none
    | none => named

structure FieldPattern where
  name : String
  value : Option String
deriving DecidableEq, Repr

def FieldPattern.read (s : String) : FieldPattern :=
  match (Text.pieces '=' s.toList).map String.ofList with
  | name :: rest => ⟨name, rest.head?⟩
  | [] => ⟨s, none⟩

structure Directive where
  scope : Option String
  span : Option String
  fields : List FieldPattern
  verbosity : Verbosity
deriving DecidableEq, Repr

inductive Misread where
  | form
  | level
deriving DecidableEq, Repr

def Misread.message : Misread → String
  | form => "invalid filter directive"
  | level =>
    "error parsing level filter: expected one of \"off\", \"error\", \"warn\", \"info\", \"debug\", " ++
      "\"trace\", or a number 0-5"

namespace Directive

def ofVerbosity (v : Verbosity) : Directive := ⟨none, none, [], v⟩

/-! ## Reading -/

/-- Where the reading of a directive stands; a part that has begun is given by its first byte. -/
inductive Place where
  | start
  | scope (first : Nat)
  | span (first : Nat)
  | field (first : Nat)
  | afterFields
  | afterSpan
  | level (first : Nat)
deriving DecidableEq, Repr

def cut (whole : List UInt8) (first after : Nat) : String :=
  Text.ofUtf8Lossy ((whole.drop first).take (after - first))

def cutRest (whole : List UInt8) (first : Nat) : String :=
  Text.ofUtf8Lossy (whole.drop first)

def opens (c : Char) : Bool :=
  c == '-' || c == ':' || c == '_' || Text.isAlphanumeric c

def step (whole : List UInt8) (d : Directive) (place : Place) (here : Nat) (c : Char) :
    Except Misread (Directive × Place) :=
  match place with
  | .start =>
    if c == '[' then .ok (d, .span (here + 1))
    else if opens c then .ok (d, .scope here)
    else .error .form
  | .scope first =>
    if c == '=' then .ok ({ d with scope := cut whole first here }, .level (here + 1))
    else if c == '[' then .ok ({ d with scope := cut whole first here }, .span (here + 1))
    else .ok (d, place)
  | .span first =>
    if c == ']' then .ok ({ d with span := cut whole first here }, .afterSpan)
    else if c == '\x7b' then
      let name := cut whole first here
      .ok ({ d with span := if name.isEmpty then none else some name }, .field (here + 1))
    else .ok (d, place)
  | .field first =>
    if c == '\x7d' then
      let pattern := cut whole first here
      if pattern.isEmpty then .error .form
      else .ok ({ d with fields := d.fields ++ [.read pattern] }, .afterFields)
    else .ok (d, place)
  | .afterFields => if c == ']' then .ok (d, .afterSpan) else .error .form
  | .afterSpan => if c == '=' then .ok (d, .level (here + 1)) else .error .form
  | .level _ => .ok (d, place)

def steps (whole : List UInt8) (d : Directive) (place : Place) (here : Nat) :
    List Char → Except Misread (Directive × Place)
  | [] => .ok (d, place)
  | c :: cs =>
    match step whole d place here c with
    | .error fault => .error fault
    | .ok (d, place) => steps whole d place (here + c.utf8Size) cs

/-- Ends a directive. A scope alone that is the name of a level is that level. -/
def finish (whole : List UInt8) (d : Directive) : Place → Except Misread Directive
  | .scope first =>
    let text := cutRest whole first
    match verbosity? text with
    | some v => .ok { d with verbosity := v }
    | none => .ok { d with scope := text }
  | .level first =>
    let text := cutRest whole first
    if text.isEmpty then .ok d
    else
      match verbosity? text with
      | some v => .ok { d with verbosity := v }
      | none => .error .level
  | .afterSpan => .ok d
  | _ => .error .form

/-- Reads a directive. The ends of its parts are found in the text without the blanks around it, and count
in the text with them. -/
def read (s : String) : Except Misread Directive := do
  let whole := Text.utf8 s
  let (d, place) ← steps whole (ofVerbosity everything) .start 0 (Text.trim s.toList)
  finish whole d place

/-! ## What it concerns -/

def concernsSpans (d : Directive) : Bool :=
  d.span.isSome || !d.fields.isEmpty

/-- Whether a directive decides on entries by their scope and the names of their fields alone. -/
def concernsEntries (d : Directive) : Bool :=
  d.span.isNone && d.fields.all (·.value.isNone)

def names (d : Directive) : List String := d.fields.map (·.name)

/-- Which of two directives is the more specific: the one with the longer scope, then the one with more
fields. -/
def order (d e : Directive) : Ordering :=
  let size (d : Directive) : Option Nat := d.scope.map (·.utf8ByteSize)
  (compare (size e) (size d)).then <| (compare e.fields.length d.fields.length).then <|
    (compare e.scope d.scope).then (compare e.names d.names)

/-- Puts a directive in its place among others, the most specific first, or in that of its equal. -/
def insert (others : List Directive) (d : Directive) : List Directive :=
  match others with
  | [] => [d]
  | e :: rest =>
    match order d e with
    | .lt => d :: e :: rest
    | .eq => d :: rest
    | .gt => e :: insert rest d

def fitsScope (d : Directive) (scope : String) : Bool :=
  match d.scope with
  | some start => start.toList.isPrefixOf scope.toList
  | none => true

/-- Whether a directive concerns an entry of a scope; the message counts as a field. -/
def fitsEntry (d : Directive) (scope : String) (e : Event) : Bool :=
  d.fitsScope scope && d.names.all fun name ↦ name == "message" || e.fields.any (·.1 == name)

def shownValue : FieldValue → String
  | .text s => s
  | .number n => toString n

def fitsSpan (d : Directive) (scope : String) (span : Span) : Bool :=
  d.fitsScope scope && (d.span.isNone || d.span == some span.name) &&
    d.fields.all fun pattern ↦
      span.fields.any fun (name, value) ↦
        name == pattern.name && (pattern.value.isNone || pattern.value == some (shownValue value))

end Directive

end DepositGate.Log
