/-!
# Log events

An event has a level, a message and named fields, and lies in spans, whose fields are those known when
the event happens.
-/

namespace DepositGate

inductive Level where
  | debug
  | info
  | warn
  | error
deriving DecidableEq, Repr

def Level.name : Level → String
  | debug => "DEBUG"
  | info => "INFO"
  | warn => "WARN"
  | error => "ERROR"

inductive FieldValue where
  | text (s : String)
  | number (n : Nat)
deriving DecidableEq, Repr

abbrev Fields := List (String × FieldValue)

structure Span where
  name : String
  fields : Fields
deriving DecidableEq, Repr

structure Event where
  level : Level
  message : String
  fields : Fields
  spans : List Span
deriving DecidableEq, Repr

def Event.within (span : Span) (e : Event) : Event :=
  { e with spans := span :: e.spans }

end DepositGate
