import DepositGate.Json.Basic
import DepositGate.Log
import DepositGate.Text.Utf8
import DepositGate.Time.Instant

/-!
# Lines of the log

An entry is written on a line of its own, as JSON or as plain text, with the time to the microsecond.
-/

namespace DepositGate.Log

def timeText (t : Time.Instant) : String :=
  let micros := Time.padded 6 (t.nanos % 1000000000 / 1000)
  t.dateText ++ "T" ++ { t with nanos := 0 }.clockText ++ "." ++ micros ++ "Z"

def valueDatum : FieldValue → Datum
  | .text s => .text s
  | .number n => .int n

def valueText : FieldValue → String
  | .text s => s
  | .number n => toString n

def fieldsDatum (fields : Fields) : Datum :=
  .table (fields.map fun (name, value) ↦ (name, valueDatum value))

def spanDatum (s : Span) : Datum :=
  .table (("name", .text s.name) :: s.fields.map fun (name, value) ↦ (name, valueDatum value))

/-- An entry of a scope at a time as data; the spans around it are named if there are any. -/
def lineDatum (time : Time.Instant) (scope : String) (e : Event) : Datum :=
  let spans := match e.spans.getLast? with
    | none => []
    | some inner => [("span", spanDatum inner), ("spans", .list (e.spans.map spanDatum))]
  .table ([("timestamp", .text (timeText time)), ("level", .text e.level.name),
    ("fields", fieldsDatum (("message", .text e.message) :: e.fields)),
    ("target", .text scope)] ++ spans)

def jsonLine (time : Time.Instant) (scope : String) (e : Event) : String :=
  Text.ofUtf8Lossy (Json.encode (lineDatum time scope e))

def fieldsText (fields : Fields) : String :=
  " ".intercalate (fields.map fun (name, value) ↦ name ++ "=" ++ valueText value)

def spanText (s : Span) : String :=
  s.name ++ (if s.fields.isEmpty then "" else "\x7b" ++ fieldsText s.fields ++ "\x7d") ++ ":"

def levelColumn (l : Level) : String :=
  "".pushn ' ' (5 - l.name.length) ++ l.name

def plainLine (time : Time.Instant) (scope : String) (e : Event) : String :=
  let spans := if e.spans.isEmpty then "" else String.join (e.spans.map spanText) ++ " "
  let fields := if e.fields.isEmpty then "" else " " ++ fieldsText e.fields
  timeText time ++ " " ++ levelColumn e.level ++ " " ++ spans ++ scope ++ ": " ++ e.message ++ fields

end DepositGate.Log
