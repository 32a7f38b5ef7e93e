import DepositGate.Record.Datum
import DepositGate.Record.Mismatch
import DepositGate.Time.InstantReader

/-!
# Reading records from data

Texts, numbers, lists and records out of data. A record is a table, of which unknown members are passed
over, or a list of its fields in order; the members of a table are read in the order of the table.
-/

namespace DepositGate.Record

structure Format where
  /-- Whether the list form of a record may hold more values than there are fields. -/
  surplus : Bool
  float : Float → String

def found : Datum → Found
  | .null => .null
  | .bool b => .bool b
  | .int n => .int n
  | .float x => .float x
  | .text s => .text s
  | .list _ => .list
  | .table _ => .table

def wrongType {α : Type} (expected : String) (d : Datum) : Except Mismatch α :=
  .error (.type (found d) expected)

def text : Datum → Except Mismatch String
  | .text s => .ok s
  | d => wrongType "a string" d

def optionalText : Datum → Except Mismatch (Option String)
  | .null => .ok none
  | d => (text d).map some

def bool : Datum → Except Mismatch Bool
  | .bool b => .ok b
  | d => wrongType "a boolean" d

def nat64 : Datum → Except Mismatch Nat
  | .int n =>
    if 0 ≤ n ∧ n ≤ 0xffffffffffffffff then .ok n.toNat else .error (.value (.int n) "u64")
  | d => wrongType "u64" d

def instant : Datum → Except Mismatch Time.Instant
  | .text s => (Time.Instant.read s).mapError .instant
  | d => wrongType "an RFC 3339 formatted date and time string" d

def texts : Datum → Except Mismatch (List String)
  | .list items => items.mapM text
  | d => wrongType "a sequence" d

structure Fields (α : Type) where
  name : String
  fields : List String
  required : List String
  empty : α
  set : α → String → Datum → Except Mismatch α

def ofTable {α : Type} (r : Fields α) (members : List (String × Datum)) : Except Mismatch α := do
  let a ← members.foldlM (fun a (name, d) ↦ r.set a name d) r.empty
  match r.required.find? fun name ↦ !members.any (·.1 == name) with
  | some name => .error (.missing name)
  | none => .ok a

def ofList {α : Type} (format : Format) (r : Fields α) (items : List Datum) : Except Mismatch α := do
  let a ← (r.fields.zip items).foldlM (fun a (name, d) ↦ r.set a name d) r.empty
  match (r.fields.drop items.length).find? r.required.contains with
  | some name => .error (.length (r.fields.idxOf name) (lengthExpectation r.name r.fields.length))
  | none =>
    if r.fields.length < items.length ∧ !format.surplus then
      .error (.length items.length "fewer elements in array")
    else .ok a

def record {α : Type} (format : Format) (r : Fields α) : Datum → Except Mismatch α
  | .table members => ofTable r members
  | .list items => ofList format r items
  | d => wrongType (recordExpectation r.name) d

end DepositGate.Record
