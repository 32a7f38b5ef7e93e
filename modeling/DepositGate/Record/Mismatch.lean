import DepositGate.Text.Quoted
import DepositGate.Time.Instant

/-!
# Mismatches between data and records

What can be wrong with well-formed data that should be a record: a value of another type, a value out
of range, a field that is missing or given twice, or a name that is not among the known ones.
-/

namespace DepositGate.Record

inductive Found where
  | null
  | bool (b : Bool)
  | int (n : Int)
  | float (x : Float)
  | text (s : String)
  | list
  | table

def Found.describe (float : Float → String) : Found → String
  | .null => "null"
  | .bool b => s!"boolean `{b}`"
  | .int n => s!"integer `{n}`"
  | .float x => "floating point `" ++ float x ++ "`"
  | .text s => "string " ++ Text.quoted s
  | .list => "sequence"
  | .table => "map"

inductive Mismatch where
  | type (found : Found) (expected : String)
  | value (found : Found) (expected : String)
  | length (found : Nat) (expected : String)
  | missing (field : String)
  | repeated (field : String)
  | unknown (name known : String)
  | instant (fault : Time.Instant.Fault)

def Mismatch.message (float : Float → String) : Mismatch → String
  | .type found expected => "invalid type: " ++ found.describe float ++ ", expected " ++ expected
  | .value found expected => "invalid value: " ++ found.describe float ++ ", expected " ++ expected
  | .length found expected => s!"invalid length {found}, expected " ++ expected
  | .missing field => "missing field `" ++ field ++ "`"
  | .repeated field => "duplicate field `" ++ field ++ "`"
  | .unknown name known => "unknown variant `" ++ name ++ "`, expected `" ++ known ++ "`"
  | .instant fault => fault.message

def recordExpectation (name : String) : String :=
  "struct " ++ name

def lengthExpectation (name : String) (fields : Nat) : String :=
  "struct " ++ name ++ s!" with {fields} element" ++ if fields = 1 then "" else "s"

end DepositGate.Record
