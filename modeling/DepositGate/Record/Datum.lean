/-!
# Data

The data that JSON and TOML texts hold: texts, numbers, truth values, lists and tables.
-/

namespace DepositGate

inductive Datum where
  | null
  | bool (b : Bool)
  | int (n : Int)
  | float (x : Float)
  | text (s : String)
  | list (items : List Datum)
  /-- Named values, each name once. -/
  | table (members : List (String × Datum))

namespace Datum

def lookup? (name : String) (members : List (String × Datum)) : Option Datum :=
  (members.find? (·.1 == name)).map (·.2)

def member? (name : String) : Datum → Option Datum
  | table members => lookup? name members
  | _ => none

end Datum

end DepositGate
