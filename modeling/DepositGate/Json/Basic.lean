import DepositGate.Record.Datum
import DepositGate.Text.Hex
import DepositGate.Text.Utf8

/-!
# JSON texts of data

The compact JSON text of data, as UTF-8 bytes. The members of an object are written in the order in
which the table holds them.
-/

namespace DepositGate.Json

/-- The bytes for a byte of a text between quotes. Quotes, backslashes and control characters are
escaped; a byte of a longer sequence is none of these and stands for itself. -/
def escapeByte (b : UInt8) : List UInt8 :=
  if b == 0x22 then [0x5C, 0x22]
  else if b == 0x5C then [0x5C, 0x5C]
  else if b == 0x08 then [0x5C, 0x62]
  else if b == 0x09 then [0x5C, 0x74]
  else if b == 0x0A then [0x5C, 0x6E]
  else if b == 0x0C then [0x5C, 0x66]
  else if b == 0x0D then [0x5C, 0x72]
  else if b < 0x20 then Text.utf8 "\\u00" ++ (Text.hexPair b).map fun c ↦ UInt8.ofNat c.toNat
  else [b]

def encodeText (s : String) : List UInt8 :=
  0x22 :: (Text.utf8 s).flatMap escapeByte ++ [0x22]

def commaSeparated : List (List UInt8) → List UInt8
  | [] => []
  | [item] => item
  | item :: items => item ++ 0x2C :: commaSeparated items

mutual

def encode : Datum → List UInt8
  | .null => Text.utf8 "null"
  | .bool b => Text.utf8 (if b then "true" else "false")
  | .int n => Text.utf8 (toString n)
  | .float x => Text.utf8 (toString x)
  | .text s => encodeText s
  | .list items => 0x5B :: commaSeparated (encodeItems items) ++ [0x5D]
  | .table members => 0x7B :: commaSeparated (encodeMembers members) ++ [0x7D]

def encodeItems : List Datum → List (List UInt8)
  | [] => []
  | item :: items => encode item :: encodeItems items

def encodeMembers : List (String × Datum) → List (List UInt8)
  | [] => []
  | (name, value) :: members =>
    (encodeText name ++ 0x3A :: encode value) :: encodeMembers members

end

end DepositGate.Json
