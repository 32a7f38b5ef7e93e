import DepositGate.Json.Record
import DepositGate.Record.Datum

/-!
# Reading data from JSON

Reads any JSON value as data. The members of an object come in the order of their names, and of several with one
name the last one counts.
-/

namespace DepositGate.Json

/-- Puts a member in its place among members in ascending order of names, instead of one with the same
name. -/
def putMember (name : String) (value : Datum) : List (String × Datum) → List (String × Datum)
  | [] => [(name, value)]
  | (other, held) :: members =>
    if name = other then (name, value) :: members
    else if name < other then (name, value) :: (other, held) :: members
    else (other, held) :: putMember name value members

def readValue : (depth : Nat) → Reader Datum
  | 0, bytes => .error (.next (skipBlanks bytes) .tooDeep)
  | depth + 1, bytes => do
    match skipBlanks bytes with
    | [] => .error (.next [] .endInValue)
    | b :: rest =>
      if b == 0x6E then (readWord (Text.utf8 "ull") rest).map fun rest ↦ (.null, rest)
      else if b == 0x74 then (readWord (Text.utf8 "rue") rest).map fun rest ↦ (.bool true, rest)
      else if b == 0x66 then (readWord (Text.utf8 "alse") rest).map fun rest ↦ (.bool false, rest)
      else if b == 0x2D || isDigit b then
        (readNumeral (b :: rest)).map fun (numeral, rest) ↦
          (match numeral with | .int n => .int n | .float x => .float x, rest)
      else if b == 0x22 then (readString rest).map fun (s, rest) ↦ (.text s, rest)
      else if b == 0x5B then
        let (items, rest) ← readElements (readValue depth) (rest.length + 1) [] rest
        let rest ← closeArray rest
        .ok (.list items, rest)
      else if b == 0x7B then
        let member (members : List (String × Datum)) (name : String) : Reader (List (String × Datum)) :=
          fun bytes ↦ do
            let rest ← readColon bytes
            let (value, rest) ← readValue depth rest
            .ok (putMember name value members, rest)
        let (members, rest) ← readMembers member (rest.length + 1) true [] rest
        let rest ← closeObject rest
        .ok (.table members, rest)
      else .error (.next (b :: rest) .expectedValue)

def maxDepth : Nat := 128

def read (bytes : List UInt8) : Except Fault Datum :=
  readAll (readValue maxDepth) bytes

end DepositGate.Json
