import DepositGate.Text.Hex
import DepositGate.Text.Pieces
import DepositGate.Text.Utf8

/-!
# Forms in queries

The fields of a form as they stand in a query: pairs with `&` between them, each a name and a value with
`=` between them, where `+` is a blank and other characters may be written by their bytes in
hexadecimal.
-/

namespace DepositGate.Http.Form

/-- The bytes of percent-encoded bytes, behind those in `done` (latest first). A percent sign without two
hexadecimal digits stands for itself. -/
def percentDecodeFrom (done : List UInt8) : List UInt8 → List UInt8
  | [] => done.reverse
  | 0x25 :: high :: low :: rest =>
    match Text.hexByteValue? high, Text.hexByteValue? low with
    | some h, some l => percentDecodeFrom (UInt8.ofNat (16 * h + l) :: done) rest
    | _, _ => percentDecodeFrom (0x25 :: done) (high :: low :: rest)
  | b :: rest => percentDecodeFrom (b :: done) rest
termination_by bytes => bytes.length

def percentDecode (bytes : List UInt8) : List UInt8 :=
  percentDecodeFrom [] bytes

/-- The text of a name or value. Bytes that are not UTF-8 are replaced. -/
def decode (cs : List Char) : String :=
  let bytes := Text.utf8 (String.ofList cs)
  Text.ofUtf8Lossy (percentDecode (bytes.map fun b ↦ if b == 0x2B then 0x20 else b))

/-- The name and the value of a pair; a pair without a sign between them has an empty value. -/
def pair (cs : List Char) : String × String :=
  let name := cs.takeWhile (· != '=')
  (decode name, decode (cs.drop (name.length + 1)))

def pairs (query : String) : List (String × String) :=
  ((Text.pieces '&' query.toList).filter (!·.isEmpty)).map pair

def first? (name query : String) : Option String :=
  ((pairs query).find? (·.1 == name)).map (·.2)

end DepositGate.Http.Form
