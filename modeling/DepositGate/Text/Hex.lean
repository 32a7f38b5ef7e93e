/-!
# Hexadecimal digits

Digits of base sixteen as bytes and as characters, numbers written in lower case, and byte lists
written two digits a byte.
-/

namespace DepositGate.Text

def hexValue? (c : Char) : Option Nat :=
  if '0' ≤ c ∧ c ≤ '9' then some (c.toNat - 48)
  else if 'a' ≤ c ∧ c ≤ 'f' then some (c.toNat - 87)
  else if 'A' ≤ c ∧ c ≤ 'F' then some (c.toNat - 55)
  else none

def hexByteValue? (b : UInt8) : Option Nat :=
  hexValue? (Char.ofNat b.toNat)

def hexDigits (n : Nat) : List Char :=
  Nat.toDigits 16 n

def hexPair (b : UInt8) : List Char :=
  [Nat.digitChar (b.toNat / 16), Nat.digitChar (b.toNat % 16)]

def hexOfBytes (bytes : List UInt8) : String :=
  String.ofList (bytes.flatMap hexPair)

/-- The bytes that pairs of digits stand for, behind those in `done` (latest first). -/
def bytesOfHexFrom (done : List UInt8) : List Char → Option (List UInt8)
  | [] => some done.reverse
  | [_] => none
  | high :: low :: rest =>
    match hexValue? high, hexValue? low with
    | some h, some l => bytesOfHexFrom (UInt8.ofNat (16 * h + l) :: done) rest
    | _, _ => none

def bytesOfHex? (s : String) : Option (List UInt8) :=
  bytesOfHexFrom [] s.toList

end DepositGate.Text
