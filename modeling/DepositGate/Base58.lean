/-!
# Base58

Byte lists written with fifty-eight letters and digits that are hard to confuse. The bytes after the
leading zeros are one number in base 58; each leading zero byte is the letter `1`. Digits of numbers are listed
with the most significant first.
-/

namespace DepositGate

/-! ## Digits of a number in a base -/

namespace Number

def ofDigits (base : Nat) (digits : List Nat) : Nat :=
  digits.foldl (fun n d ↦ n * base + d) 0

/-- The digits of a number in front of `tail`, without leading zeros; zero has none. -/
def digitsOnto (base : Nat) (n : Nat) (tail : List Nat) : List Nat :=
  if n = 0 ∨ base < 2 then tail
  else digitsOnto base (n / base) (n % base :: tail)
termination_by n
decreasing_by exact Nat.div_lt_self (by omega) (by omega)

def toDigits (base n : Nat) : List Nat :=
  digitsOnto base n []

end Number

/-! ## Bytes in base 58 -/

namespace Base58

def alphabet : List Char :=
  "123456789ABCDEFGHJKLMNPQRSTUVWXYZabcdefghijkmnopqrstuvwxyz".toList

def digitValue? (c : Char) : Option Nat :=
  alphabet.findIdx? (· == c)

def digitChar (value : Nat) : Char :=
  alphabet.getD value '1'

def encode (bytes : List UInt8) : String :=
  let zeros := bytes.takeWhile (· == 0)
  let n := Number.ofDigits 256 ((bytes.dropWhile (· == 0)).map UInt8.toNat)
  String.ofList (zeros.map (fun _ ↦ '1') ++ (Number.toDigits 58 n).map digitChar)

def digitValues? (cs : List Char) : Option (List Nat) :=
  cs.mapM digitValue?

def decode? (s : String) : Option (List UInt8) :=
  (digitValues? s.toList).map fun values ↦
    let zeros := values.takeWhile (· == 0)
    let n := Number.ofDigits 58 (values.dropWhile (· == 0))
    zeros.map (fun _ ↦ 0) ++ (Number.toDigits 256 n).map UInt8.ofNat

end Base58

end DepositGate
