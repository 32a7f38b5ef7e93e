/-!
# Base64

Bytes written with letters of six bits, four letters for three bytes, where equals signs fill the last
four. Blanks between the letters do not count.
-/

namespace DepositGate.Text.Base64

inductive Fault where
  | invalidCharacter (b : UInt8)
  | prematurePadding
  | invalidTrailingPadding
deriving DecidableEq, Repr

def Fault.message : Fault → String
  | invalidCharacter b => s!"InvalidCharacter({b.toNat})"
  | prematurePadding => "PrematurePadding"
  | invalidTrailingPadding => "InvalidTrailingPadding"

def letter? (b : UInt8) : Option Nat :=
  if 0x41 ≤ b && b ≤ 0x5A then some (b.toNat - 0x41)
  else if 0x61 ≤ b && b ≤ 0x7A then some (b.toNat - 0x61 + 26)
  else if 0x30 ≤ b && b ≤ 0x39 then some (b.toNat - 0x30 + 52)
  else if b == 0x2B then some 62
  else if b == 0x2F then some 63
  else none

def isPadding (b : UInt8) : Bool :=
  b == 0x3D

def isSkipped (b : UInt8) : Bool :=
  (0x09 ≤ b && b ≤ 0x0D) || b == 0x20

/-- The bytes of some sixes of bits; what is left of an incomplete byte is dropped. -/
def bytesOf : List Nat → List UInt8
  | a :: b :: c :: d :: rest =>
    (a * 4 + b / 16).toUInt8 :: (b % 16 * 16 + c / 4).toUInt8 :: (c % 4 * 64 + d).toUInt8 ::
      bytesOf rest
  | [a, b, c] => [(a * 4 + b / 16).toUInt8, (b % 16 * 16 + c / 4).toUInt8]
  | [a, b] => [(a * 4 + b / 16).toUInt8]
  | _ => []

def decode (text : List UInt8) : Except Fault (List UInt8) :=
  let signs := text.filter (!isSkipped ·)
  match signs.find? fun b ↦ !isPadding b && (letter? b).isNone with
  | some b => .error (.invalidCharacter b)
  | none =>
    let letters := signs.takeWhile (!isPadding ·)
    let padding := signs.drop letters.length
    if !padding.all isPadding then .error .prematurePadding
    else if signs.length % 4 ≠ 0 || 2 < padding.length then .error .invalidTrailingPadding
    else .ok (bytesOf (letters.filterMap letter?))

end DepositGate.Text.Base64
