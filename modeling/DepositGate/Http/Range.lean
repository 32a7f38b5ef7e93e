import DepositGate.Text.Pieces

/-!
# Byte ranges

A client may ask for ranges of the bytes of a file: from one place to another, from a place to the end,
or a number of bytes at the end.
-/

namespace DepositGate.Http

inductive RangeSpec where
  | between (start : Nat) (last : Option Nat)
  | suffix (count : Nat)
deriving DecidableEq, Repr

namespace RangeSpec

/-- A number of 64 bits, without a sign and without a zero before another digit. -/
def number? (cs : List Char) : Option Nat :=
  let n := cs.foldl (fun n c ↦ 10 * n + (c.toNat - 48)) 0
  if cs.isEmpty ∨ !cs.all Char.isDigit ∨ (1 < cs.length ∧ cs.head? = some '0') ∨
      0xffffffffffffffff < n then none
  else some n

def ofChars? (cs : List Char) : Option RangeSpec :=
  match Text.pieces '-' cs with
  | [[], count] => (number? count).map suffix
  | [start, []] => (number? start).map fun start ↦ between start none
  | [start, last] => do some (between (← number? start) (some (← number? last)))
  | _ => none

/-- A part behind a comma, without the one blank that may come first. -/
def behindComma (cs : List Char) : List Char :=
  match cs with
  | ' ' :: rest | '\t' :: rest => rest
  | _ => cs

def read? (header : String) : Option (List RangeSpec) :=
  let unit := "bytes=".toList
  let cs := header.toList
  if unit.isPrefixOf cs then
    match Text.pieces ',' (cs.drop unit.length) with
    | part :: parts => (part :: parts.map behindComma).mapM ofChars?
    | [] => none
  else none

/-- The first and the last place of a range in a file of a size. The end of the file cuts it off; no
more bytes than there are can be at the end. -/
def bounds? (size : Nat) : RangeSpec → Option (Nat × Nat)
  | between start last => some (start, min (last.getD (size - 1)) (size - 1))
  | suffix count => if size < count then none else some (size - count, size - 1)

def overlap (a b : Nat × Nat) : Bool :=
  a.1 ≤ b.2 && b.1 ≤ a.2

/-- The places of ranges in a file of a size, none if one of them does not exist or two overlap. -/
def resolve? (size : Nat) (ranges : List RangeSpec) : Option (List (Nat × Nat)) := do
  let found ← ranges.mapM (bounds? size)
  if found.any fun (start, last) ↦ last < start then none
  else if found.Pairwise fun a b ↦ !overlap a b then some found
  else none

end RangeSpec

end DepositGate.Http
