/-!
# Decimals and floating-point numbers

The double nearest to a decimal, or an infinite one where the decimal is beyond all of them. The other way, the
decimal with the fewest digits that reads back as a given double, and of several the nearest. A finite double is
`m * 2 ^ q`; it is the nearest double to every real of an interval around it, whose ends belong to it when `m`
is even. On the grids `10 ^ k`, from coarse to fine, the two neighbours of the number are tried.
-/

namespace DepositGate.Number

/-! ## The nearest double -/

def digitCount (n : Nat) : Nat :=
  (Nat.toDigits 10 n).length

/-- The double nearest to `digits * 10 ^ exponent`. Decimals of `10 ^ 310` and more are infinite, and
those below `10 ^ -400` are zero. -/
def nearestFloat (digits : Nat) (exponent : Int) : Float :=
  let size := digitCount digits + exponent
  if digits = 0 ∨ size < -400 then 0.0
  else if 310 < size then 1.0 / 0.0
  else Float.ofScientific digits (exponent < 0) exponent.natAbs

/-! ## The shortest decimal -/

/-- A positive decimal `digits * 10 ^ exponent`. -/
structure Decimal where
  digits : Nat
  exponent : Int
deriving DecidableEq, Repr

inductive Magnitude where
  /-- A finite number `mantissa * 2 ^ exponent`; `narrow` says that the next smaller double is only
  half as far away as the next greater one. -/
  | finite (mantissa : Nat) (exponent : Int) (narrow : Bool)
  | infinite
  | undefined
deriving DecidableEq, Repr

/-- The magnitude and the sign that the bits of a double stand for: its sign, eleven bits of exponent and
fifty-two of fraction. -/
def decodeBits (bits : UInt64) : Bool × Magnitude :=
  let n : Nat := bits.toNat
  let negative := n >>> 63 == 1
  let biased : Nat := (n >>> 52) % 0x800
  let fraction : Nat := n % 0x10000000000000
  if biased == 2047 then (negative, if fraction == 0 then .infinite else .undefined)
  else if biased == 0 then (negative, .finite fraction (-1074) false)
  else (negative, .finite (0x10000000000000 + fraction) ((biased : Int) - 1075) (fraction == 0 && biased != 1))

def powerFraction (base : Nat) (exponent : Int) : Nat × Nat :=
  (Nat.pow base exponent.toNat, Nat.pow base (-exponent).toNat)

/-- The neighbour of the number on the grid `10 ^ k` that lies in the interval of the reals that round
to it, the nearer one if both do and the lower one if both are as near. -/
def onGrid? (mantissa : Nat) (exponent : Int) (narrow : Bool) (k : Int) : Option Nat :=
  let (twos, twosDen) := powerFraction 2 (exponent - 2)
  let (tens, tensDen) := powerFraction 10 k
  let scale := twos * tensDen
  let unit := tens * twosDen
  let value := 4 * mantissa * scale
  let least := (4 * mantissa - if narrow then 1 else 2) * scale
  let greatest := (4 * mantissa + 2) * scale
  let fits (c : Nat) : Bool :=
    if mantissa % 2 == 0 then least ≤ c * unit && c * unit ≤ greatest
    else least < c * unit && c * unit < greatest
  let low := value / unit
  match fits low, fits (low + 1) with
  | false, false => none
  | true, false => some low
  | false, true => some (low + 1)
  | true, true => some (if value - low * unit ≤ (low + 1) * unit - value then low else low + 1)

/-- The first grid of `count` ones, from `10 ^ k` downwards, on which a neighbour reads back. -/
def firstGrid (mantissa : Nat) (exponent : Int) (narrow : Bool) : (count : Nat) → Int → Decimal
  | 0, _ => ⟨mantissa, 0⟩
  | count + 1, k =>
    match onGrid? mantissa exponent narrow k with
    | some digits => ⟨digits, k⟩
    | none => firstGrid mantissa exponent narrow count (k - 1)

/-- The shortest decimal of a positive finite number. It starts above the number, since a number below
`2 ^ b` is below `10 ^ (b * 78913 / 2 ^ 18 + 1)`, and twenty grids lie above the seventeenth digit. -/
def shortest (mantissa : Nat) (exponent : Int) (narrow : Bool) : Decimal :=
  let top := ((mantissa.log2 + 1 : Int) + exponent) * 78913 / 0x40000 + 1
  firstGrid mantissa exponent narrow 22 top

end DepositGate.Number
