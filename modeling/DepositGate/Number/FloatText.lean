import DepositGate.Number.Decimal

/-!
# Texts of floating-point numbers

The shortest decimal of a number, laid out with or without an exponent.
-/

namespace DepositGate.Number

structure FloatLayout where
  /-- The exponents of ten of the first digit for which no exponent is written, if they are limited. -/
  positional? : Option (Int × Int)
  infinite : String
  undefined : String

/-- A number without an exponent, with a point and at least one digit after it. -/
def positionalText (digits : List Char) (point : Int) : List Char :=
  if point ≤ 0 then
    '0' :: '.' :: List.replicate (-point).toNat '0' ++ digits
  else
    let whole := digits.take point.toNat
    let zeros := List.replicate (point.toNat - digits.length) '0'
    let places := digits.drop point.toNat
    whole ++ zeros ++ '.' :: if places.isEmpty then ['0'] else places

def exponentText (digits : List Char) (point : Int) : List Char :=
  let places := digits.drop 1
  let exponent := point - 1
  digits.take 1 ++ (if places.isEmpty then [] else '.' :: places) ++
    'e' :: (if exponent < 0 then '-' else '+') :: Nat.toDigits 10 exponent.natAbs

def floatText (layout : FloatLayout) (x : Float) : String :=
  match decodeBits x.toBits with
  | (_, .undefined) => layout.undefined
  | (negative, magnitude) =>
    let body : List Char :=
      match magnitude with
      | .undefined => []
      | .infinite => layout.infinite.toList
      | .finite 0 _ _ => "0.0".toList
      | .finite mantissa exponent narrow =>
        let shown := shortest mantissa exponent narrow
        let digits := Nat.toDigits 10 shown.digits
        let point := digits.length + shown.exponent
        match layout.positional? with
        | some (least, greatest) =>
          if least ≤ point - 1 ∧ point - 1 ≤ greatest then positionalText digits point
          else exponentText digits point
        | none => positionalText digits point
    String.ofList (if negative then '-' :: body else body)

end DepositGate.Number
