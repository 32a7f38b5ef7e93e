import DepositGate.Json.Fault
import DepositGate.Text.Utf8

/-!
# The parts of a JSON text

Readers for blanks, words, numbers and strings, and for a value that is only passed over. Each fault
has the place at which it is noticed.
-/

namespace DepositGate.Json

/-! ## Blanks and words -/

def isBlank (b : UInt8) : Bool :=
  b == 0x20 || b == 0x0A || b == 0x09 || b == 0x0D

def skipBlanks (bytes : List UInt8) : List UInt8 :=
  bytes.dropWhile isBlank

def readWord : (word : List UInt8) → List UInt8 → Except Fault (List UInt8)
  | [], rest => .ok rest
  | _ :: _, [] => .error (.before [] .endInValue)
  | w :: word, b :: rest =>
    if w == b then readWord word rest else .error (.before rest .expectedIdentifier)

/-! ## Numbers -/

/-- A number as it is written: an integer of 64 bits, or a floating-point number. -/
inductive Numeral where
  | int (n : Int)
  | float (x : Float)

def isDigit (b : UInt8) : Bool :=
  0x30 ≤ b && b ≤ 0x39

def digitValue (b : UInt8) : Nat :=
  b.toNat - 0x30

def maxSignificand : Nat := 0xffffffffffffffff

def maxExponent : Nat := 0x7fffffff

/-- Adds digits to a significand as long as it does not exceed its limit; the digits after that are
left. -/
def extendSignificand (significand : Nat) : List UInt8 → Nat × List UInt8
  | [] => (significand, [])
  | b :: rest =>
    if isDigit b ∧ 10 * significand + digitValue b ≤ maxSignificand then
      extendSignificand (10 * significand + digitValue b) rest
    else (significand, b :: rest)

/-- The double nearest to `x * 10 ^ exponent`, up to the rounding of each step; none beyond the finite
doubles. -/
def scaleFloat? (x : Float) (exponent : Int) : Option Float :=
  if exponent.natAbs ≤ 308 then
    let power := Float.ofScientific 1 false exponent.natAbs
    if 0 ≤ exponent then
      let scaled := x * power
      if scaled.isInf then none else some scaled
    else some (x / power)
  else if x == 0.0 then some x
  else if 0 ≤ exponent then none
  else scaleFloat? (x / 1e308) (exponent + 308)
termination_by exponent.natAbs
decreasing_by omega

def floatOf (negative : Bool) (significand : Nat) (exponent : Int) : Reader Numeral := fun rest ↦
  match scaleFloat? (Float.ofNat significand) exponent with
  | none => .error (.before rest .numberOutOfRange)
  | some x => .ok (.float (if negative then -x else x), rest)

def readExponent (negative : Bool) (significand : Nat) (exponent : Int) : Reader Numeral := fun bytes ↦
  let (down, digits) :=
    match bytes with
    | 0x2B :: rest => (false, rest)
    | 0x2D :: rest => (true, rest)
    | rest => (false, rest)
  match digits with
  | [] => .error (.before [] .endInValue)
  | b :: rest =>
    if !isDigit b then .error (.before rest .invalidNumber)
    else
      let (shown, after) := digitsUpTo (digitValue b) rest
      match after with
      | c :: more =>
        if isDigit c then
          if significand != 0 && !down then .error (.before more .numberOutOfRange)
          else .ok (.float (if negative then -0.0 else 0.0), more.dropWhile isDigit)
        else floatOf negative significand (if down then exponent - shown else exponent + shown) after
      | [] => floatOf negative significand (if down then exponent - shown else exponent + shown) after
where
  digitsUpTo (n : Nat) : List UInt8 → Nat × List UInt8
    | [] => (n, [])
    | b :: rest =>
      if isDigit b ∧ 10 * n + digitValue b ≤ maxExponent then digitsUpTo (10 * n + digitValue b) rest
      else (n, b :: rest)

def opensExponent (b : UInt8) : Bool :=
  b == 0x65 || b == 0x45

def readScale (negative : Bool) (significand : Nat) (exponent : Int) : Reader Numeral := fun bytes ↦
  match bytes with
  | b :: rest =>
    if opensExponent b then readExponent negative significand exponent rest
    else floatOf negative significand exponent bytes
  | [] => floatOf negative significand exponent bytes

def readPlaces (negative : Bool) (significand : Nat) (exponent : Int) : Reader Numeral := fun bytes ↦
  let (extended, after) := extendSignificand significand bytes
  let places := bytes.length - after.length
  match after with
  | [] =>
    if places = 0 then .error (.next [] .endInValue)
    else floatOf negative extended (exponent - places) []
  | b :: _ =>
    if isDigit b then readScale negative extended (exponent - places) (after.dropWhile isDigit)
    else if places = 0 then .error (.next after .invalidNumber)
    else readScale negative extended (exponent - places) after

/-- Reads what follows the whole digits of a number, of which `dropped` did not fit the significand. -/
def readFraction (negative : Bool) (significand dropped : Nat) : Reader Numeral := fun bytes ↦
  match bytes with
  | 0x2E :: rest => readPlaces negative significand dropped rest
  | b :: _ =>
    if opensExponent b ∨ dropped ≠ 0 then readScale negative significand dropped bytes
    else integer bytes
  | [] => if dropped ≠ 0 then floatOf negative significand dropped [] else integer bytes
where
  integer : Reader Numeral := fun rest ↦
    if !negative then .ok (.int significand, rest)
    else if significand = 0 ∨ 0x8000000000000000 < significand then
      .ok (.float (-(Float.ofNat significand)), rest)
    else .ok (.int (-(significand : Int)), rest)

def readUnsigned (negative : Bool) : Reader Numeral
  | [] => .error (.before [] .endInValue)
  | b :: rest =>
    if b == 0x30 then
      match rest with
      | c :: _ =>
        if isDigit c then .error (.next rest .invalidNumber) else readFraction negative 0 0 rest
      | [] => readFraction negative 0 0 rest
    else if isDigit b then
      let (significand, after) := extendSignificand (digitValue b) rest
      let dropped := (after.takeWhile isDigit).length
      readFraction negative significand dropped (after.drop dropped)
    else .error (.before rest .invalidNumber)

def readNumeral : Reader Numeral
  | 0x2D :: rest => readUnsigned true rest
  | bytes => readUnsigned false bytes

/-! ## Strings -/

def codePointBytes (n : Nat) : List UInt8 :=
  String.utf8EncodeChar (Char.ofNat n)

def readHex : Reader Nat
  | a :: b :: c :: d :: rest =>
    match Text.hexByteValue? a, Text.hexByteValue? b, Text.hexByteValue? c, Text.hexByteValue? d with
    | some p, some q, some r, some s => .ok (((p * 16 + q) * 16 + r) * 16 + s, rest)
    | _, _, _, _ => .error (.before rest .invalidEscape)
  | _ => .error (.before [] .endInString)

/-- Reads the digits of an escaped code point; one beyond sixteen bits takes a pair of surrogates. -/
def readCodePoint : Reader (List UInt8) := fun bytes ↦ do
  let (n, rest) ← readHex bytes
  if n < 0xD800 ∨ 0xDFFF < n then .ok (codePointBytes n, rest)
  else if 0xDC00 ≤ n then .error (.before rest .loneSurrogate)
  else
    match rest with
    | [] => .error (.before [] .endInString)
    | b :: rest =>
      if b != 0x5C then .error (.before rest .endOfEscape)
      else
        match rest with
        | [] => .error (.before [] .endInString)
        | u :: rest =>
          if u != 0x75 then .error (.before rest .endOfEscape)
          else
            let (low, rest) ← readHex rest
            if low < 0xDC00 ∨ 0xDFFF < low then .error (.before rest .loneSurrogate)
            else .ok (codePointBytes ((n - 0xD800) * 0x400 + (low - 0xDC00) + 0x10000), rest)

def readEscape : Reader (List UInt8)
  | [] => .error (.before [] .endInString)
  | b :: rest =>
    if b == 0x22 || b == 0x5C || b == 0x2F then .ok ([b], rest)
    else if b == 0x62 then .ok ([0x08], rest)
    else if b == 0x66 then .ok ([0x0C], rest)
    else if b == 0x6E then .ok ([0x0A], rest)
    else if b == 0x72 then .ok ([0x0D], rest)
    else if b == 0x74 then .ok ([0x09], rest)
    else if b == 0x75 then readCodePoint rest
    else .error (.before rest .invalidEscape)

def isPlain (b : UInt8) : Bool :=
  0x20 ≤ b && b != 0x22 && b != 0x5C

/-- Reads the bytes of a string up to its closing quote, behind the bytes in `seen` (latest first).
Every turn takes a byte at least, so `fuel` bytes are read in as many turns. -/
def readBytes : (fuel : Nat) → (seen : List UInt8) → Reader (List UInt8)
  | 0, _, _ => .error (.before [] .endInString)
  | _ + 1, _, [] => .error (.before [] .endInString)
  | fuel + 1, seen, b :: rest =>
    if isPlain b then readBytes fuel (b :: seen) rest
    else if b == 0x22 then .ok (seen.reverse, rest)
    else if b == 0x5C then
      match readEscape rest with
      | .error f => .error f
      | .ok (escaped, rest) => readBytes fuel (escaped.reverse ++ seen) rest
    else .error (.before rest .controlCharacter)

/-- Reads a string behind its opening quote. Ill-formed bytes are noticed at the end of the string, and
their place is counted back from there by the bytes of the string as read, in which an escape is shorter
than as written. -/
def readString : Reader String := fun bytes ↦ do
  let (found, rest) ← readBytes (bytes.length + 1) [] bytes
  match Text.ofUtf8? found with
  | some s => .ok (s, rest)
  | none =>
    .error ⟨.invalidCodePoint, rest.length + (found.length - Text.wellFormedFrom 0 found)⟩

/-! ## Values passed over -/

def skipString : (fuel : Nat) → List UInt8 → Except Fault (List UInt8)
  | 0, _ => .error (.before [] .endInString)
  | _ + 1, [] => .error (.before [] .endInString)
  | fuel + 1, b :: rest =>
    if isPlain b then skipString fuel rest
    else if b == 0x22 then .ok rest
    else if b == 0x5C then
      match rest with
      | [] => .error (.before [] .endInString)
      | e :: rest =>
        if e == 0x75 then
          match readHex rest with
          | .error f => .error f
          | .ok (_, rest) => skipString fuel rest
        else if e == 0x22 || e == 0x5C || e == 0x2F || e == 0x62 || e == 0x66 || e == 0x6E ||
            e == 0x72 || e == 0x74 then
          skipString fuel rest
        else .error (.before rest .invalidEscape)
    else .error (.before (b :: rest) .controlCharacter)

def skipExponent (bytes : List UInt8) : Except Fault (List UInt8) :=
  let digits :=
    match bytes with
    | b :: rest => if b == 0x2B || b == 0x2D then rest else bytes
    | [] => []
  match digits with
  | [] => .error (.before [] .invalidNumber)
  | b :: rest =>
    if isDigit b then .ok (rest.dropWhile isDigit) else .error (.before rest .invalidNumber)

def skipUnsigned (bytes : List UInt8) : Except Fault (List UInt8) := do
  let whole ←
    match bytes with
    | [] => .error (.before [] .invalidNumber)
    | b :: rest =>
      if b == 0x30 then
        if (rest.head?.map isDigit).getD false then .error (.next rest .invalidNumber) else .ok rest
      else if isDigit b then .ok (rest.dropWhile isDigit)
      else .error (.before rest .invalidNumber)
  match whole with
  | 0x2E :: places =>
    let after := places.dropWhile isDigit
    if after.length = places.length then .error (.next after .invalidNumber)
    else
      match after with
      | b :: rest => if opensExponent b then skipExponent rest else .ok after
      | [] => .ok after
  | b :: rest => if opensExponent b then skipExponent rest else .ok whole
  | [] => .ok whole

inductive Frame where
  | array
  | object
deriving DecidableEq, Repr

def Frame.expectedComma : Frame → Cause
  | array => .expectedCommaOrBracket
  | object => .expectedCommaOrBrace

def Frame.unended : Frame → Cause
  | array => .endInArray
  | object => .endInObject

def Frame.closer : Frame → UInt8
  | array => 0x5D
  | object => 0x7D

def skipScalar (fuel : Nat) : List UInt8 → Except Fault (List UInt8)
  | [] => .error (.next [] .endInValue)
  | b :: rest =>
    if b == 0x6E then readWord (Text.utf8 "ull") rest
    else if b == 0x74 then readWord (Text.utf8 "rue") rest
    else if b == 0x66 then readWord (Text.utf8 "alse") rest
    else if b == 0x2D then skipUnsigned rest
    else if isDigit b then skipUnsigned (b :: rest)
    else if b == 0x22 then skipString fuel rest
    else .error (.next (b :: rest) .expectedValue)

def skipName (fuel : Nat) (bytes : List UInt8) : Except Fault (List UInt8) := do
  match skipBlanks bytes with
  | 0x22 :: rest =>
    let rest ← skipString fuel rest
    match skipBlanks rest with
    | 0x3A :: rest => .ok rest
    | [] => .error (.next [] .endInObject)
    | rest => .error (.next rest .expectedColon)
  | [] => .error (.next [] .endInObject)
  | rest => .error (.next rest .keyNotString)

/-- Leaves the frames that end here. The result is what follows and the frames that are left, or the
frames and the place at which the next value of the innermost one starts. -/
def leaveFrames (bytes : List UInt8) (inner : Frame) : (outer : List Frame) → (full : Bool) →
    Except Fault (List Frame × List UInt8)
  | outer, full =>
    match skipBlanks bytes with
    | [] => .error (.next [] inner.unended)
    | b :: rest =>
      if full && b == 0x2C then .ok (inner :: outer, rest)
      else if b == inner.closer then
        match outer with
        | [] => .ok ([], rest)
        | next :: outer => leaveFrames rest next outer true
      else if full then .error (.next (b :: rest) inner.expectedComma)
      else .ok (inner :: outer, b :: rest)

/-- Passes over the rest of a value inside frames, innermost first. Every turn takes a byte at least. -/
def skipIn : (fuel : Nat) → List Frame → List UInt8 → Except Fault (List UInt8)
  | 0, _, _ => .error (.before [] .endInValue)
  | fuel + 1, frames, bytes => do
    let start := skipBlanks bytes
    let (opened, rest) ←
      match start with
      | 0x5B :: rest => .ok (some Frame.array, rest)
      | 0x7B :: rest => .ok (some Frame.object, rest)
      | _ => (skipScalar fuel start).map fun rest ↦ (none, rest)
    let (frames, rest) ←
      match opened, frames with
      | some frame, _ => leaveFrames rest frame frames false
      | none, [] => .ok ([], rest)
      | none, inner :: outer => leaveFrames rest inner outer true
    match frames with
    | [] => .ok rest
    | .array :: _ => skipIn fuel frames rest
    | .object :: _ =>
      let rest ← skipName fuel rest
      skipIn fuel frames rest

def skipValue (bytes : List UInt8) : Except Fault (List UInt8) :=
  skipIn (bytes.length + 1) [] bytes

end DepositGate.Json
