import DepositGate.Text.Character
import DepositGate.Time.Instant

/-!
# Reading instants

A date, a `T` or a blank, a time of day and an offset from the universal time. Blanks are allowed around
most parts, and years may have a sign and then any number of digits.
-/

namespace DepositGate.Time.Instant

def maxInt64 : Nat := 0x7fffffffffffffff

def isDigit (c : Char) : Bool :=
  '0' ≤ c && c ≤ '9'

def digitsValue (digits : List Char) : Nat :=
  digits.foldl (fun n c ↦ 10 * n + (c.toNat - 48)) 0

def readNumber (width : Nat) (cs : List Char) : Except Fault (Nat × List Char) :=
  let digits := (cs.take width).takeWhile isDigit
  if cs.isEmpty then .error .tooShort
  else if digits.isEmpty then .error .invalid
  else if maxInt64 < digitsValue digits then .error .outOfRange
  else .ok (digitsValue digits, cs.drop digits.length)

def readBounded (least greatest : Nat) (cs : List Char) : Except Fault (Nat × List Char) := do
  let (n, rest) ← readNumber 2 (Text.trimStart cs)
  if n < least ∨ greatest < n then .error .outOfRange
  .ok (n, rest)

/-- A year: up to four digits, or a sign and any number of digits. -/
def readYear (cs : List Char) : Except Fault (Int × List Char) := do
  let (year, rest) ←
    match Text.trimStart cs with
    | '-' :: rest => (readNumber rest.length rest).map fun (n, rest) ↦ (-(n : Int), rest)
    | '+' :: rest => (readNumber rest.length rest).map fun (n, rest) ↦ ((n : Int), rest)
    | rest => (readNumber 4 rest).map fun (n, rest) ↦ ((n : Int), rest)
  if year < -0x80000000 ∨ 0x7fffffff < year then .error .outOfRange
  .ok (year, rest)

def readSeparator (separator : Char) (cs : List Char) : Except Fault (List Char) :=
  match Text.trimStart cs with
  | [] => .error .tooShort
  | c :: rest => if c = separator then .ok rest else .error .invalid

/-- The nanoseconds of a fraction of a second; digits after the ninth are passed over. -/
def readFraction (cs : List Char) : Except Fault (Nat × List Char) :=
  match cs with
  | '.' :: rest => do
    let (n, after) ← readNumber 9 rest
    let places := rest.length - after.length
    .ok (n * Nat.pow 10 (9 - places), after.dropWhile isDigit)
  | _ => .ok (0, cs)

/-- Two digits, of which the first is at most `5` if `sexagesimal`. -/
def readPair (sexagesimal : Bool) (cs : List Char) : Except Fault (Nat × List Char) :=
  match cs with
  | [] => .error .tooShort
  | [c] => .error (if c.toNat < 128 then .tooShort else .invalid)
  | c :: d :: rest =>
    if !(isDigit c && isDigit d) then .error .invalid
    else if sexagesimal && '5' < c then .error .outOfRange
    else .ok (digitsValue [c, d], rest)

/-- Seconds east of the universal time: `Z`, `UTC`, or a sign, hours and minutes. -/
def readOffset (cs : List Char) : Except Fault (Int × List Char) := do
  let digits (sign : Int) (cs : List Char) : Except Fault (Int × List Char) := do
    let (hours, rest) ← readPair false cs
    let (minutes, rest) ← readPair true (rest.dropWhile fun c ↦ c == ':' || Text.isBlank c)
    .ok (sign * (hours * 3600 + minutes * 60 : Nat), rest)
  match cs with
  | u :: t :: c :: rest =>
    if [u, t, c].map Char.toUpper = ['U', 'T', 'C'] then return (0, rest)
  | _ => pure ()
  match cs with
  | [] => .error .tooShort
  | c :: rest =>
    if c = 'Z' ∨ c = 'z' then .ok (0, rest)
    else if c = '+' then digits 1 rest
    else if c = '-' ∨ c = '−' then digits (-1) rest
    else .error .invalid

/-- The instant of a local date and time with an offset from the universal time. The sixtieth second
of a minute is a leap second. -/
def ofParts (date : Date) (hour minute second nanos : Nat) (offset : Int) : Except Fault Instant := do
  if !date.isValid then .error .outOfRange
  if offset ≤ -secondsPerDay ∨ secondsPerDay ≤ offset then .error .outOfRange
  let clock := hour * 3600 + minute * 60 + min second 59
  let seconds := date.toDays * secondsPerDay + clock - offset
  let first := Date.toDays ⟨yearRange.1, 1, 1⟩
  let last := Date.toDays ⟨yearRange.2, 12, 31⟩
  let day := seconds / secondsPerDay
  if day < first ∨ last < day then .error .impossible
  .ok ⟨seconds, if second = 60 then 1000000000 + nanos else nanos⟩

def read (s : String) : Except Fault Instant := do
  let (year, rest) ← readYear s.toList
  let rest ← readSeparator '-' rest
  let (month, rest) ← readBounded 1 12 rest
  let rest ← readSeparator '-' rest
  let (day, rest) ← readBounded 1 31 rest
  let rest ←
    match rest with
    | [] => .error .tooShort
    | c :: rest => if c = 'T' ∨ c = 't' ∨ c = ' ' then .ok rest else .error .invalid
  let (hour, rest) ← readBounded 0 23 rest
  let rest ← readSeparator ':' rest
  let (minute, rest) ← readBounded 0 59 rest
  let rest ← readSeparator ':' rest
  let (second, rest) ← readBounded 0 60 rest
  let (nanos, rest) ← readFraction rest
  let (offset, rest) ← readOffset (Text.trimStart rest)
  if !(Text.trimStart rest).isEmpty then .error .tooLong
  ofParts ⟨year, month, day⟩ hour minute second nanos offset

end DepositGate.Time.Instant
