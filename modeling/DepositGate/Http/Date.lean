import DepositGate.Time.Instant

/-!
# Dates in headers

Instants in headers are given in whole seconds of the universal time. They are written in one form and
read in three. A date is read only if it exists and falls on the day of the week that it names.
-/

namespace DepositGate.Http.Date

def dayNames : List String := ["Mon", "Tue", "Wed", "Thu", "Fri", "Sat", "Sun"]

def longDayNames : List String :=
  ["Monday", "Tuesday", "Wednesday", "Thursday", "Friday", "Saturday", "Sunday"]

def monthNames : List String :=
  ["Jan", "Feb", "Mar", "Apr", "May", "Jun", "Jul", "Aug", "Sep", "Oct", "Nov", "Dec"]

/-- The day of the week, from Monday as 0, that lies a number of days after the first day of 1970, which
was a Thursday. -/
def weekday (days : Int) : Nat :=
  ((days + 3) % 7).toNat

def write (second : Int) : String :=
  let days := second / Time.secondsPerDay
  let d := Time.Date.ofDays days
  let day := dayNames.getD (weekday days) ""
  let month := monthNames.getD (d.month - 1) ""
  day ++ ", " ++ Time.padded 2 d.day ++ " " ++ month ++ " " ++ Time.padded 4 d.year.toNat ++ " " ++
    (Time.Instant.clockText ⟨second, 0⟩) ++ " GMT"

/-! ## Reading -/

def number? (cs : List Char) : Option Nat :=
  if cs.all Char.isDigit then some (cs.foldl (fun n c ↦ 10 * n + (c.toNat - 48)) 0) else none

def month? (cs : List Char) : Option Nat :=
  (monthNames.findIdx? (·.toList == cs)).map (· + 1)

def weekday? (names : List String) (behind : String) (cs : List Char) : Option Nat :=
  names.findIdx? fun name ↦ (name ++ behind).toList.isPrefixOf cs

def second? (day : Nat) (date : Time.Date) (hour minute second : Nat) : Option Int :=
  let days := date.toDays
  if date.year < 1970 ∨ 9999 < date.year ∨ !date.isValid ∨ weekday days ≠ day ∨ 23 < hour ∨
      59 < minute ∨ 59 < second then none
  else some (days * Time.secondsPerDay + (hour * 3600 + minute * 60 + second : Nat))

def slice (cs : List Char) (start stop : Nat) : List Char :=
  (cs.take stop).drop start

def clock? (cs : List Char) (start : Nat) : Option (Nat × Nat × Nat) := do
  if slice cs (start + 2) (start + 3) ≠ [':'] ∨ slice cs (start + 5) (start + 6) ≠ [':'] then none
  let hour ← number? (slice cs start (start + 2))
  let minute ← number? (slice cs (start + 3) (start + 5))
  let second ← number? (slice cs (start + 6) (start + 8))
  pure (hour, minute, second)

/-- Reads the usual form, as in `Sun, 06 Nov 1994 08:49:37 GMT`. -/
def readFixed? (cs : List Char) : Option Int := do
  if cs.length ≠ 29 ∨ slice cs 25 29 ≠ " GMT".toList ∨ slice cs 16 17 ≠ [' '] then none
  let (hour, minute, second) ← clock? cs 17
  let day ← number? (slice cs 5 7)
  if slice cs 7 8 ≠ [' '] ∨ slice cs 11 12 ≠ [' '] then none
  let month ← month? (slice cs 8 11)
  let year ← number? (slice cs 12 16)
  let weekday ← weekday? dayNames ", " cs
  second? weekday ⟨year, month, day⟩ hour minute second

/-- Reads the form with long names, as in `Sunday, 06-Nov-94 08:49:37 GMT`. Years below 70 are of the
century from 2000. -/
def readLong? (cs : List Char) : Option Int := do
  let weekday ← weekday? longDayNames ", " cs
  let rest := cs.drop ((longDayNames.getD weekday "").length + 2)
  if rest.length ≠ 22 ∨ slice rest 18 22 ≠ " GMT".toList then none
  let (hour, minute, second) ← clock? rest 10
  let day ← number? (slice rest 0 2)
  if slice rest 2 3 ≠ ['-'] ∨ slice rest 6 7 ≠ ['-'] then none
  let month ← month? (slice rest 3 6)
  let year ← number? (slice rest 7 9)
  second? weekday ⟨if year < 70 then year + 2000 else year + 1900, month, day⟩ hour minute second

/-- Reads the form with the year last, as in `Sun Nov  6 08:49:37 1994`. -/
def readYearLast? (cs : List Char) : Option Int := do
  if cs.length ≠ 24 ∨ slice cs 10 11 ≠ [' '] ∨ slice cs 19 20 ≠ [' '] then none
  let (hour, minute, second) ← clock? cs 11
  let day ← number? (if slice cs 8 9 = [' '] then slice cs 9 10 else slice cs 8 10)
  if slice cs 7 8 ≠ [' '] then none
  let month ← month? (slice cs 4 7)
  let year ← number? (slice cs 20 24)
  let weekday ← weekday? dayNames " " cs
  second? weekday ⟨year, month, day⟩ hour minute second

def isBlank (c : Char) : Bool :=
  c == ' ' || ('\t' ≤ c && c ≤ '\r')

def read? (s : String) : Option Int :=
  let cs := ((s.toList.dropWhile isBlank).reverse.dropWhile isBlank).reverse
  if !cs.all (·.toNat < 128) then none
  else ((readFixed? cs).orElse fun _ ↦ readLong? cs).orElse fun _ ↦ readYearLast? cs

end DepositGate.Http.Date
