import DepositGate.Throttle.Basic

/-!
# Limiters

A limiter counts the requests of each client in one window of a throttle and admits no more than its cap.
-/

namespace DepositGate

structure Limiter where
  max : Nat
  /-- The clients with at least one request, and the number of their requests. -/
  counts : List (String × Nat)
deriving DecidableEq, Repr

namespace Limiter

/-- The length in seconds that no window exceeds: a thousand years of 365 days. -/
def maxWindowSecs : Nat := 1000 * 365 * 86400

def windowTooLong : String := "time_to_live is longer than 1000 years"

def ofThrottle? (t : Throttle) : Option Limiter :=
  if maxWindowSecs < t.windowSecs then none else some ⟨t.max, []⟩

def count (l : Limiter) (client : String) : Nat :=
  ((l.counts.find? (·.1 == client)).map (·.2)).getD 0

def increment (client : String) : List (String × Nat) → List (String × Nat)
  | [] => [(client, 1)]
  | (other, n) :: counts =>
    if other = client then (other, n + 1) :: counts else (other, n) :: increment client counts

/-- Counts a request of a client; it is admitted unless as many as the cap came before it. -/
def check (l : Limiter) (client : String) : Bool × Limiter :=
  (l.count client < l.max, ⟨l.max, increment client l.counts⟩)

theorem find?_increment (client other : String) (counts : List (String × Nat)) :
    (((increment client counts).find? (·.1 == other)).map (·.2)).getD 0 =
      (((counts.find? (·.1 == other)).map (·.2)).getD 0) + if other = client then 1 else 0 := by
  induction counts with
  | nil =>
      by_cases h : client = other
      · simp [increment, h]
      · simp [increment, h, Ne.symm h]
  | cons entry counts ih =>
    obtain ⟨name, n⟩ := entry
    by_cases hc : name = client
    · by_cases ho : name = other
      · subst hc ho
        simp [increment]
      · subst hc
        simp [increment, ho, Ne.symm ho]
    · by_cases ho : name = other
      · subst ho
        simp [increment, hc]
      · simp [increment, hc, ho, ih]

/-- A request adds one to the count of its client and nothing to the others. -/
theorem count_check (l : Limiter) (client other : String) :
    (l.check client).2.count other = l.count other + if other = client then 1 else 0 :=
  find?_increment client other l.counts

end Limiter

end DepositGate
