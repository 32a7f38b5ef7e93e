import Mathlib.Data.List.TakeWhile
import Mathlib.Data.Nat.Digits.Lemmas
import DepositGate.Base58

/-!
# Numbers and their digits

The digits of a number denote it and have no leading zeros, and every such list of digits is that of its
number. So a list of digits is some leading zeros and a number, and it can be written in another base without
loss: `rebase_rebase` says that the way back gives the same list.
-/

namespace DepositGate.Number

variable {base base' : Nat} {digits : List Nat}

theorem digitsOnto_eq_reverse_digits_append (hb : 2 ≤ base) (n : Nat) (tail : List Nat) :
    digitsOnto base n tail = (Nat.digits base n).reverse ++ tail := by
  induction n using Nat.strongRecOn generalizing tail with
  | ind n ih =>
      by_cases hn : n = 0
      · subst hn
        rw [digitsOnto, if_pos (Or.inl rfl), Nat.digits_zero]
        rfl
      · have hlt : n / base < n := Nat.div_lt_self (Nat.pos_of_ne_zero hn) hb
        have hdigits : Nat.digits base n = n % base :: Nat.digits base (n / base) :=
          Nat.digits_of_two_le_of_pos hb (Nat.pos_of_ne_zero hn)
        rw [digitsOnto, if_neg (by omega), ih _ hlt, hdigits]
        simp

theorem toDigits_eq_reverse_digits (hb : 2 ≤ base) (n : Nat) :
    toDigits base n = (Nat.digits base n).reverse := by
  rw [toDigits, digitsOnto_eq_reverse_digits_append hb, List.append_nil]

theorem ofDigits_eq_ofDigits_reverse (base : Nat) (digits : List Nat) :
    ofDigits base digits = Nat.ofDigits base digits.reverse := by
  rw [Nat.ofDigits_eq_foldr, List.foldr_reverse, ofDigits]
  congr 1
  funext n d
  rw [Nat.cast_id, Nat.mul_comm, Nat.add_comm]

/-- The digits of a number denote it. -/
theorem ofDigits_toDigits (hb : 2 ≤ base) (n : Nat) : ofDigits base (toDigits base n) = n := by
  rw [toDigits_eq_reverse_digits hb, ofDigits_eq_ofDigits_reverse, List.reverse_reverse, Nat.ofDigits_digits]

theorem lt_of_mem_toDigits (hb : 2 ≤ base) {n d : Nat} (hd : d ∈ toDigits base n) : d < base := by
  rw [toDigits_eq_reverse_digits hb, List.mem_reverse] at hd
  exact Nat.digits_lt_base hb hd

theorem head?_toDigits_ne_zero (hb : 2 ≤ base) (n : Nat) : (toDigits base n).head? ≠ some 0 := by
  rw [toDigits_eq_reverse_digits hb, List.head?_reverse]
  by_cases hn : n = 0
  · simp [hn]
  · have hne : Nat.digits base n ≠ [] := Nat.digits_ne_nil_iff_ne_zero.mpr hn
    rw [List.getLast?_eq_some_getLast hne]
    intro hlast
    exact Nat.getLast_digit_ne_zero base hn (Option.some.inj hlast)

/-- Digits without leading zeros are those of their number. -/
theorem toDigits_ofDigits (hb : 2 ≤ base) (hlt : ∀ d ∈ digits, d < base)
    (hhead : digits.head? ≠ some 0) : toDigits base (ofDigits base digits) = digits := by
  rw [toDigits_eq_reverse_digits hb, ofDigits_eq_ofDigits_reverse, Nat.digits_ofDigits base hb]
  · exact List.reverse_reverse digits
  · intro d hd
    exact hlt d (List.mem_reverse.mp hd)
  · intro hne hlast
    apply hhead
    rw [← List.getLast?_reverse, List.getLast?_eq_some_getLast hne, hlast]

/-! ## Leading zeros -/

/-- The leading zeros of a list of digits, and the digits in another base of the number behind them. -/
def rebase (base base' : Nat) (digits : List Nat) : List Nat :=
  digits.takeWhile (· == 0) ++ toDigits base' (ofDigits base (digits.dropWhile (· == 0)))

theorem eq_zero_of_mem_takeWhile {d : Nat} (hd : d ∈ digits.takeWhile (· == 0)) : d = 0 := by
  simpa using List.mem_takeWhile_imp hd

theorem head?_dropWhile_ne_zero (digits : List Nat) :
    (digits.dropWhile (· == 0)).head? ≠ some 0 := by
  intro hhead
  have hnot := List.head?_dropWhile_not (fun d : Nat ↦ d == 0) digits
  rw [hhead] at hnot
  simp at hnot

theorem takeWhile_toDigits (hb : 2 ≤ base) (n : Nat) : (toDigits base n).takeWhile (· == 0) = [] := by
  have hhead := head?_toDigits_ne_zero hb n
  cases hdigits : toDigits base n with
  | nil => rfl
  | cons d rest =>
      rw [hdigits] at hhead
      exact List.takeWhile_cons_of_neg (by simpa using hhead)

theorem takeWhile_rebase (hb : 2 ≤ base') (digits : List Nat) :
    (rebase base base' digits).takeWhile (· == 0) = digits.takeWhile (· == 0) := by
  rw [rebase, List.takeWhile_append_of_pos fun d hd ↦ beq_iff_eq.mpr (eq_zero_of_mem_takeWhile hd),
    takeWhile_toDigits hb, List.append_nil]

theorem dropWhile_rebase (hb : 2 ≤ base') (digits : List Nat) :
    (rebase base base' digits).dropWhile (· == 0) =
      toDigits base' (ofDigits base (digits.dropWhile (· == 0))) := by
  have hsplit : (rebase base base' digits).takeWhile (· == 0) ++
      (rebase base base' digits).dropWhile (· == 0) = rebase base base' digits :=
    List.takeWhile_append_dropWhile
  rw [takeWhile_rebase hb] at hsplit
  exact List.append_cancel_left hsplit

theorem lt_of_mem_rebase (hb : 2 ≤ base') {d : Nat} (hd : d ∈ rebase base base' digits) :
    d < base' := by
  rcases List.mem_append.mp hd with hzero | hdigit
  · rw [eq_zero_of_mem_takeWhile hzero]
    omega
  · exact lt_of_mem_toDigits hb hdigit

/-- Digits are the same again after a change of the base and back. -/
theorem rebase_rebase (hb : 2 ≤ base) (hb' : 2 ≤ base') (hlt : ∀ d ∈ digits, d < base) :
    rebase base' base (rebase base base' digits) = digits := by
  have hrest : ∀ d ∈ digits.dropWhile (· == 0), d < base :=
    fun d hd ↦ hlt d ((List.dropWhile_sublist _).mem hd)
  calc
    rebase base' base (rebase base base' digits) =
        digits.takeWhile (· == 0) ++ toDigits base (ofDigits base' (toDigits base'
          (ofDigits base (digits.dropWhile (· == 0))))) := by
      rw [rebase, takeWhile_rebase hb', dropWhile_rebase hb']
    _ = digits.takeWhile (· == 0) ++ digits.dropWhile (· == 0) := by
      rw [ofDigits_toDigits hb', toDigits_ofDigits hb hrest (head?_dropWhile_ne_zero digits)]
    _ = digits := List.takeWhile_append_dropWhile

end DepositGate.Number
