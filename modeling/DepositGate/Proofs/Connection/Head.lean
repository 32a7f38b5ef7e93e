import Mathlib.Data.List.Infix
import DepositGate.Connection.Head

/-!
# Looking for the end of a head

The number of matched bytes is all that has to be remembered of the bytes read so far. It is the length
of the longest beginning of the end of a head with which they end, so that the end is found as soon as it
is there, however the bytes are cut into pieces: `scanHeadEnd_cases`.
-/

namespace DepositGate.Connection

variable {read : List UInt8} {b : UInt8} {matched k : Nat}

/-- The longest beginning of the end of a head with which the bytes read so far end, if not all of it. -/
structure Matches (matched : Nat) (read : List UInt8) : Prop where
  lt : matched < headEnd.length
  suffix : headEnd.take matched <:+ read
  greatest : ∀ k < headEnd.length, headEnd.take k <:+ read → k ≤ matched

theorem not_headEnd_infix_nil : ¬headEnd <:+: [] := by
  decide

theorem matches_zero_nil : Matches 0 [] := by
  refine ⟨by decide, List.nil_suffix, fun k hk hsuffix ↦ ?_⟩
  have hlength := congrArg List.length (List.suffix_nil.mp hsuffix)
  rw [List.length_take, List.length_nil] at hlength
  omega

theorem Matches.unique (h : Matches matched read) (h' : Matches k read) : matched = k :=
  Nat.le_antisymm (h'.greatest matched h.lt h.suffix) (h.greatest k h'.lt h'.suffix)

theorem matchByte_le (hlt : matched < headEnd.length) (b : UInt8) :
    matchByte matched b ≤ headEnd.length := by
  unfold matchByte
  split
  · exact hlt
  · split <;> decide

theorem take_succ_suffix_concat_iff (hk : k < headEnd.length) :
    headEnd.take (k + 1) <:+ read ++ [b] ↔ headEnd.take k <:+ read ∧ headEnd[k] = b := by
  rw [List.take_succ_eq_append_getElem hk, List.suffix_concat_iff]
  constructor
  · rintro (hnil | ⟨front, hfront, hsuffix⟩)
    · simp [headEnd] at hnil
    · obtain ⟨rfl, hlast⟩ := List.append_inj' hfront rfl
      exact ⟨hsuffix, List.singleton_inj.mp hlast⟩
  · rintro ⟨hsuffix, rfl⟩
    exact Or.inr ⟨_, rfl, hsuffix⟩

theorem Matches.take_suffix_take (h : Matches matched read) (hk : k < headEnd.length)
    (hsuffix : headEnd.take k <:+ read) : headEnd.take k <:+ headEnd.take matched := by
  apply List.suffix_of_suffix_length_le hsuffix h.suffix
  have hle := h.greatest k hk hsuffix
  have hlt := h.lt
  rw [List.length_take, List.length_take]
  omega

/-- What is matched after one more byte is a beginning of the end, and the bytes end with it. -/
theorem Matches.take_matchByte_suffix (h : Matches matched read) (b : UInt8) :
    headEnd.take (matchByte matched b) <:+ read ++ [b] := by
  unfold matchByte
  split
  next hnext =>
    obtain ⟨hlt, hb⟩ := List.getElem?_eq_some_iff.mp hnext
    exact (take_succ_suffix_concat_iff hlt).mpr ⟨h.suffix, hb⟩
  next =>
    split
    next hfirst =>
      refine (take_succ_suffix_concat_iff (by decide)).mpr ⟨List.nil_suffix, ?_⟩
      exact Option.some.inj hfirst
    next => exact List.nil_suffix

-- The beginnings of the end that are also ends of its beginnings: there are few enough to look at all.
theorem succ_le_matchByte : ∀ matched < headEnd.length, ∀ k, (hk : k < headEnd.length) →
    headEnd.take k <:+ headEnd.take matched → k + 1 ≤ matchByte matched headEnd[k] := by
  decide

/-- No longer beginning of the end is there after one more byte. -/
theorem Matches.le_matchByte (h : Matches matched read) (hk : k ≤ headEnd.length)
    (hsuffix : headEnd.take k <:+ read ++ [b]) : k ≤ matchByte matched b := by
  cases k with
  | zero => exact Nat.zero_le _
  | succ k =>
      obtain ⟨hbefore, rfl⟩ := (take_succ_suffix_concat_iff hk).mp hsuffix
      exact succ_le_matchByte matched h.lt k hk (h.take_suffix_take hk hbefore)

theorem Matches.matchByte_eq_length_iff (h : Matches matched read) :
    matchByte matched b = headEnd.length ↔ headEnd <:+ read ++ [b] := by
  constructor
  · intro hall
    simpa [hall] using h.take_matchByte_suffix b
  · intro hsuffix
    have hle := h.le_matchByte (Nat.le_refl _) (by rwa [List.take_length])
    exact Nat.le_antisymm (matchByte_le h.lt b) hle

theorem Matches.concat (h : Matches matched read) (hb : matchByte matched b ≠ headEnd.length) :
    Matches (matchByte matched b) (read ++ [b]) where
  lt := Nat.lt_of_le_of_ne (matchByte_le h.lt b) hb
  suffix := h.take_matchByte_suffix b
  greatest _ hk hsuffix := h.le_matchByte hk.le hsuffix

/-- The number of matched bytes is a place in the end as long as the end is not found. -/
theorem lt_of_scanHeadEnd_eq_some {bytes : List UInt8} (hlt : matched < headEnd.length)
    (h : scanHeadEnd matched bytes = some k) : k < headEnd.length := by
  induction bytes generalizing matched with
  | nil =>
      obtain rfl := Option.some.inj h
      exact hlt
  | cons b bytes ih =>
      by_cases hall : matchByte matched b = headEnd.length
      · simp [scanHeadEnd, hall] at h
      · refine ih (Nat.lt_of_le_of_ne (matchByte_le hlt b) hall) ?_
        simpa [scanHeadEnd, hall] using h

theorem scanHeadEnd_append (matched : Nat) (bytes rest : List UInt8) :
    scanHeadEnd matched (bytes ++ rest) =
      (scanHeadEnd matched bytes).bind (scanHeadEnd · rest) := by
  induction bytes generalizing matched with
  | nil => rfl
  | cons b bytes ih =>
      by_cases hall : matchByte matched b = headEnd.length
      · simp [scanHeadEnd, hall]
      · simpa [scanHeadEnd, hall] using ih (matchByte matched b)

/-- The end of a head is found exactly if it is in what has been read, with the new bytes. -/
theorem scanHeadEnd_cases (bytes : List UInt8) (h : Matches matched read) (hread : ¬headEnd <:+: read) :
    (scanHeadEnd matched bytes = none ∧ headEnd <:+: read ++ bytes) ∨
      ∃ matched', scanHeadEnd matched bytes = some matched' ∧ ¬headEnd <:+: read ++ bytes ∧
        Matches matched' (read ++ bytes) := by
  induction bytes generalizing matched read with
  | nil =>
      rw [List.append_nil]
      exact Or.inr ⟨matched, rfl, hread, h⟩
  | cons b bytes ih =>
      have hassoc : read ++ b :: bytes = (read ++ [b]) ++ bytes := by simp
      by_cases hall : matchByte matched b = headEnd.length
      · refine Or.inl ⟨by simp [scanHeadEnd, hall], ?_⟩
        rw [hassoc]
        exact (h.matchByte_eq_length_iff.mp hall).isInfix.trans (List.prefix_append _ _).isInfix
      · have hconcat : ¬headEnd <:+: read ++ [b] := by
          rw [List.infix_concat_iff]
          rintro (hsuffix | hinside)
          · exact hall (h.matchByte_eq_length_iff.mpr hsuffix)
          · exact hread hinside
        have hscan : scanHeadEnd matched (b :: bytes) = scanHeadEnd (matchByte matched b) bytes := by
          simp [scanHeadEnd, hall]
        rw [hscan, hassoc]
        exact ih (h.concat hall) hconcat

end DepositGate.Connection
