import Mathlib.Data.List.GetD
import DepositGate.Base58
import DepositGate.Proofs.Number.Radix

/-!
# Texts in base58

Every byte list has one text, and every text of base58 digits is that of one byte list. So
`decode?_eq_some_iff`: a text stands for some bytes exactly if it is their text.
-/

namespace DepositGate.Base58

open Number (rebase rebase_rebase lt_of_mem_rebase eq_zero_of_mem_takeWhile)

/-! ## Digits -/

theorem length_alphabet : alphabet.length = 58 := by decide

theorem nodup_alphabet : alphabet.Nodup := by decide

theorem digitChar_eq_getElem {v : Nat} (hv : v < alphabet.length) : digitChar v = alphabet[v] :=
  List.getD_eq_getElem alphabet '1' hv

theorem digitValue?_eq_some_iff {c : Char} {v : Nat} :
    digitValue? c = some v ↔ v < 58 ∧ digitChar v = c := by
  rw [digitValue?, List.findIdx?_eq_some_iff_getElem, ← length_alphabet]
  constructor
  · rintro ⟨hv, hc, -⟩
    refine ⟨hv, ?_⟩
    rw [digitChar_eq_getElem hv]
    exact beq_iff_eq.mp hc
  · rintro ⟨hv, hc⟩
    rw [digitChar_eq_getElem hv] at hc
    refine ⟨hv, beq_iff_eq.mpr hc, ?_⟩
    intro j hj hother
    have heq : alphabet[j] = alphabet[v] := (beq_iff_eq.mp hother).trans hc.symm
    have hindex := (List.Nodup.getElem_inj_iff nodup_alphabet).mp heq
    omega

theorem digitValues?_cons (c : Char) (cs : List Char) :
    digitValues? (c :: cs) = (digitValue? c).bind fun v ↦ (digitValues? cs).map (v :: ·) := by
  unfold digitValues?
  rw [List.mapM_cons]
  cases digitValue? c with
  | none => rfl
  | some v => cases cs.mapM digitValue? <;> rfl

theorem digitValues?_eq_some_iff {cs : List Char} {values : List Nat} :
    digitValues? cs = some values ↔ (∀ v ∈ values, v < 58) ∧ values.map digitChar = cs := by
  induction cs generalizing values with
  | nil =>
      constructor
      · rintro ⟨⟩
        simp
      · rintro ⟨-, hmap⟩
        rw [List.map_eq_nil_iff.mp hmap]
        rfl
  | cons c cs ih =>
      rw [digitValues?_cons, Option.bind_eq_some_iff]
      constructor
      · rintro ⟨v, hv, hvalues⟩
        obtain ⟨rest, hrest, rfl⟩ := Option.map_eq_some_iff.mp hvalues
        obtain ⟨hlt, rfl⟩ := digitValue?_eq_some_iff.mp hv
        obtain ⟨hlts, rfl⟩ := ih.mp hrest
        exact ⟨List.forall_mem_cons.mpr ⟨hlt, hlts⟩, rfl⟩
      · rintro ⟨hlt, hmap⟩
        obtain ⟨v, rest, rfl, hv, hrest⟩ := List.map_eq_cons_iff.mp hmap
        obtain ⟨hlt, hlts⟩ := List.forall_mem_cons.mp hlt
        refine ⟨v, digitValue?_eq_some_iff.mpr ⟨hlt, hv⟩, ?_⟩
        rw [ih.mpr ⟨hlts, hrest⟩, Option.map_some]

theorem digitValue?_eq_none_iff {c : Char} : digitValue? c = none ↔ c ∉ alphabet := by
  rw [digitValue?, List.findIdx?_eq_none_iff]
  simp only [beq_eq_false_iff_ne]
  exact ⟨fun h hc ↦ h c hc rfl, fun h other hother heq ↦ h (heq ▸ hother)⟩

theorem digitValues?_eq_none_iff {cs : List Char} :
    digitValues? cs = none ↔ ∃ c ∈ cs, c ∉ alphabet := by
  induction cs with
  | nil => simp [digitValues?]
  | cons c cs ih =>
      rw [digitValues?_cons, List.exists_mem_cons_iff, ← digitValue?_eq_none_iff, ← ih]
      cases digitValue? c <;> simp

/-! ## Bytes -/

theorem map_ofNat_map_toNat (bytes : List UInt8) : (bytes.map UInt8.toNat).map UInt8.ofNat = bytes := by
  rw [List.map_map]
  exact List.map_id'' (fun b ↦ UInt8.ofNat_toNat) bytes

theorem map_toNat_map_ofNat {values : List Nat} (hlt : ∀ v ∈ values, v < 256) :
    (values.map UInt8.ofNat).map UInt8.toNat = values := by
  rw [List.map_map]
  conv_rhs => rw [← List.map_id values]
  exact List.map_congr_left fun v hv ↦ UInt8.toNat_ofNat_of_lt (hlt v hv)

theorem toNat_beq_zero (b : UInt8) : (b.toNat == 0) = (b == 0) := by
  rw [Bool.eq_iff_iff, beq_iff_eq, beq_iff_eq, ← UInt8.toNat_inj, UInt8.toNat_zero]

/-- The bytes of a list are its digits in base 256, and its text shows them in base 58. -/
theorem encode_eq_rebase (bytes : List UInt8) :
    encode bytes = String.ofList ((rebase 256 58 (bytes.map UInt8.toNat)).map digitChar) := by
  have htake : (bytes.map UInt8.toNat).takeWhile (· == 0) =
      (bytes.takeWhile (· == 0)).map UInt8.toNat := by
    rw [List.takeWhile_map]
    simp only [Function.comp_def, toNat_beq_zero]
  have hdrop : (bytes.map UInt8.toNat).dropWhile (· == 0) =
      (bytes.dropWhile (· == 0)).map UInt8.toNat := by
    rw [List.dropWhile_map]
    simp only [Function.comp_def, toNat_beq_zero]
  have hzeros : ((bytes.takeWhile (· == 0)).map UInt8.toNat).map digitChar =
      (bytes.takeWhile (· == 0)).map fun _ ↦ '1' := by
    rw [List.map_map]
    apply List.map_congr_left
    intro b hb
    obtain rfl : b = 0 := by simpa using List.mem_takeWhile_imp hb
    rfl
  rw [encode, rebase, htake, hdrop, List.map_append, hzeros]

theorem decode?_eq_rebase (s : String) :
    decode? s =
      (digitValues? s.toList).map fun values ↦ (rebase 58 256 values).map UInt8.ofNat := by
  rw [decode?]
  congr 1
  funext values
  have hzeros : (values.takeWhile (· == 0)).map UInt8.ofNat =
      (values.takeWhile (· == 0)).map fun _ ↦ 0 := by
    apply List.map_congr_left
    intro v hv
    rw [eq_zero_of_mem_takeWhile hv]
    rfl
  rw [rebase, List.map_append, hzeros]

/-! ## Texts -/

theorem decode?_encode (bytes : List UInt8) : decode? (encode bytes) = some bytes := by
  have hlt : ∀ d ∈ bytes.map UInt8.toNat, d < 256 := by
    intro d hd
    obtain ⟨b, -, rfl⟩ := List.mem_map.mp hd
    exact b.toNat_lt
  have hvalues : digitValues? (encode bytes).toList =
      some (rebase 256 58 (bytes.map UInt8.toNat)) := by
    rw [encode_eq_rebase, String.toList_ofList]
    exact digitValues?_eq_some_iff.mpr ⟨fun v hv ↦ lt_of_mem_rebase (by decide) hv, rfl⟩
  rw [decode?_eq_rebase, hvalues, Option.map_some, rebase_rebase (by decide) (by decide) hlt,
    map_ofNat_map_toNat]

theorem encode_of_decode?_eq_some {s : String} {bytes : List UInt8} (h : decode? s = some bytes) :
    encode bytes = s := by
  rw [decode?_eq_rebase] at h
  obtain ⟨values, hvalues, rfl⟩ := Option.map_eq_some_iff.mp h
  obtain ⟨hlt, hchars⟩ := digitValues?_eq_some_iff.mp hvalues
  rw [encode_eq_rebase, map_toNat_map_ofNat fun v hv ↦ lt_of_mem_rebase (by decide) hv,
    rebase_rebase (by decide) (by decide) hlt, hchars, String.ofList_toList]

/-- A text stands for some bytes exactly if it is their text. -/
theorem decode?_eq_some_iff {s : String} {bytes : List UInt8} :
    decode? s = some bytes ↔ encode bytes = s := by
  constructor
  · exact encode_of_decode?_eq_some
  · rintro rfl
    exact decode?_encode bytes

/-- A text stands for no bytes exactly if one of its characters is no digit. -/
theorem decode?_eq_none_iff {s : String} : decode? s = none ↔ ∃ c ∈ s.toList, c ∉ alphabet := by
  rw [decode?_eq_rebase, Option.map_eq_none_iff, digitValues?_eq_none_iff]

end DepositGate.Base58
