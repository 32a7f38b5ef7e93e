import Mathlib.Data.Nat.Digits.Lemmas
import DepositGate.Proofs.Json.Strings

/-!
# Integers

The digits of an integer are read back as its value, up to the greatest of 64 bits, where a comma or the end of
what the integer lies in follows.
-/

namespace DepositGate

/-! ## Bytes of ASCII texts -/

namespace Text

theorem utf8_ofList (cs : List Char) : utf8 (String.ofList cs) = cs.flatMap String.utf8EncodeChar := by
  simp [utf8, List.utf8Encode]

theorem utf8_append (s t : String) : utf8 (s ++ t) = utf8 s ++ utf8 t := by
  simp [utf8]

theorem utf8EncodeChar_of_lt {c : Char} (hc : c.toNat < 128) :
    String.utf8EncodeChar c = [UInt8.ofNat c.toNat] := by
  have hcode := Json.codePointBytes_of_lt c.toNat hc
  rwa [Json.codePointBytes, Char.ofNat_toNat] at hcode

theorem utf8_ofList_of_lt {cs : List Char} (hcs : ∀ c ∈ cs, c.toNat < 128) :
    utf8 (String.ofList cs) = cs.map fun c ↦ UInt8.ofNat c.toNat := by
  rw [utf8_ofList]
  induction cs with
  | nil => rfl
  | cons c cs ih =>
      obtain ⟨hc, hrest⟩ := List.forall_mem_cons.mp hcs
      rw [List.flatMap_cons, utf8EncodeChar_of_lt hc, ih hrest]
      rfl

end Text

namespace Json

/-! ## What may follow a value -/

/-- Nothing follows, or a comma or the end of an array or object. -/
def Delimited (rest : List UInt8) : Prop :=
  ∀ b ∈ rest.head?, b = 0x2C ∨ b = 0x5D ∨ b = 0x7D

theorem Delimited.not_digit {rest : List UInt8} (h : Delimited rest) : ∀ b ∈ rest.head?, isDigit b = false := by
  intro b hb
  rcases h b hb with rfl | rfl | rfl <;> rfl

/-! ## Digits -/

def digitByte (c : Char) : UInt8 :=
  UInt8.ofNat c.toNat

theorem toNat_of_isDigit {c : Char} (hc : c.isDigit = true) : 48 ≤ c.toNat ∧ c.toNat ≤ 57 := by
  rw [Char.isDigit, Bool.and_eq_true, decide_eq_true_eq, decide_eq_true_eq] at hc
  exact ⟨UInt32.le_iff_toNat_le.mp hc.1, UInt32.le_iff_toNat_le.mp hc.2⟩

theorem isDigit_digitByte {c : Char} (hc : c.isDigit = true) :
    isDigit (digitByte c) = true ∧ digitValue (digitByte c) = c.toNat - '0'.toNat := by
  obtain ⟨hge, hle⟩ := toNat_of_isDigit hc
  have hbyte : (digitByte c).toNat = c.toNat := by
    rw [digitByte, UInt8.toNat_ofNat']
    omega
  refine ⟨?_, by rw [digitValue, hbyte]; rfl⟩
  simp [isDigit, UInt8.le_iff_toNat_le, hbyte, hge, hle]

theorem le_ofDigitChars (cs : List Char) (n : Nat) : n ≤ Nat.ofDigitChars 10 cs n := by
  induction cs generalizing n with
  | nil => exact Nat.le_refl n
  | cons c cs ih =>
      rw [Nat.ofDigitChars_cons]
      exact Nat.le_trans (by omega) (ih _)

theorem extendSignificand_of_delimited {rest : List UInt8} (hrest : Delimited rest) (n : Nat) :
    extendSignificand n rest = (n, rest) := by
  cases rest with
  | nil => rfl
  | cons b rest =>
      have hdigit := hrest.not_digit b rfl
      simp [extendSignificand, hdigit]

theorem extendSignificand_digits {cs : List Char} (hcs : ∀ c ∈ cs, c.isDigit = true) {rest : List UInt8}
    (hrest : Delimited rest) {n : Nat} (hmax : Nat.ofDigitChars 10 cs n ≤ maxSignificand) :
    extendSignificand n (cs.map digitByte ++ rest) = (Nat.ofDigitChars 10 cs n, rest) := by
  induction cs generalizing n with
  | nil => exact extendSignificand_of_delimited hrest n
  | cons c cs ih =>
      obtain ⟨hc, htail⟩ := List.forall_mem_cons.mp hcs
      obtain ⟨hdigit, hvalue⟩ := isDigit_digitByte hc
      rw [Nat.ofDigitChars_cons] at hmax ⊢
      have hle := (le_ofDigitChars cs _).trans hmax
      rw [List.map_cons, List.cons_append, extendSignificand, if_pos ⟨hdigit, hvalue ▸ hle⟩, hvalue]
      exact ih htail hmax

theorem head?_toDigits_ne_zero {n : Nat} (hn : n ≠ 0) : (Nat.toDigits 10 n).head? ≠ some '0' := by
  induction n using Nat.strongRecOn with
  | ind n ih =>
      by_cases hlt : n < 10
      · have hdigits : ∀ n < 10, n ≠ 0 → [Nat.digitChar n].head? ≠ some '0' := by decide
        rw [Nat.toDigits_of_lt_base hlt]
        exact hdigits n hlt hn
      · rw [Nat.toDigits_of_base_le (by decide) (Nat.not_lt.mp hlt), List.head?_append_of_ne_nil]
        · exact ih (n / 10) (by omega) (by omega)
        · exact Nat.toDigits_ne_nil

def digitBytes (n : Nat) : List UInt8 :=
  (Nat.toDigits 10 n).map digitByte

theorem utf8_toString_nat (n : Nat) : Text.utf8 (toString n) = digitBytes n := by
  rw [Nat.toString_eq_ofList_toDigits, Text.utf8_ofList_of_lt]
  · rfl
  · intro c hc
    have hdigit := toNat_of_isDigit (Nat.isDigit_of_mem_toDigits (by decide) (by decide) hc)
    omega

theorem utf8_toString_int (n : Int) :
    Text.utf8 (toString n) = if n < 0 then 0x2D :: digitBytes n.natAbs else digitBytes n.natAbs := by
  have hminus : Text.utf8 "-" = [0x2D] := by decide +kernel
  cases n with
  | ofNat n =>
      have hnonneg : ¬Int.ofNat n < 0 := Int.not_lt.mpr (Int.natCast_nonneg n)
      rw [if_neg hnonneg]
      exact utf8_toString_nat n
  | negSucc n =>
      have hrepr : toString (Int.negSucc n) = "-" ++ toString (n + 1) := rfl
      rw [hrepr, Text.utf8_append, hminus, utf8_toString_nat, if_pos (Int.negSucc_lt_zero n)]
      rfl

theorem readFraction_of_delimited (negative : Bool) (n : Nat) {rest : List UInt8} (hrest : Delimited rest) :
    readFraction negative n 0 rest = readFraction.integer negative n rest := by
  cases rest with
  | nil => rfl
  | cons b rest =>
      rcases hrest b rfl with rfl | rfl | rfl <;> rfl

theorem digitByte_bne_zero {c : Char} (hc : c.isDigit = true) (hne : c ≠ '0') :
    (digitByte c == 0x30) = false := by
  rw [beq_eq_false_iff_ne]
  intro heq
  have hsub : c.toNat - '0'.toNat = 0 := by
    rw [← (isDigit_digitByte hc).2, heq]
    rfl
  have hle : '0'.toNat ≤ c.toNat := (toNat_of_isDigit hc).1
  exact hne (Char.toNat_inj.mp (Nat.le_antisymm (Nat.sub_eq_zero_iff_le.mp hsub) hle))

theorem exists_digitBytes_eq_cons (n : Nat) :
    ∃ c cs, digitBytes n = digitByte c :: cs.map digitByte ∧ (∀ d ∈ c :: cs, d.isDigit = true) ∧
      Nat.ofDigitChars 10 cs (digitValue (digitByte c)) = n ∧ (n ≠ 0 → c ≠ '0') := by
  obtain ⟨c, cs, hcs⟩ := List.exists_cons_of_ne_nil (Nat.toDigits_ne_nil (n := n) (b := 10))
  have hall : ∀ d ∈ c :: cs, d.isDigit = true := by
    rw [← hcs]
    exact fun d hd ↦ Nat.isDigit_of_mem_toDigits (by decide) (by decide) hd
  refine ⟨c, cs, by rw [digitBytes, hcs, List.map_cons], hall, ?_, fun hn hzero ↦ ?_⟩
  · have hvalue := Nat.ofDigitChars_ten_toDigits (n := n)
    rw [hcs, Nat.ofDigitChars_cons] at hvalue
    rw [(isDigit_digitByte (hall c List.mem_cons_self)).2]
    simpa using hvalue
  · apply head?_toDigits_ne_zero hn
    rw [hcs, hzero, List.head?_cons]

theorem readUnsigned_digitBytes (negative : Bool) {n : Nat} (hn : n ≤ maxSignificand) {rest : List UInt8}
    (hrest : Delimited rest) :
    readUnsigned negative (digitBytes n ++ rest) = readFraction.integer negative n rest := by
  rw [← readFraction_of_delimited negative n hrest]
  by_cases hzero : n = 0
  · subst hzero
    have hdigits : digitBytes 0 = [0x30] := by decide
    rw [hdigits]
    cases rest with
    | nil => rfl
    | cons b rest => simp [readUnsigned, hrest.not_digit b rfl]
  · obtain ⟨c, cs, hbytes, hall, hvalue, hhead⟩ := exists_digitBytes_eq_cons n
    obtain ⟨hc, hcs⟩ := List.forall_mem_cons.mp hall
    have hnotZero := digitByte_bne_zero hc (hhead hzero)
    have hextend := extendSignificand_digits hcs hrest (hvalue.trans_le hn)
    have hdropped : rest.takeWhile isDigit = [] := by
      cases rest with
      | nil => rfl
      | cons b rest => simp [hrest.not_digit b rfl]
    rw [hvalue] at hextend
    rw [hbytes, List.cons_append]
    simp [readUnsigned, hnotZero, (isDigit_digitByte hc).1, hextend, hdropped]

/-! ## Integers -/

theorem skipBlanks_of_not_isBlank {b : UInt8} (hb : isBlank b = false) (bytes : List UInt8) :
    skipBlanks (b :: bytes) = b :: bytes := by
  simp [skipBlanks, hb]

/-- A byte that is a sign or a digit is no blank. -/
theorem not_isBlank_of_opensNumeral {b : UInt8} (hb : (b == 0x2D || isDigit b) = true) : isBlank b = false := by
  by_contra hblank
  simp only [isBlank, Bool.not_eq_false, Bool.or_eq_true, beq_iff_eq] at hblank
  rcases hblank with ((rfl | rfl) | rfl) | rfl
  all_goals exact absurd hb (by decide)

theorem exists_toString_eq_cons (n : Int) :
    ∃ b bytes, Text.utf8 (toString n) = b :: bytes ∧ (b == 0x2D || isDigit b) = true := by
  obtain ⟨c, cs, hbytes, hall, -⟩ := exists_digitBytes_eq_cons n.natAbs
  have hc := (isDigit_digitByte (hall c List.mem_cons_self)).1
  rw [utf8_toString_int]
  split
  · exact ⟨_, _, rfl, rfl⟩
  · exact ⟨_, _, hbytes, by simp [hc]⟩

theorem readNumeral_of_isDigit {b : UInt8} (hb : isDigit b = true) (bytes : List UInt8) :
    readNumeral (b :: bytes) = readUnsigned false (b :: bytes) := by
  unfold readNumeral
  split
  next rest heq =>
    obtain ⟨rfl, -⟩ := List.cons.inj heq
    cases hb
  next => rfl

theorem readNumeral_toString {n : Int} (hlow : -0x8000000000000000 ≤ n) (hhigh : n ≤ 0xffffffffffffffff)
    {rest : List UInt8} (hrest : Delimited rest) :
    readNumeral (Text.utf8 (toString n) ++ rest) = .ok (.int n, rest) := by
  have hmax : n.natAbs ≤ maxSignificand := by
    rw [maxSignificand]
    omega
  rw [utf8_toString_int]
  split
  next hneg =>
    have hnonzero : ¬(n.natAbs = 0 ∨ 0x8000000000000000 < n.natAbs) := by omega
    have hvalue : -(n.natAbs : Int) = n := by omega
    rw [List.cons_append, readNumeral, readUnsigned_digitBytes true hmax hrest, readFraction.integer,
      if_neg (by decide), if_neg hnonzero, hvalue]
  next hnonneg =>
    have hvalue : (n.natAbs : Int) = n := by omega
    have hunsigned := readUnsigned_digitBytes false hmax hrest
    obtain ⟨c, cs, hbytes, hall, -⟩ := exists_digitBytes_eq_cons n.natAbs
    rw [hbytes, List.cons_append] at hunsigned ⊢
    rw [readNumeral_of_isDigit (isDigit_digitByte (hall c List.mem_cons_self)).1, hunsigned,
      readFraction.integer, if_pos (by decide), hvalue]

/-- An integer between two bounds of 64 bits is read back from its text. -/
theorem readInteger_toString (expected : String) {least greatest n : Int} (hleast : -0x8000000000000000 ≤ least)
    (hgreatest : greatest ≤ 0xffffffffffffffff) (hn : least ≤ n ∧ n ≤ greatest) {rest : List UInt8}
    (hrest : Delimited rest) :
    readInteger expected least greatest (Text.utf8 (toString n) ++ rest) = .ok (n, rest) := by
  have hread := readNumeral_toString (hleast.trans hn.1) (hn.2.trans hgreatest) hrest
  obtain ⟨b, bytes, hbytes, hstart⟩ := exists_toString_eq_cons n
  rw [hbytes, List.cons_append] at hread ⊢
  have hskip := skipBlanks_of_not_isBlank (not_isBlank_of_opensNumeral hstart) (bytes ++ rest)
  simp only [readInteger, hskip, hstart, if_true, hread, if_pos hn]

theorem readNat64_toString {n : Nat} (hn : n ≤ 0xffffffffffffffff) {rest : List UInt8} (hrest : Delimited rest) :
    readNat64 (Text.utf8 (toString (n : Int)) ++ rest) = .ok (n, rest) := by
  rw [readNat64, readInteger_toString "u64" (by decide) (by decide) (by omega) hrest]
  rfl

theorem readInt64_toString {n : Int} (hlow : -0x8000000000000000 ≤ n) (hhigh : n ≤ 0x7fffffffffffffff)
    {rest : List UInt8} (hrest : Delimited rest) :
    readInt64 (Text.utf8 (toString n) ++ rest) = .ok (n, rest) :=
  readInteger_toString "i64" (by decide) (by decide) ⟨hlow, hhigh⟩ hrest

end Json

end DepositGate
