import DepositGate.Json.Basic
import DepositGate.Json.Record

/-!
# Texts between quotes

Every byte of a text is read back from what is written for it, whether it stands for itself or is escaped.
So a text is read back from its JSON text, whatever its characters.
-/

namespace DepositGate.Json

/-! ## Escapes -/

theorem hexByteValue?_hexPair : ∀ n < 32,
    Text.hexByteValue? (UInt8.ofNat (Nat.digitChar (n / 16)).toNat) = some (n / 16) ∧
      Text.hexByteValue? (UInt8.ofNat (Nat.digitChar (n % 16)).toNat) = some (n % 16) := by
  decide

theorem codePointBytes_of_lt : ∀ n < 128, codePointBytes n = [UInt8.ofNat n] := by
  decide

theorem readCodePoint_hexPair {b : UInt8} (hb : b < 0x20) (rest : List UInt8) :
    readCodePoint (0x30 :: 0x30 :: (Text.hexPair b).map (fun c ↦ UInt8.ofNat c.toNat) ++ rest) =
      .ok ([b], rest) := by
  have hlt : b.toNat < 32 := UInt8.lt_iff_toNat_lt.mp hb
  obtain ⟨hhigh, hlow⟩ := hexByteValue?_hexPair b.toNat hlt
  have hzero : Text.hexByteValue? 0x30 = some 0 := by decide
  have hvalue : (((0 : Nat) * 16 + 0) * 16 + b.toNat / 16) * 16 + b.toNat % 16 = b.toNat := by omega
  have hhex : readHex (0x30 :: 0x30 :: (Text.hexPair b).map (fun c ↦ UInt8.ofNat c.toNat) ++ rest) =
      .ok (b.toNat, rest) := by
    simp [readHex, Text.hexPair, hzero, hhigh, hlow]
    omega
  have hcode : codePointBytes b.toNat = [b] := by
    rw [codePointBytes_of_lt b.toNat (by omega), UInt8.ofNat_toNat]
  rw [readCodePoint, hhex]
  simp only [bind, Except.bind, hcode]
  rw [if_pos (Or.inl (by omega))]

def namedEscapes : List UInt8 := [0x22, 0x5C, 0x08, 0x09, 0x0A, 0x0C, 0x0D]

theorem exists_escape_of_mem_namedEscapes {b : UInt8} (hb : b ∈ namedEscapes) :
    ∃ escape, escapeByte b = 0x5C :: escape ∧ ∀ rest, readEscape (escape ++ rest) = .ok ([b], rest) := by
  simp only [namedEscapes, List.mem_cons, List.not_mem_nil, or_false] at hb
  rcases hb with rfl | rfl | rfl | rfl | rfl | rfl | rfl
  all_goals exact ⟨_, rfl, fun rest ↦ rfl⟩

theorem exists_escape_of_lt {b : UInt8} (hnamed : b ∉ namedEscapes) (hb : b < 0x20) :
    ∃ escape, escapeByte b = 0x5C :: escape ∧ ∀ rest, readEscape (escape ++ rest) = .ok ([b], rest) := by
  have hopening : Text.utf8 "\\u00" = [0x5C, 0x75, 0x30, 0x30] := by decide +kernel
  simp only [namedEscapes, List.mem_cons, List.not_mem_nil, or_false, not_or] at hnamed
  refine ⟨0x75 :: 0x30 :: 0x30 :: (Text.hexPair b).map fun c ↦ UInt8.ofNat c.toNat, ?_, fun rest ↦ ?_⟩
  · simp [escapeByte, hnamed, hb, hopening]
  · exact readCodePoint_hexPair hb rest

theorem isPlain_of_not_escaped {b : UInt8} (hnamed : b ∉ namedEscapes) (hb : ¬b < 0x20) :
    isPlain b = true ∧ escapeByte b = [b] := by
  simp only [namedEscapes, List.mem_cons, List.not_mem_nil, or_false, not_or] at hnamed
  constructor
  · simp [isPlain, hnamed, UInt8.not_lt.mp hb]
  · simp [escapeByte, hnamed, hb]

/-- A byte is written behind a backslash or stands for itself. -/
theorem escapeByte_cases (b : UInt8) :
    (∃ escape, escapeByte b = 0x5C :: escape ∧ ∀ rest, readEscape (escape ++ rest) = .ok ([b], rest)) ∨
      isPlain b = true ∧ escapeByte b = [b] := by
  by_cases hnamed : b ∈ namedEscapes
  · exact .inl (exists_escape_of_mem_namedEscapes hnamed)
  · by_cases hb : b < 0x20
    · exact .inl (exists_escape_of_lt hnamed hb)
    · exact .inr (isPlain_of_not_escaped hnamed hb)

/-- What is written for a byte is read in one turn as that byte. -/
theorem readBytes_escapeByte (fuel : Nat) (seen : List UInt8) (b : UInt8) (rest : List UInt8) :
    readBytes (fuel + 1) seen (escapeByte b ++ rest) = readBytes fuel (b :: seen) rest := by
  rcases escapeByte_cases b with ⟨escape, hwritten, hread⟩ | ⟨hplain, hwritten⟩
  · have hbackslash : isPlain 0x5C = false := by decide
    have hquote : ((0x5C : UInt8) == 0x22) = false := by decide
    simp [hwritten, readBytes, hbackslash, hquote, hread]
  · simp [hwritten, readBytes, hplain]

/-! ## Texts -/

theorem readBytes_flatMap_escapeByte (bytes : List UInt8) (fuel : Nat) (seen rest : List UInt8)
    (hfuel : bytes.length < fuel) :
    readBytes fuel seen (bytes.flatMap escapeByte ++ 0x22 :: rest) = .ok (seen.reverse ++ bytes, rest) := by
  induction bytes generalizing fuel seen with
  | nil =>
      obtain ⟨fuel, rfl⟩ := Nat.exists_eq_add_one.mpr hfuel
      have hquote : isPlain 0x22 = false := by decide
      simp [readBytes, hquote]
  | cons b bytes ih =>
      rw [List.length_cons] at hfuel
      obtain ⟨fuel, rfl⟩ := Nat.exists_eq_add_one.mpr (Nat.zero_lt_of_lt hfuel)
      rw [List.flatMap_cons, List.append_assoc, readBytes_escapeByte, ih _ _ (by omega)]
      simp

theorem length_le_length_flatMap_escapeByte (bytes : List UInt8) :
    bytes.length ≤ (bytes.flatMap escapeByte).length := by
  induction bytes with
  | nil => exact Nat.le_refl _
  | cons b bytes ih =>
      have hb : 1 ≤ (escapeByte b).length := by
        rcases escapeByte_cases b with ⟨escape, hwritten, -⟩ | ⟨-, hwritten⟩ <;> simp [hwritten]
      rw [List.flatMap_cons, List.length_append, List.length_cons]
      omega

/-- A text is read back from what stands between its quotes. -/
theorem readString_escaped (s : String) (rest : List UInt8) :
    readString ((Text.utf8 s).flatMap escapeByte ++ 0x22 :: rest) = .ok (s, rest) := by
  have hlength := length_le_length_flatMap_escapeByte (Text.utf8 s)
  rw [readString, readBytes_flatMap_escapeByte _ _ _ _ (by rw [List.length_append]; omega)]
  simp [bind, Except.bind, Text.ofUtf8?_utf8]

end DepositGate.Json
