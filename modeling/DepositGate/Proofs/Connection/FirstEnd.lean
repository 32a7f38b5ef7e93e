import Mathlib.Order.Nat
import DepositGate.Proofs.Connection.Head

/-!
# The first end of a head

Pieces are looked through one after another, each with what is left matched by those before it.
`scanPieces_finds_first` says what is matched as long as the end of a head is not found, and that it is found
in the piece with the last byte of its first occurrence.
-/

namespace DepositGate.Connection

variable {bytes piece : List UInt8} {pieces before : List (List UInt8)} {matched n i : Nat}

/-! ## One piece after another -/

/-- What is matched behind some pieces, none once the end of a head is found. -/
def scanPieces (pieces : List (List UInt8)) : Option Nat :=
  pieces.foldlM scanHeadEnd 0

theorem foldlM_scanHeadEnd (matched : Nat) (pieces : List (List UInt8)) :
    pieces.foldlM scanHeadEnd matched = scanHeadEnd matched pieces.flatten := by
  induction pieces generalizing matched with
  | nil => rfl
  | cons piece pieces ih =>
      rw [List.foldlM_cons, List.flatten_cons, scanHeadEnd_append]
      exact congrArg (scanHeadEnd matched piece).bind (funext ih)

/-- It does not matter where the bytes are cut. -/
theorem scanPieces_eq (pieces : List (List UInt8)) :
    scanPieces pieces = scanHeadEnd 0 pieces.flatten :=
  foldlM_scanHeadEnd 0 pieces

theorem scanPieces_concat (pieces : List (List UInt8)) (piece : List UInt8) :
    scanPieces (pieces ++ [piece]) = (scanPieces pieces).bind (scanHeadEnd · piece) := by
  simp [scanPieces_eq, scanHeadEnd_append]

theorem scanPieces_eq_none_iff : scanPieces pieces = none ↔ headEnd <:+: pieces.flatten := by
  rw [scanPieces_eq]
  rcases scanHeadEnd_cases pieces.flatten matches_zero_nil not_headEnd_infix_nil with
    ⟨hscan, hend⟩ | ⟨matched, hscan, hend, -⟩
  · simpa [hscan] using hend
  · simpa [hscan] using hend

theorem matches_of_scanPieces (h : scanPieces pieces = some matched) :
    Matches matched pieces.flatten := by
  rw [scanPieces_eq] at h
  rcases scanHeadEnd_cases pieces.flatten matches_zero_nil not_headEnd_infix_nil with
    ⟨hscan, -⟩ | ⟨matched', hscan, -, hmatches⟩
  · cases hscan.symm.trans h
  · obtain rfl := Option.some.inj (hscan.symm.trans h)
    exact hmatches

/-- What is matched is the longest text with which the bytes end and the end of a head begins. -/
theorem Matches.isGreatest (h : Matches matched bytes) (hend : ¬headEnd <:+: bytes) :
    IsGreatest {n | ∃ s, s <:+ bytes ∧ s <+: headEnd ∧ s.length = n} matched := by
  constructor
  · refine ⟨headEnd.take matched, h.suffix, List.take_prefix _ _, ?_⟩
    rw [List.length_take, Nat.min_eq_left h.lt.le]
  · rintro n ⟨s, hsuffix, hprefix, rfl⟩
    have hs : s = headEnd.take s.length := List.prefix_iff_eq_take.mp hprefix
    refine h.greatest s.length (Nat.lt_of_le_of_ne hprefix.length_le fun hall ↦ hend ?_) (hs ▸ hsuffix)
    rw [hall, List.take_length] at hs
    exact hs ▸ hsuffix.isInfix

/-! ## The first occurrence -/

/-- The end of a head stands behind the first `i` bytes, and behind no fewer. -/
def FirstEnd (bytes : List UInt8) (i : Nat) : Prop :=
  IsLeast {i | headEnd <+: bytes.drop i} i

theorem headEnd_infix_iff : headEnd <:+: bytes ↔ ∃ i, headEnd <+: bytes.drop i := by
  rw [List.infix_iff_prefix_suffix]
  constructor
  · rintro ⟨behind, hprefix, hsuffix⟩
    exact ⟨bytes.length - behind.length, List.suffix_iff_eq_drop.mp hsuffix ▸ hprefix⟩
  · rintro ⟨i, hprefix⟩
    exact ⟨bytes.drop i, hprefix, List.drop_suffix i bytes⟩

theorem exists_firstEnd (h : headEnd <:+: bytes) : ∃ i, FirstEnd bytes i :=
  ⟨_, Nat.isLeast_find (headEnd_infix_iff.mp h)⟩

/-- The end of a head is in some of the first bytes exactly if its first occurrence is. -/
theorem FirstEnd.infix_take_iff (h : FirstEnd bytes i) :
    headEnd <:+: bytes.take n ↔ i + headEnd.length ≤ n := by
  rw [headEnd_infix_iff]
  simp only [List.drop_take, List.prefix_take_iff]
  constructor
  · rintro ⟨j, hprefix, hroom⟩
    have hfirst : i ≤ j := h.2 hprefix
    have hlength : 0 < headEnd.length := by decide
    omega
  · intro hroom
    exact ⟨i, h.1, by omega⟩

theorem FirstEnd.infix_iff {rest : List UInt8} (h : FirstEnd (bytes ++ rest) i) :
    headEnd <:+: bytes ↔ i + headEnd.length ≤ bytes.length := by
  rw [← h.infix_take_iff, List.take_left]

/-! ## Main result -/

/-- A piece is the one in which the end of a head is found, if the pieces before it do not hold it. -/
theorem finds_iff : (∃ matched, scanPieces before = some matched ∧ scanHeadEnd matched piece = none) ↔
    ¬headEnd <:+: before.flatten ∧ headEnd <:+: (before ++ [piece]).flatten := by
  rw [← scanPieces_eq_none_iff, ← scanPieces_eq_none_iff, scanPieces_concat]
  cases scanPieces before <;> simp

/-- As long as the end of a head is not found, what is matched is the longest text with which the bytes end
and the end of a head begins. It is found in the piece with the last of the four bytes of its first
occurrence, and it is never found if it does not occur. -/
theorem scanPieces_finds_first (pieces : List (List UInt8)) :
    (∀ matched, scanPieces pieces = some matched →
      IsGreatest {n | ∃ s, s <:+ pieces.flatten ∧ s <+: headEnd ∧ s.length = n} matched) ∧
    (∀ before piece later, pieces = before ++ piece :: later →
      ((∃ matched, scanPieces before = some matched ∧ scanHeadEnd matched piece = none) ↔
        ∃ i, FirstEnd pieces.flatten i ∧
          before.flatten.length ≤ i + 3 ∧ i + 3 < before.flatten.length + piece.length)) ∧
    (scanPieces pieces = none ↔ headEnd <:+: pieces.flatten) := by
  refine ⟨fun matched hscan ↦ ?_, ?_, scanPieces_eq_none_iff⟩
  · refine (matches_of_scanPieces hscan).isGreatest fun hend ↦ ?_
    cases hscan.symm.trans (scanPieces_eq_none_iff.mpr hend)
  · rintro before piece later rfl
    have hwhole : (before ++ piece :: later).flatten = before.flatten ++ piece ++ later.flatten := by
      simp
    rw [finds_iff, List.flatten_concat, hwhole]
    have hplace (i : Nat) (hi : FirstEnd (before.flatten ++ piece ++ later.flatten) i) :
        (headEnd <:+: before.flatten ↔ i + 4 ≤ before.flatten.length) ∧
          (headEnd <:+: before.flatten ++ piece ↔ i + 4 ≤ before.flatten.length + piece.length) := by
      refine ⟨?_, List.length_append ▸ hi.infix_iff⟩
      rw [List.append_assoc] at hi
      exact hi.infix_iff
    constructor
    · rintro ⟨hnot, hend⟩
      obtain ⟨i, hi⟩ := exists_firstEnd (hend.trans (List.prefix_append _ later.flatten).isInfix)
      rw [(hplace i hi).1] at hnot
      rw [(hplace i hi).2] at hend
      exact ⟨i, hi, by omega, by omega⟩
    · rintro ⟨i, hi, hbehind, hinside⟩
      rw [(hplace i hi).1, (hplace i hi).2]
      omega

/-- A return behind a matched return is the first byte of another end. -/
example : scanPieces [[0x0D], [], [0x0D, 0x0A], [0x0D, 0x0D]] = some 1 := by decide

end DepositGate.Connection
