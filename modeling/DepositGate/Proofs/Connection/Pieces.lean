import DepositGate.Proofs.Connection.ReadDeadline

/-!
# Bytes that come in pieces

The network cuts what a client sends into pieces as it likes. The end of a head is found wherever the cuts
are, but whether a connection is multiplexed is settled by the first piece alone. `cut_irrelevant_iff` says
for which bytes no cut can make a difference: exactly those that do not start with the first four bytes of
the preface.
-/

namespace DepositGate.Connection

variable {t : Timeouts} {start now since matched : Nat} {bytes rest piece : List UInt8}
  {pieces : List (List UInt8)} {d : Deadlines}

/-! ## Cuts -/

/-- Pieces that make up some bytes. None of them is empty. -/
structure Cuts (bytes : List UInt8) (pieces : List (List UInt8)) : Prop where
  flatten : pieces.flatten = bytes
  nonempty : [] ∉ pieces

/-- One piece after another is read at one time. -/
def reads (now : Nat) (pieces : List (List UInt8)) : List Turn :=
  pieces.map fun piece ↦ ⟨now, .read (.ready piece)⟩

def opening : List UInt8 := preface.take 4

theorem cuts_pair (hpiece : piece ≠ []) (hrest : rest ≠ []) : Cuts (piece ++ rest) [piece, rest] :=
  ⟨by simp, by simp [hpiece.symm, hrest.symm]⟩

/-- Bytes can be cut behind any piece with which they start. -/
theorem exists_cuts (hpiece : piece ≠ []) (rest : List UInt8) :
    ∃ pieces, Cuts (piece ++ rest) (piece :: pieces) := by
  by_cases hrest : rest = []
  · exact ⟨[], by simp [hrest], by simp [hpiece.symm]⟩
  · exact ⟨[rest], cuts_pair hpiece hrest⟩

theorem Cuts.starts (h : Cuts bytes (piece :: pieces)) : piece <+: bytes :=
  ⟨pieces.flatten, by rw [← h.flatten, List.flatten_cons]⟩

theorem Cuts.eq_nil (h : Cuts [] pieces) : pieces = [] := by
  cases pieces with
  | nil => rfl
  | cons piece pieces =>
      have hpiece := List.prefix_nil.mp h.starts
      exact absurd (by simp [hpiece]) h.nonempty

/-! ## The first piece -/

theorem isPreface_opening : isPreface opening = true := by
  decide

theorem opening_prefix_of_isPreface (h : isPreface bytes = true) : opening <+: bytes := by
  obtain ⟨hfour, htake⟩ : 4 ≤ min bytes.length preface.length ∧
      bytes.take (min bytes.length preface.length) =
        preface.take (min bytes.length preface.length) := by
    simpa [isPreface] using h
  have hopening : bytes.take 4 = opening := by
    have hfirst := congrArg (List.take 4) htake
    rwa [List.take_take, List.take_take, Nat.min_eq_left hfour] at hfirst
  exact hopening ▸ List.take_prefix 4 bytes

theorem isPreface_eq_false_of_cuts (hopening : ¬opening <+: bytes)
    (h : Cuts bytes (piece :: pieces)) : isPreface piece = false :=
  Bool.eq_false_iff.mpr fun hpreface ↦
    hopening ((opening_prefix_of_isPreface hpreface).trans h.starts)

/-! ## The pieces behind it -/

/-- What the bytes read at a time make of a connection that is not multiplexed, wherever they are cut. -/
inductive Shows (t : Timeouts) (start now : Nat) (bytes : List UInt8) : Deadlines → Prop where
  | ended (hend : headEnd <:+: bytes) :
      Shows t start now bytes ⟨.busy, false, some (now + t.write), none⟩
  | unended {matched : Nat} (hend : ¬headEnd <:+: bytes) (hmatches : Matches matched bytes) :
      Shows t start now bytes ⟨.head start matched, false, none, none⟩

theorem Shows.unique {d' : Deadlines} (h : Shows t start now bytes d) (h' : Shows t start now bytes d') :
    d = d' := by
  cases h with
  | ended hend =>
      cases h' with
      | ended => rfl
      | unended hend' => exact absurd hend hend'
  | unended hend hmatches =>
      cases h' with
      | ended hend' => exact absurd hend' hend
      | unended _ hmatches' => rw [hmatches.unique hmatches']

namespace Deadlines

theorem after_reads_cons (hpiece : piece ≠ []) :
    d.after t (reads now (piece :: pieces)) = (d.onRead t now piece).after t (reads now pieces) := by
  simp [reads, after, next, read, hpiece]

/-- What no piece changes stays as it is. -/
theorem after_reads_of_settled (hpieces : [] ∉ pieces) (hsettled : ∀ piece, d.onRead t now piece = d) :
    d.after t (reads now pieces) = d := by
  induction pieces with
  | nil => rfl
  | cons piece pieces ih =>
      obtain ⟨hpiece, hpieces⟩ := List.ne_and_not_mem_of_not_mem_cons hpieces
      rw [after_reads_cons hpiece.symm, hsettled, ih hpieces]

/-- A head that comes in pieces is looked through as if it came at once. -/
theorem after_reads_of_head (hpieces : [] ∉ pieces) (hfirst : d.firstRead = false)
    (hstage : d.stage = .head since matched) :
    d.after t (reads now pieces) = d.scan t now since matched pieces.flatten := by
  induction pieces generalizing d matched with
  | nil =>
      obtain ⟨stage, firstRead, response, stall⟩ := d
      simp_all [scan, scanHeadEnd, reads]
  | cons piece pieces ih =>
      obtain ⟨hpiece, hpieces⟩ := List.ne_and_not_mem_of_not_mem_cons hpieces
      have hread : d.onRead t now piece = d.scan t now since matched piece := by
        obtain ⟨stage, firstRead, response, stall⟩ := d
        simp_all [onRead]
      rw [after_reads_cons hpiece.symm, hread, List.flatten_cons]
      cases hscan : scanHeadEnd matched piece with
      | none =>
          have hwhole : scanHeadEnd matched (piece ++ pieces.flatten) = none := by
            rw [scanHeadEnd_append, hscan, Option.bind_none]
          rw [scan_of_eq_none d hscan, scan_of_eq_none d hwhole]
          exact after_reads_of_settled hpieces fun _ ↦ by simp [onRead, hfirst]
      | some matched' =>
          have hwhole : scanHeadEnd matched (piece ++ pieces.flatten) =
              scanHeadEnd matched' pieces.flatten := by
            rw [scanHeadEnd_append, hscan, Option.bind_some]
          have hrest := ih (d := { d with stage := .head since matched' }) hpieces hfirst rfl
          rw [scan_of_eq_some d hscan, hrest]
          simp only [scan, hwhole]

theorem after_reads_of_isPreface (h : Cuts bytes (piece :: pieces)) (hpreface : isPreface piece = true) :
    (accepted start).after t (reads now (piece :: pieces)) = ⟨.multiplexed now, false, none, none⟩ := by
  obtain ⟨hpiece, hpieces⟩ := List.ne_and_not_mem_of_not_mem_cons h.nonempty
  have hread : (accepted start).onRead t now piece = ⟨.multiplexed now, false, none, none⟩ := by
    simp [accepted, onRead, hpreface]
  rw [after_reads_cons hpiece.symm, hread]
  exact after_reads_of_settled hpieces fun _ ↦ rfl

theorem shows_after_reads (h : Cuts bytes (piece :: pieces)) (hplain : isPreface piece = false) :
    Shows t start now bytes ((accepted start).after t (reads now (piece :: pieces))) := by
  -- Once it is known not to be multiplexed, the connection might as well not have read the first piece.
  let d : Deadlines := ⟨.head start 0, false, none, none⟩
  obtain ⟨hpiece, -⟩ := List.ne_and_not_mem_of_not_mem_cons h.nonempty
  have hread : (accepted start).onRead t now piece = d.onRead t now piece := by
    simp [d, accepted, onRead, hplain]
  rw [after_reads_cons hpiece.symm, hread, ← after_reads_cons hpiece.symm,
    after_reads_of_head h.nonempty rfl rfl, h.flatten]
  rcases scanHeadEnd_cases bytes matches_zero_nil not_headEnd_infix_nil with
    ⟨hscan, hend⟩ | ⟨matched, hscan, hend, hmatches⟩
  · rw [scan_of_eq_none d hscan]
    exact .ended hend
  · rw [scan_of_eq_some d hscan]
    exact .unended hend hmatches

/-! ## Main result -/

/-- However bytes are cut, a connection that reads them at one time has become the same, exactly if they
do not start with the first four bytes of the preface. It is multiplexed exactly if the first piece looks
like the preface; otherwise where it stands, and when the answer is due, follows from the bytes alone. -/
theorem cut_irrelevant_iff (t : Timeouts) (start now : Nat) (bytes : List UInt8) :
    ((∀ pieces pieces', Cuts bytes pieces → Cuts bytes pieces' →
        (accepted start).after t (reads now pieces) = (accepted start).after t (reads now pieces')) ↔
      ¬opening <+: bytes) ∧
    ∀ piece pieces, Cuts bytes (piece :: pieces) →
      isPreface piece = true ∧
        (accepted start).after t (reads now (piece :: pieces)) = ⟨.multiplexed now, false, none, none⟩ ∨
      isPreface piece = false ∧
        Shows t start now bytes ((accepted start).after t (reads now (piece :: pieces))) := by
  refine ⟨⟨fun hsame hopening ↦ ?_, fun hopening pieces pieces' h h' ↦ ?_⟩, fun piece pieces h ↦ ?_⟩
  · -- The first piece looks like the preface if it has four bytes, and does not if it has two.
    obtain ⟨rest, rfl⟩ := hopening
    obtain ⟨pieces, h⟩ := exists_cuts (show opening ≠ [] by decide) rest
    obtain ⟨pieces', h'⟩ := exists_cuts (show opening.take 2 ≠ [] by decide) (opening.drop 2 ++ rest)
    rw [← List.append_assoc, List.take_append_drop] at h'
    have hshows : Shows t start now (opening ++ rest)
        ((accepted start).after t (reads now (opening.take 2 :: pieces'))) :=
      shows_after_reads h' (by decide)
    rw [← hsame _ _ h h', after_reads_of_isPreface h isPreface_opening] at hshows
    cases hshows
  · cases pieces with
    | nil =>
        obtain rfl : [] = bytes := h.flatten
        rw [h'.eq_nil]
    | cons piece pieces =>
        cases pieces' with
        | nil =>
            obtain rfl : [] = bytes := h'.flatten
            cases h.eq_nil
        | cons piece' pieces' =>
            exact (shows_after_reads h (isPreface_eq_false_of_cuts hopening h)).unique
              (shows_after_reads h' (isPreface_eq_false_of_cuts hopening h'))
  · cases hpreface : isPreface piece with
    | true => exact .inl ⟨rfl, after_reads_of_isPreface h hpreface⟩
    | false => exact .inr ⟨rfl, shows_after_reads h hpreface⟩

def multiplexedHead : List UInt8 := preface ++ headEnd

/-- The first read brings two bytes of it, and the connection counts as one that waits for an answer. -/
theorem preface_cut_behind_two_bytes :
    ¬∀ (t : Timeouts) (start now : Nat) (bytes : List UInt8) (pieces pieces' : List (List UInt8)),
      bytes ≠ [] → Cuts bytes pieces → Cuts bytes pieces' →
        (accepted start).after t (reads now pieces) =
          (accepted start).after t (reads now pieces') := by
  intro hsame
  have hwhole : Cuts multiplexedHead [multiplexedHead] := ⟨by decide, by decide⟩
  have hcut : Cuts multiplexedHead [multiplexedHead.take 2, multiplexedHead.drop 2] :=
    ⟨by decide, by decide⟩
  have heq := hsame ⟨100, 1000, 400⟩ 0 0 multiplexedHead _ _ (by decide) hwhole hcut
  have hmultiplexed : ((accepted 0).after ⟨100, 1000, 400⟩ (reads 0 [multiplexedHead])).stage =
      .multiplexed 0 := by
    decide
  have hbusy : ((accepted 0).after ⟨100, 1000, 400⟩
      (reads 0 [multiplexedHead.take 2, multiplexedHead.drop 2])).stage = .busy := by
    decide
  rw [heq, hbusy] at hmultiplexed
  cases hmultiplexed

end Deadlines

end DepositGate.Connection
