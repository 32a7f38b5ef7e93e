import Mathlib.Data.List.DropRight
import DepositGate.Proofs.Connection.Head
import DepositGate.Proofs.Connection.History

/-!
# When a read that waits fails

What the client has sent since the server last wrote, and the times at which bytes have gone one way or
the other, settle until when a read may wait. `read_after_accepted` says so for every history of a
connection: the stage that the connection keeps is worth no more than its history.
-/

namespace DepositGate.Connection

variable {t : Timeouts} {start : Nat} {turns : List Turn} {u : Turn} {d : Deadlines}

/-! ## What a history shows -/

namespace Turn

def bytes : Turn → List UInt8
  | ⟨_, .read (.ready bytes)⟩ => bytes
  | _ => []

def firstRead? (turns : List Turn) : Option Turn :=
  turns.find? (·.way? = some .inward)

def lastWrite? (turns : List Turn) : Option Turn :=
  (turns.filter (·.way? = some .outward)).getLast?

def lastMove? (turns : List Turn) : Option Turn :=
  (turns.filter (·.way?.isSome)).getLast?

/-- The turns behind the last one that writes bytes. -/
def sinceWrite (turns : List Turn) : List Turn :=
  turns.rtakeWhile (·.way? ≠ some .outward)

def received (turns : List Turn) : List UInt8 :=
  turns.flatMap bytes

/-- Whether the first bytes of a history look like the preface of a multiplexed connection. -/
def showsPreface (turns : List Turn) : Bool :=
  ((firstRead? turns).map bytes).any isPreface

theorem bytes_eq_nil (h : u.way? ≠ some .inward) : u.bytes = [] := by
  obtain ⟨time, poll⟩ := u
  match poll with
  | .read (.ready []) => rfl
  | .read (.ready (b :: bytes)) => exact absurd rfl h
  | .read .pending | .read (.failed _) | .write _ _ | .settle _ => rfl

theorem firstRead?_concat (turns : List Turn) (u : Turn) :
    firstRead? (turns ++ [u]) =
      (firstRead? turns).or (if u.way? = some .inward then some u else none) := by
  simp only [firstRead?, List.find?_append, List.find?_singleton, decide_eq_true_eq]

theorem lastWrite?_concat (turns : List Turn) (u : Turn) :
    lastWrite? (turns ++ [u]) = if u.way? = some .outward then some u else lastWrite? turns := by
  by_cases hway : u.way? = some .outward <;> simp [lastWrite?, hway]

theorem lastMove?_concat (turns : List Turn) (u : Turn) :
    lastMove? (turns ++ [u]) = if u.way?.isSome then some u else lastMove? turns := by
  by_cases hway : u.way?.isSome <;> simp [lastMove?, hway]

theorem sinceWrite_concat (turns : List Turn) (u : Turn) :
    sinceWrite (turns ++ [u]) = if u.way? = some .outward then [] else sinceWrite turns ++ [u] := by
  by_cases hway : u.way? = some .outward <;> simp [sinceWrite, hway]

theorem received_concat (turns : List Turn) (u : Turn) :
    received (turns ++ [u]) = received turns ++ u.bytes := by
  simp [received]

theorem received_eq_nil (h : firstRead? turns = none) : received turns = [] := by
  rw [received, List.flatMap_eq_nil_iff]
  intro u hu
  apply bytes_eq_nil
  simpa using List.find?_eq_none.mp h u hu

theorem showsPreface_concat (turns : List Turn) (u : Turn) :
    showsPreface (turns ++ [u]) = (showsPreface turns ||
      (firstRead? turns).isNone && (u.way? = some .inward && isPreface u.bytes)) := by
  unfold showsPreface
  rw [firstRead?_concat]
  cases firstRead? turns with
  | some r => simp
  | none => by_cases hway : u.way? = some .inward <;> simp [hway]

end Turn

open Turn

/-- When a read that waits fails, by the history of a connection that has been accepted at `start`. A
multiplexed connection may be idle for so long. Another one has no deadline when a head is in; else the
deadline counts from the first byte of the head, but for the first head from the start, and before its
first byte from the last write. -/
def readDue (t : Timeouts) (start : Nat) (turns : List Turn) : Option Nat :=
  if showsPreface turns then (lastMove? turns).map (·.time + t.idle)
  else if headEnd <:+: received (sinceWrite turns) then none
  else
    match lastWrite? turns, firstRead? (sinceWrite turns) with
    | none, _ => some (start + t.read)
    | some w, none => some (w.time + t.idle)
    | some _, some r => some (r.time + t.read)

namespace Deadlines

/-! ## The stage by the history -/

/-- Where a connection stands after a history. -/
def StandsAt (start : Nat) (turns : List Turn) : Stage → Prop
  | .multiplexed lastActivity =>
    showsPreface turns = true ∧ (lastMove? turns).map Turn.time = some lastActivity
  | .busy => showsPreface turns = false ∧ headEnd <:+: received (sinceWrite turns)
  | .idle since =>
    showsPreface turns = false ∧ firstRead? (sinceWrite turns) = none ∧
      (lastWrite? turns).map Turn.time = some since
  | .head since matched =>
    showsPreface turns = false ∧ ¬headEnd <:+: received (sinceWrite turns) ∧
      Matches matched (received (sinceWrite turns)) ∧
      (lastWrite? turns = none ∧ since = start ∨
        lastWrite? turns ≠ none ∧ (firstRead? (sinceWrite turns)).map Turn.time = some since)

/-- A connection whose deadlines show a history. -/
structure Tracks (start : Nat) (turns : List Turn) (d : Deadlines) : Prop where
  firstRead : d.firstRead = (firstRead? turns).isNone
  stage : StandsAt start turns d.stage

theorem tracks_accepted (start : Nat) : Tracks start [] (accepted start) :=
  ⟨rfl, rfl, not_headEnd_infix_nil, matches_zero_nil, Or.inl ⟨rfl, rfl⟩⟩

theorem StandsAt.of_way?_eq_none {stage : Stage} (h : StandsAt start turns stage)
    (hway : u.way? = none) : StandsAt start (turns ++ [u]) stage := by
  have hbytes : u.bytes = [] := bytes_eq_nil (by simp [hway])
  cases stage <;>
    simpa [StandsAt, showsPreface_concat, lastMove?_concat, sinceWrite_concat, received_concat,
      firstRead?_concat, lastWrite?_concat, hway, hbytes] using h

theorem Tracks.onWrite (h : Tracks start turns d) (hway : u.way? = some .outward) :
    Tracks start (turns ++ [u]) (d.onWrite u.time) := by
  have hpreface : showsPreface (turns ++ [u]) = showsPreface turns := by
    simp [showsPreface_concat, hway]
  have hfirst : d.firstRead = (firstRead? (turns ++ [u])).isNone := by
    simp [firstRead?_concat, hway, h.firstRead]
  have hstage := h.stage
  rcases onWrite_cases u.time d with ⟨⟨lastActivity, hd⟩, heq⟩ | ⟨hd, heq⟩
  · rw [hd] at hstage
    rw [heq]
    exact ⟨hfirst, hpreface.trans hstage.1, by simp [lastMove?_concat, hway]⟩
  · have hplain : showsPreface turns = false := by
      cases hs : d.stage with
      | multiplexed lastActivity => exact absurd hs (hd lastActivity)
      | busy | idle _ | head _ _ =>
          rw [hs] at hstage
          exact hstage.1
    rw [heq]
    refine ⟨hfirst, hpreface.trans hplain, ?_, by simp [lastWrite?_concat, hway]⟩
    rw [sinceWrite_concat, if_pos hway]
    rfl

/-- Looking for the end of a head in the bytes of a turn gives the stage after it. -/
theorem tracks_scan {since matched : Nat} (hfirst : d.firstRead = false)
    (hway : u.way? = some .inward) (hplain : showsPreface (turns ++ [u]) = false)
    (hread : ¬headEnd <:+: received (sinceWrite turns))
    (hmatches : Matches matched (received (sinceWrite turns)))
    (hsince : lastWrite? turns = none ∧ since = start ∨ lastWrite? turns ≠ none ∧
      (firstRead? (sinceWrite turns ++ [u])).map Turn.time = some since) :
    Tracks start (turns ++ [u]) (d.scan t u.time since matched u.bytes) := by
  have hwrite : u.way? ≠ some .outward := by simp [hway]
  have hsinceWrite : sinceWrite (turns ++ [u]) = sinceWrite turns ++ [u] := by
    rw [sinceWrite_concat, if_neg hwrite]
  have hlast : lastWrite? (turns ++ [u]) = lastWrite? turns := by
    rw [lastWrite?_concat, if_neg hwrite]
  have hnone : (firstRead? (turns ++ [u])).isNone = false := by
    simp [firstRead?_concat, hway]
  rcases scanHeadEnd_cases u.bytes hmatches hread with
    ⟨hscan, hinside⟩ | ⟨matched', hscan, hinside, hmatches'⟩
  · rw [scan_of_eq_none d hscan]
    refine ⟨hfirst.trans hnone.symm, hplain, ?_⟩
    rwa [hsinceWrite, received_concat]
  · rw [scan_of_eq_some d hscan]
    refine ⟨hfirst.trans hnone.symm, hplain, ?_⟩
    rw [hsinceWrite, hlast, received_concat]
    exact ⟨hinside, hmatches', hsince⟩

theorem onRead_of_preface {now : Nat} {bytes : List UInt8}
    (h : (d.firstRead && isPreface bytes) = true) :
    d.onRead t now bytes = { d with firstRead := false, stage := .multiplexed now } := by
  unfold Deadlines.onRead
  exact if_pos h

theorem onRead_of_plain {now : Nat} {bytes : List UInt8}
    (h : (d.firstRead && isPreface bytes) = false) :
    d.onRead t now bytes =
      match d.stage with
      | .head since matched =>
        ({ d with firstRead := false } : Deadlines).scan t now since matched bytes
      | .idle _ =>
        ({ d with firstRead := false, response := none } : Deadlines).scan t now now 0 bytes
      | .busy => { d with firstRead := false }
      | .multiplexed _ => { d with firstRead := false, stage := .multiplexed now } := by
  unfold Deadlines.onRead
  exact if_neg (by simp [h])

theorem Tracks.onRead (h : Tracks start turns d) (hway : u.way? = some .inward) :
    Tracks start (turns ++ [u]) (d.onRead t u.time u.bytes) := by
  have hstage := h.stage
  have hwrite : u.way? ≠ some .outward := by simp [hway]
  have hmove : (lastMove? (turns ++ [u])).map Turn.time = some u.time := by
    simp [lastMove?_concat, hway]
  have hnone : false = (firstRead? (turns ++ [u])).isNone := by
    simp [firstRead?_concat, hway]
  have hpreface : showsPreface (turns ++ [u]) =
      (showsPreface turns || d.firstRead && isPreface u.bytes) := by
    simp [showsPreface_concat, hway, h.firstRead]
  by_cases hfirst : (d.firstRead && isPreface u.bytes) = true
  · rw [onRead_of_preface hfirst]
    exact ⟨hnone, by rw [hpreface, hfirst, Bool.or_true], hmove⟩
  · rw [Bool.not_eq_true] at hfirst
    rw [hfirst, Bool.or_false] at hpreface
    rw [onRead_of_plain hfirst]
    cases hs : d.stage with
    | multiplexed lastActivity =>
        rw [hs] at hstage
        exact ⟨hnone, hpreface.trans hstage.1, hmove⟩
    | busy =>
        rw [hs] at hstage
        refine ⟨hnone, hpreface.trans hstage.1, ?_⟩
        rw [sinceWrite_concat, if_neg hwrite, received_concat]
        exact hstage.2.trans (List.prefix_append _ _).isInfix
    | idle since =>
        rw [hs] at hstage
        obtain ⟨hplain, hsilent, hlast⟩ := hstage
        -- these bytes are the first of a new head, which counts from now on
        refine tracks_scan rfl hway (hpreface.trans hplain) ?_ ?_ (Or.inr ⟨?_, ?_⟩)
        · rw [received_eq_nil hsilent]
          exact not_headEnd_infix_nil
        · rw [received_eq_nil hsilent]
          exact matches_zero_nil
        · intro hnever
          simp [hnever] at hlast
        · simp [firstRead?_concat, hsilent, hway]
    | head since matched =>
        rw [hs] at hstage
        obtain ⟨hplain, hread, hmatches, hsince⟩ := hstage
        refine tracks_scan rfl hway (hpreface.trans hplain) hread hmatches ?_
        rcases hsince with hstart | ⟨hlast, hsince⟩
        · exact Or.inl hstart
        · obtain ⟨r, hr, hrtime⟩ := Option.map_eq_some_iff.mp hsince
          refine Or.inr ⟨hlast, ?_⟩
          rw [firstRead?_concat, hr, Option.some_or, Option.map_some, hrtime]

theorem Tracks.next (h : Tracks start turns d) : Tracks start (turns ++ [u]) (d.next t u) := by
  rcases next_cases t d u with ⟨hway, hnext⟩ | ⟨hway, bytes, -, hpoll, hnext⟩ | ⟨hway, hnext⟩
  · have hfirst : d.firstRead = (firstRead? (turns ++ [u])).isNone := by
      simp [firstRead?_concat, hway, h.firstRead]
    have hstage := h.stage.of_way?_eq_none hway
    rcases hnext with heq | ⟨-, heq⟩ <;> rw [heq] <;> exact ⟨hfirst, hstage⟩
  · obtain rfl : bytes = u.bytes := by
      obtain ⟨time, poll⟩ := u
      obtain rfl : poll = .read (.ready bytes) := hpoll
      rfl
    rw [hnext]
    exact h.onRead hway
  · rw [hnext]
    exact h.onWrite hway

/-- What the deadlines of a connection show is its history. -/
theorem tracks_after (t : Timeouts) (start : Nat) (turns : List Turn) :
    Tracks start turns ((accepted start).after t turns) := by
  induction turns using List.reverseRecOn with
  | nil => exact tracks_accepted start
  | append_singleton turns u ih =>
      rw [after_concat]
      exact ih.next

/-! ## The deadline by the history -/

theorem Tracks.readDeadline_eq (h : Tracks start turns d) :
    d.readDeadline t = readDue t start turns := by
  have hstage := h.stage
  unfold Deadlines.readDeadline readDue
  cases hs : d.stage with
  | multiplexed lastActivity =>
      rw [hs] at hstage
      obtain ⟨hpreface, hlast⟩ := hstage
      obtain ⟨v, hv, rfl⟩ := Option.map_eq_some_iff.mp hlast
      simp [hpreface, hv]
  | busy =>
      rw [hs] at hstage
      simp [hstage.1, hstage.2]
  | idle since =>
      rw [hs] at hstage
      obtain ⟨hplain, hsilent, hlast⟩ := hstage
      obtain ⟨w, hw, rfl⟩ := Option.map_eq_some_iff.mp hlast
      have hread : ¬headEnd <:+: received (sinceWrite turns) := by
        rw [received_eq_nil hsilent]
        exact not_headEnd_infix_nil
      simp [hplain, hread, hw, hsilent]
  | head since matched =>
      rw [hs] at hstage
      obtain ⟨hplain, hread, -, hsince⟩ := hstage
      rcases hsince with ⟨hlast, rfl⟩ | ⟨hlast, hsince⟩
      · simp [hplain, hread, hlast]
      · obtain ⟨w, hw⟩ := Option.ne_none_iff_exists'.mp hlast
        obtain ⟨r, hr, rfl⟩ := Option.map_eq_some_iff.mp hsince
        simp [hplain, hread, hw, hr]

/-- A read fails for its deadline exactly if there is nothing to read when the history's deadline has
come. Any other read is what it is without deadlines, however late it is made. -/
theorem read_after_accepted (t : Timeouts) (start : Nat) (turns : List Turn) (now : Nat)
    (inner : Attempt (List UInt8)) :
    (((accepted start).after t turns).read t now inner).1 =
      if inner = .pending ∧ (readDue t start turns).any (· ≤ now) then .failed (.timedOut .read)
      else inner := by
  have hdue : ((accepted start).after t turns).readDeadline t = readDue t start turns :=
    (tracks_after t start turns).readDeadline_eq
  unfold Deadlines.read
  cases inner with
  | ready bytes => simp
  | failed f => simp
  | pending =>
      rw [hdue]
      cases readDue t start turns with
      | none => simp
      | some due => by_cases hlate : due ≤ now <;> simp [hlate]

/-- The second head counts from its first byte, behind the answer to the first one. -/
example : readDue ⟨10, 60, 120⟩ 0
    [⟨1, .read (.ready headEnd)⟩, ⟨3, .write 9 (.ready 9)⟩, ⟨40, .read (.ready [0x47])⟩,
      ⟨45, .read (.ready [0x0D])⟩] = some 50 := by
  decide

end Deadlines

end DepositGate.Connection
