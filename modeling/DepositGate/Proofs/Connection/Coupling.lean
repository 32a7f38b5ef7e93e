import DepositGate.Proofs.Connection.ReadDeadline

/-!
# What the deadlines of a connection keep to each other

The stage of a connection, the matched bytes of a head, the time at which an answer is due and whether
anything has been read are kept apart from each other. `coupled_and_multiplexed_by_first_read` says what they
have to do with each other in every state that a history leaves, and that the first read settles for ever
whether a connection is multiplexed.
-/

namespace DepositGate.Connection

variable {t : Timeouts} {start now since matched : Nat} {bytes : List UInt8} {turns : List Turn}
  {u : Turn} {d : Deadlines}

/-! ## Stages and answers -/

/-- What a stage says of the matched bytes of a head and of the time at which an answer is due. Behind a
write it says nothing: what has been written may or may not be part of an answer. -/
def Stage.GoesWith (response : Option Nat) : Stage → Prop
  | .head _ matched => matched ≤ 3 ∧ response = none
  | .busy => response ≠ none
  | .idle _ => True
  | .multiplexed _ => response = none

namespace Deadlines

structure Coupled (d : Deadlines) : Prop where
  stage : d.stage.GoesWith d.response
  unread : d.firstRead = true → d.response = none

def IsMultiplexed (d : Deadlines) : Prop :=
  ∃ lastActivity, d.stage = .multiplexed lastActivity

theorem coupled_accepted (start : Nat) : Coupled (accepted start) :=
  ⟨⟨Nat.zero_le 3, rfl⟩, fun _ ↦ rfl⟩

theorem coupled_scan (hmatched : matched ≤ 3) (hresponse : d.response = none)
    (hfirst : d.firstRead = false) : Coupled (d.scan t now since matched bytes) := by
  cases hscan : scanHeadEnd matched bytes with
  | none =>
      rw [scan_of_eq_none d hscan]
      exact ⟨Option.some_ne_none _, fun hunread ↦ by simp [hfirst] at hunread⟩
  | some matched' =>
      have hlt : matched' < 4 := lt_of_scanHeadEnd_eq_some (Nat.lt_succ_of_le hmatched) hscan
      rw [scan_of_eq_some d hscan]
      exact ⟨⟨Nat.le_of_lt_succ hlt, hresponse⟩, fun _ ↦ hresponse⟩

theorem Coupled.onRead (h : Coupled d) (t : Timeouts) (now : Nat) (bytes : List UInt8) :
    Coupled (d.onRead t now bytes) := by
  have hstage := h.stage
  rcases onRead_cases t now bytes d with ⟨hmultiplexed, heq⟩ | ⟨since, matched, hs, heq⟩ |
    ⟨since, hs, heq⟩ | ⟨hs, heq⟩ <;> rw [heq]
  · -- The first read may find a head without an answer, later ones a multiplexed connection.
    have hresponse : d.response = none := by
      rcases hmultiplexed with hpreface | ⟨lastActivity, hs⟩
      · exact h.unread (Bool.and_eq_true_iff.mp hpreface).1
      · rwa [hs] at hstage
    exact ⟨hresponse, fun _ ↦ hresponse⟩
  · rw [hs] at hstage
    exact coupled_scan hstage.1 hstage.2 rfl
  · exact coupled_scan (Nat.zero_le 3) rfl rfl
  · exact ⟨hstage, fun hunread ↦ by cases hunread⟩

theorem Coupled.onWrite (h : Coupled d) (now : Nat) : Coupled (d.onWrite now) := by
  rcases onWrite_cases now d with ⟨⟨lastActivity, hs⟩, heq⟩ | ⟨-, heq⟩ <;> rw [heq]
  · have hstage := h.stage
    rw [hs] at hstage
    exact ⟨hstage, h.unread⟩
  · exact ⟨trivial, h.unread⟩

theorem Coupled.next (h : Coupled d) (t : Timeouts) (u : Turn) : Coupled (d.next t u) := by
  rcases next_cases t d u with ⟨-, heq | ⟨-, heq⟩⟩ | ⟨-, bytes, -, -, heq⟩ | ⟨-, heq⟩ <;> rw [heq]
  · exact h
  · exact ⟨h.stage, h.unread⟩
  · exact h.onRead t u.time bytes
  · exact h.onWrite u.time

theorem coupled_after (t : Timeouts) (start : Nat) (turns : List Turn) :
    Coupled ((accepted start).after t turns) := by
  induction turns using List.reverseRecOn with
  | nil => exact coupled_accepted start
  | append_singleton turns u ih =>
      rw [after_concat]
      exact ih.next t u

end Deadlines

/-! ## Multiplexed connections -/

namespace Turn

theorem firstRead?_ne_none_of_showsPreface (h : showsPreface turns = true) :
    firstRead? turns ≠ none := by
  intro hnone
  simp [showsPreface, hnone] at h

/-- What is read later does not change what has been read first. -/
theorem showsPreface_append (h : firstRead? turns ≠ none) (later : List Turn) :
    showsPreface (turns ++ later) = showsPreface turns := by
  obtain ⟨r, hr⟩ := Option.ne_none_iff_exists'.mp h
  have hfirst : firstRead? (turns ++ later) = some r := by
    rw [firstRead?, List.find?_append, ← firstRead?, hr, Option.some_or]
  rw [showsPreface, showsPreface, hfirst, hr]

end Turn

namespace Deadlines

theorem Tracks.isMultiplexed_iff (h : Tracks start turns d) :
    d.IsMultiplexed ↔ Turn.showsPreface turns = true := by
  have hstage := h.stage
  unfold IsMultiplexed
  cases hs : d.stage with
  | multiplexed lastActivity =>
      rw [hs] at hstage
      simp [hstage.1]
  | busy | idle _ | head _ _ =>
      rw [hs] at hstage
      simp [hstage.1]

theorem isMultiplexed_after_iff (t : Timeouts) (start : Nat) (turns : List Turn) :
    ((accepted start).after t turns).IsMultiplexed ↔ Turn.showsPreface turns = true :=
  (tracks_after t start turns).isMultiplexed_iff

/-! ## Main result -/

/-- In every state that a history leaves, the matched bytes of a head are at most three, and those of a scan
that goes on from there or starts afresh stay a place in the end of a head. A connection that waits for an
answer knows when it is due, one with a head or a multiplexed one has nothing due. A connection that is
multiplexed stays so, and one that is not when something has been read never becomes so. -/
theorem coupled_and_multiplexed_by_first_read (t : Timeouts) (start : Nat) (turns : List Turn) :
    let d := (accepted start).after t turns
    d.Coupled ∧
      (∀ since matched, d.stage = .head since matched ∨ d.stage = .idle since ∧ matched = 0 →
        ∀ bytes matched', scanHeadEnd matched bytes = some matched' → matched' < headEnd.length) ∧
      ∀ later, let d' := (accepted start).after t (turns ++ later)
        (d.IsMultiplexed → d'.IsMultiplexed) ∧
          (Turn.firstRead? turns ≠ none → d'.IsMultiplexed → d.IsMultiplexed) := by
  intro d
  have hcoupled : d.Coupled := coupled_after t start turns
  refine ⟨hcoupled, fun since matched hscans bytes matched' hscan ↦ ?_, fun later ↦ ?_⟩
  · refine lt_of_scanHeadEnd_eq_some ?_ hscan
    rcases hscans with hhead | ⟨-, rfl⟩
    · have hstage := hcoupled.stage
      rw [hhead] at hstage
      exact Nat.lt_succ_of_le hstage.1
    · decide
  · intro d'
    rw [isMultiplexed_after_iff, isMultiplexed_after_iff]
    constructor
    · intro hpreface
      rwa [Turn.showsPreface_append (Turn.firstRead?_ne_none_of_showsPreface hpreface)]
    · intro hread hpreface
      rwa [Turn.showsPreface_append hread] at hpreface

/-- A byte that is read behind a part of an answer begins a head, and nothing is due any more. -/
example : ((accepted 0).after ⟨10, 60, 120⟩
    [⟨1, .read (.ready headEnd)⟩, ⟨2, .write 9 (.ready 4)⟩, ⟨3, .read (.ready [0x0D])⟩]) =
      ⟨.head 3 1, false, none, none⟩ := by
  decide

end Deadlines

end DepositGate.Connection
