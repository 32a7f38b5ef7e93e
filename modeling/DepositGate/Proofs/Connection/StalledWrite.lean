import DepositGate.Proofs.Connection.ReadDeadline

/-!
# When a write that waits fails

A multiplexed connection has no answers with budgets of their own. A write may wait there for the write
timeout, counted from the first poll that had to wait since bytes were last written, whichever of the
three kinds of polls it was. `stalled_write` says so for every history: the one deadline that these polls
share is worth no more than the history.
-/

namespace DepositGate.Connection

variable {t : Timeouts} {start now : Nat} {turns : List Turn} {u : Turn} {d : Deadlines}

/-! ## What a history shows -/

namespace Turn

def waits : Turn → Bool
  | ⟨_, .write _ .pending⟩ => true
  | ⟨_, .settle .pending⟩ => true
  | _ => false

def firstWait? (turns : List Turn) : Option Turn :=
  (sinceWrite turns).find? waits

/-- Since when writing has waited, if it waits now. -/
def waitsSince (turns : List Turn) (now : Nat) : Nat :=
  ((firstWait? turns).map Turn.time).getD now

/-- Nothing but the preface of a multiplexed connection may be read first. -/
def OpensMultiplexed (turns : List Turn) : Prop :=
  ∀ r, firstRead? turns = some r → isPreface r.bytes = true

theorem way?_eq_none_of_waits (h : u.waits = true) : u.way? = none := by
  obtain ⟨time, poll⟩ := u
  match poll with
  | .write _ .pending | .settle .pending => rfl
  | .read _ | .write _ (.ready _) | .write _ (.failed _) | .settle (.ready _)
  | .settle (.failed _) => cases h

theorem firstWait?_concat (turns : List Turn) (u : Turn) :
    firstWait? (turns ++ [u]) =
      if u.way? = some .outward then none
      else (firstWait? turns).or (if u.waits then some u else none) := by
  unfold firstWait?
  rw [sinceWrite_concat]
  by_cases hway : u.way? = some .outward
  · simp [hway]
  · simp [hway, List.find?_append, List.find?_singleton]

/-- What neither writes bytes nor waits to do so leaves the first wait as it is. -/
theorem firstWait?_concat_of_not_waits (hway : u.way? ≠ some .outward) (hwaits : u.waits = false) :
    firstWait? (turns ++ [u]) = firstWait? turns := by
  simp [firstWait?_concat, hway, hwaits]

theorem waitsSince_concat_read (turns : List Turn) (time : Nat) (inner : Attempt (List UInt8))
    (now : Nat) : waitsSince (turns ++ [⟨time, .read inner⟩]) now = waitsSince turns now := by
  have hway : (⟨time, .read inner⟩ : Turn).way? ≠ some .outward := by
    match inner with
    | .ready [] | .ready (_ :: _) | .pending | .failed _ => simp [way?]
  rw [waitsSince, firstWait?_concat_of_not_waits hway rfl, waitsSince]

theorem waitsSince_concat_write_zero (turns : List Turn) (time offered now : Nat) :
    waitsSince (turns ++ [⟨time, .write offered (.ready 0)⟩]) now = waitsSince turns now := by
  rw [waitsSince, firstWait?_concat_of_not_waits (by simp [way?]) rfl, waitsSince]

theorem OpensMultiplexed.of_concat (h : OpensMultiplexed (turns ++ [u])) : OpensMultiplexed turns := by
  intro r hr
  apply h
  rw [firstRead?_concat, hr, Option.some_or]

end Turn

open Turn

namespace Deadlines

/-! ## What a turn does to the shared deadline -/

theorem next_of_waits (t : Timeouts) (d : Deadlines) (h : u.waits = true) :
    d.next t u = d.onBlocked t u.time := by
  obtain ⟨time, poll⟩ := u
  match poll with
  | .write _ .pending | .settle .pending => rfl
  | .read _ | .write _ (.ready _) | .write _ (.failed _) | .settle (.ready _)
  | .settle (.failed _) => cases h

theorem next_of_still (t : Timeouts) (d : Deadlines) (hway : u.way? = none)
    (hwaits : u.waits = false) : d.next t u = d := by
  obtain ⟨time, poll⟩ := u
  match poll with
  | .read .pending => exact read_pending_snd t time d
  | .read (.ready []) | .read (.failed _) | .write _ (.ready 0) | .write _ (.failed _)
  | .settle (.ready _) | .settle (.failed _) => rfl
  | .read (.ready (_ :: _)) | .write _ (.ready (_ + 1)) => cases hway
  | .write _ .pending | .settle .pending => cases hwaits

/-- Every read that brings bytes leaves a connection multiplexed whose first read shows the preface. -/
theorem Tracks.onRead_of_opensMultiplexed (h : Tracks start turns d) (hway : u.way? = some .inward)
    (hopens : OpensMultiplexed (turns ++ [u])) :
    d.onRead t u.time u.bytes = { d with firstRead := false, stage := .multiplexed u.time } := by
  cases hread : firstRead? turns with
  | none =>
      have hfirst : firstRead? (turns ++ [u]) = some u := by
        rw [firstRead?_concat, hread, Option.none_or, if_pos hway]
      exact onRead_of_preface (by simp [h.firstRead, hread, hopens u hfirst])
  | some r =>
      have hpreface : showsPreface turns = true := by
        simp [showsPreface, hread, hopens.of_concat r hread]
      have hfirst : (d.firstRead && isPreface u.bytes) = false := by
        simp [h.firstRead, hread]
      have hstage := h.stage
      rw [onRead_of_plain hfirst]
      cases hs : d.stage with
      | multiplexed lastActivity => rfl
      | busy | idle _ | head _ _ =>
          rw [hs] at hstage
          exact absurd hstage.1 (by simp [hpreface])

/-- A connection without an answer, whose shared deadline shows since when writing has waited. -/
structure ShowsWait (t : Timeouts) (turns : List Turn) (d : Deadlines) : Prop where
  response : d.response = none
  stall : d.stall = (firstWait? turns).map (·.time + t.write)

theorem ShowsWait.writeDeadline (h : ShowsWait t turns d) (now : Nat) :
    d.writeDeadline t now = waitsSince turns now + t.write := by
  rw [Deadlines.writeDeadline, h.response, h.stall, waitsSince]
  cases firstWait? turns <;> rfl

theorem ShowsWait.onBlocked (h : ShowsWait t turns d) (hwaits : u.waits = true) :
    ShowsWait t (turns ++ [u]) (d.onBlocked t u.time) := by
  have hblocked : d.onBlocked t u.time = { d with stall := some (d.writeDeadline t u.time) } := by
    simp [Deadlines.onBlocked, h.response]
  have hway : u.way? ≠ some .outward := by
    simp [way?_eq_none_of_waits hwaits]
  rw [hblocked]
  refine ⟨h.response, ?_⟩
  rw [h.writeDeadline, firstWait?_concat, if_neg hway, if_pos hwaits, waitsSince]
  cases firstWait? turns <;> rfl

theorem ShowsWait.next (h : ShowsWait t turns d) (htracks : Tracks start turns d)
    (hopens : OpensMultiplexed (turns ++ [u])) : ShowsWait t (turns ++ [u]) (d.next t u) := by
  -- Of the turns that move no bytes only those that wait touch the shared deadline.
  rcases next_cases t d u with ⟨hway, -⟩ | ⟨hway, bytes, -, hpoll, hnext⟩ | ⟨hway, hnext⟩
  · have houtward : u.way? ≠ some .outward := by simp [hway]
    cases hwaits : u.waits with
    | true =>
        rw [next_of_waits t d hwaits]
        exact h.onBlocked hwaits
    | false =>
        rw [next_of_still t d hway hwaits]
        exact ⟨h.response, by rw [firstWait?_concat_of_not_waits houtward hwaits, h.stall]⟩
  · obtain ⟨time, poll⟩ := u
    obtain rfl : poll = .read (.ready bytes) := hpoll
    rw [hnext]
    refine (htracks.onRead_of_opensMultiplexed hway hopens).symm ▸ ⟨h.response, ?_⟩
    rw [firstWait?_concat_of_not_waits (by simp [hway]) rfl]
    exact h.stall
  · have hstall : firstWait? (turns ++ [u]) = none := by
      rw [firstWait?_concat, if_pos hway]
    rw [hnext]
    rcases onWrite_cases u.time d with ⟨-, heq⟩ | ⟨-, heq⟩ <;> rw [heq]
    all_goals exact ⟨h.response, by rw [hstall, Option.map_none]⟩

theorem showsWait_after (t : Timeouts) (start : Nat) (hopens : OpensMultiplexed turns) :
    ShowsWait t turns ((accepted start).after t turns) := by
  induction turns using List.reverseRecOn with
  | nil => exact ⟨rfl, rfl⟩
  | append_singleton turns u ih =>
      rw [after_concat]
      exact (ih hopens.of_concat).next (tracks_after t start turns) hopens

/-! ## Main result -/

theorem blocked_fst {α : Type} (t : Timeouts) (now : Nat) (d : Deadlines) :
    (d.blocked t now : Attempt α × Deadlines).1 =
      if d.writeDeadline t now ≤ now then .failed (.timedOut .write) else .pending := rfl

theorem read_fst_of_ne_pending (t : Timeouts) (now : Nat) (d : Deadlines)
    {inner : Attempt (List UInt8)} (h : inner ≠ .pending) : (d.read t now inner).1 = inner := by
  cases inner with
  | pending => exact absurd rfl h
  | ready bytes => rfl
  | failed f => rfl

/-- On a connection that is multiplexed by its first read, a poll to write, flush or end the writing fails
for its deadline exactly if it has to wait when writing has waited for the write timeout. Any other result
is what it is without deadlines, and neither reads nor writes of nothing change since when writing has
waited. -/
theorem stalled_write (t : Timeouts) (start : Nat) (hopens : OpensMultiplexed turns) (now : Nat) :
    (∀ inner : Attempt Nat, (((accepted start).after t turns).write t now inner).1 =
      if inner = .pending ∧ waitsSince turns now + t.write ≤ now then .failed (.timedOut .write)
      else inner) ∧
    (∀ inner : Attempt Unit, (((accepted start).after t turns).settle t now inner).1 =
      if inner = .pending ∧ waitsSince turns now + t.write ≤ now then .failed (.timedOut .write)
      else inner) ∧
    (∀ inner : Attempt (List UInt8), inner ≠ .pending →
      (((accepted start).after t turns).read t now inner).1 = inner) ∧
    (∀ time inner, waitsSince (turns ++ [⟨time, .read inner⟩]) now = waitsSince turns now) ∧
    ∀ time offered,
      waitsSince (turns ++ [⟨time, .write offered (.ready 0)⟩]) now = waitsSince turns now := by
  have hdue := (showsWait_after t start hopens).writeDeadline now
  refine ⟨?_, ?_, ?_, ?_, ?_⟩
  · intro inner
    cases inner with
    | pending => simp [write, blocked_fst, hdue]
    | ready n => simp [write]
    | failed f => simp [write]
  · intro inner
    cases inner with
    | pending => simp [settle, blocked_fst, hdue]
    | ready a => simp [settle]
    | failed f => simp [settle]
  · intro inner hready
    exact read_fst_of_ne_pending t now _ hready
  · intro time inner
    exact waitsSince_concat_read turns time inner now
  · intro time offered
    exact waitsSince_concat_write_zero turns time offered now

/-- Writing waits since a flush at 5, whatever is read or not written afterwards: at 105 it fails. -/
theorem stalled_since_flush :
    let turns : List Turn :=
      [⟨1, .read (.ready preface)⟩, ⟨2, .write 9 (.ready 9)⟩, ⟨5, .settle .pending⟩,
        ⟨40, .read (.ready [0x47])⟩, ⟨60, .write 9 (.ready 0)⟩, ⟨70, .write 9 .pending⟩]
    OpensMultiplexed turns ∧
      (((accepted 0).after ⟨10, 100, 400⟩ turns).write ⟨10, 100, 400⟩ 104 .pending).1 = .pending ∧
      (((accepted 0).after ⟨10, 100, 400⟩ turns).settle ⟨10, 100, 400⟩ 105 .pending).1 =
        .failed (.timedOut .write) := by
  intro turns
  have hopens : OpensMultiplexed turns := by
    intro r hr
    obtain rfl := Option.some.inj hr
    decide
  have hbefore := (stalled_write ⟨10, 100, 400⟩ 0 hopens 104).1 .pending
  have hdue := (stalled_write ⟨10, 100, 400⟩ 0 hopens 105).2.1 .pending
  refine ⟨hopens, ?_, ?_⟩
  · rw [hbefore]
    decide
  · rw [hdue]
    decide

end Deadlines

end DepositGate.Connection
