import Mathlib.Data.List.Induction
import Mathlib.Order.Nat
import DepositGate.Connection.Deadline

/-!
# Histories of a connection

A history lists the polls of a connection, each with the time on the clock and with what the stream
below makes of it. Only two kinds of polls move bytes: a read that brings some, and a write that takes
some. All other polls leave the stage alone.
-/

namespace DepositGate.Connection

/-- A poll of a connection, with what comes of it without deadlines. A write offers a number of bytes. -/
inductive Poll where
  | read (inner : Attempt (List UInt8))
  | write (offered : Nat) (inner : Attempt Nat)
  | settle (inner : Attempt Unit)
deriving DecidableEq, Repr

structure Turn where
  time : Nat
  poll : Poll
deriving DecidableEq, Repr

inductive Way where
  | inward
  | outward
deriving DecidableEq, Repr

namespace Turn

def way? : Turn → Option Way
  | ⟨_, .read (.ready (_ :: _))⟩ => some .inward
  | ⟨_, .write _ (.ready (_ + 1))⟩ => some .outward
  | _ => none

/-- Turns by a clock that shows `start` at first and never goes back. -/
def Ordered (start : Nat) (turns : List Turn) : Prop :=
  (start :: turns.map Turn.time).Pairwise (· ≤ ·)

instance (start : Nat) (turns : List Turn) : Decidable (Ordered start turns) :=
  inferInstanceAs (Decidable ((start :: turns.map Turn.time).Pairwise (· ≤ ·)))

/-- The way that bytes have gone last. -/
def lastWay? (turns : List Turn) : Option Way :=
  (turns.filterMap way?).getLast?

@[simp] theorem lastWay?_nil : lastWay? [] = none := rfl

@[simp] theorem lastWay?_concat (turns : List Turn) (u : Turn) :
    lastWay? (turns ++ [u]) = u.way?.or (lastWay? turns) := by
  cases hway : u.way? with
  | none => simp [lastWay?, hway]
  | some way => simp [lastWay?, hway]

theorem Ordered.start_le {start : Nat} {turns : List Turn} (h : Ordered start turns) {u : Turn}
    (hu : u ∈ turns) : start ≤ u.time :=
  (List.pairwise_cons.mp h).1 u.time (List.mem_map_of_mem hu)

theorem Ordered.le_last {start : Nat} {turns : List Turn} {u : Turn}
    (h : Ordered start (turns ++ [u])) {v : Turn} (hv : v ∈ turns) : v.time ≤ u.time := by
  have hturns := (List.pairwise_cons.mp h).2
  rw [List.map_append] at hturns
  exact (List.pairwise_append.mp hturns).2.2 v.time (List.mem_map_of_mem hv) u.time (by simp)

theorem Ordered.mono {start : Nat} {past turns : List Turn} (h : Ordered start turns)
    (hpast : past <+: turns) : Ordered start past :=
  h.sublist (List.Sublist.cons_cons start (hpast.sublist.map Turn.time))

end Turn

namespace Deadlines

def next (t : Timeouts) (d : Deadlines) (u : Turn) : Deadlines :=
  match u.poll with
  | .read inner => (d.read t u.time inner).2
  | .write _ inner => (d.write t u.time inner).2
  | .settle inner => (d.settle t u.time inner).2

def after (t : Timeouts) (d : Deadlines) (turns : List Turn) : Deadlines :=
  turns.foldl (next t) d

@[simp] theorem after_nil (t : Timeouts) (d : Deadlines) : d.after t [] = d := rfl

@[simp] theorem after_concat (t : Timeouts) (d : Deadlines) (turns : List Turn) (u : Turn) :
    d.after t (turns ++ [u]) = (d.after t turns).next t u := by
  simp [after]

theorem scan_of_eq_none {t : Timeouts} {now since matched : Nat} {bytes : List UInt8} (d : Deadlines)
    (h : scanHeadEnd matched bytes = none) : d.scan t now since matched bytes =
      { d with stage := .busy, response := some (now + t.write) } := by
  simp [scan, h]

theorem scan_of_eq_some {t : Timeouts} {now since matched matched' : Nat} {bytes : List UInt8}
    (d : Deadlines) (h : scanHeadEnd matched bytes = some matched') :
    d.scan t now since matched bytes = { d with stage := .head since matched' } := by
  simp [scan, h]

/-- What a read does, by where the connection stands: the first one may show a multiplexed connection. -/
theorem onRead_cases (t : Timeouts) (now : Nat) (bytes : List UInt8) (d : Deadlines) :
    ((d.firstRead && isPreface bytes ∨ ∃ lastActivity, d.stage = .multiplexed lastActivity) ∧
      d.onRead t now bytes = { d with firstRead := false, stage := .multiplexed now }) ∨
    (∃ since matched, d.stage = .head since matched ∧ d.onRead t now bytes =
      ({ d with firstRead := false } : Deadlines).scan t now since matched bytes) ∨
    (∃ since, d.stage = .idle since ∧ d.onRead t now bytes =
      ({ d with firstRead := false, response := none } : Deadlines).scan t now now 0 bytes) ∨
    (d.stage = .busy ∧ d.onRead t now bytes = { d with firstRead := false }) := by
  by_cases hpreface : (d.firstRead && isPreface bytes) = true
  · exact Or.inl ⟨Or.inl hpreface, by simp [onRead, hpreface]⟩
  · cases hstage : d.stage with
    | head since matched =>
        exact Or.inr (Or.inl ⟨since, matched, rfl, by simp [onRead, hpreface, hstage]⟩)
    | busy => exact Or.inr (Or.inr (Or.inr ⟨rfl, by simp [onRead, hpreface, hstage]⟩))
    | idle since =>
        exact Or.inr (Or.inr (Or.inl ⟨since, rfl, by simp [onRead, hpreface, hstage]⟩))
    | multiplexed lastActivity =>
        exact Or.inl ⟨Or.inr ⟨lastActivity, rfl⟩, by simp [onRead, hpreface, hstage]⟩

/-- What a write does, by whether the connection is multiplexed. -/
theorem onWrite_cases (now : Nat) (d : Deadlines) :
    ((∃ lastActivity, d.stage = .multiplexed lastActivity) ∧
      d.onWrite now = { d with stall := none, stage := .multiplexed now }) ∨
    ((∀ lastActivity, d.stage ≠ .multiplexed lastActivity) ∧
      d.onWrite now = { d with stall := none, stage := .idle now }) := by
  cases hstage : d.stage with
  | multiplexed lastActivity => exact Or.inl ⟨⟨lastActivity, rfl⟩, by simp [onWrite, hstage]⟩
  | _ => exact Or.inr ⟨by simp, by simp [onWrite, hstage]⟩

/-- What waits can only set the stall deadline, and only outside an answer. -/
theorem onBlocked_eq (t : Timeouts) (now : Nat) (d : Deadlines) :
    d.onBlocked t now = d ∨
      d.response = none ∧ d.onBlocked t now = { d with stall := some (d.writeDeadline t now) } := by
  cases hresponse : d.response with
  | none => exact Or.inr ⟨rfl, by simp [onBlocked, hresponse]⟩
  | some deadline => exact Or.inl (by simp [onBlocked, hresponse])

theorem read_pending_snd (t : Timeouts) (now : Nat) (d : Deadlines) :
    (d.read t now .pending).2 = d := by
  unfold read
  cases d.readDeadline t <;> rfl

/-- What a turn does, by the way its bytes go. -/
theorem next_cases (t : Timeouts) (d : Deadlines) (u : Turn) :
    (u.way? = none ∧ (d.next t u = d ∨
      d.response = none ∧ d.next t u = { d with stall := some (d.writeDeadline t u.time) })) ∨
    (u.way? = some .inward ∧ ∃ bytes, bytes ≠ [] ∧ u.poll = .read (.ready bytes) ∧
      d.next t u = d.onRead t u.time bytes) ∨
    (u.way? = some .outward ∧ d.next t u = d.onWrite u.time) := by
  obtain ⟨time, poll⟩ := u
  cases poll with
  | read inner =>
      cases inner with
      | pending => exact Or.inl ⟨rfl, Or.inl (read_pending_snd t time d)⟩
      | failed f => exact Or.inl ⟨rfl, Or.inl rfl⟩
      | ready bytes =>
          cases bytes with
          | nil => exact Or.inl ⟨rfl, Or.inl rfl⟩
          | cons b bytes =>
              exact Or.inr (Or.inl ⟨rfl, b :: bytes, List.cons_ne_nil b bytes, rfl, rfl⟩)
  | write offered inner =>
      cases inner with
      | pending => exact Or.inl ⟨rfl, d.onBlocked_eq t time⟩
      | failed f => exact Or.inl ⟨rfl, Or.inl rfl⟩
      | ready n =>
          cases n with
          | zero => exact Or.inl ⟨rfl, Or.inl rfl⟩
          | succ n => exact Or.inr (Or.inr ⟨rfl, by simp [next, write]⟩)
  | settle inner =>
      cases inner with
      | pending => exact Or.inl ⟨rfl, d.onBlocked_eq t time⟩
      | ready _ => exact Or.inl ⟨rfl, Or.inl rfl⟩
      | failed f => exact Or.inl ⟨rfl, Or.inl rfl⟩

end Deadlines

end DepositGate.Connection
