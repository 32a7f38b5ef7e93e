import DepositGate.Log
import DepositGate.Message.Basic

/-!
# Deposit backends

What stands behind the gate: something that binds sky addresses to deposit addresses and knows how far
their deposits have got. A call takes its time, and who waits for it may give up before its end.
-/

namespace DepositGate

inductive BackendFault where
  | noDepositAddress
  | failed (message : String)
deriving DecidableEq, Repr

def BackendFault.message : BackendFault → String
  | noDepositAddress => "no deposit address available"
  | failed message => message

/-- A call of a backend: how long it takes in milliseconds, what it gives and leaves behind, and what it has done
where it is cut off before its end. -/
structure Called (σ α : Type) where
  duration : Nat
  result : Except BackendFault α
  state : σ
  events : List Event
  cutState : σ
  cutEvents : List Event

structure Ended (σ α : Type) where
  result? : Option (Except BackendFault α)
  state : σ
  events : List Event

namespace Called

variable {σ α : Type}

def atOnce (result : Except BackendFault α) (state : σ) (events : List Event) : Called σ α :=
  ⟨0, result, state, events, state, events⟩

/-- What comes of a call that is cut off after some milliseconds. -/
def within (limit : Nat) (c : Called σ α) : Ended σ α :=
  if limit ≤ c.duration then ⟨none, c.cutState, c.cutEvents⟩ else ⟨some c.result, c.state, c.events⟩

@[simp] theorem result_atOnce (result : Except BackendFault α) (state : σ) (events : List Event) :
    (atOnce result state events).result = result := rfl

@[simp] theorem state_atOnce (result : Except BackendFault α) (state : σ) (events : List Event) :
    (atOnce result state events).state = state := rfl

theorem atOnce_inj {result result' : Except BackendFault α} {state state' : σ} {events events' : List Event} :
    atOnce result state events = atOnce result' state' events' ↔
      result = result' ∧ state = state' ∧ events = events' := by
  simp only [atOnce, mk.injEq, true_and]
  exact ⟨fun h ↦ ⟨h.1, h.2.1, h.2.2.1⟩, fun h ↦ ⟨h.1, h.2.1, h.2.2, h.2.1, h.2.2⟩⟩

theorem within_of_lt {limit : Nat} {c : Called σ α} (h : c.duration < limit) :
    c.within limit = ⟨some c.result, c.state, c.events⟩ :=
  if_neg (Nat.not_le.mpr h)

theorem within_atOnce {limit : Nat} (hlimit : 0 < limit) (result : Except BackendFault α) (state : σ)
    (events : List Event) : (atOnce result state events).within limit = ⟨some result, state, events⟩ :=
  within_of_lt hlimit

@[simp] theorem result?_within_eq_none_iff {limit : Nat} {c : Called σ α} :
    (c.within limit).result? = none ↔ limit ≤ c.duration := by
  unfold within
  split <;> simp_all

end Called

/-- A backend with states `σ`. A binding is made at a second of the era that starts with 1970. -/
structure Backend (σ : Type) where
  bind : (skyAddr : String) → (second : Int) → σ → Called σ String
  statuses : (skyAddr : String) → σ → Called σ (List DepositStatus)

def Backend.constant (delay : Nat) (bound : Except BackendFault String)
    (statuses : Except BackendFault (List DepositStatus)) : Backend Unit where
  bind _ _ _ := ⟨delay, bound, (), [], (), []⟩
  statuses _ _ := ⟨delay, statuses, (), [], (), []⟩

end DepositGate
