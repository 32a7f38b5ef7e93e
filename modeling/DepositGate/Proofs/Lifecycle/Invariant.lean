import Mathlib.Logic.Basic
import DepositGate.Proofs.Lifecycle.Transition

/-!
# What holds in every reachable state

The token belongs to the newest run and is there as long as the phase is `Starting` or `Running`, and
there are listeners only then. All runs whose token is not there are over: they are cancelled, or they
have returned.
-/

namespace DepositGate.Lifecycle

variable {places : List Place} {s t : State} {n k : Nat} {r r' : Run} {m : Move}

/-! ## Runs -/

def Stage.opens : Stage → Bool
  | opening _ | preparing _ _ => true
  | _ => false

/-- Whether the only thing left is to wait for listeners and to return. -/
def Stage.settled : Stage → Bool
  | opening _ | preparing _ _ | failing _ => false
  | _ => true

/-- Whether a run is cancelled or has returned. -/
def Run.Over (r : Run) : Prop :=
  r.cancelled = true ∨ ∃ fault, r.stage = .closed fault

/-- What all steps of a run have in common. -/
structure Run.Advances (r r' : Run) : Prop where
  stays_over : r.Over → r'.Over
  opens : r'.cancelled = true → r'.stage.opens = true → r.cancelled = true ∧ r.stage.opens = true
  settled : r.Over → r.stage.settled = true → r'.stage.settled = true

-- A run that is over cannot fail any more, since only a run that is not cancelled sees a fault.
theorem RunTransition.advances (h : RunTransition s n r m t) :
    ∃ r', t.runs = s.runs.set n r' ∧ r.Advances r' := by
  cases h
  all_goals refine ⟨_, rfl, ?_, ?_, ?_⟩
  all_goals simp_all [Run.Over, Run.abandoned, Run.started, Stage.opens, Stage.settled]

/-! ## What the calls share -/

/-- The invariant. -/
structure Sound (s : State) : Prop where
  newest : ∀ n, s.token = some n → n + 1 = s.runs.length
  active : s.token ≠ none ↔ s.phase = .starting ∨ s.phase = .running
  unlisted : s.token = none → s.listeners = []
  others : ∀ n r, s.runs[n]? = some r → s.token ≠ some n → r.Over
  opens : ∀ n r, s.runs[n]? = some r → s.token = some n → r.cancelled = true → r.stage.opens = false

/-- A step of a run changes what the calls share as long as there is a token, or takes the token away. -/
theorem RunTransition.shares (h : RunTransition s n r m t) :
    (t.token = s.token ∧ t.phase = s.phase ∧ t.listeners = s.listeners) ∨
    (t.token = s.token ∧ t.phase = s.phase ∧ s.token ≠ none) ∨
    (t.token = s.token ∧ t.listeners = s.listeners ∧ s.phase = .starting ∧ t.phase = .running) ∨
    (t.token = none ∧ t.listeners = [] ∧ t.phase.acceptsRun = true ∧ n + 1 = s.runs.length ∧
      ∃ fault, t.runs = s.runs.set n { r with stage := .closed fault }) := by
  cases h with
  | opened hstage htoken hplain => exact .inr (.inl ⟨rfl, rfl, htoken⟩)
  | announced hstage htoken htls => exact .inr (.inl ⟨rfl, rfl, htoken⟩)
  | promoted hstage hphase => exact .inr (.inr (.inl ⟨rfl, rfl, hphase, rfl⟩))
  | failed hstage hnewest => exact .inr (.inr (.inr ⟨rfl, rfl, rfl, hnewest, _, rfl⟩))
  | succeeded hstage hnewest hphase => exact .inr (.inr (.inr ⟨rfl, rfl, rfl, hnewest, _, rfl⟩))
  | _ => exact .inl ⟨rfl, rfl, rfl⟩

theorem sound_initial : Sound .initial := by
  constructor <;> simp [State.initial]

theorem eq_or_of_getElem?_set {runs : List Run} {r₁ : Run}
    (h : (runs.set n r')[k]? = some r₁) : k = n ∧ r₁ = r' ∨ k ≠ n ∧ runs[k]? = some r₁ := by
  by_cases hk : k = n
  · subst hk
    obtain ⟨hlt, heq⟩ := List.getElem?_eq_some_iff.mp h
    exact .inl ⟨rfl, by simpa using heq.symm⟩
  · exact .inr ⟨hk, by rwa [List.getElem?_set_ne (Ne.symm hk)] at h⟩

theorem cancelled_or_of_getElem?_modify {runs : List Run}
    (h : (runs.modify n fun r ↦ { r with cancelled := true })[k]? = some r) :
    ∃ r₀, runs[k]? = some r₀ ∧ (n = k ∧ r = { r₀ with cancelled := true } ∨ n ≠ k ∧ r = r₀) := by
  rw [List.getElem?_modify] at h
  obtain ⟨r₀, hr₀, rfl⟩ := Option.map_eq_some_iff.mp h
  by_cases hnk : n = k
  · exact ⟨r₀, hr₀, .inl ⟨hnk, if_pos hnk⟩⟩
  · exact ⟨r₀, hr₀, .inr ⟨hnk, if_neg hnk⟩⟩

/-- A step is one of the run itself, or it does nothing to the run but that its token may be cancelled. -/
theorem Transition.own_or_keeps (h : Transition places s m t) (hrun : s.runs[n]? = some r) :
    RunTransition s n r m t ∨
      m.number? ≠ some n ∧ (t.runs[n]? = some r ∨ t.runs[n]? = some { r with cancelled := true }) := by
  cases h with
  | accepted hphase =>
      obtain ⟨hlt, -⟩ := List.getElem?_eq_some_iff.mp hrun
      refine .inr ⟨by simp [Move.number?], .inl ?_⟩
      rwa [List.getElem?_append_left hlt]
  | @cancelled k htoken =>
      refine .inr ⟨by simp [Move.number?], ?_⟩
      by_cases hk : k = n
      · exact .inr (by simp [hk, hrun])
      · exact .inl (by simp [hk, hrun])
  | rejected | needless | finished | outlived => exact .inr ⟨by simp [Move.number?], .inl hrun⟩
  | @run k r₁ m t hrun₁ hstep =>
      by_cases hk : k = n
      · subst hk
        obtain rfl : r₁ = r := Option.some.inj (hrun₁.symm.trans hrun)
        exact .inl hstep
      · obtain ⟨r', hruns, -⟩ := hstep.advances
        refine .inr ⟨by simpa [hstep.number?_eq] using hk, .inl ?_⟩
        rwa [hruns, List.getElem?_set_ne hk]

/-- The invariant with the token kept. -/
theorem Sound.keep (hs : Sound s) (hrun : s.runs[n]? = some r) (hadv : r.Advances r')
    (hruns : t.runs = s.runs.set n r') (htoken : t.token = s.token)
    (hactive : t.phase = .starting ∨ t.phase = .running ↔ s.phase = .starting ∨ s.phase = .running)
    (hlisteners : s.token = none → t.listeners = []) : Sound t where
  newest k hk := by
    rw [hruns, List.length_set]
    exact hs.newest k (htoken ▸ hk)
  active := by rw [htoken, hactive, hs.active]
  unlisted hnone := hlisteners (htoken ▸ hnone)
  others k r₁ hr₁ hk := by
    rw [hruns] at hr₁
    rw [htoken] at hk
    rcases eq_or_of_getElem?_set hr₁ with ⟨rfl, rfl⟩ | ⟨-, hr₁⟩
    · exact hadv.stays_over (hs.others _ r hrun hk)
    · exact hs.others k r₁ hr₁ hk
  opens k r₁ hr₁ hk hcancelled := by
    rw [hruns] at hr₁
    rw [htoken] at hk
    rcases eq_or_of_getElem?_set hr₁ with ⟨rfl, rfl⟩ | ⟨-, hr₁⟩
    · refine Bool.eq_false_iff.mpr fun hopens ↦ ?_
      obtain ⟨hcancelled, hopens⟩ := hadv.opens hcancelled hopens
      exact absurd (hs.opens _ r hrun hk hcancelled) (by simp [hopens])
    · exact hs.opens k r₁ hr₁ hk hcancelled

/-- The invariant without a token. -/
theorem Sound.of_token_eq_none (htoken : t.token = none) (hlisteners : t.listeners = [])
    (hphase : ¬(t.phase = .starting ∨ t.phase = .running))
    (hover : ∀ r ∈ t.runs, r.Over) : Sound t where
  newest k hk := by simp [htoken] at hk
  active := by simpa [htoken] using hphase
  unlisted _ := hlisteners
  others k r₁ hr₁ _ := hover r₁ (List.mem_of_getElem? hr₁)
  opens k r₁ _ hk := by simp [htoken] at hk

theorem not_active_of_acceptsRun {p : Phase} (h : p.acceptsRun = true) :
    ¬(p = .starting ∨ p = .running) := by
  cases p <;> simp_all [Phase.acceptsRun]

theorem Sound.token_eq_none (hs : Sound s) (hphase : ¬(s.phase = .starting ∨ s.phase = .running)) :
    s.token = none :=
  not_not.mp (mt hs.active.mp hphase)

theorem Sound.all_over (hs : Sound s) (htoken : s.token = none) :
    ∀ r ∈ s.runs, r.Over := by
  intro r hr
  obtain ⟨n, hn⟩ := List.mem_iff_getElem?.mp hr
  exact hs.others n r hn (by simp [htoken])

theorem Sound.run (hs : Sound s) (hrun : s.runs[n]? = some r) (h : RunTransition s n r m t) :
    Sound t := by
  obtain ⟨r', hruns, hadv⟩ := h.advances
  rcases h.shares with ⟨htoken, hphase, hlisteners⟩ | ⟨htoken, hphase, hsome⟩ |
    ⟨htoken, hlisteners, hstarting, hrunning⟩ | ⟨htoken, hlisteners, haccepts, hnewest, fault, hruns⟩
  · exact hs.keep hrun hadv hruns htoken (by rw [hphase]) (fun h ↦ hlisteners ▸ hs.unlisted h)
  · exact hs.keep hrun hadv hruns htoken (by rw [hphase]) (fun h ↦ absurd h hsome)
  · exact hs.keep hrun hadv hruns htoken (by simp [hstarting, hrunning])
      (fun h ↦ hlisteners ▸ hs.unlisted h)
  · refine .of_token_eq_none htoken hlisteners (not_active_of_acceptsRun haccepts) fun r₁ hr₁ ↦ ?_
    obtain ⟨k, hk⟩ := List.mem_iff_getElem?.mp hr₁
    rw [hruns] at hk
    rcases eq_or_of_getElem?_set hk with ⟨rfl, rfl⟩ | ⟨hne, hr₁⟩
    · exact .inr ⟨fault, rfl⟩
    · refine hs.others k r₁ hr₁ fun hother ↦ hne ?_
      have hlast := hs.newest k hother
      omega

theorem Sound.accept (hs : Sound s) (hphase : s.phase.acceptsRun = true) :
    Sound { s with
      phase := .starting, token := some s.runs.length, listeners := [],
      runs := s.runs ++ [⟨false, [], .opening places⟩] } where
  newest k hk := by simpa using hk.symm
  active := by simp
  unlisted h := rfl
  others k r₁ hr₁ hk := by
    have htoken := hs.token_eq_none (not_active_of_acceptsRun hphase)
    have hlt : k < s.runs.length := by
      obtain ⟨hlt, -⟩ := List.getElem?_eq_some_iff.mp hr₁
      simp only [List.length_append, List.length_singleton] at hlt
      have hne : k ≠ s.runs.length := by simpa [eq_comm] using hk
      omega
    rw [List.getElem?_append_left hlt] at hr₁
    exact hs.all_over htoken r₁ (List.mem_of_getElem? hr₁)
  opens k r₁ hr₁ hk hcancelled := by
    obtain rfl : s.runs.length = k := by simpa using hk
    obtain rfl : (⟨false, [], .opening places⟩ : Run) = r₁ := by simpa using hr₁
    cases hcancelled

/-- A shutdown leaves no run that is not over. -/
theorem Sound.cancel (hs : Sound s) (htoken : s.token = some n) :
    ∀ r ∈ s.runs.modify n (fun r ↦ { r with cancelled := true }), r.Over := by
  intro r hr
  obtain ⟨k, hk⟩ := List.mem_iff_getElem?.mp hr
  obtain ⟨r₀, hr₀, ⟨-, rfl⟩ | ⟨hnk, rfl⟩⟩ := cancelled_or_of_getElem?_modify hk
  · exact .inl rfl
  · exact hs.others k _ hr₀ (by simpa [htoken] using hnk)

theorem Sound.step (hs : Sound s) (h : Transition places s m t) : Sound t := by
  cases h with
  | accepted hphase => exact hs.accept hphase
  | rejected hphase => exact hs
  | cancelled htoken => exact .of_token_eq_none rfl rfl (by simp) (hs.cancel htoken)
  | needless htoken => exact hs
  | finished hd hnewest hphase =>
      have htoken : s.token = none := hs.token_eq_none (by simp [hphase])
      exact .of_token_eq_none htoken (hs.unlisted htoken) (by simp) (hs.all_over htoken)
  | outlived hd hleft => exact ⟨hs.newest, hs.active, hs.unlisted, hs.others, hs.opens⟩
  | run hrun hstep => exact hs.run hrun hstep

theorem Reachable.sound (h : Reachable places s) : Sound s := by
  induction h with
  | initial => exact sound_initial
  | step m _ hstep ih => exact ih.step (step?_eq_some_iff.mp hstep)

end DepositGate.Lifecycle
