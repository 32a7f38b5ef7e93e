import DepositGate.Proofs.Lifecycle.Invariant
import DepositGate.Proofs.Lifecycle.Tasks

/-!
# Once all calls have returned

A run and a shutdown each take the other's transition to its end, in either order, and a failure may come
in between. `token_iff_active_and_recovers` says that this never gets a server stuck: whenever no call is
in progress, nothing is left of the earlier runs, and the next run is accepted.
-/

namespace DepositGate.Lifecycle

variable {places : List Place} {s t : State} {n k : Nat} {r r' : Run} {m : Move}

/-! ## Runs that return -/

def Stage.ends : Stage → Bool
  | closing _ | closed _ => true
  | _ => false

def Run.Returned (r : Run) : Prop :=
  ∃ fault, r.stage = .closed fault

/-- A run leaves no tasks behind. -/
def Run.LeavesNone (r : Run) : Prop :=
  r.stage.ends = true → r.tasks = []

-- Only the run that owns the token could keep a server from the next run. It returns without the token
-- unless a shutdown has taken that before.
theorem RunTransition.leaves (h : RunTransition s n r m t) :
    ∃ r', t.runs = s.runs.set n r' ∧ (r.LeavesNone → r'.LeavesNone) ∧
      (r'.Returned → r.Returned ∨ t.token = none ∨ n + 1 ≠ s.runs.length ∨
        s.phase = .shuttingDown) := by
  cases h with
  | ended ending htask =>
      refine ⟨_, rfl, fun hleaves hends ↦ ?_, .inl⟩
      simp [hleaves hends] at htask
  | returned hstage hleft =>
      refine ⟨_, rfl, fun hleaves _ ↦ hleaves (by simp [hstage, Stage.ends]), fun _ ↦ ?_⟩
      exact .inr (.inr (hleft.imp_right And.right))
  | _ =>
      refine ⟨_, rfl, ?_, ?_⟩
      all_goals simp_all [Run.LeavesNone, Run.Returned, Run.abandoned, Run.started, Stage.ends]

theorem RunTransition.shutdowns_eq (h : RunTransition s n r m t) : t.shutdowns = s.shutdowns := by
  cases h <;> rfl

theorem RunTransition.token_eq_some (h : RunTransition s n r m t) (ht : t.token = some k) :
    s.token = some k := by
  rcases h.shares with ⟨htoken, -⟩ | ⟨htoken, -⟩ | ⟨htoken, -⟩ | ⟨hnone, -⟩
  · exact htoken ▸ ht
  · exact htoken ▸ ht
  · exact htoken ▸ ht
  · simp [hnone] at ht

theorem RunTransition.phase_eq_shuttingDown (h : RunTransition s n r m t)
    (ht : t.phase = .shuttingDown) : s.phase = .shuttingDown := by
  rcases h.shares with ⟨-, hphase, -⟩ | ⟨-, hphase, -⟩ | ⟨-, -, -, hrunning⟩ | ⟨-, -, haccepts, -⟩
  · exact hphase ▸ ht
  · exact hphase ▸ ht
  · simp [hrunning] at ht
  · simp [ht, Phase.acceptsRun] at haccepts

/-! ## What is still to come -/

/-- Somebody is always there to take a transition to its end: the run that owns the token, or a shutdown
after which no run has been accepted. -/
structure Attended (s : State) : Prop where
  owner : ∀ n r, s.token = some n → s.runs[n]? = some r → ¬r.Returned
  stopping : s.phase = .shuttingDown → ∃ d ∈ s.shutdowns, d.accepted = s.runs.length
  leaves : ∀ r ∈ s.runs, r.LeavesNone

theorem attended_initial : Attended .initial := by
  constructor <;> simp [State.initial]

theorem Attended.run (ha : Attended s) (hs : Sound s) (hrun : s.runs[n]? = some r)
    (h : RunTransition s n r m t) : Attended t := by
  obtain ⟨r', hruns, hleaves, hreturns⟩ := h.leaves
  refine ⟨fun k r₁ hk hr₁ hreturned ↦ ?_, fun hphase ↦ ?_, fun r₁ hr₁ ↦ ?_⟩
  · have hk' := h.token_eq_some hk
    rw [hruns] at hr₁
    rcases eq_or_of_getElem?_set hr₁ with ⟨rfl, rfl⟩ | ⟨-, hr₁⟩
    · rcases hreturns hreturned with hreturned | hnone | hother | hphase
      · exact ha.owner _ r hk' hrun hreturned
      · simp [hnone] at hk
      · exact hother (hs.newest _ hk')
      · have hactive := hs.active.mp (by simp [hk'])
        simp [hphase] at hactive
    · exact ha.owner k r₁ hk' hr₁ hreturned
  · obtain ⟨d, hd, haccepted⟩ := ha.stopping (h.phase_eq_shuttingDown hphase)
    exact ⟨d, by rwa [h.shutdowns_eq], by rwa [hruns, List.length_set]⟩
  · rw [hruns] at hr₁
    rcases List.mem_or_eq_of_mem_set hr₁ with hr₁ | rfl
    · exact ha.leaves r₁ hr₁
    · exact hleaves (ha.leaves r (List.mem_of_getElem? hrun))

theorem Attended.accept (ha : Attended s) :
    Attended { s with
      phase := .starting, token := some s.runs.length, listeners := [],
      runs := s.runs ++ [⟨false, [], .opening places⟩] } where
  owner n r hn hr := by
    obtain rfl : s.runs.length = n := by simpa using hn
    obtain rfl : (⟨false, [], .opening places⟩ : Run) = r := by simpa using hr
    simp [Run.Returned]
  stopping h := by cases h
  leaves r hr := by
    rcases List.mem_append.mp hr with hr | hr
    · exact ha.leaves r hr
    · obtain rfl := List.mem_singleton.mp hr
      exact fun _ ↦ rfl

theorem Attended.cancel (ha : Attended s) (n : Nat) :
    ∀ r ∈ s.runs.modify n (fun r ↦ { r with cancelled := true }), r.LeavesNone := by
  intro r hr
  obtain ⟨k, hk⟩ := List.mem_iff_getElem?.mp hr
  obtain ⟨r₀, hr₀, ⟨-, rfl⟩ | ⟨-, rfl⟩⟩ := cancelled_or_of_getElem?_modify hk
  · exact ha.leaves r₀ (List.mem_of_getElem? hr₀)
  · exact ha.leaves _ (List.mem_of_getElem? hr₀)

theorem Attended.step (ha : Attended s) (hs : Sound s) (h : Transition places s m t) :
    Attended t := by
  cases h with
  | accepted hphase => exact ha.accept
  | rejected hphase => exact ha
  | cancelled htoken =>
      refine ⟨by simp, fun _ ↦ ?_, ha.cancel _⟩
      exact ⟨⟨s.runs.length, s.listeners⟩, by simp, by simp⟩
  | needless htoken => exact ha
  | finished hd hnewest hphase => exact ⟨ha.owner, by simp, ha.leaves⟩
  | @outlived d hd hleft =>
      refine ⟨ha.owner, fun hphase ↦ ?_, ha.leaves⟩
      obtain ⟨d', hd', haccepted⟩ := ha.stopping hphase
      have hne : d' ≠ d := by
        rintro rfl
        exact hleft.elim (absurd haccepted) (absurd hphase)
      exact ⟨d', (List.mem_erase_of_ne hne).mpr hd', haccepted⟩
  | run hrun hstep => exact ha.run hs hrun hstep

theorem Reachable.attended (h : Reachable places s) : Attended s := by
  induction h with
  | initial => exact attended_initial
  | step m hreach hstep ih => exact ih.step hreach.sound (step?_eq_some_iff.mp hstep)

theorem Reachable.schedule (h : Reachable places s) (moves : List Move)
    (hmoves : moves.foldlM (fun s m ↦ s.step? places m) s = some t) : Reachable places t := by
  induction moves generalizing s with
  | nil => exact Option.some.inj hmoves ▸ h
  | cons m moves ih =>
      rw [List.foldlM_cons] at hmoves
      obtain ⟨u, hstep, hrest⟩ := Option.bind_eq_some_iff.mp hmoves
      exact ih (.step m h hstep) hrest

/-! ## Main result -/

/-- No call is in progress. -/
def State.Quiet (s : State) : Prop :=
  s.shutdowns = [] ∧ ∀ r ∈ s.runs, r.Returned

theorem Reachable.token_eq_none (h : Reachable places s) (hquiet : s.Quiet) : s.token = none := by
  refine Option.eq_none_iff_forall_ne_some.mpr fun n hn ↦ ?_
  have hlt : n < s.runs.length := by have := h.sound.newest n hn; omega
  refine h.attended.owner n s.runs[n] hn (List.getElem?_eq_getElem hlt) ?_
  exact hquiet.2 _ (List.getElem_mem hlt)

theorem Reachable.acceptsRun (h : Reachable places s) (hquiet : s.Quiet) :
    s.phase.acceptsRun = true := by
  have htoken := h.token_eq_none hquiet
  cases hphase : s.phase with
  | idle => rfl
  | failed => rfl
  | starting => exact absurd htoken (h.sound.active.mpr (.inl hphase))
  | running => exact absurd htoken (h.sound.active.mpr (.inr hphase))
  | shuttingDown =>
      obtain ⟨d, hd, -⟩ := h.attended.stopping hphase
      simp [hquiet.1] at hd

theorem Reachable.tasksOf_eq_nil (h : Reachable places s) (hquiet : s.Quiet) (n : Nat) :
    tasksOf s.runs n = [] := by
  unfold tasksOf
  cases hr : s.runs[n]? with
  | none => rfl
  | some r =>
      have hmem := List.mem_of_getElem? hr
      obtain ⟨fault, hstage⟩ := hquiet.2 r hmem
      exact h.attended.leaves r hmem (by simp [hstage, Stage.ends])

/-- A server has a token exactly while it starts or runs, and listeners only then. Whenever no call is in
progress it is idle or has failed, without a token and without listeners; each task that any run has
started has ended or has been aborted; and the next run is accepted. -/
theorem token_iff_active_and_recovers (h : Reachable places s) :
    (s.token ≠ none ↔ s.phase = .starting ∨ s.phase = .running) ∧
    (s.listeners ≠ [] → s.phase = .starting ∨ s.phase = .running) ∧
    (s.Quiet →
      (s.phase = .idle ∨ s.phase = .failed) ∧ s.token = none ∧ s.listeners = [] ∧
      ((∃ told, History places told s) ∧
        ∀ told, History places told s → ∀ n,
          (befallen .started n told).Perm
            (befallen .ended n told ++ befallen .aborted n told)) ∧
      ∃ t, s.step? places .run = some t ∧ t.phase = .starting ∧ t.token = some s.runs.length ∧
        t.runs = s.runs ++ [⟨false, [], .opening places⟩]) := by
  refine ⟨h.sound.active, fun hlisteners ↦ ?_, fun hquiet ↦ ?_⟩
  · exact h.sound.active.mp (mt h.sound.unlisted hlisteners)
  have htoken := h.token_eq_none hquiet
  have haccepts := h.acceptsRun hquiet
  refine ⟨?_, htoken, h.sound.unlisted htoken, ⟨reachable_iff_exists_history.mp h, ?_⟩, ?_⟩
  · simpa [Phase.acceptsRun] using haccepts
  · intro told htold n
    simpa [h.tasksOf_eq_nil hquiet n, atWork] using htold.accounts n
  · exact ⟨_, step?_eq_some_iff.mpr (.accepted haccepts), rfl, rfl, rfl⟩

/-- A server that has been shut down while it ran. Its only listener has been stopped by force. -/
def stoppedByForce : State :=
  ⟨.idle, none, [], [⟨true, [], .closed none⟩], [], [⟨0, .http⟩]⟩

theorem recovers_after_stop_by_force :
    let places : List Place := [⟨.http, ⟨.v4 [127, 0, 0, 1], 0, 8080⟩, none⟩]
    Reachable places stoppedByForce ∧ stoppedByForce.Quiet ∧
      ∃ t, stoppedByForce.step? places .run = some t ∧ t.phase = .starting := by
  intro places
  have hreach : Reachable places stoppedByForce :=
    Reachable.initial.schedule
      [.run, .register 0, .promote 0, .shutdown, .notice 0, .drain 0, .close 0,
        .finishShutdown ⟨1, [⟨0, .http⟩]⟩] rfl
  have hquiet : stoppedByForce.Quiet := by simp [State.Quiet, stoppedByForce, Run.Returned]
  obtain ⟨-, -, -, -, t, hstep, hphase, -⟩ := (token_iff_active_and_recovers hreach).2.2 hquiet
  exact ⟨hreach, hquiet, t, hstep, hphase⟩

end DepositGate.Lifecycle
