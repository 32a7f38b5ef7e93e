import DepositGate.Proofs.Lifecycle.Cancellation

/-!
# The cycle of phases

The phase of a server is written by the run that is accepted, by the run that returns and by both sections
of a shutdown. `FollowsCycle` has a case for each change of the phase that the cycle allows, with its cause.
`phase_follows_cycle_iff` says that these are the only changes, except for a run that reports a failure after
a shutdown has taken its token, and when there can be no such run.
-/

namespace DepositGate.Lifecycle

variable {places : List Place} {s t u : State} {n k : Nat} {r r' : Run} {m : Move}
  {told : List TaskEvent}

/-! ## The owner of the token -/

/-- A run that has not been cancelled, does not wait for its listeners to stop and has aborted none. -/
structure Untroubled (told : List TaskEvent) (n : Nat) (r : Run) : Prop where
  live : r.cancelled = false
  waits : r.stage ≠ .draining none
  aborted : befallen .aborted n told = []

/-- A run is untroubled until it has seen a failure. -/
def Minds (told : List TaskEvent) (n : Nat) (r : Run) : Prop :=
  r.stage.fault? = none → Untroubled told n r

-- Nobody but a shutdown cancels a run that has seen no failure, and a shutdown takes the token away.
theorem RunTransition.minds (h : RunTransition s n r m t) (htoken : t.token = some n)
    (hr : Minds told n r) :
    ∃ r', t.runs = s.runs.set n r' ∧ Minds (told ++ s.runTells n r m) n r' := by
  cases h with
  | givenUp hstage hnone => simp [hnone] at htoken
  | failed hstage hnewest => cases htoken
  | succeeded hstage hnewest hphase => cases htoken
  | drained hstage =>
      refine ⟨_, rfl, fun hfault ↦ ?_⟩
      obtain rfl : _ = none := hfault
      exact absurd hstage (hr (by simp [hstage, Stage.fault?])).waits
  | noticed hstage hcancelled =>
      have hlive := (hr (by simp [hstage, Stage.fault?])).live
      simp [hcancelled] at hlive
  | unprepared fault hstage => exact ⟨_, rfl, fun hfault ↦ by cases hfault⟩
  | faulted hstage htask hfault hlive => exact ⟨_, rfl, fun hnone ↦ by cases hnone⟩
  | stoppedOthers hstage => exact ⟨_, rfl, fun hnone ↦ by cases hnone⟩
  | ended ending htask =>
      refine ⟨_, rfl, fun hnone ↦ ?_⟩
      obtain ⟨hlive, hwaits, haborted⟩ := hr hnone
      exact ⟨hlive, hwaits, by simp [State.runTells, haborted]⟩
  | returned hstage hleft =>
      refine ⟨_, rfl, fun hnone ↦ ?_⟩
      obtain rfl : _ = none := hnone
      obtain ⟨hlive, hwaits, haborted⟩ := hr (by simp [hstage, Stage.fault?])
      exact ⟨hlive, by simp, by simp [State.runTells, haborted]⟩
  | opened hstage | announced hstage | prepared hstage | promoted hstage | overtaken hstage
  | passed hstage | exhausted hstage =>
      refine ⟨_, rfl, fun hnone ↦ ?_⟩
      obtain ⟨hlive, hwaits, haborted⟩ := hr (by simp [hstage, Stage.fault?])
      exact ⟨hlive, by simp_all [Run.started], by simp_all [State.runTells, apply_ite (befallen _ _)]⟩

/-- A step of a run tells of no other run. -/
theorem number?_eq_of_mem_tells {e : TaskEvent} (he : e ∈ s.tells m) :
    m.number? = some e.run ∧ e.run < s.runs.length := by
  unfold State.tells at he
  split at he
  next n hnumber =>
    obtain ⟨r, hrun, he⟩ : ∃ r, s.runs[n]? = some r ∧ e ∈ s.runTells n r m := by
      cases hrun : s.runs[n]? with
      | none => simp [hrun] at he
      | some r => exact ⟨r, rfl, by simpa [hrun] using he⟩
    obtain ⟨fate, ps, htell⟩ := exists_runTells_eq_tell s n r m
    rw [htell] at he
    obtain ⟨place, -, rfl⟩ := List.mem_map.mp he
    obtain ⟨hlt, -⟩ := List.getElem?_eq_some_iff.mp hrun
    exact ⟨hnumber, hlt⟩
  next => cases he

theorem befallen_eq_nil {fate : Fate} (h : ∀ e ∈ told, e.run ≠ n) : befallen fate n told = [] := by
  rw [befallen, List.map_eq_nil_iff, List.filter_eq_nil_iff]
  intro e he
  simp [h e he]

theorem Minds.append (hr : Minds told n r) {told' : List TaskEvent} (htold : ∀ e ∈ told', e.run ≠ n) :
    Minds (told ++ told') n r := by
  intro hnone
  obtain ⟨hlive, hwaits, haborted⟩ := hr hnone
  exact ⟨hlive, hwaits, by simp [haborted, befallen_eq_nil htold]⟩

/-- The run that owns the token minds its listeners, and nothing is told of runs to come. -/
structure Minded (told : List TaskEvent) (s : State) : Prop where
  owner : ∀ n r, s.token = some n → s.runs[n]? = some r → Minds told n r
  known : ∀ e ∈ told, e.run < s.runs.length

theorem Minded.run (hs : Minded told s) (hrun : s.runs[n]? = some r) (h : RunTransition s n r m t) :
    Minded (told ++ s.tells m) t := by
  have htells : s.tells m = s.runTells n r m := by simp [State.tells, h.number?_eq, hrun]
  obtain ⟨r', hruns, -⟩ := h.advances
  refine ⟨fun k r₁ hk hr₁ ↦ ?_, fun e he ↦ ?_⟩
  · have hk' := h.token_eq_some hk
    by_cases hkn : k = n
    · subst hkn
      obtain ⟨r'', hruns', hminds⟩ := h.minds hk (hs.owner _ r hk' hrun)
      obtain ⟨hlt, -⟩ := List.getElem?_eq_some_iff.mp hrun
      obtain rfl : r'' = r₁ := by simpa [hruns', hlt] using hr₁
      rwa [htells]
    · rw [hruns, List.getElem?_set_ne (Ne.symm hkn)] at hr₁
      refine (hs.owner k r₁ hk' hr₁).append fun e he ↦ ?_
      have hnumber := (number?_eq_of_mem_tells he).1
      rw [h.number?_eq] at hnumber
      rintro rfl
      exact hkn (Option.some.inj hnumber).symm
  · rw [hruns, List.length_set]
    rcases List.mem_append.mp he with he | he
    · exact hs.known e he
    · exact (number?_eq_of_mem_tells he).2

theorem Minded.step (hs : Minded told s) (h : Transition places s m t) :
    Minded (told ++ s.tells m) t := by
  cases h with
  | accepted hphase =>
      refine ⟨fun n r hn hr ↦ ?_, fun e he ↦ ?_⟩
      · obtain rfl : s.runs.length = n := by simpa using hn
        obtain rfl : (⟨false, [], .opening places⟩ : Run) = r := by simpa using hr
        refine fun _ ↦ ⟨rfl, by simp, befallen_eq_nil fun e he ↦ ?_⟩
        have hlt := hs.known e (by simpa [State.tells, Move.number?] using he)
        omega
      · have hlt := hs.known e (by simpa [State.tells, Move.number?] using he)
        simp only [List.length_append, List.length_singleton]
        omega
  | cancelled htoken =>
      refine ⟨by simp, fun e he ↦ ?_⟩
      rw [List.length_modify]
      exact hs.known e (by simpa [State.tells, Move.number?] using he)
  | rejected | needless | finished | outlived =>
      rw [State.tells, Move.number?, List.append_nil]
      exact ⟨hs.owner, hs.known⟩
  | run hrun hstep => exact hs.run hrun hstep

theorem History.minded (h : History places told s) : Minded told s := by
  induction h with
  | initial => exact ⟨by simp [State.initial], by simp⟩
  | step m _ hstep ih => exact ih.step (step?_eq_some_iff.mp hstep)

/-! ## Servers that have failed -/

theorem RunTransition.rests (h : RunTransition s n r m t) :
    ∃ r', t.runs = s.runs.set n r' ∧ (t.phase = .failed →
      s.phase = .failed ∧ (r.Returned → r'.Returned) ∨ n + 1 = s.runs.length ∧ r'.Returned) := by
  cases h with
  | failed hstage hnewest => exact ⟨_, rfl, fun _ ↦ .inr ⟨hnewest, _, rfl⟩⟩
  | ended ending htask => exact ⟨_, rfl, fun hphase ↦ .inl ⟨hphase, id⟩⟩
  | _ =>
      refine ⟨_, rfl, ?_⟩
      simp_all [Run.Returned]

/-- If a server has failed, its newest run has returned. -/
theorem Reachable.returned_of_failed (h : Reachable places s) (hphase : s.phase = .failed)
    (hrun : s.runs[n]? = some r) (hnewest : n + 1 = s.runs.length) : r.Returned := by
  induction h generalizing n r with
  | initial => cases hphase
  | @step s t m hreach hstep ih =>
      cases step?_eq_some_iff.mp hstep with
      | accepted | cancelled | finished => cases hphase
      | rejected | needless | outlived => exact ih hphase hrun hnewest
      | @run k r₁ _ _ hrun₁ hstep =>
          obtain ⟨r', hruns, hrests⟩ := hstep.rests
          rw [hruns] at hrun hnewest
          rw [List.length_set] at hnewest
          rcases eq_or_of_getElem?_set hrun with ⟨rfl, rfl⟩ | ⟨hne, hrun⟩
          · rcases hrests hphase with ⟨hbefore, hkept⟩ | ⟨-, hreturned⟩
            · exact hkept (ih hbefore hrun₁ hnewest)
            · exact hreturned
          · rcases hrests hphase with ⟨hbefore, -⟩ | ⟨hlast, -⟩
            · exact ih hbefore hrun hnewest
            · omega

/-! ## Changes of the phase -/

def ReturnsWith (n : Nat) (fault : Option ServerFault) (t : State) : Prop :=
  ∃ r, t.runs[n]? = some r ∧ r.stage = .closed fault

/-- All listeners that a run has started have ended, and none has been aborted. -/
def AllEnded (places : List Place) (n : Nat) (s : State) : Prop :=
  ∀ told, History places told s → (befallen .started n told).Perm (befallen .ended n told)

/-- A step changes the phase as the cycle allows. -/
inductive FollowsCycle (places : List Place) (s t : State) : Move → Prop where
  | accepted (hbefore : s.phase = .idle ∨ s.phase = .failed) (hafter : t.phase = .starting)
      (hruns : t.runs = s.runs ++ [⟨false, [], .opening places⟩]) : FollowsCycle places s t .run
  | promoted {n : Nat} (hbefore : s.phase = .starting) (hafter : t.phase = .running) :
      FollowsCycle places s t (.promote n)
  | shutDown {n : Nat} (hbefore : s.phase = .starting ∨ s.phase = .running)
      (hafter : t.phase = .shuttingDown) (htoken : s.token = some n) (htaken : t.token = none) :
      FollowsCycle places s t .shutdown
  | finished {d : Shutdown} (hbefore : s.phase = .shuttingDown) (hafter : t.phase = .idle) :
      FollowsCycle places s t (.finishShutdown d)
  | failed {n : Nat} {fault : ServerFault} (hbefore : s.phase = .starting ∨ s.phase = .running)
      (hafter : t.phase = .failed) (hreturns : ReturnsWith n (some fault) t) :
      FollowsCycle places s t (.close n)
  | ended {n : Nat} (hbefore : s.phase = .starting ∨ s.phase = .running) (hafter : t.phase = .idle)
      (hreturns : ReturnsWith n none t) (hended : AllEnded places n s) :
      FollowsCycle places s t (.close n)

/-- A run reports a failure when a shutdown has taken its token. -/
def ReportsLate (s : State) (m : Move) : Prop :=
  ∃ n r fault, m = .close n ∧ s.runs[n]? = some r ∧ r.stage = .closing (some fault) ∧
    (s.phase = .shuttingDown ∨ s.phase = .idle)

theorem FollowsCycle.not_reportsLate (h : FollowsCycle places s t m) : ¬ReportsLate s m := by
  rintro ⟨n, r, fault, rfl, -, -, hlate⟩
  cases h with
  | failed hbefore | ended hbefore => rcases hbefore with h | h <;> simp [h] at hlate

theorem getElem?_put (hrun : s.runs[n]? = some r) (r' : Run) : (s.put n r').runs[n]? = some r' := by
  obtain ⟨hlt, -⟩ := List.getElem?_eq_some_iff.mp hrun
  exact List.getElem?_set_self hlt

theorem returnsWith_put (hrun : s.runs[n]? = some r) (fault : Option ServerFault) :
    ReturnsWith n fault (s.put n { r with stage := .closed fault }) :=
  ⟨_, getElem?_put hrun _, rfl⟩

/-- A run with the token that is about to return without a failure has seen all its listeners end. -/
theorem allEnded_of_closing (hs : Reachable places s) (htoken : s.token = some n)
    (hrun : s.runs[n]? = some r) (hstage : r.stage = .closing none) : AllEnded places n s := by
  intro told htold
  have haborted := (htold.minded.owner n r htoken hrun (by simp [hstage, Stage.fault?])).aborted
  have htasks : r.tasks = [] :=
    hs.attended.leaves r (List.mem_of_getElem? hrun) (by simp [hstage, Stage.ends])
  have haccounts := htold.accounts n
  rw [tasksOf_of_getElem? hrun, htasks, haborted] at haccounts
  simpa [atWork] using haccounts

theorem active_of_ne {p : Phase} (hidle : p ≠ .idle) (hstop : p ≠ .shuttingDown) (hfailed : p ≠ .failed) :
    p = .starting ∨ p = .running := by
  cases p <;> simp_all

theorem RunTransition.followsCycle (hs : Reachable places s) (hrun : s.runs[n]? = some r)
    (h : RunTransition s n r m t) (hchange : t.phase ≠ s.phase) (hlate : ¬ReportsLate s m) :
    FollowsCycle places s t m := by
  cases h with
  | promoted hstage hphase => exact .promoted hphase rfl
  | failed hstage hnewest =>
      have hstop : s.phase ≠ .shuttingDown := fun h ↦ hlate ⟨n, r, _, rfl, hrun, hstage, .inl h⟩
      have hidle : s.phase ≠ .idle := fun h ↦ hlate ⟨n, r, _, rfl, hrun, hstage, .inr h⟩
      exact .failed (active_of_ne hidle hstop (Ne.symm hchange)) rfl (returnsWith_put hrun _)
  | succeeded hstage hnewest hstop =>
      have hfailed : s.phase ≠ .failed := by
        intro hphase
        obtain ⟨fault, hclosed⟩ := hs.returned_of_failed hphase hrun hnewest
        simp [hstage] at hclosed
      have hactive := active_of_ne (Ne.symm hchange) hstop hfailed
      have htoken : s.token = some n := by
        obtain ⟨k, hk⟩ := Option.ne_none_iff_exists'.mp (hs.sound.active.mpr hactive)
        have hlast := hs.sound.newest k hk
        obtain rfl : k = n := by omega
        exact hk
      exact .ended hactive rfl (returnsWith_put hrun _) (allEnded_of_closing hs htoken hrun hstage)
  | _ => exact absurd rfl hchange

theorem Transition.followsCycle (hs : Reachable places s) (h : Transition places s m t)
    (hchange : t.phase ≠ s.phase) (hlate : ¬ReportsLate s m) : FollowsCycle places s t m := by
  cases h with
  | accepted hphase =>
      have hbefore : s.phase = .idle ∨ s.phase = .failed := by simpa [Phase.acceptsRun] using hphase
      exact .accepted hbefore rfl rfl
  | cancelled htoken =>
      have hbefore := hs.sound.active.mp (by simp [htoken])
      exact .shutDown hbefore rfl htoken rfl
  | finished hd hnewest hphase => exact .finished hphase rfl
  | rejected | needless | outlived => exact absurd rfl hchange
  | run hrun hstep => exact hstep.followsCycle hs hrun hchange hlate

/-! ## Failures that will be reported -/

/-- A server can get into `Failed` before another run is accepted. -/
def MayFail (places : List Place) (s : State) : Prop :=
  ∃ u, Relation.ReflTransGen (Leads places) s u ∧ u.runs.length = s.runs.length ∧ u.phase = .failed

theorem MayFail.of_leads (hleads : Relation.ReflTransGen (Leads places) s t)
    (hlength : t.runs.length = s.runs.length) (h : MayFail places t) : MayFail places s := by
  obtain ⟨u, hu, hlength', hphase⟩ := h
  exact ⟨u, hleads.trans hu, hlength'.trans hlength, hphase⟩

theorem mayFail_of_closing {fault : ServerFault} (hrun : s.runs[n]? = some r)
    (hnewest : n + 1 = s.runs.length) (hstage : r.stage = .closing (some fault)) :
    MayFail places s := by
  have hstep : Transition places s (.close n) _ := .run hrun (.failed hstage hnewest)
  exact ⟨_, .single ⟨_, step?_eq_some_iff.mpr hstep⟩, by simp, rfl⟩

theorem mayFail_of_draining {fault : ServerFault} (hrun : s.runs[n]? = some r)
    (hnewest : n + 1 = s.runs.length) (hstage : r.stage = .draining (some fault)) :
    MayFail places s := by
  have hstep : Transition places s (.drain n) _ := .run hrun (.drained hstage)
  refine .of_leads (.single ⟨_, step?_eq_some_iff.mpr hstep⟩) (by simp) ?_
  exact mayFail_of_closing (getElem?_put hrun _) (by simpa using hnewest) rfl

/-- A failure that has been seen by the newest run can be reported, unless that has been done. -/
theorem mayFail_of_fault {fault : ServerFault} (hrun : s.runs[n]? = some r)
    (hnewest : n + 1 = s.runs.length) (hfault : r.stage.fault? = some fault) (hopen : ¬r.Returned) :
    MayFail places s := by
  cases hstage : r.stage with
  | opening rest | preparing place rest | supervising => simp [hstage, Stage.fault?] at hfault
  | failing f =>
      have hstep : Transition places s (.stopOthers n) _ := .run hrun (.stoppedOthers hstage)
      refine .of_leads (.single ⟨_, step?_eq_some_iff.mpr hstep⟩) (by simp) ?_
      exact mayFail_of_draining (getElem?_put hrun _) (by simpa using hnewest) rfl
  | draining f =>
      obtain rfl : f = some fault := by simpa [hstage, Stage.fault?] using hfault
      exact mayFail_of_draining hrun hnewest hstage
  | closing f =>
      obtain rfl : f = some fault := by simpa [hstage, Stage.fault?] using hfault
      exact mayFail_of_closing hrun hnewest hstage
  | closed f => exact absurd ⟨f, hstage⟩ hopen

theorem mayFail_startShutdown_of_fault (hs : Reachable places s) (htoken : s.token = some n)
    (hrun : s.runs[n]? = some r) (hfault : r.stage.fault? ≠ none) :
    MayFail places s.startShutdown := by
  obtain ⟨fault, hfault⟩ := Option.ne_none_iff_exists'.mp hfault
  have hnewest : n + 1 = s.startShutdown.runs.length := by
    simpa [startShutdown_eq htoken] using hs.sound.newest n htoken
  refine mayFail_of_fault (getElem?_startShutdown htoken hrun) hnewest hfault ?_
  exact hs.attended.owner n r htoken hrun

theorem mayFail_startShutdown_of_prepares (hs : Reachable places s) (htoken : s.token = some n)
    (hrun : s.runs[n]? = some r) (hprepares : r.stage.prepares = true) :
    MayFail places s.startShutdown := by
  cases hstage : r.stage with
  | preparing place rest =>
      obtain ⟨u, hleads, hlength, hrun'⟩ :=
        exists_fault_of_preparing places htoken hrun hstage .noCertificates
      have hstart : s.startShutdown.runs.length = s.runs.length := by simp [startShutdown_eq htoken]
      have hnewest : n + 1 = u.runs.length := by
        rw [hlength]
        exact hs.sound.newest n htoken
      exact .of_leads hleads (hlength.trans hstart.symm) (mayFail_of_closing hrun' hnewest rfl)
  | _ => simp [hstage, Stage.prepares] at hprepares

theorem Reachable.leads (h : Reachable places s) (hleads : Relation.ReflTransGen (Leads places) s u) :
    Reachable places u := by
  induction hleads with
  | refl => exact h
  | tail _ hstep ih =>
      obtain ⟨m, hstep⟩ := hstep
      exact .step m ih hstep

/-- Without a token, a server that has not failed is being shut down or idle. -/
theorem Sound.stopped (hs : Sound s) (htoken : s.token = none) (hfailed : s.phase ≠ .failed) :
    s.phase = .shuttingDown ∨ s.phase = .idle := by
  have hactive : ¬(s.phase = .starting ∨ s.phase = .running) := fun h ↦ hs.active.mpr h htoken
  cases hphase : s.phase <;> simp_all

theorem subdued_startShutdown (hs : Reachable places s) (htoken : s.token = some n)
    (hrun : s.runs[n]? = some r) (hfault : r.stage.fault? = none)
    (hprepares : r.stage.prepares = false) : Subdued n s.startShutdown where
  newest := by simpa [startShutdown_eq htoken] using hs.sound.newest n htoken
  token := by simp [startShutdown_eq htoken]
  phase := by simp [startShutdown_eq htoken]
  run := ⟨_, getElem?_startShutdown htoken hrun, rfl, hfault, hprepares⟩

/-! ## Main result -/

/-- A step that changes the phase follows the cycle, unless a run reports a failure after a shutdown has
taken its token. From then on the phase is `ShuttingDown` or `Idle` until another run is accepted, exactly
if the shutdown finds a run that has seen no failure and does not wait for its certificate. -/
theorem phase_follows_cycle_iff (hs : Reachable places s) :
    (∀ m t, s.step? places m = some t → t.phase ≠ s.phase →
      (FollowsCycle places s t m ↔ ¬ReportsLate s m)) ∧
    ∀ n r, s.token = some n → s.runs[n]? = some r →
      ((∀ u, Relation.ReflTransGen (Leads places) s.startShutdown u →
          u.runs.length = s.runs.length → u.phase = .shuttingDown ∨ u.phase = .idle) ↔
        r.stage.fault? = none ∧ r.stage.prepares = false) := by
  refine ⟨fun m t hstep hchange ↦ ⟨fun h ↦ h.not_reportsLate, fun hlate ↦ ?_⟩,
    fun n r htoken hrun ↦ ?_⟩
  · exact (step?_eq_some_iff.mp hstep).followsCycle hs hchange hlate
  have hstart : s.startShutdown.runs.length = s.runs.length := by simp [startShutdown_eq htoken]
  constructor
  · intro hstopped
    have hsafe : ¬MayFail places s.startShutdown := by
      rintro ⟨u, hleads, hlength, hfailed⟩
      have hphase := hstopped u hleads (hlength.trans hstart)
      simp [hfailed] at hphase
    refine ⟨?_, ?_⟩
    · by_contra hfault
      exact hsafe (mayFail_startShutdown_of_fault hs htoken hrun hfault)
    · by_contra hprepares
      exact hsafe (mayFail_startShutdown_of_prepares hs htoken hrun (by simpa using hprepares))
  · rintro ⟨hfault, hprepares⟩ u hleads hlength
    have hsubdued := subdued_startShutdown hs htoken hrun hfault hprepares
    have hlate := (hsubdued.leads hleads).2 (hlength.trans hstart.symm)
    have hreach : Reachable places u := (Reachable.step .shutdown hs rfl).leads hleads
    exact hreach.sound.stopped hlate.token hlate.phase

theorem barely_started_follows_cycle :
    Reachable [loopback] barelyStarted ∧
      (∃ t, barelyStarted.step? [loopback] (.promote 0) = some t ∧
        FollowsCycle [loopback] barelyStarted t (.promote 0)) ∧
      ∀ u, Relation.ReflTransGen (Leads [loopback]) barelyStarted.startShutdown u →
        u.runs.length = 1 → u.phase = .shuttingDown ∨ u.phase = .idle := by
  have hreach : Reachable [loopback] barelyStarted :=
    Reachable.initial.schedule [.run, .register 0] rfl
  have hpunctual : ¬ReportsLate barelyStarted (.promote 0) := by
    rintro ⟨n, r, fault, hmove, -⟩
    cases hmove
  obtain ⟨hsteps, hstops⟩ := phase_follows_cycle_iff hreach
  refine ⟨hreach, ⟨_, rfl, ?_⟩, fun u hleads hlength ↦ ?_⟩
  · exact (hsteps (.promote 0) _ rfl (by decide)).mpr hpunctual
  · exact (hstops 0 _ rfl rfl).mpr ⟨rfl, rfl⟩ u hleads hlength

/-- The directory of the certificates cannot be made, but a shutdown has taken the token before that: the
run takes the server from `ShuttingDown` to `Failed`. -/
theorem late_report_breaks_cycle :
    ¬∀ places s t m, Reachable places s → s.step? places m = some t → t.phase ≠ s.phase →
      FollowsCycle places s t m := by
  intro hfollows
  let fault : Tls.CertificateFault := .noDirectory "cache" .nameTooLong
  have hreach : Reachable [provisionedPlace] _ :=
    Reachable.initial.schedule [.run, .register 0, .shutdown, .prepare 0 (some fault)] rfl
  have hcycle := hfollows _ _ _ (.close 0) hreach rfl (by decide)
  exact hcycle.not_reportsLate ⟨0, _, _, rfl, rfl, rfl, .inl rfl⟩

end DepositGate.Lifecycle
