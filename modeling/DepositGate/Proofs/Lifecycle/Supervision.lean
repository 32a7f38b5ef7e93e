import DepositGate.Proofs.Lifecycle.Cancellation

/-!
# How a run waits for its listeners

A run that has started its listeners sees one after another end, in any order, until one has failed, its token
is cancelled or none is left. `supervision_accounts` says for every schedule what it reports then: the failure
that it has seen before its token was cancelled and no other, and none of its listeners is left at work.
-/

namespace DepositGate.Lifecycle

variable {places : List Place} {s t u : State} {n k : Nat} {r r' : Run} {m : Move}

/-! ## Schedules -/

/-- Steps from one state to another, each with the state in which it is taken. -/
inductive Schedule (places : List Place) (s : State) : List (State × Move) → State → Prop where
  | nil : Schedule places s [] s
  | snoc {steps : List (State × Move)} {t u : State} (m : Move) : Schedule places s steps t →
      t.step? places m = some u → Schedule places s (steps ++ [(t, m)]) u

/-- A run sees the end of a listener, and its token is cancelled by then or not. -/
structure Joining where
  task : Task
  cancelled : Bool

def Task.fault? (task : Task) : Option ServerFault :=
  task.ending.bind (·.fault? task.place.protocol)

/-- The fault that a run sees, if it counts as one. -/
def Joining.failure? (j : Joining) : Option ServerFault :=
  if j.cancelled then none else j.task.fault?

def State.joinings (s : State) (n : Nat) : Move → List Joining
  | .join k i =>
    if k = n then (s.runs[n]?).toList.flatMap fun r ↦ (r.tasks[i]?).toList.map (⟨·, r.cancelled⟩) else []
  | _ => []

def joined (n : Nat) (steps : List (State × Move)) : List Joining :=
  steps.flatMap fun step ↦ step.1.joinings n step.2

def told (steps : List (State × Move)) : List TaskEvent :=
  steps.flatMap fun step ↦ step.1.tells step.2

theorem joined_concat (n : Nat) (steps : List (State × Move)) (step : State × Move) :
    joined n (steps ++ [step]) = joined n steps ++ step.1.joinings n step.2 := by
  simp [joined]

theorem told_concat (steps : List (State × Move)) (step : State × Move) :
    told (steps ++ [step]) = told steps ++ step.1.tells step.2 := by
  simp [told]

theorem joinings_of_number?_ne (hnumber : m.number? ≠ some n) : s.joinings n m = [] := by
  cases m with
  | join k i =>
      have hk : k ≠ n := by simpa [Move.number?] using hnumber
      simp [State.joinings, hk]
  | _ => rfl

theorem joinings_join (hrun : s.runs[n]? = some r) {i : Nat} {task : Task} (htask : r.tasks[i]? = some task) :
    s.joinings n (.join n i) = [⟨task, r.cancelled⟩] := by
  simp [State.joinings, hrun, htask]

/-! ## The invariant -/

theorem perm_cons_eraseIdx {tasks : List Task} {i : Nat} {task : Task} (htask : tasks[i]? = some task) :
    tasks.Perm (task :: tasks.eraseIdx i) := by
  obtain ⟨hlt, rfl⟩ := List.getElem?_eq_some_iff.mp htask
  exact (List.getElem_cons_eraseIdx_perm hlt).symm

/-- What a run has become that had started some tasks, and of what it has seen since. -/
structure Supervised (tasks : List Task) (seen : List Joining) (r : Run) : Prop where
  opened : r.stage.opens = false
  fault : seen.filterMap Joining.failure? = r.stage.fault?.toList
  cancelled : r.stage.fault? ≠ none → r.cancelled = true
  waiting : r.stage = .supervising →
    (tasks.map Task.place).Perm (seen.map (·.task.place) ++ r.tasks.map Task.place)
  excused : r.stage ≠ .supervising → r.stage.fault? = none →
    r.cancelled = true ∨ (tasks.map Task.place).Perm (seen.map (·.task.place))
  leaves : r.LeavesNone

variable {tasks : List Task} {seen : List Joining}

theorem supervised_start (hstage : r.stage = .supervising) : Supervised r.tasks [] r where
  opened := by simp [hstage, Stage.opens]
  fault := by simp [hstage, Stage.fault?]
  cancelled := by simp [hstage, Stage.fault?]
  waiting _ := List.Perm.refl _
  excused h := absurd hstage h
  leaves h := by simp [hstage, Stage.ends] at h

theorem Supervised.cancel (h : Supervised tasks seen r) : Supervised tasks seen { r with cancelled := true } where
  opened := h.opened
  fault := h.fault
  cancelled _ := rfl
  waiting := h.waiting
  excused _ _ := .inl rfl
  leaves := h.leaves

/-- A run that has seen enough keeps what it has to report. -/
theorem Supervised.goes_on (h : Supervised tasks seen r) {stage : Stage} {left : List Task}
    (hstage : r.stage ≠ .supervising) (hopens : stage.opens = false) (hlater : stage ≠ .supervising)
    (hfault : stage.fault? = r.stage.fault?) (hleaves : (Run.mk r.cancelled left stage).LeavesNone) :
    Supervised tasks seen ⟨r.cancelled, left, stage⟩ where
  opened := hopens
  fault := by rw [hfault, h.fault]
  cancelled hsome := h.cancelled (hfault ▸ hsome)
  waiting hsupervising := absurd hsupervising hlater
  excused _ hnone := h.excused hstage (hfault ▸ hnone)
  leaves := hleaves

theorem Supervised.perm_join (h : Supervised tasks seen r) (hstage : r.stage = .supervising) {i : Nat}
    {j : Joining} (htask : r.tasks[i]? = some j.task) :
    (tasks.map Task.place).Perm
      ((seen ++ [j]).map (·.task.place) ++ (r.tasks.eraseIdx i).map Task.place) := by
  have hplaces := (perm_cons_eraseIdx htask).map Task.place
  refine (h.waiting hstage).trans ?_
  rw [List.map_append, List.append_assoc]
  exact hplaces.append_left _

theorem Supervised.end_task (h : Supervised tasks seen r) {i : Nat} {place : Place} (ending : Ending)
    (htask : r.tasks[i]? = some ⟨place, none⟩) :
    Supervised tasks seen { r with tasks := r.tasks.set i ⟨place, some ending⟩ } where
  opened := h.opened
  fault := h.fault
  cancelled := h.cancelled
  waiting hstage := by
    obtain ⟨hlt, hplace⟩ := List.getElem?_eq_some_iff.mp htask
    have hplaces : (r.tasks.set i ⟨place, some ending⟩).map Task.place = r.tasks.map Task.place := by
      have hself : (r.tasks.map Task.place).set i _ = r.tasks.map Task.place :=
        List.set_getElem_self (by simpa using hlt)
      simpa [hplace] using hself
    rw [hplaces]
    exact h.waiting hstage
  excused := h.excused
  leaves hends := by simp [h.leaves hends]

theorem Supervised.join (h : Supervised tasks seen r) (hstage : r.stage = .supervising) {i : Nat} {place : Place}
    {ending : Ending} (htask : r.tasks[i]? = some ⟨place, some ending⟩)
    (hpass : ending.fault? place.protocol = none ∨ r.cancelled = true) :
    Supervised tasks (seen ++ [⟨⟨place, some ending⟩, r.cancelled⟩]) { r with tasks := r.tasks.eraseIdx i } where
  opened := h.opened
  fault := by
    have hnone : Joining.failure? ⟨⟨place, some ending⟩, r.cancelled⟩ = none := by
      rcases hpass with hpass | hpass <;> simp [Joining.failure?, Task.fault?, hpass]
    simp [List.filterMap_append, hnone, h.fault]
  cancelled := h.cancelled
  waiting _ := h.perm_join hstage htask
  excused hother := absurd hstage hother
  leaves hends := by simp [hstage, Stage.ends] at hends

theorem Supervised.fail (h : Supervised tasks seen r) (hstage : r.stage = .supervising) {task : Task} {fault : ServerFault}
    (left : List Task) (hfault : task.fault? = some fault) :
    Supervised tasks (seen ++ [⟨task, false⟩]) ⟨true, left, .failing fault⟩ where
  opened := rfl
  fault := by
    have hsome : Joining.failure? ⟨task, false⟩ = some fault := by simp [Joining.failure?, hfault]
    have hbefore : seen.filterMap Joining.failure? = [] := by simp [h.fault, hstage, Stage.fault?]
    simp [List.filterMap_append, hsome, hbefore, Stage.fault?]
  cancelled _ := rfl
  waiting hsupervising := by cases hsupervising
  excused _ _ := .inl rfl
  leaves hends := by cases hends

/-- A run that sees that nothing is left to wait for, or that its token is cancelled, has no fault to report. -/
theorem Supervised.stop (h : Supervised tasks seen r) (hstage : r.stage = .supervising) {stage : Stage}
    (hopens : stage.opens = false) (hlater : stage ≠ .supervising) (hfault : stage.fault? = none)
    (hexcused : r.cancelled = true ∨ r.tasks = []) (hleaves : stage.ends = true → r.tasks = []) :
    Supervised tasks seen { r with stage } where
  opened := hopens
  fault := by rw [h.fault, hstage, hfault, Stage.fault?]
  cancelled hsome := absurd hfault hsome
  waiting hsupervising := absurd hsupervising hlater
  excused _ _ := hexcused.imp_right fun hnone ↦ by simpa [hnone] using h.waiting hstage
  leaves := hleaves

theorem Supervised.run (h : Supervised tasks seen r) (hrun : s.runs[n]? = some r)
    (hstep : RunTransition s n r m t) :
    ∃ r', t.runs = s.runs.set n r' ∧ Supervised tasks (seen ++ s.joinings n m) r' := by
  cases hstep with
  | givenUp hstage | opened hstage | announced hstage | prepared hstage | unprepared _ hstage
  | promoted hstage | overtaken hstage =>
      have hopens := h.opened
      simp [hstage, Stage.opens] at hopens
  | ended ending htask =>
      rw [show s.joinings n (.finish n _ ending) = [] from rfl, List.append_nil]
      exact ⟨_, rfl, h.end_task ending htask⟩
  | passed hstage htask hpass =>
      rw [joinings_join hrun htask]
      exact ⟨_, rfl, h.join hstage htask hpass⟩
  | faulted hstage htask hfault hlive =>
      rw [joinings_join hrun htask, hlive]
      exact ⟨_, rfl, h.fail hstage _ hfault⟩
  | exhausted hstage htasks =>
      rw [show s.joinings n (.exhaust n) = [] from rfl, List.append_nil]
      exact ⟨_, rfl, h.stop hstage rfl (by simp) rfl (.inr htasks) fun _ ↦ htasks⟩
  | noticed hstage hcancelled =>
      rw [show s.joinings n (.notice n) = [] from rfl, List.append_nil]
      exact ⟨_, rfl, h.stop hstage rfl (by simp) rfl (.inl hcancelled) (by simp [Stage.ends])⟩
  | stoppedOthers hstage =>
      rw [show s.joinings n (.stopOthers n) = [] from rfl, List.append_nil]
      exact ⟨_, rfl, h.goes_on (by simp [hstage]) rfl (by simp) (by simp [hstage, Stage.fault?])
        (by simp [Run.LeavesNone, Stage.ends])⟩
  | drained hstage =>
      rw [show s.joinings n (.drain n) = [] from rfl, List.append_nil]
      exact ⟨_, rfl, h.goes_on (by simp [hstage]) rfl (by simp) (by simp [hstage, Stage.fault?]) fun _ ↦ rfl⟩
  | failed hstage | succeeded hstage | returned hstage =>
      rw [show s.joinings n (.close n) = [] from rfl, List.append_nil]
      have htasks := h.leaves (by simp [hstage, Stage.ends])
      exact ⟨_, rfl, h.goes_on (by simp [hstage]) rfl (by simp) (by simp [hstage, Stage.fault?]) fun _ ↦ htasks⟩

theorem Supervised.step (h : Supervised tasks seen r) (hrun : s.runs[n]? = some r) (hstep : Transition places s m t) :
    ∃ r', t.runs[n]? = some r' ∧ Supervised tasks (seen ++ s.joinings n m) r' := by
  rcases hstep.own_or_keeps hrun with hstep | ⟨hnumber, hkept⟩
  · obtain ⟨r', hruns, hsupervised⟩ := h.run hrun hstep
    obtain ⟨hlt, -⟩ := List.getElem?_eq_some_iff.mp hrun
    exact ⟨r', by simp [hruns, hlt], hsupervised⟩
  · rw [joinings_of_number?_ne hnumber, List.append_nil]
    rcases hkept with hkept | hkept
    · exact ⟨r, hkept, h⟩
    · exact ⟨_, hkept, h.cancel⟩

theorem Schedule.supervised {steps : List (State × Move)} (h : Schedule places s steps u)
    (hrun : s.runs[n]? = some r) (hstage : r.stage = .supervising) :
    ∃ r', u.runs[n]? = some r' ∧ Supervised r.tasks (joined n steps) r' := by
  induction h with
  | nil => exact ⟨r, hrun, supervised_start hstage⟩
  | snoc m _ hstep ih =>
      obtain ⟨r₁, hrun₁, h₁⟩ := ih
      rw [joined_concat]
      exact h₁.step hrun₁ (step?_eq_some_iff.mp hstep)

/-! ## What becomes of the listeners -/

theorem Schedule.balanced {steps : List (State × Move)} (h : Schedule places s steps u) (n : Nat) :
    Balanced n (atWork (tasksOf s.runs n)) (told steps) (atWork (tasksOf u.runs n)) := by
  induction h with
  | nil => exact balanced_nil n _
  | snoc m _ hstep ih =>
      rw [told_concat]
      exact ih.append ((step?_eq_some_iff.mp hstep).balanced n)

theorem befallen_tells_of_number?_ne (fate : Fate) (hnumber : m.number? ≠ some n) :
    befallen fate n (s.tells m) = [] := by
  unfold State.tells
  cases hk : m.number? with
  | none => rfl
  | some k =>
      dsimp only
      cases s.runs[k]? with
      | none => rfl
      | some r =>
          obtain ⟨fate', ps, htell⟩ := exists_runTells_eq_tell s k r m
          have hne : k ≠ n := fun h ↦ hnumber (h ▸ hk)
          simp [htell, hne]

/-- A run whose listeners are all started starts no other. -/
theorem Transition.befallen_started (h : Transition places s m t) (hrun : s.runs[n]? = some r)
    (hopens : r.stage.opens = false) : befallen .started n (s.tells m) = [] := by
  rcases h.own_or_keeps hrun with hstep | ⟨hnumber, -⟩
  · have htells : s.tells m = s.runTells n r m := by simp [State.tells, hstep.number?_eq, hrun]
    rw [htells]
    unfold State.runTells
    split <;> simp_all [Stage.opens]
  · exact befallen_tells_of_number?_ne .started hnumber

theorem Schedule.befallen_started {steps : List (State × Move)} (h : Schedule places s steps u)
    (hrun : s.runs[n]? = some r) (hstage : r.stage = .supervising) :
    befallen .started n (told steps) = [] := by
  induction h with
  | nil => rfl
  | snoc m hbefore hstep ih =>
      obtain ⟨r₁, hrun₁, h₁⟩ := hbefore.supervised hrun hstage
      rw [told_concat, befallen_append, ih, (step?_eq_some_iff.mp hstep).befallen_started hrun₁ h₁.opened,
        List.append_nil]

/-! ## Main result -/

theorem Schedule.effort {steps : List (State × Move)} (h : Schedule places s steps u)
    (hrun : s.runs[n]? = some r) :
    ∃ r', u.runs[n]? = some r' ∧ r'.effort + steps.countP (fun step ↦ step.2.takenBy n) ≤ r.effort := by
  induction h with
  | nil => exact ⟨r, hrun, Nat.le_refl _⟩
  | snoc m _ hstep ih =>
      obtain ⟨r₁, hrun₁, heffort₁⟩ := ih
      obtain ⟨r', hrun', hfollows⟩ := (step?_eq_some_iff.mp hstep).follows hrun₁
      have hless := hfollows.effort
      refine ⟨r', hrun', ?_⟩
      rw [List.countP_append, List.countP_singleton]
      dsimp only
      omega

/-- A run waits only for listeners that are all at work, and only while its token is not cancelled. -/
theorem Supervised.ends_or_step_or_waits (h : Supervised tasks seen r) (places : List Place)
    (hrun : s.runs[n]? = some r) :
    r.stage.ends = true ∨ (∃ m t, m.takenBy n = true ∧ s.step? places m = some t) ∨
      r.stage = .supervising ∧ r.cancelled = false ∧ r.tasks ≠ [] ∧ ∀ task ∈ r.tasks, task.ending = none := by
  have hopens := h.opened
  have hstep {m : Move} {t : State} (htransition : RunTransition s n r m t) (htaken : m.takenBy n = true) :
      ∃ m t, m.takenBy n = true ∧ s.step? places m = some t :=
    ⟨m, t, htaken, step?_eq_some_iff.mpr (.run hrun htransition)⟩
  have hown : (some n == some n) = true := beq_self_eq_true _
  cases hstage : r.stage with
  | opening | preparing => simp [hstage, Stage.opens] at hopens
  | failing fault => exact .inr (.inl (hstep (.stoppedOthers hstage) hown))
  | draining fault => exact .inr (.inl (hstep (.drained hstage) hown))
  | closing fault | closed fault => exact .inl rfl
  | supervising =>
      refine .inr ?_
      by_cases hcancelled : r.cancelled = true
      · exact .inl (hstep (.noticed hstage hcancelled) hown)
      by_cases hended : ∃ task ∈ r.tasks, task.ending ≠ none
      · obtain ⟨⟨place, ending⟩, hmem, hsome⟩ := hended
        obtain ⟨ending, rfl⟩ := Option.ne_none_iff_exists'.mp hsome
        obtain ⟨i, hi⟩ := List.mem_iff_getElem?.mp hmem
        exact .inl (hstep (runTransition_join hstage hi) hown)
      by_cases hempty : r.tasks = []
      · exact .inl (hstep (.exhausted hstage hempty) hown)
      · refine .inr ⟨rfl, Bool.eq_false_iff.mpr hcancelled, hempty, fun task htask ↦ ?_⟩
        by_contra hsome
        exact hended ⟨task, htask, hsome⟩

/-- What a run reports and leaves behind that has waited for its listeners in some steps. -/
structure Supervision (places : List Place) (n : Nat) (r : Run) (steps : List (State × Move)) (u : State)
    (r' : Run) : Prop where
  found : u.runs[n]? = some r'
  /-- The only failure seen before the token is cancelled is the one that is reported. -/
  fault : (joined n steps).filterMap Joining.failure? = r'.stage.fault?.toList
  cancelled : r'.stage.fault? ≠ none → r'.cancelled = true
  /-- Without a failure, the token has been cancelled or the end of every listener has been seen. -/
  excused : r'.stage.ends = true → r'.stage.fault? = none →
    r'.cancelled = true ∨ (r.tasks.map Task.place).Perm ((joined n steps).map (·.task.place))
  /-- Each listener that was at work has ended or has been aborted. -/
  settled : r'.stage.ends = true → r'.tasks = [] ∧
    (atWork r.tasks).Perm (befallen .ended n (told steps) ++ befallen .aborted n (told steps))
  /-- Nothing is waited for but listeners that are all at work, under a token that is not cancelled. -/
  waits : r'.stage.ends = true ∨ (∃ m t, m.takenBy n = true ∧ u.step? places m = some t) ∨
    r'.stage = .supervising ∧ r'.cancelled = false ∧ r'.tasks ≠ [] ∧ ∀ task ∈ r'.tasks, task.ending = none
  effort : r'.effort + steps.countP (fun step ↦ step.2.takenBy n) ≤ r.effort

/-- Whatever tasks a run waits for, however and in whatever order they end, whenever its token is cancelled and
whatever it looks at first. -/
theorem supervision_accounts {steps : List (State × Move)} (hrun : s.runs[n]? = some r)
    (hstage : r.stage = .supervising) (hsteps : Schedule places s steps u) :
    ∃ r', Supervision places n r steps u r' := by
  obtain ⟨r', hrun', h⟩ := hsteps.supervised hrun hstage
  obtain ⟨r'', hrun'', heffort⟩ := hsteps.effort hrun
  obtain rfl := Option.some.inj (hrun'.symm.trans hrun'')
  refine ⟨r', hrun', h.fault, h.cancelled, fun hends ↦ h.excused ?_, fun hends ↦ ?_,
    h.ends_or_step_or_waits places hrun', heffort⟩
  · intro hsupervising
    simp [hsupervising, Stage.ends] at hends
  · have htasks := h.leaves hends
    have hbalanced := hsteps.balanced n
    rw [tasksOf_of_getElem? hrun, tasksOf_of_getElem? hrun', htasks] at hbalanced
    refine ⟨htasks, ?_⟩
    simpa [Balanced, hsteps.befallen_started hrun hstage, atWork] using hbalanced

def waitingRun : Run := ⟨false, [⟨loopback, none⟩, ⟨provisionedPlace, none⟩], .supervising⟩

def twoListeners : State :=
  ⟨.running, some 0, [⟨0, .http⟩, ⟨0, .https⟩], [waitingRun], [], []⟩

/-- The first listener stops and the run goes on; the other one fails, and the run returns with its fault. -/
theorem second_listener_fails :
    Reachable [loopback, provisionedPlace] twoListeners ∧
      ∃ u steps r', Schedule [loopback, provisionedPlace] twoListeners steps u ∧
        Supervision [loopback, provisionedPlace] 0 waitingRun steps u r' ∧
        r'.stage = .closing (some (.listener .https .notFound)) ∧
        (joined 0 steps).map (·.task.place) = [loopback, provisionedPlace] := by
  have hreach : Reachable [loopback, provisionedPlace] twoListeners :=
    Reachable.initial.schedule [.run, .register 0, .register 0, .prepare 0 none, .promote 0] rfl
  have hrun : twoListeners.runs[0]? = some waitingRun := rfl
  have hstage : waitingRun.stage = .supervising := rfl
  have hsteps : Schedule [loopback, provisionedPlace] twoListeners _ _ :=
    (((((Schedule.nil.snoc (.finish 0 0 .stopped) rfl).snoc (.join 0 0) rfl).snoc
      (.finish 0 0 (.failed .notFound)) rfl).snoc (.join 0 0) rfl).snoc (.stopOthers 0) rfl).snoc (.drain 0) rfl
  obtain ⟨r', h⟩ := supervision_accounts hrun hstage hsteps
  refine ⟨hreach, _, _, r', hsteps, h, ?_, rfl⟩
  obtain rfl := Option.some.inj h.found
  rfl

end DepositGate.Lifecycle
