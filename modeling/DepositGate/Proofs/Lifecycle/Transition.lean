import DepositGate.Lifecycle.Step

/-!
# What a step does

The step function with its guards spelled out: `Transition` has one case for each thing that a step may
do, and `step?_eq_some_iff` says that it has them all.
-/

namespace DepositGate.Lifecycle

variable {places : List Place} {s t : State} {n : Nat} {r : Run} {m : Move}

/-! ## Fields -/

namespace State

@[simp] theorem put_phase : (s.put n r).phase = s.phase := rfl
@[simp] theorem put_token : (s.put n r).token = s.token := rfl
@[simp] theorem put_listeners : (s.put n r).listeners = s.listeners := rfl
@[simp] theorem put_runs : (s.put n r).runs = s.runs.set n r := rfl
@[simp] theorem put_shutdowns : (s.put n r).shutdowns = s.shutdowns := rfl
@[simp] theorem put_asked : (s.put n r).asked = s.asked := rfl

end State

/-! ## Steps of a run -/

inductive RunTransition (s : State) (n : Nat) (r : Run) : Move → State → Prop where
  | givenUp {place : Place} {rest : List Place} (hstage : r.stage = .opening (place :: rest))
      (htoken : s.token = none) :
      RunTransition s n r (.register n) (s.put n (r.abandoned none))
  | opened {place : Place} {rest : List Place} (hstage : r.stage = .opening (place :: rest))
      (htoken : s.token ≠ none) (hplain : place.certificate = none) :
      RunTransition s n r (.register n)
        { s.put n (r.started place rest) with listeners := s.listeners ++ [⟨n, place.protocol⟩] }
  | announced {place : Place} {rest : List Place} (hstage : r.stage = .opening (place :: rest))
      (htoken : s.token ≠ none) (htls : place.certificate ≠ none) :
      RunTransition s n r (.register n)
        { s.put n { r with stage := .preparing place rest } with
          listeners := s.listeners ++ [⟨n, place.protocol⟩] }
  | prepared {place : Place} {rest : List Place} (hstage : r.stage = .preparing place rest) :
      RunTransition s n r (.prepare n none) (s.put n (r.started place rest))
  | unprepared {place : Place} {rest : List Place} (fault : Tls.CertificateFault)
      (hstage : r.stage = .preparing place rest) :
      RunTransition s n r (.prepare n (some fault))
        (s.put n (r.abandoned (some (.certificate fault))))
  | promoted (hstage : r.stage = .opening []) (hphase : s.phase = .starting) :
      RunTransition s n r (.promote n) { s.put n { r with stage := .supervising } with phase := .running }
  | overtaken (hstage : r.stage = .opening []) (hphase : s.phase ≠ .starting) :
      RunTransition s n r (.promote n) (s.put n { r with stage := .supervising })
  | ended {task : Nat} {place : Place} (ending : Ending) (htask : r.tasks[task]? = some ⟨place, none⟩) :
      RunTransition s n r (.finish n task ending)
        (s.put n { r with tasks := r.tasks.set task ⟨place, some ending⟩ })
  | passed {task : Nat} {place : Place} {ending : Ending} (hstage : r.stage = .supervising)
      (htask : r.tasks[task]? = some ⟨place, some ending⟩)
      (hpass : ending.fault? place.protocol = none ∨ r.cancelled = true) :
      RunTransition s n r (.join n task) (s.put n { r with tasks := r.tasks.eraseIdx task })
  | faulted {task : Nat} {place : Place} {ending : Ending} {fault : ServerFault}
      (hstage : r.stage = .supervising) (htask : r.tasks[task]? = some ⟨place, some ending⟩)
      (hfault : ending.fault? place.protocol = some fault) (hlive : r.cancelled = false) :
      RunTransition s n r (.join n task)
        (s.put n ⟨true, r.tasks.eraseIdx task, .failing fault⟩)
  | exhausted (hstage : r.stage = .supervising) (htasks : r.tasks = []) :
      RunTransition s n r (.exhaust n) (s.put n { r with stage := .closing none })
  | noticed (hstage : r.stage = .supervising) (hcancelled : r.cancelled = true) :
      RunTransition s n r (.notice n) (s.put n { r with stage := .draining none })
  | stoppedOthers {fault : ServerFault} (hstage : r.stage = .failing fault) :
      RunTransition s n r (.stopOthers n)
        { s.put n { r with stage := .draining (some fault) } with asked := s.asked ++ s.listeners }
  | drained {fault : Option ServerFault} (hstage : r.stage = .draining fault) :
      RunTransition s n r (.drain n) (s.put n (r.abandoned fault))
  | failed {fault : ServerFault} (hstage : r.stage = .closing (some fault))
      (hnewest : n + 1 = s.runs.length) :
      RunTransition s n r (.close n)
        { s.put n { r with stage := .closed (some fault) } with
          phase := .failed, token := none, listeners := [] }
  | succeeded (hstage : r.stage = .closing none) (hnewest : n + 1 = s.runs.length)
      (hphase : s.phase ≠ .shuttingDown) :
      RunTransition s n r (.close n)
        { s.put n { r with stage := .closed none } with phase := .idle, token := none, listeners := [] }
  | returned {fault : Option ServerFault} (hstage : r.stage = .closing fault)
      (hleft : n + 1 ≠ s.runs.length ∨ fault = none ∧ s.phase = .shuttingDown) :
      RunTransition s n r (.close n) (s.put n { r with stage := .closed fault })

inductive Transition (places : List Place) (s : State) : Move → State → Prop where
  | accepted (hphase : s.phase.acceptsRun = true) :
      Transition places s .run
        { s with
          phase := .starting, token := some s.runs.length, listeners := [],
          runs := s.runs ++ [⟨false, [], .opening places⟩] }
  | rejected (hphase : s.phase.acceptsRun = false) : Transition places s .run s
  | cancelled {n : Nat} (htoken : s.token = some n) :
      Transition places s .shutdown
        { s with
          phase := .shuttingDown, token := none, listeners := [],
          runs := s.runs.modify n fun r ↦ { r with cancelled := true },
          shutdowns := s.shutdowns ++ [⟨s.runs.length, s.listeners⟩],
          asked := s.asked ++ s.listeners }
  | needless (htoken : s.token = none) : Transition places s .shutdown s
  | finished {d : Shutdown} (hd : d ∈ s.shutdowns) (hnewest : d.accepted = s.runs.length)
      (hphase : s.phase = .shuttingDown) :
      Transition places s (.finishShutdown d)
        { s with phase := .idle, shutdowns := s.shutdowns.erase d }
  | outlived {d : Shutdown} (hd : d ∈ s.shutdowns)
      (hleft : d.accepted ≠ s.runs.length ∨ s.phase ≠ .shuttingDown) :
      Transition places s (.finishShutdown d) { s with shutdowns := s.shutdowns.erase d }
  | run {n : Nat} {r : Run} {m : Move} {t : State} (hrun : s.runs[n]? = some r)
      (hstep : RunTransition s n r m t) : Transition places s m t

/-! ## The step function has these cases and no others -/

theorem RunTransition.number?_eq (h : RunTransition s n r m t) : m.number? = some n := by
  cases h <;> rfl

theorem RunTransition.stepRun?_eq (h : RunTransition s n r m t) : s.stepRun? n r m = some t := by
  cases h with
  | givenUp hstage htoken => simp [State.stepRun?, hstage, State.register, htoken]
  | opened hstage htoken hplain =>
      simp [State.stepRun?, hstage, State.register, htoken, hplain]
  | announced hstage htoken htls =>
      simp [State.stepRun?, hstage, State.register, htoken, Option.isSome_iff_ne_none, htls]
  | prepared hstage => simp [State.stepRun?, hstage]
  | unprepared fault hstage => simp [State.stepRun?, hstage]
  | promoted hstage hphase => simp [State.stepRun?, hstage, State.promote, hphase]
  | overtaken hstage hphase =>
      simp [State.stepRun?, hstage, State.promote, hphase, State.put]
  | ended ending htask => simp [State.stepRun?, htask]
  | passed hstage htask hpass =>
      rcases hpass with hpass | hpass <;> simp [State.stepRun?, hstage, htask, Run.joined, hpass]
      split <;> rfl
  | faulted hstage htask hfault hlive =>
      simp [State.stepRun?, hstage, htask, Run.joined, hfault, hlive]
  | exhausted hstage htasks => simp [State.stepRun?, hstage, htasks]
  | noticed hstage hcancelled => simp [State.stepRun?, hstage, hcancelled]
  | stoppedOthers hstage => simp [State.stepRun?, hstage]
  | drained hstage => simp [State.stepRun?, hstage]
  | failed hstage hnewest => simp [State.stepRun?, hstage, State.close, hnewest]
  | succeeded hstage hnewest hphase =>
      simp [State.stepRun?, hstage, State.close, hnewest, hphase]
  | returned hstage hleft =>
      rcases hleft with hleft | ⟨rfl, hphase⟩
      · simp [State.stepRun?, hstage, State.close, hleft]
      · simp [State.stepRun?, hstage, State.close, hphase]

theorem runTransition_register {place : Place} {rest : List Place}
    (hstage : r.stage = .opening (place :: rest)) :
    RunTransition s n r (.register n) (s.register n place rest r) := by
  unfold State.register
  by_cases htoken : s.token = none
  · simpa [htoken] using .givenUp hstage htoken
  · by_cases htls : place.certificate = none
    · simpa [htoken, htls] using .opened hstage htoken htls
    · simpa [htoken, htls, Option.isSome_iff_ne_none] using .announced hstage htoken htls

theorem runTransition_promote (hstage : r.stage = .opening []) :
    RunTransition s n r (.promote n) (s.promote n r) := by
  unfold State.promote
  by_cases hphase : s.phase = .starting
  · simpa [hphase] using .promoted hstage hphase
  · simpa [hphase] using .overtaken hstage hphase

theorem runTransition_join {task : Nat} {place : Place} {ending : Ending}
    (hstage : r.stage = .supervising) (htask : r.tasks[task]? = some ⟨place, some ending⟩) :
    RunTransition s n r (.join n task) (s.put n (r.joined task (ending.fault? place.protocol))) := by
  unfold Run.joined
  cases hfault : ending.fault? place.protocol with
  | none => exact .passed hstage htask (.inl hfault)
  | some fault =>
      cases hcancelled : r.cancelled with
      | true => simpa [hcancelled] using RunTransition.passed hstage htask (.inr hcancelled)
      | false => simpa [hcancelled] using .faulted hstage htask hfault hcancelled

theorem runTransition_close {fault : Option ServerFault} (hstage : r.stage = .closing fault) :
    RunTransition s n r (.close n) (s.close n fault r) := by
  unfold State.close
  by_cases hnewest : n + 1 = s.runs.length
  · cases fault with
    | some fault => simpa [hnewest] using .failed hstage hnewest
    | none =>
        by_cases hphase : s.phase = .shuttingDown
        · simpa [hnewest, hphase] using RunTransition.returned hstage (.inr ⟨rfl, hphase⟩)
        · simpa [hnewest, hphase] using .succeeded hstage hnewest hphase
  · simpa [hnewest] using RunTransition.returned hstage (.inl hnewest)

theorem runTransition_of_stepRun? (hnumber : m.number? = some n) (h : s.stepRun? n r m = some t) :
    RunTransition s n r m t := by
  revert h
  fun_cases State.stepRun? s n r m
  all_goals rintro ⟨⟩
  all_goals obtain rfl := Option.some.inj hnumber
  case case1 hstage => exact runTransition_register hstage
  case case2 hstage => exact .prepared hstage
  case case3 hstage => exact .unprepared _ hstage
  case case4 hstage => exact runTransition_promote hstage
  case case5 htask => exact .ended _ htask
  case case7 hstage _ _ htask => exact runTransition_join hstage htask
  case case9 hstage htasks => exact .exhausted hstage (List.isEmpty_iff.mp htasks)
  case case11 hstage hcancelled => exact .noticed hstage hcancelled
  case case13 hstage _ => exact .stoppedOthers hstage
  case case14 hstage => exact .drained hstage
  case case15 hstage => exact runTransition_close hstage

theorem transition_startRun (places : List Place) (s : State) :
    Transition places s .run (s.startRun places) := by
  unfold State.startRun
  split
  · exact .accepted ‹_›
  · exact .rejected (Bool.eq_false_iff.mpr ‹_›)

theorem transition_startShutdown (places : List Place) (s : State) :
    Transition places s .shutdown s.startShutdown := by
  unfold State.startShutdown
  split
  · exact .needless ‹_›
  · exact .cancelled ‹_›

theorem transition_finishShutdown (places : List Place) {d : Shutdown} (hd : d ∈ s.shutdowns) :
    Transition places s (.finishShutdown d) (s.finishShutdown d) := by
  unfold State.finishShutdown
  split
  next hown => exact .finished hd hown.1 hown.2
  next hleft => exact .outlived hd (Decidable.not_and_iff_not_or_not.mp hleft)

/-- A step can be taken exactly if it is one of the cases. -/
theorem step?_eq_some_iff : s.step? places m = some t ↔ Transition places s m t := by
  constructor
  · intro h
    unfold State.step? at h
    split at h
    · rename_i n hnumber
      obtain ⟨r, hrun, hstep⟩ := Option.bind_eq_some_iff.mp h
      exact .run hrun (runTransition_of_stepRun? hnumber hstep)
    · split at h
      · exact Option.some.inj h ▸ transition_startRun places s
      · exact Option.some.inj h ▸ transition_startShutdown places s
      · obtain ⟨hd, ht⟩ := Option.ite_none_right_eq_some.mp h
        exact Option.some.inj ht ▸ transition_finishShutdown places hd
      · cases h
  · intro h
    cases h with
    | accepted hphase => simp [State.step?, Move.number?, State.startRun, hphase]
    | rejected hphase => simp [State.step?, Move.number?, State.startRun, hphase]
    | cancelled htoken => simp [State.step?, Move.number?, State.startShutdown, htoken]
    | needless htoken => simp [State.step?, Move.number?, State.startShutdown, htoken]
    | finished hd hnewest hphase =>
        simp [State.step?, Move.number?, State.finishShutdown, hd, hnewest, hphase]
    | outlived hd hleft =>
        have hkeep : ¬(_ ∧ _) := Decidable.not_and_iff_not_or_not.mpr hleft
        simp [State.step?, Move.number?, State.finishShutdown, hd, hkeep]
    | run hrun hstep =>
        simp [State.step?, hstep.number?_eq, hrun, hstep.stepRun?_eq]

end DepositGate.Lifecycle
