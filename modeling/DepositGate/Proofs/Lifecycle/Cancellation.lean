import DepositGate.Proofs.Lifecycle.Overlap
import DepositGate.Proofs.Lifecycle.Recovery

/-!
# Runs that are shut down

A shutdown cancels the run whose token it takes. The run then returns after so many steps of its own as it
has still work to do, and it does not report the failure of a listener any more. `shutdown_succeeds_iff`
says when it reports no failure at all: exactly if the shutdown does not find it waiting for a certificate,
since the certificate's fault is reported without a look at the token.
-/

namespace DepositGate.Lifecycle

variable {places : List Place} {s t u : State} {n k : Nat} {r r' : Run} {m : Move}

/-! ## What a run has seen and what it has to do -/

/-- The fault that a run has seen and will report. -/
def Stage.fault? : Stage → Option ServerFault
  | opening _ | preparing _ _ | supervising => none
  | failing fault => some fault
  | draining fault | closing fault | closed fault => fault

def Stage.prepares : Stage → Bool
  | preparing _ _ => true
  | _ => false

/-- The steps from a stage to the return at most, if there is no listener yet. A place takes three: it is
registered, its certificate is waited for, and the end of its listener is seen. -/
def Stage.distance : Stage → Nat
  | opening places => 3 * places.length + 5
  | preparing _ places => 3 * places.length + 7
  | supervising => 4
  | failing _ => 3
  | draining _ => 2
  | closing _ => 1
  | closed _ => 0

def Run.effort (r : Run) : Nat :=
  r.tasks.length + r.stage.distance

/-- A step is one that the run itself takes. The end of a listener is none. -/
def Move.takenBy (n : Nat) : Move → Bool
  | finish _ _ _ => false
  | m => m.number? == some n

/-- What all steps make of a run that they find in a state. -/
structure Run.Follows (s : State) (n : Nat) (m : Move) (r r' : Run) : Prop where
  effort : r'.effort + (if m.takenBy n then 1 else 0) ≤ r.effort
  cancelled : r.cancelled = true → r'.cancelled = true
  fault : r.cancelled = true → ∀ fault, r'.stage.fault? = some fault →
    r.stage.fault? = some fault ∨ r.stage.prepares = true ∧ ∃ f, fault = .certificate f
  prepares : r'.stage.prepares = true → r.stage.prepares = true ∨ s.token ≠ none

theorem Run.Follows.of_unchanged (htaken : m.takenBy n = false) (hstage : r'.stage = r.stage)
    (htasks : r'.tasks = r.tasks) (hcancelled : r.cancelled = true → r'.cancelled = true) :
    Run.Follows s n m r r' where
  effort := by simp [Run.effort, hstage, htasks, htaken]
  cancelled := hcancelled
  fault _ fault hfault := .inl (hstage ▸ hfault)
  prepares hprepares := .inl (hstage ▸ hprepares)

theorem length_eraseIdx_add_one {tasks : List Task} {i : Nat} {task : Task}
    (htask : tasks[i]? = some task) : (tasks.eraseIdx i).length + 1 = tasks.length := by
  obtain ⟨hlt, -⟩ := List.getElem?_eq_some_iff.mp htask
  rw [List.length_eraseIdx_of_lt hlt]
  omega

theorem RunTransition.follows (h : RunTransition s n r m t) :
    ∃ r', t.runs = s.runs.set n r' ∧ Run.Follows s n m r r' := by
  -- The fault of a listener is seen only by a run that is not cancelled, that of a certificate by all.
  cases h
  all_goals refine ⟨_, rfl, ?_, ?_, ?_, ?_⟩
  all_goals
    simp_all [Run.effort, Run.started, Run.abandoned, Stage.distance, Stage.fault?, Stage.prepares,
      Move.takenBy, Move.number?]
  -- What is left is how much less there is to do.
  case passed.refine_1 htask _ | faulted.refine_1 htask _ _ =>
    have hlength := length_eraseIdx_add_one htask
    omega
  all_goals omega

theorem Transition.follows (h : Transition places s m t) (hrun : s.runs[n]? = some r) :
    ∃ r', t.runs[n]? = some r' ∧ Run.Follows s n m r r' := by
  rcases h.own_or_keeps hrun with hstep | ⟨hnumber, hkept⟩
  · obtain ⟨r', hruns, hfollows⟩ := hstep.follows
    obtain ⟨hlt, -⟩ := List.getElem?_eq_some_iff.mp hrun
    exact ⟨r', by simp [hruns, hlt], hfollows⟩
  · have htaken : m.takenBy n = false := by
      unfold Move.takenBy
      split
      · rfl
      · simpa using hnumber
    rcases hkept with hkept | hkept
    · exact ⟨r, hkept, .of_unchanged htaken rfl rfl id⟩
    · exact ⟨{ r with cancelled := true }, hkept, .of_unchanged htaken rfl rfl fun _ ↦ rfl⟩

/-! ## Runs that are cancelled return -/

/-- A cancelled run, with no fault to report but that of a certificate. -/
structure Run.Cancelled (r : Run) : Prop where
  cancelled : r.cancelled = true
  fault : ∀ fault, r.stage.fault? = some fault → ∃ f, fault = .certificate f

theorem Run.Cancelled.follows (h : r.Cancelled) (hfollows : Run.Follows s n m r r') : r'.Cancelled where
  cancelled := hfollows.cancelled h.cancelled
  fault fault hfault := by
    rcases hfollows.fault h.cancelled fault hfault with hbefore | ⟨-, hcertificate⟩
    · exact h.fault fault hbefore
    · exact hcertificate

/-- A cancelled run never waits for anything but itself. -/
theorem Run.Cancelled.returned_or_step (h : r.Cancelled) (places : List Place)
    (hrun : s.runs[n]? = some r) :
    r.Returned ∨ ∃ m t, m.takenBy n = true ∧ s.step? places m = some t := by
  have hstep {m : Move} {t : State} (htransition : RunTransition s n r m t)
      (htaken : m.takenBy n = true) :
      r.Returned ∨ ∃ m t, m.takenBy n = true ∧ s.step? places m = some t :=
    .inr ⟨m, t, htaken, step?_eq_some_iff.mpr (.run hrun htransition)⟩
  have hown : (some n == some n) = true := beq_self_eq_true _
  cases hstage : r.stage with
  | opening rest =>
      cases rest with
      | nil => exact hstep (runTransition_promote hstage) hown
      | cons place rest => exact hstep (runTransition_register hstage) hown
  | preparing place rest => exact hstep (.prepared hstage) hown
  | supervising => exact hstep (.noticed hstage h.cancelled) hown
  | failing fault => exact hstep (.stoppedOthers hstage) hown
  | draining fault => exact hstep (.drained hstage) hown
  | closing fault => exact hstep (runTransition_close hstage) hown
  | closed fault => exact .inl ⟨fault, hstage⟩

/-- In every schedule a cancelled run takes no more steps than it has work to do. -/
theorem Run.Cancelled.schedule (h : r.Cancelled) (hrun : s.runs[n]? = some r) (moves : List Move)
    (hmoves : moves.foldlM (fun s m ↦ s.step? places m) s = some u) :
    ∃ r', u.runs[n]? = some r' ∧ r'.Cancelled ∧
      r'.effort + moves.countP (Move.takenBy n) ≤ r.effort := by
  induction moves generalizing s r with
  | nil => exact ⟨r, Option.some.inj hmoves ▸ hrun, h, by simp⟩
  | cons m moves ih =>
      rw [List.foldlM_cons] at hmoves
      obtain ⟨t, hstep, hrest⟩ := Option.bind_eq_some_iff.mp hmoves
      obtain ⟨r₁, hrun₁, hfollows⟩ := (step?_eq_some_iff.mp hstep).follows hrun
      obtain ⟨r', hrun', hcancelled, heffort⟩ := ih (h.follows hfollows) hrun₁ hrest
      have hless := hfollows.effort
      exact ⟨r', hrun', hcancelled, by rw [List.countP_cons]; omega⟩

/-! ## Runs that are shut down in time -/

/-- The newest run is cancelled and will not report a fault, nor is there one to be seen yet. -/
structure Subdued (n : Nat) (s : State) : Prop where
  newest : n + 1 = s.runs.length
  token : s.token = none
  phase : s.phase ≠ .failed
  run : ∃ r, s.runs[n]? = some r ∧ r.cancelled = true ∧ r.stage.fault? = none ∧
    r.stage.prepares = false

/-- Only the newest run can make a server fail, and only with a fault to report. -/
theorem RunTransition.phase_ne_failed (h : RunTransition s k r m t) (hphase : s.phase ≠ .failed)
    (hfault : k + 1 = s.runs.length → r.stage.fault? = none) : t.phase ≠ .failed := by
  cases h with
  | failed hstage hnewest =>
      have hnone := hfault hnewest
      simp [hstage, Stage.fault?] at hnone
  | promoted | succeeded => simp
  | _ => exact hphase

theorem Subdued.step (h : Subdued n s) (hstep : Transition places s m t)
    (hlength : t.runs.length = s.runs.length) : Subdued n t := by
  obtain ⟨hnewest, htoken, hphase, r, hrun, hcancelled, hfault, hprepares⟩ := h
  have hquiet : t.token = none ∧ t.phase ≠ .failed := by
    cases hstep with
    | accepted => simp at hlength
    | rejected | needless => exact ⟨htoken, hphase⟩
    | cancelled hsome => simp [hsome] at htoken
    | finished => exact ⟨htoken, by simp⟩
    | outlived => exact ⟨htoken, hphase⟩
    | @run k r₁ m t hrun₁ hstep =>
        refine ⟨?_, hstep.phase_ne_failed hphase fun hk ↦ ?_⟩
        · refine Option.eq_none_iff_forall_ne_some.mpr fun j hj ↦ ?_
          simp [hstep.token_eq_some hj] at htoken
        · obtain rfl : k = n := by omega
          obtain rfl := Option.some.inj (hrun₁.symm.trans hrun)
          exact hfault
  -- Without a token, the run does not get to the point where it waits for a certificate.
  obtain ⟨r', hrun', hfollows⟩ := hstep.follows hrun
  refine ⟨by rw [hlength, hnewest], hquiet.1, hquiet.2, r', hrun', hfollows.cancelled hcancelled, ?_, ?_⟩
  · refine Option.eq_none_iff_forall_ne_some.mpr fun fault hfault' ↦ ?_
    rcases hfollows.fault hcancelled fault hfault' with hbefore | ⟨hwaits, -⟩
    · simp [hbefore] at hfault
    · simp [hwaits] at hprepares
  · refine Bool.eq_false_iff.mpr fun hprepares' ↦ ?_
    rcases hfollows.prepares hprepares' with hwaits | hsome
    · simp [hwaits] at hprepares
    · exact hsome htoken

theorem Transition.length_runs_le (h : Transition places s m t) : s.runs.length ≤ t.runs.length := by
  cases h with
  | accepted | cancelled => simp
  | run hrun hstep =>
      obtain ⟨r', hruns, -⟩ := hstep.follows
      simp [hruns]
  | _ => exact Nat.le_refl _

theorem Subdued.leads (h : Subdued n s) (hleads : Relation.ReflTransGen (Leads places) s u) :
    s.runs.length ≤ u.runs.length ∧ (u.runs.length = s.runs.length → Subdued n u) := by
  induction hleads with
  | refl => exact ⟨Nat.le_refl _, fun _ ↦ h⟩
  | @tail t u _ hstep ih =>
      obtain ⟨m, hstep⟩ := hstep
      have htransition := step?_eq_some_iff.mp hstep
      have hle := htransition.length_runs_le
      refine ⟨Nat.le_trans ih.1 hle, fun hlength ↦ ?_⟩
      have hkept : t.runs.length = s.runs.length := by omega
      exact (ih.2 hkept).step htransition (by omega)

/-! ## Main result -/

/-- No failure has come of a run: it has none to report and none has put the server into `Failed`. -/
def Succeeds (n : Nat) (s : State) : Prop :=
  s.phase ≠ .failed ∧ ∃ r, s.runs[n]? = some r ∧ r.stage.fault? = none

theorem startShutdown_eq (htoken : s.token = some n) :
    s.startShutdown =
      { s with
        phase := .shuttingDown, token := none, listeners := [],
        runs := s.runs.modify n fun r ↦ { r with cancelled := true },
        shutdowns := s.shutdowns ++ [⟨s.runs.length, s.listeners⟩],
        asked := s.asked ++ s.listeners } := by
  simp [State.startShutdown, htoken]

theorem getElem?_startShutdown (htoken : s.token = some n) (hrun : s.runs[n]? = some r) :
    s.startShutdown.runs[n]? = some { r with cancelled := true } := by
  simp [startShutdown_eq htoken, hrun]

/-- A shutdown does not keep the fault of a certificate from being reported. -/
theorem exists_fault_of_preparing {place : Place} {rest : List Place} (places : List Place)
    (htoken : s.token = some n) (hrun : s.runs[n]? = some r) (hstage : r.stage = .preparing place rest)
    (fault : Tls.CertificateFault) :
    ∃ u, Relation.ReflTransGen (Leads places) s.startShutdown u ∧ u.runs.length = s.runs.length ∧
      u.runs[n]? = some ⟨true, [], .closing (some (.certificate fault))⟩ := by
  have hrun₀ := getElem?_startShutdown htoken hrun
  have htransition : Transition places s.startShutdown (.prepare n (some fault)) _ :=
    .run hrun₀ (.unprepared fault hstage)
  refine ⟨_, .single ⟨_, step?_eq_some_iff.mpr htransition⟩, by simp [startShutdown_eq htoken], ?_⟩
  obtain ⟨hlt, -⟩ := List.getElem?_eq_some_iff.mp hrun₀
  simp [hlt, Run.abandoned]

/-- A run without a fault whose token a shutdown takes can report one, as long as no other run is accepted,
exactly if it waits for its certificate then. In every case it returns after no more steps of its own than
it has work to do, never stuck, and no fault but that of the certificate is reported. -/
theorem shutdown_succeeds_iff (hs : Reachable places s) (htoken : s.token = some n)
    (hrun : s.runs[n]? = some r) (hfault : r.stage.fault? = none) :
    ((∀ u, Relation.ReflTransGen (Leads places) s.startShutdown u → u.runs.length = s.runs.length →
        Succeeds n u) ↔ r.stage.prepares = false) ∧
    ∀ (moves : List Move) (u : State),
      moves.foldlM (fun s m ↦ s.step? places m) s.startShutdown = some u →
      ∃ r', u.runs[n]? = some r' ∧
        (∀ fault, r'.stage.fault? = some fault → ∃ f, fault = .certificate f) ∧
        r'.effort + moves.countP (Move.takenBy n) ≤ r.effort ∧
        (r'.Returned ∨ ∃ m t, m.takenBy n = true ∧ u.step? places m = some t) := by
  have hrun₀ := getElem?_startShutdown htoken hrun
  have hnewest := hs.sound.newest n htoken
  refine ⟨⟨fun hsucceeds ↦ ?_, fun hprepares u hleads hlength ↦ ?_⟩, fun moves u hmoves ↦ ?_⟩
  · refine Bool.eq_false_iff.mpr fun hprepares ↦ ?_
    cases hstage : r.stage with
    | preparing place rest =>
        obtain ⟨u, hleads, hlength, hrun'⟩ :=
          exists_fault_of_preparing places htoken hrun hstage .noCertificates
        obtain ⟨-, r', hrun'', hfault'⟩ := hsucceeds u hleads hlength
        obtain rfl := Option.some.inj (hrun'.symm.trans hrun'')
        cases hfault'
    | _ => simp [hstage, Stage.prepares] at hprepares
  · have hsubdued : Subdued n s.startShutdown := by
      refine ⟨?_, ?_, ?_, _, hrun₀, rfl, hfault, hprepares⟩
      · simpa [startShutdown_eq htoken] using hnewest
      · simp [startShutdown_eq htoken]
      · simp [startShutdown_eq htoken]
    have hstart : s.startShutdown.runs.length = s.runs.length := by simp [startShutdown_eq htoken]
    have hlate := (hsubdued.leads hleads).2 (hlength.trans hstart.symm)
    obtain ⟨r', hrun', -, hfault', -⟩ := hlate.run
    exact ⟨hlate.phase, r', hrun', hfault'⟩
  · have hcancelled : Run.Cancelled { r with cancelled := true } :=
      ⟨rfl, fun fault hsome ↦ by simp [hfault] at hsome⟩
    obtain ⟨r', hrun', hcancelled', heffort⟩ := hcancelled.schedule hrun₀ moves hmoves
    exact ⟨r', hrun', hcancelled'.fault, heffort, hcancelled'.returned_or_step places hrun'⟩

/-- The state of a server that has registered its only listener and not started it yet. -/
def barelyStarted : State :=
  ⟨.starting, some 0, [⟨0, .http⟩], [⟨false, [⟨loopback, none⟩], .opening []⟩], [], []⟩

theorem early_shutdown_succeeds :
    Reachable [loopback] barelyStarted ∧ barelyStarted.token = some 0 ∧
      ∀ u, Relation.ReflTransGen (Leads [loopback]) barelyStarted.startShutdown u →
        u.runs.length = 1 → Succeeds 0 u := by
  have hreach : Reachable [loopback] barelyStarted := Reachable.initial.schedule [.run, .register 0] rfl
  refine ⟨hreach, rfl, fun u hleads hlength ↦ ?_⟩
  exact (shutdown_succeeds_iff hreach rfl rfl rfl).1.mpr rfl u hleads hlength

def provisionedConfig : ServerConfig :=
  ⟨"", "127.0.0.1:8443", "", ⟨0, 0⟩, "teller.example.com", "", "", "cache", none, false, ⟨1, 60⟩⟩

def provisionedPlace : Place :=
  ⟨.https, ⟨.v4 [127, 0, 0, 1], 0, 8443⟩, some (.automatic "teller.example.com")⟩

/-- The state in which its run prepares the directory of the certificates. -/
def provisioning : State :=
  ⟨.starting, some 0, [⟨0, .https⟩], [⟨false, [], .preparing provisionedPlace []⟩], [], []⟩

/-- A shutdown takes the token, then the directory cannot be made, and the run reports that and puts the
server into `Failed`. -/
theorem shut_down_run_fails :
    ¬∀ (c : ServerConfig) (places : List Place), c.validate = .ok () →
      Lifecycle.places c = .ok places → ∀ s n r, Reachable places s → s.token = some n →
        s.runs[n]? = some r → r.stage.fault? = none →
          ∀ u, Relation.ReflTransGen (Leads places) s.startShutdown u →
            u.runs.length = s.runs.length → Succeeds n u := by
  intro hsucceeds
  have hvalid : provisionedConfig.validate = .ok () := rfl
  have hplaces : places provisionedConfig = .ok [provisionedPlace] := rfl
  have hreach : Reachable [provisionedPlace] provisioning :=
    Reachable.initial.schedule [.run, .register 0] rfl
  let fault : Tls.CertificateFault := .noDirectory "cache" .nameTooLong
  have hleads : Relation.ReflTransGen (Leads [provisionedPlace]) provisioning.startShutdown _ :=
    (Relation.ReflTransGen.single ⟨.prepare 0 (some fault), rfl⟩).tail ⟨.close 0, rfl⟩
  exact (hsucceeds _ _ hvalid hplaces _ 0 _ hreach rfl rfl rfl _ hleads rfl).1 rfl

end DepositGate.Lifecycle
