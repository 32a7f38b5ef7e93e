import Mathlib.Logic.Relation
import DepositGate.Proofs.Lifecycle.Invariant

/-!
# Runs that overlap

A shutdown may return while the run that it has cancelled still starts its listeners, and then a new run
may be accepted. `older_runs_leave_alone_iff` says when the older runs never touch what belongs to the
new one: exactly if, at the moment in which it is accepted, none of them has listeners to start or to
stop. The token alone does not tell them apart, since a new run puts another one in its place.
-/

namespace DepositGate.Lifecycle

variable {places rest : List Place} {s t u : State} {n k : Nat} {r r' : Run} {m : Move}

/-- What a run does not touch if it leaves alone those after it: the phase, the token, the registered
listeners, and whether a listener of theirs is asked to stop. -/
structure LeavesAlone (n : Nat) (s t : State) : Prop where
  phase : t.phase = s.phase
  token : t.token = s.token
  listeners : t.listeners = s.listeners
  asked : t.asked.filter (n < ·.run) = s.asked.filter (n < ·.run)

def Leads (places : List Place) (s t : State) : Prop :=
  ∃ m, s.step? places m = some t

/-- A step of a run touches what belongs to the runs after it. -/
def Trespasses (places : List Place) (n : Nat) (s : State) : Prop :=
  ∃ m t, m.number? = some n ∧ s.step? places m = some t ∧ ¬LeavesAlone n s t

theorem leavesAlone_put : LeavesAlone n s (s.put n r) := ⟨rfl, rfl, rfl, rfl⟩

theorem RunTransition.trespasses (hrun : s.runs[n]? = some r) (h : RunTransition s n r m t)
    (hleft : ¬LeavesAlone n s t) : Trespasses places n s :=
  ⟨m, t, h.number?_eq, step?_eq_some_iff.mpr (.run hrun h), hleft⟩

/-! ## Runs that are settled -/

/-- The runs before a number are over and settled. -/
def SettledBefore (k : Nat) (s : State) : Prop :=
  k < s.runs.length ∧ ∀ n < k, ∀ r, s.runs[n]? = some r → r.Over ∧ r.stage.settled = true

/-- A settled run that is not the newest changes nothing but itself. -/
theorem RunTransition.eq_put (h : RunTransition s n r m t) (hsettled : r.stage.settled = true)
    (hlater : n + 1 ≠ s.runs.length) : ∃ r', t = s.put n r' := by
  cases h with
  | opened hstage htoken hplain => simp [hstage, Stage.settled] at hsettled
  | announced hstage htoken htls => simp [hstage, Stage.settled] at hsettled
  | promoted hstage hphase => simp [hstage, Stage.settled] at hsettled
  | stoppedOthers hstage => simp [hstage, Stage.settled] at hsettled
  | failed hstage hnewest => exact absurd hnewest hlater
  | succeeded hstage hnewest hphase => exact absurd hnewest hlater
  | _ => exact ⟨_, rfl⟩

theorem SettledBefore.not_trespasses (h : SettledBefore k s) (hn : n < k) :
    ¬Trespasses places n s := by
  rintro ⟨m, t, hnumber, hstep, hleft⟩
  cases step?_eq_some_iff.mp hstep with
  | run hrun hstep =>
      obtain rfl := Option.some.inj (hstep.number?_eq.symm.trans hnumber)
      obtain ⟨r', rfl⟩ := hstep.eq_put (h.2 _ hn _ hrun).2 (by have := h.1; omega)
      exact hleft leavesAlone_put
  | _ => cases hnumber

theorem SettledBefore.step (h : SettledBefore k s) (hstep : Transition places s m t) :
    SettledBefore k t := by
  obtain ⟨hk, hsettled⟩ := h
  cases hstep with
  | accepted hphase =>
      refine ⟨by simp; omega, fun n hn r hr ↦ hsettled n hn r ?_⟩
      rwa [List.getElem?_append_left (Nat.lt_trans hn hk)] at hr
  | cancelled htoken =>
      refine ⟨by simpa using hk, fun n hn r hr ↦ ?_⟩
      obtain ⟨r₀, hr₀, hr⟩ := cancelled_or_of_getElem?_modify hr
      obtain ⟨hover, hstage⟩ := hsettled n hn r₀ hr₀
      rcases hr with ⟨-, rfl⟩ | ⟨-, rfl⟩
      · exact ⟨.inl rfl, hstage⟩
      · exact ⟨hover, hstage⟩
  | run hrun hstep =>
      obtain ⟨r', hruns, hadv⟩ := hstep.advances
      refine ⟨by simpa [hruns] using hk, fun n hn r hr ↦ ?_⟩
      rw [hruns] at hr
      rcases eq_or_of_getElem?_set hr with ⟨rfl, rfl⟩ | ⟨-, hr⟩
      · obtain ⟨hover, hstage⟩ := hsettled _ hn _ hrun
        exact ⟨hadv.stays_over hover, hadv.settled hover hstage⟩
      · exact hsettled n hn r hr
  | _ => exact ⟨hk, hsettled⟩

theorem SettledBefore.leads (h : SettledBefore k s) (hleads : Relation.ReflTransGen (Leads places) s u) :
    SettledBefore k u := by
  induction hleads with
  | refl => exact h
  | tail _ hstep ih =>
      obtain ⟨m, hstep⟩ := hstep
      exact ih.step (step?_eq_some_iff.mp hstep)

/-! ## Runs that are not -/

theorem leavesAlone_listeners_append (l : Listener) (r : Run) :
    ¬LeavesAlone n s { s.put n r with listeners := s.listeners ++ [l] } := by
  intro h
  simpa using h.listeners

/-- A run that starts listeners registers one more with a new run, or takes its phase on. -/
theorem trespasses_of_opening (hrun : s.runs[n]? = some r) (hstage : r.stage = .opening rest)
    (htoken : s.token ≠ none) (hphase : s.phase = .starting) : Trespasses places n s := by
  cases rest with
  | nil =>
      refine (RunTransition.promoted hstage hphase).trespasses hrun fun h ↦ ?_
      exact absurd h.phase (by simp [hphase])
  | cons place rest =>
      by_cases htls : place.certificate = none
      · exact (RunTransition.opened hstage htoken htls).trespasses hrun
          (leavesAlone_listeners_append _ _)
      · exact (RunTransition.announced hstage htoken htls).trespasses hrun
          (leavesAlone_listeners_append _ _)

/-- What the state looks like once a run is accepted. -/
theorem startRun_of_acceptsRun (hphase : s.phase.acceptsRun = true) :
    s.startRun places =
      { s with
        phase := .starting, token := some s.runs.length, listeners := [],
        runs := s.runs ++ [⟨false, [], .opening places⟩] } := by
  simp [State.startRun, hphase]

theorem getElem?_startRun (places : List Place) (hphase : s.phase.acceptsRun = true)
    (hrun : s.runs[n]? = some r) : (s.startRun places).runs[n]? = some r := by
  obtain ⟨hlt, -⟩ := List.getElem?_eq_some_iff.mp hrun
  rw [startRun_of_acceptsRun hphase]
  exact (List.getElem?_append_left hlt).trans hrun

/-- A run that waits for a certificate when a new one is accepted trespasses once it has it. -/
theorem trespasses_of_preparing_before (places : List Place) {place : Place}
    (hphase : s.phase.acceptsRun = true) (hrun : s.runs[n]? = some r)
    (hstage : r.stage = .preparing place rest) :
    ∃ u, Relation.ReflTransGen (Leads places) (s.startRun places) u ∧ Trespasses places n u := by
  have hrun' := getElem?_startRun places hphase hrun
  obtain ⟨hlt, -⟩ := List.getElem?_eq_some_iff.mp hrun'
  refine ⟨(s.startRun places).put n (r.started place rest),
    .single ⟨.prepare n none, step?_eq_some_iff.mpr (.run hrun' (.prepared hstage))⟩, ?_⟩
  refine trespasses_of_opening (r := r.started place rest) (by simp [hlt])
    (show _ = Stage.opening rest from rfl) ?_ ?_
  · simp [startRun_of_acceptsRun hphase]
  · simp [startRun_of_acceptsRun hphase]

/-- A run with a listener to start registers it while there is a token. -/
theorem leads_register (places : List Place) {place : Place} (hrun : s.runs[k]? = some r)
    (hstage : r.stage = .opening (place :: rest)) (htoken : s.token ≠ none) :
    ∃ r', Leads places s
      { s.put k r' with listeners := s.listeners ++ [⟨k, place.protocol⟩] } := by
  by_cases htls : place.certificate = none
  · exact ⟨_, _, step?_eq_some_iff.mpr (.run hrun (.opened hstage htoken htls))⟩
  · exact ⟨_, _, step?_eq_some_iff.mpr (.run hrun (.announced hstage htoken htls))⟩

/-- A run that is about to stop its listeners stops those of a later run with them. -/
theorem trespasses_of_failing {l : Listener} {fault : ServerFault} (hrun : s.runs[n]? = some r)
    (hstage : r.stage = .failing fault) (hl : l ∈ s.listeners) (hlater : n < l.run) :
    Trespasses places n s := by
  refine (RunTransition.stoppedOthers hstage).trespasses hrun fun h ↦ ?_
  have hnone : s.listeners.filter (n < ·.run) = [] := by simpa using h.asked
  exact List.filter_eq_nil_iff.mp hnone l hl (by simpa using hlater)

/-- So it stops the first listener of a new one, if that one is accepted in the meantime. -/
theorem trespasses_of_failing_before (hplaces : places ≠ []) {fault : ServerFault}
    (hphase : s.phase.acceptsRun = true) (hrun : s.runs[n]? = some r)
    (hstage : r.stage = .failing fault) :
    ∃ u, Relation.ReflTransGen (Leads places) (s.startRun places) u ∧ Trespasses places n u := by
  obtain ⟨place, rest, rfl⟩ := List.exists_cons_of_ne_nil hplaces
  obtain ⟨hlt, -⟩ := List.getElem?_eq_some_iff.mp hrun
  have hnew : (s.startRun (place :: rest)).runs[s.runs.length]? =
      some ⟨false, [], .opening (place :: rest)⟩ := by
    simp [startRun_of_acceptsRun hphase]
  obtain ⟨r', hleads⟩ := leads_register (place :: rest) hnew rfl
    (by simp [startRun_of_acceptsRun hphase])
  refine ⟨_, .single hleads, ?_⟩
  refine trespasses_of_failing (r := r) (l := ⟨s.runs.length, place.protocol⟩) ?_ hstage ?_ hlt
  · simpa [List.getElem?_set_ne (Nat.ne_of_gt hlt)] using getElem?_startRun _ hphase hrun
  · simp

/-! ## Runs that are cancelled -/

/-- A run registers a listener after its token has been cancelled. -/
def StartsCancelled (places : List Place) (n : Nat) (s : State) : Prop :=
  ∃ r t, s.runs[n]? = some r ∧ r.cancelled = true ∧ s.step? places (.register n) = some t ∧
    t.listeners ≠ s.listeners

/-- The newest run does not. Its token is the one that is there, if there is one. -/
theorem Sound.not_startsCancelled (hs : Sound s) (hn : n + 1 = s.runs.length) :
    ¬StartsCancelled places n s := by
  rintro ⟨r, t, hrun, hcancelled, hstep, hleft⟩
  have hopens (hstage : r.stage.opens = true) : s.token = none := by
    cases htoken : s.token with
    | none => rfl
    | some k =>
        obtain rfl : k = n := by have := hs.newest k htoken; omega
        simp [hs.opens k r hrun htoken hcancelled] at hstage
  cases step?_eq_some_iff.mp hstep with
  | run hrun' hstep =>
      cases hstep with
      | givenUp hstage htoken => exact hleft rfl
      | opened hstage htoken hplain =>
          obtain rfl := Option.some.inj (hrun.symm.trans hrun')
          exact htoken (hopens (by simp [hstage, Stage.opens]))
      | announced hstage htoken htls =>
          obtain rfl := Option.some.inj (hrun.symm.trans hrun')
          exact htoken (hopens (by simp [hstage, Stage.opens]))

theorem StartsCancelled.trespasses (h : StartsCancelled places n s) : Trespasses places n s := by
  obtain ⟨r, t, hrun, hcancelled, hstep, hlisteners⟩ := h
  exact ⟨.register n, t, rfl, hstep, fun h ↦ hlisteners h.listeners⟩

/-! ## Main result -/

/-- A new run is left alone by all older ones, in whatever order they go on, exactly if none of them has
listeners to start or to stop when it is accepted. No run but an older one starts listeners after its
token has been cancelled. -/
theorem older_runs_leave_alone_iff (hplaces : places ≠ []) (hs : Reachable places s)
    (hphase : s.phase.acceptsRun = true) :
    ((∀ u, Relation.ReflTransGen (Leads places) (s.startRun places) u →
        ∀ n < s.runs.length, ¬Trespasses places n u ∧ ¬StartsCancelled places n u) ↔
      ∀ r ∈ s.runs, r.stage.settled = true) ∧
    ∀ u, Reachable places u → ∀ n, n + 1 = u.runs.length → ¬StartsCancelled places n u := by
  have hsound := hs.sound
  have htoken := hsound.token_eq_none (not_active_of_acceptsRun hphase)
  refine ⟨⟨fun halone r hr ↦ ?_, fun hsettled u hleads n hn ↦ ?_⟩,
    fun u hu n hn ↦ hu.sound.not_startsCancelled hn⟩
  · obtain ⟨n, hrun⟩ := List.mem_iff_getElem?.mp hr
    obtain ⟨hlt, -⟩ := List.getElem?_eq_some_iff.mp hrun
    cases hstage : r.stage with
    | opening rest =>
        refine absurd ?_ (halone _ .refl n hlt).1
        refine trespasses_of_opening (getElem?_startRun _ hphase hrun) hstage ?_ ?_
        · simp [startRun_of_acceptsRun hphase]
        · simp [startRun_of_acceptsRun hphase]
    | preparing place rest =>
        obtain ⟨u, hleads, htrespasses⟩ :=
          trespasses_of_preparing_before places hphase hrun hstage
        exact absurd htrespasses (halone u hleads n hlt).1
    | failing fault =>
        obtain ⟨u, hleads, htrespasses⟩ := trespasses_of_failing_before hplaces hphase hrun hstage
        exact absurd htrespasses (halone u hleads n hlt).1
    | _ => rfl
  · have hbefore : SettledBefore s.runs.length (s.startRun places) := by
      rw [startRun_of_acceptsRun hphase]
      refine ⟨by simp, fun n hn r hr ↦ ?_⟩
      rw [List.getElem?_append_left hn] at hr
      have hr := List.mem_of_getElem? hr
      exact ⟨hsound.all_over htoken r hr, hsettled r hr⟩
    have halone : ¬Trespasses places n u := (hbefore.leads hleads).not_trespasses hn
    exact ⟨halone, fun hstarts ↦ halone hstarts.trespasses⟩

def loopback : Place := ⟨.http, ⟨.v4 [127, 0, 0, 1], 0, 8080⟩, none⟩

/-- The state in which a shutdown has returned before the run that it has cancelled has registered its
listener. -/
def abandonedStart : State := ⟨.idle, none, [], [⟨true, [], .opening [loopback]⟩], [], []⟩

theorem reachable_abandonedStart : Reachable [loopback] abandonedStart :=
  .step (.finishShutdown ⟨1, []⟩) (.step .shutdown (.step .run .initial rfl) rfl) rfl

/-- A run that is accepted then is not left alone. -/
theorem abandoned_start_not_left_alone :
    Reachable [loopback] abandonedStart ∧ abandonedStart.phase.acceptsRun = true ∧
      ¬∀ u, Relation.ReflTransGen (Leads [loopback]) (abandonedStart.startRun [loopback]) u →
        ∀ n < abandonedStart.runs.length,
          ¬Trespasses [loopback] n u ∧ ¬StartsCancelled [loopback] n u := by
  refine ⟨reachable_abandonedStart, rfl, fun halone ↦ ?_⟩
  have hsettled :=
    (older_runs_leave_alone_iff (by simp) reachable_abandonedStart rfl).1.mp halone
  exact absurd (hsettled _ List.mem_cons_self) (by decide)

/-- The cancelled run registers its listener with the new one, as if it were its own. -/
theorem cancelled_run_registers_with_newer :
    ¬∀ places s, Reachable places s → ∀ n, n + 1 < s.runs.length →
      ¬Trespasses places n s ∧ ¬StartsCancelled places n s := by
  intro halone
  have hreach : Reachable [loopback] (abandonedStart.startRun [loopback]) :=
    .step .run reachable_abandonedStart rfl
  refine (halone _ _ hreach 0 (by decide)).2 ⟨_, _, rfl, rfl, rfl, ?_⟩
  decide

end DepositGate.Lifecycle
