import DepositGate.Gate.Router
import DepositGate.Lifecycle.Server
import DepositGate.Proofs.Config.Consistent
import DepositGate.Proofs.Lifecycle.Transition

/-!
# The launch of a server

A run makes its limiters first, then looks up the places to listen and starts a listener for each. Nothing of
this can fail for a configuration that has been checked, except that the check does not limit the window of
the throttle from above. `validated_runs_iff_window_le` says so: a run gets beyond its start exactly if the
window is not longer than a limiter allows.
-/

namespace DepositGate.Lifecycle

open Http (Protocol)

variable {c : ServerConfig} {s : Server} {r : Run} {m : Move} {t : State}

/-! ## What can be made of a checked configuration -/

theorem hasLimiters_iff : hasLimiters c = true ↔ c.throttle.windowSecs ≤ Limiter.maxWindowSecs := by
  unfold hasLimiters Limiter.ofThrottle?
  by_cases h : Limiter.maxWindowSecs < c.throttle.windowSecs
  · simp [h]
  · simp [h, Nat.not_lt.mp h]

theorem isSome_initial?_iff {σ : Type} (b : σ) :
    (Gate.State.initial? c.throttle b).isSome ↔ c.throttle.windowSecs ≤ Limiter.maxWindowSecs := by
  rw [Gate.State.initial?, Option.isSome_map]
  exact hasLimiters_iff

/-- The protocols for which a configuration gives a place to listen. -/
def configuredProtocols (c : ServerConfig) : List Protocol :=
  (if c.httpAddr = "" then [] else [.http]) ++ (if c.httpsAddr = "" then [] else [.https])

theorem exists_places_of_lookups {http https : Option Net.SocketAddr} (hhttp : c.httpSocketAddr = .ok http)
    (hhttps : c.httpsSocketAddr = .ok https) :
    ∃ ps, places c = .ok ps ∧ ps.map (·.protocol) = configuredProtocols c := by
  have hplain := ServerConfig.optionalAddr_isSome_iff hhttp
  have htls := ServerConfig.optionalAddr_isSome_iff hhttps
  let plain : List Place := http.toList.map (⟨.http, ·, none⟩)
  have hprotocols : plain.map (·.protocol) = if c.httpAddr = "" then [] else [.http] := by
    cases http with
    | none => simp_all [plain]
    | some addr => simp_all [plain]
  cases https with
  | none =>
      have hplaces : places c = .ok plain := by
        rw [places, hhttp, hhttps]
        rfl
      refine ⟨plain, hplaces, ?_⟩
      simp_all [configuredProtocols]
  | some addr =>
      obtain ⟨mode, hmode⟩ := Option.isSome_iff_exists.mp (c.tlsMode_isSome_iff.mpr (htls.mp rfl))
      have hplaces : places c = .ok (plain ++ [⟨.https, addr, some mode⟩]) := by
        rw [places, hhttp, hhttps, hmode]
        rfl
      refine ⟨_, hplaces, ?_⟩
      simp_all [configuredProtocols]

/-! ## Steps of a server -/

theorem RunTransition.phase_ne_starting {s : State} {n : Nat} (h : RunTransition s n r m t)
    (hphase : s.phase ≠ .starting) : t.phase ≠ .starting := by
  cases h <;> simp_all

namespace Server

theorem number?_of_supervision? {number : Nat} (h : s.supervision? number r = some m) :
    m.number? = some number := by
  unfold supervision? at h
  split at h
  · exact Option.some.inj h ▸ rfl
  · split at h
    · exact Option.some.inj h ▸ rfl
    · split at h
      · exact Option.some.inj h ▸ rfl
      · obtain ⟨task, -, hfinish⟩ := List.exists_of_findSome?_eq_some h
        obtain ⟨ending, -, rfl⟩ := Option.map_eq_some_iff.mp hfinish
        rfl

theorem number?_of_runMove? {number : Nat} (h : s.runMove? number r = some m) :
    m.number? = some number := by
  unfold runMove? at h
  split at h
  case h_4 => exact number?_of_supervision? h
  case h_8 => cases h
  all_goals exact Option.some.inj h ▸ rfl

theorem number?_of_nextMove? (h : s.nextMove? = some m) : m.number? ≠ none := by
  obtain ⟨-, hmove⟩ := Option.ite_none_right_eq_some.mp h
  obtain ⟨number, -, hrun⟩ := List.exists_of_findSome?_eq_some hmove
  obtain ⟨r, -, hr⟩ := Option.bind_eq_some_iff.mp hrun
  simp [number?_of_runMove? hr]

theorem phase_perform_ne_starting (hnumber : m.number? ≠ none) (hphase : s.state.phase ≠ .starting) :
    (s.perform m).state.phase ≠ .starting := by
  unfold perform
  split
  next t hstep =>
    cases step?_eq_some_iff.mp hstep with
    | run hrun hrunStep => exact hrunStep.phase_ne_starting hphase
    | accepted | rejected | cancelled | needless | finished | outlived => exact absurd rfl hnumber
  next => exact hphase

/-- Once a run has got beyond its start, no step of a run leads back. -/
theorem phase_advance_ne_starting (n : Nat) (hphase : s.state.phase ≠ .starting) :
    (s.advance n).state.phase ≠ .starting := by
  induction n generalizing s with
  | zero => exact hphase
  | succ n ih =>
      unfold advance
      split
      next m hmove => exact ih (phase_perform_ne_starting (number?_of_nextMove? hmove) hphase)
      next => exact hphase

theorem advance_of_broken (n : Nat) (hlimiters : hasLimiters s.config = false) : s.advance n = s := by
  cases n with
  | zero => rfl
  | succ n => simp [advance, nextMove?, hlimiters]

/-- A server has one run, which has made its limiters and has not been cancelled. -/
structure HasRun (s : Server) (r : Run) : Prop where
  limiters : hasLimiters s.config = true
  token : s.state.token ≠ none
  runs : s.state.runs = [r]

theorem HasRun.advance (hs : s.HasRun r) (hmove : s.runMove? 0 r = some m)
    (hstep : RunTransition s.state 0 r m t) :
    ∃ s' : Server, s'.config = s.config ∧ s'.state = t ∧ ∀ n, s.advance (n + 1) = s'.advance n := by
  have hrun : s.state.runs[0]? = some r := by simp [hs.runs]
  have htransition : Transition s.places s.state m t := .run hrun hstep
  have hnext : s.nextMove? = some m := by simp [nextMove?, hs.limiters, hs.runs, List.range_succ, hmove]
  have hperform : s.perform m =
      { s with state := t, notices := s.notices ++ s.state.notices s.config m } := by
    rw [perform, step?_eq_some_iff.mpr htransition]
  refine ⟨s.perform m, by rw [hperform], by rw [hperform], fun n ↦ ?_⟩
  rw [Server.advance, hnext]

theorem HasRun.goes_on (hs : s.HasRun r) (hmove : s.runMove? 0 r = some m)
    (hstep : RunTransition s.state 0 r m t) (htoken : t.token ≠ none) {r' : Run} (hruns : t.runs = [r']) :
    ∃ s' : Server, s'.HasRun r' ∧ ∀ n, s.advance (n + 1) = s'.advance n := by
  obtain ⟨s', hconfig, rfl, hadvance⟩ := hs.advance hmove hstep
  exact ⟨s', ⟨by rw [hconfig, hs.limiters], htoken, hruns⟩, hadvance⟩

theorem HasRun.leaves_start (hs : s.HasRun r) (hmove : s.runMove? 0 r = some m)
    (hstep : RunTransition s.state 0 r m t) (hphase : t.phase ≠ .starting) (n : Nat) :
    (s.advance (n + 1)).state.phase ≠ .starting := by
  obtain ⟨s', -, rfl, hadvance⟩ := hs.advance hmove hstep
  rw [hadvance]
  exact phase_advance_ne_starting n hphase

theorem HasRun.phase_of_opened (hs : s.HasRun r) (hstage : r.stage = .opening []) (n : Nat) :
    (s.advance (n + 1)).state.phase ≠ .starting := by
  have hmove : s.runMove? 0 r = some (.promote 0) := by rw [runMove?, hstage]
  refine hs.leaves_start hmove (runTransition_promote hstage) ?_ n
  simp only [State.promote]
  split
  · simp
  · assumption

theorem HasRun.phase_of_closing (hs : s.HasRun r) {fault : ServerFault} (hstage : r.stage = .closing (some fault))
    (n : Nat) : (s.advance (n + 1)).state.phase ≠ .starting := by
  have hmove : s.runMove? 0 r = some (.close 0) := by rw [runMove?, hstage]
  exact hs.leaves_start hmove (.failed hstage (by simp [hs.runs])) (by simp) n

/-- A run that has a certificate starts the listener, and one that cannot have it fails. -/
theorem HasRun.of_preparing {place : Place} {rest : List Place} (hs : s.HasRun r)
    (hstage : r.stage = .preparing place rest) :
    ∃ (s' : Server) (r' : Run), s'.HasRun r' ∧ (∀ n, s.advance (n + 1) = s'.advance n) ∧
      (r'.stage = .opening rest ∨ ∃ fault, r'.stage = .closing (some fault)) := by
  have hmove : s.runMove? 0 r = some (.prepare 0 (s.certificateFault? place)) := by rw [runMove?, hstage]
  cases hfault : s.certificateFault? place with
  | none =>
      rw [hfault] at hmove
      have hruns : (s.state.put 0 (r.started place rest)).runs = [r.started place rest] := by simp [hs.runs]
      obtain ⟨s', hs', hadvance⟩ := hs.goes_on hmove (.prepared hstage) hs.token hruns
      exact ⟨s', _, hs', hadvance, .inl rfl⟩
  | some fault =>
      rw [hfault] at hmove
      let r' := r.abandoned (some (.certificate fault))
      have hruns : (s.state.put 0 r').runs = [r'] := by simp [hs.runs]
      obtain ⟨s', hs', hadvance⟩ := hs.goes_on hmove (.unprepared fault hstage) hs.token hruns
      exact ⟨s', r', hs', hadvance, .inr ⟨_, rfl⟩⟩

theorem HasRun.of_opening {place : Place} {rest : List Place} (hs : s.HasRun r)
    (hstage : r.stage = .opening (place :: rest)) :
    ∃ (s' : Server) (r' : Run), s'.HasRun r' ∧ (∀ n, s.advance (n + 1) = s'.advance n) ∧
      (r'.stage = .opening rest ∨ r'.stage = .preparing place rest) := by
  have hmove : s.runMove? 0 r = some (.register 0) := by rw [runMove?, hstage]
  have hruns (r' : Run) : (s.state.put 0 r').runs = [r'] := by simp [hs.runs]
  by_cases hplain : place.certificate = none
  · obtain ⟨s', hs', hadvance⟩ := hs.goes_on hmove (.opened hstage hs.token hplain) hs.token (hruns _)
    exact ⟨s', _, hs', hadvance, .inl rfl⟩
  · obtain ⟨s', hs', hadvance⟩ := hs.goes_on hmove (.announced hstage hs.token hplain) hs.token (hruns _)
    exact ⟨s', _, hs', hadvance, .inr rfl⟩

/-- A run that has made its limiters starts one listener after another, or fails for want of a certificate.
After two steps for each listener and two more, it has got beyond its start. -/
theorem HasRun.phase_of_opening {places : List Place} {n : Nat} (hs : s.HasRun r)
    (hstage : r.stage = .opening places) (hn : 2 * places.length + 2 ≤ n) :
    (s.advance n).state.phase ≠ .starting := by
  induction places generalizing s r n with
  | nil =>
      obtain ⟨k, rfl⟩ := Nat.exists_eq_add_of_le' (show 1 ≤ n by omega)
      exact hs.phase_of_opened hstage k
  | cons place rest ih =>
      rw [List.length_cons] at hn
      obtain ⟨k, rfl⟩ := Nat.exists_eq_add_of_le' (show 3 ≤ n by omega)
      obtain ⟨s₁, r₁, hs₁, hadvance₁, hopening | hpreparing⟩ := hs.of_opening hstage
      · rw [hadvance₁]
        exact ih hs₁ hopening (by omega)
      · obtain ⟨s₂, r₂, hs₂, hadvance₂, hopening | ⟨fault, hclosing⟩⟩ := hs₁.of_preparing hpreparing
        · rw [hadvance₁, hadvance₂]
          exact ih hs₂ hopening (by omega)
        · rw [hadvance₁, hadvance₂]
          exact hs₂.phase_of_closing hclosing k

/-- The first run of a server leaves the start behind it exactly if its limiters can be made. -/
theorem phase_run_ne_starting_iff (hstate : s.state = .initial) :
    s.run.state.phase ≠ .starting ↔ hasLimiters s.config = true := by
  have hrun : (s.perform .run).state = State.startRun s.places .initial := by
    rw [perform, hstate]
    rfl
  have hconfig : (s.perform .run).config = s.config := by
    rw [perform]
    split <;> rfl
  have hplaces : (s.perform .run).places = s.places := by
    rw [perform]
    split <;> rfl
  rw [run, settle, hrun, hplaces]
  cases hlimiters : hasLimiters s.config with
  | false =>
      rw [advance_of_broken _ (by rw [hconfig, hlimiters]), hrun]
      simp [State.startRun, State.initial, Phase.acceptsRun]
  | true =>
      have hs : (s.perform .run).HasRun ⟨false, [], .opening s.places⟩ := by
        refine ⟨by rw [hconfig, hlimiters], ?_, ?_⟩
        · simp [hrun, State.startRun, State.initial, Phase.acceptsRun]
        · simp [hrun, State.startRun, State.initial, Phase.acceptsRun]
      have hphase := hs.phase_of_opening (n := 1 * (4 * s.places.length + 6)) rfl (by omega)
      simpa [State.startRun, State.initial, Phase.acceptsRun] using hphase

end Server

/-! ## Main result -/

/-- A configuration that passes the check is a server's, its places to listen can be looked up and are those
that it gives, and certificates are looked up where they are needed. Its limiters can be made, and its run
gets beyond the start, exactly if the window of its throttle is not longer than a limiter allows. -/
theorem validated_runs_iff_window_le (environment : Environment) (hvalid : c.validate = .ok ()) :
    ∃ server, Server.ofConfig environment c = .ok server ∧
      server.places.map (·.protocol) = configuredProtocols c ∧
      (∃ http https, c.httpSocketAddr = .ok http ∧ c.httpsSocketAddr = .ok https ∧
        (http.isSome ↔ c.httpAddr ≠ "") ∧ (https.isSome ↔ c.httpsAddr ≠ "") ∧
        (c.tlsMode.isSome ↔ https.isSome)) ∧
      (∀ (σ : Type) (b : σ), (Gate.State.initial? c.throttle b).isSome ↔
        c.throttle.windowSecs ≤ Limiter.maxWindowSecs) ∧
      (server.run.state.phase ≠ .starting ↔ c.throttle.windowSecs ≤ Limiter.maxWindowSecs) := by
  have hconsistent := ServerConfig.validate_eq_ok_iff_consistent.mp hvalid
  obtain ⟨http, hhttp⟩ := hconsistent.httpAddr
  obtain ⟨https, hhttps⟩ := hconsistent.httpsAddr
  have hhttpSome := ServerConfig.optionalAddr_isSome_iff hhttp
  have hhttpsSome := ServerConfig.optionalAddr_isSome_iff hhttps
  obtain ⟨ps, hplaces, hprotocols⟩ := exists_places_of_lookups hhttp hhttps
  refine ⟨⟨c, ps, environment, .initial, []⟩, ?_, hprotocols, ⟨http, https, hhttp, hhttps, hhttpSome,
    hhttpsSome, c.tlsMode_isSome_iff.trans hhttpsSome.symm⟩, fun σ b ↦ isSome_initial?_iff b, ?_⟩
  · rw [Server.ofConfig, hvalid, hplaces]
  · exact (Server.phase_run_ne_starting_iff rfl).trans hasLimiters_iff

def sixtyIn (windowSecs : Nat) : ServerConfig :=
  ⟨"127.0.0.1:0", "", "", ⟨0, 0⟩, "", "", "", "", none, false, ⟨60, windowSecs⟩⟩

def bareEnvironment : Environment :=
  ⟨⟨fun _ ↦ .error .notFound, fun _ ↦ .ok ()⟩, fun _ ↦ none⟩

theorem longest_window_runs :
    (sixtyIn 31536000000).validate = .ok () ∧
      ∃ server, Server.ofConfig bareEnvironment (sixtyIn 31536000000) = .ok server ∧
        server.places.map (·.protocol) = [.http] ∧ server.run.state.phase ≠ .starting := by
  have hvalid : (sixtyIn 31536000000).validate = .ok () := rfl
  obtain ⟨server, hserver, hprotocols, -, -, hphase⟩ := validated_runs_iff_window_le bareEnvironment hvalid
  exact ⟨hvalid, server, hserver, hprotocols, hphase.mpr (by decide)⟩

/-- One second more passes the check as well, but then there is no limiter, and the run stays at its start. -/
theorem longer_window_breaks_run :
    (sixtyIn 31536000001).validate = .ok () ∧
      Gate.State.initial? (sixtyIn 31536000001).throttle () = none ∧
      ∃ server, Server.ofConfig bareEnvironment (sixtyIn 31536000001) = .ok server ∧
        server.run.state.phase = .starting :=
  ⟨rfl, by decide, _, rfl, by decide⟩

end DepositGate.Lifecycle
