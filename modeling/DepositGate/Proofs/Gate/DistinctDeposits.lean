import DepositGate.Config.Load
import DepositGate.Proofs.Gate.Results

/-!
# Deposit addresses of different sky addresses

A pool hands out each place of its list once, so sky addresses share a deposit address exactly if it stands at
two of the places handed out. Nothing between a configuration file and the pool keeps an address from being
listed twice: `distinctDeposits_iff_nodup` says for every configuration and every sequence of requests when the
answers are distinct, and `repeated_deposit_shared` gives a file for which they are not.
-/

namespace DepositGate

open Http (Request Response)

namespace Pool

variable {p p' : Pool} {skyAddr depositAddr : String} {second : Int} {events : List Event}

theorem exists_binding_of_bind_ok (hcall : p.bind skyAddr second = .atOnce (.ok depositAddr) p' events) :
    ∃ b ∈ p'.bindings, b.skyAddr = skyAddr ∧ b.depositAddr = depositAddr := by
  obtain ⟨b, hfound, haddr, rfl⟩ | ⟨-, free, -, rfl⟩ := cases_of_bind_ok hcall
  · obtain ⟨hb, hsky⟩ := List.mem_filter.mp (List.mem_of_getLast? hfound)
    exact ⟨b, hb, by simpa using hsky, haddr⟩
  · exact ⟨_, List.mem_append_right _ (List.mem_singleton_self _), rfl, rfl⟩

theorem mem_bindings_of_bind_ok (hcall : p.bind skyAddr second = .atOnce (.ok depositAddr) p' events)
    {b : Binding} (hb : b ∈ p'.bindings) :
    b ∈ p.bindings ∨ b.skyAddr = skyAddr ∧ b.depositAddr = depositAddr := by
  obtain ⟨-, -, -, rfl⟩ | ⟨-, free, -, rfl⟩ := cases_of_bind_ok hcall
  · exact .inl hb
  · rcases List.mem_append.mp hb with hold | hnew
    · exact .inl hold
    · obtain rfl := List.mem_singleton.mp hnew
      exact .inr ⟨rfl, rfl⟩

theorem bindings_subset_of_bind_ok (hcall : p.bind skyAddr second = .atOnce (.ok depositAddr) p' events) :
    p.bindings ⊆ p'.bindings := by
  obtain ⟨-, -, -, rfl⟩ | ⟨-, free, -, rfl⟩ := cases_of_bind_ok hcall
  · exact List.Subset.refl _
  · exact List.subset_append_left _ _

end Pool

namespace Gate

/-! ## One request -/

section Reply

variable {σ : Type} {g : Gate σ} {moment : Moment} {request : Request} {s : State σ}

theorem bound_of_statusInTime_eq_200 {e : Endpoints σ} {state : σ}
    (hstatus : statusInTime (e.bind moment request state).answer = 200) :
    ∃ m coin depositAddr events, BindReady e moment request m coin ∧
      e.bindEnded moment m state = ⟨some (.ok depositAddr), (e.bind moment request state).state, events⟩ ∧
      (e.bind moment request state).answer = some (.ok (BindReply.toDatum ⟨depositAddr, coin⟩)) := by
  have houtcome := bindOutcome e moment request state
  generalize e.bind moment request state = h at houtcome hstatus ⊢
  cases houtcome with
  | unread | incomplete | unadmitted | refused =>
      simp [statusInTime, answerResponse, ApiError.status_ne_200] at hstatus
  | late => cases hstatus
  | bound hready hended => exact ⟨_, _, _, _, hready, hended, rfl⟩

/-- A request to bind is answered with 200 only by a binding of the backend, and the answer can be read. -/
theorem bound_of_status_eq_200 (hpath : request.uri.path = "/api/bind")
    (hstatus : (g.reply moment request s).response.status = 200) :
    ∃ m coin depositAddr events, BindReady g.endpoints moment request m coin ∧
      g.endpoints.bindEnded moment m s.backend =
        ⟨some (.ok depositAddr), (g.reply moment request s).state.backend, events⟩ ∧
      BindReply.ofJson (g.reply moment request s).response.body.content = .ok ⟨depositAddr, coin⟩ := by
  rw [status_reply] at hstatus
  cases hverdict : g.options.verdict request with
  | badHost =>
      rw [check_of_badHost hverdict] at hstatus
      simp [SecurityOptions.rejection, ApiError.status] at hstatus
  | redirect location =>
      rw [check_of_redirect hverdict, SecurityOptions.redirection] at hstatus
      split at hstatus <;> simp [Response.bare, ApiError.status] at hstatus
  | forward =>
      rw [check_of_forward hverdict] at hstatus
      have hstate : (g.reply moment request s).state = (g.route moment request s).state := by
        rw [reply_state, check_of_forward hverdict, inTime_state]
      have hcourse := course g moment request s
      rw [hstate]
      generalize g.route moment request s = a at hcourse hstatus ⊢
      cases hcourse with
      | limited => simp [inTime, ApiError.status] at hstatus
      | served hsite => simp [Route.ofPath, hpath] at hsite
      | @admitted route h s' hroute hroom hhandled hbackend =>
          rw [status_inTime_admitted] at hstatus
          obtain rfl : Route.bind = route := by
            rw [← hroute, hpath]
            rfl
          obtain rfl : g.endpoints.bind moment request s.backend = h := Option.some.inj hhandled
          obtain ⟨m, coin, depositAddr, events, hready, hended, hanswer⟩ :=
            bound_of_statusInTime_eq_200 hstatus
          have hmethod := (bindMessage_eq_ok hready.message).1
          rw [← hroute] at hhandled
          have hcontent := (reply_of_answer hverdict hroom (by simp [hmethod]) (by simp [hmethod])
            hhandled hanswer).2
          refine ⟨m, coin, depositAddr, events, hready, ?_, ?_⟩
          · dsimp only
            rw [hbackend]
            exact hended
          · rw [hcontent]
            exact BindReply.ofJson_encode ⟨depositAddr, coin⟩

end Reply

/-- A request to bind a sky address is answered with 200 and a deposit address. -/
structure Grants (request : Request) (r : Response) (skyAddr depositAddr : String) : Prop where
  path : request.uri.path = "/api/bind"
  asked : ∃ coinCode, BindRequest.ofJson request.body = .ok ⟨skyAddr, coinCode⟩
  status : r.status = 200
  answered : ∃ coin, BindReply.ofJson r.body.content = .ok ⟨depositAddr, coin⟩

variable {g : Gate Pool} {moment : Moment} {request : Request} {s : State Pool}
  {skyAddr depositAddr : String}

/-- A deposit address that is granted is bound to the sky address from then on. -/
theorem Grants.exists_binding (hbackend : g.endpoints.backend = Pool.backend)
    (h : Grants request (g.reply moment request s).response skyAddr depositAddr) :
    ∃ b ∈ (g.reply moment request s).state.backend.bindings,
      b.skyAddr = skyAddr ∧ b.depositAddr = depositAddr := by
  obtain ⟨coinCode, hasked⟩ := h.asked
  obtain ⟨coin, hanswered⟩ := h.answered
  obtain ⟨m, coin', depositAddr', events, hready, hended, hread⟩ := bound_of_status_eq_200 h.path h.status
  obtain rfl : m = ⟨skyAddr, coinCode⟩ := by
    simpa [hasked, eq_comm] using (bindMessage_eq_ok hready.message).2
  obtain rfl : depositAddr' = depositAddr :=
    congrArg BindReply.depositAddress (Except.ok.inj (hread.symm.trans hanswered))
  exact Pool.exists_binding_of_bind_ok (bind_of_bindEnded hbackend hended)

/-- What a request binds is granted to its client, and nothing that is bound gets lost. -/
theorem bindings_reply (hbackend : g.endpoints.backend = Pool.backend) (moment : Moment) (request : Request)
    (s : State Pool) :
    s.backend.bindings ⊆ (g.reply moment request s).state.backend.bindings ∧
      ∀ b ∈ (g.reply moment request s).state.backend.bindings, b ∈ s.backend.bindings ∨
        Grants request (g.reply moment request s).response b.skyAddr b.depositAddr := by
  have hstep := poolStep_reply hbackend moment request s
  by_cases hnew : ∃ m, NewBinding request (g.reply moment request s).response.status s.backend m
  · obtain ⟨m, hnew⟩ := hnew
    obtain ⟨m', coin, depositAddr, events, hready, hended, hread⟩ :=
      bound_of_status_eq_200 hnew.path hnew.answered
    have hasked := (bindMessage_eq_ok hready.message).2
    have hcall := bind_of_bindEnded hbackend hended
    refine ⟨Pool.bindings_subset_of_bind_ok hcall, fun b hb ↦ ?_⟩
    refine (Pool.mem_bindings_of_bind_ok hcall hb).imp_right ?_
    rintro ⟨hsky, hdeposit⟩
    exact ⟨hnew.path, ⟨m'.coinCode, by rw [hasked, hsky]⟩, hnew.answered, ⟨coin, by rw [hread, hdeposit]⟩⟩
  · generalize (g.reply moment request s).state.backend = p' at hstep ⊢
    cases hstep with
    | moved hbinding => exact absurd ⟨_, hbinding⟩ hnew
    | kept => exact ⟨List.Subset.refl _, fun b hb ↦ .inl hb⟩

/-! ## Sequences of requests -/

def Lapse.KeepsBackend {σ : Type} (lapse : Lapse σ) : Prop :=
  ∀ counted moment s, (lapse counted moment s).backend = s.backend

/-- One of some requests grants a deposit address to a sky address. -/
def Granted (g : Gate Pool) (lapse : Lapse Pool) (counted : List (Moment × Option (Route × String)))
    (s : State Pool) (requests : List (Moment × Request)) (skyAddr depositAddr : String) : Prop :=
  ∃ exchange ∈ requests.zip (g.courseOver lapse counted s requests).1,
    Grants exchange.1.2 exchange.2.response skyAddr depositAddr

section Course

variable {lapse : Lapse Pool} {counted : List (Moment × Option (Route × String))}
  {requests : List (Moment × Request)}

theorem granted_cons (moment : Moment) (request : Request) (requests : List (Moment × Request)) :
    g.Granted lapse counted s ((moment, request) :: requests) skyAddr depositAddr ↔
      Grants request (g.reply moment request (lapse counted moment s)).response skyAddr depositAddr ∨
        g.Granted lapse (counted ++ [(moment, countedFor? g.options request)])
          (g.reply moment request (lapse counted moment s)).state requests skyAddr depositAddr := by
  simp only [Granted, courseOver, List.zip_cons_cons, List.exists_mem_cons_iff]

theorem bindings_subset_courseOver (hbackend : g.endpoints.backend = Pool.backend)
    (hlapse : lapse.KeepsBackend) :
    s.backend.bindings ⊆ (g.courseOver lapse counted s requests).2.backend.bindings := by
  induction requests generalizing counted s with
  | nil => exact List.Subset.refl _
  | cons entry requests ih =>
      have hfirst := (bindings_reply hbackend entry.1 entry.2 (lapse counted entry.1 s)).1
      rw [hlapse] at hfirst
      exact List.Subset.trans hfirst ih

theorem Granted.exists_binding (hbackend : g.endpoints.backend = Pool.backend)
    (hlapse : lapse.KeepsBackend) (h : g.Granted lapse counted s requests skyAddr depositAddr) :
    ∃ b ∈ (g.courseOver lapse counted s requests).2.backend.bindings,
      b.skyAddr = skyAddr ∧ b.depositAddr = depositAddr := by
  induction requests generalizing counted s with
  | nil => simp [Granted] at h
  | cons entry requests ih =>
      obtain ⟨moment, request⟩ := entry
      rcases (granted_cons moment request requests).mp h with hgrants | hgranted
      · obtain ⟨b, hb, haddr⟩ := hgrants.exists_binding hbackend
        have hkept : b ∈ (g.courseOver lapse (counted ++ [(moment, countedFor? g.options request)])
            (g.reply moment request (lapse counted moment s)).state requests).2.backend.bindings :=
          bindings_subset_courseOver hbackend hlapse hb
        exact ⟨b, hkept, haddr⟩
      · exact ih hgranted

theorem granted_of_mem_bindings (hbackend : g.endpoints.backend = Pool.backend)
    (hlapse : lapse.KeepsBackend) {b : Binding}
    (hb : b ∈ (g.courseOver lapse counted s requests).2.backend.bindings) :
    b ∈ s.backend.bindings ∨ g.Granted lapse counted s requests b.skyAddr b.depositAddr := by
  induction requests generalizing counted s with
  | nil => exact .inl hb
  | cons entry requests ih =>
      obtain ⟨moment, request⟩ := entry
      rw [granted_cons]
      rcases ih hb with hb | hgranted
      · have hreply := (bindings_reply hbackend moment request (lapse counted moment s)).2 b hb
        rw [hlapse] at hreply
        exact hreply.imp_right .inl
      · exact .inr (.inr hgranted)

theorem allocated_courseOver (hbackend : g.endpoints.backend = Pool.backend) (hlapse : lapse.KeepsBackend)
    {addresses : List String} {hs : List Pool.Holder} (h : Pool.Allocated addresses hs s.backend) :
    ∃ hs', Pool.Allocated addresses hs' (g.courseOver lapse counted s requests).2.backend := by
  induction requests generalizing counted s hs with
  | nil => exact ⟨hs, h⟩
  | cons entry requests ih =>
      rw [← hlapse counted entry.1] at h
      obtain ⟨hs₁, -, h₁⟩ := allocated_reply hbackend h entry.1 entry.2
      exact ih h₁

end Course

/-- Requests for different sky addresses are granted different deposit addresses. -/
def DistinctDeposits (g : Gate Pool) (lapse : Lapse Pool) (s : State Pool)
    (requests : List (Moment × Request)) : Prop :=
  ∀ skyAddr skyAddr' depositAddr depositAddr', g.Granted lapse [] s requests skyAddr depositAddr →
    g.Granted lapse [] s requests skyAddr' depositAddr' → skyAddr ≠ skyAddr' → depositAddr ≠ depositAddr'

/-- The deposit addresses that are granted are those at the first places of the list, one for each sky address. -/
theorem distinctDeposits_iff (hbackend : g.endpoints.backend = Pool.backend) {lapse : Lapse Pool}
    (hlapse : lapse.KeepsBackend) {addresses : List String} (hs : s.backend = Pool.ofList addresses)
    (requests : List (Moment × Request)) :
    g.DistinctDeposits lapse s requests ↔
      (addresses.take (g.courseOver lapse [] s requests).2.backend.bindings.length).Nodup := by
  have hallocated : Pool.Allocated addresses [] s.backend := by
    rw [hs]
    exact Pool.allocated_ofList addresses
  obtain ⟨hs', h⟩ := allocated_courseOver hbackend hlapse hallocated
  have hgranted {b : Binding} (hb : b ∈ (g.courseOver lapse [] s requests).2.backend.bindings) :
      g.Granted lapse [] s requests b.skyAddr b.depositAddr := by
    apply (granted_of_mem_bindings hbackend hlapse hb).resolve_left
    simp [hs, Pool.ofList]
  have hdeposits : addresses.take (g.courseOver lapse [] s requests).2.backend.bindings.length =
      (g.courseOver lapse [] s requests).2.backend.bindings.map Binding.depositAddr := by
    rw [← h.conserved, List.take_left' (List.length_map _)]
  -- No two bindings are for one sky address, so the places differ exactly if no two bindings share a deposit address.
  rw [hdeposits, List.nodup_map_iff_inj_on h.distinct.of_map]
  constructor
  · intro hdistinct b hb b' hb' hdeposit
    by_contra hne
    have hsky : b.skyAddr ≠ b'.skyAddr := by
      intro hsky
      exact hne (List.inj_on_of_nodup_map h.distinct hb hb' hsky)
    exact hdistinct _ _ _ _ (hgranted hb) (hgranted hb') hsky hdeposit
  · intro hinjective _ _ _ _ hfirst hsecond hsky hdeposit
    obtain ⟨b, hb, rfl, rfl⟩ := hfirst.exists_binding hbackend hlapse
    obtain ⟨b', hb', rfl, rfl⟩ := hsecond.exists_binding hbackend hlapse
    apply hsky
    exact congrArg Binding.skyAddr (hinjective b hb b' hb' hdeposit)

/-! ## Main result -/

/-- Whatever the configuration and the site are, whatever is asked and whenever windows end: different sky
addresses are granted different deposit addresses exactly if the addresses handed out so far are listed once. -/
theorem distinctDeposits_iff_nodup (c : AppConfig) (site : Option Site.Tree) {s : State Pool}
    (hs : State.initial? c.http.throttle (Pool.ofList c.depositAddresses) = some s)
    {lapse : Lapse Pool} (hlapse : lapse.KeepsBackend) (requests : List (Moment × Request)) :
    let g := ofConfig c.http Pool.backend SkyAddress.validate site
    g.DistinctDeposits lapse s requests ↔
      (c.depositAddresses.take (g.courseOver lapse [] s requests).2.backend.bindings.length).Nodup := by
  obtain ⟨l, -, rfl⟩ := Option.map_eq_some_iff.mp hs
  exact distinctDeposits_iff rfl hlapse rfl requests

def depositFile (listed : String) : String :=
  "[http]\nhttp_addr = \"127.0.0.1:0\"\nstart_at = \"1970-01-01T00:00:00Z\"\n[deposit]\nbtc_addresses = " ++ listed

def depositConfig (addresses : List String) : AppConfig :=
  ⟨⟨"127.0.0.1:0", "", "web/build", ⟨0, 0⟩, "", "", "", "cert-cache", none, true, ⟨60, 60⟩⟩, addresses, "text"⟩

def twoBinds : List (Moment × Request) :=
  [asks "POST" "a" (bindBody "2EVNa4CK9SKosT4j1GEn8SuuUUEAXaHAMbM"),
    asks "POST" "b" (bindBody "vkovgvXDgRdzeH3yGrxbjiw5MwnEyRmKQo")]

theorem listed_once_granted_once :
    let g := ofConfig (depositConfig ["x", "y"]).http Pool.backend SkyAddress.validate none
    let s : State Pool := ⟨⟨60, []⟩, ⟨60, []⟩, .ofList ["x", "y"]⟩
    State.initial? (depositConfig ["x", "y"]).http.throttle (Pool.ofList ["x", "y"]) = some s ∧
      (g.replies s twoBinds).map (·.response.status) = [200, 200] ∧
      g.DistinctDeposits (fun _ _ s ↦ s) s twoBinds := by
  intro g s
  have hs : State.initial? (depositConfig ["x", "y"]).http.throttle (Pool.ofList ["x", "y"]) = some s := rfl
  have hlapse : Lapse.KeepsBackend (fun _ _ s ↦ s : Lapse Pool) := fun _ _ _ ↦ rfl
  have hbound : (g.courseOver (fun _ _ s ↦ s) [] s twoBinds).2.backend.bindings.length = 2 := by
    decide +kernel
  refine ⟨hs, by decide +kernel, ?_⟩
  apply (distinctDeposits_iff_nodup (depositConfig ["x", "y"]) none hs hlapse twoBinds).mpr
  rw [hbound]
  decide

theorem load_depositFile :
    AppConfig.load (.ok (Text.utf8 (depositFile "[\"x\", \"x\"]"))) = .ok (depositConfig ["x", "x"]) := by
  have hread : (AppConfig.load (.ok (Text.utf8 (depositFile "[\"x\", \"x\"]")))).toOption =
      some (depositConfig ["x", "x"]) := by
    rw [AppConfig.load, AppConfig.ofBytes, Text.ofUtf8?_utf8]
    decide +kernel
  cases hload : AppConfig.load (.ok (Text.utf8 (depositFile "[\"x\", \"x\"]"))) with
  | error fault => simp [hload, Except.toOption] at hread
  | ok c =>
      rw [hload] at hread
      exact congrArg Except.ok (Option.some.inj hread)

/-- A file that lists an address twice is accepted, and two sky addresses share it. -/
theorem repeated_deposit_shared :
    let c := depositConfig ["x", "x"]
    let s : State Pool := ⟨⟨60, []⟩, ⟨60, []⟩, .ofList c.depositAddresses⟩
    AppConfig.load (.ok (Text.utf8 (depositFile "[\"x\", \"x\"]"))) = .ok c ∧
      State.initial? c.http.throttle (Pool.ofList c.depositAddresses) = some s ∧
      ¬(ofConfig c.http Pool.backend SkyAddress.validate none).DistinctDeposits (fun _ _ s ↦ s) s twoBinds := by
  intro c s
  have hbound : ((ofConfig c.http Pool.backend SkyAddress.validate none).courseOver (fun _ _ s ↦ s) [] s
      twoBinds).2.backend.bindings.length = 2 := by
    decide +kernel
  refine ⟨load_depositFile, rfl, ?_⟩
  rw [distinctDeposits_iff rfl (fun _ _ _ ↦ rfl) rfl, hbound]
  decide

end Gate

end DepositGate
