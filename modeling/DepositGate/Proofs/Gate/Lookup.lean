import DepositGate.Proofs.Gate.Results
import DepositGate.Proofs.Gate.Security
import DepositGate.Proofs.Http.Form

/-!
# Which sky address is looked up

A query may have several fields with a sky address, among others and in any encoding. The first one is
looked up, and what follows it changes neither the answer nor what is asked of the backend:
`first_skyAddr_counts`.
-/

namespace DepositGate

open Http (Request)

/-- A request to look up the deposits of the sky address in a query. -/
def Http.Request.lookingUp (request : Request) (query : String) : Request :=
  { request with method := "GET", uri := { request.uri with target := "/api/status?" ++ query } }

namespace Gate

variable {σ : Type} {g : Gate σ} {e : Endpoints σ} {moment : Moment} {request : Request} {s : State σ}
  {query query' skyAddr : String}

/-! ## The endpoint -/

/-- What the endpoint makes of a sky address: it is checked, and the backend is asked for it and no other. -/
def Endpoints.lookupOf (e : Endpoints σ) (moment : Moment) (skyAddr : String) (state : σ) : Handled σ :=
  if skyAddr = "" then ⟨some (.error .missingSkyAddr), state, []⟩
  else
    match e.admit moment.now skyAddr with
    | .error fault => ⟨some (.error fault), state, lookupAsked skyAddr⟩
    | .ok () => lookupHandled skyAddr (e.lookupEnded skyAddr state)

@[simp] theorem method_lookingUp (request : Request) (query : String) :
    (request.lookingUp query).method = "GET" := rfl

@[simp] theorem path_lookingUp (request : Request) (query : String) :
    (request.lookingUp query).uri.path = "/api/status" := by
  simp [Http.Request.lookingUp, Http.Uri.path]

@[simp] theorem query_lookingUp (request : Request) (query : String) :
    (request.lookingUp query).uri.query = some query := by
  simp [Http.Request.lookingUp, Http.Uri.query]

theorem lookup_lookingUp (e : Endpoints σ) (moment : Moment) (request : Request)
    (hfirst : Http.Form.first? skyAddrField query = some skyAddr) (state : σ) :
    e.lookup moment (request.lookingUp query) state = e.lookupOf moment skyAddr state := by
  have haddress : lookupAddress (request.lookingUp query) =
      if skyAddr = "" then .error .missingSkyAddr else .ok skyAddr := by
    rw [lookupAddress, query_lookingUp, Option.getD_some, hfirst]
    simp [Http.Request.lookingUp]
  unfold Endpoints.lookup Endpoints.lookupOf
  rw [haddress]
  by_cases hempty : skyAddr = ""
  · rw [if_pos hempty, if_pos hempty]
  · rw [if_neg hempty, if_neg hempty]
    rfl

/-! ## The gate -/

theorem route_lookingUp_congr (s : State σ) (hendpoint : ∀ state,
      g.endpoints.lookup moment (request.lookingUp query') state =
        g.endpoints.lookup moment (request.lookingUp query) state) :
    g.route moment (request.lookingUp query') s = g.route moment (request.lookingUp query) s := by
  have hpath : (request.lookingUp query').uri.path = (request.lookingUp query).uri.path := by
    rw [path_lookingUp, path_lookingUp]
  have hadmitted : g.lookupAdmitted moment (request.lookingUp query') =
      g.lookupAdmitted moment (request.lookingUp query) := by
    funext state
    unfold lookupAdmitted logged initialFields
    rw [hendpoint, hpath]
    rfl
  have hlookup : g.lookup moment (request.lookingUp query') s = g.lookup moment (request.lookingUp query) s := by
    have hlimited (inner : σ → Attempt σ) (l : Limiter) (state : σ) :
        limited (request.lookingUp query') inner l state = limited (request.lookingUp query) inner l state :=
      limited_congr rfl hpath
    rw [lookup_eq_limited, lookup_eq_limited, hadmitted, hlimited]
    rfl
  unfold Gate.route
  rw [hpath, hlookup, path_lookingUp]
  rfl

/-- Both requests are sent to the place that their target has on a host. -/
def BothRedirected (options : SecurityOptions) (long short : Request) : Prop :=
  ∃ host, options.verdict long = .redirect (SecurityOptions.redirectLocation host long) ∧
    options.verdict short = .redirect (SecurityOptions.redirectLocation host short)

theorem reply_lookingUp_congr (s : State σ) (hendpoint : ∀ state,
      g.endpoints.lookup moment (request.lookingUp query') state =
        g.endpoints.lookup moment (request.lookingUp query) state) :
    g.reply moment (request.lookingUp query') s = g.reply moment (request.lookingUp query) s ∨
      BothRedirected g.options (request.lookingUp query') (request.lookingUp query) := by
  have hreply (hcheck : g.options.check (request.lookingUp query')
        (fun s ↦ inTime (g.route moment (request.lookingUp query') s)) s =
      g.options.check (request.lookingUp query)
        (fun s ↦ inTime (g.route moment (request.lookingUp query) s)) s) :
      g.reply moment (request.lookingUp query') s = g.reply moment (request.lookingUp query) s := by
    unfold reply
    rw [hcheck, path_lookingUp, path_lookingUp]
    rfl
  cases hverdict : g.options.verdict (request.lookingUp query') with
  | forward =>
      have hpasses := SecurityOptions.verdict_eq_forward_iff.mp hverdict
      have hshort : g.options.verdict (request.lookingUp query) = .forward :=
        SecurityOptions.verdict_eq_forward_iff.mpr hpasses
      refine .inl (hreply ?_)
      rw [check_of_forward hverdict, check_of_forward hshort, route_lookingUp_congr s hendpoint]
  | badHost =>
      have hbad := SecurityOptions.verdict_eq_badHost_iff.mp hverdict
      have hshort : g.options.verdict (request.lookingUp query) = .badHost :=
        SecurityOptions.verdict_eq_badHost_iff.mpr hbad
      refine .inl (hreply ?_)
      rw [check_of_badHost hverdict, check_of_badHost hshort]
      rfl
  | redirect location =>
      obtain ⟨hallows, htls, host, hhost, rfl⟩ := SecurityOptions.verdict_eq_redirect_iff.mp hverdict
      exact .inr ⟨host, hverdict, SecurityOptions.verdict_eq_redirect_iff.mpr ⟨hallows, htls, host, hhost, rfl⟩⟩

theorem isHeaderValue_redirectLocation (host : String) (request : Request) (query : String) {q : String}
    (hq : Http.isHeaderValue q) :
    Http.isHeaderValue (SecurityOptions.redirectLocation host (request.lookingUp (query ++ "&" ++ q))) =
      Http.isHeaderValue (SecurityOptions.redirectLocation host (request.lookingUp query)) := by
  have happend (a b : String) :
      Http.isHeaderValue (a ++ b) = (Http.isHeaderValue a && Http.isHeaderValue b) := by
    simp [Http.isHeaderValue]
  have hand : Http.isHeaderValue "&" := by decide
  unfold SecurityOptions.redirectLocation Http.Uri.pathAndQuery Http.Request.lookingUp
  split
  · simp [happend, hand, hq]
  · rfl

theorem BothRedirected.state_reply {long short : Request} (h : BothRedirected g.options long short)
    (s : State σ) : (g.reply moment long s).state = (g.reply moment short s).state := by
  obtain ⟨host, hlong, hshort⟩ := h
  rw [reply_state, reply_state, check_state_of_ne_forward (by simp [hlong]),
    check_state_of_ne_forward (by simp [hshort])]

theorem answer_of_redirected (request : Request) (query : String) {q : String} (hq : Http.isHeaderValue q)
    (h : BothRedirected g.options (request.lookingUp (query ++ "&" ++ q)) (request.lookingUp query))
    (s : State σ) :
    (g.reply moment (request.lookingUp (query ++ "&" ++ q)) s).response.status =
        (g.reply moment (request.lookingUp query) s).response.status ∧
      (g.reply moment (request.lookingUp (query ++ "&" ++ q)) s).response.body =
        (g.reply moment (request.lookingUp query) s).response.body := by
  obtain ⟨host, hlong, hshort⟩ := h
  have hbody (query : String) : (g.reply moment (request.lookingUp query) s).response.body =
      (g.options.check (request.lookingUp query)
        (fun s ↦ inTime (g.route moment (request.lookingUp query) s)) s).response.body :=
    body_reply_of_sent g moment s (by simp) (by simp)
  rw [status_reply, status_reply, hbody, hbody, check_of_redirect hlong, check_of_redirect hshort,
    SecurityOptions.redirection, SecurityOptions.redirection,
    isHeaderValue_redirectLocation host request query hq]
  split <;> exact ⟨rfl, rfl⟩

/-! ## Main result -/

/-- At the front of the query or behind fields of other names, the first field with a sky address decides:
whatever follows it, the endpoint checks and looks up the text for which its value stands, and says that there
is no address if that text is empty. The reply is the same in everything, unless the security check sends the
client elsewhere: what follows is a part of that place then, which can be no header if it holds a control
character. -/
theorem first_skyAddr_counts (g : Gate σ) (moment : Moment) (request : Request) (s : State σ)
    {lead kv skyAddr : String} (hlead : Http.Form.IsLead skyAddrField lead) (hkv : '&' ∉ kv.toList)
    (hfield : Http.Form.IsField kv.toList skyAddrField skyAddr) (q : String) :
    let short := request.lookingUp (lead ++ kv)
    let long := request.lookingUp (lead ++ kv ++ "&" ++ q)
    (∀ state, g.endpoints.lookup moment long state = g.endpoints.lookupOf moment skyAddr state ∧
      g.endpoints.lookup moment short state = g.endpoints.lookupOf moment skyAddr state) ∧
    ((∀ location, g.options.verdict long ≠ .redirect location) →
      g.reply moment long s = g.reply moment short s) ∧
    (g.reply moment long s).state = (g.reply moment short s).state ∧
    (Http.isHeaderValue q →
      (g.reply moment long s).response.status = (g.reply moment short s).response.status ∧
        (g.reply moment long s).response.body = (g.reply moment short s).response.body) ∧
    (skyAddr = "" → g.options.verdict long = .forward → HasRoom s long →
      Rejects .missingSkyAddr (g.reply moment long s).response) := by
  dsimp only
  obtain ⟨hfirst, hbehind⟩ := Http.Form.first?_of_isField hlead hkv hfield (by decide)
  have hshort := lookup_lookingUp g.endpoints moment request hfirst
  have hlong := lookup_lookingUp g.endpoints moment request (hbehind q)
  have hreply := reply_lookingUp_congr s fun state ↦ (hlong state).trans (hshort state).symm
  refine ⟨fun state ↦ ⟨hlong state, hshort state⟩, fun hplace ↦ ?_, ?_, fun hq ↦ ?_, ?_⟩
  · rcases hreply with hsame | ⟨host, hredirect, -⟩
    · exact hsame
    · exact absurd hredirect (hplace _)
  · rcases hreply with hsame | hredirected
    · rw [hsame]
    · exact hredirected.state_reply s
  · rcases hreply with hsame | hredirected
    · simp only [hsame, and_self]
    · exact answer_of_redirected request _ hq hredirected s
  · rintro rfl hforward hroom
    have hmissing : (g.endpoints.lookupOf moment "" s.backend).answer = some (.error .missingSkyAddr) := by
      rw [Endpoints.lookupOf, if_pos rfl]
    rw [← hlong] at hmissing
    have hroute : Route.ofPath (request.lookingUp (lead ++ kv ++ "&" ++ q)).uri.path = .lookup := by
      rw [path_lookingUp]
      rfl
    obtain ⟨hstatus, hcontent⟩ :=
      reply_of_answer hforward hroom (by simp) (by simp) (by rw [hroute]; rfl) hmissing
    exact ⟨hstatus, hcontent.trans (rejects_response .missingSkyAddr).content⟩

/-- A backend that remembers for which sky addresses it was asked. -/
def listeningBackend : Backend (List String) where
  bind _ _ asked := .atOnce (.ok "") asked []
  statuses skyAddr asked := .atOnce (.ok []) (asked ++ [skyAddr]) []

theorem second_address_passed_over :
    let g : Gate (List String) := ofConfig tightConfig listeningBackend (fun _ ↦ .ok ()) none
    let s : State (List String) := ⟨⟨1, []⟩, ⟨1, []⟩, []⟩
    let moment := (requestOf "c" "/").1
    let request := (requestOf "c" "/").2
    let short := request.lookingUp "x=%&sky%61ddr=%2B+%C3%A9"
    let long := request.lookingUp "x=%&sky%61ddr=%2B+%C3%A9&skyaddr=b"
    let empty := request.lookingUp "x=%&skyaddr&skyaddr=b"
    let front := request.lookingUp "skyaddr=a&skyaddr=b"
    long.uri = Http.Uri.ofString "/api/status?x=%&sky%61ddr=%2B+%C3%A9&skyaddr=b" ∧
      (g.endpoints.lookup moment long []).state = ["+ é"] ∧
      g.reply moment long s = g.reply moment short s ∧
      Rejects .missingSkyAddr (g.reply moment empty s).response ∧
      (g.endpoints.lookup moment front []).state = ["a"] := by
  intro g s moment request short long empty front
  have hlead : Http.Form.IsLead skyAddrField ("x=%" ++ "&") := by
    refine .behind ?_
    simp only [Http.Form.forall_not_isField_iff]
    decide +kernel
  have hfield : Http.Form.IsField "sky%61ddr=%2B+%C3%A9".toList skyAddrField "+ é" :=
    Http.Form.pair_eq_iff.mp (by decide +kernel)
  have hbare : Http.Form.IsField "skyaddr".toList skyAddrField "" := Http.Form.pair_eq_iff.mp (by decide +kernel)
  have hplain : Http.Form.IsField "skyaddr=a".toList skyAddrField "a" := Http.Form.pair_eq_iff.mp (by decide +kernel)
  obtain ⟨hendpoint, hreply, -⟩ := first_skyAddr_counts g moment request s hlead (by decide) hfield "skyaddr=b"
  obtain ⟨-, -, -, -, hmissing⟩ := first_skyAddr_counts g moment request s hlead (by decide) hbare "skyaddr=b"
  obtain ⟨hfront, -⟩ := first_skyAddr_counts g moment request s .front (by decide) hplain "skyaddr=b"
  have hshort : "x=%" ++ "&" ++ "sky%61ddr=%2B+%C3%A9" = "x=%&sky%61ddr=%2B+%C3%A9" := rfl
  have hlong : "x=%&sky%61ddr=%2B+%C3%A9" ++ "&" ++ "skyaddr=b" = "x=%&sky%61ddr=%2B+%C3%A9&skyaddr=b" := rfl
  have hempty : "x=%" ++ "&" ++ "skyaddr" ++ "&" ++ "skyaddr=b" = "x=%&skyaddr&skyaddr=b" := rfl
  have hboth : "" ++ "skyaddr=a" ++ "&" ++ "skyaddr=b" = "skyaddr=a&skyaddr=b" := rfl
  rw [hshort, hlong] at hreply
  rw [hempty] at hmissing
  have hstate := congrArg Handled.state (hendpoint []).1
  rw [hshort, hlong] at hstate
  have hfirst := congrArg Handled.state (hfront []).1
  rw [hboth] at hfirst
  exact ⟨by decide, hstate, hreply nofun, hmissing rfl rfl (by decide), hfirst⟩

end Gate

end DepositGate
