import DepositGate.Proofs.Gate.Unread

/-!
# Clients without a proxy

A client that is connected directly is known by its end of the connection. What it writes into the headers
of proxies is not looked at then, nor is the port of its end. `Request.direct` takes both away from a request,
and `course_eq_of_direct_eq` says that sequences of requests that become the same get the same replies and
leave the same state, whenever the windows in between end.
-/

namespace DepositGate

namespace Http

/-! ## Requests without what a proxy adds -/

/-- The headers in which proxies name the clients for which they speak. -/
def proxyHeaders : List String := ["x-forwarded-for", "x-real-ip"]

/-- A request without the headers of proxies and without the port of the client. -/
def Request.direct (request : Request) : Request :=
  { request with
    headers := request.headers.without proxyHeaders
    peer := request.peer.map fun peer ↦ { peer with port := 0 } }

theorem negotiated_direct (request : Request) (r : Response) :
    r.negotiated request.direct.headers = r.negotiated request.headers := by
  have hpreferred : Encoding.preferred request.direct.headers = Encoding.preferred request.headers :=
    preferred_without request (by decide)
  rw [Response.negotiated, hpreferred]
  rfl

end Http

open Http (Request Response)

/-! ## What is seen of a client that is connected directly -/

namespace Gate

variable {σ : Type} {g : Gate σ} {moment : Moment} {request : Request} {s : State σ}

theorem check_direct (options : SecurityOptions) (request : Request)
    (inner : State σ → Reply (State σ)) :
    options.check request.direct inner s = options.check request inner s :=
  check_without request options (by decide) inner s

theorem clientKey_eq_of_peer {peer : Net.SocketAddr} (hpeer : request.peer = some peer) :
    clientKey request = peer.ip.toText := by
  rw [clientKey, hpeer]

/-- The key of a client that is connected directly does not depend on what stands in the headers. -/
theorem clientKey_direct (hpeer : request.peer ≠ none) : clientKey request.direct = clientKey request := by
  obtain ⟨peer, hsome⟩ := Option.ne_none_iff_exists'.mp hpeer
  have hdirect : request.direct.peer = some { peer with port := 0 } := by
    rw [Request.direct, hsome]
    rfl
  rw [clientKey_eq_of_peer hsome, clientKey_eq_of_peer hdirect]

theorem route_direct (g : Gate σ) (moment : Moment) (hpeer : request.peer ≠ none) (s : State σ) :
    g.route moment request.direct s = g.route moment request s := by
  have huncompressed : g.uncompressed moment request.direct s = g.uncompressed moment request s := by
    apply uncompressed_congr
    · rfl
    · exact clientKey_direct hpeer
    · exact bindAdmitted_without request g moment (by decide)
    · rfl
    · exact Site.serve_without request g.site (by decide) (by decide) (by decide)
  rw [route_eq_uncompressed, route_eq_uncompressed, huncompressed]
  simp only [Http.negotiated_direct]

theorem reply_direct (g : Gate σ) (moment : Moment) (hpeer : request.peer ≠ none) (s : State σ) :
    g.reply moment request.direct s = g.reply moment request s := by
  unfold Gate.reply
  simp only [check_direct, route_direct g moment hpeer]
  rfl

/-! ## Sequences of requests -/

theorem countedFor?_direct (options : SecurityOptions) (hpeer : request.peer ≠ none) :
    countedFor? options request.direct = countedFor? options request := by
  have hverdict : options.verdict request.direct = options.verdict request :=
    verdict_without request options (by decide)
  rw [countedFor?, hverdict, clientKey_direct hpeer]
  rfl

def directly (requests : List (Moment × Request)) : List (Moment × Request) :=
  requests.map fun entry ↦ (entry.1, entry.2.direct)

theorem courseOver_directly (g : Gate σ) (lapse : Lapse σ)
    (counted : List (Moment × Option (Route × String))) (s : State σ)
    {requests : List (Moment × Request)} (hpeer : ∀ entry ∈ requests, entry.2.peer ≠ none) :
    g.courseOver lapse counted s (directly requests) = g.courseOver lapse counted s requests := by
  have hreply : ∀ entry ∈ requests, ∀ s,
      g.reply entry.1 entry.2.direct s = g.reply entry.1 entry.2 s :=
    fun entry hentry s ↦ reply_direct g entry.1 (hpeer entry hentry) s
  have hcounted : ∀ entry ∈ requests,
      countedFor? g.options entry.2.direct = countedFor? g.options entry.2 :=
    fun entry hentry ↦ countedFor?_direct g.options (hpeer entry hentry)
  obtain ⟨hreplies, hstate⟩ := courseOver_changed g lapse id
    hreply (fun entry hentry s ↦ congrArg Reply.state (hreply entry hentry s)) hcounted counted s
  rw [List.map_id, List.map_id] at hreplies
  exact Prod.ext hreplies hstate

/-- Whether a request goes on from the security check to a route and comes from an address. -/
def ComesFrom (options : SecurityOptions) (route : Route) (address : String) (request : Request) : Prop :=
  options.verdict request = .forward ∧ Route.ofPath request.uri.path = route ∧
    request.peer.map (·.ip.toText) = some address

instance (options : SecurityOptions) (route : Route) (address : String) :
    DecidablePred (ComesFrom options route address) :=
  fun _ ↦ inferInstanceAs (Decidable (_ ∧ _ ∧ _))

theorem counts_iff_comesFrom {options : SecurityOptions} {route : Route} {address : String}
    (hpeer : request.peer ≠ none) :
    Counts options route address request ↔ ComesFrom options route address request := by
  obtain ⟨peer, hsome⟩ := Option.ne_none_iff_exists'.mp hpeer
  simp [Counts, ComesFrom, clientKey_eq_of_peer hsome, hsome]

/-- What clients that are connected directly write into the headers of proxies, and their ports, change no
reply and no state, whenever windows end. In one window, each route counts for an address the requests that
come from there and nothing else. -/
theorem course_eq_of_direct_eq (g : Gate σ) (s : State σ) {requests requests' : List (Moment × Request)}
    (hpeer : ∀ entry ∈ requests, entry.2.peer ≠ none)
    (hpeer' : ∀ entry ∈ requests', entry.2.peer ≠ none)
    (hdirect : directly requests = directly requests') :
    (∀ lapse : Lapse σ, g.courseOver lapse [] s requests = g.courseOver lapse [] s requests') ∧
      g.replies s requests = g.replies s requests' ∧ g.after s requests = g.after s requests' ∧
      ∀ (route : Route) (l : Limiter), s.limiter? route = some l →
        ∃ l', (g.after s requests).limiter? route = some l' ∧ l'.max = l.max ∧
          ∀ address, l'.count address = l.count address +
            requests.countP fun entry ↦ ComesFrom g.options route address entry.2 := by
  have hcourse (lapse : Lapse σ) :
      g.courseOver lapse [] s requests = g.courseOver lapse [] s requests' := by
    rw [← courseOver_directly g lapse [] s hpeer, hdirect, courseOver_directly g lapse [] s hpeer']
  have hstill := hcourse fun _ _ s ↦ s
  rw [courseOver_still, courseOver_still, Prod.mk.injEq] at hstill
  refine ⟨hcourse, hstill.1, hstill.2, fun route l hl ↦ ?_⟩
  obtain ⟨l', hl', hmax, hcount⟩ := limiter?_after g hl requests
  refine ⟨l', hl', hmax, fun address ↦ ?_⟩
  rw [hcount]
  congr 1
  refine List.countP_congr fun entry hentry ↦ ?_
  simp only [decide_eq_true_eq]
  exact counts_iff_comesFrom (hpeer entry hentry)

def lookupFrom (port : Nat) (claimed : List String) : Moment × Request :=
  (⟨⟨1, 0⟩, 1⟩, ⟨"GET", ⟨none, none, "/api/status"⟩, claimed.map ("x-forwarded-for", ·), [],
    some ⟨.v4 [192, 0, 2, 7], 0, port⟩, none⟩)

theorem second_lookup_limited_whatever_is_claimed :
    let g : Gate Unit := ofConfig tightConfig readyBackend SkyAddress.validate none
    let s : State Unit := ⟨⟨1, []⟩, ⟨1, []⟩, ()⟩
    let plain := [lookupFrom 4001 [], lookupFrom 4001 []]
    let claiming := [lookupFrom 4002 ["198.51.100.1"], lookupFrom 4003 ["198.51.100.2", "198.51.100.3"]]
    g.replies s claiming = g.replies s plain ∧
      (g.replies s claiming).map (·.response.status) = [400, 429] ∧
      (g.after s claiming).lookupLimiter.count "192.0.2.7" = 2 := by
  intro g s plain claiming
  have hdirect : directly claiming = directly plain := by decide
  obtain ⟨-, hreplies, -, hcount⟩ := course_eq_of_direct_eq g s (by decide) (by decide) hdirect
  refine ⟨hreplies, ?_, ?_⟩
  · rw [hreplies]
    decide
  · obtain ⟨l', hl', -, hcount⟩ := hcount .lookup ⟨1, []⟩ rfl
    obtain rfl := Option.some.inj hl'
    rw [hcount]
    decide

end Gate

end DepositGate
