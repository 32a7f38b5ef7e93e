import DepositGate.Proofs.Gate.Endpoints
import DepositGate.Proofs.Gate.Replies

/-!
# Which requests the rate limit turns away

A limiter counts the requests of a client to its route that the security check forwards, whatever comes
of them, and nothing else. `replies_limited_iff` says so for every sequence of requests in one window: a
request is turned away exactly if as many as the cap have come before it.
-/

namespace DepositGate.Gate

open Http (Request Response)

variable {σ : Type} {g : Gate σ} {moment : Moment} {request : Request} {s : State σ}

/-! ## One limiter -/

section Limited

variable {inner : σ → Attempt σ} {l : Limiter} {state : σ}

theorem limited_of_lt (h : l.count (clientKey request) < l.max) :
    limited request inner l state =
      (inner state).mapState fun state ↦ ((l.check (clientKey request)).2, state) := by
  simp [limited, Limiter.check, h]

theorem limited_of_le (h : l.max ≤ l.count (clientKey request)) :
    limited request inner l state =
      (limitRejection request state).mapState fun state ↦ ((l.check (clientKey request)).2, state) := by
  simp [limited, Limiter.check, Nat.not_lt.mpr h]

/-- A limiter looks at nothing of a request but its client, and at its path if it turns it away. -/
theorem limited_congr {request' : Request} (hclient : clientKey request' = clientKey request)
    (hpath : request'.uri.path = request.uri.path) :
    limited request' inner l state = limited request inner l state := by
  unfold limited limitRejection
  rw [hclient, hpath]

/-- A request is counted, whether it is admitted or not. -/
theorem limited_state_fst (inner : σ → Attempt σ) (l : Limiter) (state : σ) :
    (limited request inner l state).state.1 = (l.check (clientKey request)).2 := by
  rcases Nat.lt_or_ge (l.count (clientKey request)) l.max with h | h
  · rw [limited_of_lt h]
    rfl
  · rw [limited_of_le h]
    rfl

end Limited

/-! ## The limiters of a gate -/

def State.limiter? (s : State σ) : Route → Option Limiter
  | .bind => some s.bindLimiter
  | .lookup => some s.lookupLimiter
  | .site => none

def Counts (options : SecurityOptions) (route : Route) (client : String) (request : Request) : Prop :=
  options.verdict request = .forward ∧ Route.ofPath request.uri.path = route ∧
    clientKey request = client

instance (options : SecurityOptions) (route : Route) (client : String) :
    DecidablePred (Counts options route client) :=
  fun _ ↦ inferInstanceAs (Decidable (_ ∧ _ ∧ _))

/-- A request is counted by the limiter of its route and leaves the other one as it is. -/
theorem limiter?_route (g : Gate σ) (moment : Moment) (request : Request) (s : State σ) (route : Route) :
    (g.route moment request s).state.limiter? route =
      if Route.ofPath request.uri.path = route then
        (s.limiter? route).map fun l ↦ (l.check (clientKey request)).2
      else s.limiter? route := by
  unfold Gate.route
  cases hpath : Route.ofPath request.uri.path with
  | bind =>
      have hbind : (g.bind moment request s).state.bindLimiter =
          (s.bindLimiter.check (clientKey request)).2 := by
        rw [bind_eq_limited]
        exact limited_state_fst (g.bindAdmitted moment request) s.bindLimiter s.backend
      cases route with
      | bind => simp [State.limiter?, hbind]
      | lookup | site => rfl
  | lookup =>
      have hlookup : (g.lookup moment request s).state.lookupLimiter =
          (s.lookupLimiter.check (clientKey request)).2 := by
        rw [lookup_eq_limited]
        exact limited_state_fst (g.lookupAdmitted moment request) s.lookupLimiter s.backend
      cases route with
      | lookup => simp [State.limiter?, hlookup]
      | bind | site => rfl
  | site => cases route <;> rfl

theorem limiter?_reply (g : Gate σ) (moment : Moment) (request : Request) {l : Limiter}
    {route : Route} (hl : s.limiter? route = some l) :
    ∃ l', (g.reply moment request s).state.limiter? route = some l' ∧ l'.max = l.max ∧
      ∀ client, l'.count client =
        l.count client + if Counts g.options route client request then 1 else 0 := by
  rw [reply_state]
  by_cases hforward : g.options.verdict request = .forward
  · rw [check_of_forward hforward, inTime_state, limiter?_route, hl]
    by_cases hroute : Route.ofPath request.uri.path = route
    · refine ⟨(l.check (clientKey request)).2, by simp [hroute], rfl, fun client ↦ ?_⟩
      rw [Limiter.count_check]
      simp [Counts, hforward, hroute, eq_comm]
    · exact ⟨l, by simp [hroute], rfl, fun client ↦ by simp [Counts, hroute]⟩
  · rw [check_state_of_ne_forward hforward]
    exact ⟨l, hl, rfl, fun client ↦ by simp [Counts, hforward]⟩

theorem limiter?_after (g : Gate σ) {l : Limiter} {route : Route} (hl : s.limiter? route = some l)
    (requests : List (Moment × Request)) :
    ∃ l', (g.after s requests).limiter? route = some l' ∧ l'.max = l.max ∧
      ∀ client, l'.count client =
        l.count client + requests.countP (fun entry ↦ Counts g.options route client entry.2) := by
  induction requests using List.reverseRecOn with
  | nil => exact ⟨l, hl, rfl, fun client ↦ rfl⟩
  | append_singleton requests entry ih =>
      obtain ⟨l₁, hl₁, hmax₁, hcount₁⟩ := ih
      obtain ⟨l₂, hl₂, hmax₂, hcount₂⟩ := limiter?_reply g entry.1 entry.2 hl₁
      refine ⟨l₂, by rw [after_concat, hl₂], hmax₂.trans hmax₁, fun client ↦ ?_⟩
      rw [hcount₂, hcount₁, List.countP_append, List.countP_singleton]
      simp only [decide_eq_true_eq]
      omega

/-! ## Windows that end -/

/-- What a request is counted for: its route and the key of its client. -/
def countedFor? (options : SecurityOptions) (request : Request) : Option (Route × String) :=
  if options.verdict request = .forward then some (Route.ofPath request.uri.path, clientKey request)
  else none

/-- What the time up to a moment does to a state, where it is known when and for what the requests before
it were counted. The windows of clients end in this way. -/
def Lapse (σ : Type) : Type :=
  List (Moment × Option (Route × String)) → Moment → State σ → State σ

/-- The replies to one request after another and the last state, where time does something in between. -/
def courseOver (g : Gate σ) (lapse : Lapse σ) (counted : List (Moment × Option (Route × String)))
    (s : State σ) : List (Moment × Request) → List (Reply (State σ)) × State σ
  | [] => ([], s)
  | (moment, request) :: requests =>
    let r := g.reply moment request (lapse counted moment s)
    let later := courseOver g lapse (counted ++ [(moment, countedFor? g.options request)]) r.state requests
    (r :: later.1, later.2)

/-- Within one window, time does nothing. -/
theorem courseOver_still (g : Gate σ) (counted : List (Moment × Option (Route × String))) (s : State σ)
    (requests : List (Moment × Request)) :
    g.courseOver (fun _ _ s ↦ s) counted s requests = (g.replies s requests, g.after s requests) := by
  induction requests generalizing counted s with
  | nil => rfl
  | cons entry requests ih =>
      obtain ⟨moment, request⟩ := entry
      simp only [courseOver, ih]
      rfl

/-- A change of requests that is seen neither in a view of each reply nor in the state after it, nor in what
is counted, is not seen in the view of the whole course. -/
theorem courseOver_changed {α : Type} (g : Gate σ) (lapse : Lapse σ) (view : Reply (State σ) → α)
    {change : Request → Request} {requests : List (Moment × Request)}
    (hview : ∀ entry ∈ requests, ∀ s,
      view (g.reply entry.1 (change entry.2) s) = view (g.reply entry.1 entry.2 s))
    (hstate : ∀ entry ∈ requests, ∀ s,
      (g.reply entry.1 (change entry.2) s).state = (g.reply entry.1 entry.2 s).state)
    (hcounted : ∀ entry ∈ requests,
      countedFor? g.options (change entry.2) = countedFor? g.options entry.2)
    (counted : List (Moment × Option (Route × String))) (s : State σ) :
    let changed := g.courseOver lapse counted s (requests.map fun entry ↦ (entry.1, change entry.2))
    let course := g.courseOver lapse counted s requests
    changed.1.map view = course.1.map view ∧ changed.2 = course.2 := by
  induction requests generalizing counted s with
  | nil => exact ⟨rfl, rfl⟩
  | cons entry requests ih =>
      obtain ⟨moment, request⟩ := entry
      obtain ⟨hviewHead, hviewTail⟩ := List.forall_mem_cons.mp hview
      obtain ⟨hstateHead, hstateTail⟩ := List.forall_mem_cons.mp hstate
      obtain ⟨hcountedHead, hcountedTail⟩ := List.forall_mem_cons.mp hcounted
      obtain ⟨hreplies, hlast⟩ := ih hviewTail hstateTail hcountedTail
        (counted ++ [(moment, countedFor? g.options request)])
        (g.reply moment request (lapse counted moment s)).state
      simp only [List.map_cons, courseOver, hviewHead, hstateHead, hcountedHead, hreplies, hlast, and_self]

/-! ## Endpoints do not reject for the rate limit -/

theorem bindMessage_ne_rateLimited (request : Request) : bindMessage request ≠ .error .rateLimited := by
  unfold bindMessage
  split
  · simp
  · split
    · simp
    · split
      · simp
      · cases BindRequest.ofJson request.body <;> simp [Except.mapError]

theorem messageCoin_ne_rateLimited (m : BindRequest) : messageCoin m ≠ .error .rateLimited := by
  unfold messageCoin
  split
  · simp
  · split
    · simp
    · split <;> simp

theorem lookupAddress_ne_rateLimited (request : Request) :
    lookupAddress request ≠ .error .rateLimited := by
  unfold lookupAddress
  split
  · simp
  · split
    · split <;> simp
    · simp

theorem admit_ne_rateLimited (e : Endpoints σ) (now : Time.Instant) (skyAddr : String) :
    e.admit now skyAddr ≠ .error .rateLimited := by
  unfold Endpoints.admit
  split
  · simp
  · split <;> simp

theorem answer_ne_rateLimited {α β : Type} {x : Except ApiError α} {fault : ApiError}
    (h : x ≠ .error .rateLimited) (hx : x = .error fault) :
    (some (.error fault) : Option (Except ApiError β)) ≠ some (.error .rateLimited) := by
  intro heq
  obtain rfl : fault = .rateLimited := by simpa using heq
  exact h hx

theorem bind_answer_ne_rateLimited (e : Endpoints σ) (moment : Moment) (request : Request) (state : σ) :
    (e.bind moment request state).answer ≠ some (.error .rateLimited) := by
  have houtcome := bindOutcome e moment request state
  generalize e.bind moment request state = h at houtcome
  cases houtcome with
  | unread hmessage => exact answer_ne_rateLimited (bindMessage_ne_rateLimited request) hmessage
  | incomplete _ hcoin => exact answer_ne_rateLimited (messageCoin_ne_rateLimited _) hcoin
  | unadmitted _ _ hadmitted => exact answer_ne_rateLimited (admit_ne_rateLimited e _ _) hadmitted
  | late | refused | bound => simp

theorem lookup_answer_ne_rateLimited (e : Endpoints σ) (moment : Moment) (request : Request)
    (state : σ) : (e.lookup moment request state).answer ≠ some (.error .rateLimited) := by
  have houtcome := lookupOutcome e moment request state
  generalize e.lookup moment request state = h at houtcome
  cases houtcome with
  | unread haddress => exact answer_ne_rateLimited (lookupAddress_ne_rateLimited request) haddress
  | unadmitted _ hadmitted => exact answer_ne_rateLimited (admit_ne_rateLimited e _ _) hadmitted
  | late | refused | found => simp

/-- An answer that is no rejection for the rate limit does not have its status either. -/
theorem status_logged_ne_429 {h : Handled σ} (hanswer : h.answer ≠ some (.error .rateLimited))
    {r : Response} (hr : (logged request h).response = some r) : r.status ≠ 429 := by
  obtain ⟨answer, hsome, rfl⟩ := Option.map_eq_some_iff.mp hr
  cases answer with
  | ok d => simp [answerResponse, jsonResponse]
  | error e =>
      have hne : e ≠ .rateLimited := by
        rintro rfl
        exact hanswer hsome
      rw [answerResponse, ApiError.status_response, ne_eq, ApiError.status_eq_429_iff]
      exact hne

theorem status_bindAdmitted_ne_429 {state : σ} {r : Response}
    (hr : (g.bindAdmitted moment request state).response = some r) : r.status ≠ 429 := by
  obtain ⟨r', hr', rfl⟩ := Option.map_eq_some_iff.mp hr
  have hne : r'.status ≠ 429 := status_logged_ne_429 (bind_answer_ne_rateLimited _ _ _ _) hr'
  exact hne

theorem status_lookupAdmitted_ne_429 {state : σ} {r : Response}
    (hr : (g.lookupAdmitted moment request state).response = some r) : r.status ≠ 429 :=
  status_logged_ne_429 (lookup_answer_ne_rateLimited _ _ _ _) hr

/-! ## Requests over the cap -/

section Limited

variable {τ : Type} {inner : σ → Attempt σ} {l : Limiter} {state : σ} {put : Limiter × σ → τ}
  {change : Response → Response}

theorem status_inTime_limited_iff (hchange : ∀ r, (change r).status = r.status)
    (hinner : ∀ r, (inner state).response = some r → r.status ≠ 429) :
    (inTime (((limited request inner l state).mapState put).mapResponse change)).response.status =
      429 ↔ l.max ≤ l.count (clientKey request) := by
  rcases Nat.lt_or_ge (l.count (clientKey request)) l.max with h | h
  · rw [limited_of_lt h]
    cases hr : (inner state).response with
    | none => simp [inTime, Attempt.mapResponse, Attempt.mapState, hr, ApiError.status, h]
    | some r => simp [inTime, Attempt.mapResponse, Attempt.mapState, hr, hchange, hinner r hr, h]
  · rw [limited_of_le h]
    simp [inTime, Attempt.mapResponse, Attempt.mapState, limitRejection, hchange, ApiError.status, h]

end Limited

theorem status_reply_eq_429_iff (g : Gate σ) (moment : Moment) {l : Limiter}
    (hforward : g.options.verdict request = .forward)
    (hl : s.limiter? (Route.ofPath request.uri.path) = some l) :
    (g.reply moment request s).response.status = 429 ↔ l.max ≤ l.count (clientKey request) := by
  rw [status_reply, check_of_forward hforward, Gate.route]
  cases hpath : Route.ofPath request.uri.path with
  | bind =>
      obtain rfl : s.bindLimiter = l := by simpa [hpath, State.limiter?] using hl
      rw [bind_eq_limited]
      exact status_inTime_limited_iff (fun r ↦ Response.status_negotiated r _)
        fun r hr ↦ status_bindAdmitted_ne_429 hr
  | lookup =>
      obtain rfl : s.lookupLimiter = l := by simpa [hpath, State.limiter?] using hl
      rw [lookup_eq_limited]
      exact status_inTime_limited_iff (fun r ↦ Response.status_negotiated r _)
        fun r hr ↦ status_lookupAdmitted_ne_429 hr
  | site => simp [hpath, State.limiter?] at hl

def limitEvent (request : Request) : Event :=
  ApiError.rateLimited.event.within
    ⟨"rate_limit", [("client", .text (clientKey request)), ("path", .text request.uri.path)]⟩

/-- A request gets no further than its limiter: its reply is the same for all endpoints, nothing but the
rejection is logged, and the backend is left alone. -/
structure StopsAtLimiter (g : Gate σ) (moment : Moment) (request : Request) (s : State σ) : Prop where
  endpoints : ∀ endpoints, ({ g with endpoints } : Gate σ).reply moment request s =
    g.reply moment request s
  events : (g.reply moment request s).events = [limitEvent request]
  backend : (g.reply moment request s).state.backend = s.backend

theorem route_of_le (moment : Moment) {l : Limiter} (hl : s.limiter? (Route.ofPath request.uri.path) = some l)
    (h : l.max ≤ l.count (clientKey request)) :
    ∃ s', s'.backend = s.backend ∧ ∀ g : Gate σ, g.route moment request s =
      ⟨some (ApiError.rateLimited.response.negotiated request.headers), s', [limitEvent request]⟩ := by
  unfold Gate.route
  cases hpath : Route.ofPath request.uri.path with
  | bind =>
      obtain rfl : s.bindLimiter = l := by simpa [hpath, State.limiter?] using hl
      refine ⟨{ s with bindLimiter := (s.bindLimiter.check (clientKey request)).2 }, rfl, fun g ↦ ?_⟩
      simp only [bind_eq_limited, limited_of_le h]
      rfl
  | lookup =>
      obtain rfl : s.lookupLimiter = l := by simpa [hpath, State.limiter?] using hl
      refine ⟨{ s with lookupLimiter := (s.lookupLimiter.check (clientKey request)).2 }, rfl,
        fun g ↦ ?_⟩
      simp only [lookup_eq_limited, limited_of_le h]
      rfl
  | site => simp [hpath, State.limiter?] at hl

theorem stopsAtLimiter_of_le {l : Limiter} (hforward : g.options.verdict request = .forward)
    (hl : s.limiter? (Route.ofPath request.uri.path) = some l)
    (h : l.max ≤ l.count (clientKey request)) : StopsAtLimiter g moment request s := by
  obtain ⟨s', hbackend, hroute⟩ := route_of_le moment hl h
  refine ⟨fun endpoints ↦ ?_, ?_, ?_⟩
  · simp only [Gate.reply, check_of_forward hforward, hroute]
  · rw [reply_events, check_of_forward hforward, hroute]
    rfl
  · rw [reply_state, check_of_forward hforward, hroute]
    exact hbackend

/-! ## Main result -/

theorem exists_limiter_of_initial? {t : Throttle} {b : σ} (hs : State.initial? t b = some s)
    {path : String} (hpath : path = "/api/bind" ∨ path = "/api/status") :
    ∃ l, s.limiter? (Route.ofPath path) = some l ∧ l.max = t.max ∧ ∀ client, l.count client = 0 := by
  obtain ⟨l, hl, rfl⟩ := Option.map_eq_some_iff.mp hs
  have hempty : l = ⟨t.max, []⟩ := by
    unfold Limiter.ofThrottle? at hl
    split at hl
    · cases hl
    · exact (Option.some.inj hl).symm
  subst hempty
  rcases hpath with rfl | rfl <;> exact ⟨_, rfl, rfl, fun client ↦ rfl⟩

/-- In one window, a request for an endpoint that the security check forwards is turned away by the rate
limit exactly if as many requests as the cap have come before it that are forwarded, of the same client
and for the same endpoint. Then it gets no further than the limiter. -/
theorem replies_limited_iff (c : ServerConfig) (backend : Backend σ)
    (validate : String → Except SkyAddress.Fault Unit) (site : Option Site.Tree) {b : σ}
    (hs : State.initial? c.throttle b = some s) {requests : List (Moment × Request)} {i : Nat}
    (hi : requests[i]? = some (moment, request))
    (hpath : request.uri.path = "/api/bind" ∨ request.uri.path = "/api/status")
    (hforward : (SecurityOptions.ofConfig c).verdict request = .forward) :
    ∃ r, ((ofConfig c backend validate site).replies s requests)[i]? = some r ∧
      (r.response.status = 429 ↔ c.throttle.max ≤ (requests.take i).countP fun earlier ↦
        Counts (.ofConfig c) (Route.ofPath request.uri.path) (clientKey request) earlier.2) ∧
      (r.response.status = 429 → StopsAtLimiter (ofConfig c backend validate site) moment request
        ((ofConfig c backend validate site).after s (requests.take i))) := by
  obtain ⟨l₀, hl₀, hmax₀, hcount₀⟩ := exists_limiter_of_initial? hs hpath
  let g : Gate σ := ofConfig c backend validate site
  obtain ⟨l, hl, hmax, hcount⟩ := limiter?_after g hl₀ (requests.take i)
  have hlimit := status_reply_eq_429_iff g moment hforward hl
  refine ⟨_, by rw [getElem?_replies, hi, Option.map_some], ?_, fun hstatus ↦ ?_⟩
  · rw [hlimit, hmax, hmax₀, hcount, hcount₀, Nat.zero_add]
    rfl
  · exact stopsAtLimiter_of_le hforward hl (hlimit.mp hstatus)

def tightConfig : ServerConfig :=
  ⟨"127.0.0.1:7071", "", "", ⟨0, 0⟩, "", "", "", "", none, false, ⟨1, 60⟩⟩

def readyBackend : Backend Unit :=
  Backend.constant 0 (.ok "x") (.ok [])

def requestOf (client path : String) : Moment × Request :=
  (⟨⟨1, 0⟩, 1⟩, ⟨"GET", ⟨none, none, path⟩, [("x-real-ip", client)], [], none, none⟩)

/-- Five requests. The other endpoint, another client and a path of the site count for nothing with the
last one, but the first does, though its method is not the right one. -/
def fiveRequests : List (Moment × Request) :=
  [requestOf "a" "/api/bind", requestOf "a" "/api/status", requestOf "b" "/api/bind",
    requestOf "a" "/api/bind/", requestOf "a" "/api/bind"]

theorem fifth_request_limited :
    ∃ r, ((ofConfig tightConfig readyBackend SkyAddress.validate none).replies
        ⟨⟨1, []⟩, ⟨1, []⟩, ()⟩ fiveRequests)[4]? = some r ∧ r.response.status = 429 := by
  have hs : State.initial? tightConfig.throttle () = some ⟨⟨1, []⟩, ⟨1, []⟩, ()⟩ := rfl
  have hfifth : fiveRequests[4]? = some (requestOf "a" "/api/bind") := rfl
  obtain ⟨r, hr, hlimited, -⟩ :=
    replies_limited_iff tightConfig readyBackend SkyAddress.validate none hs hfifth
      (Or.inl (by decide)) (by decide)
  exact ⟨r, hr, hlimited.mpr (by decide)⟩

end DepositGate.Gate
