import DepositGate.Proofs.Gate.RateLimit

/-!
# Headers that are not read

The gate reads few headers of a request, each by its name. `Request.without` takes those of some names away,
and there is a lemma for each reader that does not look at them. `uncompressed_congr` puts together all that is
looked at before a response is compressed.
-/

namespace DepositGate

namespace Http

/-! ## Requests without some headers -/

namespace Headers

variable (headers : Headers) {names : List String} {name : String}

def without (names : List String) (headers : Headers) : Headers :=
  headers.filter fun header ↦ !names.contains header.1

theorem all_without (hname : name ∉ names) : (headers.without names).all name = headers.all name := by
  rw [all, all, without, List.filter_filter]
  congr 2
  funext header
  by_cases h : header.1 = name
  · subst h
    simp [hname]
  · simp [h]

theorem first?_without (hname : name ∉ names) :
    (headers.without names).first? name = headers.first? name := by
  rw [first?, first?, without, List.find?_filter]
  congr 2
  funext header
  by_cases h : header.1 = name
  · subst h
    simp [hname]
  · simp [h]

theorem firstText?_without (hname : name ∉ names) :
    (headers.without names).firstText? name = headers.firstText? name := by
  rw [firstText?, firstText?, first?_without headers hname]

end Headers

def Request.without (names : List String) (request : Request) : Request :=
  { request with headers := request.headers.without names }

end Http

open Http (Request Response)

/-! ## Readers -/

variable {names : List String} (request : Request)

theorem Http.preferred_without (hnames : "accept-encoding" ∉ names) :
    Encoding.preferred (request.without names).headers = Encoding.preferred request.headers := by
  have hentries : Encoding.entries (request.without names).headers = Encoding.entries request.headers := by
    rw [Encoding.entries, Request.without, request.headers.all_without hnames]
    rfl
  rw [Encoding.preferred, hentries]
  rfl

theorem Site.serve_without (site : Option Tree) (hrange : "range" ∉ names)
    (hmodified : "if-modified-since" ∉ names) (hunmodified : "if-unmodified-since" ∉ names) :
    serve site (request.without names) = serve site request := by
  have hcondition (modified : Int) :
      condition? (request.without names).headers modified = condition? request.headers modified := by
    simp only [condition?, Request.without, request.headers.first?_without hmodified,
      request.headers.first?_without hunmodified]
  have hfile (modified : Int) (f : File) :
      fileResponse (request.without names) modified f = fileResponse request modified f := by
    unfold fileResponse
    rw [Request.without, request.headers.firstText?_without hrange]
  unfold serve
  simp only [hcondition, hfile]
  rfl

namespace Gate

variable {σ : Type}

theorem requestHost_without (hhost : "host" ∉ names) :
    requestHost (request.without names) = requestHost request := by
  rw [requestHost, Request.without, request.headers.firstText?_without hhost]
  rfl

theorem verdict_without (options : SecurityOptions) (hhost : "host" ∉ names) :
    options.verdict (request.without names) = options.verdict request := by
  unfold SecurityOptions.verdict
  rw [requestHost_without request hhost]
  rfl

theorem check_without (options : SecurityOptions) (hhost : "host" ∉ names) (inner : σ → Reply σ) (s : σ) :
    options.check (request.without names) inner s = options.check request inner s := by
  unfold SecurityOptions.check SecurityOptions.rejection
  rw [verdict_without request options hhost, requestHost_without request hhost]
  rfl

theorem bindMessage_without (htype : "content-type" ∉ names) :
    bindMessage (request.without names) = bindMessage request := by
  unfold bindMessage announcesJson
  rw [Request.without, request.headers.firstText?_without htype]

theorem bindAdmitted_without (g : Gate σ) (moment : Moment) (htype : "content-type" ∉ names) :
    g.bindAdmitted moment (request.without names) = g.bindAdmitted moment request := by
  funext state
  unfold bindAdmitted Endpoints.bind
  rw [bindMessage_without request htype]
  rfl

/-! ## What a request goes to -/

/-- What a request goes to, before its response is compressed. -/
def uncompressed (g : Gate σ) (moment : Moment) (request : Request) (s : State σ) : Attempt (State σ) :=
  match Route.ofPath request.uri.path with
  | .bind =>
    (limited request (g.bindAdmitted moment request) s.bindLimiter s.backend).mapState
      fun p ↦ { s with bindLimiter := p.1, backend := p.2 }
  | .lookup =>
    (limited request (g.lookupAdmitted moment request) s.lookupLimiter s.backend).mapState
      fun p ↦ { s with lookupLimiter := p.1, backend := p.2 }
  | .site => ⟨some (Site.serve g.site request), s, []⟩

theorem route_eq_uncompressed (g : Gate σ) (moment : Moment) (request : Request) (s : State σ) :
    g.route moment request s =
      (g.uncompressed moment request s).mapResponse (·.negotiated request.headers) := by
  unfold Gate.route uncompressed
  cases Route.ofPath request.uri.path <;> rfl

theorem uncompressed_congr {g : Gate σ} {moment : Moment} {request request' : Request} {s : State σ}
    (huri : request'.uri = request.uri) (hclient : clientKey request' = clientKey request)
    (hbind : g.bindAdmitted moment request' = g.bindAdmitted moment request)
    (hlookup : g.lookupAdmitted moment request' = g.lookupAdmitted moment request)
    (hserve : Site.serve g.site request' = Site.serve g.site request) :
    g.uncompressed moment request' s = g.uncompressed moment request s := by
  have hpath : request'.uri.path = request.uri.path := by rw [huri]
  unfold uncompressed
  rw [hpath]
  cases Route.ofPath request.uri.path with
  | bind => simp only [hbind, limited_congr hclient hpath]
  | lookup => simp only [hlookup, limited_congr hclient hpath]
  | site => simp only [hserve]

end Gate

end DepositGate
