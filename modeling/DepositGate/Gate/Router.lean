import DepositGate.Config.Basic
import DepositGate.Gate.RateLimit
import DepositGate.Gate.Security
import DepositGate.Gate.StatusLookup
import DepositGate.Site.Serve

/-!
# The gate

A request passes the security check and goes to one of two endpoints or to the site. In front of an
endpoint are its limiter and the log of the request; what it answers may be compressed. A request that
takes too long is rejected. Every response has the same defensive headers.
-/

namespace DepositGate

open Http (Request Response)

structure Gate (σ : Type) where
  options : Gate.SecurityOptions
  endpoints : Gate.Endpoints σ
  site : Option Site.Tree

namespace Gate

structure State (σ : Type) where
  bindLimiter : Limiter
  lookupLimiter : Limiter
  backend : σ

inductive Route where
  | bind
  | lookup
  | site
deriving DecidableEq, Repr

/-- The route of a path; the endpoints have exactly one path each. -/
def Route.ofPath (path : String) : Route :=
  if path = "/api/bind" then bind else if path = "/api/status" then lookup else site

/-- Whether the response to HEAD says how long the body is that it leaves out, where the headers do not
say it anyway. What stands for a path of the site does not. -/
def isMeasured (path : String) : Bool :=
  Route.ofPath path ≠ .site || path.toList.head? ≠ some '/'

/-- The headers of every response that keep browsers from doing harm. -/
def defensiveHeaders : Http.Headers :=
  [("strict-transport-security", "max-age=31536000"), ("x-frame-options", "DENY"),
    ("x-content-type-options", "nosniff"), ("x-xss-protection", "1; mode=block"),
    ("referrer-policy", "no-referrer")]

def defended (r : Response) : Response :=
  defensiveHeaders.foldl (fun r (name, value) ↦ r.setHeader name value) r

def inTime {σ : Type} (a : Attempt σ) : Reply σ :=
  match a.response with
  | some r => ⟨r, a.state, a.events⟩
  | none =>
    ⟨ApiError.requestTimeout.response, a.state, a.events ++ [ApiError.requestTimeout.event]⟩

variable {σ : Type}

def ofConfig (c : ServerConfig) (backend : Backend σ)
    (validate : String → Except SkyAddress.Fault Unit) (site : Option Site.Tree) : Gate σ :=
  ⟨.ofConfig c, ⟨c.startAt, backend, validate⟩, site⟩

def bind (g : Gate σ) (moment : Moment) (request : Request) (s : State σ) : Attempt (State σ) :=
  let handle (state : σ) : Attempt σ :=
    (logged request (g.endpoints.bind moment request state)).mapResponse
      (·.setHeader "accept" "application/json")
  ((limited request handle s.bindLimiter s.backend).mapState
    fun (limiter, state) ↦ { s with bindLimiter := limiter, backend := state }).mapResponse
      (·.negotiated request.headers)

def lookup (g : Gate σ) (moment : Moment) (request : Request) (s : State σ) : Attempt (State σ) :=
  let handle (state : σ) : Attempt σ := logged request (g.endpoints.lookup moment request state)
  ((limited request handle s.lookupLimiter s.backend).mapState
    fun (limiter, state) ↦ { s with lookupLimiter := limiter, backend := state }).mapResponse
      (·.negotiated request.headers)

def route (g : Gate σ) (moment : Moment) (request : Request) (s : State σ) : Attempt (State σ) :=
  match Route.ofPath request.uri.path with
  | .bind => g.bind moment request s
  | .lookup => g.lookup moment request s
  | .site => ⟨some (Site.respond g.site request), s, []⟩

def reply (g : Gate σ) (moment : Moment) (request : Request) (s : State σ) : Reply (State σ) :=
  let r := g.options.check request (fun s ↦ inTime (g.route moment request s)) s
  let response := defended r.response
  if isMeasured request.uri.path then { r with response := response.framed request.method }
  else { r with response := response.stripped request.method }

def replies (g : Gate σ) (s : State σ) : List (Moment × Request) → List (Reply (State σ))
  | [] => []
  | (moment, request) :: requests =>
    let r := g.reply moment request s
    r :: replies g r.state requests

/-- The state before the first request, none if the window of the throttle is too long. -/
def State.initial? (t : Throttle) (backend : σ) : Option (State σ) :=
  (Limiter.ofThrottle? t).map fun limiter ↦ ⟨limiter, limiter, backend⟩

end Gate

end DepositGate
