import DepositGate.Config.Basic
import DepositGate.Gate.Reply

/-!
# The security check

Which hosts the gate answers for, and to which it sends clients that come without encryption. This is the first
check of every request: it must name an allowed host, and a plain request is sent to the host for encrypted
ones, if there is one.
-/

namespace DepositGate.Gate

open Http (Request)

structure SecurityOptions where
  sslHost : Option String
  allowedHosts : List String
deriving DecidableEq, Repr

/-- The options of a configuration: the public host if there is one, or else the address for encrypted
requests. -/
def SecurityOptions.ofConfig (c : ServerConfig) : SecurityOptions :=
  if !c.autoTlsHost.isEmpty then ⟨some c.autoTlsHost, [c.autoTlsHost]⟩
  else ⟨if c.httpsAddr.isEmpty then none else some c.httpsAddr, []⟩

/-- The host that a request names: its first header for it, if that can be read, or else the authority
of its target. -/
def requestHost (request : Request) : Option String :=
  (request.headers.firstText? "host").or request.uri.authority

/-- Whether a request came encrypted: by its listener, or by the scheme of its target. -/
def arrivedOverTls (request : Request) : Bool :=
  request.protocol == some .https || request.uri.scheme == some Http.Uri.https

namespace SecurityOptions

def allows (options : SecurityOptions) (host : Option String) : Bool :=
  options.allowedHosts.isEmpty ||
    match host with
    | some host => options.allowedHosts.contains host
    | none => false

inductive Verdict where
  | forward
  | badHost
  | redirect (location : String)
deriving DecidableEq, Repr

def redirectLocation (sslHost : String) (request : Request) : String :=
  "https://" ++ sslHost ++ request.uri.pathAndQuery.getD "/"

def verdict (options : SecurityOptions) (request : Request) : Verdict :=
  if !options.allows (requestHost request) then .badHost
  else
    match options.sslHost with
    | some sslHost =>
      if arrivedOverTls request then .forward else .redirect (redirectLocation sslHost request)
    | none => .forward

def rejection {σ : Type} (request : Request) (state : σ) : Reply σ :=
  let span : Span := ⟨"security", [("host", .text ((requestHost request).getD ""))]⟩
  ⟨ApiError.badHost.response, state, [ApiError.badHost.event.within span]⟩

/-- The redirection of a request. A place that cannot be a header is as bad as a wrong host. -/
def redirection {σ : Type} (request : Request) (location : String) (state : σ) : Reply σ :=
  let event : Event :=
    ⟨.debug, "Redirecting HTTP to HTTPS",
      [("from", .text request.uri.toText), ("to", .text location)], []⟩
  if Http.isHeaderValue location then ⟨.bare 301 [("location", location)], state, [event]⟩
  else ⟨ApiError.badHost.response, state, [event, ApiError.badHost.event]⟩

def check {σ : Type} (options : SecurityOptions) (request : Request) (inner : σ → Reply σ)
    (state : σ) : Reply σ :=
  match options.verdict request with
  | .forward => inner state
  | .badHost => rejection request state
  | .redirect location => redirection request location state

end SecurityOptions

end DepositGate.Gate
