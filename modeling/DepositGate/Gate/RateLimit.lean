import DepositGate.Gate.Reply
import DepositGate.Text.Character
import DepositGate.Text.Pieces
import DepositGate.Throttle.Limiter

/-!
# The rate limit

Each route admits so many requests of a client in a window. A client is known by the address of its end
of the connection, or else by what a proxy says of it.
-/

namespace DepositGate.Gate

open Http (Request Headers)

/-- The client of which a proxy speaks: the first one on its list that is not empty, or else the one it
names. -/
def forwardedClient? (headers : Headers) : Option String :=
  let listed := (headers.firstText? "x-forwarded-for").bind fun value ↦
    ((Text.pieces ',' value.toList).map Text.trim).find? (!·.isEmpty)
  let named := ((headers.firstText? "x-real-ip").map fun value ↦ Text.trim value.toList).filter
    (!·.isEmpty)
  (listed.or named).map String.ofList

def clientKey (request : Request) : String :=
  match request.peer with
  | some peer => peer.ip.toText
  | none => (forwardedClient? request.headers).getD "unknown"

def limitRejection {σ : Type} (request : Request) (state : σ) : Attempt σ :=
  let span : Span :=
    ⟨"rate_limit", [("client", .text (clientKey request)), ("path", .text request.uri.path)]⟩
  ⟨some ApiError.rateLimited.response, state, [ApiError.rateLimited.event.within span]⟩

def limited {σ : Type} (request : Request) (inner : σ → Attempt σ) (limiter : Limiter) (state : σ) :
    Attempt (Limiter × σ) :=
  let (admitted, limiter) := limiter.check (clientKey request)
  let a := if admitted then inner state else limitRejection request state
  a.mapState fun state ↦ (limiter, state)

end DepositGate.Gate
