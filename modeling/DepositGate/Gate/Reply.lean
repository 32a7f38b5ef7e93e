import DepositGate.Deposit.Backend
import DepositGate.Http.Message
import DepositGate.Json.Basic
import DepositGate.SkyAddress
import DepositGate.Time.Instant

/-!
# Replies and rejections

What comes of a request to a part of the gate: a response, unless it takes too long, the state of the gate
after it, and the entries of the log. A rejection says why a request is not answered as it wishes, with its
status, wording, response and entry of the log.
-/

namespace DepositGate.Gate

structure Reply (σ : Type) where
  response : Http.Response
  state : σ
  events : List Event

/-- What comes of a request that may take too long, in which case there is no response. -/
structure Attempt (σ : Type) where
  response : Option Http.Response
  state : σ
  events : List Event

namespace Attempt

def mapResponse {σ : Type} (change : Http.Response → Http.Response) (a : Attempt σ) : Attempt σ :=
  { a with response := a.response.map change }

def mapState {σ τ : Type} (put : σ → τ) (a : Attempt σ) : Attempt τ :=
  ⟨a.response, put a.state, a.events⟩

end Attempt

/-! ## Rejections -/

inductive ApiError where
  | methodNotAllowed (allow : String)
  | unsupportedMediaType
  | invalidJson (message : String)
  | missingSkyAddr
  | missingCoinType
  | invalidCoinType
  | invalidSkyAddr (fault : SkyAddress.Fault)
  | notStarted (startAt : Time.Instant)
  | rateLimited
  | badHost
  | requestTimeout
  | service (fault : BackendFault)
deriving DecidableEq, Repr

namespace ApiError

def status : ApiError → Nat
  | methodNotAllowed _ => 405
  | unsupportedMediaType => 415
  | invalidJson _ | missingSkyAddr | missingCoinType | invalidCoinType | invalidSkyAddr _
  | service _ => 400
  | notStarted _ => 403
  | rateLimited => 429
  | badHost => 500
  | requestTimeout => 408

def message : ApiError → String
  | methodNotAllowed _ => "Invalid request method"
  | unsupportedMediaType => "Invalid content type"
  | invalidJson message => "Invalid json request body: " ++ message
  | missingSkyAddr => "Missing skyaddr"
  | missingCoinType => "Missing coin_type"
  | invalidCoinType => "Invalid coin_type"
  | invalidSkyAddr fault => "Invalid skycoin address: " ++ fault.message
  | notStarted startAt => "Event starts at " ++ startAt.display
  | rateLimited => "You have reached maximum request limit."
  | badHost => "Bad Host"
  | requestTimeout => "Request timed out"
  | service fault => fault.message

def toDatum (e : ApiError) : Datum :=
  .table [("error", .table [("code", .int e.status), ("message", .text e.message)])]

/-- The entry of the log for a rejection. That of a backend is an error of the program. -/
def event (e : ApiError) : Event :=
  match e with
  | service fault =>
    ⟨.error, "Service call failed", [("status", .number e.status), ("error", .text fault.message)], []⟩
  | _ =>
    ⟨.info, "Request rejected",
      [("status", .number e.status), ("status_msg", .text (Http.reasonPhrase e.status)),
        ("error", .text e.message)], []⟩

end ApiError

def jsonResponse (status : Nat) (d : Datum) : Http.Response :=
  ⟨status, [("content-type", "application/json")], ⟨Json.encode d, true⟩⟩

def ApiError.response (e : ApiError) : Http.Response :=
  let r := jsonResponse e.status e.toDatum
  match e with
  | methodNotAllowed allow => r.setHeader "allow" allow
  | _ => r

end DepositGate.Gate
