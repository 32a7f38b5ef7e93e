import DepositGate.Gate.RequestLog
import DepositGate.Message.Reader
import DepositGate.Text.Character

/-!
# Binding addresses

The endpoint that binds a sky address to a deposit address. Its checks come in a fixed order, and the
backend is called once if all of them pass and never otherwise.
-/

namespace DepositGate.Gate

open Http (Request Headers)

/-- The times of a request: `now` is compared with the opening, and `second` is the time of a binding. -/
structure Moment where
  now : Time.Instant
  second : Int
deriving DecidableEq, Repr

structure Endpoints (σ : Type) where
  startAt : Time.Instant
  backend : Backend σ
  validate : String → Except SkyAddress.Fault Unit

/-- Milliseconds that a request may take. -/
def requestTimeout : Nat := 60000

def maxBodyLength : Nat := 65536

def announcesJson (headers : Headers) : Bool :=
  match headers.firstText? "content-type" with
  | some value =>
    let essence := Text.trim (value.toList.takeWhile (· != ';'))
    essence.map Char.toLower == "application/json".toList
  | none => false

def bindMessage (request : Request) : Except ApiError BindRequest :=
  if request.method ≠ "POST" then .error (.methodNotAllowed "POST")
  else if !announcesJson request.headers then .error .unsupportedMediaType
  else if maxBodyLength < request.body.length then .error (.invalidJson "length limit exceeded")
  else (BindRequest.ofJson request.body).mapError fun f ↦ .invalidJson (f.message request.body)

def messageCoin (m : BindRequest) : Except ApiError Coin :=
  if m.skyAddr.isEmpty then .error .missingSkyAddr
  else if m.coinCode.isEmpty then .error .missingCoinType
  else
    match Coin.ofCode? m.coinCode with
    | some coin => .ok coin
    | none => .error .invalidCoinType

/-- Checks that an address is one and that the gate has opened. -/
def Endpoints.admit {σ : Type} (e : Endpoints σ) (now : Time.Instant) (skyAddr : String) :
    Except ApiError Unit :=
  match e.validate skyAddr with
  | .error fault => .error (.invalidSkyAddr fault)
  | .ok () => if now.isAfter e.startAt then .ok () else .error (.notStarted e.startAt)

def Endpoints.bind {σ : Type} (e : Endpoints σ) (moment : Moment) (request : Request) (state : σ) :
    Handled σ :=
  match bindMessage request with
  | .error fault => ⟨some (.error fault), state, []⟩
  | .ok m =>
    let read := [.known "sky_addr" (.text m.skyAddr), .known "coin_type" (.text m.coinCode)]
    match messageCoin m with
    | .error fault => ⟨some (.error fault), state, read⟩
    | .ok coin =>
      let asked := read ++ [.info "Bind request"]
      match e.admit moment.now m.skyAddr with
      | .error fault => ⟨some (.error fault), state, asked⟩
      | .ok () =>
        let calling := asked ++ [.info "Calling service.bind_address"]
        let ended := (e.backend.bind m.skyAddr moment.second state).within requestTimeout
        let notes := calling ++ ended.events.map .happened
        match ended.result? with
        | none => ⟨none, ended.state, notes⟩
        | some (.error fault) => ⟨some (.error (.service fault)), ended.state, notes⟩
        | some (.ok depositAddr) =>
          ⟨some (.ok (BindReply.toDatum ⟨depositAddr, coin⟩)), ended.state,
            notes ++ [.known "deposit_address" (.text depositAddr),
              .info "Bound sky and deposit addresses"]⟩

end DepositGate.Gate
