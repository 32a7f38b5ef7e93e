import DepositGate.Gate.Bind
import DepositGate.Http.Form

/-!
# Looking up deposits

The endpoint that tells how far the deposits of a sky address have got. The address is the first field of
its name in the query.
-/

namespace DepositGate.Gate

open Http (Request)

def skyAddrField : String := "skyaddr"

def lookupAddress (request : Request) : Except ApiError String :=
  if request.method ≠ "GET" then .error (.methodNotAllowed "GET")
  else
    match Http.Form.first? skyAddrField (request.uri.query.getD "") with
    | some skyAddr => if skyAddr.isEmpty then .error .missingSkyAddr else .ok skyAddr
    | none => .error .missingSkyAddr

def statusText (s : DepositStatus) : String :=
  "DepositStatus \x7b seq: " ++ toString s.seq ++ ", updated_at: " ++ toString s.updatedAt ++
    ", status: " ++ Text.quoted s.status ++ " \x7d"

def statusesText (statuses : List DepositStatus) : String :=
  "[" ++ String.intercalate ", " (statuses.map statusText) ++ "]"

def statusesEvent (statuses : List DepositStatus) : Event :=
  ⟨.info, "Got deposit statuses", [("statuses", .text (statusesText statuses))], []⟩

def Endpoints.lookup {σ : Type} (e : Endpoints σ) (moment : Moment) (request : Request) (state : σ) :
    Handled σ :=
  match lookupAddress request with
  | .error fault => ⟨some (.error fault), state, []⟩
  | .ok skyAddr =>
    let asked := [.known "sky_addr" (.text skyAddr), .info "Status request"]
    match e.admit moment.now skyAddr with
    | .error fault => ⟨some (.error fault), state, asked⟩
    | .ok () =>
      let calling := asked ++ [.info "Calling service.deposit_statuses"]
      let ended := (e.backend.statuses skyAddr state).within requestTimeout
      let notes := calling ++ ended.events.map .happened
      match ended.result? with
      | none => ⟨none, ended.state, notes⟩
      | some (.error fault) => ⟨some (.error (.service fault)), ended.state, notes⟩
      | some (.ok statuses) =>
        ⟨some (.ok (StatusReply.toDatum ⟨statuses⟩)), ended.state,
          notes ++ [.known "statuses_len" (.number statuses.length),
            .happened (statusesEvent statuses)]⟩

end DepositGate.Gate
