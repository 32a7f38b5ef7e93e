import DepositGate.Gate.StatusLookup

/-!
# What an endpoint may make of a request

The two endpoints with their early returns spelled out: `BindOutcome` and `LookupOutcome` have one case for
each of them, with the checks passed so far, the state left behind and all that has been said.
-/

namespace DepositGate.Gate

open Http (Request)

variable {σ : Type} {e : Endpoints σ} {moment : Moment} {request : Request} {state : σ}

/-! ## Binding -/

def bindRead (m : BindRequest) : List Note :=
  [.known "sky_addr" (.text m.skyAddr), .known "coin_type" (.text m.coinCode)]

def bindAsked (m : BindRequest) : List Note :=
  bindRead m ++ [.info "Bind request"]

def bindCalling (m : BindRequest) : List Note :=
  bindAsked m ++ [.info "Calling service.bind_address"]

def boundNotes (depositAddr : String) : List Note :=
  [.known "deposit_address" (.text depositAddr), .info "Bound sky and deposit addresses"]

/-- A request to bind passes all checks before the backend is called. -/
structure BindReady (e : Endpoints σ) (moment : Moment) (request : Request) (m : BindRequest)
    (coin : Coin) : Prop where
  message : bindMessage request = .ok m
  coin : messageCoin m = .ok coin
  admitted : e.admit moment.now m.skyAddr = .ok ()

/-- What comes of the call that binds the address of a message. -/
def Endpoints.bindEnded (e : Endpoints σ) (moment : Moment) (m : BindRequest) (state : σ) : Ended σ String :=
  (e.backend.bind m.skyAddr moment.second state).within requestTimeout

inductive BindOutcome (e : Endpoints σ) (moment : Moment) (request : Request) (state : σ) :
    Handled σ → Prop where
  | unread {fault : ApiError} (hmessage : bindMessage request = .error fault) :
      BindOutcome e moment request state ⟨some (.error fault), state, []⟩
  | incomplete {m : BindRequest} {fault : ApiError} (hmessage : bindMessage request = .ok m)
      (hcoin : messageCoin m = .error fault) :
      BindOutcome e moment request state ⟨some (.error fault), state, bindRead m⟩
  | unadmitted {m : BindRequest} {coin : Coin} {fault : ApiError}
      (hmessage : bindMessage request = .ok m) (hcoin : messageCoin m = .ok coin)
      (hadmitted : e.admit moment.now m.skyAddr = .error fault) :
      BindOutcome e moment request state ⟨some (.error fault), state, bindAsked m⟩
  | late {m : BindRequest} {coin : Coin} {state' : σ} {events : List Event}
      (hready : BindReady e moment request m coin)
      (hended : e.bindEnded moment m state = ⟨none, state', events⟩) :
      BindOutcome e moment request state ⟨none, state', bindCalling m ++ events.map .happened⟩
  | refused {m : BindRequest} {coin : Coin} {refusal : BackendFault} {state' : σ}
      {events : List Event} (hready : BindReady e moment request m coin)
      (hended : e.bindEnded moment m state = ⟨some (.error refusal), state', events⟩) :
      BindOutcome e moment request state
        ⟨some (.error (.service refusal)), state', bindCalling m ++ events.map .happened⟩
  | bound {m : BindRequest} {coin : Coin} {depositAddr : String} {state' : σ}
      {events : List Event} (hready : BindReady e moment request m coin)
      (hended : e.bindEnded moment m state = ⟨some (.ok depositAddr), state', events⟩) :
      BindOutcome e moment request state
        ⟨some (.ok (BindReply.toDatum ⟨depositAddr, coin⟩)), state',
          bindCalling m ++ events.map .happened ++ boundNotes depositAddr⟩

/-- What the endpoint makes of the call that binds the address of a message, once it is over or cut off. -/
def bindHandled (m : BindRequest) (coin : Coin) (ended : Ended σ String) : Handled σ :=
  let notes := bindCalling m ++ ended.events.map .happened
  match ended.result? with
  | none => ⟨none, ended.state, notes⟩
  | some (.error refusal) => ⟨some (.error (.service refusal)), ended.state, notes⟩
  | some (.ok depositAddr) =>
    ⟨some (.ok (BindReply.toDatum ⟨depositAddr, coin⟩)), ended.state, notes ++ boundNotes depositAddr⟩

theorem bind_of_bindReady {m : BindRequest} {coin : Coin} (hready : BindReady e moment request m coin)
    (state : σ) : e.bind moment request state = bindHandled m coin (e.bindEnded moment m state) := by
  obtain ⟨hmessage, hcoin, hadmitted⟩ := hready
  simp only [Endpoints.bind, hmessage, hcoin, hadmitted]
  rfl

theorem answer_bindHandled_eq_none_iff {m : BindRequest} {coin : Coin} {ended : Ended σ String} :
    (bindHandled m coin ended).answer = none ↔ ended.result? = none := by
  rcases ended with ⟨_ | _ | _, _, _⟩ <;> simp [bindHandled]

theorem bindOutcome_of_bindReady {m : BindRequest} {coin : Coin}
    (hready : BindReady e moment request m coin) :
    BindOutcome e moment request state (e.bind moment request state) := by
  rw [bind_of_bindReady hready]
  rcases hended : e.bindEnded moment m state with ⟨_ | refusal | depositAddr, state', events⟩
  · exact .late hready hended
  · exact .refused hready hended
  · exact .bound hready hended

theorem bindOutcome (e : Endpoints σ) (moment : Moment) (request : Request) (state : σ) :
    BindOutcome e moment request state (e.bind moment request state) := by
  cases hmessage : bindMessage request with
  | error fault =>
      rw [Endpoints.bind, hmessage]
      exact .unread hmessage
  | ok m =>
      cases hcoin : messageCoin m with
      | error fault =>
          simp only [Endpoints.bind, hmessage, hcoin]
          exact .incomplete hmessage hcoin
      | ok coin =>
          cases hadmitted : e.admit moment.now m.skyAddr with
          | error fault =>
              simp only [Endpoints.bind, hmessage, hcoin, hadmitted]
              exact .unadmitted hmessage hcoin hadmitted
          | ok _ => exact bindOutcome_of_bindReady ⟨hmessage, hcoin, hadmitted⟩

/-- A binding takes too long exactly if the backend is called and does. -/
theorem answer_bind_eq_none_iff : (e.bind moment request state).answer = none ↔
    ∃ m coin, BindReady e moment request m coin ∧
      requestTimeout ≤ (e.backend.bind m.skyAddr moment.second state).duration := by
  constructor
  · intro hanswer
    have houtcome := bindOutcome e moment request state
    generalize e.bind moment request state = h at houtcome hanswer
    cases houtcome with
    | unread | incomplete | unadmitted | refused | bound => cases hanswer
    | late hready hended =>
        exact ⟨_, _, hready, Called.result?_within_eq_none_iff.mp (congrArg Ended.result? hended)⟩
  · rintro ⟨m, coin, hready, hlate⟩
    rw [bind_of_bindReady hready, answer_bindHandled_eq_none_iff]
    exact Called.result?_within_eq_none_iff.mpr hlate

/-! ## Looking up -/

def lookupAsked (skyAddr : String) : List Note :=
  [.known "sky_addr" (.text skyAddr), .info "Status request"]

def lookupCalling (skyAddr : String) : List Note :=
  lookupAsked skyAddr ++ [.info "Calling service.deposit_statuses"]

def foundNotes (statuses : List DepositStatus) : List Note :=
  [.known "statuses_len" (.number statuses.length), .happened (statusesEvent statuses)]

/-- A request to look up passes all checks before the backend is called. -/
structure LookupReady (e : Endpoints σ) (moment : Moment) (request : Request) (skyAddr : String) :
    Prop where
  address : lookupAddress request = .ok skyAddr
  admitted : e.admit moment.now skyAddr = .ok ()

/-- What comes of the call that looks up the deposits of an address. -/
def Endpoints.lookupEnded (e : Endpoints σ) (skyAddr : String) (state : σ) : Ended σ (List DepositStatus) :=
  (e.backend.statuses skyAddr state).within requestTimeout

inductive LookupOutcome (e : Endpoints σ) (moment : Moment) (request : Request) (state : σ) :
    Handled σ → Prop where
  | unread {fault : ApiError} (haddress : lookupAddress request = .error fault) :
      LookupOutcome e moment request state ⟨some (.error fault), state, []⟩
  | unadmitted {skyAddr : String} {fault : ApiError}
      (haddress : lookupAddress request = .ok skyAddr)
      (hadmitted : e.admit moment.now skyAddr = .error fault) :
      LookupOutcome e moment request state ⟨some (.error fault), state, lookupAsked skyAddr⟩
  | late {skyAddr : String} {state' : σ} {events : List Event}
      (hready : LookupReady e moment request skyAddr)
      (hended : e.lookupEnded skyAddr state = ⟨none, state', events⟩) :
      LookupOutcome e moment request state
        ⟨none, state', lookupCalling skyAddr ++ events.map .happened⟩
  | refused {skyAddr : String} {refusal : BackendFault} {state' : σ} {events : List Event}
      (hready : LookupReady e moment request skyAddr)
      (hended : e.lookupEnded skyAddr state = ⟨some (.error refusal), state', events⟩) :
      LookupOutcome e moment request state
        ⟨some (.error (.service refusal)), state', lookupCalling skyAddr ++ events.map .happened⟩
  | found {skyAddr : String} {statuses : List DepositStatus} {state' : σ} {events : List Event}
      (hready : LookupReady e moment request skyAddr)
      (hended : e.lookupEnded skyAddr state = ⟨some (.ok statuses), state', events⟩) :
      LookupOutcome e moment request state
        ⟨some (.ok (StatusReply.toDatum ⟨statuses⟩)), state',
          lookupCalling skyAddr ++ events.map .happened ++ foundNotes statuses⟩

/-- What the endpoint makes of the call that looks up the deposits of an address, once it is over or cut off. -/
def lookupHandled (skyAddr : String) (ended : Ended σ (List DepositStatus)) : Handled σ :=
  let notes := lookupCalling skyAddr ++ ended.events.map .happened
  match ended.result? with
  | none => ⟨none, ended.state, notes⟩
  | some (.error refusal) => ⟨some (.error (.service refusal)), ended.state, notes⟩
  | some (.ok statuses) =>
    ⟨some (.ok (StatusReply.toDatum ⟨statuses⟩)), ended.state, notes ++ foundNotes statuses⟩

theorem lookup_of_lookupReady {skyAddr : String} (hready : LookupReady e moment request skyAddr)
    (state : σ) : e.lookup moment request state = lookupHandled skyAddr (e.lookupEnded skyAddr state) := by
  obtain ⟨haddress, hadmitted⟩ := hready
  simp only [Endpoints.lookup, haddress, hadmitted]
  rfl

theorem answer_lookupHandled_eq_none_iff {skyAddr : String} {ended : Ended σ (List DepositStatus)} :
    (lookupHandled skyAddr ended).answer = none ↔ ended.result? = none := by
  rcases ended with ⟨_ | _ | _, _, _⟩ <;> simp [lookupHandled]

theorem lookupOutcome_of_lookupReady {skyAddr : String}
    (hready : LookupReady e moment request skyAddr) :
    LookupOutcome e moment request state (e.lookup moment request state) := by
  rw [lookup_of_lookupReady hready]
  rcases hended : e.lookupEnded skyAddr state with ⟨_ | refusal | statuses, state', events⟩
  · exact .late hready hended
  · exact .refused hready hended
  · exact .found hready hended

theorem lookupOutcome (e : Endpoints σ) (moment : Moment) (request : Request) (state : σ) :
    LookupOutcome e moment request state (e.lookup moment request state) := by
  cases haddress : lookupAddress request with
  | error fault =>
      rw [Endpoints.lookup, haddress]
      exact .unread haddress
  | ok skyAddr =>
      cases hadmitted : e.admit moment.now skyAddr with
      | error fault =>
          simp only [Endpoints.lookup, haddress, hadmitted]
          exact .unadmitted haddress hadmitted
      | ok _ => exact lookupOutcome_of_lookupReady ⟨haddress, hadmitted⟩

theorem answer_lookup_eq_none_iff : (e.lookup moment request state).answer = none ↔
    ∃ skyAddr, LookupReady e moment request skyAddr ∧
      requestTimeout ≤ (e.backend.statuses skyAddr state).duration := by
  constructor
  · intro hanswer
    have houtcome := lookupOutcome e moment request state
    generalize e.lookup moment request state = h at houtcome hanswer
    cases houtcome with
    | unread | unadmitted | refused | found => cases hanswer
    | late hready hended =>
        exact ⟨_, hready, Called.result?_within_eq_none_iff.mp (congrArg Ended.result? hended)⟩
  · rintro ⟨skyAddr, hready, hlate⟩
    rw [lookup_of_lookupReady hready, answer_lookupHandled_eq_none_iff]
    exact Called.result?_within_eq_none_iff.mpr hlate

end DepositGate.Gate
