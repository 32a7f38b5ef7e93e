import DepositGate.Proofs.Gate.Results
import DepositGate.Proofs.Http.ContentType

/-!
# The checks of a request to bind

Each check is stated by itself, with what is told to a request that fails it, and the order of the checks is a
list. A request is decided in order if its answer is that of the first check that fails, and the backend is
called if none does and only then; the calls are counted by a backend that keeps a record of them, from their
beginning. `bind_inOrder_iff` says that a request is decided in order unless it announces JSON in a header that
cannot be read as text.
-/

namespace DepositGate

open Http (Headers Request Response)

namespace Called

variable {σ τ α : Type}

/-- A call with something else made of the state that it leaves behind, at its end or where it is cut off. -/
def mapState (f : σ → τ) (c : Called σ α) : Called τ α :=
  { c with state := f c.state, cutState := f c.cutState }

theorem within_mapState (f : σ → τ) (c : Called σ α) (limit : Nat) :
    (c.mapState f).within limit =
      ⟨(c.within limit).result?, f (c.within limit).state, (c.within limit).events⟩ := by
  by_cases hlong : limit ≤ c.duration <;> simp [within, mapState, hlong]

end Called

namespace Gate

/-! ## The announced type -/

/-- The headers announce JSON: the first type that they tell names it. -/
def AnnouncesJson (headers : Headers) : Prop :=
  ∃ value, headers.first? "content-type" = some value ∧ Http.NamesType "application/json" value

/-- The first type that headers tell cannot be read as text. -/
def HasIllegibleType (headers : Headers) : Prop :=
  ∃ value, headers.first? "content-type" = some value ∧ Http.isVisible value = false

theorem announcesJson_iff (headers : Headers) :
    announcesJson headers = true ↔ AnnouncesJson headers ∧ ¬HasIllegibleType headers := by
  unfold announcesJson AnnouncesJson HasIllegibleType Headers.firstText?
  cases hfirst : headers.first? "content-type" with
  | none => simp
  | some value =>
      by_cases hvisible : Http.isVisible value = true
      · rw [Option.filter_some, if_pos hvisible]
        have hsolid : ∀ c ∈ "application/json".toList, c ≠ ';' ∧ Text.isBlank c = false := by
          simp [Text.isBlank]
        have hnames : (Text.trim (value.toList.takeWhile (· != ';'))).map Char.toLower =
            "application/json".toList ↔ Http.NamesType "application/json" value :=
          ⟨Http.namesType_of_essence hvisible, Http.essence_of_namesType (by decide) hsolid⟩
        simpa [hvisible] using hnames
      · rw [Option.filter_some, if_neg hvisible]
        simp [hvisible]

/-- A request to bind that announces JSON, in a header that cannot be read as text. -/
structure MisreadsType (request : Request) : Prop where
  method : request.method = "POST"
  announced : AnnouncesJson request.headers
  illegible : HasIllegibleType request.headers

/-! ## Refusals -/

structure Refusal where
  status : Nat
  message : String
  /-- The headers besides the type of the body. -/
  headers : Headers

def Refusal.response (r : Refusal) : Response :=
  ⟨r.status, ("content-type", "application/json") :: r.headers, ⟨envelope r.status r.message, true⟩⟩

def ApiError.refusal (fault : ApiError) : Refusal where
  status := fault.status
  message := fault.message
  headers := match fault with | methodNotAllowed allow => [("allow", allow)] | _ => []

theorem ApiError.response_refusal (fault : ApiError) : fault.refusal.response = fault.response := by
  unfold Refusal.response response jsonResponse
  rw [encode_toDatum]
  cases fault <;> rfl

/-! ## The checks -/

inductive BindCheck where
  | method | mediaType | length | body | skyAddr | coinGiven | coinSupported | address | opening
deriving DecidableEq

variable {σ : Type}

/-- A check fails, and something is told to the request. The checks of the message speak of the message
that the body holds. -/
inductive BindCheck.Fails (e : Endpoints σ) (now : Time.Instant) (request : Request) :
    BindCheck → Refusal → Prop where
  | method (h : request.method ≠ "POST") :
      Fails e now request .method ⟨405, "Invalid request method", [("allow", "POST")]⟩
  | mediaType (h : ¬AnnouncesJson request.headers) :
      Fails e now request .mediaType ⟨415, "Invalid content type", []⟩
  | length (h : 65536 < request.body.length) :
      Fails e now request .length ⟨400, "Invalid json request body: length limit exceeded", []⟩
  | body {fault : Json.Fault} (h : BindRequest.ofJson request.body = .error fault) :
      Fails e now request .body ⟨400, "Invalid json request body: " ++ fault.message request.body, []⟩
  | skyAddr {m : BindRequest} (hbody : BindRequest.ofJson request.body = .ok m) (h : m.skyAddr = "") :
      Fails e now request .skyAddr ⟨400, "Missing skyaddr", []⟩
  | coinGiven {m : BindRequest} (hbody : BindRequest.ofJson request.body = .ok m)
      (h : m.coinCode = "") :
      Fails e now request .coinGiven ⟨400, "Missing coin_type", []⟩
  | coinSupported {m : BindRequest} (hbody : BindRequest.ofJson request.body = .ok m)
      (h : ∀ coin : Coin, coin.code ≠ m.coinCode) :
      Fails e now request .coinSupported ⟨400, "Invalid coin_type", []⟩
  | address {m : BindRequest} {fault : SkyAddress.Fault}
      (hbody : BindRequest.ofJson request.body = .ok m) (h : e.validate m.skyAddr = .error fault) :
      Fails e now request .address ⟨400, "Invalid skycoin address: " ++ fault.message, []⟩
  | opening (h : now.isAfter e.startAt = false) :
      Fails e now request .opening ⟨403, "Event starts at " ++ e.startAt.display, []⟩

namespace BindCheck

def ofReading : List BindCheck := [.method, .mediaType, .length, .body]

def ofMessage : List BindCheck := [.skyAddr, .coinGiven, .coinSupported]

def ofAdmission : List BindCheck := [.address, .opening]

def inOrder : List BindCheck :=
  [.method, .mediaType, .length, .body, .skyAddr, .coinGiven, .coinSupported, .address, .opening]

end BindCheck

/-- What the first item of a list tells that fails, nothing if all pass. -/
inductive FirstFailure {α β : Type} (fails : α → β → Prop) : List α → Option β → Prop where
  | passed : FirstFailure fails [] none
  | here {a : α} {b : β} (as : List α) (h : fails a b) : FirstFailure fails (a :: as) (some b)
  | later {a : α} {as : List α} {b? : Option β} (hpasses : ∀ b, ¬fails a b)
      (h : FirstFailure fails as b?) : FirstFailure fails (a :: as) b?

namespace FirstFailure

variable {α β : Type} {fails : α → β → Prop} {as as' : List α} {b : β} {b? : Option β}

theorem append_some (h : FirstFailure fails as (some b)) :
    FirstFailure fails (as ++ as') (some b) := by
  generalize hb? : some b = b? at h
  induction h with
  | passed => cases hb?
  | here as hfails =>
      cases hb?
      exact .here _ hfails
  | later hpasses _ ih => exact .later hpasses (ih hb?)

theorem exists_fails (h : FirstFailure fails as (some b)) : ∃ a ∈ as, fails a b := by
  generalize hb? : some b = b? at h
  induction h with
  | passed => cases hb?
  | here as hfails =>
      cases hb?
      exact ⟨_, List.mem_cons_self, hfails⟩
  | later _ _ ih =>
      obtain ⟨a, ha, hfails⟩ := ih hb?
      exact ⟨a, List.mem_cons_of_mem _ ha, hfails⟩

theorem append_none (h : FirstFailure fails as none) (h' : FirstFailure fails as' b?) :
    FirstFailure fails (as ++ as') b? := by
  induction as with
  | nil => exact h'
  | cons a as ih =>
      cases h with
      | later hpasses h => exact .later hpasses (ih h)

theorem passes (h : FirstFailure fails as none) {a : α} (ha : a ∈ as) : ¬fails a b := by
  induction as with
  | nil => cases ha
  | cons a' as ih =>
      cases h with
      | later hpasses h =>
          rcases List.mem_cons.mp ha with rfl | ha
          · exact hpasses b
          · exact ih h ha

end FirstFailure

def refusalOf? {α : Type} : Except ApiError α → Option Refusal
  | .ok _ => none
  | .error fault => some fault.refusal

/-- A guard makes a check: it rejects exactly if the check fails, and goes on with the others if not. -/
theorem FirstFailure.guard {α γ : Type} {fails : γ → Refusal → Prop} {c : γ} {cs : List γ} {p : Prop}
    [Decidable p] {fault : ApiError} {rest : Except ApiError α} (hfails : p → fails c fault.refusal)
    (hpasses : ¬p → ∀ r, ¬fails c r) (h : ¬p → FirstFailure fails cs (refusalOf? rest)) :
    FirstFailure fails (c :: cs) (refusalOf? (if p then .error fault else rest)) := by
  by_cases hp : p
  · rw [if_pos hp]
    exact .here cs (hfails hp)
  · rw [if_neg hp]
    exact .later (hpasses hp) (h hp)

/-- The last guard, that a computation gives a result. -/
theorem FirstFailure.result {α γ : Type} {fails : γ → Refusal → Prop} {c : γ} {x : Except ApiError α}
    (hfails : ∀ fault, x = .error fault → fails c fault.refusal)
    (hpasses : ∀ a, x = .ok a → ∀ r, ¬fails c r) : FirstFailure fails [c] (refusalOf? x) := by
  cases hx : x with
  | error fault => exact .here [] (hfails fault hx)
  | ok a => exact .later (hpasses a hx) .passed

section Stages

variable (e : Endpoints σ) (now : Time.Instant) {request : Request} {m : BindRequest}

theorem firstFailure_bindMessage (hlegible : ¬MisreadsType request) :
    FirstFailure (BindCheck.Fails e now request) BindCheck.ofReading
      (refusalOf? (bindMessage request)) := by
  unfold bindMessage
  refine .guard (fun h ↦ .method h) (fun h _ hfails ↦ ?_) fun hmethod ↦
    .guard (fun h ↦ .mediaType fun hannounced ↦ ?_) (fun h _ hfails ↦ ?_) fun _ ↦
    .guard (fun h ↦ .length h) (fun h _ hfails ↦ ?_) fun _ ↦ .result ?_ ?_
  · cases hfails with
    | method hfails => exact h hfails
  · have hread : announcesJson request.headers = true := by
      refine (announcesJson_iff _).mpr ⟨hannounced, fun hillegible ↦ ?_⟩
      exact hlegible ⟨not_not.mp hmethod, hannounced, hillegible⟩
    simp [hread] at h
  · cases hfails with
    | mediaType hfails => exact hfails ((announcesJson_iff _).mp (by simpa using h)).1
  · cases hfails with
    | length hfails => exact h hfails
  · intro fault hfault
    cases hjson : BindRequest.ofJson request.body with
    | ok m => simp [hjson, Except.mapError] at hfault
    | error jsonFault =>
        rw [hjson] at hfault
        cases hfault
        exact .body hjson
  · intro m hm _ hfails
    cases hfails with
    | body hjson => simp [hjson, Except.mapError] at hm

theorem firstFailure_messageCoin (hbody : BindRequest.ofJson request.body = .ok m) :
    FirstFailure (BindCheck.Fails e now request) BindCheck.ofMessage (refusalOf? (messageCoin m)) := by
  unfold messageCoin
  refine .guard (fun h ↦ .skyAddr hbody (by simpa using h)) (fun h _ hfails ↦ ?_)
    fun _ ↦ .guard (fun h ↦ .coinGiven hbody (by simpa using h)) (fun h _ hfails ↦ ?_) fun _ ↦
    .result ?_ ?_
  · cases hfails with
    | skyAddr hbody' hempty =>
        cases hbody.symm.trans hbody'
        simp [hempty] at h
  · cases hfails with
    | coinGiven hbody' hempty =>
        cases hbody.symm.trans hbody'
        simp [hempty] at h
  · intro fault hfault
    cases hcoin : Coin.ofCode? m.coinCode with
    | some coin => simp [hcoin] at hfault
    | none =>
        rw [hcoin] at hfault
        cases hfault
        refine .coinSupported hbody fun coin hcode ↦ ?_
        simp [Coin.ofCode?_eq_some_iff.mpr hcode.symm] at hcoin
  · intro coin hcoin _ hfails
    cases hfails with
    | coinSupported hbody' hnone =>
        cases hbody.symm.trans hbody'
        split at hcoin
        next hfound => exact hnone _ (Coin.ofCode?_eq_some_iff.mp hfound).symm
        next => cases hcoin

theorem firstFailure_admission (hbody : BindRequest.ofJson request.body = .ok m) :
    FirstFailure (BindCheck.Fails e now request) BindCheck.ofAdmission
      (refusalOf? <| e.admit now m.skyAddr) := by
  unfold Endpoints.admit
  cases haddress : e.validate m.skyAddr with
  | error fault => exact .here _ (.address hbody haddress)
  | ok _ =>
      refine .later (fun _ hfails ↦ ?_) ?_
      · cases hfails with
        | address hbody' hfault =>
            cases hbody.symm.trans hbody'
            simp [haddress] at hfault
      cases hopening : now.isAfter e.startAt with
      | false => exact .here [] (.opening hopening)
      | true =>
          refine .later (fun _ hfails ↦ ?_) .passed
          cases hfails with
          | opening hclosed => simp [hopening] at hclosed

/-- A type that cannot be read as text is taken for none, whatever it names. -/
theorem bindMessage_of_misreadsType (h : MisreadsType request) :
    bindMessage request = .error .unsupportedMediaType := by
  have hunread : announcesJson request.headers = false := by
    by_contra hread
    exact ((announcesJson_iff _).mp (by simpa using hread)).2 h.illegible
  simp [bindMessage, h.method, hunread]

theorem not_misreadsType_of_bindMessage (hmessage : bindMessage request = .ok m) :
    ¬MisreadsType request := by
  intro h
  simp [bindMessage_of_misreadsType h] at hmessage

/-- Once a message is read, the checks of reading are behind it. -/
theorem firstFailure_of_bindMessage {first : Option Refusal} (hmessage : bindMessage request = .ok m)
    (h : FirstFailure (BindCheck.Fails e now request) (BindCheck.ofMessage ++ BindCheck.ofAdmission)
      first) : FirstFailure (BindCheck.Fails e now request) BindCheck.inOrder first := by
  have hread := firstFailure_bindMessage e now (not_misreadsType_of_bindMessage hmessage)
  rw [hmessage] at hread
  exact hread.append_none h

theorem firstFailure_of_messageCoin {coin : Coin} (hmessage : bindMessage request = .ok m)
    (hcoin : messageCoin m = .ok coin) :
    FirstFailure (BindCheck.Fails e now request) BindCheck.inOrder
      (refusalOf? <| e.admit now m.skyAddr) := by
  have hbody := (bindMessage_eq_ok hmessage).2
  have hcomplete := firstFailure_messageCoin e now hbody
  rw [hcoin] at hcomplete
  exact firstFailure_of_bindMessage e now hmessage
    (hcomplete.append_none (firstFailure_admission e now hbody))

end Stages

/-! ## Calls -/

/-- The endpoints with a backend that keeps a record of the addresses that it is called to bind. An address is
on record from the beginning of its call, be the call cut off or not. -/
def Endpoints.recorded (e : Endpoints σ) : Endpoints (σ × List String) where
  startAt := e.startAt
  backend :=
    { bind := fun skyAddr second s ↦
        (e.backend.bind skyAddr second s.1).mapState fun state ↦ (state, s.2 ++ [skyAddr])
      statuses := fun skyAddr s ↦ (e.backend.statuses skyAddr s.1).mapState fun state ↦ (state, s.2) }
  validate := e.validate

def Handled.unrecorded (h : Handled (σ × List String)) : Handled σ :=
  ⟨h.answer, h.state.1, h.notes⟩

theorem bindEnded_recorded (e : Endpoints σ) (moment : Moment) (m : BindRequest) (state : σ)
    (calls : List String) :
    e.recorded.bindEnded moment m (state, calls) =
      ⟨(e.bindEnded moment m state).result?, ((e.bindEnded moment m state).state, calls ++ [m.skyAddr]),
        (e.bindEnded moment m state).events⟩ :=
  Called.within_mapState _ _ _

@[simp] theorem admit_recorded (e : Endpoints σ) : e.recorded.admit = e.admit := rfl

theorem bindReady_recorded {e : Endpoints σ} {moment : Moment} {request : Request} {m : BindRequest}
    {coin : Coin} (hready : BindReady e moment request m coin) :
    BindReady e.recorded moment request m coin :=
  ⟨hready.message, hready.coin, hready.admitted⟩

/-- The record changes nothing else. -/
theorem unrecorded_bind (e : Endpoints σ) (moment : Moment) (request : Request) (state : σ)
    (calls : List String) :
    (e.recorded.bind moment request (state, calls)).unrecorded = e.bind moment request state := by
  have houtcome := bindOutcome e moment request state
  generalize e.bind moment request state = run at houtcome
  cases houtcome with
  | unread hmessage => simp [Endpoints.bind, hmessage, Handled.unrecorded]
  | incomplete hmessage hcoin => simp [Endpoints.bind, hmessage, hcoin, Handled.unrecorded, bindRead]
  | unadmitted hmessage hcoin hadmitted =>
      simp [Endpoints.bind, hmessage, hcoin, hadmitted, Handled.unrecorded, bindAsked, bindRead]
  | late hready hended | refused hready hended | bound hready hended =>
      rw [bind_of_bindReady (bindReady_recorded hready), bindEnded_recorded, hended]
      rfl

/-! ## What becomes of a request -/

/-- A refusal is told, and nothing else happens. -/
def Handled.Refuses (h : Handled σ) (refusal : Refusal) (state : σ) : Prop :=
  h.answer.map answerResponse = some refusal.response ∧ h.state = state

theorem refuses_of_error (fault : ApiError) (state : σ) (notes : List Note) :
    Handled.Refuses ⟨some (.error fault), state, notes⟩ fault.refusal state := by
  refine ⟨?_, rfl⟩
  rw [ApiError.response_refusal]
  rfl

/-- The response to a request for a coin that tells what a call of the backend gives. -/
def callResponse (coinCode : String) : Except BackendFault String → Response
  | .error fault => Refusal.response ⟨400, fault.message, []⟩
  | .ok depositAddr =>
    jsonResponse 200
      (.table [("deposit_address", .text depositAddr), ("coin_type", .text coinCode)])

/-- A backend is called once, for the address of a message, and its result is told, unless the call is cut
off. -/
def Handled.Calls (h : Handled (σ × List String)) (b : Backend σ) (m : BindRequest) (second : Int)
    (state : σ) (calls : List String) : Prop :=
  let ended := (b.bind m.skyAddr second state).within requestTimeout
  h.answer.map answerResponse = ended.result?.map (callResponse m.coinCode) ∧
    h.state = (ended.state, calls ++ [m.skyAddr])

theorem calls_of_bindReady {e : Endpoints σ} {moment : Moment} {request : Request} {m : BindRequest}
    {coin : Coin} (hready : BindReady e moment request m coin) (state : σ) (calls : List String) :
    (e.recorded.bind moment request (state, calls)).Calls e.backend m moment.second state calls := by
  rw [bind_of_bindReady (bindReady_recorded hready), bindEnded_recorded, Handled.Calls, ← Endpoints.bindEnded,
    code_of_messageCoin hready.coin]
  rcases e.bindEnded moment m state with ⟨_ | fault | depositAddr, state', events⟩
  · exact ⟨rfl, rfl⟩
  · exact refuses_of_error (.service fault) _ _
  · exact ⟨rfl, rfl⟩

theorem refuses_of_not_bindReady {e : Endpoints σ} {moment : Moment} {request : Request}
    (hlegible : ¬MisreadsType request) (hnot : ¬∃ m coin, BindReady e moment request m coin) (state : σ)
    (calls : List String) :
    ∃ refusal,
      FirstFailure (BindCheck.Fails e moment.now request) BindCheck.inOrder (some refusal) ∧
        (e.recorded.bind moment request (state, calls)).Refuses refusal (state, calls) := by
  have houtcome := bindOutcome e.recorded moment request (state, calls)
  generalize e.recorded.bind moment request (state, calls) = run at houtcome
  -- A failure ends the list: of the checks behind it nothing is known, and nothing needed.
  cases houtcome with
  | unread hmessage =>
      have hread := firstFailure_bindMessage e moment.now hlegible
      rw [hmessage] at hread
      exact ⟨_, hread.append_some, refuses_of_error _ _ _⟩
  | incomplete hmessage hcoin =>
      have hcomplete := firstFailure_messageCoin e moment.now (bindMessage_eq_ok hmessage).2
      rw [hcoin] at hcomplete
      exact ⟨_, firstFailure_of_bindMessage e moment.now hmessage hcomplete.append_some,
        refuses_of_error _ _ _⟩
  | unadmitted hmessage hcoin hadmitted =>
      have hfirst := firstFailure_of_messageCoin e moment.now hmessage hcoin
      rw [admit_recorded] at hadmitted
      rw [hadmitted] at hfirst
      exact ⟨_, hfirst, refuses_of_error _ _ _⟩
  | late hready | refused hready | bound hready =>
      exact absurd ⟨_, _, hready.message, hready.coin, hready.admitted⟩ hnot

/-- A request is decided in the order of the checks: the answer is that of the first one that fails. If all
pass, so after the opening only, the backend is called once for the address of the message, and never
otherwise. -/
def Endpoints.DecidesInOrder (e : Endpoints σ) (moment : Moment) (request : Request) (state : σ)
    (calls : List String) : Prop :=
  let run := e.recorded.bind moment request (state, calls)
  ∃ first, FirstFailure (BindCheck.Fails e moment.now request) BindCheck.inOrder first ∧
    match first with
    | some refusal => run.Refuses refusal (state, calls)
    | none => moment.now.isAfter e.startAt = true ∧
        ∃ m, BindRequest.ofJson request.body = .ok m ∧ run.Calls e.backend m moment.second state calls

variable {e : Endpoints σ} {moment : Moment} {request : Request}

theorem decidesInOrder_of_not_misreadsType (hlegible : ¬MisreadsType request) (state : σ)
    (calls : List String) : e.DecidesInOrder moment request state calls := by
  by_cases hready : ∃ m coin, BindReady e moment request m coin
  · obtain ⟨m, coin, hready⟩ := hready
    have hfirst := firstFailure_of_messageCoin e moment.now hready.message hready.coin
    rw [hready.admitted] at hfirst
    have hopening : moment.now.isAfter e.startAt = true := by
      by_contra hclosed
      exact hfirst.passes (by decide) (.opening (by simpa using hclosed))
    exact ⟨none, hfirst, hopening, m, (bindMessage_eq_ok hready.message).2,
      calls_of_bindReady hready state calls⟩
  · obtain ⟨refusal, hfirst, hrefuses⟩ := refuses_of_not_bindReady hlegible hready state calls
    exact ⟨some refusal, hfirst, hrefuses⟩

theorem refuses_of_misreadsType (h : MisreadsType request) (state : σ) (calls : List String) :
    (e.recorded.bind moment request (state, calls)).Refuses ⟨415, "Invalid content type", []⟩
      (state, calls) := by
  rw [Endpoints.bind, bindMessage_of_misreadsType h]
  exact refuses_of_error .unsupportedMediaType _ _

theorem status_ne_415_of_fails {c : BindCheck} {refusal : Refusal} {now : Time.Instant}
    (hannounced : AnnouncesJson request.headers) (h : c.Fails e now request refusal) :
    refusal.status ≠ 415 := by
  cases h with
  | mediaType hfails => exact absurd hannounced hfails
  | method | length | body | skyAddr | coinGiven | coinSupported | address | opening => simp

theorem status_callResponse_ne_415 (coinCode : String) (result : Except BackendFault String) :
    (callResponse coinCode result).status ≠ 415 := by
  cases result <;> simp [callResponse, Refusal.response, jsonResponse]

theorem not_decidesInOrder_of_misreadsType (h : MisreadsType request) (state : σ) (calls : List String) :
    ¬e.DecidesInOrder moment request state calls := by
  rintro ⟨first, hfirst, hrun⟩
  obtain ⟨hanswer, -⟩ := refuses_of_misreadsType h state calls
  -- The answer is 415, which no check but that of the type tells, and no call.
  cases first with
  | some refusal =>
      obtain ⟨c, -, hfails⟩ := hfirst.exists_fails
      have hresponse := Option.some.inj (hanswer.symm.trans hrun.1)
      exact status_ne_415_of_fails h.announced hfails (congrArg Response.status hresponse).symm
  | none =>
      obtain ⟨-, m, -, htold, -⟩ := hrun
      obtain ⟨result, -, hresponse⟩ := Option.map_eq_some_iff.mp (htold.symm.trans hanswer)
      exact status_callResponse_ne_415 m.coinCode result (congrArg Response.status hresponse)

/-! ## Main result -/

/-- A request to bind is decided in the order of the checks exactly if its type is not misread. If it is, the
answer says that the type is none that is accepted, and the backend is not called. -/
theorem Endpoints.bind_inOrder_iff (e : Endpoints σ) (moment : Moment) (request : Request) (state : σ)
    (calls : List String) :
    let run := e.recorded.bind moment request (state, calls)
    run.unrecorded = e.bind moment request state ∧
      (e.DecidesInOrder moment request state calls ↔ ¬MisreadsType request) ∧
      (MisreadsType request → run.Refuses ⟨415, "Invalid content type", []⟩ (state, calls)) := by
  intro run
  refine ⟨unrecorded_bind e moment request state calls, ⟨?_, ?_⟩, fun h ↦ refuses_of_misreadsType h state calls⟩
  · intro hdecides h
    exact not_decidesInOrder_of_misreadsType h state calls hdecides
  · intro hlegible
    exact decidesInOrder_of_not_misreadsType hlegible state calls

def unreadableParameter : Request :=
  ⟨"POST", ⟨none, none, "/api/bind"⟩, [("content-type", "application/json; profile=\"é\"")],
    Text.utf8 (bindBody "a"), none, none⟩

/-- All checks pass, and yet the request is refused for its type. -/
theorem unreadable_parameter_refused :
    let e : Endpoints Unit := ⟨⟨0, 0⟩, .constant 0 (.ok "btc-0") (.ok []), fun _ ↦ .ok ()⟩
    let moment : Moment := ⟨⟨1, 0⟩, 1⟩
    let request := unreadableParameter
    request.method = "POST" ∧ AnnouncesJson request.headers ∧
      request.body.length ≤ 65536 ∧ BindRequest.ofJson request.body = .ok ⟨"a", "BTC"⟩ ∧
      e.validate "a" = .ok () ∧ moment.now.isAfter e.startAt = true ∧
      (e.bind moment request ()).answer.map (answerResponse · |>.status) = some 415 ∧
      ¬e.DecidesInOrder moment request () [] := by
  intro e moment request
  have hnames : Http.NamesType "application/json" "application/json; profile=\"é\"" := by
    refine ⟨[], "application/json".toList, [], "; profile=\"é\"".toList, by decide, ?_, by decide, ?_⟩
    · intro c hc
      cases hc
    · intro c hc
      exact (Option.some.inj hc).symm
  have hannounced : AnnouncesJson request.headers := ⟨_, rfl, hnames⟩
  have hmisread : MisreadsType request := ⟨rfl, hannounced, _, rfl, by decide⟩
  exact ⟨rfl, hannounced, by decide +kernel, rfl, rfl, rfl, by decide +kernel,
    not_decidesInOrder_of_misreadsType hmisread () []⟩

end Gate

end DepositGate
