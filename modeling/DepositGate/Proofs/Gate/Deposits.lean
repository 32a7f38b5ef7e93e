import DepositGate.Proofs.Deposit.Allocation
import DepositGate.Proofs.Gate.Course

/-!
# Which requests change the pool

Behind the gate stands a pool. A request that is answered with a new binding moves the first free address
of the pool to its sky address, and no other request changes the pool. `replies_pool` says so for every
request of every sequence, and `allocated_after_requests` for the whole of a sequence.
-/

namespace DepositGate

open Http (Request)

/-! ## One call -/

namespace Pool

/-- The first free address of a pool is handed out to a sky address, and nothing else changes. -/
def HandsOut (skyAddr : String) (second : Int) (p p' : Pool) : Prop :=
  ∃ addr free, p.free = addr :: free ∧
    p' = ⟨free, p.bindings ++ [⟨skyAddr, addr, p.nextSeq, second⟩], p.nextSeq + 1⟩

variable {p p' : Pool} {skyAddr : String} {second : Int} {events : List Event}

/-- A pool answers at once, so that no call of it is cut off. -/
theorem bind_of_within {limit : Nat} (hlimit : 0 < limit) {result? : Option (Except BackendFault String)}
    (hended : (p.bind skyAddr second).within limit = ⟨result?, p', events⟩) :
    ∃ result, result? = some result ∧ p.bind skyAddr second = .atOnce result p' events := by
  have hatOnce : ∃ result q said, p.bind skyAddr second = .atOnce result q said := by
    unfold bind
    split
    · exact ⟨_, _, _, rfl⟩
    · split <;> exact ⟨_, _, _, rfl⟩
  obtain ⟨result, q, said, hcall⟩ := hatOnce
  rw [hcall, Called.within_atOnce hlimit] at hended
  cases hended
  exact ⟨result, rfl, hcall⟩

theorem eq_of_bind_error {refusal : BackendFault}
    (hcall : p.bind skyAddr second = .atOnce (.error refusal) p' events) : p' = p := by
  cases hfound : p.binding? skyAddr with
  | some b => simp [bind_eq_of_bound hfound, Called.atOnce_inj] at hcall
  | none =>
      cases hfree : p.free with
      | nil =>
          rw [bind_eq_of_exhausted hfound hfree, Called.atOnce_inj] at hcall
          exact hcall.2.1.symm
      | cons addr free => simp [bind_eq_of_free hfound hfree, Called.atOnce_inj] at hcall

/-- A binding that succeeds finds the sky address bound, or hands out the first free address. -/
theorem cases_of_bind_ok {depositAddr : String}
    (hcall : p.bind skyAddr second = .atOnce (.ok depositAddr) p' events) :
    (∃ b, p.binding? skyAddr = some b ∧ b.depositAddr = depositAddr ∧ p' = p) ∨
      p.binding? skyAddr = none ∧ ∃ free, p.free = depositAddr :: free ∧
        p' = ⟨free, p.bindings ++ [⟨skyAddr, depositAddr, p.nextSeq, second⟩], p.nextSeq + 1⟩ := by
  cases hfound : p.binding? skyAddr with
  | some b =>
      rw [bind_eq_of_bound hfound, Called.atOnce_inj] at hcall
      obtain ⟨hok, rfl, -⟩ := hcall
      exact .inl ⟨b, rfl, Except.ok.inj hok, rfl⟩
  | none =>
      cases hfree : p.free with
      | nil => simp [bind_eq_of_exhausted hfound hfree, Called.atOnce_inj] at hcall
      | cons addr free =>
          rw [bind_eq_of_free hfound hfree, Called.atOnce_inj] at hcall
          obtain ⟨hok, rfl, -⟩ := hcall
          obtain rfl := Except.ok.inj hok
          exact .inr ⟨rfl, free, rfl, rfl⟩

theorem handsOut_of_bind_ok {depositAddr : String} (hnew : p.binding? skyAddr = none)
    (hcall : p.bind skyAddr second = .atOnce (.ok depositAddr) p' events) :
    HandsOut skyAddr second p p' := by
  obtain ⟨b, hfound, -⟩ | ⟨-, free, hfree, rfl⟩ := cases_of_bind_ok hcall
  · simp [hnew] at hfound
  · exact ⟨depositAddr, free, hfree, rfl⟩

theorem eq_of_bind_ok {depositAddr : String} (hbound : p.binding? skyAddr ≠ none)
    (hcall : p.bind skyAddr second = .atOnce (.ok depositAddr) p' events) : p' = p := by
  obtain ⟨-, -, -, rfl⟩ | ⟨hnew, -⟩ := cases_of_bind_ok hcall
  · rfl
  · exact absurd hnew hbound

theorem Allocated.of_handsOut {addresses : List String} {hs : List Holder}
    (h : Allocated addresses hs p) (hnew : p.binding? skyAddr = none)
    (hout : HandsOut skyAddr second p p') : Allocated addresses (hs ++ [(skyAddr, second)]) p' := by
  obtain ⟨addr, free, hfree, rfl⟩ := hout
  exact h.hand_out hnew hfree second

end Pool

/-! ## One request -/

namespace Gate

variable {moment : Moment} {request : Request} {status : Nat} {p : Pool}

/-- A request to bind is answered with a binding that the pool does not have yet. -/
structure NewBinding (request : Request) (status : Nat) (p : Pool) (m : BindRequest) : Prop where
  method : request.method = "POST"
  path : request.uri.path = "/api/bind"
  answered : status = 200
  message : BindRequest.ofJson request.body = .ok m
  unbound : p.binding? m.skyAddr = none

/-- What a request that is answered with a status may make of the pool. -/
inductive PoolStep (moment : Moment) (request : Request) (status : Nat) (p : Pool) : Pool → Prop where
  | moved {m : BindRequest} {p' : Pool} (hnew : NewBinding request status p m)
      (hout : Pool.HandsOut m.skyAddr moment.second p p') : PoolStep moment request status p p'
  | kept (hnone : ∀ m, ¬NewBinding request status p m) : PoolStep moment request status p p

theorem PoolStep.of_ne_200 (h : status ≠ 200) : PoolStep moment request status p p :=
  .kept fun _ hnew ↦ h hnew.answered

theorem PoolStep.of_ofPath_ne_bind (h : Route.ofPath request.uri.path ≠ .bind) :
    PoolStep moment request status p p :=
  .kept fun _ hnew ↦ h (by rw [hnew.path]; rfl)

theorem ApiError.status_ne_200 (fault : ApiError) : fault.status ≠ 200 := by
  have hle := fault.le_status
  omega

theorem bindMessage_eq_ok {m : BindRequest} (h : bindMessage request = .ok m) :
    request.method = "POST" ∧ BindRequest.ofJson request.body = .ok m := by
  unfold bindMessage at h
  split at h
  next => cases h
  next hmethod =>
    split at h
    · cases h
    · split at h
      · cases h
      · cases hjson : BindRequest.ofJson request.body with
        | error fault => simp [hjson, Except.mapError] at h
        | ok m' =>
            rw [hjson] at h
            cases h
            exact ⟨not_not.mp hmethod, rfl⟩

/-- The status of an answer that is given in time, or else that of a request that takes too long. -/
def statusInTime (answer : Option (Except ApiError Datum)) : Nat :=
  match answer with
  | some answer => (answerResponse answer).status
  | none => ApiError.requestTimeout.status

theorem status_inTime_admitted {σ : Type} (h : Handled σ) {τ : Type} (s' : τ) (route : Route)
    (events : List Event) :
    (inTime ⟨(h.answer.map answerResponse).map (finished request route), s', events⟩).response.status =
      statusInTime h.answer := by
  cases hanswer : h.answer <;> simp [inTime, statusInTime]

theorem bind_of_bindEnded {e : Endpoints Pool} (hbackend : e.backend = Pool.backend) {m : BindRequest}
    {result : Except BackendFault String} {p' : Pool} {events : List Event}
    (hended : e.bindEnded moment m p = ⟨some result, p', events⟩) :
    p.bind m.skyAddr moment.second = .atOnce result p' events := by
  rw [Endpoints.bindEnded, hbackend] at hended
  obtain ⟨_, hresult, hcall⟩ := Pool.bind_of_within (by decide) hended
  obtain rfl := Option.some.inj hresult
  exact hcall

theorem poolStep_of_bindOutcome {e : Endpoints Pool} (hbackend : e.backend = Pool.backend)
    (hpath : request.uri.path = "/api/bind") {h : Handled Pool}
    (houtcome : BindOutcome e moment request p h) :
    PoolStep moment request (statusInTime h.answer) p h.state := by
  cases houtcome with
  | unread | incomplete | unadmitted =>
      refine .of_ne_200 ?_
      simp [statusInTime, answerResponse, ApiError.status_ne_200]
  | late hready hended =>
      rw [Endpoints.bindEnded, hbackend] at hended
      obtain ⟨result, hresult, -⟩ := Pool.bind_of_within (by decide) hended
      cases hresult
  | refused hready hended =>
      rw [Pool.eq_of_bind_error (bind_of_bindEnded hbackend hended)]
      refine .of_ne_200 ?_
      simp [statusInTime, answerResponse, ApiError.status_ne_200]
  | @bound m coin depositAddr p' events hready hended =>
      have hcall := bind_of_bindEnded hbackend hended
      obtain ⟨hmethod, hjson⟩ := bindMessage_eq_ok hready.message
      by_cases hnew : p.binding? m.skyAddr = none
      · exact .moved ⟨hmethod, hpath, rfl, hjson, hnew⟩ (Pool.handsOut_of_bind_ok hnew hcall)
      -- A sky address that is bound gets its address again: the answer is 200, but no new binding.
      · obtain rfl : p' = p := Pool.eq_of_bind_ok hnew hcall
        refine .kept fun m' hnew' ↦ hnew ?_
        obtain rfl : m = m' := by
          simpa using hjson.symm.trans hnew'.message
        exact hnew'.unbound

theorem state_of_lookupOutcome {e : Endpoints Pool} (hbackend : e.backend = Pool.backend)
    {h : Handled Pool} (houtcome : LookupOutcome e moment request p h) : h.state = p := by
  have hstate (skyAddr : String) : (e.lookupEnded skyAddr p).state = p := by
    rw [Endpoints.lookupEnded, hbackend]
    rfl
  cases houtcome with
  | unread | unadmitted => rfl
  | late hready hended | refused hready hended | found hready hended =>
      exact (congrArg Ended.state hended).symm.trans (hstate _)

variable {g : Gate Pool} {s : State Pool}

theorem poolStep_of_course (hbackend : g.endpoints.backend = Pool.backend)
    {a : Attempt (State Pool)} (hcourse : Course g moment request s a) :
    PoolStep moment request (inTime a).response.status s.backend (inTime a).state.backend := by
  rw [inTime_state]
  cases hcourse with
  | limited hl hfull hkept =>
      rw [hkept]
      refine .of_ne_200 ?_
      simp [inTime, ApiError.status]
  | @admitted route h s' hroute hroom hhandled hleft =>
      rw [status_inTime_admitted, hleft]
      cases route with
      | bind =>
          obtain rfl : g.endpoints.bind moment request s.backend = h := Option.some.inj hhandled
          exact poolStep_of_bindOutcome hbackend (path_eq_of_ofPath_eq_bind hroute)
            (bindOutcome g.endpoints moment request s.backend)
      | lookup =>
          obtain rfl : g.endpoints.lookup moment request s.backend = h := Option.some.inj hhandled
          rw [state_of_lookupOutcome hbackend (lookupOutcome g.endpoints moment request s.backend)]
          exact .of_ofPath_ne_bind (by simp [hroute])
      | site => cases hhandled
  | served hsite => exact .of_ofPath_ne_bind (by simp [hsite])

/-- What one request makes of the pool. -/
theorem poolStep_reply (hbackend : g.endpoints.backend = Pool.backend) (moment : Moment)
    (request : Request) (s : State Pool) :
    PoolStep moment request (g.reply moment request s).response.status s.backend
      (g.reply moment request s).state.backend := by
  rw [status_reply, reply_state]
  cases hverdict : g.options.verdict request with
  | forward =>
      rw [check_of_forward hverdict]
      exact poolStep_of_course hbackend (course g moment request s)
  | badHost =>
      rw [check_of_badHost hverdict]
      exact .of_ne_200 (by simp [SecurityOptions.rejection, ApiError.status])
  | redirect location =>
      rw [check_of_redirect hverdict, SecurityOptions.redirection]
      split <;> exact .of_ne_200 (by simp [Http.Response.bare, ApiError.status])

/-! ## Sequences of requests -/

/-- Every request of a sequence is answered, and the pool that those before it have left changes exactly
if the answer is a new binding. -/
theorem replies_pool (c : ServerConfig) (validate : String → Except SkyAddress.Fault Unit)
    (site : Option Site.Tree) (s : State Pool) (earlier later : List (Moment × Request))
    (moment : Moment) (request : Request) :
    ∃ reply, ((ofConfig c Pool.backend validate site).replies s
        (earlier ++ (moment, request) :: later))[earlier.length]? = some reply ∧
      PoolStep moment request reply.response.status
        ((ofConfig c Pool.backend validate site).after s earlier).backend reply.state.backend :=
  ⟨_, getElem?_replies_append _ s earlier later (moment, request), poolStep_reply rfl moment request _⟩

def asks (method client body : String) : Moment × Request :=
  (⟨⟨1, 0⟩, 1⟩, ⟨method, ⟨none, none, "/api/bind"⟩,
    [("x-real-ip", client), ("content-type", "application/json")], Text.utf8 body, none, none⟩)

def bindBody (skyAddr : String) : String :=
  "\x7b\"skyaddr\":\"" ++ skyAddr ++ "\",\"coin_type\":\"BTC\"\x7d"

/-- A request over the cap, one of the wrong method and one for a sky address that is bound already do not
cost an address. -/
example :
    ((ofConfig tightConfig Pool.backend (fun _ ↦ .ok ()) none).after
      ⟨⟨1, []⟩, ⟨1, []⟩, .ofList ["x", "y"]⟩
      [asks "POST" "a" (bindBody "s"), asks "POST" "a" (bindBody "t"), asks "PUT" "b" (bindBody "t"),
        asks "POST" "c" (bindBody "s")]).backend = ⟨["y"], [⟨"s", "x", 0, 1⟩], 1⟩ := by
  decide +kernel

theorem allocated_reply (hbackend : g.endpoints.backend = Pool.backend) {addresses : List String}
    {hs : List Pool.Holder} (h : Pool.Allocated addresses hs s.backend) (moment : Moment) (request : Request) :
    ∃ hs', hs <+: hs' ∧ Pool.Allocated addresses hs' (g.reply moment request s).state.backend := by
  have hstep := poolStep_reply hbackend moment request s
  generalize (g.reply moment request s).state.backend = p' at hstep ⊢
  cases hstep with
  | moved hnew hout => exact ⟨_, List.prefix_append _ _, h.of_handsOut hnew.unbound hout⟩
  | kept => exact ⟨hs, List.prefix_rfl, h⟩

/-- Pools that hand out addresses go on doing so: holders keep their places, and new ones join them. -/
theorem allocated_after_requests (hbackend : g.endpoints.backend = Pool.backend)
    {addresses : List String} {hs : List Pool.Holder} (h : Pool.Allocated addresses hs s.backend)
    (requests : List (Moment × Request)) :
    ∃ hs', hs <+: hs' ∧ Pool.Allocated addresses hs' (g.after s requests).backend := by
  induction requests using List.reverseRecOn with
  | nil => exact ⟨hs, List.prefix_rfl, h⟩
  | append_singleton requests entry ih =>
      obtain ⟨hs₁, hprefix, h₁⟩ := ih
      rw [after_concat]
      obtain ⟨hs₂, hprefix', h₂⟩ := allocated_reply hbackend h₁ entry.1 entry.2
      exact ⟨hs₂, hprefix.trans hprefix', h₂⟩

end Gate

end DepositGate
