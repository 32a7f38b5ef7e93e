import DepositGate.Proofs.Gate.Account
import DepositGate.Proofs.Gate.Deposits
import DepositGate.Proofs.Message.RoundTrip

/-!
# What clients get of the results of the backend

A request that passes all checks is answered with the result of the backend. `results_reach_client` says
that the client can read it back as it was: the list of statuses, the deposit address with its coin, or the
wording of the fault.
-/

namespace DepositGate

open Http (Request Response)

namespace Gate

variable {σ : Type} {g : Gate σ} {moment : Moment} {request : Request} {s : State σ}

/-! ## Answers of the endpoints -/

/-- A request for which there is room gets the status and the bytes of the answer of its endpoint. -/
theorem reply_of_answer (hforward : g.options.verdict request = .forward) (hroom : HasRoom s request)
    (hhead : request.method ≠ "HEAD") (hconnect : request.method ≠ "CONNECT") {h : Handled σ}
    (hhandled : g.handled moment request s.backend (Route.ofPath request.uri.path) = some h)
    {answer : Except ApiError Datum} (hanswer : h.answer = some answer) :
    (g.reply moment request s).response.status = (answerResponse answer).status ∧
      (g.reply moment request s).response.body.content = (answerResponse answer).body.content := by
  rw [status_reply, body_reply_of_sent g moment s hhead (absurd · hconnect), check_of_forward hforward]
  have hcourse := course g moment request s
  generalize g.route moment request s = a at hcourse
  cases hcourse with
  | limited hl hfull hbackend => exact absurd hroom (not_hasRoom_of_le hl hfull)
  | @admitted route h' s' hroute _ hhandled' hbackend =>
      rw [hroute, hhandled'] at hhandled
      obtain rfl := Option.some.inj hhandled
      simp [inTime, hanswer]
  | served hsite => exact absurd hsite (ofPath_ne_site_of_hasRoom hroom)

/-! ## Results as clients read them -/

theorem plain_toDatum (e : ApiError) : Json.Plain Json.maxDepth e.toDatum := by
  have hstatus : e.status ≤ 500 := by cases e <;> simp [ApiError.status]
  have hnames : (["code", "message"] : List String).Pairwise (· < ·) := by decide +kernel
  refine .table (fun member hmember ↦ ?_) (List.pairwise_singleton _ _)
  obtain rfl := List.mem_singleton.mp hmember
  refine .table (fun member hmember ↦ ?_) hnames
  rcases List.mem_cons.mp hmember with rfl | hmember
  · exact .int _ (by omega) (by omega)
  · obtain rfl := List.mem_singleton.mp hmember
    exact .text _ _

/-- The envelope of a rejection is read back as its status and its wording. -/
theorem read_content_response (e : ApiError) : Json.read e.response.body.content = .ok e.toDatum := by
  rw [(rejects_response e).content, ← encode_toDatum]
  exact Json.read_encode (plain_toDatum e)

/-- A response from which a client reads the result of a backend: an answer that is read back, or an
envelope with the wording of the fault. -/
def Delivers {α β : Type} (ofJson : List UInt8 → Except Json.Fault β) (answer : α → β)
    (result : Except BackendFault α) (r : Response) : Prop :=
  match result with
  | .ok a => r.status = 200 ∧ ofJson r.body.content = .ok (answer a)
  | .error fault => r.status = 400 ∧ Json.read r.body.content =
      .ok (.table [("error", .table [("code", .int 400), ("message", .text fault.message)])])

/-- What an endpoint answers with the result of a backend. -/
def answerOf {α : Type} (toDatum : α → Datum) (result : Except BackendFault α) : Except ApiError Datum :=
  (result.map toDatum).mapError .service

theorem delivers_answerOf {α β : Type} {ofJson : List UInt8 → Except Json.Fault β} {answer : α → β}
    {toDatum : β → Datum} {result : Except BackendFault α} {r : Response}
    (hread : ∀ a, result = .ok a → ofJson (Json.encode (toDatum (answer a))) = .ok (answer a))
    (hstatus : r.status = (answerResponse (answerOf (toDatum ∘ answer) result)).status)
    (hcontent : r.body.content = (answerResponse (answerOf (toDatum ∘ answer) result)).body.content) :
    Delivers ofJson answer result r := by
  cases result with
  | ok a =>
      refine ⟨hstatus, ?_⟩
      rw [hcontent]
      exact hread a rfl
  | error fault =>
      refine ⟨hstatus, ?_⟩
      rw [hcontent]
      exact read_content_response (.service fault)

/-! ## Main result -/

theorem method_of_lookupAddress {skyAddr : String} (h : lookupAddress request = .ok skyAddr) :
    request.method = "GET" := by
  by_contra hmethod
  rw [lookupAddress, if_pos hmethod] at h
  cases h

theorem answer_lookup_of_ready {e : Endpoints σ} {skyAddr : String} (hready : LookupReady e moment request skyAddr)
    {state : σ} (hintime : (e.backend.statuses skyAddr state).duration < requestTimeout) :
    (e.lookup moment request state).answer =
      some (answerOf (StatusReply.toDatum ∘ StatusReply.mk) (e.backend.statuses skyAddr state).result) := by
  rw [lookup_of_lookupReady hready, Endpoints.lookupEnded, Called.within_of_lt hintime]
  cases (e.backend.statuses skyAddr state).result <;> rfl

theorem answer_bind_of_ready {e : Endpoints σ} {m : BindRequest} {coin : Coin}
    (hready : BindReady e moment request m coin) {state : σ}
    (hintime : (e.backend.bind m.skyAddr moment.second state).duration < requestTimeout) :
    (e.bind moment request state).answer =
      some (answerOf (BindReply.toDatum ∘ (BindReply.mk · coin))
        (e.backend.bind m.skyAddr moment.second state).result) := by
  rw [bind_of_bindReady hready, Endpoints.bindEnded, Called.within_of_lt hintime]
  cases (e.backend.bind m.skyAddr moment.second state).result <;> rfl

theorem code_of_messageCoin {m : BindRequest} {coin : Coin} (h : messageCoin m = .ok coin) :
    m.coinCode = coin.code := by
  unfold messageCoin at h
  split at h
  · cases h
  split at h
  · cases h
  split at h
  · next coin' hcoin =>
      obtain rfl := Except.ok.inj h
      exact Coin.ofCode?_eq_some_iff.mp hcoin
  · cases h

theorem content_answerResponse_nil :
    (answerResponse (answerOf (StatusReply.toDatum ∘ StatusReply.mk) (.ok []))).body.content =
      Text.utf8 "\x7b\"statuses\":[]\x7d" := by
  decide +kernel

/-- For a request that is forwarded, for which there is room and whose call is over in time, the client reads
the result of the backend from the response: the list of statuses as it was found, be it empty, the deposit
address as it was bound with the coin that was asked for, and otherwise the wording of the fault. -/
theorem results_reach_client (g : Gate σ) (moment : Moment) (s : State σ)
    (hforward : g.options.verdict request = .forward) (hroom : HasRoom s request) :
    (∀ skyAddr, request.uri.path = "/api/status" → LookupReady g.endpoints moment request skyAddr →
      let called := g.endpoints.backend.statuses skyAddr s.backend
      called.duration < requestTimeout →
      (∀ statuses, called.result = .ok statuses → ∀ status ∈ statuses, status.Fits) →
        Delivers StatusReply.ofJson StatusReply.mk called.result (g.reply moment request s).response ∧
          (called.result = .ok [] → (g.reply moment request s).response.body.content =
            Text.utf8 "\x7b\"statuses\":[]\x7d")) ∧
      ∀ m coin, request.uri.path = "/api/bind" → BindReady g.endpoints moment request m coin →
        let called := g.endpoints.backend.bind m.skyAddr moment.second s.backend
        called.duration < requestTimeout →
        m.coinCode = coin.code ∧
          Delivers BindReply.ofJson (BindReply.mk · coin) called.result
            (g.reply moment request s).response := by
  constructor
  · intro skyAddr hpath hready called hintime hfits
    have hmethod := method_of_lookupAddress hready.address
    have hhandled : g.handled moment request s.backend (Route.ofPath request.uri.path) =
        some (g.endpoints.lookup moment request s.backend) := by
      rw [hpath]
      rfl
    obtain ⟨hstatus, hcontent⟩ := reply_of_answer hforward hroom (by simp [hmethod]) (by simp [hmethod])
      hhandled (answer_lookup_of_ready hready hintime)
    refine ⟨delivers_answerOf (fun statuses hstatuses ↦ ?_) hstatus hcontent, fun hnil ↦ ?_⟩
    · exact StatusReply.ofJson_encode (hfits statuses hstatuses)
    · rw [hcontent, ← content_answerResponse_nil]
      exact congrArg (fun r ↦ (answerResponse (answerOf _ r)).body.content) hnil
  · intro m coin hpath hready called hintime
    have hmethod := (bindMessage_eq_ok hready.message).1
    have hhandled : g.handled moment request s.backend (Route.ofPath request.uri.path) =
        some (g.endpoints.bind moment request s.backend) := by
      rw [hpath]
      rfl
    obtain ⟨hstatus, hcontent⟩ := reply_of_answer hforward hroom (by simp [hmethod]) (by simp [hmethod])
      hhandled (answer_bind_of_ready hready hintime)
    refine ⟨code_of_messageCoin hready.coin, delivers_answerOf (fun depositAddr _ ↦ ?_) hstatus hcontent⟩
    exact BindReply.ofJson_encode ⟨depositAddr, coin⟩

/-- A status with the least and the greatest number that it can have and a text that is escaped. -/
def extremeStatus : DepositStatus :=
  ⟨0xffffffffffffffff, -0x8000000000000000, "\"é\\\n\u0001𝄞"⟩

theorem fits_extremeStatus : extremeStatus.Fits := by
  constructor <;> decide

def gateTo (bound : Except BackendFault String) (statuses : Except BackendFault (List DepositStatus)) :
    Gate Unit :=
  ofConfig tightConfig (.constant 0 bound statuses) (fun _ ↦ .ok ()) none

theorem extreme_results_reach_client :
    let s : State Unit := ⟨⟨1, []⟩, ⟨1, []⟩, ()⟩
    let lookup : Request :=
      ⟨"GET", ⟨none, none, "/api/status?skyaddr=a"⟩, [("accept-encoding", "gzip")], [], none, none⟩
    let bind := asks "POST" "c" (bindBody "a")
    StatusReply.ofJson
        ((gateTo (.ok "") (.ok [extremeStatus])).reply bind.1 lookup s).response.body.content =
        .ok ⟨[extremeStatus]⟩ ∧
      BindReply.ofJson ((gateTo (.ok "\"é") (.ok [])).reply bind.1 bind.2 s).response.body.content =
        .ok ⟨"\"é", .btc⟩ ∧
      Json.read ((gateTo (.error (.failed "\"é")) (.ok [])).reply bind.1 bind.2 s).response.body.content =
        .ok (.table [("error", .table [("code", .int 400), ("message", .text "\"é")])]) := by
  intro s lookup bind
  have hready (bound) : BindReady (gateTo bound (.ok [])).endpoints bind.1 bind.2 ⟨"a", "BTC"⟩ .btc :=
    ⟨by decide +kernel, by decide, rfl⟩
  have hforward (bound) : (gateTo bound (.ok [])).options.verdict bind.2 = .forward := rfl
  have hroom : HasRoom s bind.2 := by decide
  refine ⟨?_, ?_, ?_⟩
  · have hlookup : LookupReady (gateTo (.ok "") (.ok [extremeStatus])).endpoints bind.1 lookup "a" :=
      ⟨by decide +kernel, rfl⟩
    have hresults := results_reach_client (gateTo (.ok "") (.ok [extremeStatus])) bind.1 s
      (show _ = _ from rfl) (show HasRoom s lookup by decide)
    refine (hresults.1 "a" (by decide) hlookup (by decide) ?_).1.2
    rintro _ ⟨⟩
    exact List.forall_mem_singleton.mpr fits_extremeStatus
  · have hresults := results_reach_client (gateTo (.ok "\"é") (.ok [])) bind.1 s (hforward _) hroom
    exact (hresults.2 _ _ (by decide) (hready _) (by decide)).2.2
  · have hresults := results_reach_client (gateTo (.error (.failed "\"é")) (.ok [])) bind.1 s (hforward _)
      hroom
    exact (hresults.2 _ _ (by decide) (hready _) (by decide)).2.2

end Gate

end DepositGate
