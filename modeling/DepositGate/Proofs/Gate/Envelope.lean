import DepositGate.Proofs.Gate.Course

/-!
# Rejections on the wire

A rejection is sent in an envelope that tells its status and its wording. What is wrapped around a response
changes neither its status nor, unless it is an answer to HEAD, the body of a rejection, and sets each of
the defensive headers once.
-/

namespace DepositGate

open Http (Request Response Headers)

/-! ## Headers of a name -/

namespace Http.Headers

variable (headers : Headers) (name value : String)

@[simp] theorem all_append (headers' : Headers) :
    all (headers ++ headers') name = headers.all name ++ headers'.all name := by
  simp [all]

@[simp] theorem all_erase_self : (headers.erase name).all name = [] := by
  simp only [all, erase, List.filter_filter, List.map_eq_nil_iff, List.filter_eq_nil_iff]
  simp

theorem all_erase_of_ne {name other : String} (h : other ≠ name) :
    (headers.erase name).all other = headers.all other := by
  simp only [all, erase, List.filter_filter]
  congr 2
  funext header
  by_cases hother : header.1 = other <;> simp [hother, h]

@[simp] theorem all_set_self : (headers.set name value).all name = [value] := by
  rw [set, all_append, all_erase_self]
  simp [all]

theorem all_set_of_ne {name other : String} (h : other ≠ name) :
    (headers.set name value).all other = headers.all other := by
  rw [set, all_append, all_erase_of_ne headers h]
  simp [all, h.symm]

end Http.Headers

/-! ## What is wrapped around a response -/

namespace Http.Response

variable (r : Response) (name value method : String) (requestHeaders : Headers)

@[simp] theorem body_measured : r.measured.body = r.body := by
  unfold measured
  split <;> rfl

@[simp] theorem content_negotiated :
    (r.negotiated requestHeaders).body.content = r.body.content := by
  unfold negotiated
  split
  · rfl
  · split <;> rfl

@[simp] theorem headers_stripped : (r.stripped method).headers = r.headers := by
  unfold stripped
  split <;> rfl

theorem stripped_eq_self {method : String} (hmethod : method ≠ "HEAD")
    (hstatus : method = "CONNECT" → 300 ≤ r.status) : r.stripped method = r := by
  have htunnel : r.opensTunnel method = false := by
    by_cases hconnect : method = "CONNECT"
    · simp [opensTunnel, Nat.not_lt.mpr (hstatus hconnect)]
    · simp [opensTunnel, hconnect]
  simp [stripped, hmethod, htunnel]

theorem all_measured {name : String} (h : name ≠ "content-length") :
    r.measured.headers.all name = r.headers.all name := by
  unfold measured
  split
  · rfl
  · simp [Headers.all, h.symm]

theorem all_framed {name : String} (h : name ≠ "content-length") :
    (r.framed method).headers.all name = r.headers.all name := by
  unfold framed
  split
  · rw [headers_stripped]
  · rw [headers_stripped, all_measured r h]

theorem body_framed {method : String} (hmethod : method ≠ "HEAD")
    (hstatus : method = "CONNECT" → 300 ≤ r.status) : (r.framed method).body = r.body := by
  unfold framed
  split
  · rw [stripped_eq_self r hmethod hstatus]
  · rw [stripped_eq_self r.measured hmethod (by rwa [status_measured]), body_measured]

theorem body_foldl_setHeader (headers : Headers) :
    (headers.foldl (fun r (name, value) ↦ r.setHeader name value) r).body = r.body := by
  induction headers generalizing r with
  | nil => rfl
  | cons header headers ih => exact ih _

theorem all_foldl_setHeader_of_notMem {headers : Headers} {other : String}
    (h : other ∉ headers.map Prod.fst) :
    (headers.foldl (fun r (name, value) ↦ r.setHeader name value) r).headers.all other =
      r.headers.all other := by
  induction headers generalizing r with
  | nil => rfl
  | cons header headers ih =>
      obtain ⟨hne, hrest⟩ := List.ne_and_not_mem_of_not_mem_cons h
      exact (ih _ hrest).trans (Headers.all_set_of_ne _ _ hne)

/-- Headers of different names that are set one after another stand once each. -/
theorem all_foldl_setHeader {headers : Headers} (hnodup : (headers.map Prod.fst).Nodup)
    {header : String × String} (hmem : header ∈ headers) :
    (headers.foldl (fun r (name, value) ↦ r.setHeader name value) r).headers.all header.1 =
      [header.2] := by
  induction headers generalizing r with
  | nil => cases hmem
  | cons first headers ih =>
      obtain ⟨hnotMem, hnodup⟩ := List.nodup_cons.mp hnodup
      rcases List.mem_cons.mp hmem with rfl | hmem
      · exact (all_foldl_setHeader_of_notMem _ hnotMem).trans (Headers.all_set_self _ _ _)
      · exact ih _ hnodup hmem

end Http.Response

namespace Gate

variable {σ : Type} {g : Gate σ} {moment : Moment} {request : Request} {s : State σ}

@[simp] theorem body_defended (r : Response) : (defended r).body = r.body :=
  Response.body_foldl_setHeader r defensiveHeaders

theorem all_defended (r : Response) {header : String × String} (hmem : header ∈ defensiveHeaders) :
    (defended r).headers.all header.1 = [header.2] :=
  Response.all_foldl_setHeader r (by decide) hmem

theorem ne_contentLength_of_mem {header : String × String} (hmem : header ∈ defensiveHeaders) :
    header.1 ≠ "content-length" := by
  revert header
  decide

/-- Every response has each of the defensive headers once and with its value. -/
theorem all_reply (g : Gate σ) (moment : Moment) (request : Request) (s : State σ)
    {header : String × String} (hmem : header ∈ defensiveHeaders) :
    (g.reply moment request s).response.headers.all header.1 = [header.2] := by
  unfold reply
  split
  · exact (Response.all_framed _ _ (ne_contentLength_of_mem hmem)).trans (all_defended _ hmem)
  · exact (congrArg (Headers.all · header.1) (Response.headers_stripped _ _)).trans
      (all_defended _ hmem)

/-- What is sent is the body of the response, unless it answers HEAD or opens a tunnel. -/
theorem body_reply_of_sent (g : Gate σ) (moment : Moment) (s : State σ) (hmethod : request.method ≠ "HEAD")
    (hstatus : request.method = "CONNECT" → 300 ≤ (g.reply moment request s).response.status) :
    (g.reply moment request s).response.body =
      (g.options.check request (fun s ↦ inTime (g.route moment request s)) s).response.body := by
  rw [status_reply] at hstatus
  unfold reply
  split
  · exact (Response.body_framed _ hmethod (by rwa [status_defended])).trans (body_defended _)
  · dsimp only
    rw [Response.stripped_eq_self _ hmethod (by rwa [status_defended]), body_defended]

theorem body_reply (g : Gate σ) (moment : Moment) (s : State σ) (hmethod : request.method ≠ "HEAD")
    (hstatus : 300 ≤ (g.reply moment request s).response.status) :
    (g.reply moment request s).response.body =
      (g.options.check request (fun s ↦ inTime (g.route moment request s)) s).response.body :=
  body_reply_of_sent g moment s hmethod fun _ ↦ hstatus

@[simp] theorem content_finished (request : Request) (route : Route) (r : Response) :
    (finished request route r).body.content = r.body.content := by
  unfold finished
  split
  · rw [Response.content_negotiated]
    rfl
  · exact Response.content_negotiated r request.headers
  · exact Response.content_negotiated r request.headers

/-! ## Envelopes -/

def envelope (code : Nat) (message : String) : List UInt8 :=
  Text.utf8 "\x7b\"error\":\x7b\"code\":" ++ Text.utf8 (toString code) ++
    Text.utf8 ",\"message\":" ++ Json.encodeText message ++ Text.utf8 "\x7d\x7d"

theorem encode_toDatum (e : ApiError) : Json.encode e.toDatum = envelope e.status e.message := by
  have hopening : Text.utf8 "\x7b\"error\":\x7b\"code\":" =
      0x7B :: Json.encodeText "error" ++ 0x3A :: 0x7B :: Json.encodeText "code" ++ [0x3A] := by
    decide +kernel
  have hmiddle : Text.utf8 ",\"message\":" = 0x2C :: Json.encodeText "message" ++ [0x3A] := by
    decide +kernel
  have hclosing : Text.utf8 "\x7d\x7d" = [0x7D, 0x7D] := by decide +kernel
  have hcode : toString (e.status : Int) = toString e.status := rfl
  simp [ApiError.toDatum, envelope, Json.encode, Json.encodeMembers, Json.commaSeparated, hopening,
    hmiddle, hclosing, hcode]

/-- A response that rejects a request: the status of the fault, in the envelope too. -/
structure Rejects (e : ApiError) (r : Response) : Prop where
  status : r.status = e.status
  content : r.body.content = envelope e.status e.message

theorem rejects_response (e : ApiError) : Rejects e e.response where
  status := ApiError.status_response e
  content := by
    rw [← encode_toDatum]
    cases e <;> rfl

theorem Rejects.negotiated {e : ApiError} {r : Response} (h : Rejects e r) (headers : Headers) :
    Rejects e (r.negotiated headers) :=
  ⟨(Response.status_negotiated r headers).trans h.status,
    (Response.content_negotiated r headers).trans h.content⟩

theorem Rejects.finished {e : ApiError} {r : Response} (h : Rejects e r) (request : Request)
    (route : Route) : Rejects e (finished request route r) :=
  ⟨(status_finished request route r).trans h.status, (content_finished request route r).trans h.content⟩

end Gate

end DepositGate
