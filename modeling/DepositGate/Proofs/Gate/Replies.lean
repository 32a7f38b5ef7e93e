import Mathlib.Data.List.Induction
import DepositGate.Gate.Router

/-!
# Replies to one request after another

What is wrapped around an answer changes its headers and its body, but neither its status nor the state
that it leaves. A request that the security check does not forward leaves the state as it is.
-/

namespace DepositGate

open Http (Request Response)

/-! ## The status of a response -/

namespace Http.Response

variable (r : Response) (name value method : String) (requestHeaders : Headers)

@[simp] theorem status_setHeader : (r.setHeader name value).status = r.status := rfl

@[simp] theorem status_measured : r.measured.status = r.status := by
  unfold measured
  split <;> rfl

@[simp] theorem status_stripped : (r.stripped method).status = r.status := by
  unfold stripped
  split <;> rfl

@[simp] theorem status_framed : (r.framed method).status = r.status := by
  unfold framed
  split
  · exact status_stripped r method
  · rw [status_stripped, status_measured]

@[simp] theorem status_negotiated : (r.negotiated requestHeaders).status = r.status := by
  unfold negotiated
  split
  · rfl
  · split <;> rfl

end Http.Response

namespace Gate

variable {σ : Type} {g : Gate σ} {moment : Moment} {request : Request} {s : State σ}

@[simp] theorem status_defended (r : Response) : (defended r).status = r.status := rfl

@[simp] theorem ApiError.status_response (e : ApiError) : e.response.status = e.status := by
  cases e <;> rfl

theorem ApiError.le_status (e : ApiError) : 400 ≤ e.status := by
  cases e <;> simp [ApiError.status]

theorem ApiError.status_eq_429_iff {e : ApiError} : e.status = 429 ↔ e = .rateLimited := by
  cases e <;> simp [ApiError.status]

/-! ## One reply -/

theorem reply_state (g : Gate σ) (moment : Moment) (request : Request) (s : State σ) :
    (g.reply moment request s).state =
      (g.options.check request (fun s ↦ inTime (g.route moment request s)) s).state := by
  unfold reply
  split <;> rfl

theorem reply_events (g : Gate σ) (moment : Moment) (request : Request) (s : State σ) :
    (g.reply moment request s).events =
      (g.options.check request (fun s ↦ inTime (g.route moment request s)) s).events := by
  unfold reply
  split <;> rfl

theorem status_reply (g : Gate σ) (moment : Moment) (request : Request) (s : State σ) :
    (g.reply moment request s).response.status =
      (g.options.check request (fun s ↦ inTime (g.route moment request s)) s).response.status := by
  unfold reply
  split <;> simp

theorem check_of_forward (h : g.options.verdict request = .forward)
    (inner : State σ → Reply (State σ)) : g.options.check request inner s = inner s := by
  rw [SecurityOptions.check, h]

theorem check_state_of_ne_forward (h : g.options.verdict request ≠ .forward)
    (inner : State σ → Reply (State σ)) : (g.options.check request inner s).state = s := by
  unfold SecurityOptions.check
  split
  · contradiction
  · rfl
  · unfold SecurityOptions.redirection
    split <;> rfl

@[simp] theorem inTime_state (a : Attempt σ) : (inTime a).state = a.state := by
  unfold inTime
  split <;> rfl

/-! ## Endpoints behind their limiters -/

def bindAdmitted (g : Gate σ) (moment : Moment) (request : Request) (state : σ) : Attempt σ :=
  (logged request (g.endpoints.bind moment request state)).mapResponse
    (·.setHeader "accept" "application/json")

def lookupAdmitted (g : Gate σ) (moment : Moment) (request : Request) (state : σ) : Attempt σ :=
  logged request (g.endpoints.lookup moment request state)

theorem bind_eq_limited (g : Gate σ) (moment : Moment) (request : Request) (s : State σ) :
    g.bind moment request s =
      ((limited request (g.bindAdmitted moment request) s.bindLimiter s.backend).mapState
        fun p ↦ { s with bindLimiter := p.1, backend := p.2 }).mapResponse
          (·.negotiated request.headers) := rfl

theorem lookup_eq_limited (g : Gate σ) (moment : Moment) (request : Request) (s : State σ) :
    g.lookup moment request s =
      ((limited request (g.lookupAdmitted moment request) s.lookupLimiter s.backend).mapState
        fun p ↦ { s with lookupLimiter := p.1, backend := p.2 }).mapResponse
          (·.negotiated request.headers) := rfl

/-! ## Sequences of requests -/

def after (g : Gate σ) (s : State σ) (requests : List (Moment × Request)) : State σ :=
  requests.foldl (fun s entry ↦ (g.reply entry.1 entry.2 s).state) s

@[simp] theorem after_nil (g : Gate σ) (s : State σ) : g.after s [] = s := rfl

@[simp] theorem after_concat (g : Gate σ) (s : State σ) (requests : List (Moment × Request))
    (entry : Moment × Request) :
    g.after s (requests ++ [entry]) = (g.reply entry.1 entry.2 (g.after s requests)).state := by
  simp [after]

/-- Every request is answered in the state that those before it have left. -/
theorem getElem?_replies (g : Gate σ) (s : State σ) (requests : List (Moment × Request)) (i : Nat) :
    (g.replies s requests)[i]? = requests[i]?.map fun entry ↦
      g.reply entry.1 entry.2 (g.after s (requests.take i)) := by
  induction requests generalizing s i with
  | nil => rfl
  | cons entry requests ih =>
      cases i with
      | zero => rfl
      | succ i => exact ih _ i

theorem getElem?_replies_append (g : Gate σ) (s : State σ) (earlier later : List (Moment × Request))
    (entry : Moment × Request) :
    (g.replies s (earlier ++ entry :: later))[earlier.length]? =
      some (g.reply entry.1 entry.2 (g.after s earlier)) := by
  simp [getElem?_replies]

end Gate

end DepositGate
