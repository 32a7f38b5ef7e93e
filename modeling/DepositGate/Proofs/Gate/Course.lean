import DepositGate.Proofs.Gate.RateLimit

/-!
# The course of a request

A request that the security check forwards stops at its limiter, is handled by the endpoint of its path or
goes to the site, and nothing else. `Course` has a case for each, with what is left behind and what has
been said.
-/

namespace DepositGate.Gate

open Http (Request Response)

variable {σ : Type} {g : Gate σ} {moment : Moment} {request : Request} {s : State σ}

/-! ## Requests that are not forwarded -/

theorem check_of_badHost (h : g.options.verdict request = .badHost)
    (inner : State σ → Reply (State σ)) :
    g.options.check request inner s = SecurityOptions.rejection request s := by
  rw [SecurityOptions.check, h]

theorem check_of_redirect {location : String} (h : g.options.verdict request = .redirect location)
    (inner : State σ → Reply (State σ)) :
    g.options.check request inner s = SecurityOptions.redirection request location s := by
  rw [SecurityOptions.check, h]

/-! ## Requests that are forwarded -/

theorem path_eq_of_ofPath_eq_bind (h : Route.ofPath request.uri.path = .bind) :
    request.uri.path = "/api/bind" := by
  by_contra hne
  rw [Route.ofPath, if_neg hne] at h
  split at h <;> cases h

theorem path_eq_of_ofPath_eq_lookup (h : Route.ofPath request.uri.path = .lookup) :
    request.uri.path = "/api/status" := by
  by_contra hne
  rw [Route.ofPath, if_neg hne] at h
  split at h <;> cases h

def handled (g : Gate σ) (moment : Moment) (request : Request) (state : σ) : Route → Option (Handled σ)
  | .bind => some (g.endpoints.bind moment request state)
  | .lookup => some (g.endpoints.lookup moment request state)
  | .site => none

/-- The response of an endpoint as it leaves its route. -/
def finished (request : Request) (route : Route) (r : Response) : Response :=
  match route with
  | .bind => (r.setHeader "accept" "application/json").negotiated request.headers
  | .lookup | .site => r.negotiated request.headers

@[simp] theorem status_finished (request : Request) (route : Route) (r : Response) :
    (finished request route r).status = r.status := by
  unfold finished
  split <;> simp

/-- There is room for a request under the limiter of its route. -/
def HasRoom (s : State σ) (request : Request) : Prop :=
  ∃ l ∈ s.limiter? (Route.ofPath request.uri.path), l.count (clientKey request) < l.max

instance : Decidable (HasRoom s request) :=
  inferInstanceAs (Decidable (∃ l ∈ _, _))

inductive Course (g : Gate σ) (moment : Moment) (request : Request) (s : State σ) :
    Attempt (State σ) → Prop where
  | limited {l : Limiter} {s' : State σ}
      (hl : s.limiter? (Route.ofPath request.uri.path) = some l)
      (hfull : l.max ≤ l.count (clientKey request)) (hbackend : s'.backend = s.backend) :
      Course g moment request s
        ⟨some (ApiError.rateLimited.response.negotiated request.headers), s', [limitEvent request]⟩
  | admitted {route : Route} {h : Handled σ} {s' : State σ}
      (hroute : Route.ofPath request.uri.path = route) (hroom : HasRoom s request)
      (hhandled : g.handled moment request s.backend route = some h)
      (hbackend : s'.backend = h.state) :
      Course g moment request s
        ⟨(h.answer.map answerResponse).map (finished request route), s', (logged request h).events⟩
  | served (hsite : Route.ofPath request.uri.path = .site) :
      Course g moment request s ⟨some (Site.respond g.site request), s, []⟩

theorem course_of_hasRoom (hroom : HasRoom s request) :
    Course g moment request s (g.route moment request s) := by
  have hlt := hroom
  obtain ⟨l, hl, hlt⟩ := hlt
  unfold Gate.route
  cases hpath : Route.ofPath request.uri.path with
  | bind =>
      obtain rfl : s.bindLimiter = l := by simpa [hpath, State.limiter?] using hl
      let s' : State σ := ⟨(s.bindLimiter.check (clientKey request)).2, s.lookupLimiter,
        (g.endpoints.bind moment request s.backend).state⟩
      have hcourse : Course g moment request s ⟨_, s', _⟩ := .admitted hpath hroom rfl rfl
      -- The endpoint's own header is set before the response is negotiated.
      rw [Option.map_map] at hcourse
      simp only [bind_eq_limited, limited_of_lt hlt, bindAdmitted, Attempt.mapResponse,
        Attempt.mapState, logged, Option.map_map]
      exact hcourse
  | lookup =>
      obtain rfl : s.lookupLimiter = l := by simpa [hpath, State.limiter?] using hl
      simp only [lookup_eq_limited, limited_of_lt hlt]
      exact .admitted hpath hroom rfl rfl
  | site => simp [hpath, State.limiter?] at hl

/-- Every request that is forwarded takes one of these courses. -/
theorem course (g : Gate σ) (moment : Moment) (request : Request) (s : State σ) :
    Course g moment request s (g.route moment request s) := by
  cases hl : s.limiter? (Route.ofPath request.uri.path) with
  | none =>
      have hsite : Route.ofPath request.uri.path = .site := by
        cases hpath : Route.ofPath request.uri.path <;> simp_all [State.limiter?]
      rw [Gate.route, hsite]
      exact .served hsite
  | some l =>
      rcases Nat.lt_or_ge (l.count (clientKey request)) l.max with hlt | hfull
      · exact course_of_hasRoom ⟨l, hl, hlt⟩
      · obtain ⟨s', hbackend, hroute⟩ := route_of_le moment hl hfull
        rw [hroute]
        exact .limited hl hfull hbackend

end DepositGate.Gate
