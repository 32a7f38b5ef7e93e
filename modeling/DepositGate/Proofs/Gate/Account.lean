import DepositGate.Proofs.Gate.Envelope
import DepositGate.Proofs.Gate.Journal

/-!
# Every rejection once to the client and once to the log

Besides what the backend says, the log of a request has at most one entry for its rejection and at most
one for its completion, each with the status that the client gets. `reply_accounted` settles for every
request in every state which of them there are, and when a response must be a rejection in its envelope.
-/

namespace DepositGate.Gate

open Http (Request Response)

variable {σ : Type} {g : Gate σ} {moment : Moment} {request : Request} {s : State σ}

/-! ## Which entries and which answers there are -/

def IsForEndpoint (request : Request) : Prop :=
  request.uri.path = "/api/bind" ∨ request.uri.path = "/api/status"

/-- The security check rejects a request: its host is a bad one, or the place to which it would be sent
is none. -/
def SecurityOptions.refuses (options : SecurityOptions) (request : Request) : Bool :=
  match options.verdict request with
  | .forward => false
  | .badHost => true
  | .redirect location => !Http.isHeaderValue location

def TimesOut (g : Gate σ) (moment : Moment) (request : Request) (s : State σ) : Prop :=
  g.options.verdict request = .forward ∧ (g.route moment request s).response = none

/-- The requests whose rejections come in an envelope and are logged. -/
def IsAccountable (g : Gate σ) (moment : Moment) (request : Request) (s : State σ) : Prop :=
  IsForEndpoint request ∨ g.options.refuses request ∨ TimesOut g moment request s

def Completes (g : Gate σ) (moment : Moment) (request : Request) (s : State σ) : Prop :=
  IsForEndpoint request ∧ g.options.verdict request = .forward ∧ HasRoom s request ∧
    ¬TimesOut g moment request s

instance : Decidable (IsForEndpoint request) :=
  inferInstanceAs (Decidable (_ ∨ _))

instance : Decidable (TimesOut g moment request s) :=
  inferInstanceAs (Decidable (_ ∧ _))

instance : Decidable (IsAccountable g moment request s) :=
  inferInstanceAs (Decidable (_ ∨ _))

instance : Decidable (Completes g moment request s) :=
  inferInstanceAs (Decidable (_ ∧ _))

/-- What a reply says to the client and to the log. -/
structure Accounts (g : Gate σ) (moment : Moment) (request : Request) (s : State σ)
    (r : Reply (State σ)) : Prop where
  status : IsAccountable g moment request s → r.response.status = 200 ∨
    (r.response.status = 301 ∧ ∃ location, g.options.verdict request = .redirect location) ∨
    400 ≤ r.response.status
  body : IsAccountable g moment request s → 400 ≤ r.response.status → request.method ≠ "HEAD" →
    ∃ message, r.response.body.content = envelope r.response.status message
  log : ∃ said, Says g moment request s.backend said ∧
    told .rejection r.events = told .rejection said ++
      (if IsAccountable g moment request s ∧ 400 ≤ r.response.status then
        [some (.number r.response.status)] else []) ∧
    told .completion r.events = told .completion said ++
      (if Completes g moment request s then [some (.number r.response.status)] else [])

theorem accounts_of_rejects {e : ApiError} {r : Reply (State σ)} (hrejects : Rejects e r.response)
    (haccountable : IsAccountable g moment request s) {said : List Event}
    (hsaid : Says g moment request s.backend said)
    (hrejection : told .rejection r.events = told .rejection said ++ [some (.number e.status)])
    (hcompletion : told .completion r.events = told .completion said ++
      (if Completes g moment request s then [some (.number e.status)] else [])) :
    Accounts g moment request s r := by
  have hle : 400 ≤ r.response.status := by
    rw [hrejects.status]
    exact e.le_status
  refine ⟨fun _ ↦ .inr (.inr hle), fun _ _ _ ↦ ⟨e.message, ?_⟩, said, hsaid, ?_, ?_⟩
  · rw [hrejects.content, hrejects.status]
  · rw [if_pos ⟨haccountable, hle⟩, hrejects.status, hrejection]
  · rw [hrejects.status, hcompletion]

theorem accounts_of_answered {r : Reply (State σ)} (hstatus : r.response.status = 200) {said : List Event}
    (hsaid : Says g moment request s.backend said)
    (hrejection : told .rejection r.events = told .rejection said)
    (hcompletion : told .completion r.events = told .completion said ++
      (if Completes g moment request s then [some (.number 200)] else [])) :
    Accounts g moment request s r := by
  refine ⟨fun _ ↦ .inl hstatus, fun _ hle ↦ by omega, said, hsaid, ?_, ?_⟩
  · rw [if_neg (by omega), List.append_nil, hrejection]
  · rw [hstatus, hcompletion]

theorem accounts_of_badHost (hverdict : g.options.verdict request = .badHost) :
    Accounts g moment request s (SecurityOptions.rejection request s) := by
  have hrefuses : g.options.refuses request := by simp [SecurityOptions.refuses, hverdict]
  have hcompletes : ¬Completes g moment request s := by simp [Completes, hverdict]
  refine accounts_of_rejects (rejects_response .badHost) (.inr (.inl hrefuses)) .nothing ?_ ?_
  · simp [SecurityOptions.rejection]
  · simp [SecurityOptions.rejection, hcompletes]

theorem accounts_of_redirect {location : String}
    (hverdict : g.options.verdict request = .redirect location) :
    Accounts g moment request s (SecurityOptions.redirection request location s) := by
  have hcompletes : ¬Completes g moment request s := by simp [Completes, hverdict]
  have hsilent (topic : Topic) (fields : Fields) :
      told topic [⟨.debug, "Redirecting HTTP to HTTPS", fields, []⟩] = [] := by
    cases topic <;> rfl
  by_cases hvalue : Http.isHeaderValue location
  · rw [SecurityOptions.redirection, if_pos hvalue]
    refine ⟨fun _ ↦ .inr (.inl ⟨rfl, location, hverdict⟩), fun _ hle ↦ ?_, [], .nothing, ?_, ?_⟩
    · simp [Response.bare] at hle
    · simp [Response.bare, hsilent]
    · simp [hsilent, hcompletes]
  · have hrefuses : g.options.refuses request := by
      simp [SecurityOptions.refuses, hverdict, hvalue]
    rw [SecurityOptions.redirection, if_neg hvalue]
    refine accounts_of_rejects (rejects_response .badHost) (.inr (.inl hrefuses)) .nothing ?_ ?_
    · dsimp only
      rw [told_cons, hsilent, told_rejection_event]
      rfl
    · dsimp only
      rw [told_cons, hsilent, told_completion_event, if_neg hcompletes]
      rfl

theorem isForEndpoint_of_ofPath_ne_site (h : Route.ofPath request.uri.path ≠ .site) :
    IsForEndpoint request := by
  cases hpath : Route.ofPath request.uri.path with
  | bind => exact .inl (path_eq_of_ofPath_eq_bind hpath)
  | lookup => exact .inr (path_eq_of_ofPath_eq_lookup hpath)
  | site => contradiction

theorem not_isForEndpoint_of_ofPath_eq_site (h : Route.ofPath request.uri.path = .site) :
    ¬IsForEndpoint request := by
  rintro (hpath | hpath) <;> simp [hpath, Route.ofPath] at h

theorem noted_handled {route : Route} (hroute : Route.ofPath request.uri.path = route) {h : Handled σ}
    (hhandled : g.handled moment request s.backend route = some h) :
    ∃ said, Says g moment request s.backend said ∧ ∀ topic, noted topic h.notes = told topic said := by
  cases route with
  | bind =>
      obtain rfl := Option.some.inj hhandled
      exact noted_bind g moment (path_eq_of_ofPath_eq_bind hroute) s.backend
  | lookup =>
      obtain rfl := Option.some.inj hhandled
      exact noted_lookup g moment (path_eq_of_ofPath_eq_lookup hroute) s.backend
  | site => cases hhandled

theorem ofPath_ne_site_of_hasRoom (h : HasRoom s request) : Route.ofPath request.uri.path ≠ .site := by
  intro hsite
  obtain ⟨l, hl, -⟩ := h
  simp [hsite, State.limiter?] at hl

theorem not_hasRoom_of_le {l : Limiter} (hl : s.limiter? (Route.ofPath request.uri.path) = some l)
    (hfull : l.max ≤ l.count (clientKey request)) : ¬HasRoom s request := by
  rintro ⟨l', hl', hlt⟩
  obtain rfl : l = l' := Option.some.inj (hl.symm.trans hl')
  omega

/-- The call that a request asks for lasts as long as the request may, or longer. -/
inductive CallsTooLong (g : Gate σ) (moment : Moment) (request : Request) (state : σ) : Prop where
  | bind {m : BindRequest} {coin : Coin} (hpath : request.uri.path = "/api/bind")
      (hready : BindReady g.endpoints moment request m coin)
      (hlong : requestTimeout ≤ (g.endpoints.backend.bind m.skyAddr moment.second state).duration)
  | statuses {skyAddr : String} (hpath : request.uri.path = "/api/status")
      (hready : LookupReady g.endpoints moment request skyAddr)
      (hlong : requestTimeout ≤ (g.endpoints.backend.statuses skyAddr state).duration)

theorem answer_eq_none_iff {route : Route} (hroute : Route.ofPath request.uri.path = route) {state : σ}
    {h : Handled σ} (hhandled : g.handled moment request state route = some h) :
    h.answer = none ↔ CallsTooLong g moment request state := by
  cases route with
  | bind =>
      obtain rfl := Option.some.inj hhandled
      rw [answer_bind_eq_none_iff]
      constructor
      · rintro ⟨m, coin, hready, hlong⟩
        exact .bind (path_eq_of_ofPath_eq_bind hroute) hready hlong
      · rintro (⟨-, hready, hlong⟩ | ⟨hpath, -, -⟩)
        · exact ⟨_, _, hready, hlong⟩
        · simp [hpath, Route.ofPath] at hroute
  | lookup =>
      obtain rfl := Option.some.inj hhandled
      rw [answer_lookup_eq_none_iff]
      constructor
      · rintro ⟨skyAddr, hready, hlong⟩
        exact .statuses (path_eq_of_ofPath_eq_lookup hroute) hready hlong
      · rintro (⟨hpath, -, -⟩ | ⟨-, hready, hlong⟩)
        · simp [hpath, Route.ofPath] at hroute
        · exact ⟨_, hready, hlong⟩
  | site => cases hhandled

/-- A request takes too long exactly if it passes all checks and its call does. -/
theorem timesOut_iff : TimesOut g moment request s ↔ g.options.verdict request = .forward ∧
    HasRoom s request ∧ CallsTooLong g moment request s.backend := by
  refine and_congr_right fun _ ↦ ?_
  have hcourse := course g moment request s
  generalize g.route moment request s = a at hcourse
  cases hcourse with
  | limited hl hfull hbackend => simp [not_hasRoom_of_le hl hfull]
  | admitted hroute hroom hhandled hbackend => simp [hroom, answer_eq_none_iff hroute hhandled]
  | served hsite =>
      have hroom : ¬HasRoom s request := fun hroom ↦ ofPath_ne_site_of_hasRoom hroom hsite
      simp [hroom]

theorem accounts_of_admitted (hverdict : g.options.verdict request = .forward) {route : Route}
    {h : Handled σ} {s' : State σ} (hroute : Route.ofPath request.uri.path = route)
    (hroom : HasRoom s request) (hhandled : g.handled moment request s.backend route = some h)
    (hattempt : g.route moment request s =
      ⟨(h.answer.map answerResponse).map (finished request route), s', (logged request h).events⟩) :
    Accounts g moment request s (inTime (g.route moment request s)) := by
  have hendpoint : IsForEndpoint request :=
    isForEndpoint_of_ofPath_ne_site (ofPath_ne_site_of_hasRoom hroom)
  have htimesOut : TimesOut g moment request s ↔ h.answer = none := by
    simp [TimesOut, hverdict, hattempt]
  have hcompletes : Completes g moment request s ↔ h.answer ≠ none := by
    simp [Completes, hendpoint, hverdict, hroom, htimesOut]
  obtain ⟨said, hsaid, hnoted⟩ := noted_handled hroute hhandled
  have htold := fun topic ↦ told_logged topic request h
  rw [hattempt]
  cases hanswer : h.answer with
  | none =>
      simp only [hanswer, hnoted] at htold
      refine accounts_of_rejects (rejects_response .requestTimeout) (.inl hendpoint) hsaid ?_ ?_
      · simp [inTime, htold, noted]
      · simp [inTime, htold, noted, hcompletes, hanswer]
  | some answer =>
      simp only [hanswer, hnoted] at htold
      have hclosing := noted_completion_closing answer
      cases answer with
      | ok d =>
          refine accounts_of_answered ?_ hsaid ?_ ?_
          · simp [inTime, answerResponse, jsonResponse]
          · simp [inTime, htold, noted_rejection_closing_ok]
          · simp [inTime, htold, hclosing, hcompletes, hanswer, answerResponse, jsonResponse]
      | error e =>
          refine accounts_of_rejects ((rejects_response e).finished request route) (.inl hendpoint)
            hsaid ?_ ?_
          · simp [inTime, htold, noted_rejection_closing_error]
          · simp [inTime, htold, hclosing, hcompletes, hanswer, answerResponse]

theorem accounts_of_forward (hverdict : g.options.verdict request = .forward) :
    Accounts g moment request s (inTime (g.route moment request s)) := by
  have hcourse := course g moment request s
  generalize hattempt : g.route moment request s = a at hcourse
  rw [← hattempt]
  cases hcourse with
  | @limited l s' hl hfull hbackend =>
      have hsite : Route.ofPath request.uri.path ≠ .site := by
        intro hsite
        simp [hsite, State.limiter?] at hl
      have hcompletes : ¬Completes g moment request s := by
        simp [Completes, not_hasRoom_of_le hl hfull]
      rw [hattempt]
      refine accounts_of_rejects ((rejects_response .rateLimited).negotiated request.headers)
        (.inl (isForEndpoint_of_ofPath_ne_site hsite)) .nothing ?_ ?_
      · simp [inTime, limitEvent]
      · simp [inTime, limitEvent, hcompletes]
  | admitted hroute hroom hhandled hbackend =>
      exact accounts_of_admitted hverdict hroute hroom hhandled hattempt
  | served hsite =>
      have hendpoint : ¬IsForEndpoint request := not_isForEndpoint_of_ofPath_eq_site hsite
      have hrefuses : g.options.refuses request = false := by
        simp [SecurityOptions.refuses, hverdict]
      have htimesOut : ¬TimesOut g moment request s := by simp [TimesOut, hattempt]
      have haccountable : ¬IsAccountable g moment request s := by
        simp [IsAccountable, hendpoint, hrefuses, htimesOut]
      have hcompletes : ¬Completes g moment request s := by simp [Completes, hendpoint]
      refine ⟨fun h ↦ absurd h haccountable, fun h ↦ absurd h haccountable, [], .nothing, ?_, ?_⟩
      · simp [hattempt, inTime, haccountable]
      · simp [hattempt, inTime, hcompletes]

/-- What the client and the log learn of a request in any state: the defensive headers stand once each, a
rejection comes in its envelope and has one entry, and so has the end of a request that completes. The
requests that take too long are those that get to the backend and whose call takes too long. -/
theorem reply_accounted (g : Gate σ) (moment : Moment) (request : Request) (s : State σ) :
    (∀ header ∈ defensiveHeaders,
      (g.reply moment request s).response.headers.all header.1 = [header.2]) ∧
    Accounts g moment request s (g.reply moment request s) ∧
    (TimesOut g moment request s ↔ g.options.verdict request = .forward ∧ HasRoom s request ∧
      CallsTooLong g moment request s.backend) := by
  refine ⟨fun header hmem ↦ all_reply g moment request s hmem, ?_, timesOut_iff⟩
  have hchecked : Accounts g moment request s
      (g.options.check request (fun s ↦ inTime (g.route moment request s)) s) := by
    cases hverdict : g.options.verdict request with
    | forward =>
        rw [check_of_forward hverdict]
        exact accounts_of_forward hverdict
    | badHost =>
        rw [check_of_badHost hverdict]
        exact accounts_of_badHost hverdict
    | redirect location =>
        rw [check_of_redirect hverdict]
        exact accounts_of_redirect hverdict
  have hstatus := status_reply g moment request s
  refine ⟨?_, fun haccountable hle hmethod ↦ ?_, ?_⟩
  · rw [hstatus]
    exact hchecked.status
  · rw [body_reply g moment s hmethod (by omega), hstatus]
    exact hchecked.body haccountable (by omega) hmethod
  · rw [hstatus, reply_events]
    exact hchecked.log

/-- A backend is late with one address only. What it has done by then stays done. -/
example :
    let backend : Backend Nat :=
      { bind := fun _ _ calls ↦ .atOnce (.ok "x") calls []
        statuses := fun skyAddr calls ↦
          if skyAddr = "s" then ⟨60000, .ok [], calls, [], calls + 1, []⟩ else .atOnce (.ok []) (calls + 1) [] }
    ((ofConfig tightConfig backend (fun _ ↦ .ok ()) none).replies ⟨⟨1, []⟩, ⟨1, []⟩, 0⟩
        [requestOf "a" "/api/status?skyaddr=s", requestOf "b" "/api/status?skyaddr=t"]).map
      (fun r ↦ (r.response.status, r.state.backend)) = [(408, 1), (200, 2)] := by
  decide +kernel

theorem told_of_says_readyBackend {g : Gate Unit} (hbackend : g.endpoints.backend = readyBackend)
    {said : List Event} (hsaid : Says g moment request () said) (topic : Topic) :
    told topic said = [] := by
  cases hsaid with
  | nothing => rfl
  | bind hpath hmessage =>
      rw [Endpoints.bindEnded, hbackend]
      rfl
  | statuses hpath haddress =>
      rw [Endpoints.lookupEnded, hbackend]
      rfl

/-- A request to bind with the wrong method is rejected once to the client and once to the log. -/
theorem wrong_method_accounted :
    let g : Gate Unit := ofConfig tightConfig readyBackend SkyAddress.validate none
    let s : State Unit := ⟨⟨1, []⟩, ⟨1, []⟩, ()⟩
    let moment : Moment := (requestOf "a" "/api/bind").1
    let request : Request := (requestOf "a" "/api/bind").2
    let reply := g.reply moment request s
    IsAccountable g moment request s ∧ Completes g moment request s ∧
      reply.response.headers.all "x-frame-options" = ["DENY"] ∧
      (∃ message, reply.response.body.content = envelope 405 message) ∧
      told .rejection reply.events = [some (.number 405)] ∧
      told .completion reply.events = [some (.number 405)] := by
  intro g s moment request reply
  have hendpoint : IsForEndpoint request := by decide
  have haccountable : IsAccountable g moment request s := .inl hendpoint
  have hcompletes : Completes g moment request s := ⟨hendpoint, by decide, by decide, by decide⟩
  have hstatus : (g.reply moment request s).response.status = 405 := by decide
  have hle : 400 ≤ (g.reply moment request s).response.status := by omega
  obtain ⟨hheaders, ⟨-, hbody, said, hsaid, hrejection, hcompletion⟩, -⟩ :=
    reply_accounted g moment request s
  have hsilent := told_of_says_readyBackend rfl hsaid
  refine ⟨haccountable, hcompletes, hheaders ("x-frame-options", "DENY") (by decide), ?_, ?_, ?_⟩
  · obtain ⟨message, hmessage⟩ := hbody haccountable hle (by decide)
    exact ⟨message, hstatus ▸ hmessage⟩
  · rw [hrejection, hsilent, if_pos ⟨haccountable, hle⟩, hstatus]
    rfl
  · rw [hcompletion, hsilent, if_pos hcompletes, hstatus]
    rfl

end DepositGate.Gate
