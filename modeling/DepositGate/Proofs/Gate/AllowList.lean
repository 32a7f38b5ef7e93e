import DepositGate.Proofs.Gate.Security

/-!
# What a list of allowed hosts keeps out

A request should get on only if it names no host but allowed ones. The check looks at one host, though:
that of the first header for it, or the authority of the target if there is no such header or it cannot be
read as text. `names_allowed_unless_overlooked` gives the exact condition under which another host gets
through behind that one.
-/

namespace DepositGate.Http.Headers

theorem first?_eq_head?_all (headers : Headers) (name : String) :
    headers.first? name = (headers.all name).head? := by
  simp [first?, all]

end DepositGate.Http.Headers

namespace DepositGate.Gate.SecurityOptions

open Http (Request)

variable {σ : Type} {options : SecurityOptions} {request : Request} {s : σ}

/-! ## What may come of a request -/

def LetsOn (options : SecurityOptions) (request : Request) (s : σ) : Prop :=
  options.Passes request s ∨
    ∃ location, ∀ inner : σ → Reply σ,
      (options.check request inner s).response = .bare 301 [("location", location)]

/-- A request is rejected for its host, and nothing that lies behind the check has a part in it. -/
def Rejects (options : SecurityOptions) (request : Request) (s : σ) : Prop :=
  ∃ reply : Reply σ, reply.response = ApiError.badHost.response ∧ reply.state = s ∧
    ∀ inner, options.check request inner s = reply

/-- The place to which a request would be sent can be the value of a header. -/
def Deliverable (options : SecurityOptions) (request : Request) : Prop :=
  ∀ location, options.verdict request = .redirect location → Http.isHeaderValue location = true

theorem Rejects.not_letsOn (h : options.Rejects request s) : ¬ options.LetsOn request s := by
  obtain ⟨reply, hresponse, -, hcheck⟩ := h
  let inner (s : σ) : Reply σ := ⟨.bare 200 [], s, []⟩
  have hstatus : (options.check request inner s).response.status = 500 := by
    rw [hcheck, hresponse]
    rfl
  rintro (hpasses | ⟨location, hredirect⟩)
  · rw [hpasses] at hstatus
    cases hstatus
  · rw [hredirect] at hstatus
    cases hstatus

theorem letsOn_of_allows (hallows : options.allows (requestHost request) = true)
    (hdeliverable : options.Deliverable request) : options.LetsOn request s := by
  cases hverdict : options.verdict request with
  | forward => exact .inl (passes_of_forward hverdict)
  | badHost =>
      rw [verdict_eq_badHost_iff.mp hverdict] at hallows
      cases hallows
  | redirect location =>
      have hvalue := hdeliverable location hverdict
      exact .inr ⟨location, fun inner ↦ by simp [check, hverdict, redirection, hvalue]⟩

theorem rejects_of_not_allows (hallows : options.allows (requestHost request) = false) :
    options.Rejects request s := by
  have hverdict := verdict_eq_badHost_iff.mpr hallows
  exact ⟨rejection request s, rfl, rfl, fun inner ↦ by simp [check, hverdict]⟩

theorem rejects_of_not_deliverable (hdeliverable : ¬ options.Deliverable request) :
    options.Rejects request s := by
  obtain ⟨location, hverdict, hvalue⟩ :
      ∃ location, options.verdict request = .redirect location ∧
        ¬ Http.isHeaderValue location = true := by
    simpa [Deliverable] using hdeliverable
  refine ⟨redirection request location s, ?_, ?_, fun inner ↦ ?_⟩
  · simp [redirection, hvalue]
  · simp [redirection, hvalue]
  · simp [check, hverdict]

theorem letsOn_iff : options.LetsOn request s ↔
    options.allows (requestHost request) = true ∧ options.Deliverable request := by
  refine ⟨fun hletsOn ↦ ⟨?_, ?_⟩, fun h ↦ letsOn_of_allows h.1 h.2⟩
  · by_contra hallows
    exact (rejects_of_not_allows (Bool.eq_false_iff.mpr hallows)).not_letsOn hletsOn
  · by_contra hdeliverable
    exact (rejects_of_not_deliverable hdeliverable).not_letsOn hletsOn

/-- There is no third way. -/
theorem rejects_iff : options.Rejects request s ↔ ¬ options.LetsOn request s := by
  refine ⟨Rejects.not_letsOn, fun hletsOn ↦ ?_⟩
  cases hallows : options.allows (requestHost request) with
  | false => exact rejects_of_not_allows hallows
  | true =>
      refine rejects_of_not_deliverable fun hdeliverable ↦ ?_
      exact hletsOn (letsOn_of_allows hallows hdeliverable)

/-! ## Which hosts a request names -/

/-- All hosts that a request names are allowed: those of its headers, or that of its target if it has no
header for it. -/
structure NamesAllowed (options : SecurityOptions) (request : Request) : Prop where
  headers : ∀ host ∈ request.headers.all "host", host ∈ options.allowedHosts
  target : request.headers.all "host" = [] →
    ∃ host ∈ options.allowedHosts, request.uri.authority = some host

/-- A request that gets on for one host also has a header for another one that is not allowed. -/
structure Overlooks (options : SecurityOptions) (request : Request) : Prop where
  other : ∃ host ∈ request.headers.all "host", host ∉ options.allowedHosts
  trusted : ∃ first, request.headers.first? "host" = some first ∧
    if Http.isVisible first then first ∈ options.allowedHosts
    else ∃ host ∈ options.allowedHosts, request.uri.authority = some host
  deliverable : options.Deliverable request

theorem allows_iff (hlist : options.allowedHosts ≠ []) {host : Option String} :
    options.allows host = true ↔ ∃ name ∈ options.allowedHosts, host = some name := by
  cases host <;> simp [allows, hlist]

theorem requestHost_of_first?_eq_none (h : request.headers.first? "host" = none) :
    requestHost request = request.uri.authority := by
  simp [requestHost, Http.Headers.firstText?, h]

theorem requestHost_of_first?_eq_some {first : String}
    (h : request.headers.first? "host" = some first) :
    requestHost request = if Http.isVisible first then some first else request.uri.authority := by
  by_cases hvisible : Http.isVisible first = true <;>
    simp [requestHost, Http.Headers.firstText?, h, Option.filter, hvisible]

/-- Of the hosts in the headers, the check goes by the first one or by none. -/
theorem allows_requestHost_iff (hlist : options.allowedHosts ≠ []) :
    options.allows (requestHost request) = true ↔
      match request.headers.first? "host" with
      | none => ∃ host ∈ options.allowedHosts, request.uri.authority = some host
      | some first =>
        if Http.isVisible first then first ∈ options.allowedHosts
        else ∃ host ∈ options.allowedHosts, request.uri.authority = some host := by
  rw [allows_iff hlist]
  cases hfirst : request.headers.first? "host" with
  | none => rw [requestHost_of_first?_eq_none hfirst]
  | some first =>
      rw [requestHost_of_first?_eq_some hfirst]
      by_cases hvisible : Http.isVisible first = true <;> simp [hvisible]

/-! ## Main result -/

/-- With a list of allowed hosts, a request that the check forwards or sends elsewhere names no other host,
unless the check has overlooked one; every other request is rejected and reaches nothing behind the
check. -/
theorem names_allowed_unless_overlooked (hlist : options.allowedHosts ≠ []) (request : Request)
    (s : σ) :
    ((options.LetsOn request s → options.NamesAllowed request) ↔ ¬ options.Overlooks request) ∧
    (options.Rejects request s ↔ ¬ options.LetsOn request s) := by
  refine ⟨⟨fun hnames hoverlooks ↦ ?_, fun hoverlooks hletsOn ↦ ?_⟩, rejects_iff⟩
  · obtain ⟨host, hhost, hother⟩ := hoverlooks.other
    obtain ⟨first, hfirst, htrusted⟩ := hoverlooks.trusted
    have hallows : options.allows (requestHost request) = true := by
      rw [allows_requestHost_iff hlist, hfirst]
      exact htrusted
    exact hother ((hnames (letsOn_iff.mpr ⟨hallows, hoverlooks.deliverable⟩)).headers host hhost)
  · obtain ⟨hallows, hdeliverable⟩ := letsOn_iff.mp hletsOn
    rw [allows_requestHost_iff hlist] at hallows
    refine ⟨fun host hhost ↦ ?_, fun hnone ↦ ?_⟩
    · by_contra hother
      cases hfirst : request.headers.first? "host" with
      | none =>
          rw [Http.Headers.first?_eq_head?_all, List.head?_eq_none_iff] at hfirst
          simp [hfirst] at hhost
      | some first =>
          rw [hfirst] at hallows
          exact hoverlooks ⟨⟨host, hhost, hother⟩, ⟨first, hfirst, hallows⟩, hdeliverable⟩
    · have hfirst : request.headers.first? "host" = none := by
        rw [Http.Headers.first?_eq_head?_all, hnone, List.head?_nil]
      simpa [hfirst] using hallows

/-- A request that names its host once, and another than its target, is rejected. -/
theorem foreign_host_rejected :
    let options : SecurityOptions := ⟨none, ["teller.example.com"]⟩
    let request : Request :=
      ⟨"GET", .ofString "http://teller.example.com/", [("host", "evil.example")], [], none, none⟩
    options.allowedHosts ≠ [] ∧ options.Rejects request () := by
  intro options request
  have hlist : options.allowedHosts ≠ [] := by simp [options]
  obtain ⟨hnames, hrejects⟩ := names_allowed_unless_overlooked hlist request ()
  refine ⟨hlist, hrejects.mpr fun hletsOn ↦ ?_⟩
  have hoverlooks : ¬ options.Overlooks request := by
    rintro ⟨-, ⟨first, hfirst, htrusted⟩, -⟩
    obtain rfl : "evil.example" = first := Option.some.inj hfirst
    rw [if_pos (by decide)] at htrusted
    revert htrusted
    decide
  have hnamed := (hnames.mpr hoverlooks hletsOn).headers "evil.example" (by decide)
  revert hnamed
  decide

/-- A second header for the host and one that cannot be read as text get a request through that names a
host outside the list. -/
theorem allow_list_bypassed :
    let options : SecurityOptions := ⟨none, ["teller.example.com"]⟩
    let repeated : Request :=
      ⟨"GET", .ofString "/", [("host", "teller.example.com"), ("host", "evil.example")], [], none, none⟩
    let unreadable : Request :=
      ⟨"GET", .ofString "http://teller.example.com/", [("host", "évil.example")], [], none, none⟩
    options.allowedHosts ≠ [] ∧
      (options.Passes repeated () ∧ ¬ options.NamesAllowed repeated) ∧
      options.Passes unreadable () ∧ ¬ options.NamesAllowed unreadable := by
  refine ⟨by decide, ⟨passes_of_forward (by decide), fun h ↦ ?_⟩, passes_of_forward (by decide),
    fun h ↦ ?_⟩
  · exact absurd (h.headers "evil.example" (by decide)) (by decide)
  · exact absurd (h.headers "évil.example" (by decide)) (by decide)

end DepositGate.Gate.SecurityOptions
