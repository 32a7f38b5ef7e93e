import DepositGate.Gate.Security
import DepositGate.Proofs.Http.Uri

/-!
# What the security check lets through

With a host for encrypted requests, a request of the plain listener is answered by the check itself,
unless its target has the scheme of encrypted requests: the check takes such a target for a proof that
the request came encrypted, and a client may write what it likes there. `plain_request_passes_iff` gives
the exact condition, for the texts of targets too.
-/

namespace DepositGate.Gate.SecurityOptions

open Http (Request Uri)

variable {σ : Type} {options : SecurityOptions} {request : Request} {s : σ}

theorem verdict_eq_badHost_iff :
    options.verdict request = .badHost ↔ options.allows (requestHost request) = false := by
  cases hallows : options.allows (requestHost request) with
  | false => simp [verdict, hallows]
  | true =>
      cases hhost : options.sslHost <;> cases htls : arrivedOverTls request <;>
        simp [verdict, hallows, hhost, htls]

theorem verdict_eq_forward_iff :
    options.verdict request = .forward ↔ options.allows (requestHost request) = true ∧
      (options.sslHost = none ∨ arrivedOverTls request = true) := by
  cases hallows : options.allows (requestHost request) with
  | false => simp [verdict, hallows]
  | true =>
      cases hhost : options.sslHost <;> cases htls : arrivedOverTls request <;>
        simp [verdict, hallows, hhost, htls]

theorem verdict_eq_redirect_iff {location : String} :
    options.verdict request = .redirect location ↔ options.allows (requestHost request) = true ∧
      arrivedOverTls request = false ∧
        ∃ host, options.sslHost = some host ∧ redirectLocation host request = location := by
  cases hallows : options.allows (requestHost request) with
  | false => simp [verdict, hallows]
  | true =>
      cases hhost : options.sslHost <;> cases htls : arrivedOverTls request <;>
        simp [verdict, hallows, hhost, htls]

/-- A request reaches what lies behind the check, whatever that is. -/
def Passes (options : SecurityOptions) (request : Request) (s : σ) : Prop :=
  ∀ inner : σ → Reply σ, options.check request inner s = inner s

/-- The check answers a request itself and leaves the state alone: it rejects the request or sends it to
the host for encrypted ones. -/
def TurnsAway (options : SecurityOptions) (host : String) (request : Request) (s : σ) : Prop :=
  ∀ inner : σ → Reply σ, (options.check request inner s).state = s ∧
    ((options.check request inner s).response = ApiError.badHost.response ∨
      (options.check request inner s).response =
        .bare 301 [("location", redirectLocation host request)])

theorem passes_of_forward (h : options.verdict request = .forward) : options.Passes request s :=
  fun inner ↦ by simp [check, h]

theorem turnsAway_of_badHost {host : String} (h : options.verdict request = .badHost) :
    options.TurnsAway host request s :=
  fun inner ↦ by simp [check, h, rejection]

theorem turnsAway_of_redirect {host : String}
    (h : options.verdict request = .redirect (redirectLocation host request)) :
    options.TurnsAway host request s := by
  intro inner
  by_cases hvalue : Http.isHeaderValue (redirectLocation host request) = true <;>
    simp [check, h, redirection, hvalue]

/-- No request both reaches what lies behind the check and is turned away. -/
theorem TurnsAway.not_passes {host : String} (h : options.TurnsAway host request s) :
    ¬ options.Passes request s := by
  intro hpasses
  let inner (s : σ) : Reply σ := ⟨.bare 200 [], s, []⟩
  have hstatus : (options.check request inner s).response.status = 200 := by
    rw [hpasses inner]
    rfl
  rcases (h inner).2 with hresponse | hresponse <;> rw [hresponse] at hstatus <;>
    simp [ApiError.response, jsonResponse, ApiError.status, Http.Response.bare] at hstatus

theorem verdict_plain {host : String} (hhost : options.sslHost = some host)
    (hplain : request.protocol = some .http) (hscheme : request.uri.scheme ≠ some Uri.https) :
    options.verdict request = .badHost ∨
      options.verdict request = .redirect (redirectLocation host request) := by
  have htls : arrivedOverTls request = false := by
    simp [arrivedOverTls, hplain, hscheme]
  cases hallows : options.allows (requestHost request) with
  | false => exact Or.inl (verdict_eq_badHost_iff.mpr hallows)
  | true => exact Or.inr (verdict_eq_redirect_iff.mpr ⟨hallows, htls, host, hhost, rfl⟩)

/-- With a host for encrypted requests, a plain request reaches what lies behind the check if and only if
it names an allowed host and its target has the scheme of encrypted requests, that is, if its text begins
with that scheme; every other plain request is turned away. No encrypted request is sent elsewhere. -/
theorem plain_request_passes_iff {host : String} (hhost : options.sslHost = some host)
    (request : Request) (s : σ) :
    (request.protocol = some .http →
      (options.Passes request s ↔ options.allows (requestHost request) = true ∧
        request.uri.scheme = some Uri.https) ∧
      (¬ options.Passes request s → options.TurnsAway host request s) ∧
      ∀ target, request.uri = .ofString target →
        (request.uri.scheme = some Uri.https ↔ Uri.AsksForEncryption target)) ∧
    (request.protocol = some .https → options.Passes request s ∨
      ∀ inner, options.check request inner s = rejection request s) := by
  refine ⟨fun hplain ↦ ?_, fun hencrypted ↦ ?_⟩
  · have hforward (h : options.allows (requestHost request) = true ∧
        request.uri.scheme = some Uri.https) : options.Passes request s :=
      passes_of_forward (verdict_eq_forward_iff.mpr ⟨h.1, Or.inr (by simp [arrivedOverTls, h.2])⟩)
    have haway (h : ¬ (options.allows (requestHost request) = true ∧
        request.uri.scheme = some Uri.https)) : options.TurnsAway host request s := by
      by_cases hscheme : request.uri.scheme = some Uri.https
      · have hallows : options.allows (requestHost request) = false := by simpa [hscheme] using h
        exact turnsAway_of_badHost (verdict_eq_badHost_iff.mpr hallows)
      · rcases verdict_plain hhost hplain hscheme with hbad | hredirect
        · exact turnsAway_of_badHost hbad
        · exact turnsAway_of_redirect hredirect
    refine ⟨⟨fun hpasses ↦ ?_, hforward⟩, fun hpasses ↦ ?_, fun target htarget ↦ ?_⟩
    · by_contra h
      exact (haway h).not_passes hpasses
    · exact haway fun h ↦ hpasses (hforward h)
    · rw [htarget]
      exact Uri.scheme_ofString_eq_https_iff target
  · have htls : arrivedOverTls request = true := by simp [arrivedOverTls, hencrypted]
    cases hallows : options.allows (requestHost request) with
    | false =>
        have hbad := verdict_eq_badHost_iff.mpr hallows
        exact Or.inr fun inner ↦ by simp [check, hbad]
    | true => exact Or.inl (passes_of_forward (verdict_eq_forward_iff.mpr ⟨hallows, Or.inr htls⟩))

/-- A plain request for a path and a query is sent to the other host. -/
theorem plain_path_turned_away :
    (SecurityOptions.mk (some "teller.example.com") []).TurnsAway "teller.example.com"
      ⟨"GET", .ofString "/a?b=c", [("host", "teller.example.com")], [], none, some .http⟩ () := by
  have hhost : (SecurityOptions.mk (some "teller.example.com") []).sslHost =
      some "teller.example.com" := rfl
  have hplain := (plain_request_passes_iff hhost
    ⟨"GET", .ofString "/a?b=c", [("host", "teller.example.com")], [], none, some .http⟩ ()).1 rfl
  refine hplain.2.1 fun hpasses ↦ ?_
  exact absurd (hplain.1.mp hpasses).2 (by decide)

/-- A plain request whose target begins with the scheme of encrypted requests is served. -/
theorem plain_absolute_target_passes :
    (SecurityOptions.mk (some "teller.example.com") []).Passes
      ⟨"GET", .ofString "https://teller.example.com/a?b=c", [], [], none, some .http⟩ () :=
  passes_of_forward (by decide)

end DepositGate.Gate.SecurityOptions
