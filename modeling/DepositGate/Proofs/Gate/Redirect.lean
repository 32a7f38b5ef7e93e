import DepositGate.Proofs.Gate.Security
import DepositGate.Proofs.Http.Target

/-!
# Where plain requests are sent

The place to which a plain request is sent is the host for encrypted ones with the path and query of the
request right behind it. A target without a path gets the root, and all others but one set their path or
query off from the host by their first character. The one is the asterisk, which becomes a part of the
host: `redirect_staysOn_iff`.
-/

namespace DepositGate.Http.Uri

variable {u v : Uri}

/-- Not an authority alone: it has a path, be it the root of an absolute address that gives none. -/
def HasPath (u : Uri) : Prop :=
  u.target ≠ "" ∨ u.scheme ≠ none

theorem path_eq_of_hasPath (h : u.HasPath) : u.path =
    if (u.target.toList.takeWhile (· != '?')).isEmpty then "/"
    else String.ofList (u.target.toList.takeWhile (· != '?')) := by
  have hnone : (u.target.isEmpty && u.scheme.isNone) = false := by
    rcases h with htarget | hscheme
    · simp [htarget]
    · simp [Option.isNone_eq_false_iff, Option.isSome_iff_ne_none, hscheme]
  unfold path
  rw [hnone]
  rfl

theorem path_congr (hu : u.HasPath) (hv : v.HasPath) (htarget : u.target = v.target) :
    u.path = v.path := by
  rw [path_eq_of_hasPath hu, path_eq_of_hasPath hv, htarget]

theorem path_ne_empty (h : u.HasPath) : u.path ≠ "" := by
  rw [path_eq_of_hasPath h]
  split
  · decide
  · next hpath =>
    intro hempty
    have hnil := congrArg String.toList hempty
    rw [String.toList_ofList] at hnil
    simp [hnil] at hpath

end DepositGate.Http.Uri

namespace DepositGate.Gate.SecurityOptions

open Http (Request Uri)

variable {σ : Type} {options : SecurityOptions} {request : Request} {s : σ} {host location : String}

/-! ## Places -/

def SendsTo (options : SecurityOptions) (request : Request) (s : σ) (location : String) : Prop :=
  ∀ inner : σ → Reply σ,
    (options.check request inner s).response = .bare 301 [("location", location)]

/-- A place is on a host and has the path and query of a target, the root for a target without a path. -/
structure StaysOn (host : String) (u : Uri) (location : String) : Prop where
  text : ∃ rest, location = "https://" ++ host ++ rest ∧ Uri.EndsAuthority rest.toList
  scheme : (Uri.ofString location).scheme = some Uri.https
  authority : (Uri.ofString location).authority = some host
  path : (Uri.ofString location).path = if u.path = "" then "/" else u.path
  query : (Uri.ofString location).query = u.query

theorem sendsTo_iff : options.SendsTo request s location ↔
    options.verdict request = .redirect location ∧ Http.isHeaderValue location = true := by
  constructor
  · intro hsends
    let inner (s : σ) : Reply σ := ⟨.bare 200 [], s, []⟩
    have hresponse := hsends inner
    cases hverdict : options.verdict request with
    | forward =>
        rw [passes_of_forward hverdict] at hresponse
        cases hresponse
    | badHost =>
        simp [check, hverdict, rejection, ApiError.response, jsonResponse, ApiError.status,
          Http.Response.bare] at hresponse
    | redirect place =>
        cases hvalue : Http.isHeaderValue place with
        | false =>
            simp [check, hverdict, redirection, hvalue, ApiError.response, jsonResponse,
              ApiError.status, Http.Response.bare] at hresponse
        | true =>
            obtain rfl : place = location := by
              simpa [check, hverdict, redirection, hvalue, Http.Response.bare] using hresponse
            exact ⟨rfl, hvalue⟩
  · rintro ⟨hverdict, hvalue⟩ inner
    simp [check, hverdict, redirection, hvalue]

theorem SendsTo.location_eq (hsends : options.SendsTo request s location)
    (hhost : options.sslHost = some host) : location = redirectLocation host request := by
  obtain ⟨-, -, other, hother, hlocation⟩ := verdict_eq_redirect_iff.mp (sendsTo_iff.mp hsends).1
  obtain rfl : other = host := Option.some.inj (hother.symm.trans hhost)
  exact hlocation.symm

/-! ## Targets that are set off from the host -/

/-- A place with the target of a request behind the host has its path and query. -/
theorem staysOn_of_target {u : Uri} (hauthority : Uri.IsAuthority host) (hpath : u.HasPath)
    (hends : Uri.EndsAuthority u.target.toList) (hfragment : '#' ∉ u.target.toList) :
    StaysOn host u ("https://" ++ host ++ u.target) := by
  have hread := Uri.ofString_absolute hauthority hends hfragment
  refine ⟨⟨u.target, rfl, hends⟩, ?_, ?_, ?_, ?_⟩
  · rw [hread]
  · rw [hread]
  · rw [hread, if_neg (Uri.path_ne_empty hpath)]
    exact Uri.path_congr (.inr (by simp)) hpath rfl
  · rw [hread]
    rfl

/-- A place with the root behind the host stands for a target that is empty. -/
theorem staysOn_of_empty {u : Uri} (hauthority : Uri.IsAuthority host) (hempty : u.target = "") :
    StaysOn host u ("https://" ++ host ++ "/") := by
  have hends : Uri.EndsAuthority "/".toList := by
    intro c hc
    exact .inl (Option.some.inj hc).symm
  have hread := Uri.ofString_absolute hauthority hends (by decide)
  refine ⟨⟨"/", rfl, hends⟩, ?_, ?_, ?_, ?_⟩
  · rw [hread]
  · rw [hread]
  · rw [hread]
    cases hscheme : u.scheme with
    | none => simp [Uri.path, hempty, hscheme]
    | some scheme => simp [Uri.path, hempty, hscheme]
  · rw [hread]
    simp [Uri.query, hempty]

theorem staysOn_redirectLocation {target : String} (hauthority : Uri.IsAuthority host)
    (hform : Uri.Form target request.uri) (hasterisk : ¬Uri.IsAsterisk target) :
    StaysOn host request.uri (redirectLocation host request) := by
  unfold redirectLocation
  generalize request.uri = u at hform ⊢
  cases hform with
  | @origin rest hfragment hroot =>
      have hrest : rest ≠ "" := by
        rintro rfl
        simp at hroot
      have hends : Uri.EndsAuthority rest.toList := by
        intro c hc
        exact .inl (Option.some.inj (hc.symm.trans hroot))
      have hplace := staysOn_of_target (u := ⟨none, none, rest⟩) hauthority (.inl hrest) hends hfragment
      simpa [Uri.pathAndQuery, hrest] using hplace
  | asterisk h => exact absurd h hasterisk
  | authority authority => exact staysOn_of_empty hauthority rfl
  | @absolute rest scheme authority hfragment hends =>
      by_cases hrest : rest = ""
      · subst hrest
        exact staysOn_of_empty hauthority rfl
      · have hplace := staysOn_of_target (u := ⟨some scheme, some authority, rest⟩) hauthority
          (.inl hrest) hends hfragment
        simpa [Uri.pathAndQuery, hrest] using hplace

/-! ## Main result -/

/-- The place to which a request is sent is on the host for encrypted ones, and has the path and query of
the request, exactly if the target of the request is not an asterisk. -/
theorem redirect_staysOn_iff {target : String} (hhost : options.sslHost = some host)
    (hauthority : Uri.IsAuthority host) (htarget : request.uri = .ofString target)
    (hsends : options.SendsTo request s location) :
    StaysOn host request.uri location ↔ ¬Uri.IsAsterisk target := by
  rw [hsends.location_eq hhost]
  constructor
  · intro hstays hasterisk
    have huri : request.uri = ⟨none, none, "*"⟩ := htarget.trans (Uri.ofString_of_isAsterisk hasterisk)
    obtain ⟨rest, hlocation, hends⟩ := hstays.text
    have hrest : rest = "*" := by
      rw [redirectLocation, huri] at hlocation
      exact (String.append_right_inj _).mp hlocation.symm
    rcases hends '*' (by simp [hrest]) with h | h <;> cases h
  · intro hasterisk
    exact staysOn_redirectLocation hauthority (htarget ▸ Uri.form_ofString target) hasterisk

/-- The address of a proxy's request without a path gives way to the host, and its query stays. -/
theorem absolute_target_staysOn :
    let request : Request :=
      ⟨"GET", .ofString "http://other.example?x=1", [("host", "other.example")], [], none, some .http⟩
    let options : SecurityOptions := ⟨some "127.0.0.1:7443", []⟩
    Uri.IsAuthority "127.0.0.1:7443" ∧ options.SendsTo request () "https://127.0.0.1:7443?x=1" ∧
      StaysOn "127.0.0.1:7443" request.uri "https://127.0.0.1:7443?x=1" := by
  intro request options
  have hauthority : Uri.IsAuthority "127.0.0.1:7443" := by decide
  have htarget : request.uri = .ofString "http://other.example?x=1" := rfl
  have hsends : options.SendsTo request () "https://127.0.0.1:7443?x=1" :=
    sendsTo_iff.mpr ⟨by decide, by decide⟩
  exact ⟨hauthority, hsends, (redirect_staysOn_iff rfl hauthority htarget hsends).mpr (by decide)⟩

/-- An asterisk becomes a part of the host. -/
theorem asterisk_leaves_host :
    let request : Request := ⟨"OPTIONS", .ofString "*", [], [], none, some .http⟩
    let options : SecurityOptions := ⟨some "teller.example.com", []⟩
    Uri.IsAuthority "teller.example.com" ∧ options.SendsTo request () "https://teller.example.com*" ∧
      (Uri.ofString "https://teller.example.com*").authority = some "teller.example.com*" ∧
      ¬StaysOn "teller.example.com" request.uri "https://teller.example.com*" := by
  intro request options
  have hread : (Uri.ofString "https://teller.example.com*").authority = some "teller.example.com*" := by
    decide
  refine ⟨by decide, sendsTo_iff.mpr ⟨by decide, by decide⟩, hread, ?_⟩
  intro hstays
  have hhost := hstays.authority
  rw [hread] at hhost
  revert hhost
  decide

end DepositGate.Gate.SecurityOptions
