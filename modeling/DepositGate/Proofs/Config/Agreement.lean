import Mathlib.Logic.Basic
import DepositGate.Gate.Security
import DepositGate.Proofs.Config.Consistent

/-!
# What is read off a configuration

The check of a configuration is a chain of five rejections that depend on their order. It accepts exactly
the configurations that are valid as a whole (`ServerConfig.Valid`), and all that the other parts of the
program read off an accepted one, each for itself, belongs to the same one of three cases
(`ServerConfig.Setup`). `validate_eq_ok_iff_valid` states both.
-/

namespace DepositGate.ServerConfig

open Gate (SecurityOptions)

variable {c : ServerConfig} {field value : String}

/-! ## Valid configurations -/

def HasPair (c : ServerConfig) : Prop :=
  c.tlsCert ≠ "" ∧ c.tlsKey ≠ ""

/-- The text of a place to listen is empty or an address with a port. -/
def ReadableIfGiven (value : String) : Prop :=
  value ≠ "" → (Net.SocketAddr.read? value).isSome

structure Valid (c : ServerConfig) : Prop where
  listens : c.httpAddr ≠ "" ∨ c.httpsAddr ≠ ""
  httpAddr : ReadableIfGiven c.httpAddr
  httpsAddr : ReadableIfGiven c.httpsAddr
  paired : c.tlsCert ≠ "" ↔ c.tlsKey ≠ ""
  exclusive : ¬(c.autoTlsHost ≠ "" ∧ c.HasPair)
  certified : c.autoTlsHost ≠ "" ∨ c.HasPair ↔ c.httpsAddr ≠ ""
  throttle : c.throttle.max ≠ 0 ∧ c.throttle.windowSecs ≠ 0

theorem exists_optionalAddr_iff : (∃ addr, optionalAddr field value = .ok addr) ↔
    ReadableIfGiven value := by
  unfold optionalAddr parseAddr ReadableIfGiven
  by_cases hvalue : value = ""
  · simp [hvalue]
  · cases hread : Net.SocketAddr.read? value <;> simp [hvalue, Except.map]

theorem Consistent.valid (h : c.Consistent) : c.Valid where
  listens := by
    by_cases hhttp : c.httpAddr = ""
    · exact .inr (h.listens hhttp)
    · exact .inl hhttp
  httpAddr := exists_optionalAddr_iff.mp h.httpAddr
  httpsAddr := exists_optionalAddr_iff.mp h.httpsAddr
  paired := not_congr h.paired
  exclusive := by
    rintro ⟨hauto, hcert, -⟩
    exact hcert (h.exclusive hauto).1
  certified := by
    constructor
    · intro hsource hhttps
      obtain ⟨hauto, hcert, -⟩ := h.plain hhttps
      rcases hsource with hhost | hpair
      · exact hhost hauto
      · exact hpair.1 hcert
    · intro hhttps
      by_cases hauto : c.autoTlsHost = ""
      · exact .inr (h.certified hhttps hauto)
      · exact .inl hauto
  throttle := h.throttle

theorem Valid.consistent (h : c.Valid) : c.Consistent where
  listens := fun hhttp ↦ h.listens.resolve_left (absurd hhttp)
  certified := fun hhttps hauto ↦ (h.certified.mpr hhttps).resolve_left (absurd hauto)
  paired := not_iff_not.mp h.paired
  exclusive := by
    intro hauto
    by_cases hcert : c.tlsCert = ""
    · exact ⟨hcert, (not_iff_not.mp h.paired).mp hcert⟩
    · exact absurd ⟨hauto, hcert, h.paired.mp hcert⟩ h.exclusive
  plain := by
    intro hhttps
    have hsource : ¬(c.autoTlsHost ≠ "" ∨ c.HasPair) := fun h' ↦ h.certified.mp h' hhttps
    obtain ⟨hauto, hpair⟩ := not_or.mp hsource
    have hcert : c.tlsCert = "" := not_not.mp fun hcert ↦ hpair ⟨hcert, h.paired.mp hcert⟩
    exact ⟨not_not.mp hauto, hcert, (not_iff_not.mp h.paired).mp hcert⟩
  httpAddr := exists_optionalAddr_iff.mpr h.httpAddr
  httpsAddr := exists_optionalAddr_iff.mpr h.httpsAddr
  throttle := h.throttle

/-! ## Three cases -/

/-- How the certificate is come by and what the security check goes by, in each of the cases. -/
inductive Setup (c : ServerConfig) : Option TlsMode → SecurityOptions → Prop where
  | plain (hhttps : c.httpsAddr = "") (hauto : c.autoTlsHost = "") (hcert : c.tlsCert = "")
      (hkey : c.tlsKey = "") : Setup c none ⟨none, []⟩
  | automatic (hhttps : c.httpsAddr ≠ "") (hauto : c.autoTlsHost ≠ "") (hcert : c.tlsCert = "")
      (hkey : c.tlsKey = "") :
      Setup c (some (.automatic c.autoTlsHost)) ⟨some c.autoTlsHost, [c.autoTlsHost]⟩
  | manual (hhttps : c.httpsAddr ≠ "") (hauto : c.autoTlsHost = "") (hcert : c.tlsCert ≠ "")
      (hkey : c.tlsKey ≠ "") :
      Setup c (some (.manual c.tlsCert c.tlsKey)) ⟨some c.httpsAddr, []⟩

theorem Consistent.setup (h : c.Consistent) : Setup c c.tlsMode (.ofConfig c) := by
  by_cases hhttps : c.httpsAddr = ""
  · obtain ⟨hauto, hcert, hkey⟩ := h.plain hhttps
    have hmode : c.tlsMode = none := by simp [tlsMode, hhttps]
    have hoptions : SecurityOptions.ofConfig c = ⟨none, []⟩ := by
      simp [SecurityOptions.ofConfig, hauto, hhttps]
    rw [hmode, hoptions]
    exact .plain hhttps hauto hcert hkey
  · by_cases hauto : c.autoTlsHost = ""
    · obtain ⟨hcert, hkey⟩ := h.certified hhttps hauto
      have hmode : c.tlsMode = some (.manual c.tlsCert c.tlsKey) := by simp [tlsMode, hhttps, hauto]
      have hoptions : SecurityOptions.ofConfig c = ⟨some c.httpsAddr, []⟩ := by
        simp [SecurityOptions.ofConfig, hauto, hhttps]
      rw [hmode, hoptions]
      exact .manual hhttps hauto hcert hkey
    · obtain ⟨hcert, hkey⟩ := h.exclusive hauto
      have hmode : c.tlsMode = some (.automatic c.autoTlsHost) := by simp [tlsMode, hhttps, hauto]
      have hoptions : SecurityOptions.ofConfig c = ⟨some c.autoTlsHost, [c.autoTlsHost]⟩ := by
        simp [SecurityOptions.ofConfig, hauto]
      rw [hmode, hoptions]
      exact .automatic hhttps hauto hcert hkey

/-- What is read off a configuration fits together: there is an address for every place that is given, and
the rest belongs to one of the three cases. -/
structure Agrees (c : ServerConfig) : Prop where
  http : ∃ addr, c.httpSocketAddr = .ok addr ∧ (addr.isSome ↔ c.httpAddr ≠ "")
  https : ∃ addr, c.httpsSocketAddr = .ok addr ∧ (addr.isSome ↔ c.httpsAddr ≠ "")
  setup : Setup c c.tlsMode (.ofConfig c)

theorem Consistent.agrees (h : c.Consistent) : c.Agrees where
  http := by
    obtain ⟨addr, haddr⟩ := h.httpAddr
    exact ⟨addr, haddr, optionalAddr_isSome_iff haddr⟩
  https := by
    obtain ⟨addr, haddr⟩ := h.httpsAddr
    exact ⟨addr, haddr, optionalAddr_isSome_iff haddr⟩
  setup := h.setup

/-! ## Main result -/

/-- The check accepts exactly the valid configurations, and what is read off them fits together. -/
theorem validate_eq_ok_iff_valid (c : ServerConfig) :
    (c.validate = .ok () ↔ c.Valid) ∧ (c.validate = .ok () → c.Agrees) := by
  rw [validate_eq_ok_iff_consistent]
  exact ⟨⟨Consistent.valid, Valid.consistent⟩, Consistent.agrees⟩

def certifiedByFiles : ServerConfig :=
  ⟨"127.0.0.1:7071", "127.0.0.1:7443", "web", ⟨0, 0⟩, "", "cert.pem", "key.pem", "cache", none, false,
    ⟨60, 60⟩⟩

/-- With a certificate from files, plain requests are sent to the place for encrypted ones. -/
theorem certifiedByFiles_agrees :
    certifiedByFiles.validate = .ok () ∧ certifiedByFiles.Valid ∧
      certifiedByFiles.tlsMode = some (.manual "cert.pem" "key.pem") ∧
      SecurityOptions.ofConfig certifiedByFiles = ⟨some "127.0.0.1:7443", []⟩ := by
  have haccepted : certifiedByFiles.validate = .ok () := rfl
  obtain ⟨hvalid, hagrees⟩ := validate_eq_ok_iff_valid certifiedByFiles
  have hsetup := (hagrees haccepted).setup
  generalize certifiedByFiles.tlsMode = mode at hsetup ⊢
  generalize SecurityOptions.ofConfig certifiedByFiles = options at hsetup ⊢
  refine ⟨haccepted, hvalid.mp haccepted, ?_⟩
  cases hsetup with
  | plain hhttps => exact absurd hhttps (by decide)
  | automatic hhttps hauto => exact absurd rfl hauto
  | manual => exact ⟨rfl, rfl⟩

end DepositGate.ServerConfig
