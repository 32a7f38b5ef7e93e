import DepositGate.Config.Basic

/-!
# Consistent configurations

What the check of a configuration asks for, field by field, and what may be relied on afterwards: the places
to listen can be read, and there is a way to come by a certificate exactly if one is needed.
-/

namespace DepositGate

/-! ## Checks one after another -/

section Checks

variable {ε α β : Type}

theorem bind_eq_ok_iff {x : Except ε α} {f : α → Except ε β} {b : β} :
    (x >>= f) = .ok b ↔ ∃ a, x = .ok a ∧ f a = .ok b := by
  cases x with
  | error e => simp [bind, Except.bind]
  | ok a => simp [bind, Except.bind]

theorem guard_bind_eq_ok_iff {p : Prop} [Decidable p] {e : ε} {k : PUnit → Except ε α} {a : α} :
    (if p then (Except.error e : Except ε PUnit) >>= k else k ()) = .ok a ↔ ¬p ∧ k () = .ok a := by
  by_cases hp : p
  · simp [hp, bind, Except.bind]
  · simp [hp]

theorem guard_eq_ok_iff {p : Prop} [Decidable p] {e : ε} :
    ((if p then .error e else pure ()) : Except ε Unit) = .ok () ↔ ¬p := by
  by_cases hp : p
  · simp [hp]
  · simp [hp, pure, Except.pure]

end Checks

namespace ServerConfig

variable {c : ServerConfig}

/-- A configuration with a place to listen, with a certificate exactly where encrypted requests are listened
for, from one source, with places that are addresses, and with a throttle that admits something. -/
structure Consistent (c : ServerConfig) : Prop where
  listens : c.httpAddr = "" → c.httpsAddr ≠ ""
  certified : c.httpsAddr ≠ "" → c.autoTlsHost = "" → c.tlsCert ≠ "" ∧ c.tlsKey ≠ ""
  paired : c.tlsCert = "" ↔ c.tlsKey = ""
  exclusive : c.autoTlsHost ≠ "" → c.tlsCert = "" ∧ c.tlsKey = ""
  plain : c.httpsAddr = "" → c.autoTlsHost = "" ∧ c.tlsCert = "" ∧ c.tlsKey = ""
  httpAddr : ∃ addr, c.httpSocketAddr = .ok addr
  httpsAddr : ∃ addr, c.httpsSocketAddr = .ok addr
  throttle : c.throttle.max ≠ 0 ∧ c.throttle.windowSecs ≠ 0

theorem isEmpty_bne_isEmpty_iff {a b : String} :
    ((!a.isEmpty) != !b.isEmpty) = true ↔ ¬(a = "" ↔ b = "") := by
  rw [← String.isEmpty_iff, ← String.isEmpty_iff]
  cases a.isEmpty <;> cases b.isEmpty <;> simp

theorem validate_eq_ok_iff_consistent : c.validate = .ok () ↔ c.Consistent := by
  simp only [validate, guard_bind_eq_ok_iff, bind_eq_ok_iff, guard_eq_ok_iff, isEmpty_bne_isEmpty_iff]
  constructor
  · rintro ⟨hlistens, hcertified, hpaired, hexclusive, hplain, http, hhttp, https, hhttps, hthrottle⟩
    exact {
      listens := by simpa using hlistens
      certified := by simpa using hcertified
      paired := by simpa using hpaired
      exclusive := by simpa using hexclusive
      plain := by simpa [and_assoc] using hplain
      httpAddr := ⟨http, hhttp⟩
      httpsAddr := ⟨https, hhttps⟩
      throttle := by simpa using hthrottle }
  · intro h
    obtain ⟨http, hhttp⟩ := h.httpAddr
    obtain ⟨https, hhttps⟩ := h.httpsAddr
    refine ⟨?_, ?_, ?_, ?_, ?_, http, hhttp, https, hhttps, ?_⟩
    · simpa using h.listens
    · simpa using h.certified
    · simpa using h.paired
    · simpa using h.exclusive
    · simpa [and_assoc] using h.plain
    · simpa using h.throttle

/-! ## Fields that are read again -/

theorem optionalAddr_isSome_iff {field value : String} {addr : Option Net.SocketAddr}
    (h : optionalAddr field value = .ok addr) : addr.isSome ↔ value ≠ "" := by
  unfold optionalAddr parseAddr at h
  by_cases hvalue : value = ""
  · obtain rfl : none = addr := by simpa [hvalue] using h
    simp [hvalue]
  · cases hread : Net.SocketAddr.read? value with
    | none => simp [hvalue, hread, Except.map] at h
    | some a =>
        obtain rfl : some a = addr := by simpa [hvalue, hread, Except.map] using h
        simp [hvalue]

theorem tlsMode_isSome_iff (c : ServerConfig) : c.tlsMode.isSome ↔ c.httpsAddr ≠ "" := by
  unfold tlsMode
  by_cases hhttps : c.httpsAddr = ""
  · simp [hhttps]
  · by_cases hauto : c.autoTlsHost = ""
    · simp [hhttps, hauto]
    · simp [hhttps, hauto]

end ServerConfig

end DepositGate
