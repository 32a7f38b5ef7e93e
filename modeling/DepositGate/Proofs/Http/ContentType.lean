import DepositGate.Http.Message
import DepositGate.Proofs.Http.Target
import DepositGate.Text.Character

/-!
# The type that a header names

A header of a type holds the name of the type and its parameters. Where it can be read as text, cutting it at
the first semicolon and trimming the blanks gives the name (`namesType_of_essence`, `essence_of_namesType`).
-/

namespace DepositGate

/-! ## Blanks around a text -/

namespace Text

theorem trimStart_append {blanks : List Char} (hblanks : ∀ c ∈ blanks, isBlank c = true)
    (cs : List Char) : trimStart (blanks ++ cs) = trimStart cs :=
  List.dropWhile_append_of_pos hblanks

theorem trimStart_eq_self {cs : List Char} (hcs : cs ≠ []) (h : ∀ c ∈ cs, isBlank c = false)
    (rest : List Char) : trimStart (cs ++ rest) = cs ++ rest := by
  cases cs with
  | nil => exact absurd rfl hcs
  | cons c cs => simp [trimStart, h c]

theorem trim_eq_of_blanks {before text after : List Char} (hbefore : ∀ c ∈ before, isBlank c = true)
    (hafter : ∀ c ∈ after, isBlank c = true) (htext : text ≠ [])
    (hsolid : ∀ c ∈ text, isBlank c = false) : trim (before ++ text ++ after) = text := by
  have htextReverse : text.reverse ≠ [] := by simpa using htext
  have hreverse : trimStart (after.reverse ++ text.reverse) = text.reverse := by
    rw [trimStart_append (by simpa using hafter)]
    simpa using trimStart_eq_self htextReverse (by simpa using hsolid) []
  rw [trim, List.append_assoc, trimStart_append hbefore, trimStart_eq_self htext hsolid,
    List.reverse_append, hreverse, List.reverse_reverse]

theorem exists_trimStart (cs : List Char) :
    ∃ blanks, cs = blanks ++ trimStart cs ∧ ∀ c ∈ blanks, isBlank c = true :=
  ⟨cs.takeWhile isBlank, List.takeWhile_append_dropWhile.symm, fun _ hc ↦ List.mem_takeWhile_imp hc⟩

theorem exists_trim (cs : List Char) : ∃ before after, cs = before ++ trim cs ++ after ∧
    (∀ c ∈ before, isBlank c = true) ∧ ∀ c ∈ after, isBlank c = true := by
  obtain ⟨before, hstart, hbefore⟩ := exists_trimStart cs
  obtain ⟨after, hend, hafter⟩ := exists_trimStart (trimStart cs).reverse
  refine ⟨before, after.reverse, ?_, hbefore, by simpa using hafter⟩
  have hreverse := congrArg List.reverse hend
  rw [List.reverse_reverse, List.reverse_append] at hreverse
  rw [List.append_assoc, trim, ← hreverse]
  exact hstart

theorem toLower_of_isBlank {c : Char} (h : isBlank c = true) : c.toLower = c := by
  have hletter : ¬(65 ≤ c.toNat ∧ c.toNat ≤ 90) := by
    intro hcase
    simp only [isBlank, Bool.or_eq_true, Bool.and_eq_true, decide_eq_true_eq, beq_iff_eq] at h
    omega
  unfold Char.toLower
  rw [dif_neg]
  simpa [UInt32.le_iff_toNat_le] using hletter

end Text

/-! ## The name of a type -/

namespace Http

/-- A value names a type: before any parameters it consists of the name in some case, between blanks. -/
def NamesType (type value : String) : Prop :=
  ∃ before essence after parameters,
    value.toList = before ++ essence ++ after ++ parameters ∧
      (∀ c ∈ before ++ after, c = ' ' ∨ c = '\t') ∧
        essence.map Char.toLower = type.toList ∧ ∀ c, parameters.head? = some c → c = ';'

theorem isBlank_iff_of_isVisible {value : String} (hvisible : isVisible value = true) {c : Char}
    (hc : c ∈ value.toList) : Text.isBlank c = true ↔ c = ' ' ∨ c = '\t' := by
  have hrange := List.all_eq_true.mp hvisible c hc
  constructor
  · intro hblank
    simp only [Bool.or_eq_true, beq_iff_eq, Bool.and_eq_true, decide_eq_true_eq] at hrange
    rcases hrange with htab | hrange
    · exact .inr htab
    · have hspace : c.toNat = 32 := by
        simp only [Text.isBlank, Bool.or_eq_true, Bool.and_eq_true, decide_eq_true_eq,
          beq_iff_eq] at hblank
        omega
      exact .inl (Char.toNat_inj.mp hspace)
  · rintro (rfl | rfl) <;> rfl

/-- What stands before any semicolon, without the blanks around it, is the name of a type only if the value
names the type. -/
theorem namesType_of_essence {type value : String} (hvisible : isVisible value = true)
    (hname : (Text.trim (value.toList.takeWhile (· != ';'))).map Char.toLower = type.toList) :
    NamesType type value := by
  obtain ⟨before, after, hsplit, hbefore, hafter⟩ :=
    Text.exists_trim (value.toList.takeWhile (· != ';'))
  refine ⟨before, _, after, value.toList.dropWhile (· != ';'), ?_, ?_, hname, ?_⟩
  · rw [← hsplit, List.takeWhile_append_dropWhile]
  · intro c hc
    have hblank : Text.isBlank c = true := (List.mem_append.mp hc).elim (hbefore c) (hafter c)
    have hmem : c ∈ value.toList.takeWhile (· != ';') := by
      rw [hsplit]
      rcases List.mem_append.mp hc with hc | hc <;> simp [hc]
    exact (isBlank_iff_of_isVisible hvisible ((List.takeWhile_prefix _).subset hmem)).mp hblank
  · intro c hc
    have hstop := List.head?_dropWhile_not (· != ';') value.toList
    rw [hc] at hstop
    simpa using hstop

theorem essence_of_namesType {type value : String} (hnonempty : type.toList ≠ [])
    (hsolid : ∀ c ∈ type.toList, c ≠ ';' ∧ Text.isBlank c = false) (h : NamesType type value) :
    (Text.trim (value.toList.takeWhile (· != ';'))).map Char.toLower = type.toList := by
  obtain ⟨before, essence, after, parameters, hvalue, hblanks, hname, hparameters⟩ := h
  have haround : ∀ c ∈ before ++ after, c ≠ ';' ∧ Text.isBlank c = true := by
    intro c hc
    rcases hblanks c hc with rfl | rfl <;> decide
  obtain ⟨hbefore, hafter⟩ := List.forall_mem_append.mp haround
  have hessence : ∀ c ∈ essence, c ≠ ';' ∧ Text.isBlank c = false := by
    intro c hc
    have hlower : c.toLower ∈ type.toList := by
      rw [← hname]
      exact List.mem_map_of_mem hc
    obtain ⟨hsemicolon, hblank⟩ := hsolid _ hlower
    constructor
    · rintro rfl
      exact hsemicolon rfl
    · -- Folding the case leaves a blank as it is, so one in the name would be one in the type.
      by_contra hcontra
      rw [Text.toLower_of_isBlank (by simpa using hcontra)] at hblank
      exact hcontra hblank
  have hne : essence ≠ [] := by
    rintro rfl
    exact hnonempty hname.symm
  have hcut : value.toList.takeWhile (· != ';') = before ++ essence ++ after := by
    rw [hvalue]
    refine Uri.takeWhile_append_of_stop ?_ ?_
    · simp only [List.forall_mem_append, bne_iff_ne]
      exact ⟨⟨fun c hc ↦ (hbefore c hc).1, fun c hc ↦ (hessence c hc).1⟩, fun c hc ↦ (hafter c hc).1⟩
    · intro c hc
      simp [hparameters c hc]
  have htrim : Text.trim (before ++ essence ++ after) = essence :=
    Text.trim_eq_of_blanks (fun c hc ↦ (hbefore c hc).2) (fun c hc ↦ (hafter c hc).2) hne
      fun c hc ↦ (hessence c hc).2
  rw [hcut, htrim, hname]

end Http

end DepositGate
