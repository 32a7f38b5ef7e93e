import Mathlib.Data.List.TakeWhile
import DepositGate.Proofs.Http.Uri

/-!
# The forms of a target

Whatever its text, a target is a path with a query, an asterisk, an authority alone or an absolute address
(`form_ofString`). An absolute address is read back part by part (`ofString_absolute`), as long as what
stands behind its authority is set off from it.
-/

namespace DepositGate.Http.Uri

/-! ## Reading a target -/

/-- What may stand behind an authority: nothing, a path or a query. -/
def EndsAuthority (rest : List Char) : Prop :=
  ∀ c, rest.head? = some c → c = '/' ∨ c = '?'

def IsAsterisk (target : String) : Prop :=
  target.toList.takeWhile (· != '#') = ['*']

instance (target : String) : Decidable (IsAsterisk target) :=
  inferInstanceAs (Decidable (_ = _))

inductive Form (target : String) : Uri → Prop where
  | origin {rest : String} (hfragment : '#' ∉ rest.toList) (hroot : rest.toList.head? = some '/') :
      Form target ⟨none, none, rest⟩
  | asterisk (hasterisk : IsAsterisk target) : Form target ⟨none, none, "*"⟩
  | authority (authority : String) : Form target ⟨none, some authority, ""⟩
  | absolute {rest : String} (scheme authority : String) (hfragment : '#' ∉ rest.toList)
      (hends : EndsAuthority rest.toList) : Form target ⟨some scheme, some authority, rest⟩

theorem drop_length_takeWhile {α : Type} (p : α → Bool) (as : List α) :
    as.drop (as.takeWhile p).length = as.dropWhile p := by
  have hsplit := congrArg (List.drop (as.takeWhile p).length)
    (List.takeWhile_append_dropWhile (p := p) (l := as))
  rwa [List.drop_left, eq_comm] at hsplit

theorem endsAuthority_dropWhile (cs : List Char) :
    EndsAuthority (cs.dropWhile fun c ↦ c != '/' && c != '?') := by
  intro c hc
  have hstop := List.head?_dropWhile_not (fun c ↦ c != '/' && c != '?') cs
  rw [hc] at hstop
  by_cases hslash : c = '/'
  · exact .inl hslash
  · exact .inr (by simpa [hslash] using hstop)

theorem form_ofRelative {target : String} (hfragment : '#' ∉ target.toList.takeWhile (· != '#')) :
    Form target (ofRelative (target.toList.takeWhile (· != '#'))) := by
  unfold ofRelative
  split
  · next h =>
    by_cases hasterisk : IsAsterisk target
    · rw [hasterisk]
      exact .asterisk hasterisk
    · exact .origin (by simpa using hfragment) (by simpa using h.resolve_right hasterisk)
  · exact .authority _

theorem form_ofString (target : String) : Form target (ofString target) := by
  have hfragment : '#' ∉ target.toList.takeWhile (· != '#') := by
    intro hmem
    simpa using List.mem_takeWhile_imp hmem
  unfold ofString
  extract_lets cs name
  split
  · next rest hdrop =>
    have hrest : '#' ∉ rest := by
      intro hmem
      have hbehind : '#' ∈ cs.drop name.length := by
        rw [hdrop]
        simp [hmem]
      exact hfragment (List.mem_of_mem_drop hbehind)
    simp only [drop_length_takeWhile]
    refine .absolute _ _ ?_ ?_
    · rw [String.toList_ofList]
      exact fun hmem ↦ hrest ((List.dropWhile_suffix _).subset hmem)
    · rw [String.toList_ofList]
      exact endsAuthority_dropWhile rest
  · exact form_ofRelative hfragment

theorem ofString_of_isAsterisk {target : String} (h : IsAsterisk target) :
    ofString target = ⟨none, none, "*"⟩ := by
  unfold ofString
  rw [h]
  rfl

/-! ## Reading an absolute address -/

/-- A text that can be an authority as a whole, such as a host with or without a port. -/
def IsAuthority (text : String) : Prop :=
  ∀ c ∈ text.toList, c ≠ '/' ∧ c ≠ '?' ∧ c ≠ '#'

instance (text : String) : Decidable (IsAuthority text) :=
  List.decidableBAll _ _

theorem takeWhile_append_of_stop {α : Type} {p : α → Bool} {body rest : List α}
    (hbody : ∀ a ∈ body, p a = true) (hstop : ∀ a, rest.head? = some a → p a = false) :
    (body ++ rest).takeWhile p = body := by
  rw [List.takeWhile_append_of_pos hbody]
  cases rest with
  | nil => simp
  | cons a rest => simp [hstop a rfl]

/-- The parts of an encrypted address are read back if they are set off from each other. -/
theorem ofString_absolute {authority rest : String} (hauthority : IsAuthority authority)
    (hends : EndsAuthority rest.toList) (hfragment : '#' ∉ rest.toList) :
    ofString ("https://" ++ authority ++ rest) = ⟨some https, some authority, rest⟩ := by
  have htext : ("https://" ++ authority ++ rest).toList =
      https.toList ++ ':' :: '/' :: '/' :: (authority.toList ++ rest.toList) := by
    simp [https]
  have hwhole : (https.toList ++ ':' :: '/' :: '/' :: (authority.toList ++ rest.toList)).takeWhile
      (· != '#') = https.toList ++ ':' :: '/' :: '/' :: (authority.toList ++ rest.toList) := by
    have hname : ∀ c ∈ https.toList, c ≠ '#' := by simp [https]
    have hrest : ∀ c ∈ rest.toList, c ≠ '#' := fun c hc h ↦ hfragment (h ▸ hc)
    rw [List.takeWhile_eq_self_iff]
    simp only [List.forall_mem_append, List.forall_mem_cons, bne_iff_ne, ne_eq]
    exact ⟨hname, by decide, by decide, by decide, fun c hc ↦ (hauthority c hc).2.2, hrest⟩
  have hname : (https.toList ++ ':' :: '/' :: '/' :: (authority.toList ++ rest.toList)).takeWhile
      (fun c ↦ c != ':' && c != '/' && c != '?') = https.toList :=
    takeWhile_append_of_stop (by simp [https]) (by simp)
  have hbehind : (authority.toList ++ rest.toList).takeWhile (fun c ↦ c != '/' && c != '?') =
      authority.toList := by
    refine takeWhile_append_of_stop ?_ ?_
    · intro c hc
      simp [hauthority c hc]
    · intro c hc
      rcases hends c hc with rfl | rfl <;> rfl
  simp only [ofString, htext, hwhole, hname, List.drop_left, hbehind, String.ofList_toList]
  rfl

end DepositGate.Http.Uri
