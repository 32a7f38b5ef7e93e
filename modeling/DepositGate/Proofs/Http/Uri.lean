import Mathlib.Data.List.Basic
import DepositGate.Http.Uri

/-!
# The scheme of a target

A target has the scheme of encrypted requests if and only if its text begins with that scheme, in
whatever case.
-/

namespace DepositGate.Http.Uri

theorem toNat_toLower_of_isUpper {c : Char} (h : c.val ≥ 'A'.val ∧ c.val ≤ 'Z'.val) :
    c.toLower.toNat = c.toNat + 32 := by
  have hlower : c.toLower.toNat = (c.val + 32).toNat :=
    congrArg Char.toNat (dif_pos h)
  have hz : c.val.toNat ≤ 90 := UInt32.le_iff_toNat_le.mp h.2
  have hc : c.toNat = c.val.toNat := rfl
  have h32 : (32 : UInt32).toNat = 32 := rfl
  rw [hlower, UInt32.toNat_add]
  omega

/-- Lower case makes no marks out of other characters. -/
theorem eq_of_toLower_eq {c d : Char} (hd : d.toNat < 97) (h : c.toLower = d) : c = d := by
  by_cases hupper : c.val ≥ 'A'.val ∧ c.val ≤ 'Z'.val
  · have ha : 65 ≤ c.toNat := UInt32.le_iff_toNat_le.mp hupper.1
    have hlower := toNat_toLower_of_isUpper hupper
    rw [h] at hlower
    omega
  · have hsame : c.toLower = c := dif_neg hupper
    rwa [hsame] at h

/-- A text begins with the scheme of encrypted requests, in whatever case. -/
def AsksForEncryption (target : String) : Prop :=
  (https ++ "://").toList <+: target.toList.map Char.toLower

instance (target : String) : Decidable (AsksForEncryption target) :=
  inferInstanceAs (Decidable (_ <+: _))

theorem asksForEncryption_iff {target : String} : AsksForEncryption target ↔
    ∃ name rest, target.toList = name ++ ':' :: '/' :: '/' :: rest ∧
      name.map Char.toLower = https.toList := by
  constructor
  · rintro ⟨rest, hrest⟩
    rw [String.toList_append, List.append_assoc] at hrest
    obtain ⟨name, behind, htarget, hname, hbehind⟩ := List.map_eq_append_iff.mp hrest.symm
    obtain ⟨marks, rest', rfl, hmarks, -⟩ := List.map_eq_append_iff.mp hbehind
    obtain ⟨a, b, c, rfl⟩ : ∃ a b c, marks = [a, b, c] :=
      List.length_eq_three.mp (by simpa using congrArg List.length hmarks)
    have hmarks' : a.toLower = ':' ∧ b.toLower = '/' ∧ c.toLower = '/' := by simpa using hmarks
    obtain rfl := eq_of_toLower_eq (by decide) hmarks'.1
    obtain rfl := eq_of_toLower_eq (by decide) hmarks'.2.1
    obtain rfl := eq_of_toLower_eq (by decide) hmarks'.2.2
    exact ⟨name, rest', htarget, hname⟩
  · rintro ⟨name, rest, htarget, hname⟩
    refine ⟨rest.map Char.toLower, ?_⟩
    rw [htarget, List.map_append, hname, String.toList_append, List.append_assoc]
    rfl

theorem scheme_ofRelative (cs : List Char) : (ofRelative cs).scheme = none := by
  unfold ofRelative
  split <;> rfl

def schemeOf (name : List Char) : String :=
  let lower := String.ofList (name.map Char.toLower)
  if lower = http ∨ lower = https then lower else String.ofList name

theorem schemeOf_eq_https_iff (name : List Char) :
    schemeOf name = https ↔ name.map Char.toLower = https.toList := by
  constructor
  · intro h
    by_cases hlower : String.ofList (name.map Char.toLower) = http ∨
        String.ofList (name.map Char.toLower) = https
    · simp only [schemeOf, hlower, if_true] at h
      simpa using congrArg String.toList h
    · simp only [schemeOf, hlower, if_false] at h
      obtain rfl : name = https.toList := by simpa using congrArg String.toList h
      exact (hlower (Or.inr (by decide))).elim
  · intro h
    simp [schemeOf, h]

theorem exists_of_scheme_ofString {target scheme : String}
    (h : (ofString target).scheme = some scheme) :
    ∃ name rest, target.toList = name ++ ':' :: '/' :: '/' :: rest ∧ schemeOf name = scheme := by
  unfold ofString at h
  extract_lets cs name at h
  obtain ⟨behind, hcs⟩ : name <+: cs := List.takeWhile_prefix _
  obtain ⟨fragment, htarget⟩ : cs <+: target.toList := List.takeWhile_prefix _
  split at h
  · next rest hdrop =>
      obtain rfl : behind = ':' :: '/' :: '/' :: rest := by
        rw [← hdrop, ← hcs, List.drop_left]
      refine ⟨name, rest ++ fragment, ?_, Option.some.inj h⟩
      rw [← htarget, ← hcs]
      simp
  · simp [scheme_ofRelative] at h

theorem scheme_ofString {target : String} {name rest : List Char}
    (htarget : target.toList = name ++ ':' :: '/' :: '/' :: rest)
    (hname : ∀ c ∈ name, c ≠ '#' ∧ c ≠ ':' ∧ c ≠ '/' ∧ c ≠ '?') :
    (ofString target).scheme = some (schemeOf name) := by
  have hfragment : target.toList.takeWhile (· != '#') =
      name ++ ':' :: '/' :: '/' :: rest.takeWhile (· != '#') := by
    rw [htarget, List.takeWhile_append_of_pos fun c hc ↦ by simpa using (hname c hc).1]
    simp
  have hscheme : (name ++ ':' :: '/' :: '/' :: rest.takeWhile (· != '#')).takeWhile
      (fun c ↦ c != ':' && c != '/' && c != '?') = name := by
    rw [List.takeWhile_append_of_pos fun c hc ↦ by simpa [and_assoc] using (hname c hc).2]
    simp
  simp only [ofString, hfragment, hscheme, List.drop_left]
  rfl

/-- A target has the scheme of encrypted requests if and only if its text begins with it. -/
theorem scheme_ofString_eq_https_iff (target : String) :
    (ofString target).scheme = some https ↔ AsksForEncryption target := by
  rw [asksForEncryption_iff]
  constructor
  · intro h
    obtain ⟨name, rest, htarget, hname⟩ := exists_of_scheme_ofString h
    exact ⟨name, rest, htarget, (schemeOf_eq_https_iff name).mp hname⟩
  · rintro ⟨name, rest, htarget, hname⟩
    rw [scheme_ofString htarget, (schemeOf_eq_https_iff name).mpr hname]
    intro c hc
    have hlower : c.toLower ∈ https.toList := hname ▸ List.mem_map_of_mem hc
    refine ⟨?_, ?_, ?_, ?_⟩ <;> rintro rfl <;> revert hlower <;> decide

end DepositGate.Http.Uri
