import Mathlib.Data.List.TakeWhile
import DepositGate.Http.Form

/-!
# What fields of a query stand for

`Denotes` says byte by byte what a name or a value stands for, and `reads_iff` that it decides what is read:
no byte is ill formed, since a percent sign that begins no code stands for itself. The fields of a query are
those of its parts (`pairs_append`), so that the first field of a name is settled by the part in which it
stands.
-/

namespace DepositGate.Http.Form

open Text (hexByteValue? pieces)

/-! ## Names and values -/

/-- A percent sign with two hexadecimal digits comes first. -/
def OpensCode (bytes : List UInt8) : Prop :=
  ∃ high low rest, bytes = 0x25 :: high :: low :: rest ∧ (hexByteValue? high).isSome ∧
    (hexByteValue? low).isSome

/-- What the bytes of a name or a value stand for. -/
inductive Denotes : List UInt8 → List UInt8 → Prop where
  | done : Denotes [] []
  | blank {bytes meant : List UInt8} (hrest : Denotes bytes meant) : Denotes (0x2B :: bytes) (0x20 :: meant)
  | code {high low : UInt8} {h l : Nat} {bytes meant : List UInt8} (hhigh : hexByteValue? high = some h)
      (hlow : hexByteValue? low = some l) (hrest : Denotes bytes meant) :
      Denotes (0x25 :: high :: low :: bytes) (UInt8.ofNat (16 * h + l) :: meant)
  | itself {b : UInt8} {bytes meant : List UInt8} (hblank : b ≠ 0x2B) (hcode : ¬OpensCode (b :: bytes))
      (hrest : Denotes bytes meant) : Denotes (b :: bytes) (b :: meant)

def Reads (cs : List Char) (text : String) : Prop :=
  ∃ meant, Denotes (Text.utf8 (String.ofList cs)) meant ∧ text = Text.ofUtf8Lossy meant

variable {bytes meant rest : List UInt8} {b high low : UInt8} {h l : Nat} {name : String}

def spaced (b : UInt8) : UInt8 :=
  if b == 0x2B then 0x20 else b

theorem spaced_of_ne (hb : b ≠ 0x2B) : spaced b = b := by
  simp [spaced, hb]

theorem spaced_of_digit (hb : hexByteValue? b = some h) : spaced b = b := by
  refine spaced_of_ne ?_
  rintro rfl
  have hnone : hexByteValue? 0x2B = none := by decide
  simp [hnone] at hb

theorem isSome_hexByteValue?_spaced : (hexByteValue? (spaced b)).isSome = (hexByteValue? b).isSome := by
  by_cases hb : b = 0x2B
  · rw [hb]
    decide
  · rw [spaced_of_ne hb]

/-! The function puts a blank for every plus sign before it reads any code. -/

theorem percentDecodeFrom_code (done : List UInt8) (hhigh : hexByteValue? high = some h)
    (hlow : hexByteValue? low = some l) :
    percentDecodeFrom done (0x25 :: high :: low :: rest) =
      percentDecodeFrom (UInt8.ofNat (16 * h + l) :: done) rest := by
  rw [percentDecodeFrom, hhigh, hlow]

theorem percentDecodeFrom_itself (done : List UInt8) (hcode : ¬OpensCode (b :: rest)) :
    percentDecodeFrom done (b :: rest) = percentDecodeFrom (b :: done) rest := by
  generalize hbytes : b :: rest = bytes at hcode ⊢
  fun_cases percentDecodeFrom done bytes with
  | case1 => cases hbytes
  | case2 high low behind h l hlow hhigh =>
      exact absurd ⟨high, low, behind, rfl, by simp [hhigh], by simp [hlow]⟩ hcode
  | case3 | case4 =>
      cases hbytes
      rfl

theorem OpensCode.of_map_spaced (h : OpensCode (bytes.map spaced)) : OpensCode bytes := by
  obtain ⟨high, low, rest, hmap, hhigh, hlow⟩ := h
  simp only [List.map_eq_cons_iff] at hmap
  obtain ⟨b, _, rfl, hb, high, _, rfl, rfl, low, rest, rfl, rfl, rfl⟩ := hmap
  rw [isSome_hexByteValue?_spaced] at hhigh hlow
  have hblank : b ≠ 0x2B := by
    rintro rfl
    exact absurd hb (by decide)
  rw [spaced_of_ne hblank] at hb
  exact ⟨high, low, rest, by rw [hb], hhigh, hlow⟩

theorem Denotes.percentDecodeFrom (hbytes : Denotes bytes meant) (done : List UInt8) :
    percentDecodeFrom done (bytes.map spaced) = done.reverse ++ meant := by
  induction hbytes generalizing done with
  | done => simp [Form.percentDecodeFrom]
  | blank hrest ih =>
      rw [List.map_cons, percentDecodeFrom_itself done (by simp [OpensCode, spaced]), ih]
      simp [spaced]
  | code hhigh hlow hrest ih =>
      rw [List.map_cons, List.map_cons, List.map_cons, spaced_of_digit hhigh, spaced_of_digit hlow,
        spaced_of_ne (by decide), percentDecodeFrom_code done hhigh hlow, ih]
      simp
  | itself hblank hcode hrest ih =>
      have hmapped := mt OpensCode.of_map_spaced hcode
      rw [List.map_cons, spaced_of_ne hblank] at hmapped ⊢
      rw [percentDecodeFrom_itself done hmapped, ih]
      simp

/-- Any bytes stand for something. -/
theorem exists_denotes (bytes : List UInt8) : ∃ meant, Denotes bytes meant := by
  by_cases hcode : OpensCode bytes
  · obtain ⟨high, low, rest, rfl, hhigh, hlow⟩ := hcode
    obtain ⟨h, hhigh⟩ := Option.isSome_iff_exists.mp hhigh
    obtain ⟨l, hlow⟩ := Option.isSome_iff_exists.mp hlow
    obtain ⟨meant, hrest⟩ := exists_denotes rest
    exact ⟨_, .code hhigh hlow hrest⟩
  match bytes with
  | [] => exact ⟨[], .done⟩
  | b :: rest =>
      obtain ⟨meant, hrest⟩ := exists_denotes rest
      by_cases hblank : b = 0x2B
      · rw [hblank]
        exact ⟨_, .blank hrest⟩
      · exact ⟨_, .itself hblank hcode hrest⟩
termination_by bytes.length

theorem Denotes.decode {cs : List Char} (h : Denotes (Text.utf8 (String.ofList cs)) meant) :
    decode cs = Text.ofUtf8Lossy meant :=
  congrArg Text.ofUtf8Lossy (h.percentDecodeFrom [])

theorem decode_nil : Form.decode [] = "" := by
  have hnil : Denotes (Text.utf8 (String.ofList [])) [] := .done
  exact hnil.decode.trans (Text.ofUtf8Lossy_utf8 "")

/-- A name or a value is read as the one text for which it stands. -/
theorem reads_iff {cs : List Char} {text : String} : Reads cs text ↔ text = decode cs := by
  constructor
  · rintro ⟨meant, hmeant, rfl⟩
    exact hmeant.decode.symm
  · rintro rfl
    obtain ⟨meant, hmeant⟩ := exists_denotes (Text.utf8 (String.ofList cs))
    exact ⟨meant, hmeant, hmeant.decode⟩

/-! ## Fields -/

/-- A part of a query is a field: a name and a value with the first `=` between them, or a name alone. -/
inductive IsField : List Char → String → String → Prop where
  | valued {key value : List Char} {name text : String} (hkey : '=' ∉ key) (hname : Reads key name)
      (htext : Reads value text) : IsField (key ++ '=' :: value) name text
  | bare {key : List Char} {name : String} (hkey : '=' ∉ key) (hname : Reads key name) : IsField key name ""

theorem pair_append_cons {key : List Char} (hkey : '=' ∉ key) (value : List Char) :
    pair (key ++ '=' :: value) = (decode key, decode value) := by
  have hname : (key ++ '=' :: value).takeWhile (· != '=') = key := by
    rw [List.takeWhile_append_of_pos (by simpa using fun c hc ↦ ne_of_mem_of_not_mem hc hkey)]
    simp
  simp [pair, hname]

theorem pair_of_not_mem {key : List Char} (hkey : '=' ∉ key) : pair key = (decode key, "") := by
  have hname : key.takeWhile (· != '=') = key :=
    List.takeWhile_eq_self_iff.mpr (by simpa using fun c hc ↦ ne_of_mem_of_not_mem hc hkey)
  simp only [pair, hname, List.drop_eq_nil_of_le (Nat.le_succ _), decode_nil]

theorem pair_eq_iff {cs : List Char} {text : String} : pair cs = (name, text) ↔ IsField cs name text := by
  constructor
  · intro hpair
    by_cases hcs : '=' ∈ cs
    · obtain ⟨key, value, rfl, hkey⟩ := List.eq_append_cons_of_mem hcs
      rw [pair_append_cons hkey, Prod.mk.injEq] at hpair
      exact .valued hkey (reads_iff.mpr hpair.1.symm) (reads_iff.mpr hpair.2.symm)
    · rw [pair_of_not_mem hcs, Prod.mk.injEq] at hpair
      obtain ⟨hname, rfl⟩ := hpair
      exact .bare hcs (reads_iff.mpr hname.symm)
  · intro hfield
    cases hfield with
    | valued hkey hname htext => rw [pair_append_cons hkey, reads_iff.mp hname, reads_iff.mp htext]
    | bare hkey hname => rw [pair_of_not_mem hkey, reads_iff.mp hname]

theorem forall_not_isField_iff {cs : List Char} :
    (∀ text, ¬IsField cs name text) ↔ (pair cs).1 ≠ name := by
  constructor
  · rintro hnone rfl
    exact hnone _ (pair_eq_iff.mp rfl)
  · intro hne text hfield
    rw [← pair_eq_iff] at hfield
    exact hne (congrArg Prod.fst hfield)

theorem pairs_append (p q : String) : pairs (p ++ "&" ++ q) = pairs p ++ pairs q := by
  have hand : ("&" : String).toList = ['&'] := rfl
  simp only [pairs, String.toList_append, hand, List.append_assoc, List.singleton_append,
    Text.pieces_append_cons, List.filter_append, List.map_append]

theorem pairs_of_isField {kv text : String} (hkv : '&' ∉ kv.toList) (hfield : IsField kv.toList name text)
    (hname : name ≠ "") : pairs kv = [(name, text)] := by
  have hne : kv.toList ≠ [] := by
    intro hnil
    rw [hnil, ← pair_eq_iff, pair_of_not_mem List.not_mem_nil, Prod.mk.injEq] at hfield
    exact hname (hfield.1.symm.trans decode_nil)
  simp [pairs, Text.pieces_of_not_mem hkv, hne, pair_eq_iff.mpr hfield]

/-- What may stand in front of the first field of a name: nothing, or fields of other names. -/
inductive IsLead (name : String) : String → Prop where
  | front : IsLead name ""
  | behind {p : String} (hp : ∀ part ∈ pieces '&' p.toList, ∀ text, ¬IsField part name text) :
      IsLead name (p ++ "&")

theorem IsLead.first?_append {lead : String} (hlead : IsLead name lead) (query : String) :
    first? name (lead ++ query) = first? name query := by
  cases hlead with
  | front => rw [String.empty_append]
  | @behind p hp =>
      have hnone : (pairs p).find? (·.1 == name) = none := by
        rw [List.find?_eq_none]
        intro field hmem heq
        obtain ⟨part, hpart, rfl⟩ := List.mem_map.mp hmem
        exact forall_not_isField_iff.mp (hp part (List.mem_filter.mp hpart).1) (eq_of_beq heq)
      simp [first?, pairs_append, List.find?_append, hnone]

/-- The first field of a name is found whatever follows. -/
theorem first?_of_isField {lead kv text : String} (hlead : IsLead name lead) (hkv : '&' ∉ kv.toList)
    (hfield : IsField kv.toList name text) (hname : name ≠ "") :
    first? name (lead ++ kv) = some text ∧ ∀ q, first? name (lead ++ kv ++ "&" ++ q) = some text := by
  have hpair := pairs_of_isField hkv hfield hname
  constructor
  · rw [hlead.first?_append]
    simp [first?, hpair]
  · intro q
    rw [String.append_assoc, String.append_assoc, hlead.first?_append, ← String.append_assoc]
    simp [first?, pairs_append, hpair]

end DepositGate.Http.Form
