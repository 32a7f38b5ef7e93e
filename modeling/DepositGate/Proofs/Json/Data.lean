import Mathlib.Data.String.Basic
import DepositGate.Json.Document
import DepositGate.Proofs.Json.Parts

/-!
# Data that are read back

Data without floating-point numbers are read back from their JSON texts, if their integers have 64 bits, the
names of their tables are in ascending order and not too many of them lie inside one another.
-/

namespace DepositGate.Json

/-! ## Data as parts -/

theorem encodeItems_eq_map (items : List Datum) : encodeItems items = items.map encode := by
  induction items with
  | nil => rfl
  | cons item items ih => rw [encodeItems, ih, List.map_cons]

theorem encodeMembers_eq_map (members : List (String × Datum)) :
    encodeMembers members = members.map fun member ↦ memberText member.1 (encode member.2) := by
  induction members with
  | nil => rfl
  | cons member members ih =>
      obtain ⟨name, value⟩ := member
      rw [encodeMembers, ih, List.map_cons]
      rfl

theorem encode_list (items : List Datum) :
    encode (.list items) = 0x5B :: commaSeparated (items.map encode) ++ [0x5D] := by
  rw [encode, encodeItems_eq_map]

theorem encode_table (members : List (String × Datum)) :
    encode (.table members) =
      0x7B :: commaSeparated (members.map fun member ↦ memberText member.1 (encode member.2)) ++ [0x7D] := by
  rw [encode, encodeMembers_eq_map]

/-! ## Plain data -/

/-- Data that a JSON text gives back to a reader that goes so many levels deep. -/
inductive Plain : Nat → Datum → Prop where
  | null (depth : Nat) : Plain (depth + 1) .null
  | bool (depth : Nat) (b : Bool) : Plain (depth + 1) (.bool b)
  | int (depth : Nat) {n : Int} (hlow : -0x8000000000000000 ≤ n) (hhigh : n ≤ 0xffffffffffffffff) :
      Plain (depth + 1) (.int n)
  | text (depth : Nat) (s : String) : Plain (depth + 1) (.text s)
  | list {depth : Nat} {items : List Datum} (hitems : ∀ item ∈ items, Plain depth item) :
      Plain (depth + 1) (.list items)
  | table {depth : Nat} {members : List (String × Datum)}
      (hvalues : ∀ member ∈ members, Plain depth member.2)
      (hnames : (members.map Prod.fst).Pairwise (· < ·)) : Plain (depth + 1) (.table members)

theorem utf8_null : Text.utf8 "null" = 0x6E :: Text.utf8 "ull" := by decide +kernel

theorem utf8_true : Text.utf8 "true" = 0x74 :: Text.utf8 "rue" := by decide +kernel

theorem utf8_false : Text.utf8 "false" = 0x66 :: Text.utf8 "alse" := by decide +kernel

theorem Plain.opens {depth : Nat} {d : Datum} (h : Plain depth d) : Opens (encode d) := by
  cases h with
  | null => exact ⟨0x6E, _, by rw [encode, utf8_null], by decide, by decide⟩
  | bool _ b =>
      cases b with
      | false => exact ⟨0x66, _, by rw [encode, if_neg (by decide), utf8_false], by decide, by decide⟩
      | true => exact ⟨0x74, _, by rw [encode, if_pos rfl, utf8_true], by decide, by decide⟩
  | int _ hlow hhigh => exact opens_toString _
  | text _ s => exact opens_encodeText s
  | list hitems => exact ⟨0x5B, _, encode_list _, by decide, by decide⟩
  | table hvalues hnames => exact ⟨0x7B, _, encode_table _, by decide, by decide⟩

theorem readWord_append (word rest : List UInt8) : readWord word (word ++ rest) = .ok rest := by
  induction word with
  | nil => cases rest <;> rfl
  | cons b word ih => simp [readWord, ih]

theorem putMember_of_lt {name : String} {value : Datum} {members : List (String × Datum)}
    (h : ∀ member ∈ members, member.1 < name) :
    putMember name value members = members ++ [(name, value)] := by
  induction members with
  | nil => rfl
  | cons member members ih =>
      obtain ⟨hlt, hrest⟩ := List.forall_mem_cons.mp h
      rw [putMember, if_neg hlt.ne', if_neg hlt.asymm, ih hrest, List.cons_append]

def readMemberValue (depth : Nat) (members : List (String × Datum)) (name : String) :
    Reader (List (String × Datum)) := fun bytes ↦ do
  let rest ← readColon bytes
  let (value, rest) ← readValue depth rest
  .ok (putMember name value members, rest)

theorem collects_members {depth : Nat} {members before : List (String × Datum)}
    (hvalues : ∀ member ∈ members, Reads (readValue depth) (encode member.2) member.2)
    (hnames : ((before ++ members).map Prod.fst).Pairwise (· < ·)) :
    Collects (readMemberValue depth) before
      (members.map fun member ↦ memberText member.1 (encode member.2)) (before ++ members) := by
  induction members generalizing before with
  | nil =>
      rw [List.append_nil]
      exact .nil before
  | cons member members ih =>
      obtain ⟨hvalue, hrest⟩ := List.forall_mem_cons.mp hvalues
      have hput : putMember member.1 member.2 before = before ++ [member] := by
        apply putMember_of_lt
        intro earlier hearlier
        rw [List.map_append, List.pairwise_append] at hnames
        exact hnames.2.2 _ (List.mem_map_of_mem hearlier) _ (by simp)
      have hread : Reads (readMemberValue depth before member.1) (0x3A :: encode member.2) (before ++ [member]) := by
        intro rest hdelimited
        have hcolon : readColon (0x3A :: (encode member.2 ++ rest)) = .ok (encode member.2 ++ rest) := rfl
        rw [List.cons_append, readMemberValue, hcolon]
        simp only [hvalue rest hdelimited, hput, bind, Except.bind]
      have hmembers := @ih (before ++ [member]) hrest (by simpa using hnames)
      rw [List.append_assoc, List.singleton_append] at hmembers
      exact .cons hread hmembers

/-! ## One kind of data after another -/

section Kinds

variable (depth : Nat)

theorem reads_null : Reads (readValue (depth + 1)) (encode .null) .null := by
  intro rest hrest
  have hword (bytes : List UInt8) : readValue (depth + 1) (0x6E :: bytes) =
      (readWord (Text.utf8 "ull") bytes).map fun rest ↦ (.null, rest) := rfl
  rw [encode, utf8_null, List.cons_append, hword, readWord_append]
  rfl

theorem reads_bool (b : Bool) : Reads (readValue (depth + 1)) (encode (.bool b)) (.bool b) := by
  intro rest hrest
  cases b with
  | false =>
      have hword (bytes : List UInt8) : readValue (depth + 1) (0x66 :: bytes) =
          (readWord (Text.utf8 "alse") bytes).map fun rest ↦ (.bool false, rest) := rfl
      rw [encode, if_neg (by decide), utf8_false, List.cons_append, hword, readWord_append]
      rfl
  | true =>
      have hword (bytes : List UInt8) : readValue (depth + 1) (0x74 :: bytes) =
          (readWord (Text.utf8 "rue") bytes).map fun rest ↦ (.bool true, rest) := rfl
      rw [encode, if_pos rfl, utf8_true, List.cons_append, hword, readWord_append]
      rfl

theorem reads_int {n : Int} (hlow : -0x8000000000000000 ≤ n) (hhigh : n ≤ 0xffffffffffffffff) :
    Reads (readValue (depth + 1)) (encode (.int n)) (.int n) := by
  intro rest hrest
  have hnumeral := readNumeral_toString hlow hhigh hrest
  obtain ⟨b, bytes, hbytes, hb⟩ := exists_toString_eq_cons n
  have hskip := skipBlanks_of_not_isBlank (not_isBlank_of_opensNumeral hb) (bytes ++ rest)
  -- A sign or a digit opens no word.
  have hword : (b == 0x6E) = false ∧ (b == 0x74) = false ∧ (b == 0x66) = false := by
    refine ⟨?_, ?_, ?_⟩
    all_goals
      rw [beq_eq_false_iff_ne]
      rintro rfl
      exact absurd hb (by decide)
  rw [hbytes, List.cons_append] at hnumeral
  rw [encode, hbytes, List.cons_append, readValue, hskip]
  simp [hword, hb, hnumeral, Except.map]

theorem reads_text (s : String) : Reads (readValue (depth + 1)) (encode (.text s)) (.text s) := by
  intro rest hrest
  have hstring (bytes : List UInt8) : readValue (depth + 1) (0x22 :: bytes) =
      (readString bytes).map fun read ↦ (.text read.1, read.2) := rfl
  rw [encode, encodeText_append, hstring, readString_escaped]
  rfl

theorem reads_items {items : List Datum} (hopens : ∀ item ∈ items, Opens (encode item))
    (hitems : ∀ item ∈ items, Reads (readValue depth) (encode item) item) :
    Reads (readValue (depth + 1)) (encode (.list items)) (.list items) := by
  intro rest hrest
  have htexts : ∀ text ∈ items.map encode, Opens text := by
    intro text htext
    obtain ⟨item, hitem, rfl⟩ := List.mem_map.mp htext
    exact hopens item hitem
  have hreads : List.Forall₂ (Reads (readValue depth)) (items.map encode) items := by
    rw [List.forall₂_map_left_iff, List.forall₂_same]
    exact hitems
  rw [encode_list, List.append_assoc, List.cons_append, List.singleton_append]
  exact readElements_closed Datum.list htexts hreads rest

theorem reads_members {members : List (String × Datum)}
    (hvalues : ∀ member ∈ members, Reads (readValue depth) (encode member.2) member.2)
    (hnames : (members.map Prod.fst).Pairwise (· < ·)) :
    Reads (readValue (depth + 1)) (encode (.table members)) (.table members) := by
  intro rest hrest
  have hcollects : Collects (readMemberValue depth) []
      (members.map fun member ↦ memberText member.1 (encode member.2)) members :=
    collects_members hvalues hnames
  have hmembers := readMembers_commaSeparated hcollects
    (length_lt_of_commaSeparated hcollects.opens (0x7D :: rest)) rest
  have hobject (bytes : List UInt8) : readValue (depth + 1) (0x7B :: bytes) =
      (readMembers (readMemberValue depth) (bytes.length + 1) true [] bytes).bind fun found ↦
        (closeObject found.2).map fun rest ↦ (.table found.1, rest) := rfl
  have hclose : closeObject (0x7D :: rest) = .ok rest := rfl
  rw [encode_table, List.append_assoc, List.cons_append, List.singleton_append, hobject]
  simp only [hmembers, hclose, Except.bind, Except.map]

end Kinds

/-! ## Main result -/

theorem reads_of_plain {depth : Nat} {d : Datum} (h : Plain depth d) :
    Reads (readValue depth) (encode d) d := by
  induction depth generalizing d with
  | zero => cases h
  | succ depth ih =>
      cases h with
      | null => exact reads_null depth
      | bool _ b => exact reads_bool depth b
      | int _ hlow hhigh => exact reads_int depth hlow hhigh
      | text _ s => exact reads_text depth s
      | list hitems =>
          exact reads_items depth (fun item hitem ↦ (hitems item hitem).opens)
            fun item hitem ↦ ih (hitems item hitem)
      | table hvalues hnames =>
          exact reads_members depth (fun member hmember ↦ ih (hvalues member hmember)) hnames

/-- Plain data are read back from their text. -/
theorem read_encode {d : Datum} (h : Plain maxDepth d) : read (encode d) = .ok d :=
  readAll_of_reads (reads_of_plain h)

end DepositGate.Json
