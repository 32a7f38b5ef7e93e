import DepositGate.Proofs.Json.Numbers

/-!
# Arrays and objects

A reader reads back a value if it does so before everything that may follow a value. Such values may be put
into arrays and objects: `readElements_commaSeparated` and `readMembers_commaSeparated` read their parts one
after another, in the order in which they are written.
-/

namespace DepositGate.Json

variable {α σ : Type}

/-- A reader finds a value in some bytes, whatever follows them. -/
def Reads (reader : Reader α) (bytes : List UInt8) (a : α) : Prop :=
  ∀ rest, Delimited rest → reader (bytes ++ rest) = .ok (a, rest)

/-- Bytes that a value may start with: neither a blank nor the end of an array. -/
def Opens (bytes : List UInt8) : Prop :=
  ∃ b rest, bytes = b :: rest ∧ isBlank b = false ∧ b ≠ 0x5D

theorem Opens.one_le_length {bytes : List UInt8} (h : Opens bytes) : 1 ≤ bytes.length := by
  obtain ⟨b, more, rfl, -⟩ := h
  simp

theorem Reads.map {β : Type} {reader : Reader α} {bytes : List UInt8} {a : α} (h : Reads reader bytes a)
    (f : α → β) :
    Reads (fun bytes ↦ do
      let (a, rest) ← reader bytes
      .ok (f a, rest)) bytes (f a) := by
  intro rest hrest
  simp only [h rest hrest, bind, Except.bind]

/-! ## Texts and integers -/

theorem opens_encodeText (s : String) : Opens (encodeText s) :=
  ⟨0x22, _, rfl, by decide, by decide⟩

theorem encodeText_append (s : String) (rest : List UInt8) :
    encodeText s ++ rest = 0x22 :: ((Text.utf8 s).flatMap escapeByte ++ 0x22 :: rest) := by
  simp [encodeText]

theorem readTextAs_encodeText (expected s : String) (rest : List UInt8) :
    readTextAs expected (encodeText s ++ rest) = .ok (s, rest) := by
  rw [encodeText_append]
  exact readString_escaped s rest

theorem reads_encodeText (s : String) : Reads readText (encodeText s) s :=
  fun rest _ ↦ readTextAs_encodeText "a string" s rest

theorem opens_toString (n : Int) : Opens (Text.utf8 (toString n)) := by
  obtain ⟨b, bytes, hbytes, hb⟩ := exists_toString_eq_cons n
  refine ⟨b, bytes, hbytes, not_isBlank_of_opensNumeral hb, ?_⟩
  rintro rfl
  exact absurd hb (by decide)

/-! ## Parts with commas -/

theorem commaSeparated_cons (text : List UInt8) (texts : List (List UInt8)) :
    commaSeparated (text :: texts) = text ++ texts.flatMap (0x2C :: ·) := by
  induction texts generalizing text with
  | nil => simp [commaSeparated]
  | cons next texts ih =>
      rw [commaSeparated, ih, List.flatMap_cons, List.cons_append]
      exact List.cons_ne_nil next texts

theorem delimited_flatMap (texts : List (List UInt8)) {b : UInt8} (hb : b = 0x5D ∨ b = 0x7D)
    (rest : List UInt8) : Delimited (texts.flatMap (0x2C :: ·) ++ b :: rest) := by
  intro c hc
  cases texts with
  | nil =>
      obtain rfl : b = c := by simpa using hc
      exact .inr hb
  | cons text texts =>
      obtain rfl : 0x2C = c := by simpa using hc
      exact .inl rfl

theorem length_le_length_flatMap_comma (texts : List (List UInt8)) :
    texts.length ≤ (texts.flatMap (0x2C :: ·)).length := by
  induction texts with
  | nil => exact Nat.le_refl _
  | cons text texts ih =>
      rw [List.flatMap_cons, List.length_append, List.length_cons, List.length_cons]
      omega

/-- There are bytes enough for a turn for each part and one more. -/
theorem length_lt_of_commaSeparated {texts : List (List UInt8)} (hopens : ∀ text ∈ texts, Opens text)
    (rest : List UInt8) : texts.length < (commaSeparated texts ++ rest).length + 1 := by
  rw [List.length_append]
  cases texts with
  | nil => exact Nat.succ_pos _
  | cons text texts =>
      have hfirst := (hopens text List.mem_cons_self).one_le_length
      have htail := length_le_length_flatMap_comma texts
      rw [commaSeparated_cons, List.length_append, List.length_cons]
      omega

/-! ## Arrays -/

section Elements

variable {item : Reader α} {text : List UInt8} {a : α} {texts : List (List UInt8)} {as : List α}

theorem readElement_end (first : Bool) (rest : List UInt8) :
    readElement item first (0x5D :: rest) = .ok (none, 0x5D :: rest) := rfl

theorem readElement_first (hopens : Opens text) (hreads : Reads item text a) {rest : List UInt8}
    (hrest : Delimited rest) : readElement item true (text ++ rest) = .ok (some a, rest) := by
  have hnext : nextElement true (text ++ rest) = .ok (some (text ++ rest)) := by
    obtain ⟨b, more, rfl, hblank, hne⟩ := hopens
    rw [List.cons_append, nextElement, skipBlanks_of_not_isBlank hblank]
    simp [hne]
  simp [readElement, hnext, hreads rest hrest, bind, Except.bind]

theorem readElement_next (hopens : Opens text) (hreads : Reads item text a) {rest : List UInt8}
    (hrest : Delimited rest) : readElement item false (0x2C :: (text ++ rest)) = .ok (some a, rest) := by
  have hnext : nextElement false (0x2C :: (text ++ rest)) = .ok (some (text ++ rest)) := by
    obtain ⟨b, more, rfl, hblank, hne⟩ := hopens
    have hcomma : isBlank 0x2C = false := by decide
    have hend : ((0x2C : UInt8) == 0x5D) = false := by decide
    rw [nextElement, skipBlanks_of_not_isBlank hcomma, List.cons_append]
    simp [skipBlanks_of_not_isBlank hblank, hne, hend]
  simp [readElement, hnext, hreads rest hrest, bind, Except.bind]

theorem readElements_flatMap (hopens : ∀ text ∈ texts, Opens text) (hreads : List.Forall₂ (Reads item) texts as)
    {fuel : Nat} (hfuel : texts.length < fuel) {seen : List α} (hseen : seen ≠ []) (rest : List UInt8) :
    readElements item fuel seen (texts.flatMap (0x2C :: ·) ++ 0x5D :: rest) =
      .ok (seen.reverse ++ as, 0x5D :: rest) := by
  induction hreads generalizing fuel seen with
  | nil =>
      obtain ⟨fuel, rfl⟩ := Nat.exists_eq_add_one.mpr hfuel
      simp [readElements, readElement_end]
  | @cons text a texts as htext hreads ih =>
      rw [List.length_cons] at hfuel
      obtain ⟨fuel, rfl⟩ := Nat.exists_eq_add_one.mpr (Nat.zero_lt_of_lt hfuel)
      obtain ⟨hfirst, htail⟩ := List.forall_mem_cons.mp hopens
      have hnext := readElement_next hfirst htext (delimited_flatMap texts (.inl rfl) rest)
      have hempty : seen.isEmpty = false := by simpa using hseen
      rw [List.flatMap_cons, List.append_assoc, List.cons_append, readElements, hempty, hnext]
      dsimp only
      rw [ih htail (by omega) (List.cons_ne_nil a seen)]
      simp

/-- Elements are read in their order up to the end of their array. -/
theorem readElements_commaSeparated (hopens : ∀ text ∈ texts, Opens text)
    (hreads : List.Forall₂ (Reads item) texts as) {fuel : Nat} (hfuel : texts.length < fuel) (rest : List UInt8) :
    readElements item fuel [] (commaSeparated texts ++ 0x5D :: rest) = .ok (as, 0x5D :: rest) := by
  obtain ⟨fuel, rfl⟩ := Nat.exists_eq_add_one.mpr (Nat.zero_lt_of_lt hfuel)
  cases hreads with
  | nil => rfl
  | @cons text a texts as htext hreads =>
      obtain ⟨hfirst, htail⟩ := List.forall_mem_cons.mp hopens
      rw [List.length_cons] at hfuel
      have hnext := readElement_first hfirst htext (delimited_flatMap texts (.inl rfl) rest)
      rw [commaSeparated_cons, List.append_assoc, readElements, List.isEmpty_nil, hnext]
      exact readElements_flatMap htail hreads (by omega) (List.cons_ne_nil a []) rest

/-- An array is read up to its end, which is read away. -/
theorem readElements_closed {β : Type} (f : List α → β) (hopens : ∀ text ∈ texts, Opens text)
    (hreads : List.Forall₂ (Reads item) texts as) (rest : List UInt8) :
    (do
      let bytes := commaSeparated texts ++ 0x5D :: rest
      let (found, rest) ← readElements item (bytes.length + 1) [] bytes
      let rest ← closeArray rest
      .ok (f found, rest)) = Except.ok (f as, rest) := by
  have helements := readElements_commaSeparated hopens hreads
    (length_lt_of_commaSeparated hopens (0x5D :: rest)) rest
  have hclose : closeArray (0x5D :: rest) = .ok rest := rfl
  simp only [helements, hclose, bind, Except.bind]

theorem reads_list (hopens : ∀ text ∈ texts, Opens text) (hreads : List.Forall₂ (Reads item) texts as) :
    Reads (readList item) (0x5B :: commaSeparated texts ++ [0x5D]) as := by
  intro rest hrest
  rw [List.append_assoc, List.cons_append, List.singleton_append]
  exact readElements_closed id hopens hreads rest

end Elements

/-! ## Objects -/

section Members

variable {member : σ → String → Reader σ} {record record' : σ} {texts : List (List UInt8)}

def memberText (name : String) (value : List UInt8) : List UInt8 :=
  encodeText name ++ 0x3A :: value

/-- The members of some texts lead from one record to another. -/
inductive Collects (member : σ → String → Reader σ) : σ → List (List UInt8) → σ → Prop where
  | nil (record : σ) : Collects member record [] record
  | cons {record record' record'' : σ} {name : String} {value : List UInt8} {texts : List (List UInt8)}
      (hvalue : Reads (member record name) (0x3A :: value) record')
      (hrest : Collects member record' texts record'') :
      Collects member record (memberText name value :: texts) record''

theorem opens_memberText (name : String) (value : List UInt8) : Opens (memberText name value) :=
  ⟨0x22, _, rfl, by decide, by decide⟩

theorem Collects.opens (h : Collects member record texts record') : ∀ text ∈ texts, Opens text := by
  induction h with
  | nil => simp
  | cons hvalue hrest ih => exact List.forall_mem_cons.mpr ⟨opens_memberText _ _, ih⟩

theorem memberText_append (name : String) (value rest : List UInt8) :
    memberText name value ++ rest =
      0x22 :: ((Text.utf8 name).flatMap escapeByte ++ 0x22 :: (0x3A :: value ++ rest)) := by
  simp [memberText, encodeText]

theorem nextMember_first (bytes : List UInt8) : nextMember true (0x22 :: bytes) = .ok (some bytes) := rfl

theorem nextMember_next (bytes : List UInt8) :
    nextMember false (0x2C :: 0x22 :: bytes) = .ok (some bytes) := rfl

theorem readMembers_flatMap (h : Collects member record texts record') {fuel : Nat} (hfuel : texts.length < fuel)
    (rest : List UInt8) :
    readMembers member fuel false record (texts.flatMap (0x2C :: ·) ++ 0x7D :: rest) =
      .ok (record', 0x7D :: rest) := by
  induction h generalizing fuel with
  | nil record =>
      obtain ⟨fuel, rfl⟩ := Nat.exists_eq_add_one.mpr hfuel
      rfl
  | @cons record record₁ record₂ name value texts hvalue hrest ih =>
      rw [List.length_cons] at hfuel
      obtain ⟨fuel, rfl⟩ := Nat.exists_eq_add_one.mpr (Nat.zero_lt_of_lt hfuel)
      have hread := hvalue _ (delimited_flatMap texts (.inr rfl) rest)
      rw [List.flatMap_cons, List.append_assoc, List.cons_append, memberText_append, readMembers,
        nextMember_next]
      simp only [readString_escaped, hread]
      exact ih (by omega)

/-- Members are read in their order up to the end of their object. -/
theorem readMembers_commaSeparated (h : Collects member record texts record') {fuel : Nat}
    (hfuel : texts.length < fuel) (rest : List UInt8) :
    readMembers member fuel true record (commaSeparated texts ++ 0x7D :: rest) = .ok (record', 0x7D :: rest) := by
  obtain ⟨fuel, rfl⟩ := Nat.exists_eq_add_one.mpr (Nat.zero_lt_of_lt hfuel)
  cases h with
  | nil => rfl
  | @cons _ record₁ _ name value texts hvalue hrest =>
      rw [List.length_cons] at hfuel
      have hread := hvalue _ (delimited_flatMap texts (.inr rfl) rest)
      rw [commaSeparated_cons, List.append_assoc, memberText_append, readMembers, nextMember_first]
      simp only [readString_escaped, hread]
      exact readMembers_flatMap hrest (by omega) rest

/-- The value of a field that has not been there yet is read behind its name. -/
theorem readField_none {value : Reader α} {text : List UInt8} {a : α} (name : String) (hvalue : Reads value text a) :
    Reads (readField name none value) (0x3A :: text) a := by
  intro rest hrest
  have hcolon : readColon (0x3A :: (text ++ rest)) = .ok (text ++ rest) := rfl
  rw [List.cons_append, readField, if_neg (by simp), hcolon]
  exact hvalue rest hrest

theorem reads_record {r : RecordReader σ α} {a : α} (h : Collects r.member r.empty texts record')
    (hfinish : r.finish record' = .ok a) :
    Reads (readRecord r) (0x7B :: commaSeparated texts ++ [0x7D]) a := by
  intro rest hrest
  have hmembers := readMembers_commaSeparated h (length_lt_of_commaSeparated h.opens (0x7D :: rest)) rest
  have hopen (bytes : List UInt8) : skipBlanks (0x7B :: bytes) = 0x7B :: bytes := rfl
  have hclose : closeObject (0x7D :: rest) = .ok rest := rfl
  rw [List.append_assoc, List.cons_append, List.singleton_append, readRecord, hopen]
  simp only [hmembers, hfinish, hclose, bind, Except.bind]

end Members

/-! ## Whole texts -/

/-- A value that a reader finds whatever follows is that of the whole text. -/
theorem readAll_of_reads {reader : Reader α} {bytes : List UInt8} {a : α} (h : Reads reader bytes a) :
    readAll reader bytes = .ok a := by
  have hread := h [] (by simp [Delimited])
  rw [List.append_nil] at hread
  rw [readAll, hread]
  rfl

end DepositGate.Json
