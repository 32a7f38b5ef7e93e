/-!
# UTF-8

The bytes of a text, the text of well-formed bytes, and a forgiving reading that puts a replacement
character in the place of every ill-formed piece. Main statement: a text is read back from its bytes.
-/

namespace DepositGate.Text

def utf8 (s : String) : List UInt8 :=
  s.toByteArray.data.toList

def ofUtf8? (bytes : List UInt8) : Option String :=
  String.fromUTF8? ⟨bytes.toArray⟩

theorem ofUtf8?_utf8 (s : String) : ofUtf8? (utf8 s) = some s := by
  have h : (⟨(utf8 s).toArray⟩ : ByteArray) = s.toByteArray := by simp [utf8]
  rw [ofUtf8?, h, String.fromUTF8?, dif_pos s.isValidUTF8]
  rfl

/-! ## Ill-formed input -/

/-- What a leading byte calls for: the number of further bytes and the range of the first of them. -/
def sequenceShape (lead : UInt8) : Option (Nat × UInt8 × UInt8) :=
  if lead < 0xC2 then none
  else if lead < 0xE0 then some (1, 0x80, 0xBF)
  else if lead == 0xE0 then some (2, 0xA0, 0xBF)
  else if lead == 0xED then some (2, 0x80, 0x9F)
  else if lead < 0xF0 then some (2, 0x80, 0xBF)
  else if lead == 0xF0 then some (3, 0x90, 0xBF)
  else if lead < 0xF4 then some (3, 0x80, 0xBF)
  else if lead == 0xF4 then some (3, 0x80, 0x8F)
  else none

def continuationBits (b : UInt8) : Nat :=
  b.toNat % 64

def isContinuation (b : UInt8) : Bool :=
  0x80 ≤ b && b ≤ 0xBF

/-- The character that starts at a leading byte, or none if the sequence is ill formed, and the number
of bytes of `rest` that belong to it. An ill-formed sequence ends before its first unfitting byte. -/
def leadingChar (lead : UInt8) (rest : List UInt8) : Option Char × Nat :=
  if lead < 0x80 then (some (Char.ofNat lead.toNat), 0)
  else
    match sequenceShape lead, rest with
    | some (width, low, high), second :: more =>
      if second < low || high < second then (none, 0)
      else
        match width, more with
        | 1, _ => (some (Char.ofNat (lead.toNat % 32 * 64 + continuationBits second)), 1)
        | 2, third :: _ =>
          if isContinuation third then
            (some (Char.ofNat ((lead.toNat % 16 * 64 + continuationBits second) * 64 +
              continuationBits third)), 2)
          else (none, 1)
        | 3, third :: fourth :: _ =>
          if !isContinuation third then (none, 1)
          else if !isContinuation fourth then (none, 2)
          else
            (some (Char.ofNat (((lead.toNat % 8 * 64 + continuationBits second) * 64 +
              continuationBits third) * 64 + continuationBits fourth)), 3)
        | 3, [third] => (none, if isContinuation third then 2 else 1)
        | _, _ => (none, 1)
    | _, _ => (none, 0)

/-- The characters of a byte list behind those in `seen` (latest first), a replacement character for
each ill-formed piece. -/
def lossyFrom (seen : List Char) : List UInt8 → List Char
  | [] => seen.reverse
  | lead :: rest =>
    let (c, width) := leadingChar lead rest
    lossyFrom (c.getD (Char.ofNat 0xFFFD) :: seen) (rest.drop width)
termination_by bytes => bytes.length
decreasing_by simp only [List.length_drop, List.length_cons]; omega

/-- The number of bytes before the first ill-formed piece, behind the first `seen` bytes. -/
def wellFormedFrom (seen : Nat) : List UInt8 → Nat
  | [] => seen
  | lead :: rest =>
    match leadingChar lead rest with
    | (none, _) => seen
    | (some _, width) => wellFormedFrom (seen + 1 + width) (rest.drop width)
termination_by bytes => bytes.length
decreasing_by simp only [List.length_drop, List.length_cons]; omega

def ofUtf8Lossy (bytes : List UInt8) : String :=
  (ofUtf8? bytes).getD (String.ofList (lossyFrom [] bytes))

/-- Well-formed bytes are read without loss. -/
theorem ofUtf8Lossy_utf8 (s : String) : ofUtf8Lossy (utf8 s) = s := by
  simp [ofUtf8Lossy, ofUtf8?_utf8]

end DepositGate.Text
