/-!
# Distinguished encoding

Elements of binary structures: a byte that tells what an element is, the length of its content in the
shortest form, and the content, in which there may be further elements.
-/

namespace DepositGate.Tls.Der

structure Element where
  tag : UInt8
  content : List UInt8
deriving DecidableEq, Repr

def integerTag : UInt8 := 0x02

/-- A string of bits, of which the first byte tells how many of the last are missing. -/
def bitStringTag : UInt8 := 0x03

def octetStringTag : UInt8 := 0x04

def objectTag : UInt8 := 0x06

def sequenceTag : UInt8 := 0x30

def numberedTag (n : UInt8) : UInt8 := 0xA0 + n

def natOf (bytes : List UInt8) : Nat :=
  bytes.foldl (fun n b ↦ 256 * n + b.toNat) 0

/-- Reads a length, which must be in its shortest form. -/
def length? : List UInt8 → Option (Nat × List UInt8)
  | [] => none
  | b :: rest =>
    if b < 0x80 then some (b.toNat, rest)
    else
      let width := b.toNat - 0x80
      let digits := rest.take width
      let n := natOf digits
      if digits.length < width || width = 0 || 4 < width || n < 0x80 || digits.head? == some 0 then none
      else some (n, rest.drop width)

def element? : List UInt8 → Option (Element × List UInt8)
  | [] => none
  | tag :: rest =>
    match length? rest with
    | none => none
    | some (n, rest) => if rest.length < n then none else some (⟨tag, rest.take n⟩, rest.drop n)

theorem length_lt_of_length? {bytes rest : List UInt8} {n : Nat} (h : length? bytes = some (n, rest)) :
    rest.length < bytes.length := by
  cases bytes with
  | nil => simp [length?] at h
  | cons b more =>
    simp only [length?] at h
    split at h
    · simp only [Option.some.injEq, Prod.mk.injEq] at h
      obtain ⟨-, rfl⟩ := h
      simp
    · split at h
      · simp at h
      · simp only [Option.some.injEq, Prod.mk.injEq] at h
        obtain ⟨-, rfl⟩ := h
        simp only [List.length_drop, List.length_cons]
        omega

theorem length_lt_of_element? {bytes rest : List UInt8} {e : Element}
    (h : element? bytes = some (e, rest)) : rest.length < bytes.length := by
  cases bytes with
  | nil => simp [element?] at h
  | cons tag more =>
    simp only [element?] at h
    split at h
    · simp at h
    · rename_i n after hn
      split at h
      · simp at h
      · simp only [Option.some.injEq, Prod.mk.injEq] at h
        obtain ⟨-, rfl⟩ := h
        have := length_lt_of_length? hn
        simp only [List.length_drop, List.length_cons]
        omega

def elements? (bytes : List UInt8) : Option (List Element) :=
  if bytes.isEmpty then some []
  else
    match _h : element? bytes with
    | none => none
    | some (e, rest) => (elements? rest).map (e :: ·)
termination_by bytes.length
decreasing_by exact length_lt_of_element? (by assumption)

def sequence? (bytes : List UInt8) : Option (List Element) :=
  match element? bytes with
  | some (⟨tag, content⟩, []) => if tag == sequenceTag then elements? content else none
  | _ => none

def Element.nat? (e : Element) : Option Nat :=
  if e.tag == integerTag && (e.content.head?.map fun b ↦ decide (b < 0x80)).getD false then some (natOf e.content)
  else none

end DepositGate.Tls.Der
