/-!
# Pieces of texts

A text cut at every place of a separator. Main statement: a text behind a separator adds its own pieces.
-/

namespace DepositGate.Text

/-- Puts a character in front of the first of some pieces, or starts a new one if it separates. -/
def addToPieces (separator c : Char) (pieces : List (List Char)) : List (List Char) :=
  if c = separator then [] :: pieces
  else
    match pieces with
    | [] => [[c]]
    | piece :: pieces => (c :: piece) :: pieces

def pieces (separator : Char) (cs : List Char) : List (List Char) :=
  cs.foldr (addToPieces separator) [[]]

@[simp] theorem pieces_nil (separator : Char) : pieces separator [] = [[]] := rfl

theorem pieces_cons (separator c : Char) (cs : List Char) :
    pieces separator (c :: cs) = addToPieces separator c (pieces separator cs) := rfl

theorem pieces_ne_nil (separator : Char) (cs : List Char) : pieces separator cs ≠ [] := by
  cases cs with
  | nil => simp
  | cons c cs =>
    rw [pieces_cons]
    unfold addToPieces
    split
    · simp
    · split <;> simp

theorem pieces_of_not_mem {separator : Char} {cs : List Char} (h : separator ∉ cs) :
    pieces separator cs = [cs] := by
  induction cs with
  | nil => rfl
  | cons c cs ih =>
    rw [List.mem_cons, not_or] at h
    rw [pieces_cons, ih h.2, addToPieces, if_neg (Ne.symm h.1)]

theorem addToPieces_append {separator c : Char} {first : List (List Char)} (h : first ≠ [])
    (rest : List (List Char)) :
    addToPieces separator c (first ++ rest) = addToPieces separator c first ++ rest := by
  unfold addToPieces
  split
  · rfl
  · cases first with
    | nil => exact absurd rfl h
    | cons piece first => rfl

theorem pieces_append_cons (separator : Char) (cs rest : List Char) :
    pieces separator (cs ++ separator :: rest) = pieces separator cs ++ pieces separator rest := by
  induction cs with
  | nil => simp [pieces_cons, addToPieces]
  | cons c cs ih =>
    rw [List.cons_append, pieces_cons, ih, addToPieces_append (pieces_ne_nil separator cs), ← pieces_cons]

end DepositGate.Text
