/-!
# Similarity of words

Two words are similar if they have many characters in common at nearby positions and mostly in one order.
The measure lies between zero and one and is computed in floating point, as its threshold is met exactly
by some pairs of words.
-/

namespace DepositGate.Text

/-- The positions in the second word of the characters of the first one. Each character goes with the
first free one within reach. -/
def matchedPositions (reach : Nat) (xs ys : List Char) : List Nat :=
  xs.zipIdx.foldl
    (fun taken (x, i) ↦
      match ys.zipIdx.find? fun (y, j) ↦
          i ≤ j + reach && j ≤ i + reach && x == y && !taken.contains j with
      | some (_, j) => taken ++ [j]
      | none => taken)
    []

def ratio (n d : Nat) : Float :=
  Float.ofNat n / Float.ofNat d

/-- How similar two words are: the mean of the matched part of each and of the part of the matches that is
in order. -/
def similarity (xs ys : List Char) : Float :=
  let reach := max xs.length ys.length / 2 - 1
  let taken := matchedPositions reach xs ys
  let sorted := taken.mergeSort
  let displaced := ((taken.zip sorted).filter fun (i, j) ↦ ys[i]? != ys[j]?).length
  let n := taken.length
  if xs.isEmpty && ys.isEmpty then 1
  else if n = 0 then 0
  else (ratio n xs.length + ratio n ys.length + ratio (n - displaced / 2) n) / 3

/-- The word that is most similar to a given one, if one is more similar than `enough`; of several the
last. -/
def mostSimilar? (enough : Float) (word : String) (others : List String) : Option String :=
  let candidates := (others.map fun other ↦ (other, similarity word.toList other.toList)).filter
    fun (_, s) ↦ enough < s
  let best := candidates.foldl
    (fun (best : Option (String × Float)) other ↦
      match best with
      | some b => if other.2 < b.2 then best else some other
      | none => some other)
    none
  best.map (·.1)

end DepositGate.Text
