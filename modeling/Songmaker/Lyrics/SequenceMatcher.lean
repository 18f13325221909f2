import Mathlib.Algebra.Order.Field.Rat
import Mathlib.Data.List.Sort

namespace Songmaker.Lyrics.SequenceMatcher

variable {α : Type} [DecidableEq α]

/-- A block of equal elements of the two sequences. -/
structure Match where
  a : Nat
  b : Nat
  size : Nat
deriving DecidableEq

def autojunkMinLength : Nat := 200

/-- The stretch of either sequence that a longest match is looked for in. -/
structure Range where
  alo : Nat
  ahi : Nat
  blo : Nat
  bhi : Nat
  a_le : alo ≤ ahi
  b_le : blo ≤ bhi
deriving DecidableEq

/-- The place of an element is noted with it. -/
def pushIndex (b : List α) (b2j : α → List Nat) (i : Nat) : α → List Nat :=
  match b[i]? with
  | none => b2j
  | some elt => Function.update b2j elt (b2j elt ++ [i])

/-- The positions of every element, in increasing order. -/
def indicesOf (b : List α) : α → List Nat :=
  (List.range b.length).foldl (pushIndex b) fun _ => []

/-- An element is dropped where a long sequence holds it too often. -/
def buildB2J (b : List α) (elt : α) : List Nat :=
  if autojunkMinLength ≤ b.length ∧ b.length / 100 + 1 < (indicesOf b elt).length then []
  else indicesOf b elt

/-- The loop of `findMatchesEndingAt`. -/
def scanIndices (index blo bhi : Nat) (previousLengths : Nat → Nat) :
    List Nat → (Nat → Nat) × Match → (Nat → Nat) × Match
  | [], found => found
  | otherIndex :: rest, (lengths, best) =>
      if otherIndex < blo then scanIndices index blo bhi previousLengths rest (lengths, best)
      else if bhi ≤ otherIndex then (lengths, best)
      else
        let length := (if otherIndex = 0 then 0 else previousLengths (otherIndex - 1)) + 1
        scanIndices index blo bhi previousLengths rest
          (Function.update lengths otherIndex length,
            if best.size < length then ⟨index + 1 - length, otherIndex + 1 - length, length⟩
            else best)

/-- A length of 0 stands for an entry that the table of lengths does not hold. -/
def findMatchesEndingAt (a : List α) (b2j : α → List Nat) (blo bhi index : Nat)
    (found : (Nat → Nat) × Match) : (Nat → Nat) × Match :=
  match a[index]? with
  | none => (fun _ => 0, found.2)
  | some character =>
      scanIndices index blo bhi found.1 (b2j character) (fun _ => 0, found.2)

/-- The longest match without a dropped element. -/
def findMatch (a : List α) (b2j : α → List Nat) (range : Range) : Match :=
  ((List.range (range.ahi - range.alo)).foldl
    (fun found i => findMatchesEndingAt a b2j range.blo range.bhi (range.alo + i) found)
    (fun _ => 0, ⟨range.alo, range.blo, 0⟩)).2

/-- The block, made longer at its start while the elements are equal. -/
def extendMatchBackwards (a b : List α) (alo blo : Nat) : Nat → Nat → Nat → Match
  | 0, j, size => ⟨0, j, size⟩
  | i + 1, 0, size => ⟨i + 1, 0, size⟩
  | i + 1, j + 1, size =>
      if alo ≤ i ∧ blo ≤ j ∧ a[i]? = b[j]? then extendMatchBackwards a b alo blo i j (size + 1)
      else ⟨i + 1, j + 1, size⟩

/-- `left` is how far the match ends before `ahi`. -/
def extendMatchForwards (a b : List α) (ahi bhi : Nat) (left : Nat) (found : Match) : Match :=
  match left with
  | 0 => found
  | left + 1 =>
      if found.a + found.size < ahi ∧ found.b + found.size < bhi ∧
          a[found.a + found.size]? = b[found.b + found.size]? then
        extendMatchForwards a b ahi bhi left { found with size := found.size + 1 }
      else found

/-- The block, made longer at both ends. -/
def extendMatch (a b : List α) (range : Range) (found : Match) : Match :=
  let back := extendMatchBackwards a b range.alo range.blo found.a found.b found.size
  extendMatchForwards a b range.ahi range.bhi (range.ahi - (back.a + back.size)) back

/-- `find_longest_match`. -/
def findLongestMatch (a b : List α) (range : Range) : Match :=
  extendMatch a b range (findMatch a (buildB2J b) range)

/-- The two stretches next to a match, the one after it on top. -/
def enqueueMatchGaps (found : Match) (range : Range) : List Range :=
  (if h : found.a + found.size < range.ahi ∧ found.b + found.size < range.bhi then
    [⟨found.a + found.size, range.ahi, found.b + found.size, range.bhi, h.1.le, h.2.le⟩]
  else []) ++
  (if h : range.alo < found.a ∧ range.blo < found.b then
    [⟨range.alo, found.a, range.blo, found.b, h.1.le, h.2.le⟩]
  else [])

end Songmaker.Lyrics.SequenceMatcher
