import Songmaker.Foundation.CheckedLoops
import Songmaker.Lyrics.AlignmentScore

namespace Songmaker.Lyrics

open Songmaker.Foundation
open Songmaker.Foundation.CheckedLoops

def anchorMinSimilarity : ℚ := 3 / 5

/-- A heard word that a lyric word is aligned with. -/
structure Anchor where
  heardIndex : Nat
  similarity : ℚ
deriving DecidableEq

/-- `similarityLookup`; its cache only saves work. -/
def similarityLookup (wordSimilarity : String → String → ℚ) (lyrics heard : List String)
    (lyricIndex heardIndex : Nat) : Option ℚ := do
  let lyric ← lyrics[lyricIndex]?
  let word ← heard[heardIndex]?
  return wordSimilarity word lyric

/-- The scores of the best alignments, with the moves that lead to them. -/
structure AlignmentTable where
  width : Nat
  score : Ending → Array (WithBot ℚ)
  previous : Ending → Array Ending

namespace AlignmentTable

/-- A table without a score. -/
def empty (lyricCount heardCount : Nat) : AlignmentTable where
  width := heardCount + 1
  score _ := Array.replicate ((lyricCount + 1) * (heardCount + 1)) ⊥
  previous _ := Array.replicate ((lyricCount + 1) * (heardCount + 1)) .heardGap

/-- The score of the best alignment that ends so; `none` outside the table. -/
def scoreOf (table : AlignmentTable) (ending : Ending) (cell : Nat) : Option (WithBot ℚ) :=
  (table.score ending)[cell]?

/-- The ending before the last move of that alignment. -/
def previousOf (table : AlignmentTable) (ending : Ending) (cell : Nat) : Option Ending :=
  (table.previous ending)[cell]?

def set (table : AlignmentTable) (ending : Ending) (cell : Nat) (score : WithBot ℚ)
    (previous : Ending) : Option AlignmentTable :=
  if cell < (table.score ending).size ∧ cell < (table.previous ending).size then
    some
      { table with
        score := Function.update table.score ending
          ((table.score ending).setIfInBounds cell score)
        previous := Function.update table.previous ending
          ((table.previous ending).setIfInBounds cell previous) }
  else none

/-- The ending of the best score; of two alike it is the one that comes first. -/
def bestEnding (table : AlignmentTable) (cell : Nat) : Option Ending :=
  endings.foldlM (fun best ending => do
    let score ← table.scoreOf ending cell
    let bestScore ← table.scoreOf best cell
    return if bestScore < score then ending else best) .heardGap

def best (table : AlignmentTable) (cell : Nat) : Option (WithBot ℚ) := do
  let ending ← table.bestEnding cell
  table.scoreOf ending cell

/-- The heard word is left out, in a gap that it opens or makes longer. -/
def fillHeardGapCell (table : AlignmentTable) (cell : Nat) (openGap extendGap : ℚ) :
    Option AlignmentTable := do
  let left ← sub? cell 1
  let opened := (← table.best left) + openGap
  let extended := (← table.scoreOf .heardGap left) + extendGap
  if opened ≤ extended then table.set .heardGap cell extended .heardGap
  else table.set .heardGap cell opened (← table.bestEnding left)

/-- The two words are paired. -/
def fillPairCell (table : AlignmentTable) (cell : Nat) (pairScore : ℚ) :
    Option AlignmentTable := do
  let diagonal ← sub? cell (table.width + 1)
  let continued ← table.scoreOf .pair diagonal
  let broken := (← table.best diagonal) + breakPairRun
  if broken ≤ continued then table.set .pair cell (continued + pairScore) .pair
  else table.set .pair cell (broken + pairScore) (← table.bestEnding diagonal)

/-- The body of the inner loop of `fillAlignmentTable`. -/
def fillCell (lyricCount : Nat) (similarity : Nat → Nat → Option ℚ) (lyricIndex : Nat)
    (table : AlignmentTable) (heardIndex : Nat) : Option AlignmentTable := do
  let isOutro := lyricIndex = lyricCount
  let openGap := if isOutro then 0 else openHeardGap
  let extendGap := if isOutro then 0 else extendHeardGap
  let cell := lyricIndex * table.width + heardIndex
  let above ← sub? cell table.width
  let table ← table.set .lyricGap cell ((← table.best above) + skipLyricWord)
    (← table.bestEnding above)
  if heardIndex = 0 then return table
  let table ← table.fillHeardGapCell cell openGap extendGap
  let pairSimilarity ← similarity (← sub? lyricIndex 1) (← sub? heardIndex 1)
  table.fillPairCell cell (2 * pairSimilarity - 1)

end AlignmentTable

/-- The table, filled row by row. -/
def fillAlignmentTable (lyricCount heardCount : Nat) (similarity : Nat → Nat → Option ℚ) :
    Option AlignmentTable := do
  let table ← (List.range (heardCount + 1)).foldlM
    (fun table heardIndex => table.set .heardGap heardIndex 0 .heardGap)
    (AlignmentTable.empty lyricCount heardCount)
  (List.range lyricCount).foldlM
    (fun table row => (List.range (heardCount + 1)).foldlM
      (AlignmentTable.fillCell lyricCount similarity (row + 1)) table)
    table

/-- The loop of `alignWords` from the last cell back to row 0. Besides the
anchors it returns the moves it walked back over, those of row 0 included. -/
def traceBack (similarity : Nat → Nat → Option ℚ) (table : AlignmentTable) (lyricIndex : Nat)
    (heardIndex : Nat) (ending : Ending) (anchors : Array (Option Anchor))
    (moves : List Ending) : Option (Array (Option Anchor) × List Ending) :=
  match lyricIndex with
  | 0 => some (anchors, List.replicate heardIndex .heardGap ++ moves)
  | lyric + 1 => do
      let previous ← table.previousOf ending ((lyric + 1) * table.width + heardIndex)
      match ending, heardIndex with
      | .pair, heard + 1 =>
          let pairSimilarity ← similarity lyric heard
          let anchors ←
            if anchorMinSimilarity ≤ pairSimilarity then
              if lyric < anchors.size then
                some (anchors.setIfInBounds lyric (some ⟨heard, pairSimilarity⟩))
              else none
            else some anchors
          traceBack similarity table lyric heard previous anchors (.pair :: moves)
      | .lyricGap, heard =>
          traceBack similarity table lyric heard previous anchors (.lyricGap :: moves)
      | .heardGap, heard + 1 =>
          traceBack similarity table (lyric + 1) heard previous anchors (.heardGap :: moves)
      | .pair, 0 | .heardGap, 0 => none
termination_by lyricIndex + heardIndex

/-- The anchor of each lyric word, and the moves of the alignment. -/
def alignWords (wordSimilarity : String → String → ℚ) (lyrics heard : List String) :
    Option (Array (Option Anchor) × List Ending) := do
  let similarity := similarityLookup wordSimilarity lyrics heard
  let table ← fillAlignmentTable lyrics.length heard.length similarity
  let ending ← table.bestEnding (lyrics.length * table.width + heard.length)
  traceBack similarity table lyrics.length heard.length ending
    (Array.replicate lyrics.length none) []

end Songmaker.Lyrics
