import Mathlib.Tactic.Linarith
import Mathlib.Tactic.Order
import Songmaker.Foundation.ScoredMoves

/-!
The scores of the global alignment of lyric words against heard words, and the
table of best scores by the number of words consumed and the way the alignment
ends. Scores are exact rationals and `⊥` is minus infinity.
-/

namespace Songmaker.Lyrics

open Songmaker.Foundation

/-- In the order in which equal scores are preferred. -/
inductive Ending where
  | heardGap
  | pair
  | lyricGap
deriving DecidableEq

def endings : List Ending := [.heardGap, .pair, .lyricGap]

def skipLyricWord : ℚ := -3 / 5

def openHeardGap : ℚ := -3 / 10

def extendHeardGap : ℚ := -1 / 50

def breakPairRun : ℚ := -1 / 10

/-- How many words of each side an alignment has consumed, and how it ends. -/
structure Place where
  lyric : Nat
  heard : Nat
  ending : Ending
deriving DecidableEq

def start : Place := ⟨0, 0, .heardGap⟩

/-- An alignment is a sequence of moves, each named by the ending it leads to.
Heard words before the first and after the last lyric word are free. -/
def alignmentMoves (lyricCount : Nat) (similarity : Nat → Nat → ℚ) :
    ScoredMoves Place Ending ℚ where
  next place
    | .heardGap => ⟨place.lyric, place.heard + 1, .heardGap⟩
    | .pair => ⟨place.lyric + 1, place.heard + 1, .pair⟩
    | .lyricGap => ⟨place.lyric + 1, place.heard, .lyricGap⟩
  score place
    | .heardGap =>
        if place.lyric = 0 ∨ place.lyric = lyricCount then 0
        else if place.ending = .heardGap then extendHeardGap
        else openHeardGap
    | .pair =>
        (if place.ending = .pair then 0 else breakPairRun) +
          (2 * similarity place.lyric place.heard - 1)
    | .lyricGap => skipLyricWord

/-- The score of an alignment, given by its moves. -/
def alignmentScore (lyricCount : Nat) (similarity : Nat → Nat → ℚ) (moves : List Ending) : ℚ :=
  (alignmentMoves lyricCount similarity).total start moves

/-- The moves consume every lyric word and every heard word. -/
def IsAlignment (lyricCount heardCount : Nat) (similarity : Nat → Nat → ℚ)
    (moves : List Ending) : Prop :=
  let place := (alignmentMoves lyricCount similarity).final start moves
  place.lyric = lyricCount ∧ place.heard = heardCount

/-- What one cell of the table holds: for each ending its best score and the
ending of the cell it came from. -/
structure Cell where
  score : Ending → WithBot ℚ
  previous : Ending → Ending

namespace Cell

def blank : Cell := ⟨fun _ => ⊥, fun _ => .heardGap⟩

def set (cell : Cell) (ending : Ending) (score : WithBot ℚ) (previous : Ending) : Cell where
  score := Function.update cell.score ending score
  previous := Function.update cell.previous ending previous

def bestEnding (cell : Cell) : Ending :=
  endings.foldl (fun best ending => if cell.score best < cell.score ending then ending else best)
    .heardGap

def best (cell : Cell) : WithBot ℚ :=
  cell.score cell.bestEnding

/-- The cell after the lyric word is left out. -/
def fillLyricGap (cell above : Cell) : Cell :=
  cell.set .lyricGap (above.best + skipLyricWord) above.bestEnding

/-- The cell after the heard word is left out. -/
def fillHeardGap (cell left : Cell) (openGap extendGap : ℚ) : Cell :=
  let opened := left.best + openGap
  let extended := left.score .heardGap + extendGap
  if opened ≤ extended then cell.set .heardGap extended .heardGap
  else cell.set .heardGap opened left.bestEnding

/-- The cell after the two words are paired. -/
def fillPair (cell diagonal : Cell) (pairScore : ℚ) : Cell :=
  let continued := diagonal.score .pair
  let broken := diagonal.best + breakPairRun
  if broken ≤ continued then cell.set .pair (continued + pairScore) .pair
  else cell.set .pair (broken + pairScore) diagonal.bestEnding

theorem score_le_best (cell : Cell) (ending : Ending) : cell.score ending ≤ cell.best := by
  unfold best bestEnding endings
  simp only [List.foldl_cons, List.foldl_nil, lt_irrefl, if_false]
  cases ending <;> split_ifs <;> order

@[simp] theorem set_score_self (cell : Cell) (ending : Ending) (score : WithBot ℚ)
    (previous : Ending) : (cell.set ending score previous).score ending = score := by
  simp [set]

@[simp] theorem set_previous_self (cell : Cell) (ending : Ending) (score : WithBot ℚ)
    (previous : Ending) : (cell.set ending score previous).previous ending = previous := by
  simp [set]

theorem set_of_ne (cell : Cell) {ending other : Ending} (hne : other ≠ ending)
    (score : WithBot ℚ) (previous : Ending) :
    (cell.set ending score previous).score other = cell.score other ∧
      (cell.set ending score previous).previous other = cell.previous other := by
  simp [set, hne]

theorem fillHeardGap_of_ne (cell left : Cell) (openGap extendGap : ℚ) {other : Ending}
    (hne : other ≠ .heardGap) :
    (cell.fillHeardGap left openGap extendGap).score other = cell.score other ∧
      (cell.fillHeardGap left openGap extendGap).previous other = cell.previous other := by
  unfold fillHeardGap
  dsimp only
  split_ifs
  · exact cell.set_of_ne hne _ _
  · exact cell.set_of_ne hne _ _

theorem fillPair_of_ne (cell diagonal : Cell) (pairScore : ℚ) {other : Ending}
    (hne : other ≠ .pair) :
    (cell.fillPair diagonal pairScore).score other = cell.score other ∧
      (cell.fillPair diagonal pairScore).previous other = cell.previous other := by
  unfold fillPair
  dsimp only
  split_ifs
  · exact cell.set_of_ne hne _ _
  · exact cell.set_of_ne hne _ _

/-- A heard gap comes from the left cell with what opening or extending it costs. -/
theorem fillHeardGap_attained (cell left : Cell) {openGap extendGap : ℚ}
    (hopen : openGap ≤ extendGap) :
    let filled := cell.fillHeardGap left openGap extendGap
    filled.score .heardGap = left.score (filled.previous .heardGap) +
      ((if filled.previous .heardGap = .heardGap then extendGap else openGap : ℚ) :
        WithBot ℚ) := by
  intro filled
  simp only [filled, fillHeardGap]
  split_ifs with hextend hprevious hprevious
  · simp
  · simp at hprevious
  · rw [set_previous_self] at hprevious
    exfalso
    apply hextend
    rw [best, hprevious]
    exact add_le_add_right (WithBot.coe_le_coe.mpr hopen) _
  · simp [best]

theorem fillHeardGap_bound (cell left : Cell) {openGap extendGap : ℚ} (ending : Ending) :
    left.score ending + ((if ending = .heardGap then extendGap else openGap : ℚ) : WithBot ℚ) ≤
      (cell.fillHeardGap left openGap extendGap).score .heardGap := by
  have hopened : left.score ending + (openGap : WithBot ℚ) ≤ left.best + openGap :=
    add_le_add_left (left.score_le_best ending) _
  unfold fillHeardGap
  dsimp only
  split_ifs with hending hextend hextend
  · rw [set_score_self, hending]
  · rw [set_score_self, hending]
    exact (not_le.mp hextend).le
  · rw [set_score_self]
    exact hopened.trans hextend
  · rw [set_score_self]
    exact hopened

/-- A pair comes from the diagonal cell, at a cost where it does not follow a pair. -/
theorem fillPair_attained (cell diagonal : Cell) (pairScore : ℚ) :
    let filled := cell.fillPair diagonal pairScore
    filled.score .pair = diagonal.score (filled.previous .pair) +
      (((if filled.previous .pair = .pair then 0 else breakPairRun) + pairScore : ℚ) :
        WithBot ℚ) := by
  intro filled
  simp only [filled, fillPair]
  split_ifs with hcontinue hprevious hprevious
  · simp
  · simp at hprevious
  · rw [set_previous_self] at hprevious
    exfalso
    apply hcontinue
    rw [best, hprevious]
    calc
      diagonal.score .pair + (breakPairRun : WithBot ℚ) ≤ diagonal.score .pair + (0 : ℚ) :=
        add_le_add_right (WithBot.coe_le_coe.mpr (by norm_num [breakPairRun])) _
      _ = diagonal.score .pair := by simp
  · rw [set_score_self, set_previous_self, WithBot.coe_add, ← add_assoc]
    rfl

theorem fillPair_bound (cell diagonal : Cell) (pairScore : ℚ) (ending : Ending) :
    diagonal.score ending +
        (((if ending = .pair then 0 else breakPairRun) + pairScore : ℚ) : WithBot ℚ) ≤
      (cell.fillPair diagonal pairScore).score .pair := by
  have hbroken : diagonal.score ending + (breakPairRun : WithBot ℚ) ≤
      diagonal.best + breakPairRun :=
    add_le_add_left (diagonal.score_le_best ending) _
  rw [WithBot.coe_add, ← add_assoc]
  unfold fillPair
  dsimp only
  split_ifs with hending hcontinue hcontinue
  · rw [set_score_self, hending]
    simp
  · rw [set_score_self, hending]
    apply add_le_add_left
    simpa using (not_le.mp hcontinue).le
  · rw [set_score_self]
    exact add_le_add_left (hbroken.trans hcontinue) _
  · rw [set_score_self]
    exact add_le_add_left hbroken _

end Cell

/-- Row `lyricIndex` of the table, from row 0 on. -/
def nextRow (openGap extendGap : ℚ) (similarity : Nat → ℚ) (above : Nat → Cell) : Nat → Cell
  | 0 => Cell.blank.fillLyricGap (above 0)
  | heard + 1 =>
      ((Cell.blank.fillLyricGap (above (heard + 1))).fillHeardGap
        (nextRow openGap extendGap similarity above heard) openGap extendGap).fillPair
        (above heard) (2 * similarity heard - 1)

/-- What it costs to leave out a first heard word, which is nothing behind the lyrics. -/
def rowOpenGap (lyricCount lyric : Nat) : ℚ :=
  if lyric = lyricCount then 0 else openHeardGap

/-- What it costs to leave out one more heard word. -/
def rowExtendGap (lyricCount lyric : Nat) : ℚ :=
  if lyric = lyricCount then 0 else extendHeardGap

/-- The cells of the table, row by row. -/
def rows (lyricCount : Nat) (similarity : Nat → Nat → ℚ) : Nat → Nat → Cell
  | 0 => fun _ => Cell.blank.set .heardGap 0 .heardGap
  | lyric + 1 =>
      nextRow (rowOpenGap lyricCount (lyric + 1)) (rowExtendGap lyricCount (lyric + 1))
        (similarity lyric) (rows lyricCount similarity lyric)

theorem rowOpenGap_le (lyricCount lyric : Nat) :
    rowOpenGap lyricCount lyric ≤ rowExtendGap lyricCount lyric := by
  unfold rowOpenGap rowExtendGap openHeardGap extendHeardGap
  split_ifs <;> norm_num

/-- The best score of an alignment up to a place. -/
def value (lyricCount : Nat) (similarity : Nat → Nat → ℚ) (place : Place) : WithBot ℚ :=
  (rows lyricCount similarity place.lyric place.heard).score place.ending

/-- The place that the best alignment comes from. -/
def previousPlace (lyricCount : Nat) (similarity : Nat → Nat → ℚ) (place : Place) : Ending :=
  (rows lyricCount similarity place.lyric place.heard).previous place.ending

theorem nextRow_lyricGap (openGap extendGap : ℚ) (similarity : Nat → ℚ) (above : Nat → Cell)
    (heard : Nat) :
    (nextRow openGap extendGap similarity above heard).score .lyricGap =
        (above heard).best + skipLyricWord ∧
      (nextRow openGap extendGap similarity above heard).previous .lyricGap =
        (above heard).bestEnding := by
  cases heard with
  | zero => simp [nextRow, Cell.fillLyricGap]
  | succ heard =>
      rw [nextRow]
      constructor
      · rw [(Cell.fillPair_of_ne _ _ _ (by decide)).1,
          (Cell.fillHeardGap_of_ne _ _ _ _ (by decide)).1]
        simp [Cell.fillLyricGap]
      · rw [(Cell.fillPair_of_ne _ _ _ (by decide)).2,
          (Cell.fillHeardGap_of_ne _ _ _ _ (by decide)).2]
        simp [Cell.fillLyricGap]

theorem nextRow_edge (openGap extendGap : ℚ) (similarity : Nat → ℚ) (above : Nat → Cell)
    {ending : Ending} (hending : ending ≠ .lyricGap) :
    (nextRow openGap extendGap similarity above 0).score ending = ⊥ :=
  (Cell.set_of_ne _ hending _ _).1

theorem nextRow_heardGap (openGap extendGap : ℚ) (similarity : Nat → ℚ) (above : Nat → Cell)
    (heard : Nat) :
    ∃ cell : Cell,
      let filled := cell.fillHeardGap (nextRow openGap extendGap similarity above heard) openGap
        extendGap
      (nextRow openGap extendGap similarity above (heard + 1)).score .heardGap =
          filled.score .heardGap ∧
        (nextRow openGap extendGap similarity above (heard + 1)).previous .heardGap =
          filled.previous .heardGap :=
  ⟨_, Cell.fillPair_of_ne _ _ _ (by decide)⟩

section Values

variable (lyricCount : Nat) (similarity : Nat → Nat → ℚ)

theorem gapScore_eq (lyric heard : Nat) (ending : Ending) :
    (alignmentMoves lyricCount similarity).score ⟨lyric + 1, heard, ending⟩ .heardGap =
      if ending = .heardGap then rowExtendGap lyricCount (lyric + 1)
      else rowOpenGap lyricCount (lyric + 1) := by
  simp only [alignmentMoves, rowExtendGap, rowOpenGap]
  split_ifs <;> simp_all

theorem value_row_zero (heard : Nat) (ending : Ending) :
    value lyricCount similarity ⟨0, heard, ending⟩ = if ending = .heardGap then 0 else ⊥ := by
  cases ending <;> simp [value, rows, Cell.set, Cell.blank]

theorem value_add_score_le (place : Place) (move : Ending) :
    value lyricCount similarity place + (alignmentMoves lyricCount similarity).score place move ≤
      value lyricCount similarity ((alignmentMoves lyricCount similarity).next place move) := by
  obtain ⟨lyric, heard, ending⟩ := place
  cases move with
  | heardGap =>
      cases lyric with
      | zero =>
          show value lyricCount similarity ⟨0, heard, ending⟩ + _ ≤
            value lyricCount similarity ⟨0, heard + 1, .heardGap⟩
          rw [value_row_zero, value_row_zero, if_pos (rfl : Ending.heardGap = .heardGap)]
          split_ifs
          · simp [alignmentMoves]
          · simp
      | succ lyric =>
          rw [gapScore_eq]
          obtain ⟨cell, hscore, -⟩ := nextRow_heardGap (rowOpenGap lyricCount (lyric + 1))
            (rowExtendGap lyricCount (lyric + 1)) (similarity lyric)
            (rows lyricCount similarity lyric) heard
          exact (cell.fillHeardGap_bound _ ending).trans_eq hscore.symm
  | pair => exact Cell.fillPair_bound _ _ _ ending
  | lyricGap =>
      refine le_trans ?_ (nextRow_lyricGap _ _ _ _ heard).1.ge
      exact add_le_add_left (Cell.score_le_best _ ending) _

theorem value_lyricGap (lyric heard : Nat) :
    let previous := previousPlace lyricCount similarity ⟨lyric + 1, heard, .lyricGap⟩
    value lyricCount similarity ⟨lyric + 1, heard, .lyricGap⟩ =
      value lyricCount similarity ⟨lyric, heard, previous⟩ +
        (alignmentMoves lyricCount similarity).score ⟨lyric, heard, previous⟩ .lyricGap := by
  intro previous
  obtain ⟨hscore, hprevious⟩ := nextRow_lyricGap (rowOpenGap lyricCount (lyric + 1))
    (rowExtendGap lyricCount (lyric + 1)) (similarity lyric)
    (rows lyricCount similarity lyric) heard
  have hbest : previous = (rows lyricCount similarity lyric heard).bestEnding := hprevious
  rw [hbest]
  exact hscore

theorem value_heardGap (lyric heard : Nat) :
    let previous := previousPlace lyricCount similarity ⟨lyric + 1, heard + 1, .heardGap⟩
    value lyricCount similarity ⟨lyric + 1, heard + 1, .heardGap⟩ =
      value lyricCount similarity ⟨lyric + 1, heard, previous⟩ +
        (alignmentMoves lyricCount similarity).score ⟨lyric + 1, heard, previous⟩ .heardGap := by
  intro previous
  obtain ⟨cell, hscore, hprevious⟩ := nextRow_heardGap (rowOpenGap lyricCount (lyric + 1))
    (rowExtendGap lyricCount (lyric + 1)) (similarity lyric)
    (rows lyricCount similarity lyric) heard
  have hattained := cell.fillHeardGap_attained
    (nextRow (rowOpenGap lyricCount (lyric + 1)) (rowExtendGap lyricCount (lyric + 1))
      (similarity lyric) (rows lyricCount similarity lyric) heard)
    (rowOpenGap_le lyricCount (lyric + 1))
  rw [gapScore_eq]
  have hfilled : previous = _ := hprevious
  rw [hfilled]
  exact hscore.trans hattained

theorem value_pair (lyric heard : Nat) :
    let previous := previousPlace lyricCount similarity ⟨lyric + 1, heard + 1, .pair⟩
    value lyricCount similarity ⟨lyric + 1, heard + 1, .pair⟩ =
      value lyricCount similarity ⟨lyric, heard, previous⟩ +
        (alignmentMoves lyricCount similarity).score ⟨lyric, heard, previous⟩ .pair :=
  Cell.fillPair_attained _ _ _

theorem value_edge (lyric : Nat) {ending : Ending} (hending : ending ≠ .lyricGap) :
    value lyricCount similarity ⟨lyric + 1, 0, ending⟩ = ⊥ :=
  nextRow_edge _ _ _ _ hending

theorem best_ne_bot (lyric heard : Nat) : (rows lyricCount similarity lyric heard).best ≠ ⊥ := by
  induction lyric with
  | zero =>
      intro hbot
      have hle := (rows lyricCount similarity 0 heard).score_le_best .heardGap
      rw [hbot, le_bot_iff] at hle
      simp [rows] at hle
  | succ lyric ih =>
      intro hbot
      have hle := (rows lyricCount similarity (lyric + 1) heard).score_le_best .lyricGap
      rw [hbot, le_bot_iff] at hle
      have hscore := (nextRow_lyricGap (rowOpenGap lyricCount (lyric + 1))
        (rowExtendGap lyricCount (lyric + 1)) (similarity lyric)
        (rows lyricCount similarity lyric) heard).1
      have hsum := hscore.symm.trans hle
      rw [WithBot.add_eq_bot] at hsum
      rcases hsum with hsum | hsum
      · exact ih hsum
      · exact WithBot.coe_ne_bot hsum

theorem alignmentScore_le_best {heardCount : Nat} {moves : List Ending}
    (hmoves : IsAlignment lyricCount heardCount similarity moves) :
    (alignmentScore lyricCount similarity moves : WithBot ℚ) ≤
      (rows lyricCount similarity lyricCount heardCount).best := by
  have hbound := (alignmentMoves lyricCount similarity).value_add_total_le
    (value_add_score_le lyricCount similarity) start moves
  have hstart : value lyricCount similarity start = 0 := by
    rw [start, value_row_zero, if_pos rfl]
  rw [hstart, zero_add] at hbound
  refine hbound.trans ?_
  obtain ⟨hlyric, hheard⟩ := hmoves
  unfold value
  rw [hlyric, hheard]
  exact Cell.score_le_best _ _

end Values

end Songmaker.Lyrics
