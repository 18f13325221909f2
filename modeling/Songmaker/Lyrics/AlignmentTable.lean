import Songmaker.Lyrics.AlignWords

namespace Songmaker.Lyrics

open Songmaker.Foundation
open Songmaker.Foundation.CheckedLoops

/-- The table has `size` cells, and cell `c` holds `cells c`. -/
structure Denotes (table : AlignmentTable) (size : Nat) (cells : Nat → Cell) : Prop where
  score_size : ∀ ending, (table.score ending).size = size
  previous_size : ∀ ending, (table.previous ending).size = size
  score : ∀ ending c, c < size → (table.score ending)[c]? = some ((cells c).score ending)
  previous : ∀ ending c, c < size → (table.previous ending)[c]? = some ((cells c).previous ending)

namespace Denotes

variable {table : AlignmentTable} {size c : Nat} {cells : Nat → Cell}

theorem scoreOf (h : Denotes table size cells) (hc : c < size) (ending : Ending) :
    table.scoreOf ending c = some ((cells c).score ending) :=
  h.score ending c hc

theorem bestEnding (h : Denotes table size cells) (hc : c < size) :
    table.bestEnding c = some (cells c).bestEnding := by
  simp [AlignmentTable.bestEnding, endings, h.scoreOf hc, Cell.bestEnding]

theorem best (h : Denotes table size cells) (hc : c < size) :
    table.best c = some (cells c).best := by
  simp [AlignmentTable.best, h.bestEnding hc, h.scoreOf hc, Cell.best]

theorem set (h : Denotes table size cells) (hc : c < size) (ending : Ending)
    (score : WithBot ℚ) (previous : Ending) :
    ∃ table', table.set ending c score previous = some table' ∧ table'.width = table.width ∧
      Denotes table' size (Function.update cells c ((cells c).set ending score previous)) := by
  have hbounds : c < (table.score ending).size ∧ c < (table.previous ending).size := by
    rw [h.score_size, h.previous_size]
    exact ⟨hc, hc⟩
  refine ⟨_, if_pos hbounds, rfl, ?_⟩
  constructor
  · intro other
    by_cases hother : other = ending
    · subst hother
      simpa using h.score_size other
    · simpa [hother] using h.score_size other
  · intro other
    by_cases hother : other = ending
    · subst hother
      simpa using h.previous_size other
    · simpa [hother] using h.previous_size other
  · intro other d hd
    have hscore := h.score other d hd
    by_cases hother : other = ending
    · subst hother
      by_cases hcell : d = c
      · subst hcell
        simp [hbounds.1]
      · simpa [Array.getElem?_setIfInBounds_ne (Ne.symm hcell), hcell] using hscore
    · by_cases hcell : d = c
      · subst hcell
        simpa [hother, Cell.set] using hscore
      · simpa [hother, hcell] using hscore
  · intro other d hd
    have hprevious := h.previous other d hd
    by_cases hother : other = ending
    · subst hother
      by_cases hcell : d = c
      · subst hcell
        simp [hbounds.2]
      · simpa [Array.getElem?_setIfInBounds_ne (Ne.symm hcell), hcell] using hprevious
    · by_cases hcell : d = c
      · subst hcell
        simpa [hother, Cell.set] using hprevious
      · simpa [hother, hcell] using hprevious

theorem fillHeardGapCell {cell : Cell} {left : Nat}
    (h : Denotes table size (Function.update cells c cell)) (hc : c < size)
    (hleft : c = left + 1) (openGap extendGap : ℚ) :
    ∃ table', table.fillHeardGapCell c openGap extendGap = some table' ∧
      table'.width = table.width ∧
        Denotes table' size (Function.update cells c
          (cell.fillHeardGap (cells left) openGap extendGap)) := by
  have hlt : left < size := by omega
  have hread : Function.update cells c cell left = cells left :=
    Function.update_of_ne (by omega) _ _
  have hset := h.set hc .heardGap
  simp only [Function.update_self, Function.update_idem] at hset
  unfold AlignmentTable.fillHeardGapCell Cell.fillHeardGap
  rw [hleft, sub?_add, ← hleft]
  simp only [Option.bind_eq_bind, Option.bind_some, h.best hlt, h.scoreOf hlt,
    h.bestEnding hlt, hread]
  split_ifs
  · exact hset _ _
  · exact hset _ _

theorem fillPairCell {cell : Cell} {diagonal : Nat}
    (h : Denotes table size (Function.update cells c cell)) (hc : c < size)
    (hdiagonal : c = diagonal + (table.width + 1)) (pairScore : ℚ) :
    ∃ table', table.fillPairCell c pairScore = some table' ∧ table'.width = table.width ∧
      Denotes table' size (Function.update cells c (cell.fillPair (cells diagonal) pairScore)) := by
  have hlt : diagonal < size := by omega
  have hread : Function.update cells c cell diagonal = cells diagonal :=
    Function.update_of_ne (by omega) _ _
  have hset := h.set hc .pair
  simp only [Function.update_self, Function.update_idem] at hset
  unfold AlignmentTable.fillPairCell Cell.fillPair
  rw [hdiagonal, sub?_add, ← hdiagonal]
  simp only [Option.bind_eq_bind, Option.bind_some, h.best hlt, h.scoreOf hlt,
    h.bestEnding hlt, hread]
  split_ifs
  · exact hset _ _
  · exact hset _ _

end Denotes

section Filling

variable (lyricCount heardCount : Nat) (similarity : Nat → Nat → ℚ)

/-- The cells once the rows below `row` and the first `col` cells of `row` are filled. -/
def filledCells (row col c : Nat) : Cell :=
  if c / (heardCount + 1) < row ∨ c / (heardCount + 1) = row ∧ c % (heardCount + 1) < col then
    rows lyricCount similarity (c / (heardCount + 1)) (c % (heardCount + 1))
  else Cell.blank

theorem cell_div {heard : Nat} (hheard : heard ≤ heardCount) (lyric : Nat) :
    (lyric * (heardCount + 1) + heard) / (heardCount + 1) = lyric := by
  rw [Nat.add_comm, Nat.add_mul_div_right _ _ (Nat.succ_pos _),
    Nat.div_eq_of_lt (Nat.lt_succ_of_le hheard), Nat.zero_add]

theorem cell_mod {heard : Nat} (hheard : heard ≤ heardCount) (lyric : Nat) :
    (lyric * (heardCount + 1) + heard) % (heardCount + 1) = heard := by
  rw [Nat.add_comm, Nat.add_mul_mod_self_right, Nat.mod_eq_of_lt (Nat.lt_succ_of_le hheard)]

theorem cell_lt {lyric heard : Nat} (hlyric : lyric ≤ lyricCount) (hheard : heard ≤ heardCount) :
    lyric * (heardCount + 1) + heard < (lyricCount + 1) * (heardCount + 1) := by
  calc
    lyric * (heardCount + 1) + heard < lyric * (heardCount + 1) + (heardCount + 1) :=
      Nat.add_lt_add_left (Nat.lt_succ_of_le hheard) _
    _ = (lyric + 1) * (heardCount + 1) := (Nat.succ_mul _ _).symm
    _ ≤ (lyricCount + 1) * (heardCount + 1) :=
      Nat.mul_le_mul_right _ (Nat.succ_le_succ hlyric)

theorem filledCells_at {heard : Nat} (hheard : heard ≤ heardCount) (lyric row col : Nat) :
    filledCells lyricCount heardCount similarity row col (lyric * (heardCount + 1) + heard) =
      if lyric < row ∨ lyric = row ∧ heard < col then rows lyricCount similarity lyric heard
      else Cell.blank := by
  unfold filledCells
  rw [cell_div heardCount hheard, cell_mod heardCount hheard]

theorem filledCells_done {lyric heard row col : Nat} (hheard : heard ≤ heardCount)
    (hdone : lyric < row ∨ lyric = row ∧ heard < col) :
    filledCells lyricCount heardCount similarity row col (lyric * (heardCount + 1) + heard) =
      rows lyricCount similarity lyric heard := by
  rw [filledCells_at lyricCount heardCount similarity hheard, if_pos hdone]

theorem filledCells_next {col : Nat} (hcol : col ≤ heardCount) (row : Nat) :
    filledCells lyricCount heardCount similarity row col (row * (heardCount + 1) + col) =
      Cell.blank := by
  rw [filledCells_at lyricCount heardCount similarity hcol, if_neg (by omega)]

theorem filledCells_step {col : Nat} (hcol : col ≤ heardCount) (row : Nat) :
    Function.update (filledCells lyricCount heardCount similarity row col)
        (row * (heardCount + 1) + col) (rows lyricCount similarity row col) =
      filledCells lyricCount heardCount similarity row (col + 1) := by
  funext c
  by_cases hc : c = row * (heardCount + 1) + col
  · subst hc
    rw [Function.update_self, filledCells_done _ _ _ hcol (.inr ⟨rfl, Nat.lt_succ_self col⟩)]
  · rw [Function.update_of_ne hc]
    unfold filledCells
    have hplace : ¬ (c / (heardCount + 1) = row ∧ c % (heardCount + 1) = col) := by
      rintro ⟨hdiv, hmod⟩
      apply hc
      rw [← hdiv, ← hmod, Nat.mul_comm]
      exact (Nat.div_add_mod c (heardCount + 1)).symm
    have hsame : (c / (heardCount + 1) < row ∨
          c / (heardCount + 1) = row ∧ c % (heardCount + 1) < col) ↔
        (c / (heardCount + 1) < row ∨
          c / (heardCount + 1) = row ∧ c % (heardCount + 1) < col + 1) := by
      omega
    simp only [hsame]

theorem filledCells_row (row : Nat) :
    filledCells lyricCount heardCount similarity row (heardCount + 1) =
      filledCells lyricCount heardCount similarity (row + 1) 0 := by
  funext c
  have hmod : c % (heardCount + 1) < heardCount + 1 := Nat.mod_lt _ (Nat.succ_pos _)
  have hsame : (c / (heardCount + 1) < row ∨
        c / (heardCount + 1) = row ∧ c % (heardCount + 1) < heardCount + 1) ↔
      (c / (heardCount + 1) < row + 1 ∨
        c / (heardCount + 1) = row + 1 ∧ c % (heardCount + 1) < 0) := by
    omega
  simp only [filledCells, hsame]

/-- The table so far: the rows below `row` and the first `col` cells of `row` are filled. -/
structure FilledTo (row col : Nat) (table : AlignmentTable) : Prop where
  width : table.width = heardCount + 1
  denotes : Denotes table ((lyricCount + 1) * (heardCount + 1))
    (filledCells lyricCount heardCount similarity row col)

theorem filledTo_empty :
    FilledTo lyricCount heardCount similarity 0 0 (AlignmentTable.empty lyricCount heardCount) := by
  have hblank : filledCells lyricCount heardCount similarity 0 0 = fun _ => Cell.blank := by
    funext c
    simp [filledCells]
  refine ⟨rfl, ?_⟩
  rw [hblank]
  constructor
  · intro ending
    simp [AlignmentTable.empty]
  · intro ending
    simp [AlignmentTable.empty]
  · intro ending c hc
    simp [AlignmentTable.empty, Cell.blank, hc]
  · intro ending c hc
    simp [AlignmentTable.empty, Cell.blank, hc]

theorem filledTo_firstRow {heard : Nat} (hheard : heard ≤ heardCount) {table : AlignmentTable}
    (htable : FilledTo lyricCount heardCount similarity 0 heard table) :
    ∃ table', table.set .heardGap heard 0 .heardGap = some table' ∧
      FilledTo lyricCount heardCount similarity 0 (heard + 1) table' := by
  have hcell : heard < (lyricCount + 1) * (heardCount + 1) := by
    simpa using cell_lt lyricCount heardCount (Nat.zero_le lyricCount) hheard
  obtain ⟨table', hset, hwidth, hdenotes⟩ := htable.denotes.set hcell .heardGap 0 .heardGap
  refine ⟨table', hset, hwidth.trans htable.width, ?_⟩
  have hblank := filledCells_next lyricCount heardCount similarity hheard 0
  have hstep := filledCells_step lyricCount heardCount similarity hheard 0
  rw [Nat.zero_mul, Nat.zero_add] at hblank hstep
  rw [hblank] at hdenotes
  rw [← hstep]
  exact hdenotes

theorem firstRow_spec :
    ∃ table, (List.range (heardCount + 1)).foldlM
        (fun table heardIndex => table.set .heardGap heardIndex 0 .heardGap)
        (AlignmentTable.empty lyricCount heardCount) = some table ∧
      FilledTo lyricCount heardCount similarity 1 0 table := by
  obtain ⟨table, hloop, htable⟩ := exists_foldlM_range
    (FilledTo lyricCount heardCount similarity 0)
    (filledTo_empty lyricCount heardCount similarity)
    (fun heard hheard table htable =>
      filledTo_firstRow lyricCount heardCount similarity (Nat.le_of_lt_succ hheard) htable)
  refine ⟨table, hloop, htable.width, ?_⟩
  rw [← filledCells_row]
  exact htable.denotes

variable {lyricCount heardCount similarity}

theorem FilledTo.at_row {row : Nat} {table : AlignmentTable}
    (htable : FilledTo lyricCount heardCount similarity row (heardCount + 1) table) :
    FilledTo lyricCount heardCount similarity (row + 1) 0 table := by
  refine ⟨htable.width, ?_⟩
  rw [← filledCells_row]
  exact htable.denotes

theorem FilledTo.gap_step {lyric heard : Nat} (hlyric : lyric < lyricCount)
    (hheard : heard ≤ heardCount) {table : AlignmentTable}
    (htable : FilledTo lyricCount heardCount similarity (lyric + 1) heard table) :
    ∃ gapped, (∀ rest : AlignmentTable → Option AlignmentTable, (do
        let above ← sub? ((lyric + 1) * table.width + heard) table.width
        let table ← table.set .lyricGap ((lyric + 1) * table.width + heard)
          ((← table.best above) + skipLyricWord) (← table.bestEnding above)
        rest table) = rest gapped) ∧
      gapped.width = heardCount + 1 ∧
        Denotes gapped ((lyricCount + 1) * (heardCount + 1))
          (Function.update
            (filledCells lyricCount heardCount similarity (lyric + 1) heard)
            ((lyric + 1) * (heardCount + 1) + heard)
            (Cell.blank.fillLyricGap (rows lyricCount similarity lyric heard))) := by
  have hcell : (lyric + 1) * (heardCount + 1) + heard =
      lyric * (heardCount + 1) + heard + (heardCount + 1) := by
    rw [Nat.succ_mul, Nat.add_right_comm]
  have habove := cell_lt lyricCount heardCount hlyric.le hheard
  have hread := filledCells_done lyricCount heardCount similarity hheard
    (.inl (Nat.lt_succ_self lyric) : lyric < lyric + 1 ∨ lyric = lyric + 1 ∧ heard < heard)
  have hblank := filledCells_next lyricCount heardCount similarity hheard (lyric + 1)
  obtain ⟨gapped, hset, hwidth, hgapped⟩ := htable.denotes.set
    (cell_lt lyricCount heardCount hlyric hheard) .lyricGap
    ((rows lyricCount similarity lyric heard).best + skipLyricWord)
    (rows lyricCount similarity lyric heard).bestEnding
  rw [hblank] at hgapped
  refine ⟨gapped, fun rest => ?_, hwidth.trans htable.width, hgapped⟩
  have hsub : sub? ((lyric + 1) * (heardCount + 1) + heard) (heardCount + 1) =
      some (lyric * (heardCount + 1) + heard) := by
    rw [hcell, sub?_add]
  simp only [htable.width, hsub, Option.bind_eq_bind, Option.bind_some,
    htable.denotes.best habove, htable.denotes.bestEnding habove, hread, hset]

theorem FilledTo.cell_step {lookup : Nat → Nat → Option ℚ}
    (hlookup : ∀ lyric < lyricCount, ∀ heard < heardCount,
      lookup lyric heard = some (similarity lyric heard))
    {lyric heard : Nat} (hlyric : lyric < lyricCount) (hheard : heard ≤ heardCount)
    {table : AlignmentTable}
    (htable : FilledTo lyricCount heardCount similarity (lyric + 1) heard table) :
    ∃ table', AlignmentTable.fillCell lyricCount lookup (lyric + 1) table heard = some table' ∧
      FilledTo lyricCount heardCount similarity (lyric + 1) (heard + 1) table' := by
  obtain ⟨gapped, hgap, hgapWidth, hgapped⟩ := htable.gap_step hlyric hheard
  have hfilled := filledCells_step lyricCount heardCount similarity hheard (lyric + 1)
  cases heard with
  | zero =>
      refine ⟨gapped, (hgap _).trans (if_pos rfl), hgapWidth, ?_⟩
      rw [← hfilled]
      exact hgapped
  | succ heard =>
      have hleft := filledCells_done lyricCount heardCount similarity
        ((Nat.le_succ heard).trans hheard)
        (.inr ⟨rfl, Nat.lt_succ_self heard⟩ :
          lyric + 1 < lyric + 1 ∨ lyric + 1 = lyric + 1 ∧ heard < heard + 1)
      have hdiagonal := filledCells_done lyricCount heardCount similarity
        ((Nat.le_succ heard).trans hheard)
        (.inl (Nat.lt_succ_self lyric) :
          lyric < lyric + 1 ∨ lyric = lyric + 1 ∧ heard < heard + 1)
      have hsize := cell_lt lyricCount heardCount hlyric hheard
      obtain ⟨widened, hwiden, hwidenWidth, hwidened⟩ := hgapped.fillHeardGapCell hsize
        (Nat.add_assoc _ heard 1).symm (rowOpenGap lyricCount (lyric + 1))
          (rowExtendGap lyricCount (lyric + 1))
      rw [hleft] at hwidened
      have hwidth := hwidenWidth.trans hgapWidth
      have hcell : (lyric + 1) * (heardCount + 1) + (heard + 1) =
          lyric * (heardCount + 1) + heard + (widened.width + 1) := by
        rw [hwidth, Nat.succ_mul]
        omega
      obtain ⟨paired, hpair, hpairWidth, hpaired⟩ := hwidened.fillPairCell hsize hcell
        (2 * similarity lyric heard - 1)
      rw [hdiagonal] at hpaired
      refine ⟨paired, ?_, hpairWidth.trans hwidth, ?_⟩
      · refine (hgap _).trans ?_
        rw [if_neg (Nat.succ_ne_zero heard), htable.width]
        rw [← rowOpenGap, ← rowExtendGap, hwiden]
        simp only [Option.bind_eq_bind, Option.bind_some, sub?_add,
          hlookup lyric hlyric heard hheard]
        exact hpair
      · rw [← hfilled]
        exact hpaired

theorem FilledTo.row_step {lookup : Nat → Nat → Option ℚ}
    (hlookup : ∀ lyric < lyricCount, ∀ heard < heardCount,
      lookup lyric heard = some (similarity lyric heard))
    {lyric : Nat} (hlyric : lyric < lyricCount) {table : AlignmentTable}
    (htable : FilledTo lyricCount heardCount similarity (lyric + 1) 0 table) :
    ∃ table', (List.range (heardCount + 1)).foldlM
        (AlignmentTable.fillCell lyricCount lookup (lyric + 1)) table = some table' ∧
      FilledTo lyricCount heardCount similarity (lyric + 2) 0 table' := by
  obtain ⟨table', hloop, hrow⟩ := exists_foldlM_range
    (FilledTo lyricCount heardCount similarity (lyric + 1)) htable
    fun heard hheard table htable => htable.cell_step hlookup hlyric (Nat.le_of_lt_succ hheard)
  exact ⟨table', hloop, hrow.at_row⟩

theorem fillAlignmentTable_spec {lookup : Nat → Nat → Option ℚ}
    (hlookup : ∀ lyric < lyricCount, ∀ heard < heardCount,
      lookup lyric heard = some (similarity lyric heard)) :
    ∃ table, fillAlignmentTable lyricCount heardCount lookup = some table ∧
      FilledTo lyricCount heardCount similarity (lyricCount + 1) 0 table := by
  obtain ⟨first, hfirst, hfirstRow⟩ := firstRow_spec lyricCount heardCount similarity
  obtain ⟨table, hloop, htable⟩ := exists_foldlM_range
    (fun row => FilledTo lyricCount heardCount similarity (row + 1) 0)
    hfirstRow (fun row hrow table htable => htable.row_step hlookup hrow)
  refine ⟨table, ?_, htable⟩
  unfold fillAlignmentTable
  rw [hfirst]
  exact hloop

theorem FilledTo.previousOf {table : AlignmentTable}
    (htable : FilledTo lyricCount heardCount similarity (lyricCount + 1) 0 table)
    {lyric heard : Nat} (hlyric : lyric ≤ lyricCount) (hheard : heard ≤ heardCount)
    (ending : Ending) :
    table.previousOf ending (lyric * table.width + heard) =
      some (previousPlace lyricCount similarity ⟨lyric, heard, ending⟩) := by
  rw [htable.width]
  refine (htable.denotes.previous ending _
    (cell_lt lyricCount heardCount hlyric hheard)).trans ?_
  rw [filledCells_done _ _ _ hheard (.inl (Nat.lt_succ_of_le hlyric))]
  rfl

theorem FilledTo.bestEnding {table : AlignmentTable}
    (htable : FilledTo lyricCount heardCount similarity (lyricCount + 1) 0 table) :
    table.bestEnding (lyricCount * table.width + heardCount) =
      some (rows lyricCount similarity lyricCount heardCount).bestEnding := by
  rw [htable.width, htable.denotes.bestEnding (cell_lt lyricCount heardCount le_rfl le_rfl),
    filledCells_done _ _ _ le_rfl (.inl (Nat.lt_succ_self lyricCount))]

end Filling

end Songmaker.Lyrics
