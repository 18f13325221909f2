import Mathlib.Data.List.DropRight
import Songmaker.Foundation.CheckedLoops
import Songmaker.Foundation.CommonSubsequences

namespace Songmaker.Lyrics.LineDiff

open Songmaker.Foundation
open Songmaker.Foundation.CheckedLoops

inductive DiffType where
  | same
  | add
  | remove
deriving DecidableEq

/-- A line of the diff, by its places in the two texts. -/
structure DiffIndex where
  type : DiffType
  oldIndex : Option Nat
  newIndex : Option Nat
deriving DecidableEq

/-- The lines up to the last that is not empty. -/
def trimTrailingEmpty (lines : List String) : List String :=
  lines.rdropWhile (· = "")

/-- The body of the inner loop of `lcsMatrix`. -/
def fillCell (a b : List String) (i : Nat) (dp : Nat → Nat → Nat) (j : Nat) : Nat → Nat → Nat :=
  Function.update dp (i + 1) (Function.update (dp (i + 1)) (j + 1)
    (if a[i]? = b[j]? then dp i j + 1 else max (dp i (j + 1)) (dp (i + 1) j)))

/-- The lengths of the longest common subsequences of all beginnings of the two lists. -/
def lcsMatrix (a b : List String) : Nat → Nat → Nat :=
  (List.range a.length).foldl (fun dp i => (List.range b.length).foldl (fillCell a b i) dp)
    fun _ _ => 0

/-- The loop of `buildDiffIndex` from the last cell back to the first, with the
entries in the order in which they are pushed. -/
def walkBack (oldLines newLines : List String) (dp : Nat → Nat → Nat) :
    Nat → Nat → List DiffIndex
  | 0, 0 => []
  | 0, j + 1 => ⟨.add, none, some j⟩ :: walkBack oldLines newLines dp 0 j
  | i + 1, 0 => ⟨.remove, some i, none⟩ :: walkBack oldLines newLines dp i 0
  | i + 1, j + 1 =>
      if oldLines[i]? = newLines[j]? then
        ⟨.same, some i, some j⟩ :: walkBack oldLines newLines dp i j
      else if dp i (j + 1) ≤ dp (i + 1) j then
        ⟨.add, none, some j⟩ :: walkBack oldLines newLines dp (i + 1) j
      else ⟨.remove, some i, none⟩ :: walkBack oldLines newLines dp i (j + 1)

/-- The diff, walked from the end of the two lists. -/
def buildDiffIndex (oldLines newLines : List String) (dp : Nat → Nat → Nat) : List DiffIndex :=
  (walkBack oldLines newLines dp oldLines.length newLines.length).reverse

/-- The diff of two lists of lines. -/
def computeDiffByKey (oldTokens newTokens : List String) : List DiffIndex :=
  let oldLines := trimTrailingEmpty oldTokens
  let newLines := trimTrailingEmpty newTokens
  buildDiffIndex oldLines newLines (lcsMatrix oldLines newLines)

/-! ### What is read from a diff -/

/-- The lines that the entries of the two types name, in order. -/
def readLines {Line : Type} (lines : List Line) (kind : DiffType)
    (index : DiffIndex → Option Nat) (diff : List DiffIndex) : List (Option Line) :=
  (diff.filter fun entry => entry.type = .same || entry.type = kind).map
    fun entry => (index entry).bind fun i => lines[i]?

/-- What the diff shows of the old lines. -/
def readOld {Line : Type} (lines : List Line) : List DiffIndex → List (Option Line) :=
  readLines lines .remove DiffIndex.oldIndex

/-- What the diff shows of the new lines. -/
def readNew {Line : Type} (lines : List Line) : List DiffIndex → List (Option Line) :=
  readLines lines .add DiffIndex.newIndex

/-- How many lines the diff shows as the same. -/
def sameCount (diff : List DiffIndex) : Nat :=
  diff.countP fun entry => entry.type = .same

/-! ### The table -/

/-- The longest common subsequence of the first `i` and the first `j` lines. -/
def prefixLength (a b : List String) (i j : Nat) : Nat :=
  commonLength (a.take i).reverse (b.take j).reverse

theorem prefixLength_zero_left (a b : List String) (j : Nat) : prefixLength a b 0 j = 0 := by
  simp [prefixLength]

theorem prefixLength_zero_right (a b : List String) (i : Nat) : prefixLength a b i 0 = 0 := by
  simp [prefixLength]

theorem prefixLength_succ {a b : List String} {i j : Nat} (hi : i < a.length)
    (hj : j < b.length) :
    prefixLength a b (i + 1) (j + 1) =
      if a[i]? = b[j]? then prefixLength a b i j + 1
      else max (prefixLength a b i (j + 1)) (prefixLength a b (i + 1) j) := by
  have ha : (a.take (i + 1)).reverse = a[i] :: (a.take i).reverse := by
    rw [List.take_succ_eq_append_getElem hi, List.reverse_append]
    rfl
  have hb : (b.take (j + 1)).reverse = b[j] :: (b.take j).reverse := by
    rw [List.take_succ_eq_append_getElem hj, List.reverse_append]
    rfl
  simp only [prefixLength, ha, hb, commonLength, List.getElem?_eq_getElem hi,
    List.getElem?_eq_getElem hj, Option.some.injEq]

/-- The cells that are filled when the outer loop has reached row `i` and the inner
loop column `j` of the next row. -/
structure Filled (a b : List String) (i j : Nat) (dp : Nat → Nat → Nat) : Prop where
  column : ∀ row, dp row 0 = 0
  rows : ∀ row ≤ i, ∀ k ≤ b.length, dp row k = prefixLength a b row k
  cells : ∀ k ≤ j, dp (i + 1) k = prefixLength a b (i + 1) k

theorem Filled.fillCell {a b : List String} {i j : Nat} {dp : Nat → Nat → Nat}
    (hfilled : Filled a b i j dp) (hi : i < a.length) (hj : j < b.length) :
    Filled a b i (j + 1) (fillCell a b i dp j) where
  column row := by
    by_cases hrow : row = i + 1
    · rw [LineDiff.fillCell, hrow, Function.update_self, Function.update_of_ne (by omega)]
      exact hfilled.column (i + 1)
    · rw [LineDiff.fillCell, Function.update_of_ne hrow]
      exact hfilled.column row
  rows row hrow k hk := by
    rw [LineDiff.fillCell, Function.update_of_ne (by omega)]
    exact hfilled.rows row hrow k hk
  cells k hk := by
    rw [LineDiff.fillCell, Function.update_self]
    by_cases hlast : k = j + 1
    · rw [hlast, Function.update_self, prefixLength_succ hi hj,
        hfilled.rows i le_rfl j hj.le, hfilled.rows i le_rfl (j + 1) hj,
        hfilled.cells j le_rfl]
    · rw [Function.update_of_ne hlast]
      exact hfilled.cells k (by omega)

theorem Filled.nextRow {a b : List String} {i : Nat} {dp : Nat → Nat → Nat}
    (hfilled : Filled a b i b.length dp) : Filled a b (i + 1) 0 dp where
  column := hfilled.column
  rows row hrow k hk := by
    rcases Nat.lt_or_eq_of_le hrow with hlt | rfl
    · exact hfilled.rows row (by omega) k hk
    · exact hfilled.cells k hk
  cells k hk := by
    obtain rfl : k = 0 := by omega
    rw [hfilled.column, prefixLength_zero_right]

theorem lcsMatrix_filled (a b : List String) : Filled a b a.length 0 (lcsMatrix a b) := by
  apply inv_foldl_range fun i dp => Filled a b i 0 dp
  · refine ⟨fun _ => rfl, fun row hrow k _ => ?_, fun k hk => ?_⟩
    · obtain rfl : row = 0 := by omega
      rw [prefixLength_zero_left]
    · obtain rfl : k = 0 := by omega
      rw [prefixLength_zero_right]
  · intro i hi dp hdp
    have hrow : Filled a b i b.length ((List.range b.length).foldl (fillCell a b i) dp) :=
      inv_foldl_range (fun j dp => Filled a b i j dp) hdp fun j hj dp hdp => hdp.fillCell hi hj
    exact hrow.nextRow

theorem lcsMatrix_eq {a b : List String} {i j : Nat} (hi : i ≤ a.length) (hj : j ≤ b.length) :
    lcsMatrix a b i j = prefixLength a b i j :=
  (lcsMatrix_filled a b).rows i hi j hj

/-! ### The walk back -/

theorem walkBack_old (a b : List String) (dp : Nat → Nat → Nat) (i j : Nat) :
    ((walkBack a b dp i j).filter fun entry => entry.type = .same || entry.type = .remove).map
      DiffIndex.oldIndex = ((List.range i).map some).reverse := by
  induction i, j using walkBack.induct a b dp with
  | case1 => simp [walkBack]
  | case2 j ih => simpa [walkBack] using ih
  | case3 i ih => simp [walkBack, ih, List.range_succ]
  | case4 i j heq ih => simp [walkBack, heq, ih, List.range_succ]
  | case5 i j hne hle ih => simpa [walkBack, hne, hle] using ih
  | case6 i j hne hlt ih => simp [walkBack, hne, hlt, ih, List.range_succ]

theorem walkBack_new (a b : List String) (dp : Nat → Nat → Nat) (i j : Nat) :
    ((walkBack a b dp i j).filter fun entry => entry.type = .same || entry.type = .add).map
      DiffIndex.newIndex = ((List.range j).map some).reverse := by
  induction i, j using walkBack.induct a b dp with
  | case1 => simp [walkBack]
  | case2 j ih => simp [walkBack, ih, List.range_succ]
  | case3 i ih => simpa [walkBack] using ih
  | case4 i j heq ih => simp [walkBack, heq, ih, List.range_succ]
  | case5 i j hne hle ih => simp [walkBack, hne, hle, ih, List.range_succ]
  | case6 i j hne hlt ih => simpa [walkBack, hne, hlt] using ih

theorem sameCount_walkBack (a b : List String) {i j : Nat} (hi : i ≤ a.length)
    (hj : j ≤ b.length) :
    sameCount (walkBack a b (lcsMatrix a b) i j) = prefixLength a b i j := by
  induction i, j using walkBack.induct a b (lcsMatrix a b) with
  | case1 => simp [walkBack, sameCount, prefixLength_zero_left]
  | case2 j ih => simpa [walkBack, sameCount, prefixLength_zero_left] using ih hi (by omega)
  | case3 i ih => simpa [walkBack, sameCount, prefixLength_zero_right] using ih (by omega) hj
  | case4 i j heq ih =>
      have hrest := ih (by omega) (by omega)
      rw [prefixLength_succ (by omega) (by omega), if_pos heq, ← hrest]
      simp [walkBack, heq, sameCount]
  | case5 i j hne hle ih =>
      have hrest := ih hi (by omega)
      rw [lcsMatrix_eq (by omega) hj, lcsMatrix_eq hi (by omega)] at hle
      rw [prefixLength_succ (by omega) (by omega), if_neg hne, max_eq_right hle, ← hrest]
      rw [← lcsMatrix_eq (by omega) hj, ← lcsMatrix_eq hi (by omega)] at hle
      simp [walkBack, hne, hle, sameCount]
  | case6 i j hne hlt ih =>
      have hrest := ih (by omega) hj
      rw [lcsMatrix_eq (by omega) hj, lcsMatrix_eq hi (by omega)] at hlt
      rw [prefixLength_succ (by omega) (by omega), if_neg hne, max_eq_left (not_le.mp hlt).le,
        ← hrest]
      rw [← lcsMatrix_eq (by omega) hj, ← lcsMatrix_eq hi (by omega)] at hlt
      simp [walkBack, hne, hlt, sameCount]

/-! ### The diff of two texts -/

/-- The lines that a text keeps once its trailing lines without a key are gone. -/
def trimmed {Line : Type} (key : Line → String) (lines : List Line) : List Line :=
  lines.rdropWhile fun line => key line = ""

theorem trimTrailingEmpty_map {Line : Type} (key : Line → String) (lines : List Line) :
    trimTrailingEmpty (lines.map key) = (trimmed key lines).map key := by
  rw [trimTrailingEmpty, trimmed, List.rdropWhile, List.rdropWhile, ← List.map_reverse,
    List.dropWhile_map, List.map_reverse]
  rfl

theorem trimmed_isPrefix {Line : Type} (key : Line → String) (lines : List Line) :
    trimmed key lines <+: lines :=
  List.rdropWhile_prefix _ lines

theorem map_getElem?_of_isPrefix {Line : Type} {kept lines : List Line} (hkept : kept <+: lines) :
    ((List.range kept.length).map some).map (fun index => index.bind fun i => lines[i]?) =
      kept.map some := by
  obtain ⟨rest, rfl⟩ := hkept
  apply List.ext_getElem
  · simp
  · intro i hi hi'
    have hlt : i < kept.length := by simpa using hi
    simp [List.getElem?_append_left hlt]

theorem readLines_eq {Line : Type} {kept lines : List Line} {kind : DiffType}
    {index : DiffIndex → Option Nat} {walked : List DiffIndex} (hkept : kept <+: lines)
    (hwalked : (walked.filter fun entry => entry.type = .same || entry.type = kind).map index =
      ((List.range kept.length).map some).reverse) :
    readLines lines kind index walked.reverse = kept.map some := by
  have hindices : ((walked.reverse.filter fun entry => entry.type = .same || entry.type = kind).map
      index) = (List.range kept.length).map some := by
    rw [List.filter_reverse, List.map_reverse, hwalked, List.reverse_reverse]
  rw [← map_getElem?_of_isPrefix hkept, ← hindices, List.map_map]
  rfl

/-- The diff of two texts reads back as either of them, without its trailing lines
that have no key, and has as many lines in common as the two can have. -/
theorem diff_reads_back {Line : Type} (key : Line → String) (oldLines newLines : List Line) :
    readOld oldLines (computeDiffByKey (oldLines.map key) (newLines.map key)) =
        (trimmed key oldLines).map some ∧
      readNew newLines (computeDiffByKey (oldLines.map key) (newLines.map key)) =
        (trimmed key newLines).map some ∧
      IsGreatest {n | ∃ common, List.Sublist common ((trimmed key oldLines).map key) ∧
          List.Sublist common ((trimmed key newLines).map key) ∧ common.length = n}
        (sameCount (computeDiffByKey (oldLines.map key) (newLines.map key))) := by
  have hcompute : computeDiffByKey (oldLines.map key) (newLines.map key) =
      buildDiffIndex ((trimmed key oldLines).map key) ((trimmed key newLines).map key)
        (lcsMatrix ((trimmed key oldLines).map key) ((trimmed key newLines).map key)) := by
    rw [computeDiffByKey, trimTrailingEmpty_map, trimTrailingEmpty_map]
  rw [hcompute]
  refine ⟨?_, ?_, ?_⟩
  · apply readLines_eq (trimmed_isPrefix key oldLines)
    rw [walkBack_old, List.length_map]
  · apply readLines_eq (trimmed_isPrefix key newLines)
    rw [walkBack_new, List.length_map]
  · have hcount : sameCount (buildDiffIndex ((trimmed key oldLines).map key)
        ((trimmed key newLines).map key)
        (lcsMatrix ((trimmed key oldLines).map key) ((trimmed key newLines).map key))) =
          commonLength ((trimmed key oldLines).map key) ((trimmed key newLines).map key) := by
      rw [buildDiffIndex, sameCount, List.countP_reverse, ← sameCount,
        sameCount_walkBack _ _ le_rfl le_rfl, prefixLength, List.take_length, List.take_length,
        commonLength_reverse]
    rw [hcount]
    exact isGreatest_commonLength _ _

end Songmaker.Lyrics.LineDiff
