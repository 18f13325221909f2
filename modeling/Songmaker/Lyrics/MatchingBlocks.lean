import Mathlib.Algebra.Order.Field.Basic
import Songmaker.Lyrics.LongestMatch

namespace Songmaker.Lyrics.SequenceMatcher

variable {α : Type}

/-! ### Extending a match -/

def Equal (a b : List α) (i j : Nat) : Prop :=
  a[i]? = b[j]?

/-- `after` is `found` with all that is equal around it. -/
structure IsExtended (equal : Nat → Nat → Prop) (range : Range) (found after : Match) : Prop
    extends Within range after where
  starts : after.a ≤ found.a
  diagonal : after.a + found.b = found.a + after.b
  covers : found.a + found.size ≤ after.a + after.size
  earlier : ∀ d, after.a + d < found.a → equal (after.a + d) (after.b + d)
  later : ∀ d < after.size, found.a + found.size ≤ after.a + d → equal (after.a + d) (after.b + d)
  stopsBefore : ¬(range.alo < after.a ∧ range.blo < after.b ∧ equal (after.a - 1) (after.b - 1))
  stopsAfter : ¬(after.a + after.size < range.ahi ∧ after.b + after.size < range.bhi ∧
    equal (after.a + after.size) (after.b + after.size))

theorem IsExtended.unique {equal : Nat → Nat → Prop} {range : Range} {found m n : Match}
    (hm : IsExtended equal range found m) (hn : IsExtended equal range found n) : m = n := by
  have hstart : ∀ {m n : Match}, IsExtended equal range found m →
      IsExtended equal range found n → m.a ≤ n.a := by
    intro m n hm hn
    by_contra hlt
    refine hm.stopsBefore ⟨?_, ?_, ?_⟩
    · exact lt_of_le_of_lt hn.alo_le (not_le.mp hlt)
    · have hblo := hn.blo_le
      have hmd := hm.diagonal
      have hnd := hn.diagonal
      omega
    · have hms := hm.starts
      have hmd := hm.diagonal
      have hnd := hn.diagonal
      have hequal := hn.earlier (m.a - 1 - n.a) (by omega)
      rwa [show n.a + (m.a - 1 - n.a) = m.a - 1 by omega,
        show n.b + (m.a - 1 - n.a) = m.b - 1 by omega] at hequal
  have ha : m.a = n.a := le_antisymm (hstart hm hn) (hstart hn hm)
  have hb : m.b = n.b := by
    have hmd := hm.diagonal
    have hnd := hn.diagonal
    omega
  have hend : ∀ {m n : Match}, IsExtended equal range found m →
      IsExtended equal range found n → m.a = n.a → m.b = n.b → m.size ≤ n.size := by
    intro m n hm hn ha hb
    by_contra hlt
    have hmahi := hm.le_ahi
    have hmbhi := hm.le_bhi
    have hcovers := hn.covers
    refine hn.stopsAfter ⟨by omega, by omega, ?_⟩
    have hequal := hm.later n.size (by omega) (by omega)
    rwa [ha, hb] at hequal
  have hsize : m.size = n.size := le_antisymm (hend hm hn ha hb) (hend hn hm ha.symm hb.symm)
  cases m
  cases n
  simp_all

variable [DecidableEq α]

/-- What `extendMatchBackwards` makes of a match at `i` and `j`. -/
structure ExtendsBack (equal : Nat → Nat → Prop) (alo blo i j size : Nat) (back : Match) :
    Prop where
  alo_le : alo ≤ back.a
  blo_le : blo ≤ back.b
  starts : back.a ≤ i
  diagonal : back.a + j = i + back.b
  ends : back.a + back.size = i + size
  earlier : ∀ d, back.a + d < i → equal (back.a + d) (back.b + d)
  stops : ¬(alo < back.a ∧ blo < back.b ∧ equal (back.a - 1) (back.b - 1))

theorem extendMatchBackwards_extends (a b : List α) {alo blo : Nat} (i : Nat) {j size : Nat}
    (hi : alo ≤ i) (hj : blo ≤ j) :
    ExtendsBack (Equal a b) alo blo i j size (extendMatchBackwards a b alo blo i j size) := by
  induction i generalizing j size with
  | zero =>
      rw [extendMatchBackwards]
      refine ⟨hi, hj, le_rfl, rfl, rfl, fun d hd => absurd hd (Nat.not_lt_zero _), ?_⟩
      rintro ⟨hlt, -⟩
      exact absurd hlt (Nat.not_lt_zero _)
  | succ i ih =>
      cases j with
      | zero =>
          rw [extendMatchBackwards]
          refine ⟨hi, hj, le_rfl, rfl, rfl, fun d hd => by simp only at hd; omega, ?_⟩
          rintro ⟨-, hlt, -⟩
          exact absurd hlt (Nat.not_lt_zero _)
      | succ j =>
          rw [extendMatchBackwards]
          split
          · rename_i hequal
            have hback : ExtendsBack (Equal a b) alo blo i j (size + 1)
                (extendMatchBackwards a b alo blo i j (size + 1)) := ih hequal.1 hequal.2.1
            have hdiagonal := hback.diagonal
            have hends := hback.ends
            have hstarts := hback.starts
            refine ⟨hback.alo_le, hback.blo_le, by omega, by omega, by omega, ?_, hback.stops⟩
            intro d hd
            rcases Nat.lt_succ_iff_lt_or_eq.mp hd with hlt | heq
            · exact hback.earlier d hlt
            · have hb : (extendMatchBackwards a b alo blo i j (size + 1)).b + d = j := by omega
              rw [heq, hb]
              exact hequal.2.2
          · rename_i hstops
            refine ⟨hi, hj, le_rfl, rfl, rfl, fun d hd => by simp only at hd; omega, ?_⟩
            rintro ⟨halo, hblo, hequal⟩
            exact hstops ⟨Nat.le_of_lt_succ halo, Nat.le_of_lt_succ hblo, hequal⟩

/-- What `extendMatchForwards` makes of a match. -/
structure ExtendsForth (equal : Nat → Nat → Prop) (ahi bhi : Nat) (found forth : Match) :
    Prop where
  a_eq : forth.a = found.a
  b_eq : forth.b = found.b
  grows : found.size ≤ forth.size
  le_ahi : forth.a + forth.size ≤ ahi
  le_bhi : forth.b + forth.size ≤ bhi
  later : ∀ d < forth.size, found.size ≤ d → equal (forth.a + d) (forth.b + d)
  stops : ¬(forth.a + forth.size < ahi ∧ forth.b + forth.size < bhi ∧
    equal (forth.a + forth.size) (forth.b + forth.size))

theorem extendMatchForwards_extends (a b : List α) {ahi bhi : Nat} (left : Nat) {found : Match}
    (hahi : found.a + found.size + left = ahi) (hbhi : found.b + found.size ≤ bhi) :
    ExtendsForth (Equal a b) ahi bhi found (extendMatchForwards a b ahi bhi left found) := by
  induction left generalizing found with
  | zero =>
      rw [extendMatchForwards]
      refine ⟨rfl, rfl, le_rfl, by omega, hbhi, fun d hd hle => by omega, ?_⟩
      rintro ⟨hlt, -⟩
      omega
  | succ left ih =>
      rw [extendMatchForwards]
      split
      · rename_i hequal
        have hforth : ExtendsForth (Equal a b) ahi bhi { found with size := found.size + 1 }
            (extendMatchForwards a b ahi bhi left { found with size := found.size + 1 }) :=
          ih (by simp only; omega) (by simp only; omega)
        refine ⟨hforth.a_eq, hforth.b_eq, (Nat.le_succ _).trans hforth.grows, hforth.le_ahi,
          hforth.le_bhi, ?_, hforth.stops⟩
        intro d hd hle
        rcases Nat.lt_or_eq_of_le hle with hlt | rfl
        · exact hforth.later d hd hlt
        · rw [hforth.a_eq, hforth.b_eq]
          exact hequal.2.2
      · rename_i hstops
        exact ⟨rfl, rfl, le_rfl, by omega, hbhi, fun d hd hle => by omega, hstops⟩

theorem extendMatch_isExtended (a b : List α) {range : Range} {found : Match}
    (hwithin : Within range found) :
    IsExtended (Equal a b) range found (extendMatch a b range found) := by
  have hback : ExtendsBack (Equal a b) range.alo range.blo found.a found.b found.size
      (extendMatchBackwards a b range.alo range.blo found.a found.b found.size) :=
    extendMatchBackwards_extends a b found.a hwithin.alo_le hwithin.blo_le
  generalize hb : extendMatchBackwards a b range.alo range.blo found.a found.b found.size = back
    at hback
  have hahi := hwithin.le_ahi
  have hbhi := hwithin.le_bhi
  have hstarts := hback.starts
  have hdiagonal := hback.diagonal
  have hends := hback.ends
  have hforth : ExtendsForth (Equal a b) range.ahi range.bhi back
      (extendMatchForwards a b range.ahi range.bhi (range.ahi - (back.a + back.size)) back) :=
    extendMatchForwards_extends a b _ (by omega) (by omega)
  have hextend : extendMatch a b range found =
      extendMatchForwards a b range.ahi range.bhi (range.ahi - (back.a + back.size)) back := by
    rw [extendMatch, hb]
  rw [hextend]
  generalize extendMatchForwards a b range.ahi range.bhi (range.ahi - (back.a + back.size)) back =
    forth at hforth
  have ha := hforth.a_eq
  have hb := hforth.b_eq
  have hgrows := hforth.grows
  refine
    { alo_le := ha ▸ hback.alo_le
      le_ahi := hforth.le_ahi
      blo_le := hb ▸ hback.blo_le
      le_bhi := hforth.le_bhi
      starts := ha ▸ hback.starts
      diagonal := by omega
      covers := by omega
      earlier := ?_
      later := ?_
      stopsBefore := by rw [ha, hb]; exact hback.stops
      stopsAfter := hforth.stops }
  · intro d hd
    rw [ha] at hd ⊢
    rw [hb]
    exact hback.earlier d hd
  · intro d hd hle
    exact hforth.later d hd (by omega)

/-- A longest match: the longest run without popular elements, extended. -/
def IsLongestMatch (a b : List α) (range : Range) (best : Match) : Prop :=
  ∃ found, IsLongest (Paired a b) range found ∧ IsExtended (Equal a b) range found best

theorem findLongestMatch_isLongestMatch (a b : List α) (range : Range) :
    IsLongestMatch a b range (findLongestMatch a b range) :=
  ⟨_, findMatch_isLongest a b range,
    extendMatch_isExtended a b (findMatch_isLongest a b range).runs.toWithin⟩

theorem isLongestMatch_iff {a b : List α} {range : Range} {best : Match} :
    IsLongestMatch a b range best ↔ best = findLongestMatch a b range := by
  constructor
  · rintro ⟨found, hfound, hbest⟩
    obtain ⟨found', hfound', hbest'⟩ := findLongestMatch_isLongestMatch a b range
    obtain rfl := hfound.unique hfound'
    exact hbest.unique hbest'
  · rintro rfl
    exact findLongestMatch_isLongestMatch a b range

theorem IsLongestMatch.within {a b : List α} {range : Range} {best : Match}
    (hbest : IsLongestMatch a b range best) : Within range best := by
  obtain ⟨found, -, hextended⟩ := hbest
  exact hextended.toWithin

theorem IsLongestMatch.equal {a b : List α} {range : Range} {best : Match}
    (hbest : IsLongestMatch a b range best) :
    ∀ d < best.size, Equal a b (best.a + d) (best.b + d) := by
  obtain ⟨found, hlongest, hextended⟩ := hbest
  intro d hd
  by_cases hearlier : best.a + d < found.a
  · exact hextended.earlier d hearlier
  · by_cases hlater : found.a + found.size ≤ best.a + d
    · exact hextended.later d hd hlater
    · obtain ⟨elt, ha, hb, -⟩ := hlongest.runs.pairs (best.a + d - found.a) (by omega)
      have hdiagonal := hextended.diagonal
      rw [show found.a + (best.a + d - found.a) = best.a + d by omega] at ha
      rw [show found.b + (best.a + d - found.a) = best.b + d by omega] at hb
      rw [Equal, ha, hb]

/-! ### The search of all blocks -/

/-- What the search of the blocks gets smaller by. -/
def weight (range : Range) : Nat :=
  2 * (range.ahi - range.alo) + 1

theorem weight_enqueueMatchGaps {range : Range} {best : Match} (hwithin : Within range best)
    (hsize : best.size ≠ 0) :
    ((enqueueMatchGaps best range).map weight).sum < weight range := by
  have halo := hwithin.alo_le
  have hahi := hwithin.le_ahi
  rw [enqueueMatchGaps, List.map_append, List.sum_append]
  split
  · split
    · simp only [List.map_cons, List.map_nil, List.sum_cons, List.sum_nil, weight]
      omega
    · simp only [List.map_cons, List.map_nil, List.sum_cons, List.sum_nil, weight]
      omega
  · split
    · simp only [List.map_cons, List.map_nil, List.sum_cons, List.sum_nil, weight]
      omega
    · simp only [List.map_nil, List.sum_nil, weight]
      omega

/-- The loop of `findMatchingBlocks`, with the top of the work list first. -/
def searchBlocks (a b : List α) (queue : List Range) (found : List Match) : List Match :=
  match queue with
  | [] => found
  | range :: rest =>
      if (findLongestMatch a b range).size = 0 then searchBlocks a b rest found
      else
        searchBlocks a b (enqueueMatchGaps (findLongestMatch a b range) range ++ rest)
          (found ++ [findLongestMatch a b range])
termination_by (queue.map weight).sum
decreasing_by
  · simp only [List.map_cons, List.sum_cons, weight]
    omega
  · rename_i hsize
    have hgaps := weight_enqueueMatchGaps (findLongestMatch_isLongestMatch a b range).within hsize
    simp only [List.map_append, List.sum_append, List.map_cons, List.sum_cons]
    omega

/-- The order of the blocks, first by their place in the first list. -/
def Match.before (left right : Match) : Bool :=
  left.a < right.a || (left.a = right.a && (left.b < right.b ||
    (left.b = right.b && left.size ≤ right.size)))

/-- All of the two lists. -/
def wholeRange (a b : List α) : Range where
  alo := 0
  ahi := a.length
  blo := 0
  bhi := b.length
  a_le := Nat.zero_le _
  b_le := Nat.zero_le _

/-- The blocks that the search finds, in order. -/
def findMatchingBlocks (a b : List α) : List Match :=
  (searchBlocks a b [wholeRange a b] []).mergeSort Match.before

/-- The second block goes on where the first ends, in both lists. -/
def isAdjacentMatch (first second : Match) : Bool :=
  first.a + first.size = second.a && first.b + first.size = second.b

/-- The body of the loop of `mergeMatchingBlocks`. -/
def mergeStep (merged : List Match × Match) (next : Match) : List Match × Match :=
  if isAdjacentMatch merged.2 next then
    (merged.1, { merged.2 with size := merged.2.size + next.size })
  else (if merged.2.size = 0 then merged.1 else merged.1 ++ [merged.2], next)

/-- Adjacent blocks as one, and the empty block at the end. -/
def mergeMatchingBlocks (blocks : List Match) (aLength bLength : Nat) : List Match :=
  let (merged, current) := blocks.foldl mergeStep ([], ⟨0, 0, 0⟩)
  (if current.size = 0 then merged else merged ++ [current]) ++ [⟨aLength, bLength, 0⟩]

/-- `get_matching_blocks`. -/
def getMatchingBlocks (a b : List α) : List Match :=
  mergeMatchingBlocks (findMatchingBlocks a b) a.length b.length

/-- `ratio`: twice the matched elements over all of them. -/
def ratio (a b : List α) : ℚ :=
  let matched := ((getMatchingBlocks a b).map Match.size).sum
  if a.length + b.length = 0 then 1
  else 2 * (matched : ℚ) / ((a.length + b.length : Nat) : ℚ)

/-! ### The recursion -/

/-- What is left of the range in front of the block. -/
def Range.before (range : Range) (best : Match) (hwithin : Within range best) : Range where
  alo := range.alo
  ahi := best.a
  blo := range.blo
  bhi := best.b
  a_le := hwithin.alo_le
  b_le := hwithin.blo_le

/-- What is left of the range behind the block. -/
def Range.after (range : Range) (best : Match) (hwithin : Within range best) : Range where
  alo := best.a + best.size
  ahi := range.ahi
  blo := best.b + best.size
  bhi := range.bhi
  a_le := hwithin.le_ahi
  b_le := hwithin.le_bhi

/-- The blocks of a range: none where its longest match is empty, and otherwise those
before its longest match, that match, and those after it. -/
inductive RecursiveBlocks (a b : List α) : Range → List Match → Prop
  | nothing {range : Range} {best : Match} (hbest : IsLongestMatch a b range best)
      (hsize : best.size = 0) : RecursiveBlocks a b range []
  | split {range : Range} {best : Match} {left right : List Match}
      (hbest : IsLongestMatch a b range best) (hsize : best.size ≠ 0)
      (hleft : RecursiveBlocks a b (range.before best hbest.within) left)
      (hright : RecursiveBlocks a b (range.after best hbest.within) right) :
      RecursiveBlocks a b range (left ++ best :: right)

theorem RecursiveBlocks.unique {a b : List α} {range : Range} {blocks blocks' : List Match}
    (hblocks : RecursiveBlocks a b range blocks) (hblocks' : RecursiveBlocks a b range blocks') :
    blocks = blocks' := by
  induction hblocks generalizing blocks' with
  | nothing hbest hsize =>
      cases hblocks' with
      | nothing => rfl
      | split hbest' hsize' =>
          rw [isLongestMatch_iff.mp hbest', ← isLongestMatch_iff.mp hbest] at hsize'
          exact absurd hsize hsize'
  | split hbest hsize _ _ ihleft ihright =>
      cases hblocks' with
      | nothing hbest' hsize' =>
          rw [isLongestMatch_iff.mp hbest', ← isLongestMatch_iff.mp hbest] at hsize'
          exact absurd hsize' hsize
      | split hbest' _ hleft hright =>
          obtain rfl := (isLongestMatch_iff.mp hbest).trans (isLongestMatch_iff.mp hbest').symm
          rw [ihleft hleft, ihright hright]

theorem exists_recursiveBlocks (a b : List α) (range : Range) :
    ∃ blocks, RecursiveBlocks a b range blocks := by
  induction hlength : range.ahi - range.alo using Nat.strong_induction_on generalizing range with
  | _ length ih =>
      have hbest := findLongestMatch_isLongestMatch a b range
      by_cases hsize : (findLongestMatch a b range).size = 0
      · exact ⟨[], .nothing hbest hsize⟩
      · have halo := hbest.within.alo_le
        have hahi := hbest.within.le_ahi
        obtain ⟨left, hleft⟩ := ih _ (by simp only [Range.before]; omega)
          (range.before _ hbest.within) rfl
        obtain ⟨right, hright⟩ := ih _ (by simp only [Range.after]; omega)
          (range.after _ hbest.within) rfl
        exact ⟨_, .split hbest hsize hleft hright⟩

theorem RecursiveBlocks.eq_nil {a b : List α} {range : Range} {blocks : List Match}
    (hblocks : RecursiveBlocks a b range blocks)
    (hempty : range.ahi ≤ range.alo ∨ range.bhi ≤ range.blo) : blocks = [] := by
  cases hblocks with
  | nothing => rfl
  | split hbest hsize =>
      have hwithin := hbest.within
      have halo := hwithin.alo_le
      have hahi := hwithin.le_ahi
      have hblo := hwithin.blo_le
      have hbhi := hwithin.le_bhi
      omega

theorem exists_gapBlocks {a b : List α} {range : Range} {best : Match} {left right : List Match}
    (hwithin : Within range best) (hleft : RecursiveBlocks a b (range.before best hwithin) left)
    (hright : RecursiveBlocks a b (range.after best hwithin) right) :
    ∃ gaps, List.Forall₂ (RecursiveBlocks a b) (enqueueMatchGaps best range) gaps ∧
      gaps.flatten = right ++ left := by
  rw [enqueueMatchGaps]
  split
  · split
    · exact ⟨[right, left], .cons hright (.cons hleft .nil), by simp⟩
    · rename_i hnone
      have hnil := hleft.eq_nil (by simp only [Range.before]; omega)
      exact ⟨[right], .cons hright .nil, by simp [hnil]⟩
  · rename_i hnone
    have hnil := hright.eq_nil (by simp only [Range.after]; omega)
    split
    · exact ⟨[left], .cons hleft .nil, by simp [hnil]⟩
    · have hnil' := hleft.eq_nil (by simp only [Range.before]; omega)
      exact ⟨[], .nil, by simp [hnil, hnil']⟩

theorem searchBlocks_perm {a b : List α} {queue : List Range} {found : List Match}
    {blocks : List (List Match)} (hblocks : List.Forall₂ (RecursiveBlocks a b) queue blocks) :
    (searchBlocks a b queue found).Perm (found ++ blocks.flatten) := by
  induction queue, found using searchBlocks.induct a b generalizing blocks with
  | case1 found =>
      cases hblocks
      simp [searchBlocks]
  | case2 found range rest hsize ih =>
      obtain ⟨first, more, hfirst, hmore, rfl⟩ := List.forall₂_cons_left_iff.mp hblocks
      obtain rfl := hfirst.unique (.nothing (findLongestMatch_isLongestMatch a b range) hsize)
      rw [searchBlocks, if_pos hsize]
      simpa using ih hmore
  | case3 found range rest hsize ih =>
      obtain ⟨first, more, hfirst, hmore, rfl⟩ := List.forall₂_cons_left_iff.mp hblocks
      rw [searchBlocks, if_neg hsize]
      cases hfirst with
      | nothing hbest hnone =>
          rw [isLongestMatch_iff.mp hbest] at hnone
          exact absurd hnone hsize
      | @split _ best left right hbest hsome hleft hright =>
          obtain ⟨gaps, hgaps, hflatten⟩ := exists_gapBlocks hbest.within hleft hright
          have heq := isLongestMatch_iff.mp hbest
          rw [← heq] at ih ⊢
          have hperm := ih (List.rel_append hgaps hmore)
          refine hperm.trans ?_
          rw [List.flatten_append, hflatten, List.flatten_cons, List.append_assoc]
          refine List.Perm.append_left found ?_
          rw [← List.append_assoc, ← List.append_assoc]
          refine List.Perm.append_right more.flatten ?_
          calc
            ([best] ++ (right ++ left)).Perm ([best] ++ right ++ left) := by
              rw [List.append_assoc]
            (([best] ++ right) ++ left).Perm (left ++ ([best] ++ right)) := List.perm_append_comm
            (left ++ ([best] ++ right)).Perm (left ++ best :: right) := List.Perm.refl _

/-! ### Blocks in order -/

/-- Blocks from `i` and `j` on that follow one another and end by `e` and `f`. -/
def Chained (e f : Nat) : Nat → Nat → List Match → Prop
  | i, j, [] => i ≤ e ∧ j ≤ f
  | i, j, block :: rest => i ≤ block.a ∧ j ≤ block.b ∧ block.size ≠ 0 ∧
      Chained e f (block.a + block.size) (block.b + block.size) rest

omit [DecidableEq α] in
theorem Chained.append {e f i j : Nat} {left right : List Match} {best : Match}
    (hleft : Chained best.a best.b i j left) (hsize : best.size ≠ 0)
    (hright : Chained e f (best.a + best.size) (best.b + best.size) right) :
    Chained e f i j (left ++ best :: right) := by
  induction left generalizing i j with
  | nil => exact ⟨hleft.1, hleft.2, hsize, hright⟩
  | cons block rest ih => exact ⟨hleft.1, hleft.2.1, hleft.2.2.1, ih hleft.2.2.2⟩

theorem RecursiveBlocks.chained {a b : List α} {range : Range} {blocks : List Match}
    (hblocks : RecursiveBlocks a b range blocks) :
    Chained range.ahi range.bhi range.alo range.blo blocks := by
  induction hblocks with
  | @nothing range => exact ⟨range.a_le, range.b_le⟩
  | split _ hsize _ _ ihleft ihright => exact ihleft.append hsize ihright

theorem RecursiveBlocks.equal {a b : List α} {range : Range} {blocks : List Match}
    (hblocks : RecursiveBlocks a b range blocks) :
    ∀ block ∈ blocks, ∀ d < block.size, Equal a b (block.a + d) (block.b + d) := by
  induction hblocks with
  | nothing => exact fun block hblock => absurd hblock List.not_mem_nil
  | split hbest _ _ _ ihleft ihright =>
      intro block hblock
      rcases List.mem_append.mp hblock with hleft | hrest
      · exact ihleft block hleft
      · rcases List.mem_cons.mp hrest with rfl | hright
        · exact hbest.equal
        · exact ihright block hright

/-- One block lies wholly before another in both sequences. -/
def Precedes (first second : Match) : Prop :=
  first.a < second.a ∧ first.b < second.b ∧
    first.a + first.size ≤ second.a ∧ first.b + first.size ≤ second.b

theorem Chained.start_le {e f i j : Nat} {blocks : List Match} (hblocks : Chained e f i j blocks) :
    ∀ block ∈ blocks ++ [⟨e, f, 0⟩], i ≤ block.a ∧ j ≤ block.b := by
  induction blocks generalizing i j with
  | nil =>
      intro block hblock
      obtain rfl := List.mem_singleton.mp hblock
      exact hblocks
  | cons first rest ih =>
      intro block hblock
      rcases List.mem_cons.mp hblock with rfl | hrest
      · exact ⟨hblocks.1, hblocks.2.1⟩
      · have hlater := ih hblocks.2.2.2 block hrest
        have ha := hblocks.1
        have hb := hblocks.2.1
        exact ⟨by omega, by omega⟩

theorem Chained.pairwise {e f i j : Nat} {blocks : List Match}
    (hblocks : Chained e f i j blocks) :
    List.Pairwise Precedes (blocks ++ [⟨e, f, 0⟩]) := by
  induction blocks generalizing i j with
  | nil => exact List.pairwise_singleton _ _
  | cons first rest ih =>
      obtain ⟨-, -, hsize, hrest⟩ := hblocks
      refine List.Pairwise.cons ?_ (ih hrest)
      intro block hblock
      obtain ⟨ha, hb⟩ := hrest.start_le block hblock
      exact ⟨by omega, by omega, ha, hb⟩

theorem Chained.sum_le {e f i j : Nat} {blocks : List Match} (hblocks : Chained e f i j blocks) :
    i + (blocks.map Match.size).sum ≤ e ∧ j + (blocks.map Match.size).sum ≤ f := by
  induction blocks generalizing i j with
  | nil => exact ⟨hblocks.1, hblocks.2⟩
  | cons first rest ih =>
      obtain ⟨ha, hb, -, hrest⟩ := hblocks
      have hsum := ih hrest
      rw [List.map_cons, List.sum_cons]
      omega

theorem findMatchingBlocks_eq {a b : List α} {blocks : List Match}
    (hblocks : RecursiveBlocks a b (wholeRange a b) blocks) :
    findMatchingBlocks a b = blocks := by
  have hperm : (findMatchingBlocks a b).Perm blocks := by
    have hsearch : (searchBlocks a b [wholeRange a b] []).Perm ([] ++ [blocks].flatten) :=
      searchBlocks_perm (List.Forall₂.cons hblocks .nil)
    exact (List.mergeSort_perm _ _).trans (by simpa using hsearch)
  have hbefore : blocks.Pairwise fun left right => Match.before left right = true := by
    have hpairwise := (List.pairwise_append.mp hblocks.chained.pairwise).1
    refine hpairwise.imp ?_
    intro first second hprecedes
    simp [Match.before, hprecedes.1]
  have hsorted : (findMatchingBlocks a b).Pairwise fun left right =>
      Match.before left right = true := by
    apply List.pairwise_mergeSort
    · intro first second third
      simp only [Match.before, Bool.or_eq_true, Bool.and_eq_true, decide_eq_true_eq]
      omega
    · intro first second
      simp only [Match.before, Bool.or_eq_true, Bool.and_eq_true, decide_eq_true_eq]
      omega
  refine List.Perm.eq_of_pairwise ?_ hsorted hbefore hperm
  rintro ⟨a, b, size⟩ ⟨a', b', size'⟩ - - hfirst hsecond
  simp only [Match.before, Bool.or_eq_true, Bool.and_eq_true, decide_eq_true_eq] at hfirst hsecond
  simp only [Match.mk.injEq]
  omega

/-! ### Adjacent blocks -/

/-- A block and the one that it touches in both sequences are one block. -/
def joinTo (block : Match) : List Match → List Match
  | [] => [block]
  | next :: rest =>
      if isAdjacentMatch block next then { block with size := block.size + next.size } :: rest
      else block :: next :: rest

/-- The list with adjacent blocks joined. -/
def joinAdjacent : List Match → List Match
  | [] => []
  | block :: rest => joinTo block (joinAdjacent rest)

omit [DecidableEq α] in
theorem joinTo_joinTo {first second : Match} (rest : List Match)
    (hadjacent : isAdjacentMatch first second = true) :
    joinTo first (joinTo second rest) =
      joinTo { first with size := first.size + second.size } rest := by
  have hfirst := hadjacent
  simp only [isAdjacentMatch, Bool.and_eq_true, decide_eq_true_eq] at hfirst
  cases rest with
  | nil => simp [joinTo, hadjacent]
  | cons third rest =>
      have hsame : isAdjacentMatch { first with size := first.size + second.size } third =
          isAdjacentMatch second third := by
        simp only [isAdjacentMatch, ← Nat.add_assoc, hfirst.1, hfirst.2]
      rw [joinTo, joinTo, hsame]
      split
      · rw [joinTo, if_pos]
        · simp only [Nat.add_assoc]
        · exact hadjacent
      · rw [joinTo, if_pos hadjacent]

omit [DecidableEq α] in
theorem joinTo_of_not_adjacent {first second : Match} (rest : List Match)
    (hadjacent : ¬isAdjacentMatch first second = true) :
    joinTo first (joinTo second rest) = first :: joinTo second rest := by
  cases rest with
  | nil => rw [joinTo, joinTo, if_neg hadjacent]
  | cons third rest =>
      rw [joinTo]
      split
      · rw [joinTo, if_neg]
        exact hadjacent
      · rw [joinTo, if_neg hadjacent]

theorem foldl_mergeStep (blocks merged : List Match) {current : Match}
    (hcurrent : current.size ≠ 0) (hblocks : ∀ block ∈ blocks, block.size ≠ 0) :
    (if (blocks.foldl mergeStep (merged, current)).2.size = 0 then
        (blocks.foldl mergeStep (merged, current)).1
      else (blocks.foldl mergeStep (merged, current)).1 ++
        [(blocks.foldl mergeStep (merged, current)).2]) =
      merged ++ joinTo current (joinAdjacent blocks) := by
  induction blocks generalizing merged current with
  | nil => simp [hcurrent, joinAdjacent, joinTo]
  | cons next rest ih =>
      have hrest : ∀ block ∈ rest, block.size ≠ 0 := fun block hblock =>
        hblocks block (List.mem_cons_of_mem next hblock)
      rw [List.foldl_cons, joinAdjacent]
      by_cases hadjacent : isAdjacentMatch current next = true
      · rw [joinTo_joinTo _ hadjacent, mergeStep, if_pos hadjacent]
        exact ih merged (by simp only; omega) hrest
      · rw [mergeStep, if_neg hadjacent, if_neg hcurrent,
          ih (merged ++ [current]) (hblocks next List.mem_cons_self) hrest, List.append_assoc]
        rw [joinTo_of_not_adjacent _ hadjacent, List.singleton_append]

omit [DecidableEq α] in
theorem mergeMatchingBlocks_eq (blocks : List Match) (aLength bLength : Nat)
    (hblocks : ∀ block ∈ blocks, block.size ≠ 0) :
    mergeMatchingBlocks blocks aLength bLength =
      joinAdjacent blocks ++ [⟨aLength, bLength, 0⟩] := by
  cases blocks with
  | nil => simp [mergeMatchingBlocks, joinAdjacent]
  | cons first rest =>
      have hfirst := hblocks first List.mem_cons_self
      have hrest : ∀ block ∈ rest, block.size ≠ 0 := fun block hblock =>
        hblocks block (List.mem_cons_of_mem first hblock)
      have hstep : mergeStep ([], ⟨0, 0, 0⟩) first = ([], first) := by
        rw [mergeStep]
        split
        · rename_i hadjacent
          simp only [isAdjacentMatch, Bool.and_eq_true, decide_eq_true_eq] at hadjacent
          obtain ⟨ha, hb⟩ := hadjacent
          cases first
          simp_all
        · simp
      have hfold := foldl_mergeStep rest [] hfirst hrest
      rw [List.nil_append] at hfold
      rw [mergeMatchingBlocks, List.foldl_cons, hstep, joinAdjacent, ← hfold]

omit [DecidableEq α] in
theorem Chained.joinTo {e f i j : Nat} {block : Match} {rest : List Match}
    (hblock : Chained e f i j (block :: rest)) : Chained e f i j (joinTo block rest) := by
  cases rest with
  | nil => exact hblock
  | cons next rest =>
      rw [SequenceMatcher.joinTo]
      split
      · rename_i hadjacent
        simp only [isAdjacentMatch, Bool.and_eq_true, decide_eq_true_eq] at hadjacent
        obtain ⟨ha, hb, hsize, -, -, -, hrest⟩ := hblock
        refine ⟨ha, hb, by simp only; omega, ?_⟩
        simpa only [← Nat.add_assoc, hadjacent.1, hadjacent.2] using hrest
      · exact hblock

omit [DecidableEq α] in
theorem Chained.joinAdjacent {e f i j : Nat} {blocks : List Match}
    (hblocks : Chained e f i j blocks) : Chained e f i j (joinAdjacent blocks) := by
  induction blocks generalizing i j with
  | nil => exact hblocks
  | cons block rest ih =>
      exact Chained.joinTo ⟨hblocks.1, hblocks.2.1, hblocks.2.2.1, ih hblocks.2.2.2⟩

/-- The elements of `a` and `b` that a block pairs are there and equal. -/
def PairsEqual (a b : List α) (block : Match) : Prop :=
  ∀ d < block.size, Equal a b (block.a + d) (block.b + d)

omit [DecidableEq α] in
theorem pairsEqual_joinTo {a b : List α} {block : Match} {rest : List Match}
    (hblock : PairsEqual a b block) (hrest : ∀ other ∈ rest, PairsEqual a b other) :
    ∀ other ∈ joinTo block rest, PairsEqual a b other := by
  cases rest with
  | nil =>
      intro other hother
      obtain rfl := List.mem_singleton.mp hother
      exact hblock
  | cons next rest =>
      rw [joinTo]
      split
      · rename_i hadjacent
        simp only [isAdjacentMatch, Bool.and_eq_true, decide_eq_true_eq] at hadjacent
        intro other hother
        rcases List.mem_cons.mp hother with rfl | hlater
        · intro d hd
          by_cases hfirst : d < block.size
          · exact hblock d hfirst
          · have hnext := hrest next List.mem_cons_self (d - block.size)
              (by simp only at hd; omega)
            rw [← hadjacent.1, ← hadjacent.2] at hnext
            simpa only [show block.a + block.size + (d - block.size) = block.a + d by omega,
              show block.b + block.size + (d - block.size) = block.b + d by omega] using hnext
        · exact hrest other (List.mem_cons_of_mem next hlater)
      · intro other hother
        rcases List.mem_cons.mp hother with rfl | hlater
        · exact hblock
        · exact hrest other hlater

omit [DecidableEq α] in
theorem pairsEqual_joinAdjacent {a b : List α} {blocks : List Match}
    (hblocks : ∀ block ∈ blocks, PairsEqual a b block) :
    ∀ block ∈ joinAdjacent blocks, PairsEqual a b block := by
  induction blocks with
  | nil => exact hblocks
  | cons block rest ih =>
      exact pairsEqual_joinTo (hblocks block List.mem_cons_self)
        (ih fun other hother => hblocks other (List.mem_cons_of_mem block hother))

omit [DecidableEq α] in
theorem Chained.size_ne_zero {e f i j : Nat} {blocks : List Match}
    (hblocks : Chained e f i j blocks) : ∀ block ∈ blocks, block.size ≠ 0 := by
  induction blocks generalizing i j with
  | nil => exact fun block hblock => absurd hblock List.not_mem_nil
  | cons first rest ih =>
      intro block hblock
      rcases List.mem_cons.mp hblock with rfl | hrest
      · exact hblocks.2.2.1
      · exact ih hblocks.2.2.2 block hrest

theorem getMatchingBlocks_eq {a b : List α} {blocks : List Match}
    (hblocks : RecursiveBlocks a b (wholeRange a b) blocks) :
    getMatchingBlocks a b = joinAdjacent blocks ++ [⟨a.length, b.length, 0⟩] := by
  rw [getMatchingBlocks, findMatchingBlocks_eq hblocks,
    mergeMatchingBlocks_eq _ _ _ hblocks.chained.size_ne_zero]

theorem ratio_mem (a b : List α) : 0 ≤ ratio a b ∧ ratio a b ≤ 1 := by
  obtain ⟨blocks, hblocks⟩ := exists_recursiveBlocks a b (wholeRange a b)
  have hsum := hblocks.chained.joinAdjacent.sum_le
  simp only [wholeRange, Nat.zero_add] at hsum
  rw [ratio, getMatchingBlocks_eq hblocks, List.map_append, List.sum_append, List.map_cons,
    List.map_nil, List.sum_cons, List.sum_nil, Nat.add_zero, Nat.add_zero]
  split
  · exact ⟨zero_le_one, le_rfl⟩
  · rename_i hlength
    have hpositive : (0 : ℚ) < ((a.length + b.length : Nat) : ℚ) := by
      exact_mod_cast Nat.pos_of_ne_zero hlength
    constructor
    · exact div_nonneg (mul_nonneg zero_le_two (Nat.cast_nonneg _)) hpositive.le
    · rw [div_le_one hpositive]
      exact_mod_cast show 2 * ((joinAdjacent blocks).map Match.size).sum ≤
        a.length + b.length by omega

/-- The blocks lie in order in both sequences, pair equal elements, and are those of the
recursion that splits at the longest match, with touching blocks joined and the empty
block of the ends last. -/
theorem matchingBlocks_are_recursive (a b : List α) :
    (getMatchingBlocks a b).Pairwise Precedes ∧
    (∀ block ∈ getMatchingBlocks a b,
      block.a + block.size ≤ a.length ∧ block.b + block.size ≤ b.length ∧
      PairsEqual a b block) ∧
    (∃! blocks, RecursiveBlocks a b (wholeRange a b) blocks ∧
      getMatchingBlocks a b = joinAdjacent blocks ++ [⟨a.length, b.length, 0⟩]) ∧
    0 ≤ ratio a b ∧ ratio a b ≤ 1 := by
  obtain ⟨blocks, hblocks⟩ := exists_recursiveBlocks a b (wholeRange a b)
  have hget := getMatchingBlocks_eq hblocks
  have hchained := hblocks.chained.joinAdjacent
  have hpairwise := hchained.pairwise
  have hequal := pairsEqual_joinAdjacent (a := a) (b := b) hblocks.equal
  refine ⟨?_, ?_, ⟨blocks, ⟨hblocks, hget⟩, fun other hother => hother.1.unique hblocks⟩,
    ratio_mem a b⟩
  · rw [hget]
    exact hpairwise
  · intro block hblock
    rw [hget] at hblock
    rcases List.mem_append.mp hblock with hfound | hlast
    · obtain ⟨-, -, ha, hb⟩ :=
        (List.pairwise_append.mp hpairwise).2.2 block hfound _ (List.mem_singleton_self _)
      exact ⟨ha, hb, hequal block hfound⟩
    · obtain rfl := List.mem_singleton.mp hlast
      exact ⟨le_rfl, le_rfl, fun d hd => absurd hd (Nat.not_lt_zero d)⟩

end Songmaker.Lyrics.SequenceMatcher
