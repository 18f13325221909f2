import Songmaker.Lyrics.MatchingBlocks

namespace Songmaker.Lyrics.SequenceMatcher

variable {α : Type} [DecidableEq α]

/-- How many elements the blocks match. -/
def matchedSize (a b : List α) : Nat :=
  ((getMatchingBlocks a b).map Match.size).sum

theorem sum_joinTo (block : Match) (rest : List Match) :
    ((joinTo block rest).map Match.size).sum = block.size + (rest.map Match.size).sum := by
  cases rest with
  | nil => rfl
  | cons next rest =>
      rw [joinTo]
      split
      · simp only [List.map_cons, List.sum_cons]
        omega
      · rfl

theorem sum_joinAdjacent (blocks : List Match) :
    ((joinAdjacent blocks).map Match.size).sum = (blocks.map Match.size).sum := by
  induction blocks with
  | nil => rfl
  | cons block blocks ih =>
      rw [joinAdjacent, sum_joinTo, ih, List.map_cons, List.sum_cons]

theorem matchedSize_eq {a b : List α} {blocks : List Match}
    (hblocks : RecursiveBlocks a b (wholeRange a b) blocks) :
    matchedSize a b = (blocks.map Match.size).sum := by
  rw [matchedSize, getMatchingBlocks_eq hblocks, List.map_append, List.sum_append,
    sum_joinAdjacent]
  rfl

theorem matchedSize_le (a b : List α) :
    matchedSize a b ≤ a.length ∧ matchedSize a b ≤ b.length := by
  obtain ⟨blocks, hblocks⟩ := exists_recursiveBlocks a b (wholeRange a b)
  have hsum := hblocks.chained.sum_le
  rw [matchedSize_eq hblocks]
  simpa [wholeRange] using hsum

theorem IsLongestMatch.size_le {a b : List α} {range : Range} {best block : Match}
    (hbest : IsLongestMatch a b range best) (hblock : Runs (Paired a b) range block) :
    block.size ≤ best.size := by
  obtain ⟨found, hlongest, hextended⟩ := hbest
  have hsize := (hlongest.leads block hblock).longest
  have hstarts := hextended.starts
  have hcovers := hextended.covers
  omega

theorem matchedSize_pos {a b : List α} {i j : Nat} (hpaired : Paired a b i j) :
    0 < matchedSize a b := by
  obtain ⟨elt, ha, hb, hkept⟩ := hpaired
  have hi : i < a.length := (List.getElem?_eq_some_iff.mp ha).1
  have hj : j < b.length := (List.getElem?_eq_some_iff.mp hb).1
  have hruns : Runs (Paired a b) (wholeRange a b) ⟨i, j, 1⟩ :=
    { alo_le := Nat.zero_le _
      le_ahi := hi
      blo_le := Nat.zero_le _
      le_bhi := hj
      pairs := by
        intro d hd
        obtain rfl : d = 0 := Nat.lt_one_iff.mp hd
        exact ⟨elt, ha, hb, hkept⟩ }
  obtain ⟨blocks, hblocks⟩ := exists_recursiveBlocks a b (wholeRange a b)
  rw [matchedSize_eq hblocks]
  cases hblocks with
  | nothing hbest hsize =>
      have hle := hbest.size_le hruns
      simp only [hsize] at hle
      omega
  | split hbest hsize hleft hright =>
      rw [List.map_append, List.sum_append, List.map_cons, List.sum_cons]
      omega

theorem matchedSize_of_corner {a b : List α} {best : Match}
    (hbest : IsLongestMatch a b (wholeRange a b) best) (hsize : best.size ≠ 0)
    (hbefore : best.a = 0 ∨ best.b = 0)
    (hafter : best.a + best.size = a.length ∨ best.b + best.size = b.length) :
    matchedSize a b = best.size := by
  obtain ⟨left, hleft⟩ := exists_recursiveBlocks a b ((wholeRange a b).before best hbest.within)
  obtain ⟨right, hright⟩ := exists_recursiveBlocks a b ((wholeRange a b).after best hbest.within)
  have hleftNil : left = [] := by
    apply hleft.eq_nil
    simp only [Range.before, wholeRange]
    omega
  have hrightNil : right = [] := by
    apply hright.eq_nil
    simp only [Range.after, wholeRange]
    omega
  rw [matchedSize_eq (.split hbest hsize hleft hright), hleftNil, hrightNil]
  rfl

/-- Nothing matches where the autojunk rule leaves no pair and the first elements differ. -/
theorem matchedSize_eq_zero {a b : List α} (hnone : ∀ i j, ¬Paired a b i j)
    (hfirst : a[0]? ≠ b[0]?) : matchedSize a b = 0 := by
  have hfound : IsLongest (Paired a b) (wholeRange a b) ⟨0, 0, 0⟩ := by
    refine ⟨⟨⟨le_rfl, Nat.zero_le _, le_rfl, Nat.zero_le _⟩, ?_⟩, ?_⟩
    · intro d hd
      exact absurd hd (Nat.not_lt_zero d)
    · intro block hblock
      have hsize : block.size = 0 := by
        by_contra hsize
        exact hnone _ _ (hblock.pairs 0 (Nat.pos_of_ne_zero hsize))
      refine ⟨hsize.le, fun _ => ?_⟩
      simp only
      omega
  have hextended : IsExtended (Equal a b) (wholeRange a b) ⟨0, 0, 0⟩ ⟨0, 0, 0⟩ := by
    refine ⟨⟨le_rfl, Nat.zero_le _, le_rfl, Nat.zero_le _⟩, le_rfl, rfl, le_rfl, ?_, ?_, ?_, ?_⟩
    · intro d hd
      exact absurd hd (Nat.not_lt_zero _)
    · intro d hd
      exact absurd hd (Nat.not_lt_zero _)
    · intro hbefore
      exact absurd hbefore.1 (Nat.lt_irrefl _)
    · intro hafter
      exact hfirst hafter.2.2
  rw [matchedSize_eq (.nothing ⟨_, hfound, hextended⟩ rfl)]
  rfl

theorem popular_repeated {first elt : α} (hne : elt ≠ first) {count : Nat}
    (hcount : autojunkMinLength ≤ count) : Popular (first :: List.replicate count elt) elt := by
  have hcounted : (first :: List.replicate count elt).count elt = count := by
    rw [List.count_cons_of_ne (Ne.symm hne), List.count_replicate_self]
  rw [autojunkMinLength] at hcount
  rw [Popular, hcounted, List.length_cons, List.length_replicate, autojunkMinLength]
  omega

theorem matchedSize_repeated {a : List α} {first elt : α} (hfirst : first ∉ a)
    (hne : elt ≠ first) {count : Nat} (hcount : autojunkMinLength ≤ count) :
    matchedSize a (first :: List.replicate count elt) = 0 := by
  apply matchedSize_eq_zero
  · rintro i j ⟨paired, hi, hj, hkept⟩
    rcases List.mem_cons.mp (List.mem_of_getElem? hj) with rfl | hrepeated
    · exact hfirst (List.mem_of_getElem? hi)
    · rw [List.eq_of_mem_replicate hrepeated] at hkept
      exact hkept (popular_repeated hne hcount)
  · intro heq
    exact hfirst (List.mem_of_getElem? heq)

/-- The longest run of a sequence in itself lies on the diagonal, so that all around it
is equal. -/
theorem isLongestMatch_self (a : List α) :
    IsLongestMatch a a (wholeRange a a) ⟨0, 0, a.length⟩ := by
  obtain ⟨found, hlongest, -⟩ := findLongestMatch_isLongestMatch a a (wholeRange a a)
  have hdiagonal : found.a = found.b := by
    have hruns : ∀ i, i = found.a ∨ i = found.b →
        Runs (Paired a a) (wholeRange a a) ⟨i, i, found.size⟩ := by
      intro i hi
      refine ⟨⟨Nat.zero_le _, ?_, Nat.zero_le _, ?_⟩, ?_⟩
      · rcases hi with rfl | rfl
        · exact hlongest.runs.le_ahi
        · exact hlongest.runs.le_bhi
      · rcases hi with rfl | rfl
        · exact hlongest.runs.le_ahi
        · exact hlongest.runs.le_bhi
      · intro d hd
        obtain ⟨elt, ha, hb, hkept⟩ := hlongest.runs.pairs d hd
        rcases hi with rfl | rfl
        · exact ⟨elt, ha, ha, hkept⟩
        · exact ⟨elt, hb, hb, hkept⟩
    have hrow := (hlongest.leads _ (hruns found.a (Or.inl rfl))).earliest rfl
    have hcolumn := (hlongest.leads _ (hruns found.b (Or.inr rfl))).earliest rfl
    simp only at hrow hcolumn
    omega
  refine ⟨found, hlongest, ?_⟩
  have hahi := hlongest.runs.le_ahi
  refine ⟨⟨le_rfl, (Nat.zero_add _).le, le_rfl, (Nat.zero_add _).le⟩, Nat.zero_le _, ?_, ?_,
    fun _ _ => rfl, fun _ _ _ => rfl, ?_, ?_⟩
  · simp only
    omega
  · simpa [wholeRange] using hahi
  · intro hbefore
    exact absurd hbefore.1 (Nat.lt_irrefl _)
  · intro hafter
    have hlt := hafter.1
    simp only [wholeRange, Nat.zero_add] at hlt
    exact absurd hlt (Nat.lt_irrefl _)

theorem matchedSize_self (a : List α) : matchedSize a a = a.length := by
  cases a with
  | nil => exact Nat.le_zero.mp (matchedSize_le [] []).1
  | cons first rest =>
      have hsize : (first :: rest).length ≠ 0 := Nat.succ_ne_zero _
      exact matchedSize_of_corner (isLongestMatch_self _) hsize (Or.inl rfl)
        (Or.inl (Nat.zero_add _))

end Songmaker.Lyrics.SequenceMatcher
