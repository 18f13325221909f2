import Mathlib.Order.Hom.Basic
import Songmaker.Lyrics.MatchedSize

/-!
Elements that are put into the second sequence leave the matching blocks as they are, where
they do not occur in the first one and do not come between two elements that follow one
another in both.
-/

namespace Songmaker.Lyrics.SequenceMatcher

variable {α : Type} [DecidableEq α]

/-- `more` is `b` with other elements put in: what stands in `b` at `j` stands at `place j`. -/
structure Inserted (a b more : List α) (place : ℕ ↪o ℕ) : Prop where
  kept : ∀ j, b[j]? = more[place j]?
  foreign : ∀ k, ∀ elt ∈ more[k]?, elt ∈ a → ∃ j, place j = k
  together : ∀ i j, i + 1 < a.length → Equal a b i j → Equal a b (i + 1) (j + 1) →
    place (j + 1) = place j + 1
  unpopular : ∀ elt ∈ a, ¬Popular b elt ∧ ¬Popular more elt

section Unpopular

variable {a b : List α} (hunpopular : ∀ elt ∈ a, ¬Popular b elt) {range : Range}

include hunpopular

theorem paired_of_equal {i j : Nat} (hi : i < a.length) (hequal : Equal a b i j) :
    Paired a b i j := by
  have hget : a[i]? = some a[i] := List.getElem?_eq_getElem hi
  exact ⟨a[i], hget, hequal.symm.trans hget, hunpopular _ (List.getElem_mem hi)⟩

theorem isExtended_of_isLongest (hahi : range.ahi ≤ a.length) {best : Match}
    (hbest : IsLongest (Paired a b) range best) : IsExtended (Equal a b) range best best := by
  obtain ⟨i, j, size⟩ := best
  have hmost : ∀ {block : Match}, Runs (Paired a b) range block → block.size ≤ size :=
    fun hblock => (hbest.leads _ hblock).longest
  have hend := hbest.runs.le_ahi
  refine ⟨hbest.runs.toWithin, le_rfl, rfl, le_rfl, ?_, ?_, ?_, ?_⟩
  · intro d hd
    simp only at hd
    omega
  · intro d hd hle
    simp only at hd hle
    omega
  · rintro ⟨halo, hblo, hequal⟩
    simp only at halo hblo hequal hend
    obtain ⟨i, rfl⟩ := Nat.exists_eq_succ_of_ne_zero (Nat.ne_zero_of_lt halo)
    obtain ⟨j, rfl⟩ := Nat.exists_eq_succ_of_ne_zero (Nat.ne_zero_of_lt hblo)
    have hpair : Paired a b i j := paired_of_equal hunpopular (by omega) hequal
    have hlonger := hmost (hbest.runs.growBack (Nat.le_of_lt_succ halo) (Nat.le_of_lt_succ hblo)
      hpair)
    exact Nat.not_succ_le_self _ hlonger
  · rintro ⟨hahi', hbhi, hequal⟩
    have hpair := paired_of_equal hunpopular (lt_of_lt_of_le hahi' hahi) hequal
    exact Nat.not_succ_le_self _ (hmost (hbest.runs.grow hahi' hbhi hpair))

theorem isLongestMatch_iff_isLongest (hahi : range.ahi ≤ a.length) {best : Match} :
    IsLongestMatch a b range best ↔ IsLongest (Paired a b) range best := by
  constructor
  · rintro ⟨found, hfound, hextended⟩
    obtain rfl := hextended.unique (isExtended_of_isLongest hunpopular hahi hfound)
    exact hfound
  · exact fun hbest => ⟨best, hbest, isExtended_of_isLongest hunpopular hahi hbest⟩

end Unpopular

/-- The two ranges have the same stretch of `a`, and what the first has of `b` is what the
second has of it in `more`. -/
structure Widens (a : List α) (place : ℕ ↪o ℕ) (range wider : Range) : Prop where
  alo : wider.alo = range.alo
  ahi : wider.ahi = range.ahi
  blo : ∀ j, wider.blo ≤ place j ↔ range.blo ≤ j
  bhi : ∀ j, place j < wider.bhi ↔ j < range.bhi
  le_length : range.ahi ≤ a.length

/-- The block where its elements stand in `more`. -/
def placed (place : ℕ ↪o ℕ) (block : Match) : Match :=
  { block with b := place block.b }

namespace Inserted

variable {a b more : List α} {place : ℕ ↪o ℕ} {range wider : Range}

theorem paired (h : Inserted a b more place) {i j : Nat} (hpair : Paired a b i j) :
    Paired a more i (place j) := by
  obtain ⟨elt, ha, hb, -⟩ := hpair
  exact ⟨elt, ha, (h.kept j).symm.trans hb, (h.unpopular elt (List.mem_of_getElem? ha)).2⟩

theorem exists_paired (h : Inserted a b more place) {i k : Nat} (hpair : Paired a more i k) :
    ∃ j, place j = k ∧ Paired a b i j := by
  obtain ⟨elt, ha, hmore, -⟩ := hpair
  have hmem := List.mem_of_getElem? ha
  obtain ⟨j, rfl⟩ := h.foreign k elt hmore hmem
  exact ⟨j, rfl, elt, ha, (h.kept j).trans hmore, (h.unpopular elt hmem).1⟩

/-- A run stays a run. -/
theorem place_add (h : Inserted a b more place) {i j size : Nat}
    (hpairs : ∀ d < size, Paired a b (i + d) (j + d)) :
    ∀ d < size, place (j + d) = place j + d := by
  intro d hd
  induction d with
  | zero => rfl
  | succ d ih =>
      obtain ⟨elt, ha, hb, -⟩ := hpairs d (Nat.lt_of_succ_lt hd)
      obtain ⟨next, ha', hb', -⟩ := hpairs (d + 1) hd
      have hlength : i + d + 1 < a.length := (List.getElem?_eq_some_iff.mp ha').1
      have hplace := h.together (i + d) (j + d) hlength (ha.trans hb.symm) (ha'.trans hb'.symm)
      rw [← Nat.add_assoc, hplace, ih (Nat.lt_of_succ_lt hd), Nat.add_assoc]

theorem runs (h : Inserted a b more place) (hwidens : Widens a place range wider) {block : Match}
    (hblock : Runs (Paired a b) range block) (hsize : block.size ≠ 0) :
    Runs (Paired a more) wider (placed place block) := by
  have hplace := h.place_add hblock.pairs
  refine ⟨⟨?_, ?_, ?_, ?_⟩, ?_⟩
  · rw [hwidens.alo]
    exact hblock.alo_le
  · rw [hwidens.ahi]
    exact hblock.le_ahi
  · exact (hwidens.blo _).mpr hblock.blo_le
  · have hbhi := hblock.le_bhi
    have hlast := (hwidens.bhi (block.b + (block.size - 1))).mpr (by omega)
    rw [hplace _ (by omega)] at hlast
    simp only [placed]
    omega
  · intro d hd
    have hpair := h.paired (hblock.pairs d hd)
    rwa [hplace d hd] at hpair

theorem exists_runs (h : Inserted a b more place) (hwidens : Widens a place range wider)
    {block : Match} (hblock : Runs (Paired a more) wider block) (hsize : block.size ≠ 0) :
    ∃ earlier, Runs (Paired a b) range earlier ∧ placed place earlier = block := by
  obtain ⟨j, hj, -⟩ := h.exists_paired (hblock.pairs 0 (Nat.pos_of_ne_zero hsize))
  have hpairs : ∀ d < block.size, place (j + d) = block.b + d ∧
      Paired a b (block.a + d) (j + d) := by
    intro d hd
    obtain ⟨k, hk, hpair⟩ := h.exists_paired (hblock.pairs d hd)
    have hat : k = j + d := by
      induction d generalizing k with
      | zero =>
          apply place.injective
          rw [hk, ← hj]
          rfl
      | succ d ih =>
          obtain ⟨before, hbefore, hpair'⟩ := h.exists_paired
            (hblock.pairs d (Nat.lt_of_succ_lt hd))
          obtain rfl := ih (Nat.lt_of_succ_lt hd) before hbefore hpair'
          -- the next place is the nearest one, so nothing of `b` can stand between
          have hlater : j + d < k := place.lt_iff_lt.mp (by omega)
          by_contra hne
          have hfirst : place (j + d) < place (j + d + 1) :=
            place.lt_iff_lt.mpr (Nat.lt_succ_self _)
          have hsecond : place (j + d + 1) < place k := place.lt_iff_lt.mpr (by omega)
          omega
    subst hat
    exact ⟨hk, hpair⟩
  refine ⟨⟨block.a, j, block.size⟩, ⟨⟨?_, ?_, ?_, ?_⟩, fun d hd => (hpairs d hd).2⟩, ?_⟩
  · rw [← hwidens.alo]
    exact hblock.alo_le
  · rw [← hwidens.ahi]
    exact hblock.le_ahi
  · apply (hwidens.blo j).mp
    rw [hj]
    exact hblock.blo_le
  · have hbhi := hblock.le_bhi
    have hlast := (hwidens.bhi (j + (block.size - 1))).mp (by
      rw [(hpairs _ (by omega)).1]
      omega)
    simp only
    omega
  · rw [placed, hj]
    rfl

theorem isLongest (h : Inserted a b more place) (hwidens : Widens a place range wider)
    {best : Match} (hbest : IsLongest (Paired a b) range best) (hsize : best.size ≠ 0) :
    IsLongest (Paired a more) wider (placed place best) := by
  refine ⟨h.runs hwidens hbest.runs hsize, fun block hblock => ?_⟩
  by_cases hempty : block.size = 0
  · refine ⟨hempty ▸ Nat.zero_le _, fun heq => ?_⟩
    exact absurd (heq.symm.trans hempty) hsize
  · obtain ⟨earlier, hearlier, rfl⟩ := h.exists_runs hwidens hblock hempty
    have hleads := hbest.leads earlier hearlier
    refine ⟨hleads.longest, fun heq => (hleads.earliest heq).imp id fun hsame => ⟨hsame.1, ?_⟩⟩
    exact place.le_iff_le.mpr hsame.2

theorem size_eq_zero (h : Inserted a b more place) (hwidens : Widens a place range wider)
    {best other : Match} (hbest : IsLongest (Paired a b) range best) (hsize : best.size = 0)
    (hother : IsLongest (Paired a more) wider other) : other.size = 0 := by
  by_contra hne
  obtain ⟨earlier, hearlier, rfl⟩ := h.exists_runs hwidens hother.runs hne
  have hle := (hbest.leads earlier hearlier).longest
  rw [hsize] at hle
  exact hne (Nat.le_zero.mp hle)

theorem recursiveBlocks (h : Inserted a b more place) {blocks : List Match}
    (hblocks : RecursiveBlocks a b range blocks) (hwidens : Widens a place range wider) :
    RecursiveBlocks a more wider (blocks.map (placed place)) := by
  induction hblocks generalizing wider with
  | nothing hbest hsize =>
      have hlength : wider.ahi ≤ a.length := hwidens.ahi.symm ▸ hwidens.le_length
      have hfound := findLongestMatch_isLongestMatch a more wider
      refine .nothing hfound (h.size_eq_zero hwidens ?_ hsize ?_)
      · exact (isLongestMatch_iff_isLongest (fun elt helt => (h.unpopular elt helt).1)
          hwidens.le_length).mp hbest
      · exact (isLongestMatch_iff_isLongest (fun elt helt => (h.unpopular elt helt).2)
          hlength).mp hfound
  | @split range best left right hbest hsize hleft hright ihleft ihright =>
      have hlength : wider.ahi ≤ a.length := hwidens.ahi.symm ▸ hwidens.le_length
      have hlongest := (isLongestMatch_iff_isLongest (fun elt helt => (h.unpopular elt helt).1)
        hwidens.le_length).mp hbest
      have hplaced : IsLongestMatch a more wider (placed place best) :=
        (isLongestMatch_iff_isLongest (fun elt helt => (h.unpopular elt helt).2) hlength).mpr
          (h.isLongest hwidens hlongest hsize)
      rw [List.map_append, List.map_cons]
      refine .split hplaced hsize (ihleft ?_) (ihright ?_)
      · refine ⟨hwidens.alo, rfl, hwidens.blo, fun j => place.lt_iff_lt, ?_⟩
        have hahi := hlongest.runs.le_ahi
        exact (Nat.le_of_add_right_le hahi).trans hwidens.le_length
      · refine ⟨rfl, hwidens.ahi, fun j => ?_, hwidens.bhi, hwidens.le_length⟩
        have hlast := h.place_add hlongest.runs.pairs (best.size - 1) (by omega)
        have hlt : place (best.b + (best.size - 1)) < place j ↔ best.b + (best.size - 1) < j :=
          place.lt_iff_lt
        rw [hlast] at hlt
        simp only [Range.after, placed]
        omega

theorem widens_wholeRange (h : Inserted a b more place) :
    Widens a place (wholeRange a b) (wholeRange a more) where
  alo := rfl
  ahi := rfl
  blo _ := iff_of_true (Nat.zero_le _) (Nat.zero_le _)
  bhi j := by
    have hthere : ∀ (items : List α) (k : Nat), k < items.length ↔ items[k]? ≠ none := by
      intro items k
      rw [ne_eq, List.getElem?_eq_none_iff, not_le]
    rw [wholeRange, wholeRange]
    simp only
    rw [hthere, hthere, h.kept j]
  le_length := le_rfl

theorem matchedSize_eq (h : Inserted a b more place) : matchedSize a more = matchedSize a b := by
  obtain ⟨blocks, hblocks⟩ := exists_recursiveBlocks a b (wholeRange a b)
  rw [SequenceMatcher.matchedSize_eq (h.recursiveBlocks hblocks h.widens_wholeRange),
    SequenceMatcher.matchedSize_eq hblocks, List.map_map]
  rfl

end Inserted

/-- Where an element goes when `before` others come in front, and `after` behind the first
`length`. -/
def placeAround (before length after : Nat) : ℕ ↪o ℕ :=
  OrderEmbedding.ofStrictMono (fun j => before + if j < length then j else j + after) (by
    intro i j hlt
    simp only
    split <;> split <;> omega)

omit [DecidableEq α] in
theorem getElem?_placeAround (front b back : List α) (j : Nat) :
    b[j]? = (front ++ (b ++ back))[placeAround front.length b.length back.length j]? := by
  change _ = (front ++ (b ++ back))[front.length + _]?
  rw [List.getElem?_append_right (Nat.le_add_right _ _), Nat.add_sub_cancel_left]
  split
  next hlt => rw [List.getElem?_append_left hlt]
  next hge =>
    rw [List.getElem?_append_right (by omega), List.getElem?_eq_none (by omega),
      List.getElem?_eq_none (by omega)]

/-- Elements at the two ends are put in, where the sequence stays too short for the autojunk
rule. -/
theorem inserted_around {a front b back : List α} (hforeign : ∀ elt ∈ front ++ back, elt ∉ a)
    (hshort : (front ++ (b ++ back)).length < autojunkMinLength) :
    Inserted a b (front ++ (b ++ back)) (placeAround front.length b.length back.length) where
  kept := getElem?_placeAround front b back
  foreign := by
    intro k elt helt hmem
    rcases Nat.lt_or_ge k front.length with hfront | hfront
    · rw [Option.mem_def, List.getElem?_append_left hfront] at helt
      exact absurd hmem (hforeign elt (List.mem_append_left _ (List.mem_of_getElem? helt)))
    · rw [Option.mem_def, List.getElem?_append_right hfront] at helt
      rcases Nat.lt_or_ge (k - front.length) b.length with hkept | hback
      · refine ⟨k - front.length, ?_⟩
        change front.length + (if _ then _ else _) = k
        rw [if_pos hkept]
        omega
      · rw [List.getElem?_append_right hback] at helt
        exact absurd hmem (hforeign elt (List.mem_append_right _ (List.mem_of_getElem? helt)))
  together := by
    intro i j hlength _ hequal
    have hthere : b[j + 1]? = some a[i + 1] := hequal.symm.trans (List.getElem?_eq_getElem hlength)
    have hlt := (List.getElem?_eq_some_iff.mp hthere).1
    change front.length + (if _ then _ else _) = front.length + (if _ then _ else _) + 1
    rw [if_pos hlt, if_pos (by omega)]
    omega
  unpopular := by
    intro elt _
    rw [List.length_append, List.length_append] at hshort
    refine ⟨fun hpopular => ?_, fun hpopular => ?_⟩
    · have hlong := hpopular.1
      omega
    · have hlong := hpopular.1
      rw [List.length_append, List.length_append] at hlong
      omega

end Songmaker.Lyrics.SequenceMatcher
