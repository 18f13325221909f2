import Songmaker.Foundation.CheckedLoops
import Songmaker.Lyrics.SequenceMatcher

namespace Songmaker.Lyrics.SequenceMatcher

open Songmaker.Foundation.CheckedLoops

/-! ### Runs of pairs -/

section

variable (paired : Nat → Nat → Prop) (range : Range)

/-- A block inside the range. -/
structure Within (block : Match) : Prop where
  alo_le : range.alo ≤ block.a
  le_ahi : block.a + block.size ≤ range.ahi
  blo_le : range.blo ≤ block.b
  le_bhi : block.b + block.size ≤ range.bhi

/-- A run of pairs within the range. -/
structure Runs (block : Match) : Prop extends Within range block where
  pairs : ∀ d < block.size, paired (block.a + d) (block.b + d)

/-- No run is longer, and none that is as long starts earlier. -/
structure Leads (best block : Match) : Prop where
  longest : block.size ≤ best.size
  earliest : block.size = best.size →
    best.a < block.a ∨ best.a = block.a ∧ best.b ≤ block.b

/-- No other block of the range comes before it. -/
structure IsLongest (best : Match) : Prop where
  runs : Runs paired range best
  leads : ∀ block, Runs paired range block → Leads best block

/-- `length` is the size of the longest run that ends before `e` and `f`. -/
structure EndsAt (e f length : Nat) : Prop where
  runs : 0 < length → length ≤ e ∧ length ≤ f ∧
    Runs paired range ⟨e - length, f - length, length⟩
  longest : ∀ block, Runs paired range block → block.a + block.size = e →
    block.b + block.size = f → block.size ≤ length

end

variable {paired : Nat → Nat → Prop} {range : Range}

theorem IsLongest.unique {m n : Match} (hm : IsLongest paired range m)
    (hn : IsLongest paired range n) : m = n := by
  have hmn := hm.leads n hn.runs
  have hnm := hn.leads m hm.runs
  have hsize : m.size = n.size := le_antisymm hnm.longest hmn.longest
  have hfirst := hmn.earliest hsize.symm
  have hsecond := hnm.earliest hsize
  have ha : m.a = n.a := by omega
  have hb : m.b = n.b := by omega
  cases m
  cases n
  simp_all

theorem Runs.shrink {a b size : Nat} (hruns : Runs paired range ⟨a, b, size + 1⟩) :
    Runs paired range ⟨a, b, size⟩ where
  alo_le := hruns.alo_le
  le_ahi := by have := hruns.le_ahi; simp only at this ⊢; omega
  blo_le := hruns.blo_le
  le_bhi := by have := hruns.le_bhi; simp only at this ⊢; omega
  pairs d hd := hruns.pairs d (Nat.lt_succ_of_lt hd)

theorem Runs.last {a b size : Nat} (hruns : Runs paired range ⟨a, b, size + 1⟩) :
    paired (a + size) (b + size) :=
  hruns.pairs size (Nat.lt_succ_self size)

theorem Runs.grow {a b size : Nat} (hruns : Runs paired range ⟨a, b, size⟩)
    (hahi : a + size < range.ahi) (hbhi : b + size < range.bhi)
    (hpair : paired (a + size) (b + size)) : Runs paired range ⟨a, b, size + 1⟩ where
  alo_le := hruns.alo_le
  le_ahi := hahi
  blo_le := hruns.blo_le
  le_bhi := hbhi
  pairs d hd := by
    rcases Nat.lt_succ_iff_lt_or_eq.mp hd with hlt | rfl
    · exact hruns.pairs d hlt
    · exact hpair

theorem Runs.growBack {i j size : Nat} (hruns : Runs paired range ⟨i + 1, j + 1, size⟩)
    (halo : range.alo ≤ i) (hblo : range.blo ≤ j) (hpair : paired i j) :
    Runs paired range ⟨i, j, size + 1⟩ where
  alo_le := halo
  le_ahi := by have := hruns.le_ahi; simp only at this ⊢; omega
  blo_le := hblo
  le_bhi := by have := hruns.le_bhi; simp only at this ⊢; omega
  pairs d hd := by
    cases d with
    | zero => exact hpair
    | succ d =>
        have hnext := hruns.pairs d (Nat.lt_of_succ_lt_succ hd)
        simp only [Nat.add_right_comm _ 1 d] at hnext
        exact hnext

/-! ### One row of the table -/

/-- The runs that end in the rows before `i`, or in row `i` before column `j`. -/
def Seen (i j : Nat) (block : Match) : Prop :=
  block.a + block.size ≤ i ∨ block.a + block.size = i + 1 ∧ block.b + block.size ≤ j

/-- The row `i` is done up to column `j`. -/
structure RowDone (paired : Nat → Nat → Prop) (range : Range) (i j : Nat)
    (found : (Nat → Nat) × Match) : Prop where
  lengths : ∀ f < j, EndsAt paired range (i + 1) (f + 1) (found.1 f)
  ahead : ∀ f, j ≤ f → found.1 f = 0
  runs : Runs paired range found.2
  seen : Seen i j found.2
  start : found.2.size = 0 → found.2 = ⟨range.alo, range.blo, 0⟩
  leads : ∀ block, Runs paired range block → 0 < block.size → Seen i j block →
    Leads found.2 block

theorem endsAt_zero {e f : Nat} (hnone : ∀ block, Runs paired range block →
    block.a + block.size = e → block.b + block.size = f → block.size = 0) :
    EndsAt paired range e f 0 where
  runs hlength := absurd hlength (Nat.lt_irrefl 0)
  longest block hruns he hf := (hnone block hruns he hf).le

theorem RowDone.skip {i j k : Nat} {found : (Nat → Nat) × Match}
    (hdone : RowDone paired range i j found) (hjk : j ≤ k)
    (hnone : ∀ f, j ≤ f → f < k → ¬(range.blo ≤ f ∧ f < range.bhi ∧ paired i f)) :
    RowDone paired range i k found := by
  have hempty : ∀ block, Runs paired range block → block.a + block.size = i + 1 →
      j < block.b + block.size → block.b + block.size ≤ k → block.size = 0 := by
    rintro ⟨a, b, size⟩ hruns ha hb hk
    cases size with
    | zero => rfl
    | succ size =>
        simp only at ha hb hk
        refine absurd ⟨?_, ?_, ?_⟩ (hnone (b + size) (by omega) (by omega))
        · exact hruns.blo_le.trans (Nat.le_add_right b size)
        · exact hruns.le_bhi
        · have hlast := hruns.last
          rwa [show a + size = i by omega] at hlast
  refine ⟨?_, fun f hf => hdone.ahead f (hjk.trans hf), hdone.runs, ?_, hdone.start, ?_⟩
  · intro f hf
    by_cases hlt : f < j
    · exact hdone.lengths f hlt
    · rw [hdone.ahead f (by omega)]
      exact endsAt_zero fun block hruns he hf' => hempty block hruns he (by omega) (by omega)
  · exact hdone.seen.imp id fun hrow => ⟨hrow.1, hrow.2.trans hjk⟩
  · rintro block hruns hsize (hbefore | ⟨ha, hb⟩)
    · exact hdone.leads block hruns hsize (.inl hbefore)
    · have hle : block.b + block.size ≤ j := by
        by_contra hlt
        have hzero := hempty block hruns ha (by omega) hb
        omega
      exact hdone.leads block hruns hsize (.inr ⟨ha, hle⟩)

theorem EndsAt.succ {i j length : Nat} (hends : EndsAt paired range i j length)
    (halo : range.alo ≤ i) (hahi : i < range.ahi) (hblo : range.blo ≤ j) (hbhi : j < range.bhi)
    (hpair : paired i j) : EndsAt paired range (i + 1) (j + 1) (length + 1) where
  runs _ := by
    rcases Nat.eq_zero_or_pos length with rfl | hpos
    · refine ⟨by omega, by omega, ⟨halo, hahi, hblo, hbhi⟩, ?_⟩
      intro d hd
      obtain rfl : d = 0 := by simpa using hd
      exact hpair
    · obtain ⟨hi, hj, hruns⟩ := hends.runs hpos
      refine ⟨by omega, by omega, ?_⟩
      rw [Nat.add_sub_add_right, Nat.add_sub_add_right]
      refine hruns.grow (by omega) (by omega) ?_
      rwa [Nat.sub_add_cancel hi, Nat.sub_add_cancel hj]
  longest := by
    rintro ⟨a, b, size⟩ hruns ha hb
    cases size with
    | zero => exact Nat.zero_le _
    | succ size =>
        exact Nat.succ_le_succ (hends.longest ⟨a, b, size⟩ hruns.shrink (Nat.succ.inj ha)
          (Nat.succ.inj hb))

theorem RowDone.step {i j length : Nat} {lengths : Nat → Nat} {best : Match}
    (hdone : RowDone paired range i j (lengths, best))
    (hends : EndsAt paired range (i + 1) (j + 1) length) (hpos : 0 < length) :
    RowDone paired range i (j + 1) (Function.update lengths j length,
      if best.size < length then ⟨i + 1 - length, j + 1 - length, length⟩ else best) := by
  obtain ⟨hi, hj, hruns⟩ := hends.runs hpos
  have hold : ∀ block, Runs paired range block → 0 < block.size → Seen i (j + 1) block →
      ¬Seen i j block → block.a + block.size = i + 1 ∧ block.b + block.size = j + 1 ∧
        block.size ≤ length := by
    rintro block hblock - (hbefore | ⟨ha, hb⟩) hunseen
    · exact absurd (.inl hbefore) hunseen
    · have hb' : block.b + block.size = j + 1 := by
        by_contra hne
        exact hunseen (.inr ⟨ha, by omega⟩)
      exact ⟨ha, hb', hends.longest block hblock ha hb'⟩
  have hlengths : ∀ f < j + 1, EndsAt paired range (i + 1) (f + 1)
      (Function.update lengths j length f) := by
    intro f hf
    rcases Nat.lt_succ_iff_lt_or_eq.mp hf with hlt | rfl
    · rw [Function.update_of_ne hlt.ne]
      exact hdone.lengths f hlt
    · rwa [Function.update_self]
  have hahead : ∀ f, j + 1 ≤ f → Function.update lengths j length f = 0 := by
    intro f hf
    rw [Function.update_of_ne (by omega)]
    exact hdone.ahead f (by omega)
  by_cases hlonger : best.size < length
  · rw [if_pos hlonger]
    refine ⟨hlengths, hahead, hruns, .inr ⟨?_, ?_⟩, fun hzero => ?_, ?_⟩
    · simp only
      omega
    · simp only
      omega
    · exact absurd hzero hpos.ne'
    · intro block hblock hsize hseen
      by_cases hunseen : Seen i j block
      · have hle := (hdone.leads block hblock hsize hunseen).longest
        simp only at hle
        exact ⟨by simp only; omega, fun heq => by simp only at heq; omega⟩
      · obtain ⟨ha, hb, hle⟩ := hold block hblock hsize hseen hunseen
        refine ⟨hle, fun heq => ?_⟩
        simp only at heq ⊢
        omega
  · rw [if_neg hlonger]
    refine ⟨hlengths, hahead, hdone.runs, ?_, hdone.start, ?_⟩
    · exact hdone.seen.imp id fun hrow => ⟨hrow.1, hrow.2.trans (Nat.le_succ j)⟩
    · intro block hblock hsize hseen
      by_cases hunseen : Seen i j block
      · exact hdone.leads block hblock hsize hunseen
      · obtain ⟨ha, hb, hle⟩ := hold block hblock hsize hseen hunseen
        refine ⟨by simp only; omega, fun heq => ?_⟩
        have hbest := hdone.seen
        simp only [Seen] at hbest heq ⊢
        omega

/-- The length in the table for the column before `j`. -/
def lengthBefore (lengths : Nat → Nat) (j : Nat) : Nat :=
  if j = 0 then 0 else lengths (j - 1)

theorem scanIndices_done {i j : Nat} {previousLengths : Nat → Nat} {indices : List Nat}
    {found : (Nat → Nat) × Match} (halo : range.alo ≤ i) (hahi : i < range.ahi)
    (hprevious : ∀ f, EndsAt paired range i f (lengthBefore previousLengths f))
    (hsorted : indices.Pairwise (· < ·)) (hpaired : ∀ f ∈ indices, j ≤ f ∧ paired i f)
    (hindices : ∀ f, j ≤ f → paired i f → f ∈ indices)
    (hdone : RowDone paired range i j found) :
    ∃ k, range.bhi ≤ k ∧ RowDone paired range i k
      (scanIndices i range.blo range.bhi previousLengths indices found) := by
  induction indices generalizing j found with
  | nil =>
      refine ⟨max j range.bhi, le_max_right _ _, hdone.skip (le_max_left _ _) ?_⟩
      rintro f hf - ⟨-, -, hpair⟩
      exact absurd (hindices f hf hpair) List.not_mem_nil
  | cons index rest ih =>
      obtain ⟨lengths, best⟩ := found
      obtain ⟨hfirst, hrest⟩ := List.pairwise_cons.mp hsorted
      obtain ⟨hj, hpair⟩ := hpaired index List.mem_cons_self
      have hbetween : ∀ f, j ≤ f → f < index → ¬paired i f := by
        intro f hf hlt hpair
        rcases List.mem_cons.mp (hindices f hf hpair) with rfl | hmem
        · exact absurd hlt (lt_irrefl _)
        · exact absurd hlt (hfirst f hmem).not_gt
      have hrestPaired : ∀ f ∈ rest, index + 1 ≤ f ∧ paired i f := fun f hf =>
        ⟨hfirst f hf, (hpaired f (List.mem_cons_of_mem index hf)).2⟩
      have hrestIndices : ∀ f, index + 1 ≤ f → paired i f → f ∈ rest := by
        intro f hf hpair
        rcases List.mem_cons.mp (hindices f (by omega) hpair) with rfl | hmem
        · omega
        · exact hmem
      rw [scanIndices]
      by_cases hblo : index < range.blo
      · rw [if_pos hblo]
        refine ih hrest hrestPaired hrestIndices (hdone.skip (by omega) ?_)
        rintro f hf hlt ⟨hle, -, hpair⟩
        omega
      · rw [if_neg hblo]
        by_cases hbhi : range.bhi ≤ index
        · rw [if_pos hbhi]
          refine ⟨max j range.bhi, le_max_right _ _, hdone.skip (le_max_left _ _) ?_⟩
          rintro f hf - ⟨-, hlt, hpair⟩
          exact hbetween f hf (by omega) hpair
        · rw [if_neg hbhi]
          refine ih hrest hrestPaired hrestIndices ?_
          have hhere : RowDone paired range i index (lengths, best) := by
            refine hdone.skip hj ?_
            rintro f hf hlt ⟨-, -, hpair⟩
            exact hbetween f hf hlt hpair
          exact hhere.step ((hprevious index).succ halo hahi (by omega) (by omega) hpair)
            (Nat.succ_pos _)

/-! ### All rows -/

/-- The rows before `i` are done. -/
structure RowsDone (paired : Nat → Nat → Prop) (range : Range) (i : Nat)
    (found : (Nat → Nat) × Match) : Prop where
  lengths : ∀ j, EndsAt paired range i j (lengthBefore found.1 j)
  runs : Runs paired range found.2
  seen : found.2.a + found.2.size ≤ i
  start : found.2.size = 0 → found.2 = ⟨range.alo, range.blo, 0⟩
  leads : ∀ block, Runs paired range block → 0 < block.size → block.a + block.size ≤ i →
    Leads found.2 block

theorem rowsDone_start (paired : Nat → Nat → Prop) (range : Range) :
    RowsDone paired range range.alo (fun _ => 0, ⟨range.alo, range.blo, 0⟩) where
  lengths j := by
    have hzero : lengthBefore (fun _ => 0) j = 0 := by simp [lengthBefore]
    rw [hzero]
    refine endsAt_zero fun block hruns he _ => ?_
    have halo := hruns.alo_le
    omega
  runs := ⟨⟨le_rfl, range.a_le, le_rfl, range.b_le⟩, fun d hd => absurd hd (Nat.not_lt_zero d)⟩
  seen := le_rfl
  start _ := rfl
  leads block hruns hsize hle := by
    have halo := hruns.alo_le
    omega

theorem RowsDone.begin {i : Nat} {found : (Nat → Nat) × Match}
    (hdone : RowsDone paired range i found) : RowDone paired range i 0 (fun _ => 0, found.2) where
  lengths f hf := absurd hf (Nat.not_lt_zero f)
  ahead _ _ := rfl
  runs := hdone.runs
  seen := .inl hdone.seen
  start := hdone.start
  leads block hruns hsize hseen := by
    rcases hseen with hbefore | ⟨ha, hb⟩
    · exact hdone.leads block hruns hsize hbefore
    · omega

theorem RowDone.finish {i k : Nat} {found : (Nat → Nat) × Match}
    (hdone : RowDone paired range i k found) (hk : range.bhi ≤ k) :
    RowsDone paired range (i + 1) found where
  lengths j := by
    rcases Nat.eq_zero_or_pos j with rfl | hpos
    · exact endsAt_zero fun block _ _ hf => by omega
    · obtain ⟨f, rfl⟩ := Nat.exists_eq_succ_of_ne_zero hpos.ne'
      have hbefore : lengthBefore found.1 (f + 1) = found.1 f := by simp [lengthBefore]
      rw [Nat.succ_eq_add_one, hbefore]
      by_cases hlt : f < k
      · exact hdone.lengths f hlt
      · rw [hdone.ahead f (by omega)]
        refine endsAt_zero fun block hruns _ hf => ?_
        have hbhi := hruns.le_bhi
        omega
  runs := hdone.runs
  seen := by
    have hseen := hdone.seen
    rw [Seen] at hseen
    omega
  start := hdone.start
  leads block hruns hsize hle := by
    refine hdone.leads block hruns hsize ?_
    have hbhi := hruns.le_bhi
    rw [Seen]
    omega

theorem RowsDone.isLongest {found : (Nat → Nat) × Match}
    (hdone : RowsDone paired range range.ahi found) : IsLongest paired range found.2 where
  runs := hdone.runs
  leads block hruns := by
    rcases Nat.eq_zero_or_pos block.size with hzero | hpos
    · refine ⟨by omega, fun heq => ?_⟩
      have hstart := hdone.start (heq.symm.trans hzero)
      have halo := hruns.alo_le
      have hblo := hruns.blo_le
      rw [hstart]
      simp only
      omega
    · exact hdone.leads block hruns hpos hruns.le_ahi

/-! ### The positions of an element -/

variable {α : Type} [DecidableEq α]

theorem indicesOf_eq (b : List α) (elt : α) :
    indicesOf b elt = (List.range b.length).filter fun j => b[j]? = some elt := by
  refine inv_foldl_range (fun n (b2j : α → List Nat) =>
    b2j elt = (List.range n).filter fun j => b[j]? = some elt) ?_ ?_
  · rfl
  · intro k hk b2j hb2j
    rw [List.range_succ, List.filter_append, ← hb2j, pushIndex, List.getElem?_eq_getElem hk]
    by_cases helt : b[k] = elt
    · simp [helt, List.getElem?_eq_getElem hk]
    · simp [Function.update_of_ne (Ne.symm helt), List.getElem?_eq_getElem hk, helt]

/-- An element that the autojunk rule drops: one that a long sequence holds in more
than a hundredth of its places. -/
def Popular (b : List α) (elt : α) : Prop :=
  autojunkMinLength ≤ b.length ∧ b.length / 100 + 1 < b.count elt

instance (b : List α) (elt : α) : Decidable (Popular b elt) := by
  unfold Popular
  infer_instance

/-- Equal elements that the autojunk rule does not drop. -/
def Paired (a b : List α) (i j : Nat) : Prop :=
  ∃ elt, a[i]? = some elt ∧ b[j]? = some elt ∧ ¬Popular b elt

theorem length_indicesOf (b : List α) (elt : α) : (indicesOf b elt).length = b.count elt := by
  have hmap : (List.range b.length).map (fun j => b[j]?) = b.map some := by
    apply List.ext_getElem
    · simp
    · intro i hi hi'
      have hlt : i < b.length := by simpa using hi
      simp [hlt]
  have hcount : (b.map some).countP (fun o => o = some elt) = b.count elt := by
    rw [List.countP_map, List.count]
    congr 1
    funext x
    simp [beq_eq_decide]
  rw [indicesOf_eq, ← List.countP_eq_length_filter, ← hcount, ← hmap, List.countP_map]
  rfl

theorem mem_buildB2J (b : List α) (elt : α) (j : Nat) :
    j ∈ buildB2J b elt ↔ b[j]? = some elt ∧ ¬Popular b elt := by
  have hbuild : buildB2J b elt = if Popular b elt then [] else indicesOf b elt := by
    rw [buildB2J, length_indicesOf]
    rfl
  rw [hbuild]
  split
  · rename_i hpopular
    simp [hpopular]
  · rename_i hpopular
    rw [indicesOf_eq]
    simp only [List.mem_filter, List.mem_range, decide_eq_true_eq, hpopular, not_false_eq_true,
      and_true]
    exact and_iff_right_of_imp fun hj => (List.getElem?_eq_some_iff.mp hj).1

theorem buildB2J_sorted (b : List α) (elt : α) : (buildB2J b elt).Pairwise (· < ·) := by
  rw [buildB2J, indicesOf_eq]
  split
  · exact List.Pairwise.nil
  · exact List.pairwise_lt_range.filter _

theorem RowsDone.next {a b : List α} {i : Nat} {found : (Nat → Nat) × Match}
    (hdone : RowsDone (Paired a b) range i found) (halo : range.alo ≤ i) (hahi : i < range.ahi) :
    RowsDone (Paired a b) range (i + 1)
      (findMatchesEndingAt a (buildB2J b) range.blo range.bhi i found) := by
  rw [findMatchesEndingAt]
  cases hi : a[i]? with
  | none =>
      refine (hdone.begin.skip (Nat.zero_le range.bhi) ?_).finish le_rfl
      rintro f - - ⟨-, -, elt, helt, -⟩
      rw [hi] at helt
      contradiction
  | some character =>
      have hindices : ∀ f, f ∈ buildB2J b character ↔ Paired a b i f := by
        intro f
        rw [mem_buildB2J]
        constructor
        · intro hf
          exact ⟨character, hi, hf⟩
        · rintro ⟨elt, helt, hf⟩
          obtain rfl := Option.some.inj (hi.symm.trans helt)
          exact hf
      obtain ⟨k, hk, hrow⟩ := scanIndices_done halo hahi hdone.lengths
        (buildB2J_sorted b character) (fun f hf => ⟨Nat.zero_le f, (hindices f).mp hf⟩)
        (fun f _ hpair => (hindices f).mpr hpair) hdone.begin
      exact hrow.finish hk

theorem findMatch_isLongest (a b : List α) (range : Range) :
    IsLongest (Paired a b) range (findMatch a (buildB2J b) range) := by
  have hall : RowsDone (Paired a b) range (range.alo + (range.ahi - range.alo))
      ((List.range (range.ahi - range.alo)).foldl
        (fun found i => findMatchesEndingAt a (buildB2J b) range.blo range.bhi
          (range.alo + i) found)
        (fun _ => 0, ⟨range.alo, range.blo, 0⟩)) := by
    apply inv_foldl_range fun i found => RowsDone (Paired a b) range (range.alo + i) found
    · exact rowsDone_start _ _
    · intro i hi found hfound
      exact hfound.next (Nat.le_add_right _ i) (by omega)
  rw [Nat.add_sub_cancel' range.a_le] at hall
  exact hall.isLongest

end Songmaker.Lyrics.SequenceMatcher
