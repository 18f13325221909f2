import Mathlib.Data.List.Sort
import Mathlib.Data.List.Range

/-!
Rows that carry their place in a list as a number: whether the numbers are 0 to
`n - 1`, and the list that they say.
-/

namespace Songmaker.Foundation.Numbering

universe u

variable {Row : Type u} {number : Row → Nat}

/-- The rows are listed by number, from `start` on and without a gap. -/
def NumberedFrom (number : Row → Nat) (start : Nat) (rows : List Row) : Prop :=
  rows.map number = List.range' start rows.length

/-- The numbers of the rows are 0 to `n - 1`, in whatever order the rows are listed. -/
def Numbered (number : Row → Nat) (rows : List Row) : Prop :=
  (rows.map number).Perm (List.range rows.length)

/-- The rows by their numbers, those of one number as they came. -/
def inOrder (number : Row → Nat) (rows : List Row) : List Row :=
  rows.insertionSort fun first second => number first ≤ number second

instance (number : Row → Nat) (rows : List Row) : Decidable (Numbered number rows) :=
  inferInstanceAs (Decidable ((rows.map number).Perm (List.range rows.length)))

theorem numberedFrom_nil (start : Nat) : NumberedFrom number start [] := rfl

theorem numberedFrom_cons {start : Nat} {row : Row} {rows : List Row} :
    NumberedFrom number start (row :: rows) ↔
      number row = start ∧ NumberedFrom number (start + 1) rows := by
  unfold NumberedFrom
  rw [List.map_cons, List.length_cons, List.range'_succ, List.cons.injEq]

theorem numberedFrom_append {start : Nat} {rows more : List Row} :
    NumberedFrom number start (rows ++ more) ↔
      NumberedFrom number start rows ∧ NumberedFrom number (start + rows.length) more := by
  unfold NumberedFrom
  rw [List.map_append, List.length_append, ← List.range'_append_1]
  constructor
  · intro h
    exact List.append_inj h (by simp)
  · rintro ⟨hrows, hmore⟩
    rw [hrows, hmore]

theorem NumberedFrom.succ {start : Nat} {rows : List Row} (h : NumberedFrom number start rows)
    {change : Row → Row} (hchange : ∀ row ∈ rows, number (change row) = number row + 1) :
    NumberedFrom number (start + 1) (rows.map change) := by
  unfold NumberedFrom at h ⊢
  rw [List.length_map, List.range'_succ_left, ← h, List.map_map, List.map_map]
  exact List.map_congr_left hchange

theorem NumberedFrom.pred {start : Nat} {rows : List Row}
    (h : NumberedFrom number (start + 1) rows) {change : Row → Row}
    (hchange : ∀ row ∈ rows, number (change row) = number row - 1) :
    NumberedFrom number start (rows.map change) := by
  unfold NumberedFrom at h ⊢
  rw [List.length_map, show start = start + 1 - 1 from rfl,
    ← List.map_sub_range' (Nat.le_add_left 1 start) rows.length, ← h, List.map_map, List.map_map]
  exact List.map_congr_left hchange

theorem NumberedFrom.mem {start : Nat} {rows : List Row} (h : NumberedFrom number start rows)
    {row : Row} (hrow : row ∈ rows) :
    start ≤ number row ∧ number row < start + rows.length := by
  have hmem : number row ∈ List.range' start rows.length :=
    h ▸ List.mem_map_of_mem hrow
  simpa using hmem

theorem NumberedFrom.pairwise {start : Nat} {rows : List Row}
    (h : NumberedFrom number start rows) :
    rows.Pairwise fun first second => number first < number second := by
  have hrange : (rows.map number).Pairwise (· < ·) := h ▸ List.pairwise_lt_range'
  exact List.pairwise_map.mp hrange

theorem NumberedFrom.mem_take {start : Nat} {rows : List Row} (h : NumberedFrom number start rows)
    {count : Nat} {row : Row} :
    row ∈ rows.take count ↔ row ∈ rows ∧ number row < start + count := by
  induction rows generalizing start count with
  | nil => simp
  | cons first rest ih =>
      obtain ⟨hfirst, hrest⟩ := numberedFrom_cons.mp h
      rcases count with _ | count
      · simp only [List.take_zero, List.not_mem_nil, false_iff]
        rintro ⟨hrow, hlow⟩
        have := h.mem hrow
        omega
      · rw [List.take_succ_cons, List.mem_cons, List.mem_cons, ih hrest]
        constructor
        · rintro (rfl | ⟨hrow, hlow⟩)
          · exact ⟨.inl rfl, by omega⟩
          · exact ⟨.inr hrow, by omega⟩
        · rintro ⟨rfl | hrow, hlow⟩
          · exact .inl rfl
          · exact .inr ⟨hrow, by omega⟩

theorem NumberedFrom.filter_iff {start : Nat} {rows : List Row}
    (h : NumberedFrom number start rows) (keep : Row → Bool) :
    NumberedFrom number start (rows.filter keep) ↔
      ∀ gone ∈ rows, keep gone = false → ∀ kept ∈ rows, keep kept = true →
        number kept < number gone := by
  induction rows generalizing start with
  | nil => simp [numberedFrom_nil]
  | cons first rest ih =>
      obtain ⟨hfirst, hrest⟩ := numberedFrom_cons.mp h
      by_cases hkeep : keep first = true
      · rw [List.filter_cons_of_pos hkeep, numberedFrom_cons, ih hrest]
        constructor
        · rintro ⟨-, hall⟩ gone hgone hgoes kept hkept hstays
          rcases List.mem_cons.mp hgone with rfl | hgoneRest
          · rw [hkeep] at hgoes
            cases hgoes
          · rcases List.mem_cons.mp hkept with rfl | hkeptRest
            · have := hrest.mem hgoneRest
              omega
            · exact hall gone hgoneRest hgoes kept hkeptRest hstays
        · intro hall
          exact ⟨hfirst, fun gone hgone hgoes kept hkept hstays =>
            hall gone (List.mem_cons_of_mem _ hgone) hgoes kept
              (List.mem_cons_of_mem _ hkept) hstays⟩
      · rw [List.filter_cons_of_neg hkeep]
        have hgoes : keep first = false := by simpa using hkeep
        constructor
        · intro hleft gone _ _ kept hkept hstays
          -- The first of what is left would have to have the number of the first row.
          exfalso
          have hkeptRest : kept ∈ rest := by
            rcases List.mem_cons.mp hkept with rfl | hkept
            · rw [hstays] at hgoes
              cases hgoes
            · exact hkept
          have hmem : kept ∈ rest.filter keep := List.mem_filter.mpr ⟨hkeptRest, hstays⟩
          rcases hrows : rest.filter keep with _ | ⟨low, others⟩
          · rw [hrows] at hmem
            cases hmem
          · rw [hrows] at hleft
            have hlow : low ∈ rest := List.mem_of_mem_filter (hrows ▸ List.mem_cons_self)
            have := hrest.mem hlow
            have := (numberedFrom_cons.mp hleft).1
            omega
        · intro hall
          have hnone : rest.filter keep = [] := by
            rw [List.filter_eq_nil_iff]
            intro kept hkept hstays
            have hbelow := hall first List.mem_cons_self hgoes kept
              (List.mem_cons_of_mem _ hkept) hstays
            have := hrest.mem hkept
            omega
          rw [hnone]
          exact numberedFrom_nil start

theorem inOrder_perm (number : Row → Nat) (rows : List Row) : (inOrder number rows).Perm rows :=
  List.perm_insertionSort _ _

theorem inOrder_pairwise (rows : List Row) :
    (inOrder number rows).Pairwise fun first second => number first ≤ number second := by
  have htotal : Std.Total fun first second : Row => number first ≤ number second :=
    ⟨fun _ _ => Nat.le_total _ _⟩
  have htrans : IsTrans Row fun first second => number first ≤ number second :=
    ⟨fun _ _ _ => Nat.le_trans⟩
  exact List.pairwise_insertionSort _ rows

theorem inOrder_eq {rows ordered : List Row} (hperm : rows.Perm ordered)
    (hordered : ordered.Pairwise fun first second => number first < number second) :
    inOrder number rows = ordered := by
  have hall : (inOrder number rows).Perm ordered := (inOrder_perm number rows).trans hperm
  have hnodup : (ordered.map number).Nodup :=
    List.pairwise_map.mpr (hordered.imp Nat.ne_of_lt)
  refine hall.eq_of_pairwise ?_ (inOrder_pairwise rows) (hordered.imp Nat.le_of_lt)
  intro first second hfirst hsecond hle hge
  exact List.inj_on_of_nodup_map hnodup (hall.mem_iff.mp hfirst) hsecond
    (Nat.le_antisymm hle hge)

theorem Numbered.inOrder {rows : List Row} (h : Numbered number rows) :
    NumberedFrom number 0 (Numbering.inOrder number rows) := by
  have hlength := (inOrder_perm number rows).length_eq
  unfold NumberedFrom
  rw [hlength, ← List.range_eq_range']
  refine List.Perm.eq_of_pairwise (fun _ _ _ _ => Nat.le_antisymm) ?_ ?_ ?_
  · exact List.pairwise_map.mpr (inOrder_pairwise rows)
  · exact List.pairwise_lt_range.imp Nat.le_of_lt
  · exact ((inOrder_perm number rows).map number).trans h

theorem numbered_of_perm {rows ordered : List Row} (hperm : rows.Perm ordered)
    (hordered : NumberedFrom number 0 ordered) : Numbered number rows := by
  unfold Numbered
  rw [hperm.length_eq, List.range_eq_range', ← hordered]
  exact hperm.map number

theorem Numbered.inOrder_filter {rows : List Row} (h : Numbered number rows) (keep : Row → Bool) :
    Numbering.inOrder number (rows.filter keep) = (Numbering.inOrder number rows).filter keep :=
  inOrder_eq ((inOrder_perm number rows).symm.filter keep) (h.inOrder.pairwise.filter keep)

theorem Numbered.filter_iff {rows : List Row} (h : Numbered number rows) (keep : Row → Bool) :
    Numbered number (rows.filter keep) ↔
      ∀ gone ∈ rows, keep gone = false → ∀ kept ∈ rows, keep kept = true →
        number kept < number gone := by
  have hmem : ∀ row, row ∈ Numbering.inOrder number rows ↔ row ∈ rows :=
    fun row => (inOrder_perm number rows).mem_iff
  have hiff := h.inOrder.filter_iff keep
  rw [← h.inOrder_filter keep] at hiff
  simp only [hmem] at hiff
  rw [← hiff]
  constructor
  · exact Numbered.inOrder
  · exact numbered_of_perm (inOrder_perm number _).symm

end Songmaker.Foundation.Numbering
