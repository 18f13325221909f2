import Songmaker.Foundation.RowLocks

/-!
How many rows of a table match: among the committed ones, and among those that a
transaction sees. A predicate that falls along the order of the versions counts
no more rows after a statement than before it.
-/

namespace Songmaker.Foundation.RowLocks

/-- A row that matches did so in every earlier version. -/
def Falling {Row : Type} (R : Row → Row → Prop) (matching : Row → Bool) : Prop :=
  ∀ row row', R row row' → matching row' = true → matching row = true

/-- Every row found later was found before, in a version that it may have come from. -/
def Fallen {Id Row : Type} (R : Row → Row → Prop) (before after : Id → Option Row) : Prop :=
  ∀ id row', after id = some row' → ∃ row, before id = some row ∧ R row row'

namespace Slot

variable {Row Tx : Type} [DecidableEq Tx] {R : Row → Row → Prop} {slot : Slot Row Tx}
  {tx other : Tx}

@[simp] theorem visible_write (slot : Slot Row Tx) (tx : Tx) (row : Row) :
    (slot.write tx row).visible tx = row := if_pos rfl

theorem visible_of_lock_ne (hlock : ∀ row, slot.lock ≠ some (tx, row)) :
    slot.visible tx = slot.committed := by
  rcases visible_cases slot tx with hown | ⟨-, hvisible⟩
  · exact absurd hown (hlock _)
  · exact hvisible

theorem visible_write_of_ne (hlockable : slot.LockableBy tx) (hother : other ≠ tx) (row : Row) :
    (slot.write tx row).visible other = slot.visible other := by
  have hbefore : slot.visible other = slot.committed := by
    apply visible_of_lock_ne
    intro held hheld
    exact hother (hlockable _ hheld)
  rw [hbefore]
  exact if_neg (Ne.symm hother)

theorem committed_commit (slot : Slot Row Tx) (tx : Tx) :
    (slot.commit tx).committed = slot.visible tx := by
  rcases commit_cases slot tx with ⟨row, hlock, hcommit⟩ | ⟨hlock, hcommit⟩
  · simp [hcommit, visible, hlock]
  · rw [hcommit, visible_of_lock_ne hlock]

theorem visible_commit [IsPreorder Row R] (hfollows : slot.Follows R) :
    R (slot.visible other) ((slot.commit tx).visible other) := by
  rcases commit_cases slot tx with ⟨row, hlock, hcommit⟩ | ⟨-, hcommit⟩
  · have hafter : (slot.commit tx).visible other = row := by simp [hcommit, visible]
    rw [hafter]
    by_cases hother : other = tx
    · subst hother
      have hbefore : slot.visible other = row := by simp [visible, hlock]
      rw [hbefore]
      exact refl_of R row
    · have hbefore : slot.visible other = slot.committed := by
        apply visible_of_lock_ne
        intro held hheld
        rw [hlock] at hheld
        cases hheld
        exact hother rfl
      rw [hbefore]
      exact hfollows _ hlock
  · rw [hcommit]
    exact refl_of R _

theorem visible_rollback (hother : other ≠ tx) :
    (slot.rollback tx).visible other = slot.visible other := by
  rcases rollback_cases slot tx with ⟨row, hlock, hrollback⟩ | ⟨-, hrollback⟩
  · have hbefore : slot.visible other = slot.committed := by
      apply visible_of_lock_ne
      intro held hheld
      rw [hlock] at hheld
      cases hheld
      exact hother rfl
    rw [hrollback, hbefore]
    rfl
  · rw [hrollback]

end Slot

namespace Table

variable {Id Row Tx : Type} {R : Row → Row → Prop} {table table' : Table Id Row Tx}
  {matching : Row → Bool}

/-- How many committed rows match. -/
def countCommitted (table : Table Id Row Tx) (matching : Row → Bool) : Nat :=
  table.ids.countP fun id => (table.committed id).any matching

theorem countP_le_of_fallen {before after : Id → Option Row} (hfalling : Falling R matching)
    (hfallen : Fallen R before after) (ids : List Id) :
    (ids.countP fun id => (after id).any matching) ≤
      ids.countP fun id => (before id).any matching := by
  apply List.countP_mono_left
  intro id _ hafter
  obtain ⟨row', hrow', hmatching⟩ := (Option.any_eq_true _ _).mp hafter
  obtain ⟨row, hrow, hR⟩ := hfallen id row' hrow'
  exact (Option.any_eq_true _ _).mpr ⟨row, hrow, hfalling row row' hR hmatching⟩

theorem fallen_refl [IsPreorder Row R] (rows : Id → Option Row) : Fallen R rows rows :=
  fun _ row hrow => ⟨row, hrow, refl_of R row⟩

variable [DecidableEq Tx] {tx other : Tx}

/-- How many rows match as the transaction sees them. -/
def countVisible (table : Table Id Row Tx) (tx : Tx) (matching : Row → Bool) : Nat :=
  table.ids.countP fun id => (table.visible tx id).any matching

theorem countVisible_mono {narrow wide : Row → Bool}
    (hwide : ∀ row, narrow row = true → wide row = true) (table : Table Id Row Tx) (tx : Tx) :
    table.countVisible tx narrow ≤ table.countVisible tx wide := by
  apply List.countP_mono_left
  intro id _ hnarrow
  obtain ⟨row, hrow, hmatching⟩ := (Option.any_eq_true _ _).mp hnarrow
  exact (Option.any_eq_true _ _).mpr ⟨row, hrow, hwide row hmatching⟩

theorem fallen_visible [IsPreorder Row R] (hfollows : table.Follows R) (tx : Tx) :
    Fallen R table.committed (table.visible tx) := by
  intro id row' hrow'
  obtain ⟨slot, hslot, rfl⟩ := Option.map_eq_some_iff.mp hrow'
  exact ⟨slot.committed, by simp [committed, hslot], Slot.follows_visible (hfollows id slot hslot)⟩

theorem countVisible_le [IsPreorder Row R] (hfollows : table.Follows R)
    (hfalling : Falling R matching) (tx : Tx) :
    table.countVisible tx matching ≤ table.countCommitted matching :=
  countP_le_of_fallen hfalling (fallen_visible hfollows tx) table.ids

theorem committed_commit (table : Table Id Row Tx) (tx : Tx) :
    (table.commit tx).committed = table.visible tx := by
  funext id
  simp only [committed, commit, map, visible, Option.map_map]
  congr 1
  funext slot
  exact Slot.committed_commit slot tx

theorem countCommitted_commit (table : Table Id Row Tx) (tx : Tx) (matching : Row → Bool) :
    (table.commit tx).countCommitted matching = table.countVisible tx matching := by
  show (table.ids.countP fun id => ((table.commit tx).committed id).any matching) = _
  rw [committed_commit]
  rfl

theorem fallen_commit [IsPreorder Row R] (hfollows : table.Follows R) (tx other : Tx) :
    Fallen R (table.visible other) ((table.commit tx).visible other) := by
  intro id row' hrow'
  obtain ⟨after, hafter, rfl⟩ := Option.map_eq_some_iff.mp hrow'
  obtain ⟨slot, hslot, rfl⟩ := Option.map_eq_some_iff.mp hafter
  exact ⟨slot.visible other, by simp [visible, hslot], Slot.visible_commit (hfollows id slot hslot)⟩

theorem visible_rollback (hother : other ≠ tx) :
    (table.rollback tx).visible other = table.visible other := by
  funext id
  simp only [visible, rollback, map, Option.map_map]
  congr 1
  funext slot
  exact Slot.visible_rollback hother

section Locked

variable {id : Id} {slot : Slot Row Tx} {row : Row}

end Locked

variable [DecidableEq Id]

theorem ids_write {id : Id} {change : Row → Option Row}
    (hwrite : table.write tx id change = some table') : table'.ids = table.ids := by
  unfold write at hwrite
  split at hwrite
  · exact congrArg ids (Option.some.inj hwrite).symm
  · split_ifs at hwrite
    split at hwrite
    · exact congrArg ids (Option.some.inj hwrite).symm
    · obtain rfl := Option.some.inj hwrite
      rfl

theorem fallen_write [IsPreorder Row R] {id : Id} {change : Row → Option Row}
    (hchange : ∀ row row', change row = some row' → R row row')
    (hwrite : table.write tx id change = some table') (other : Tx) :
    Fallen R (table.visible other) (table'.visible other) := by
  unfold write at hwrite
  split at hwrite
  · exact Option.some.inj hwrite ▸ fallen_refl _
  · rename_i slot hslot
    split_ifs at hwrite with hlockable
    split at hwrite
    · exact Option.some.inj hwrite ▸ fallen_refl _
    · rename_i row hrow
      obtain rfl := Option.some.inj hwrite
      intro found row' hrow'
      by_cases hfound : found = id
      · subst hfound
        refine ⟨slot.visible other, by simp [visible, hslot], ?_⟩
        have hafter : (slot.write tx row).visible other = row' := by
          simpa [visible, put] using hrow'
        rw [← hafter]
        by_cases hother : other = tx
        · subst hother
          rw [Slot.visible_write]
          exact hchange _ _ hrow
        · rw [Slot.visible_write_of_ne hlockable hother]
          exact refl_of R _
      · exact ⟨row', by simpa [visible, put, hfound] using hrow', refl_of R row'⟩

omit [DecidableEq Tx] in
theorem insert_slots {id : Id} {row : Row} (hinsert : table.insert id row = some table') :
    table'.ids = table.ids ++ [id] ∧ table'.slot id = some ⟨row, none⟩ ∧
      ∀ other ∈ table.ids, table'.slot other = table.slot other := by
  unfold insert at hinsert
  split_ifs at hinsert with hid
  obtain rfl := Option.some.inj hinsert
  refine ⟨rfl, Function.update_self .., ?_⟩
  intro other hother
  apply Function.update_of_ne
  rintro rfl
  exact hid hother

omit [DecidableEq Tx] in
theorem countCommitted_insert {id : Id} {row : Row} (hinsert : table.insert id row = some table')
    (matching : Row → Bool) :
    table'.countCommitted matching =
      table.countCommitted matching + if matching row then 1 else 0 := by
  obtain ⟨hids, hnew, hold⟩ := insert_slots hinsert
  rw [countCommitted, hids, List.countP_append]
  congr 1
  · apply List.countP_congr
    intro other hother
    simp [committed, hold other hother]
  · simp [committed, hnew, List.countP_cons]

theorem countVisible_insert {id : Id} {row : Row} (hinsert : table.insert id row = some table')
    (tx : Tx) (matching : Row → Bool) :
    table'.countVisible tx matching =
      table.countVisible tx matching + if matching row then 1 else 0 := by
  obtain ⟨hids, hnew, hold⟩ := insert_slots hinsert
  rw [countVisible, hids, List.countP_append]
  congr 1
  · apply List.countP_congr
    intro other hother
    simp [visible, hold other hother]
  · simp [visible, Slot.visible, hnew, List.countP_cons]

end Table

end Songmaker.Foundation.RowLocks
