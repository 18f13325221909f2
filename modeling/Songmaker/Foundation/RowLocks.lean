import Mathlib.Data.List.Basic
import Mathlib.Order.RelClasses

/-!
A table under READ COMMITTED with row locks. A transaction reads its own version
of a row and otherwise the committed one; it locks a row with the first write
and keeps it locked until it ends.
-/

namespace Songmaker.Foundation.RowLocks

/-- A row: its committed version, and the transaction that has it locked with
the version that transaction works on. -/
structure Slot (Row Tx : Type) where
  committed : Row
  lock : Option (Tx × Row)
deriving DecidableEq

namespace Slot

variable {Row Tx : Type} [DecidableEq Tx]

/-- Nobody else has the row locked. -/
def LockableBy (slot : Slot Row Tx) (tx : Tx) : Prop :=
  ∀ held, slot.lock = some held → held.1 = tx

instance (slot : Slot Row Tx) (tx : Tx) : Decidable (slot.LockableBy tx) :=
  match hlock : slot.lock with
  | none => .isTrue fun held hheld => by rw [hlock] at hheld; cases hheld
  | some held =>
      if hown : held.1 = tx then
        .isTrue fun other hother => by
          rw [hlock] at hother
          cases hother
          exact hown
      else .isFalse fun hall => hown (hall held hlock)

/-- The version that the transaction sees: its own, or the committed one. -/
def visible (slot : Slot Row Tx) (tx : Tx) : Row :=
  match slot.lock with
  | some (owner, row) => if owner = tx then row else slot.committed
  | none => slot.committed

/-- The transaction's version of the row, which locks it. -/
def write (slot : Slot Row Tx) (tx : Tx) (row : Row) : Slot Row Tx :=
  { slot with lock := some (tx, row) }

/-- The transaction's version becomes the committed one. -/
def commit (slot : Slot Row Tx) (tx : Tx) : Slot Row Tx :=
  match slot.lock with
  | some (owner, row) => if owner = tx then ⟨row, none⟩ else slot
  | none => slot

/-- The transaction's version is dropped. -/
def rollback (slot : Slot Row Tx) (tx : Tx) : Slot Row Tx :=
  match slot.lock with
  | some (owner, _) => if owner = tx then ⟨slot.committed, none⟩ else slot
  | none => slot

/-- The version under the lock is one that the committed version may become. -/
def Follows (R : Row → Row → Prop) (slot : Slot Row Tx) : Prop :=
  ∀ held, slot.lock = some held → R slot.committed held.2

variable {R : Row → Row → Prop} [IsPreorder Row R] {slot : Slot Row Tx} {tx : Tx}

theorem follows_visible (hfollows : slot.Follows R) : R slot.committed (slot.visible tx) := by
  unfold visible
  split
  · rename_i owner row hlock
    split_ifs
    · exact hfollows (owner, row) hlock
    · exact refl_of R slot.committed
  · exact refl_of R slot.committed

theorem follows_write (hfollows : slot.Follows R) {row : Row} (hrow : R (slot.visible tx) row) :
    (slot.write tx row).Follows R := by
  intro held hheld
  cases hheld
  exact trans_of R (follows_visible hfollows) hrow

/-- A commit moves the committed version along `R` and leaves no version that does not. -/
theorem commit_spec (hfollows : slot.Follows R) (tx : Tx) :
    R slot.committed (slot.commit tx).committed ∧ (slot.commit tx).Follows R := by
  unfold commit
  split
  · rename_i owner row hlock
    split_ifs
    · exact ⟨hfollows (owner, row) hlock, nofun⟩
    · exact ⟨refl_of R slot.committed, hfollows⟩
  · exact ⟨refl_of R slot.committed, hfollows⟩

omit [IsPreorder Row R] in
theorem rollback_spec (hfollows : slot.Follows R) (tx : Tx) :
    (slot.rollback tx).committed = slot.committed ∧ (slot.rollback tx).Follows R := by
  unfold rollback
  split
  · split_ifs
    · exact ⟨rfl, nofun⟩
    · exact ⟨rfl, hfollows⟩
  · exact ⟨rfl, hfollows⟩

omit [IsPreorder Row R] in
theorem commit_cases (slot : Slot Row Tx) (tx : Tx) :
    (∃ row, slot.lock = some (tx, row) ∧ slot.commit tx = ⟨row, none⟩) ∨
      (∀ row, slot.lock ≠ some (tx, row)) ∧ slot.commit tx = slot := by
  rcases hlock : slot.lock with _ | ⟨owner, row⟩
  · exact .inr ⟨by simp, by simp [commit, hlock]⟩
  · by_cases howner : owner = tx
    · subst howner
      exact .inl ⟨row, rfl, by simp [commit, hlock]⟩
    · exact .inr ⟨by simp [howner], by simp [commit, hlock, howner]⟩

omit [IsPreorder Row R] in
theorem rollback_cases (slot : Slot Row Tx) (tx : Tx) :
    (∃ row, slot.lock = some (tx, row) ∧ slot.rollback tx = ⟨slot.committed, none⟩) ∨
      (∀ row, slot.lock ≠ some (tx, row)) ∧ slot.rollback tx = slot := by
  rcases hlock : slot.lock with _ | ⟨owner, row⟩
  · exact .inr ⟨by simp, by simp [rollback, hlock]⟩
  · by_cases howner : owner = tx
    · subst howner
      exact .inl ⟨row, rfl, by simp [rollback, hlock]⟩
    · exact .inr ⟨by simp [howner], by simp [rollback, hlock, howner]⟩

omit [IsPreorder Row R] in
theorem visible_cases (slot : Slot Row Tx) (tx : Tx) :
    slot.lock = some (tx, slot.visible tx) ∨
      (∀ row, slot.lock ≠ some (tx, row)) ∧ slot.visible tx = slot.committed := by
  rcases hlock : slot.lock with _ | ⟨owner, row⟩
  · exact .inr ⟨by simp, by simp [visible, hlock]⟩
  · by_cases howner : owner = tx
    · subst howner
      exact .inl (by simp [visible, hlock])
    · exact .inr ⟨by simp [howner], by simp [visible, hlock, howner]⟩

end Slot

/-- A table whose rows are found by id. -/
structure Table (Id Row Tx : Type) where
  ids : List Id
  slot : Id → Option (Slot Row Tx)
  slot_isSome : ∀ id, (slot id).isSome = true ↔ id ∈ ids

namespace Table

variable {Id Row Tx : Type}

def committed (table : Table Id Row Tx) (id : Id) : Option Row :=
  (table.slot id).map Slot.committed

/-- Every version under a lock is one that the committed version may become. -/
def Follows (R : Row → Row → Prop) (table : Table Id Row Tx) : Prop :=
  ∀ id slot, table.slot id = some slot → slot.Follows R

/-- The committed rows of a later table are ones that those of the earlier may become. -/
def CommittedFollow (R : Row → Row → Prop) (table table' : Table Id Row Tx) : Prop :=
  ∀ id row, table.committed id = some row → ∃ row', table'.committed id = some row' ∧ R row row'

variable {R : Row → Row → Prop} [IsPreorder Row R] {table table' : Table Id Row Tx}

theorem committedFollow_refl (table : Table Id Row Tx) : table.CommittedFollow R table :=
  fun _ row hrow => ⟨row, hrow, refl_of R row⟩

theorem CommittedFollow.trans {table'' : Table Id Row Tx} (hfirst : table.CommittedFollow R table')
    (hsecond : table'.CommittedFollow R table'') : table.CommittedFollow R table'' := by
  intro id row hrow
  obtain ⟨row', hrow', hR⟩ := hfirst id row hrow
  obtain ⟨row'', hrow'', hR'⟩ := hsecond id row' hrow'
  exact ⟨row'', hrow'', trans_of R hR hR'⟩

theorem committedFollow_of_eq (hsame : table'.committed = table.committed) :
    table.CommittedFollow R table' :=
  fun id row hrow => ⟨row, by rw [hsame, hrow], refl_of R row⟩

variable [DecidableEq Tx]

def visible (table : Table Id Row Tx) (tx : Tx) (id : Id) : Option Row :=
  (table.slot id).map (·.visible tx)

/-- The rows that `matches` in the order in which the database returns them. -/
def select (table : Table Id Row Tx) (tx : Tx) (ids : List Id) (matching : Row → Bool) :
    List (Id × Row) :=
  ids.filterMap fun id => ((table.visible tx id).filter matching).map (id, ·)

def map (table : Table Id Row Tx) (change : Slot Row Tx → Slot Row Tx) : Table Id Row Tx where
  ids := table.ids
  slot id := (table.slot id).map change
  slot_isSome id := by simpa using table.slot_isSome id

def commit (table : Table Id Row Tx) (tx : Tx) : Table Id Row Tx :=
  table.map (·.commit tx)

def rollback (table : Table Id Row Tx) (tx : Tx) : Table Id Row Tx :=
  table.map (·.rollback tx)

theorem commit_spec (hfollows : table.Follows R) (tx : Tx) :
    (table.commit tx).Follows R ∧ table.CommittedFollow R (table.commit tx) := by
  constructor
  · intro id slot hslot
    obtain ⟨before, hbefore, rfl⟩ := Option.map_eq_some_iff.mp hslot
    exact (Slot.commit_spec (hfollows id before hbefore) tx).2
  · intro id row hrow
    obtain ⟨before, hbefore, rfl⟩ := Option.map_eq_some_iff.mp hrow
    refine ⟨(before.commit tx).committed, ?_, (Slot.commit_spec (hfollows id before hbefore) tx).1⟩
    simp [committed, commit, map, hbefore]

omit [IsPreorder Row R] in
theorem rollback_spec (hfollows : table.Follows R) (tx : Tx) :
    (table.rollback tx).Follows R ∧ (table.rollback tx).committed = table.committed := by
  constructor
  · intro id slot hslot
    obtain ⟨before, hbefore, rfl⟩ := Option.map_eq_some_iff.mp hslot
    exact (Slot.rollback_spec (hfollows id before hbefore) tx).2
  · funext id
    cases hslot : table.slot id with
    | none => simp [committed, rollback, map, hslot]
    | some slot =>
        have hsame := (Slot.rollback_spec (hfollows id slot hslot) tx).1
        simp [committed, rollback, map, hslot, hsame]

variable [DecidableEq Id]

def put (table : Table Id Row Tx) (id : Id) (slot : Slot Row Tx)
    (hid : id ∈ table.ids) : Table Id Row Tx where
  ids := table.ids
  slot := Function.update table.slot id (some slot)
  slot_isSome other := by
    by_cases hother : other = id
    · subst hother
      simpa using hid
    · simpa [hother] using table.slot_isSome other

/-- A new row, whose id must be free. -/
def insert (table : Table Id Row Tx) (id : Id) (row : Row) : Option (Table Id Row Tx) :=
  if id ∈ table.ids then none
  else some
    { ids := table.ids ++ [id]
      slot := Function.update table.slot id (some ⟨row, none⟩)
      slot_isSome := fun other => by
        by_cases hother : other = id
        · simp [hother]
        · simpa [hother] using table.slot_isSome other }

/-- A statement on one row: it waits while another transaction has the row
locked, then locks it with the new version where `change` gives one. -/
def write (table : Table Id Row Tx) (tx : Tx) (id : Id) (change : Row → Option Row) :
    Option (Table Id Row Tx) :=
  match hslot : table.slot id with
  | none => some table
  | some slot =>
      if slot.LockableBy tx then
        match change (slot.visible tx) with
        | none => some table
        | some row =>
            some (table.put id (slot.write tx row)
              ((table.slot_isSome id).mp (by rw [hslot]; rfl)))
      else none

theorem write_spec (hfollows : table.Follows R) {tx : Tx} {id : Id} {change : Row → Option Row}
    (hchange : ∀ row row', table.visible tx id = some row → change row = some row' → R row row')
    (hwrite : table.write tx id change = some table') :
    table'.Follows R ∧ table'.committed = table.committed := by
  unfold write at hwrite
  split at hwrite
  · cases hwrite
    exact ⟨hfollows, rfl⟩
  · rename_i slot hslot
    split_ifs at hwrite
    split at hwrite
    · cases hwrite
      exact ⟨hfollows, rfl⟩
    · rename_i row' hrow'
      cases hwrite
      have hR := hchange _ row' (by simp [visible, hslot]) hrow'
      constructor
      · intro other slot' hslot'
        by_cases hother : other = id
        · subst hother
          obtain rfl : slot.write tx row' = slot' := by simpa [put] using hslot'
          exact Slot.follows_write (hfollows other slot hslot) hR
        · exact hfollows other slot' (by simpa [put, hother] using hslot')
      · funext other
        by_cases hother : other = id
        · subst hother
          simp [committed, put, hslot, Slot.write]
        · simp [committed, put, hother]

omit [DecidableEq Tx] in
theorem insert_spec (hfollows : table.Follows R) {id : Id} {row : Row}
    (hinsert : table.insert id row = some table') :
    table'.Follows R ∧ table.CommittedFollow R table' := by
  unfold insert at hinsert
  split_ifs at hinsert with hid
  cases hinsert
  constructor
  · intro other slot hslot
    by_cases hother : other = id
    · subst hother
      obtain rfl : (⟨row, none⟩ : Slot Row Tx) = slot := by simpa using hslot
      exact nofun
    · exact hfollows other slot (by simpa [hother] using hslot)
  · intro other row' hrow'
    have hother : other ≠ id := by
      rintro rfl
      obtain ⟨slot, hslot, -⟩ := Option.map_eq_some_iff.mp hrow'
      exact hid ((table.slot_isSome other).mp (by rw [hslot]; rfl))
    exact ⟨row', by simpa [committed, hother] using hrow', refl_of R row'⟩

/-- Nobody else has the row locked. -/
def Lockable (table : Table Id Row Tx) (tx : Tx) (id : Id) : Prop :=
  ∀ slot ∈ table.slot id, slot.LockableBy tx

instance (table : Table Id Row Tx) (tx : Tx) (id : Id) : Decidable (table.Lockable tx id) :=
  match hslot : table.slot id with
  | none => .isTrue fun slot hmem => by simp [hslot] at hmem
  | some slot =>
      decidable_of_iff (slot.LockableBy tx)
        ⟨fun hlock other hother => by rw [hslot] at hother; cases hother; exact hlock,
          fun hall => hall slot hslot⟩

/-- A new version of a row that the transaction can lock. -/
def set (table : Table Id Row Tx) (tx : Tx) (id : Id) (row : Row) : Table Id Row Tx where
  ids := table.ids
  slot other := if other = id then (table.slot id).map (·.write tx row) else table.slot other
  slot_isSome other := by
    split
    · rename_i hother
      simpa [hother] using table.slot_isSome id
    · exact table.slot_isSome other

omit [DecidableEq Tx] in
@[simp] theorem set_slot_self (table : Table Id Row Tx) (tx : Tx) (id : Id) (row : Row) :
    (table.set tx id row).slot id = (table.slot id).map (·.write tx row) := if_pos rfl

omit [DecidableEq Tx] in
theorem set_slot_of_ne (table : Table Id Row Tx) (tx : Tx) {id other : Id} (row : Row)
    (hne : other ≠ id) : (table.set tx id row).slot other = table.slot other := if_neg hne

omit [DecidableEq Tx] in
@[simp] theorem set_committed (table : Table Id Row Tx) (tx : Tx) (id : Id) (row : Row) :
    (table.set tx id row).committed = table.committed := by
  funext other
  by_cases hother : other = id
  · subst hother
    simp [committed, Function.comp_def, Slot.write]
  · rw [committed, set_slot_of_ne _ _ _ hother, committed]

end Table

end Songmaker.Foundation.RowLocks
