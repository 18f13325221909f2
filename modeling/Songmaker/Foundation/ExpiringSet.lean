import Mathlib.Data.List.Nodup
import Mathlib.Data.List.Perm.Basic
import Mathlib.Data.Prod.Basic

/-!
Sorted sets under keys with a deadline, as a Redis script sees them. A set that
has become empty is a key that is gone.
-/

namespace Songmaker.Foundation

universe u

/-- Members with their scores, each member once. -/
structure SortedSet (Member : Type u) where
  entries : List (Member × Nat)
  nodup : (entries.map Prod.fst).Nodup
deriving DecidableEq

namespace SortedSet

variable {Member : Type u}

def empty : SortedSet Member := ⟨[], List.nodup_nil⟩

def card (set : SortedSet Member) : Nat := set.entries.length

/-- `ZREMRANGEBYSCORE` from `-inf`. -/
def removeUpTo (set : SortedSet Member) (bound : Nat) : SortedSet Member where
  entries := set.entries.filter fun entry => bound < entry.2
  nodup := set.nodup.sublist (List.filter_sublist.map Prod.fst)

variable [DecidableEq Member]

/-- `ZREM`. -/
def remove (set : SortedSet Member) (member : Member) : SortedSet Member where
  entries := set.entries.filter fun entry => entry.1 ≠ member
  nodup := set.nodup.sublist (List.filter_sublist.map Prod.fst)

/-- `ZADD`, which moves a member that is already there. -/
def add (set : SortedSet Member) (score : Nat) (member : Member) : SortedSet Member where
  entries := (set.remove member).entries ++ [(member, score)]
  nodup := by
    rw [List.map_append, List.nodup_append]
    refine ⟨(set.remove member).nodup, List.nodup_singleton _, ?_⟩
    rintro first hfirst second hsecond rfl
    obtain ⟨entry, hentry, rfl⟩ := List.mem_map.mp hfirst
    have hne : entry.1 ≠ member := by simpa using (List.mem_filter.mp hentry).2
    exact hne (by simpa using hsecond)

omit [DecidableEq Member] in
@[simp] theorem mem_empty (entry : Member × Nat) :
    entry ∈ (empty : SortedSet Member).entries ↔ False := by
  simp [empty]

omit [DecidableEq Member] in
@[simp] theorem mem_removeUpTo (set : SortedSet Member) (bound : Nat) (entry : Member × Nat) :
    entry ∈ (set.removeUpTo bound).entries ↔ entry ∈ set.entries ∧ bound < entry.2 := by
  simp [removeUpTo]

@[simp] theorem mem_remove (set : SortedSet Member) (member : Member) (entry : Member × Nat) :
    entry ∈ (set.remove member).entries ↔ entry ∈ set.entries ∧ entry.1 ≠ member := by
  simp [remove]

@[simp] theorem mem_add (set : SortedSet Member) (score : Nat) (member : Member)
    (entry : Member × Nat) :
    entry ∈ (set.add score member).entries ↔
      entry ∈ set.entries ∧ entry.1 ≠ member ∨ entry = (member, score) := by
  simp [add]

omit [DecidableEq Member] in
theorem entries_nodup (set : SortedSet Member) : set.entries.Nodup :=
  List.Nodup.of_map _ set.nodup

omit [DecidableEq Member] in
theorem card_eq_length {set : SortedSet Member} {entries : List (Member × Nat)}
    (hnodup : entries.Nodup) (hmem : ∀ entry, entry ∈ set.entries ↔ entry ∈ entries) :
    set.card = entries.length :=
  ((List.perm_ext_iff_of_nodup set.entries_nodup hnodup).mpr hmem).length_eq

end SortedSet

/-- A sorted set under a key that Redis drops at its deadline. -/
structure ExpiringSet (Member : Type u) where
  set : SortedSet Member
  deadline : Nat
deriving DecidableEq

namespace ExpiringSet

variable {Member : Type u}

def missing : ExpiringSet Member := ⟨.empty, 0⟩

/-- What a command finds under the key. -/
def read (key : ExpiringSet Member) (now : Nat) : SortedSet Member :=
  if key.deadline ≤ now then .empty else key.set

/-- No entry outlives the key. -/
def Lasts (key : ExpiringSet Member) : Prop :=
  ∀ entry ∈ key.set.entries, entry.2 ≤ key.deadline

theorem mem_read {key : ExpiringSet Member} (hlasts : key.Lasts) {now : Nat}
    {entry : Member × Nat} (hlater : now < entry.2) :
    entry ∈ (key.read now).entries ↔ entry ∈ key.set.entries := by
  unfold read
  split
  · rename_i hgone
    constructor
    · intro hentry
      exact absurd hentry (by simp)
    · intro hentry
      have := hlasts entry hentry
      omega
  · exact Iff.rfl

theorem mem_of_mem_read {key : ExpiringSet Member} {now : Nat} {entry : Member × Nat}
    (hentry : entry ∈ (key.read now).entries) : entry ∈ key.set.entries := by
  unfold read at hentry
  split at hentry
  · exact absurd hentry (by simp)
  · exact hentry

end ExpiringSet

end Songmaker.Foundation
