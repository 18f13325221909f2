import Mathlib.Data.List.Nodup
import Mathlib.Data.List.Perm.Subperm

/-!
Records as lists of entries whose keys differ, in the order of their entries: reading,
filtering and assigning, and when two records have the same entries.
-/

namespace Songmaker.Foundation.KeyedRecords

/-- A table with one entry for each of its keys. -/
@[ext]
structure Record (κ β : Type*) where
  entries : List (κ × β)
  nodup_keys : (entries.map Prod.fst).Nodup

namespace Record

variable {κ β : Type*}

def empty : Record κ β where
  entries := []
  nodup_keys := List.nodup_nil

/-- The entries that are kept, in their order. -/
def filter (record : Record κ β) (keep : κ → β → Bool) : Record κ β where
  entries := record.entries.filter fun entry => keep entry.1 entry.2
  nodup_keys := record.nodup_keys.sublist (List.filter_sublist.map Prod.fst)

/-- The entries with the key replaced where it stands. -/
def replaced [DecidableEq κ] (key : κ) (value : β) (entry : κ × β) : κ × β :=
  if entry.1 = key then (key, value) else entry

theorem replaced_fst [DecidableEq κ] (key : κ) (value : β) (entry : κ × β) :
    (replaced key value entry).1 = entry.1 := by
  rw [replaced]
  split
  · rename_i hkey
    exact hkey.symm
  · rfl

theorem map_fst_replaced [DecidableEq κ] (key : κ) (value : β) (entries : List (κ × β)) :
    (entries.map (replaced key value)).map Prod.fst = entries.map Prod.fst := by
  rw [List.map_map]
  exact List.map_congr_left fun entry _ => replaced_fst key value entry

theorem nodup_concat {keys : List κ} {key : κ} (hkeys : keys.Nodup) (hkey : key ∉ keys) :
    (keys ++ [key]).Nodup := by
  refine List.nodup_append.mpr ⟨hkeys, List.nodup_singleton key, ?_⟩
  intro other hother added hadded hsame
  obtain rfl := List.mem_singleton.mp hadded
  exact hkey (hsame ▸ hother)

/-- Assigning replaces the value of a key, or adds the entry at the end. -/
def assign [DecidableEq κ] (record : Record κ β) (key : κ) (value : β) : Record κ β :=
  if hkey : key ∈ record.entries.map Prod.fst then
    { entries := record.entries.map (replaced key value)
      nodup_keys := (map_fst_replaced key value record.entries).symm ▸ record.nodup_keys }
  else
    { entries := record.entries ++ [(key, value)]
      nodup_keys := List.map_append ▸ nodup_concat record.nodup_keys hkey }

variable [DecidableEq κ]

def lookup (record : Record κ β) (key : κ) : Option β :=
  record.entries.lookup key

theorem mem_iff (record : Record κ β) (key : κ) (value : β) :
    (key, value) ∈ record.entries ↔ record.lookup key = some value := by
  obtain ⟨entries, hnodup⟩ := record
  change (key, value) ∈ entries ↔ entries.lookup key = some value
  induction entries with
  | nil => exact ⟨fun hmem => absurd hmem List.not_mem_nil, fun hnone => nomatch hnone⟩
  | cons first rest ih =>
      obtain ⟨hfirst, hrest⟩ := List.nodup_cons.mp hnodup
      rw [List.mem_cons, List.lookup_cons]
      by_cases hkey : key = first.1
      · subst hkey
        rw [beq_self_eq_true]
        constructor
        · rintro (hsame | hmem)
          · rw [← hsame]
          · exact absurd (List.mem_map_of_mem (f := Prod.fst) hmem) hfirst
        · intro hvalue
          left
          rw [← Option.some.inj hvalue]
      · rw [beq_eq_false_iff_ne.mpr hkey]
        constructor
        · rintro (hsame | hmem)
          · exact absurd (congrArg Prod.fst hsame) hkey
          · exact (ih hrest).mp hmem
        · intro hvalue
          exact Or.inr ((ih hrest).mpr hvalue)

theorem lookup_of_entries_eq_nil {record : Record κ β} (hnil : record.entries = [])
    (key : κ) : record.lookup key = none := by
  rw [lookup, hnil]
  rfl

theorem lookup_filter (record : Record κ β) (keep : κ → β → Bool) (key : κ) :
    (record.filter keep).lookup key = (record.lookup key).filter (keep key) := by
  apply Option.ext
  intro value
  rw [← mem_iff, Option.filter_eq_some_iff, ← mem_iff]
  exact List.mem_filter

theorem lookup_assign_self (record : Record κ β) (key : κ) (value : β) :
    (record.assign key value).lookup key = some value := by
  rw [← mem_iff, assign]
  split
  · rename_i hkey
    obtain ⟨entry, hentry, hfst⟩ := List.mem_map.mp hkey
    exact List.mem_map.mpr ⟨entry, hentry, if_pos hfst⟩
  · exact List.mem_append_right _ (List.mem_singleton_self _)

theorem lookup_assign_of_ne (record : Record κ β) {key other : κ} (value : β)
    (hne : other ≠ key) : (record.assign key value).lookup other = record.lookup other := by
  apply Option.ext
  intro found
  rw [← mem_iff, ← mem_iff, assign]
  split
  · constructor
    · intro hmem
      obtain ⟨entry, hentry, hreplaced⟩ := List.mem_map.mp hmem
      have hfst := replaced_fst key value entry
      rw [hreplaced] at hfst
      rw [replaced, if_neg fun hkey => hne (hfst.trans hkey)] at hreplaced
      exact hreplaced ▸ hentry
    · intro hmem
      exact List.mem_map.mpr ⟨(other, found), hmem, if_neg hne⟩
  · constructor
    · intro hmem
      rcases List.mem_append.mp hmem with hentry | hadded
      · exact hentry
      · exact absurd (congrArg Prod.fst (List.mem_singleton.mp hadded)) hne
    · exact List.mem_append_left _

omit [DecidableEq κ] in
theorem nodup_entries (record : Record κ β) : record.entries.Nodup :=
  record.nodup_keys.of_map Prod.fst

/-- One record has as many entries as another and every entry of it exactly where all
their keys have the same values. -/
theorem lookup_eq_iff (record other : Record κ β) :
    (∀ key, record.lookup key = other.lookup key) ↔
      record.entries.length = other.entries.length ∧
        ∀ entry ∈ other.entries, record.lookup entry.1 = some entry.2 := by
  constructor
  · intro hsame
    have hperm : record.entries.Perm other.entries := by
      apply (List.perm_ext_iff_of_nodup record.nodup_entries other.nodup_entries).mpr
      rintro ⟨key, value⟩
      rw [mem_iff, mem_iff, hsame key]
    refine ⟨hperm.length_eq, ?_⟩
    rintro ⟨key, value⟩ hentry
    exact (hsame key).trans ((other.mem_iff key value).mp hentry)
  · rintro ⟨hlength, hentries⟩ key
    have hsubset : other.entries ⊆ record.entries := by
      rintro ⟨key, value⟩ hentry
      exact (record.mem_iff key value).mpr (hentries (key, value) hentry)
    have hperm : other.entries.Perm record.entries :=
      (other.nodup_entries.subperm hsubset).perm_of_length_le (Nat.le_of_eq hlength)
    apply Option.ext
    intro value
    rw [← mem_iff, ← mem_iff]
    exact hperm.symm.mem_iff

end Record

end Songmaker.Foundation.KeyedRecords
