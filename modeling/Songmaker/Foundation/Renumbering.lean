import Mathlib.Data.List.Nodup
import Mathlib.Data.List.Perm.Basic
import Mathlib.Data.List.Range
import Mathlib.Data.Prod.Basic

/-!
Rows, each a key with a number, that are numbered anew in the order in which they
were read: only the rows whose number changes are written.
-/

namespace Songmaker.Foundation.Renumbering

universe u

variable {Key : Type u}

/-- The rows to write when the rows read are numbered from `start` on. -/
def renumberFrom (start : Nat) : List (Key × Int) → List (Key × Int)
  | [] => []
  | (key, number) :: rest =>
      if number = start then renumberFrom (start + 1) rest
      else (key, (start : Int)) :: renumberFrom (start + 1) rest

theorem key_mem_of_mem_renumberFrom {start : Nat} {rows : List (Key × Int)} {key : Key}
    {number : Int} (hmem : (key, number) ∈ renumberFrom start rows) :
    key ∈ rows.map Prod.fst := by
  induction rows generalizing start with
  | nil => contradiction
  | cons row rest ih =>
      obtain ⟨first, old⟩ := row
      rw [renumberFrom] at hmem
      split at hmem
      · exact List.mem_cons_of_mem _ (ih hmem)
      · rcases List.mem_cons.mp hmem with hfirst | hrest
        · rw [(Prod.mk.inj hfirst).1]
          exact List.mem_cons_self
        · exact List.mem_cons_of_mem _ (ih hrest)

variable [DecidableEq Key]

/-- What a row's number is after the writes. -/
def written (writes : List (Key × Int)) (row : Key × Int) : Int :=
  (writes.lookup row.1).getD row.2

theorem lookup_renumberFrom_of_not_mem {start : Nat} {rows : List (Key × Int)} {key : Key}
    (hkey : key ∉ rows.map Prod.fst) : (renumberFrom start rows).lookup key = none := by
  rw [List.lookup_eq_none_iff]
  rintro ⟨other, number⟩ hmem
  have hother := key_mem_of_mem_renumberFrom hmem
  simp only [bne_iff_ne, ne_eq]
  rintro rfl
  exact hkey hother

theorem map_written_renumberFrom {start : Nat} {rows : List (Key × Int)}
    (hnodup : (rows.map Prod.fst).Nodup) :
    rows.map (written (renumberFrom start rows)) =
      (List.range' start rows.length).map fun number : Nat => (number : Int) := by
  induction rows generalizing start with
  | nil => rfl
  | cons row rest ih =>
      obtain ⟨key, number⟩ := row
      obtain ⟨hkey, hrest⟩ := List.nodup_cons.mp hnodup
      have hothers : rest.map (written (renumberFrom start ((key, number) :: rest))) =
          rest.map (written (renumberFrom (start + 1) rest)) := by
        apply List.map_congr_left
        rintro ⟨other, old⟩ hother
        have hne : (other == key) = false := by
          rw [beq_eq_false_iff_ne]
          rintro rfl
          exact hkey (List.mem_map.mpr ⟨_, hother, rfl⟩)
        rw [renumberFrom]
        split
        · rfl
        · simp only [written, List.lookup_cons, hne]
      have hfirst : written (renumberFrom start ((key, number) :: rest)) (key, number) = start := by
        rw [renumberFrom]
        split
        · rename_i hnumber
          simp only [written, lookup_renumberFrom_of_not_mem hkey]
          exact hnumber
        · simp [written]
      rw [List.map_cons, hfirst, hothers, ih hrest, List.length_cons, List.range'_succ,
        List.map_cons]

/-- The numbers of the rows are 0 to `n - 1`. -/
def NumbersInOrder (rows : List (Key × Int)) : Prop :=
  (rows.map Prod.snd).Perm ((List.range rows.length).map fun number : Nat => (number : Int))

instance (rows : List (Key × Int)) : Decidable (NumbersInOrder rows) :=
  inferInstanceAs (Decidable (List.Perm _ _))

/-- The rows after the writes, each with its last written number. -/
def writeAll (writes : List (Key × Int)) (rows : List (Key × Int)) : List (Key × Int) :=
  rows.map fun row => (row.1, written writes row)

/-- Rows that still are as they were read are numbered 0 to `n - 1` after the writes. -/
theorem numbersInOrder_writeAll {read rows : List (Key × Int)} (hperm : read.Perm rows)
    (hnodup : (rows.map Prod.fst).Nodup) :
    NumbersInOrder (writeAll (renumberFrom 0 read) rows) := by
  have hread : (read.map Prod.fst).Nodup := ((hperm.map Prod.fst).nodup_iff).mpr hnodup
  have hnumbers : (writeAll (renumberFrom 0 read) rows).map Prod.snd =
      rows.map (written (renumberFrom 0 read)) := by
    rw [writeAll, List.map_map]
    rfl
  rw [NumbersInOrder, hnumbers, writeAll, List.length_map, ← hperm.length_eq,
    List.range_eq_range', ← map_written_renumberFrom hread]
  exact (hperm.map _).symm

omit [DecidableEq Key] in
theorem NumbersInOrder.append {rows : List (Key × Int)} (h : NumbersInOrder rows) {row : Key × Int}
    (hnumber : row.2 = rows.length) : NumbersInOrder (rows ++ [row]) := by
  rw [NumbersInOrder, List.map_append, List.length_append, List.length_singleton,
    List.range_succ, List.map_append, List.map_singleton, List.map_singleton, hnumber]
  exact h.append_right _

end Songmaker.Foundation.Renumbering
