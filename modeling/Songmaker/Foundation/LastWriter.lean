import Mathlib.Data.List.Basic
import Mathlib.Data.List.Induction

/-!
Cells that are written one after another. A write says of each cell what becomes of its
value, or leaves the cell alone; what a cell holds is then said by the last write of it.
-/

namespace Songmaker.Foundation.LastWriter

universe u v w

variable {Cell : Type u} {Value : Type v} {Source : Type w}

/-- What a write puts into each cell, where it puts anything. -/
abbrev Write (Cell : Type u) (Value : Type v) := Cell → Option Value

/-- The store after the write. -/
def Write.apply (write : Write Cell Value) (store : Cell → Value) : Cell → Value :=
  fun cell => (write cell).getD (store cell)

/-- What the last of the sources tells that has something to tell. -/
def last (tells : Source → Option Value) (sources : List Source) : Option Value :=
  sources.reverse.findSome? tells

theorem last_concat (tells : Source → Option Value) (sources : List Source) (source : Source) :
    last tells (sources ++ [source]) = (tells source).or (last tells sources) := by
  rw [last, List.reverse_append, List.reverse_singleton, List.singleton_append,
    List.findSome?_cons]
  cases tells source with
  | none => rfl
  | some value => rfl

theorem last_map {Other : Type*} (tells : Source → Option Value) (f : Value → Other)
    (sources : List Source) :
    last (fun source => (tells source).map f) sources = (last tells sources).map f := by
  induction sources using List.reverseRecOn with
  | nil => rfl
  | append_singleton sources source ih =>
      rw [last_concat, last_concat, ih]
      cases tells source with
      | none => rfl
      | some value => rfl

theorem last_apply (write : Source → Write Cell Value) (sources : List Source)
    (source : Source) (store : Cell → Value) (cell : Cell) :
    (write source).apply
        (fun other => (last (fun earlier => write earlier other) sources).getD (store other)) cell =
      (last (fun earlier => write earlier cell) (sources ++ [source])).getD (store cell) := by
  rw [last_concat, Write.apply]
  cases write source cell with
  | none => rfl
  | some value => rfl

end Songmaker.Foundation.LastWriter
