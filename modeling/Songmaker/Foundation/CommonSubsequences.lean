import Mathlib.Data.List.Basic
import Mathlib.Order.Bounds.Basic
import Mathlib.Order.MinMax

namespace Songmaker.Foundation

variable {α : Type*} [DecidableEq α]

/-- By comparing the heads. -/
def commonLength : List α → List α → Nat
  | [], _ => 0
  | _ :: _, [] => 0
  | x :: xs, y :: ys =>
      if x = y then commonLength xs ys + 1
      else max (commonLength xs (y :: ys)) (commonLength (x :: xs) ys)

@[simp] theorem commonLength_nil_left (ys : List α) : commonLength [] ys = 0 := by
  rw [commonLength]

@[simp] theorem commonLength_nil_right (xs : List α) : commonLength xs [] = 0 := by
  cases xs with
  | nil => rw [commonLength]
  | cons x xs => rw [commonLength]

theorem exists_common_of_commonLength (xs ys : List α) :
    ∃ common, List.Sublist common xs ∧ List.Sublist common ys ∧
      common.length = commonLength xs ys := by
  induction xs, ys using commonLength.induct with
  | case1 ys => exact ⟨[], List.nil_sublist _, List.nil_sublist _, by simp⟩
  | case2 x xs => exact ⟨[], List.nil_sublist _, List.nil_sublist _, by simp⟩
  | case3 xs y ys ih =>
      obtain ⟨common, hxs, hys, hlength⟩ := ih
      refine ⟨y :: common, hxs.cons_cons y, hys.cons_cons y, ?_⟩
      rw [commonLength, if_pos rfl, List.length_cons, hlength]
  | case4 x xs y ys hne ihx ihy =>
      rw [commonLength, if_neg hne]
      rcases max_choice (commonLength xs (y :: ys)) (commonLength (x :: xs) ys) with hmax | hmax
      · obtain ⟨common, hxs, hys, hlength⟩ := ihx
        exact ⟨common, hxs.cons x, hys, hlength.trans hmax.symm⟩
      · obtain ⟨common, hxs, hys, hlength⟩ := ihy
        exact ⟨common, hxs, hys.cons y, hlength.trans hmax.symm⟩

theorem length_le_commonLength {common xs ys : List α} (hxs : List.Sublist common xs)
    (hys : List.Sublist common ys) : common.length ≤ commonLength xs ys := by
  induction xs, ys using commonLength.induct generalizing common with
  | case1 ys => simp [List.sublist_nil.mp hxs]
  | case2 x xs => simp [List.sublist_nil.mp hys]
  | case3 xs y ys ih =>
      have htail : common.tail.length ≤ commonLength xs ys := ih hxs.tail hys.tail
      rw [commonLength, if_pos rfl]
      rw [List.length_tail] at htail
      omega
  | case4 x xs y ys hne ihx ihy =>
      rw [commonLength, if_neg hne]
      cases hxs with
      | cons _ hxs => exact le_max_of_le_left (ihx hxs hys)
      | cons_cons _ hxs =>
          cases hys with
          | cons _ hys => exact le_max_of_le_right (ihy (hxs.cons_cons x) hys)
          | cons_cons _ hys => exact absurd rfl hne

theorem isGreatest_commonLength (xs ys : List α) :
    IsGreatest {n | ∃ common, List.Sublist common xs ∧ List.Sublist common ys ∧
      common.length = n} (commonLength xs ys) := by
  refine ⟨exists_common_of_commonLength xs ys, ?_⟩
  rintro n ⟨common, hxs, hys, rfl⟩
  exact length_le_commonLength hxs hys

theorem commonLength_reverse (xs ys : List α) :
    commonLength xs.reverse ys.reverse = commonLength xs ys := by
  apply le_antisymm
  · obtain ⟨common, hxs, hys, hlength⟩ := exists_common_of_commonLength xs.reverse ys.reverse
    rw [← hlength, ← List.length_reverse]
    exact length_le_commonLength (List.sublist_reverse_iff.mp hxs) (List.sublist_reverse_iff.mp hys)
  · obtain ⟨common, hxs, hys, hlength⟩ := exists_common_of_commonLength xs ys
    rw [← hlength, ← List.length_reverse]
    exact length_le_commonLength hxs.reverse hys.reverse

end Songmaker.Foundation
