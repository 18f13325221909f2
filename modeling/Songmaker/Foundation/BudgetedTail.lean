import Mathlib.Data.List.Basic

namespace Songmaker.Foundation.BudgetedTail

universe u

variable {α : Type u} (cost : α → Nat) (budget : Nat)

/-- The sum of the costs. -/
def totalCost : List α → Nat
  | [] => 0
  | item :: items => cost item + totalCost items

/-- Takes elements while the budget lasts, the first one whatever it costs. Each
is put before those `selected` earlier, which cost `used`. -/
def takeFitting (selected : List α) (used : Nat) : List α → List α
  | [] => selected
  | item :: rest =>
      if !selected.isEmpty && used + cost item > budget then selected
      else takeFitting (item :: selected) (used + cost item) rest

/-- The longest end of the list within the budget, and its last item in any case. -/
def newestFitting (items : List α) : List α :=
  takeFitting cost budget [] 0 items.reverse

@[simp] theorem totalCost_cons (item : α) (items : List α) :
    totalCost cost (item :: items) = cost item + totalCost cost items := rfl

/-- A selection that a scan may stop with. -/
def Fits (selected : List α) : Prop :=
  totalCost cost selected ≤ budget ∨ selected.length ≤ 1

theorem takeFitting_suffix (items selected : List α) (used : Nat) :
    takeFitting cost budget selected used items <:+ items.reverse ++ selected := by
  induction items generalizing selected used with
  | nil => exact List.suffix_rfl
  | cons item rest ih =>
      rw [takeFitting]
      split
      · exact List.suffix_append _ _
      · simpa using ih (item :: selected) (used + cost item)

theorem takeFitting_fits (items : List α) {selected : List α} {used : Nat}
    (hused : used = totalCost cost selected) (hfits : Fits cost budget selected) :
    Fits cost budget (takeFitting cost budget selected used items) := by
  induction items generalizing selected used with
  | nil => exact hfits
  | cons item rest ih =>
      rw [takeFitting]
      split
      · exact hfits
      · rename_i hroom
        apply ih
        · rw [hused, totalCost_cons, Nat.add_comm]
        · rcases selected with _ | ⟨newest, older⟩
          · exact .inr (Nat.le_refl 1)
          · left
            simp only [List.isEmpty_cons, Bool.not_false, Bool.true_and, gt_iff_lt,
              decide_eq_true_eq, Nat.not_lt] at hroom
            rw [totalCost_cons, ← hused, Nat.add_comm]
            exact hroom

theorem takeFitting_ne_nil (items : List α) {selected : List α} (used : Nat)
    (hselected : selected ≠ []) : takeFitting cost budget selected used items ≠ [] := by
  induction items generalizing selected used with
  | nil => exact hselected
  | cons item rest ih =>
      rw [takeFitting]
      split
      · exact hselected
      · exact ih _ (List.cons_ne_nil _ _)

theorem newestFitting_suffix (items : List α) : newestFitting cost budget items <:+ items := by
  have hsuffix := takeFitting_suffix cost budget items.reverse [] 0
  rwa [List.reverse_reverse, List.append_nil] at hsuffix

theorem newestFitting_fits (items : List α) :
    Fits cost budget (newestFitting cost budget items) :=
  takeFitting_fits cost budget _ rfl (.inl (Nat.zero_le _))

theorem newestFitting_ne_nil {items : List α} (hitems : items ≠ []) :
    newestFitting cost budget items ≠ [] := by
  obtain ⟨older, newest, rfl⟩ := List.eq_nil_or_concat items |>.resolve_left hitems
  rw [newestFitting, List.concat_eq_append, List.reverse_concat, takeFitting, if_neg (by simp)]
  exact takeFitting_ne_nil cost budget _ _ (List.cons_ne_nil _ _)

theorem take_append_newestFitting (items : List α) :
    items.take (items.length - (newestFitting cost budget items).length) ++
      newestFitting cost budget items = items :=
  List.suffix_iff_eq_append.mp (newestFitting_suffix cost budget items)

end Songmaker.Foundation.BudgetedTail
