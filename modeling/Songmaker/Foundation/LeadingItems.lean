import Mathlib.Data.List.Sort

/-!
The leading items of a merged list: reading as many of each part is enough, and
pages behind one another give the list itself.
-/

namespace Songmaker.Foundation.LeadingItems

universe u

variable {Item : Type u}

theorem take_merge_take (le : Item → Item → Bool) (n : Nat) (first second : List Item) {p q : Nat}
    (hp : n ≤ p) (hq : n ≤ q) :
    ((first.take p).merge (second.take q) le).take n = (first.merge second le).take n := by
  induction n generalizing first second p q with
  | zero => rfl
  | succ n ih =>
      obtain ⟨p, rfl⟩ := Nat.exists_eq_add_of_le' hp
      obtain ⟨q, rfl⟩ := Nat.exists_eq_add_of_le' hq
      cases first with
      | nil => simp [List.take_take]
      | cons a first =>
          cases second with
          | nil => simp [List.take_take]
          | cons b second =>
              have hleft := ih first (b :: second) (p := p + n) (q := q + (n + 1))
                (Nat.le_add_left _ _) (by omega)
              have hright := ih (a :: first) second (p := p + (n + 1)) (q := q + n)
                (by omega) (Nat.le_add_left _ _)
              by_cases hab : le a b = true
              · rw [← Nat.add_assoc, ← Nat.add_assoc, List.take_succ_cons, List.take_succ_cons,
                  List.cons_merge_cons_pos le _ _ hab, List.cons_merge_cons_pos le _ _ hab,
                  List.take_succ_cons, List.take_succ_cons, ← hleft]
                rfl
              · rw [← Nat.add_assoc, ← Nat.add_assoc, List.take_succ_cons, List.take_succ_cons,
                  List.cons_merge_cons_neg le _ _ hab, List.cons_merge_cons_neg le _ _ hab,
                  List.take_succ_cons, List.take_succ_cons, ← hright]
                rfl

variable {le : Item → Item → Prop} [DecidableRel le] [IsTrans Item le] [Std.Total le]
  [Std.Antisymm le]

theorem insertionSort_eq_of_perm {items others : List Item} (h : items.Perm others) :
    items.insertionSort le = others.insertionSort le := by
  have hperm := (List.perm_insertionSort le items).trans
    (h.trans (List.perm_insertionSort le others).symm)
  exact hperm.eq_of_pairwise' (List.pairwise_insertionSort le items)
    (List.pairwise_insertionSort le others)

theorem take_insertionSort_append {first second : List Item} (hfirst : first.Pairwise le)
    (hsecond : second.Pairwise le) (n : Nat) :
    ((first.take n ++ second.take n).insertionSort le).take n =
      ((first ++ second).insertionSort le).take n := by
  have hmerge : ∀ {xs ys : List Item}, xs.Pairwise le → ys.Pairwise le →
      (xs ++ ys).insertionSort le = xs.merge ys fun a b => le a b := by
    intro xs ys hxs hys
    have hperm := (List.perm_insertionSort le (xs ++ ys)).trans
      (@List.merge_perm_append Item (fun a b => decide (le a b)) xs ys).symm
    refine hperm.eq_of_pairwise' (List.pairwise_insertionSort le (xs ++ ys)) ?_
    exact hxs.merge hys
  rw [hmerge (hfirst.sublist (List.take_sublist n first))
    (hsecond.sublist (List.take_sublist n second)), hmerge hfirst hsecond]
  exact take_merge_take _ n first second (Nat.le_refl n) (Nat.le_refl n)

theorem perm_take_add {items taken : List Item} {size : Nat}
    (h : taken.Perm (items.take taken.length)) :
    (taken ++ (items.drop taken.length).take size).Perm (items.take (taken.length + size)) := by
  rw [List.take_add]
  exact h.append_right _

end Songmaker.Foundation.LeadingItems
