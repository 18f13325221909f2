import Mathlib.Data.List.Sort

/-!
Keyset pagination over a linear order: a page is what follows the last item of
the page before it. Two sorted tables may be cut to one item more than the page
before they are merged.
-/

namespace Songmaker.Foundation.Keyset

section Merging

variable {α : Type}

theorem take_merge_take (le : α → α → Bool) (l r : List α) {n k m : Nat} (hk : n ≤ k)
    (hm : n ≤ m) :
    (List.merge (l.take k) (r.take m) le).take n = (List.merge l r le).take n := by
  induction n generalizing l r k m with
  | zero => simp
  | succ n ih =>
      obtain ⟨k, rfl⟩ : ∃ k', k = k' + 1 := ⟨k - 1, by omega⟩
      obtain ⟨m, rfl⟩ : ∃ m', m = m' + 1 := ⟨m - 1, by omega⟩
      cases l with
      | nil => simp [List.take_take, Nat.min_eq_left hm]
      | cons x l =>
          cases r with
          | nil => simp [List.take_take, Nat.min_eq_left (Nat.le_of_succ_le_succ hk)]
          | cons y r =>
              simp only [List.take_succ_cons, List.cons_merge_cons]
              split_ifs
              · have hrest := ih l (y :: r) (Nat.le_of_succ_le_succ hk)
                  ((Nat.le_of_succ_le_succ hm).trans (Nat.le_succ m))
                rw [List.take_succ_cons] at hrest
                rw [List.take_succ_cons, List.take_succ_cons, hrest]
              · have hrest := ih (x :: l) r ((Nat.le_of_succ_le_succ hk).trans (Nat.le_succ k))
                  (Nat.le_of_succ_le_succ hm)
                rw [List.take_succ_cons] at hrest
                rw [List.take_succ_cons, List.take_succ_cons, hrest]

theorem lt_length_merge_take (le : α → α → Bool) (l r : List α) (n : Nat) :
    n < (List.merge (l.take (n + 1)) (r.take (n + 1)) le).length ↔
      n < (List.merge l r le).length := by
  have htake := congrArg List.length (take_merge_take le l r (le_refl (n + 1)) (le_refl (n + 1)))
  rw [List.length_take, List.length_take] at htake
  omega

end Merging

variable {α K : Type} [LinearOrder K] (key : α → K)

/-- The order of the rows, by their keys. -/
def before (a b : α) : Bool :=
  decide (key a < key b)

/-- The keys go up strictly. -/
def Sorted (rows : List α) : Prop :=
  rows.Pairwise fun a b => key a < key b

variable {key}

theorem Sorted.eq_of_perm {l r : List α} (hl : Sorted key l) (hr : Sorted key r)
    (hperm : l.Perm r) : l = r :=
  hperm.eq_of_pairwise (fun _ _ _ _ hab hba => absurd hab (lt_asymm hba)) hl hr

theorem Sorted.filter {l : List α} (hl : Sorted key l) (p : α → Bool) : Sorted key (l.filter p) :=
  List.Pairwise.filter p hl

theorem Sorted.merge {l r : List α} (hl : Sorted key l) (hr : Sorted key r)
    (hne : ∀ a ∈ l, ∀ b ∈ r, key a ≠ key b) : Sorted key (List.merge l r (before key)) := by
  induction l generalizing r with
  | nil => simpa using hr
  | cons x l ihl =>
      induction r with
      | nil => simpa using hl
      | cons y r ihr =>
          obtain ⟨hx, hl'⟩ := List.pairwise_cons.mp hl
          obtain ⟨hy, hr'⟩ := List.pairwise_cons.mp hr
          rw [List.cons_merge_cons]
          by_cases hxy : key x < key y
          · have hbefore : before key x y = true := decide_eq_true hxy
            rw [if_pos hbefore]
            refine List.pairwise_cons.mpr ⟨?_, ?_⟩
            · intro z hz
              rcases List.mem_merge.mp hz with hz | hz
              · exact hx z hz
              · rcases List.mem_cons.mp hz with rfl | hz
                · exact hxy
                · exact hxy.trans (hy z hz)
            · exact ihl hl' hr fun a ha => hne a (List.mem_cons_of_mem _ ha)
          · have hyx : key y < key x :=
              lt_of_le_of_ne (not_lt.mp hxy)
                (hne x List.mem_cons_self y List.mem_cons_self).symm
            have hnot : ¬ before key x y = true := by simpa [before] using hxy
            rw [if_neg hnot]
            refine List.pairwise_cons.mpr ⟨?_, ?_⟩
            · intro z hz
              rcases List.mem_merge.mp hz with hz | hz
              · rcases List.mem_cons.mp hz with rfl | hz
                · exact hyx
                · exact hyx.trans (hx z hz)
              · exact hy z hz
            · exact ihr hr' fun a ha b hb => hne a ha b (List.mem_cons_of_mem _ hb)

theorem filter_merge {l r : List α} (hl : Sorted key l) (hr : Sorted key r)
    (hne : ∀ a ∈ l, ∀ b ∈ r, key a ≠ key b) (p : α → Bool) :
    (List.merge l r (before key)).filter p =
      List.merge (l.filter p) (r.filter p) (before key) := by
  apply Sorted.eq_of_perm ((hl.merge hr hne).filter p)
  · apply (hl.filter p).merge (hr.filter p)
    intro a ha b hb
    exact hne a (List.mem_of_mem_filter ha) b (List.mem_of_mem_filter hb)
  · have hmerge := (List.merge_perm_append (before key) :
      (List.merge l r (before key)).Perm (l ++ r)).filter p
    rw [List.filter_append] at hmerge
    exact hmerge.trans (List.merge_perm_append (before key)).symm

variable (key)

/-- What is still to be shown after an item. -/
def remaining (rows : List α) : Option α → List α
  | none => rows
  | some last => rows.filter (before key last)

/-- The items of a page, and whether more follow. -/
def keysetPage (rows : List α) (limit : Nat) (after : Option α) : List α × Bool :=
  ((remaining key rows after).take limit, decide (limit < (remaining key rows after).length))

/-- The pages from one cursor to the end, each cursor being the last item of the
page before it. -/
inductive Pages (page : Option α → List α × Bool) : Option α → List (List α) → Prop where
  | last {after : Option α} {items : List α} (hpage : page after = (items, false)) :
      Pages page after [items]
  | next {after : Option α} {items : List α} {last : α} {pages : List (List α)}
      (hpage : page after = (items, true)) (hlast : items.getLast? = some last)
      (hrest : Pages page (some last) pages) : Pages page after (items :: pages)

variable {key}

theorem filter_before_append {rows rest : List α} {last : α}
    (h : Sorted key (rows ++ last :: rest)) :
    (rows ++ last :: rest).filter (before key last) = rest := by
  obtain ⟨-, htail, hrows⟩ := List.pairwise_append.mp h
  obtain ⟨hlast, -⟩ := List.pairwise_cons.mp htail
  have hnone : rows.filter (before key last) = [] := by
    rw [List.filter_eq_nil_iff]
    intro a ha
    simpa [before] using (hrows a ha last List.mem_cons_self).le
  have hall : rest.filter (before key last) = rest := by
    rw [List.filter_eq_self]
    intro b hb
    exact decide_eq_true (hlast b hb)
  rw [List.filter_append, hnone, List.nil_append, List.filter_cons_of_neg, hall]
  simp [before]

theorem exists_pages_from {rows : List α} (hrows : Sorted key rows) {limit : Nat}
    (hlimit : 0 < limit) {after : Option α} {shown : List α}
    (hshown : shown ++ remaining key rows after = rows) :
    ∃ pages, Pages (keysetPage key rows limit) after pages ∧
      pages.flatten = remaining key rows after := by
  induction hlength : (remaining key rows after).length using Nat.strongRecOn
    generalizing after shown with
  | ind n ih =>
      by_cases hmore : limit < (remaining key rows after).length
      · have hpos : 0 < ((remaining key rows after).take limit).length := by
          rw [List.length_take]
          omega
        obtain ⟨last, hlast⟩ := List.getLast?_isSome.mpr
          (List.ne_nil_of_length_pos hpos) |> Option.isSome_iff_exists.mp
        obtain ⟨items, hitems⟩ := List.getLast?_eq_some_iff.mp hlast
        have hsplit : remaining key rows after =
            items ++ last :: (remaining key rows after).drop limit := by
          calc
            remaining key rows after =
                (remaining key rows after).take limit ++ (remaining key rows after).drop limit :=
              (List.take_append_drop limit _).symm
            _ = items ++ last :: (remaining key rows after).drop limit := by
              rw [hitems, List.append_assoc]
              rfl
        have hall : rows = (shown ++ items) ++ last :: (remaining key rows after).drop limit := by
          rw [List.append_assoc, ← hsplit, hshown]
        have hnext : remaining key rows (some last) = (remaining key rows after).drop limit := by
          have hsorted := hrows
          rw [hall] at hsorted
          conv_lhs => rw [remaining, hall]
          exact filter_before_append hsorted
        have hshorter : (remaining key rows (some last)).length < n := by
          rw [hnext, List.length_drop, ← hlength]
          omega
        have hshown' : (shown ++ items ++ [last]) ++ remaining key rows (some last) = rows := by
          rw [hnext, List.append_assoc]
          exact hall.symm
        obtain ⟨pages, hpages, hflatten⟩ := ih _ hshorter hshown' rfl
        refine ⟨(remaining key rows after).take limit :: pages,
          .next ?_ hlast hpages, ?_⟩
        · exact Prod.ext rfl (decide_eq_true hmore)
        · rw [List.flatten_cons, hflatten, hnext, List.take_append_drop]
      · refine ⟨[remaining key rows after], .last ?_, by simp⟩
        refine Prod.ext ?_ (decide_eq_false hmore)
        exact List.take_of_length_le (not_lt.mp hmore)

theorem exists_pages {rows : List α} (hrows : Sorted key rows) {limit : Nat} (hlimit : 0 < limit) :
    ∃ pages, Pages (keysetPage key rows limit) none pages ∧ pages.flatten = rows :=
  exists_pages_from hrows hlimit (List.nil_append rows)

end Songmaker.Foundation.Keyset
