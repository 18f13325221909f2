import Mathlib.Data.List.Range

namespace Songmaker.Foundation.CheckedLoops

universe u

theorem exists_foldlM_range {State : Type u} {body : State → Nat → Option State}
    (Inv : Nat → State → Prop) {n : Nat} {s : State} (hstart : Inv 0 s)
    (hbody : ∀ k < n, ∀ s, Inv k s → ∃ t, body s k = some t ∧ Inv (k + 1) t) :
    ∃ t, (List.range n).foldlM body s = some t ∧ Inv n t := by
  induction n with
  | zero => exact ⟨s, rfl, hstart⟩
  | succ n ih =>
      obtain ⟨t, hloop, ht⟩ := ih fun k hk => hbody k (hk.trans (Nat.lt_succ_self n))
      obtain ⟨t', hlast, ht'⟩ := hbody n (Nat.lt_succ_self n) t ht
      refine ⟨t', ?_, ht'⟩
      rw [List.range_succ, List.foldlM_append, hloop]
      simpa using hlast

theorem inv_foldl_range {State : Type u} {body : State → Nat → State}
    (Inv : Nat → State → Prop) {n : Nat} {s : State} (hstart : Inv 0 s)
    (hbody : ∀ k < n, ∀ s, Inv k s → Inv (k + 1) (body s k)) :
    Inv n ((List.range n).foldl body s) := by
  induction n with
  | zero => exact hstart
  | succ n ih =>
      have hloop := ih fun k hk => hbody k (hk.trans (Nat.lt_succ_self n))
      rw [List.range_succ, List.foldl_append]
      exact hbody n (Nat.lt_succ_self n) _ hloop

/-- An index that would be negative is `none`. -/
def sub? (a b : Nat) : Option Nat :=
  if b ≤ a then some (a - b) else none

theorem sub?_add (a b : Nat) : sub? (a + b) b = some a := by
  simp [sub?]

end Songmaker.Foundation.CheckedLoops
