import Mathlib.Data.List.Nodup
import Mathlib.Data.List.Perm.Subperm
import Mathlib.Data.List.Range

namespace Songmaker.Foundation.FreeNames

universe u

variable {Name : Type u} {isTaken : Name → Bool} {candidate : Nat → Name}

/-- Tries the candidates from the counter on, at most `fuel` of them. -/
def firstFree (isTaken : Name → Bool) (candidate : Nat → Name) : Nat → Nat → Option Name
  | 0, _ => none
  | fuel + 1, counter =>
      if isTaken (candidate counter) then firstFree isTaken candidate fuel (counter + 1)
      else some (candidate counter)

theorem firstFree_eq_some {fuel counter : Nat} {name : Name}
    (h : firstFree isTaken candidate fuel counter = some name) :
    isTaken name = false ∧ ∃ n, counter ≤ n ∧ name = candidate n := by
  induction fuel generalizing counter with
  | zero => cases h
  | succ fuel ih =>
      unfold firstFree at h
      split at h
      · obtain ⟨hfree, n, hn, hname⟩ := ih h
        exact ⟨hfree, n, Nat.le_of_succ_le hn, hname⟩
      · rename_i hfree
        obtain rfl := Option.some.inj h
        exact ⟨by simpa using hfree, counter, Nat.le_refl counter, rfl⟩

theorem isTaken_of_firstFree_eq_none {fuel counter : Nat}
    (h : firstFree isTaken candidate fuel counter = none) :
    ∀ n ∈ List.range' counter fuel, isTaken (candidate n) = true := by
  induction fuel generalizing counter with
  | zero => simp
  | succ fuel ih =>
      unfold firstFree at h
      split at h
      · rename_i htaken
        rw [List.range'_succ, List.forall_mem_cons]
        exact ⟨htaken, ih h⟩
      · cases h

theorem firstFree_isSome {names : List Name} (hnames : ∀ name, isTaken name = true → name ∈ names)
    {counter : Nat}
    (hinjective : ∀ n m, counter ≤ n → counter ≤ m → candidate n = candidate m → n = m) :
    (firstFree isTaken candidate (names.length + 1) counter).isSome = true := by
  rw [Option.isSome_iff_ne_none]
  intro hnone
  have htaken := isTaken_of_firstFree_eq_none hnone
  have hnodup : ((List.range' counter (names.length + 1)).map candidate).Nodup := by
    refine List.Nodup.map_on (fun n hn m hm hsame => ?_) List.nodup_range'
    exact hinjective n m (List.mem_range'_1.mp hn).1 (List.mem_range'_1.mp hm).1 hsame
  have hsubset : (List.range' counter (names.length + 1)).map candidate ⊆ names := by
    intro name hname
    obtain ⟨n, hn, rfl⟩ := List.mem_map.mp hname
    exact hnames _ (htaken n hn)
  have hlength := (List.subperm_of_subset hnodup hsubset).length_le
  rw [List.length_map, List.length_range'] at hlength
  exact absurd hlength (Nat.not_succ_le_self _)

end Songmaker.Foundation.FreeNames
