import Mathlib.Data.List.Nodup
import Mathlib.Data.List.Range

/-!
The places `0, …, n - 1` in a circle: the places ahead of one and behind it, the
first of them that meets a predicate, and a round over all that do.
-/

namespace Songmaker.Foundation.CyclicOrder

/-- The place `k` steps ahead of `i`. -/
def ahead (n i k : Nat) : Nat :=
  (i + k) % n

/-- The place `k` steps behind `i`. -/
def behind (n i k : Nat) : Nat :=
  (i + n - k) % n

variable {n i j k : Nat}

theorem ahead_zero (hi : i < n) : ahead n i 0 = i :=
  Nat.mod_eq_of_lt hi

theorem ahead_ahead (n i k l : Nat) : ahead n (ahead n i k) l = ahead n i (k + l) := by
  unfold ahead
  rw [Nat.mod_add_mod, Nat.add_assoc]

theorem ahead_lt (hn : 0 < n) (i k : Nat) : ahead n i k < n :=
  Nat.mod_lt _ hn

theorem behind_lt (hn : 0 < n) (i k : Nat) : behind n i k < n :=
  Nat.mod_lt _ hn

theorem ahead_eq (hi : i < n) (hk : k < n) :
    ahead n i k = if i + k < n then i + k else i + k - n := by
  unfold ahead
  split_ifs with hwrap
  · exact Nat.mod_eq_of_lt hwrap
  · rw [Nat.mod_eq_sub_mod (Nat.le_of_not_lt hwrap), Nat.mod_eq_of_lt (by omega)]

theorem behind_eq (hi : i < n) (hk : k < n) :
    behind n i k = if k ≤ i then i - k else i + n - k := by
  unfold behind
  split_ifs with hwrap
  · rw [show i + n - k = i - k + n by omega, Nat.add_mod_right, Nat.mod_eq_of_lt (by omega)]
  · exact Nat.mod_eq_of_lt (by omega)

theorem exists_ahead (hi : i < n) (hj : j < n) : ∃ k < n, ahead n i k = j := by
  rcases Nat.lt_or_ge j i with hji | hij
  · refine ⟨j + n - i, by omega, ?_⟩
    rw [ahead_eq hi (by omega), if_neg (by omega)]
    omega
  · refine ⟨j - i, by omega, ?_⟩
    rw [ahead_eq hi (by omega), if_pos (by omega)]
    omega

theorem exists_behind (hi : i < n) (hj : j < n) : ∃ k < n, behind n i k = j := by
  rcases Nat.lt_or_ge i j with hij | hji
  · refine ⟨i + n - j, by omega, ?_⟩
    rw [behind_eq hi (by omega), if_neg (by omega)]
    omega
  · refine ⟨i - j, by omega, ?_⟩
    rw [behind_eq hi (by omega), if_pos (by omega)]
    omega

theorem ahead_injective (hi : i < n) {k l : Nat} (hk : k < n) (hl : l < n)
    (h : ahead n i k = ahead n i l) : k = l := by
  rw [ahead_eq hi hk, ahead_eq hi hl] at h
  split_ifs at h
  all_goals omega

/-- `j` is the first of the places `place 1, …, place (n - 1)` that meets `p`. -/
def First (n : Nat) (place : Nat → Nat) (p : Nat → Bool) (j : Nat) : Prop :=
  ∃ k, 0 < k ∧ k < n ∧ place k = j ∧ p j = true ∧
    ∀ l, 0 < l → l < k → p (place l) = false

theorem First.unique {place : Nat → Nat} {p : Nat → Bool} {j j' : Nat}
    (h : First n place p j) (h' : First n place p j') : j = j' := by
  obtain ⟨k, hk, -, rfl, hp, hbefore⟩ := h
  obtain ⟨k', hk', -, rfl, hp', hbefore'⟩ := h'
  rcases Nat.lt_trichotomy k k' with hlt | rfl | hlt
  · exact absurd hp (by rw [hbefore' k hk hlt]; exact Bool.false_ne_true)
  · rfl
  · exact absurd hp' (by rw [hbefore k' hk' hlt]; exact Bool.false_ne_true)

/-- How far the places that meet `p` lie ahead of `i`. -/
def offsets (n i : Nat) (p : Nat → Bool) : List Nat :=
  (List.range n).filter fun k => p (ahead n i k)

/-- The places that meet `p`, once round from `i`. -/
def round (n i : Nat) (p : Nat → Bool) : List Nat :=
  (offsets n i p).map (ahead n i)

variable {p : Nat → Bool}

theorem mem_offsets : k ∈ offsets n i p ↔ k < n ∧ p (ahead n i k) = true := by
  rw [offsets, List.mem_filter, List.mem_range]

theorem offsets_sorted (n i : Nat) (p : Nat → Bool) : (offsets n i p).Pairwise (· < ·) :=
  List.pairwise_lt_range.filter _

theorem length_round (n i : Nat) (p : Nat → Bool) :
    (round n i p).length = (offsets n i p).length :=
  List.length_map _

theorem mem_round (hi : i < n) : j ∈ round n i p ↔ j < n ∧ p j = true := by
  rw [round, List.mem_map]
  constructor
  · rintro ⟨k, hk, rfl⟩
    exact ⟨ahead_lt (Nat.zero_lt_of_lt hi) i k, (mem_offsets.mp hk).2⟩
  · rintro ⟨hj, hp⟩
    obtain ⟨k, hk, rfl⟩ := exists_ahead hi hj
    exact ⟨k, mem_offsets.mpr ⟨hk, hp⟩, rfl⟩

theorem round_nodup (hi : i < n) : (round n i p).Nodup := by
  refine List.Nodup.map_on ?_ ((offsets_sorted n i p).imp Nat.ne_of_lt)
  intro k hk l hl h
  exact ahead_injective hi (mem_offsets.mp hk).1 (mem_offsets.mp hl).1 h

theorem offsets_pos (hi : i < n) (hp : p i = true) : 0 < (offsets n i p).length := by
  refine List.length_pos_of_mem (?_ : 0 ∈ offsets n i p)
  exact mem_offsets.mpr ⟨Nat.zero_lt_of_lt hi, by rwa [ahead_zero hi]⟩

theorem offsets_zero (hi : i < n) (hp : p i = true) (hpos : 0 < (offsets n i p).length) :
    (offsets n i p)[0] = 0 := by
  have hmem : 0 ∈ offsets n i p :=
    mem_offsets.mpr ⟨Nat.zero_lt_of_lt hi, by rwa [ahead_zero hi]⟩
  obtain ⟨m, hm, hzero⟩ := List.getElem_of_mem hmem
  rcases Nat.eq_zero_or_pos m with rfl | hlater
  · exact hzero
  · have hlt := List.pairwise_iff_getElem.mp (offsets_sorted n i p) 0 m hpos hm hlater
    omega

theorem not_between (hm : k + 1 < (offsets n i p).length) {l : Nat}
    (hafter : (offsets n i p)[k] < l) (hbefore : l < (offsets n i p)[k + 1]) :
    p (ahead n i l) = false := by
  by_contra hmeets
  have hbound := (mem_offsets.mp (List.getElem_mem hm)).1
  have hmem : l ∈ offsets n i p :=
    mem_offsets.mpr ⟨by omega, (Bool.not_eq_false _).mp hmeets⟩
  obtain ⟨m, hm', rfl⟩ := List.getElem_of_mem hmem
  have hsorted := List.pairwise_iff_getElem.mp (offsets_sorted n i p)
  have hkm : k < m := by
    by_contra hle
    rcases Nat.lt_or_eq_of_le (Nat.le_of_not_lt hle) with hlt | rfl
    · have := hsorted m k hm' (by omega) hlt
      omega
    · omega
  rcases Nat.lt_or_eq_of_le (show k + 1 ≤ m from hkm) with hlt | rfl
  · have := hsorted (k + 1) m hm hm' hlt
    omega
  · omega

theorem not_after (hk : k < (offsets n i p).length) (hlast : k + 1 = (offsets n i p).length)
    {l : Nat} (hafter : (offsets n i p)[k] < l) (hl : l < n) : p (ahead n i l) = false := by
  by_contra hmeets
  have hmem : l ∈ offsets n i p := mem_offsets.mpr ⟨hl, (Bool.not_eq_false _).mp hmeets⟩
  obtain ⟨m, hm', rfl⟩ := List.getElem_of_mem hmem
  have hsorted := List.pairwise_iff_getElem.mp (offsets_sorted n i p)
  rcases Nat.lt_or_eq_of_le (show m ≤ k by omega) with hlt | rfl
  · have := hsorted m k hm' hk hlt
    omega
  · omega

/-- Each place of the round is followed by the next one, and the last by the first. -/
theorem first_round (hi : i < n) (hp : p i = true) (hk : k < (round n i p).length)
    (hmore : 1 < (round n i p).length)
    (hwrapped : (k + 1) % (round n i p).length < (round n i p).length) :
    First n (ahead n (round n i p)[k]) p
      (round n i p)[(k + 1) % (round n i p).length] := by
  have hlength := length_round n i p
  have hk' : k < (offsets n i p).length := hlength ▸ hk
  have hhere := mem_offsets.mp (List.getElem_mem hk')
  rcases Nat.lt_or_eq_of_le (Nat.succ_le_of_lt hk) with hnext | hlast
  · have hnext' : k + 1 < (offsets n i p).length := hlength ▸ hnext
    have hthere := mem_offsets.mp (List.getElem_mem hnext')
    have hlt := List.pairwise_iff_getElem.mp (offsets_sorted n i p) k (k + 1) hk' hnext'
      (Nat.lt_succ_self k)
    have hplace : (round n i p)[(k + 1) % (round n i p).length] =
        (round n i p)[k + 1] := by
      simp only [Nat.mod_eq_of_lt hnext]
    rw [hplace]
    simp only [round, List.getElem_map]
    refine ⟨(offsets n i p)[k + 1] - (offsets n i p)[k], by omega, by omega, ?_, hthere.2, ?_⟩
    · rw [ahead_ahead, Nat.add_sub_cancel' (Nat.le_of_lt hlt)]
    · intro l hpos hl
      rw [ahead_ahead]
      exact not_between hnext' (by omega) (by omega)
  · have hlast' : k + 1 = (offsets n i p).length := hlast.trans hlength
    have hzero := offsets_zero hi hp (offsets_pos hi hp)
    have hpos : 0 < (offsets n i p)[k] := by
      have := List.pairwise_iff_getElem.mp (offsets_sorted n i p) 0 k (by omega) hk' (by omega)
      omega
    have hplace : (round n i p)[(k + 1) % (round n i p).length] =
        (round n i p)[0] := by
      have hwrap : (k + 1) % (round n i p).length = 0 := hlast ▸ Nat.mod_self _
      simp only [hwrap]
    rw [hplace]
    simp only [round, List.getElem_map, hzero, ahead_zero hi]
    refine ⟨n - (offsets n i p)[k], by omega, by omega, ?_, hp, ?_⟩
    · rw [ahead_ahead, Nat.add_sub_cancel' (Nat.le_of_lt hhere.1), ahead, Nat.add_mod_right,
        Nat.mod_eq_of_lt hi]
    · intro l hl hbefore
      rw [ahead_ahead]
      exact not_after hk' hlast' (by omega) (by omega)

theorem round_pos (hi : i < n) (hp : p i = true) : 0 < (round n i p).length :=
  length_round n i p ▸ offsets_pos hi hp

theorem next_of_round (hi : i < n) (hp : p i = true) (hmore : 1 < (round n i p).length)
    {steps : Nat} (hj : (round n i p)[steps % (round n i p).length]? = some j) :
    ∃ next, (round n i p)[(steps + 1) % (round n i p).length]? = some next ∧
      First n (ahead n j) p next := by
  obtain ⟨hk, hplace⟩ := List.getElem?_eq_some_iff.mp hj
  have hwrapped : (steps % (round n i p).length + 1) % (round n i p).length <
      (round n i p).length := Nat.mod_lt _ (round_pos hi hp)
  have hfirst := first_round hi hp hk hmore hwrapped
  rw [hplace] at hfirst
  refine ⟨_, List.getElem?_eq_getElem (Nat.mod_lt _ (round_pos hi hp)), ?_⟩
  simp only [Nat.mod_add_mod] at hfirst
  exact hfirst

theorem only_of_round (hi : i < n) (hone : (round n i p).length = 1) {steps : Nat}
    (hj : (round n i p)[steps % (round n i p).length]? = some j) {other : Nat}
    (hother : other < n) (hne : other ≠ j) : p other = false := by
  by_contra hmeets
  have hmem := (mem_round hi).mpr ⟨hother, (Bool.not_eq_false _).mp hmeets⟩
  obtain ⟨only, honly⟩ := List.length_eq_one_iff.mp hone
  rw [hone, Nat.mod_one, honly] at hj
  rw [honly, List.mem_singleton] at hmem
  exact hne (hmem.trans (Option.some.inj hj))

theorem round_zero (hi : i < n) (hp : p i = true) :
    (round n i p)[0]? = some i := by
  rw [List.getElem?_eq_getElem (round_pos hi hp)]
  simp only [round, List.getElem_map, offsets_zero hi hp (offsets_pos hi hp), ahead_zero hi]

end Songmaker.Foundation.CyclicOrder
