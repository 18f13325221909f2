import Mathlib.Data.List.Sort
import Mathlib.Tactic.Linarith
import Songmaker.Player.ContinuousDeck

namespace Songmaker.Player.DeckEntries

open Songmaker.Player.ContinuousDeck

variable {Take : Type}

/-! ### Contiguous entries -/

/-- Each entry starts where the one before it ends, the first at `start`. -/
def Contiguous : ℚ → List (DeckEntry Take) → Prop
  | _, [] => True
  | start, entry :: rest => entry.startOffset = start ∧ Contiguous entry.endOffset rest

/-- Where the last of the entries ends. -/
def endOf : ℚ → List (DeckEntry Take) → ℚ
  | start, [] => start
  | _, entry :: rest => endOf entry.endOffset rest

theorem endOf_append (start : ℚ) (first second : List (DeckEntry Take)) :
    endOf start (first ++ second) = endOf (endOf start first) second := by
  induction first generalizing start with
  | nil => rfl
  | cons entry rest ih => exact ih entry.endOffset

theorem contiguous_append (start : ℚ) (first second : List (DeckEntry Take)) :
    Contiguous start (first ++ second) ↔
      Contiguous start first ∧ Contiguous (endOf start first) second := by
  induction first generalizing start with
  | nil => simp [Contiguous, endOf]
  | cons entry rest ih =>
      rw [List.cons_append, Contiguous, Contiguous, ih, endOf, and_assoc]

/-! ### The requests and their entries -/

/-- Every request waits, has its entry, left none or lost it. -/
structure Manifest (entries : List (DeckEntry Take)) (waiting : List Nat)
    (dropped : List (Nat × Reason)) (removed : List Nat) (requested : List Take)
    (appended : Nat → ℚ) : Prop where
  contiguous : Contiguous 0 entries
  positive : ∀ entry ∈ entries, 0 ≤ entry.duration
  ordered : (entries.map (·.id) ++ waiting).Pairwise (· < ·)
  known : ∀ id ∈ entries.map (·.id) ++ waiting, id < requested.length
  covered : ∀ id < requested.length, id ∈ entries.map (·.id) ++ waiting ∨
    id ∈ dropped.map Prod.fst ∨ id ∈ removed
  gone : ∀ id, id ∈ dropped.map Prod.fst ∨ id ∈ removed →
    id < requested.length ∧ id ∉ entries.map (·.id) ++ waiting
  takes : ∀ entry ∈ entries, requested[entry.id]? = some entry.take
  measured : ∀ entry ∈ entries, appended entry.id = entry.duration
  untouched : ∀ id, id ∈ dropped.map Prod.fst ∨ id ∈ waiting ∨ requested.length ≤ id →
    appended id = 0

theorem mem_dropped_concat {dropped : List (Nat × Reason)} {id last : Nat} {reason : Reason} :
    id ∈ (dropped ++ [(last, reason)]).map Prod.fst ↔ id ∈ dropped.map Prod.fst ∨ id = last := by
  rw [List.map_append, List.mem_append]
  simp

section Manifest

variable {entries rest : List (DeckEntry Take)} {waiting : List Nat}
  {dropped : List (Nat × Reason)} {removed : List Nat} {requested : List Take}
  {appended : Nat → ℚ} {id : Nat}

theorem Manifest.waits (h : Manifest entries waiting dropped removed requested appended)
    (take : Take) :
    Manifest entries (waiting ++ [requested.length]) dropped removed (requested ++ [take])
      appended where
  contiguous := h.contiguous
  positive := h.positive
  ordered := by
    rw [← List.append_assoc, List.pairwise_append]
    refine ⟨h.ordered, List.pairwise_singleton _ _, ?_⟩
    intro id hid last hlast
    rw [List.mem_singleton] at hlast
    exact hlast ▸ h.known id hid
  known := by
    intro id hid
    rw [← List.append_assoc, List.mem_append, List.mem_singleton] at hid
    rw [List.length_append, List.length_singleton]
    rcases hid with hid | rfl
    · exact Nat.lt_succ_of_lt (h.known id hid)
    · exact Nat.lt_succ_self _
  covered := by
    intro id hid
    rw [List.length_append, List.length_singleton] at hid
    rw [← List.append_assoc, List.mem_append, List.mem_singleton]
    rcases Nat.lt_succ_iff_lt_or_eq.mp hid with hid | rfl
    · rcases h.covered id hid with hid | hid
      · exact Or.inl (Or.inl hid)
      · exact Or.inr hid
    · exact Or.inl (Or.inr rfl)
  gone := by
    intro id hid
    obtain ⟨hknown, habsent⟩ := h.gone id hid
    rw [List.length_append, List.length_singleton, ← List.append_assoc, List.mem_append,
      List.mem_singleton, not_or]
    exact ⟨Nat.lt_succ_of_lt hknown, habsent, Nat.ne_of_lt hknown⟩
  takes := by
    intro entry hentry
    have htake := h.takes entry hentry
    exact List.getElem?_append_left (List.getElem?_eq_some_iff.mp htake).1 ▸ htake
  measured := h.measured
  untouched := by
    intro id hid
    apply h.untouched
    rw [List.length_append, List.mem_append, List.mem_singleton, List.length_singleton] at hid
    rcases hid with hid | (hid | rfl) | hid
    · exact Or.inl hid
    · exact Or.inr (Or.inl hid)
    · exact Or.inr (Or.inr (Nat.le_refl _))
    · exact Or.inr (Or.inr (Nat.le_of_succ_le hid))

theorem Manifest.rejected (h : Manifest entries waiting dropped removed requested appended)
    (take : Take) (reason : Reason) :
    Manifest entries waiting (dropped ++ [(requested.length, reason)]) removed
      (requested ++ [take]) appended where
  contiguous := h.contiguous
  positive := h.positive
  ordered := h.ordered
  known := by
    intro id hid
    rw [List.length_append, List.length_singleton]
    exact Nat.lt_succ_of_lt (h.known id hid)
  covered := by
    intro id hid
    rw [List.length_append, List.length_singleton] at hid
    rw [mem_dropped_concat]
    rcases Nat.lt_succ_iff_lt_or_eq.mp hid with hid | rfl
    · rcases h.covered id hid with hid | hid | hid
      · exact Or.inl hid
      · exact Or.inr (Or.inl (Or.inl hid))
      · exact Or.inr (Or.inr hid)
    · exact Or.inr (Or.inl (Or.inr rfl))
  gone := by
    intro id hid
    rw [mem_dropped_concat] at hid
    rw [List.length_append, List.length_singleton]
    rcases hid with (hid | rfl) | hid
    · exact ⟨Nat.lt_succ_of_lt (h.gone id (Or.inl hid)).1, (h.gone id (Or.inl hid)).2⟩
    · exact ⟨Nat.lt_succ_self _, fun hmem => Nat.lt_irrefl _ (h.known _ hmem)⟩
    · exact ⟨Nat.lt_succ_of_lt (h.gone id (Or.inr hid)).1, (h.gone id (Or.inr hid)).2⟩
  takes := by
    intro entry hentry
    have htake := h.takes entry hentry
    exact List.getElem?_append_left (List.getElem?_eq_some_iff.mp htake).1 ▸ htake
  measured := h.measured
  untouched := by
    intro id hid
    apply h.untouched
    rw [mem_dropped_concat, List.length_append, List.length_singleton] at hid
    rcases hid with (hid | rfl) | hid | hid
    · exact Or.inl hid
    · exact Or.inr (Or.inr (Nat.le_refl _))
    · exact Or.inr (Or.inl hid)
    · exact Or.inr (Or.inr (Nat.le_of_succ_le hid))

theorem Manifest.begins (h : Manifest entries (id :: waiting) dropped removed requested appended)
    {take : Take} (htake : requested[id]? = some take) :
    Manifest (entries ++ [⟨id, take, endOf 0 entries, 0⟩]) waiting dropped removed requested
      appended := by
  have hids : (entries ++ [(⟨id, take, endOf 0 entries, 0⟩ : DeckEntry Take)]).map (·.id) ++
      waiting = entries.map (·.id) ++ id :: waiting := by
    simp
  refine ⟨?_, ?_, hids ▸ h.ordered, hids ▸ h.known, hids ▸ h.covered, hids ▸ h.gone, ?_, ?_, ?_⟩
  · rw [contiguous_append]
    exact ⟨h.contiguous, rfl, trivial⟩
  · intro entry hentry
    rcases List.mem_append.mp hentry with hentry | hentry
    · exact h.positive entry hentry
    · obtain rfl := List.mem_singleton.mp hentry
      exact le_refl _
  · intro entry hentry
    rcases List.mem_append.mp hentry with hentry | hentry
    · exact h.takes entry hentry
    · obtain rfl := List.mem_singleton.mp hentry
      exact htake
  · intro entry hentry
    rcases List.mem_append.mp hentry with hentry | hentry
    · exact h.measured entry hentry
    · obtain rfl := List.mem_singleton.mp hentry
      exact h.untouched id (Or.inr (Or.inl List.mem_cons_self))
  · intro other hother
    apply h.untouched
    rcases hother with hother | hother | hother
    · exact Or.inl hother
    · exact Or.inr (Or.inl (List.mem_cons_of_mem id hother))
    · exact Or.inr (Or.inr hother)

theorem Manifest.drops {waiting' : List Nat}
    (h : Manifest entries waiting dropped removed requested appended) {kept : List (DeckEntry Take)}
    (hsplit : entries.map (·.id) ++ waiting = kept.map (·.id) ++ id :: waiting')
    (hkept : kept <+: entries) (hzero : appended id = 0)
    (hwaiting : waiting' ⊆ waiting) (reason : Reason) :
    Manifest kept waiting' (dropped ++ [(id, reason)]) removed requested appended := by
  have hordered := h.ordered
  rw [hsplit, List.pairwise_append, List.pairwise_cons] at hordered
  obtain ⟨hbefore, ⟨hafter, hlast⟩, hcross⟩ := hordered
  have hmem : ∀ other, other ∈ entries.map (·.id) ++ waiting ↔
      other ∈ kept.map (·.id) ++ waiting' ∨ other = id := by
    intro other
    rw [hsplit, List.mem_append, List.mem_append, List.mem_cons]
    constructor
    · rintro (hother | rfl | hother)
      · exact Or.inl (Or.inl hother)
      · exact Or.inr rfl
      · exact Or.inl (Or.inr hother)
    · rintro ((hother | hother) | rfl)
      · exact Or.inl hother
      · exact Or.inr (Or.inr hother)
      · exact Or.inr (Or.inl rfl)
  have habsent : id ∉ kept.map (·.id) ++ waiting' := by
    rw [List.mem_append]
    rintro (hid | hid)
    · exact Nat.lt_irrefl _ (hcross id hid id List.mem_cons_self)
    · exact Nat.lt_irrefl _ (hafter id hid)
  obtain ⟨rest, hrest⟩ := hkept
  refine ⟨?_, ?_, ?_, ?_, ?_, ?_, ?_, ?_, ?_⟩
  · have hcontiguous := h.contiguous
    rw [← hrest, contiguous_append] at hcontiguous
    exact hcontiguous.1
  · intro entry hentry
    exact h.positive entry (hrest ▸ List.mem_append_left rest hentry)
  · rw [List.pairwise_append]
    exact ⟨hbefore, hlast, fun first hfirst second hsecond =>
      hcross first hfirst second (List.mem_cons_of_mem id hsecond)⟩
  · intro other hother
    exact h.known other ((hmem other).mpr (Or.inl hother))
  · intro other hother
    rw [mem_dropped_concat]
    rcases h.covered other hother with hcovered | hcovered | hcovered
    · rcases (hmem other).mp hcovered with hkept | rfl
      · exact Or.inl hkept
      · exact Or.inr (Or.inl (Or.inr rfl))
    · exact Or.inr (Or.inl (Or.inl hcovered))
    · exact Or.inr (Or.inr hcovered)
  · intro other hother
    rw [mem_dropped_concat] at hother
    have hgone : other ∈ dropped.map Prod.fst ∨ other ∈ removed →
        other < requested.length ∧ other ∉ kept.map (·.id) ++ waiting' := by
      intro hother
      obtain ⟨hknown, hother⟩ := h.gone other hother
      exact ⟨hknown, fun hkept => hother ((hmem other).mpr (Or.inl hkept))⟩
    rcases hother with (hother | rfl) | hother
    · exact hgone (Or.inl hother)
    · exact ⟨h.known other ((hmem other).mpr (Or.inr rfl)), habsent⟩
    · exact hgone (Or.inr hother)
  · intro entry hentry
    exact h.takes entry (hrest ▸ List.mem_append_left rest hentry)
  · intro entry hentry
    exact h.measured entry (hrest ▸ List.mem_append_left rest hentry)
  · intro other hother
    rw [mem_dropped_concat] at hother
    rcases hother with (hother | rfl) | hother | hother
    · exact h.untouched other (Or.inl hother)
    · exact hzero
    · exact h.untouched other (Or.inr (Or.inl (hwaiting hother)))
    · exact h.untouched other (Or.inr (Or.inr hother))

theorem Manifest.removesAhead (h : Manifest entries waiting dropped removed requested appended)
    (ahead : Nat) :
    Manifest (entries.take ahead) waiting dropped
      (removed ++ (entries.drop ahead).map (·.id)) requested appended := by
  have hids : entries.map (·.id) =
      (entries.take ahead).map (·.id) ++ (entries.drop ahead).map (·.id) := by
    rw [← List.map_append, List.take_append_drop]
  have hordered := h.ordered
  rw [hids, List.append_assoc, List.pairwise_append, List.pairwise_append] at hordered
  obtain ⟨hkept, ⟨-, hwaiting, hbefore⟩, hcross⟩ := hordered
  have hmem : ∀ id, id ∈ (entries.take ahead).map (·.id) → id ∈ entries.map (·.id) := by
    intro id hid
    rw [hids]
    exact List.mem_append_left _ hid
  have hcontiguous := h.contiguous
  rw [← List.take_append_drop ahead entries, contiguous_append] at hcontiguous
  refine ⟨hcontiguous.1, ?_, ?_, ?_, ?_, ?_, ?_, ?_, h.untouched⟩
  · intro entry hentry
    exact h.positive entry (List.mem_of_mem_take hentry)
  · rw [List.pairwise_append]
    exact ⟨hkept, hwaiting, fun first hfirst second hsecond =>
      hcross first hfirst second (List.mem_append_right _ hsecond)⟩
  · intro id hid
    apply h.known
    rcases List.mem_append.mp hid with hid | hid
    · exact List.mem_append_left _ (hmem id hid)
    · exact List.mem_append_right _ hid
  · intro id hid
    rw [List.mem_append, List.mem_append]
    rcases h.covered id hid with hcovered | hcovered | hcovered
    · rw [hids, List.mem_append, List.mem_append] at hcovered
      rcases hcovered with (hcovered | hcovered) | hcovered
      · exact Or.inl (Or.inl hcovered)
      · exact Or.inr (Or.inr (Or.inr hcovered))
      · exact Or.inl (Or.inr hcovered)
    · exact Or.inr (Or.inl hcovered)
    · exact Or.inr (Or.inr (Or.inl hcovered))
  · intro id hid
    have hgone : id ∈ dropped.map Prod.fst ∨ id ∈ removed →
        id < requested.length ∧ id ∉ (entries.take ahead).map (·.id) ++ waiting := by
      intro hid
      obtain ⟨hknown, habsent⟩ := h.gone id hid
      refine ⟨hknown, fun hkept => habsent ?_⟩
      rcases List.mem_append.mp hkept with hkept | hkept
      · exact List.mem_append_left _ (hmem id hkept)
      · exact List.mem_append_right _ hkept
    rw [List.mem_append] at hid
    rcases hid with hid | hid | hid
    · exact hgone (Or.inl hid)
    · exact hgone (Or.inr hid)
    · have hentry : id ∈ entries.map (·.id) := by
        rw [hids]
        exact List.mem_append_right _ hid
      refine ⟨h.known id (List.mem_append_left _ hentry), ?_⟩
      rw [List.mem_append]
      rintro (hother | hother)
      · exact Nat.lt_irrefl _ (hcross id hother id (List.mem_append_left _ hid))
      · exact Nat.lt_irrefl _ (hbefore id hid id hother)
  · intro entry hentry
    exact h.takes entry (List.mem_of_mem_take hentry)
  · intro entry hentry
    exact h.measured entry (List.mem_of_mem_take hentry)

theorem Manifest.grows {entry : DeckEntry Take} {seconds : ℚ}
    (h : Manifest (rest ++ [entry]) waiting dropped removed requested appended)
    (hseconds : 0 ≤ seconds) :
    Manifest (rest ++ [{ entry with duration := entry.duration + seconds }]) waiting dropped
      removed requested
      (Function.update appended entry.id (appended entry.id + seconds)) := by
  have hids : (rest ++ [({ entry with duration := entry.duration + seconds } :
      DeckEntry Take)]).map (·.id) = (rest ++ [entry]).map (·.id) := by
    simp
  have hentry : entry ∈ rest ++ [entry] := List.mem_append_right rest List.mem_cons_self
  have hown : entry.id ∈ (rest ++ [entry]).map (·.id) ++ waiting :=
    List.mem_append_left _ (List.mem_map_of_mem hentry)
  have hordered := h.ordered
  rw [List.map_append, List.append_assoc, List.pairwise_append] at hordered
  obtain ⟨-, hlast, hcross⟩ := hordered
  refine ⟨?_, ?_, hids ▸ h.ordered, hids ▸ h.known, hids ▸ h.covered, hids ▸ h.gone, ?_, ?_, ?_⟩
  · have hcontiguous := h.contiguous
    rw [contiguous_append] at hcontiguous ⊢
    exact ⟨hcontiguous.1, hcontiguous.2.1, trivial⟩
  · intro other hother
    rcases List.mem_append.mp hother with hother | hother
    · exact h.positive other (List.mem_append_left _ hother)
    · obtain rfl := List.mem_singleton.mp hother
      exact add_nonneg (h.positive entry hentry) hseconds
  · intro other hother
    rcases List.mem_append.mp hother with hother | hother
    · exact h.takes other (List.mem_append_left _ hother)
    · obtain rfl := List.mem_singleton.mp hother
      exact h.takes entry hentry
  · intro other hother
    rcases List.mem_append.mp hother with hother | hother
    · have hne : other.id ≠ entry.id :=
        Nat.ne_of_lt (hcross other.id (List.mem_map_of_mem hother) entry.id List.mem_cons_self)
      rw [Function.update_of_ne hne]
      exact h.measured other (List.mem_append_left _ hother)
    · obtain rfl := List.mem_singleton.mp hother
      rw [Function.update_self, h.measured entry hentry]
  · intro other hother
    have hne : other ≠ entry.id := by
      rintro rfl
      rcases hother with hother | hother | hother
      · exact (h.gone _ (Or.inl hother)).2 hown
      · rw [List.map_singleton, List.singleton_append, List.pairwise_cons] at hlast
        exact Nat.lt_irrefl _ (hlast.1 _ hother)
      · exact Nat.not_lt.mpr hother (h.known _ hown)
    rw [Function.update_of_ne hne]
    exact h.untouched other hother

/-- The entries are those of the requests that neither wait nor left none nor lost it. -/
theorem Manifest.ids (h : Manifest entries waiting dropped removed requested appended) :
    entries.map (·.id) = (List.range requested.length).filter fun id =>
      id ∉ waiting ∧ id ∉ dropped.map Prod.fst ∧ id ∉ removed := by
  have hordered := h.ordered
  rw [List.pairwise_append] at hordered
  obtain ⟨hentries, -, hcross⟩ := hordered
  apply hentries.eq_of_mem_iff (List.pairwise_lt_range.filter _)
  intro id
  rw [List.mem_filter, List.mem_range, decide_eq_true_eq]
  constructor
  · intro hid
    have hmem := List.mem_append_left waiting hid
    refine ⟨h.known id hmem, ?_, ?_, ?_⟩
    · exact fun hwaits => Nat.lt_irrefl _ (hcross id hid id hwaits)
    · exact fun hdropped => (h.gone id (Or.inl hdropped)).2 hmem
    · exact fun hremoved => (h.gone id (Or.inr hremoved)).2 hmem
  · rintro ⟨hknown, hwaits, hdropped, hremoved⟩
    rcases h.covered id hknown with hid | hid | hid
    · rcases List.mem_append.mp hid with hid | hid
      · exact hid
      · exact absurd hid hwaits
    · exact absurd hid hdropped
    · exact absurd hid hremoved

end Manifest

end Songmaker.Player.DeckEntries
