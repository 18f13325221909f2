import Songmaker.Jobs.DownloadSlot

namespace Songmaker.Jobs.DownloadSlot

open Songmaker.Foundation
open Songmaker.Foundation.TransitionSystem

/-- At most one job uses the slot, and no mark but its own is there meanwhile. -/
structure Kept (s : State) : Prop where
  alone : ∀ job other, s.Uses job → s.Uses other → job = other
  owned : ∀ job, s.Uses job → ∀ mark ∈ s.mark, mark.owner = job
  left_le : ∀ mark ∈ s.mark, mark.left ≤ downloadTtlSeconds

variable {s : State}

theorem holds_setPoint (s : State) (job other : JobId) (point : Point) :
    (s.setPoint job point).Holds other ↔
      if other = job then point.holds = true else s.Holds other := by
  change (Function.update s.point job (some point) other).any Point.holds = true ↔ _
  by_cases hother : other = job
  · subst hother
    rw [if_pos rfl, Function.update_self]
    rfl
  · rw [if_neg hother, Function.update_of_ne hother]
    rfl

theorem holds_of_point {job : JobId} {point : Point} (hpoint : s.point job = some point)
    (hholds : point.holds = true) : s.Holds job := by
  rw [State.Holds, hpoint]
  exact hholds

theorem kept_idle : Kept idle := by
  have hunused : ∀ job, ¬idle.Uses job := by
    rintro job (hholds | hsent)
    · exact absurd hholds Bool.false_ne_true
    · exact absurd hsent List.not_mem_nil
  refine ⟨?_, ?_, ?_⟩
  · intro job _ hjob
    exact absurd hjob (hunused job)
  · intro job hjob
    exact absurd hjob (hunused job)
  · intro mark hmark
    exact absurd hmark (Option.not_mem_none mark)

namespace Kept

theorem exclusive (h : Kept s) : Exclusive s where
  holder := fun job other hjob hother => h.alone job other (Or.inl hjob) (Or.inl hother)
  deleted := fun job hjob => h.owned job (Or.inr hjob)
  lapses := by
    rw [State.pass]
    rcases hmark : s.mark with _ | mark
    · rfl
    · have hle := h.left_le mark hmark
      rw [Option.filter_some, decide_eq_false (Nat.not_lt.mpr hle)]
      rfl

theorem of_uses (h : Kept s) {next : State} (huses : ∀ job, next.Uses job → s.Uses job)
    (hmark : ∀ mark ∈ next.mark, ∃ before ∈ s.mark, mark.owner = before.owner ∧
      mark.left ≤ before.left) : Kept next where
  alone := fun job other hjob hother => h.alone job other (huses job hjob) (huses other hother)
  owned := by
    intro job hjob mark hnext
    obtain ⟨before, hbefore, howner, -⟩ := hmark mark hnext
    exact howner.trans (h.owned job (huses job hjob) before hbefore)
  left_le := by
    intro mark hnext
    obtain ⟨before, hbefore, -, hle⟩ := hmark mark hnext
    exact Nat.le_trans hle (h.left_le before hbefore)

theorem of_same_mark (h : Kept s) {next : State} (huses : ∀ job, next.Uses job → s.Uses job)
    (hmark : next.mark = s.mark) : Kept next :=
  h.of_uses huses fun mark hnext => ⟨mark, hmark ▸ hnext, rfl, Nat.le_refl mark.left⟩

theorem setPoint (h : Kept s) {job : JobId} {point : Point}
    (hpoint : point.holds = true → s.Holds job) : Kept (s.setPoint job point) := by
  refine h.of_same_mark ?_ rfl
  rintro other (hother | hsent)
  · rw [holds_setPoint] at hother
    split at hother
    · rename_i hsame
      exact Or.inl (hsame ▸ hpoint hother)
    · exact Or.inl hother
  · exact Or.inr hsent

theorem clear (h : Kept s) {job : JobId} (hjob : s.Holds job) : Kept (s.clear job) := by
  refine h.of_same_mark ?_ rfl
  rintro other (hother | hsent)
  · rw [State.clear] at hother
    have hmoved := (holds_setPoint s job other .clearing).mp hother
    split at hmoved
    · exact absurd hmoved (by decide)
    · exact Or.inl hmoved
  · rcases List.mem_cons.mp hsent with rfl | hsent
    · exact Or.inl hjob
    · exact Or.inr hsent

theorem of_taken {job : JobId} (hunused : ∀ other, ¬s.Uses other) {next : State}
    (hholds : ∀ other, next.Holds other → other = job ∨ s.Holds other)
    (hsent : next.deletesSent = s.deletesSent)
    (hmark : next.mark = some ⟨job, downloadTtlSeconds⟩) : Kept next := by
  have husers : ∀ other, next.Uses other → other = job := by
    rintro other (hother | hother)
    · exact (hholds other hother).resolve_right fun hheld => hunused other (Or.inl hheld)
    · exact absurd (Or.inr (hsent ▸ hother)) (hunused other)
  refine ⟨?_, ?_, ?_⟩
  · intro one other hone hother
    exact (husers one hone).trans (husers other hother).symm
  · intro other hother mark hset
    rw [hmark] at hset
    obtain rfl := Option.some.inj hset
    exact (husers other hother).symm
  · intro mark hset
    rw [hmark] at hset
    obtain rfl := Option.some.inj hset
    exact Nat.le_refl downloadTtlSeconds

theorem serveSet (h : Kept s) {job : JobId} (hfree : OnFreeSlot s (.servesSet job)) :
    Kept (s.serveSet job) := by
  rw [State.serveSet]
  split
  · rename_i hmark
    rw [State.answer]
    split
    · refine of_taken (hfree hmark) ?_ rfl rfl
      intro other hother
      rw [holds_setPoint] at hother
      split at hother
      · rename_i hsame
        exact Or.inl hsame
      · exact Or.inr hother
    · exact of_taken (hfree hmark) (fun _ hother => Or.inr hother) rfl rfl
  · have hsent : Kept { s with setsSent := s.setsSent.erase job } :=
      h.of_same_mark (fun _ huses => huses) rfl
    rw [State.answer]
    split
    · exact hsent.setPoint fun hfalse => absurd hfalse (by decide)
    · exact hsent

theorem eraseSent (h : Kept s) (job : JobId) {mark : Option Mark}
    (hmark : mark = s.mark ∨ mark = none) :
    Kept { s with deletesSent := s.deletesSent.erase job, mark := mark } := by
  refine h.of_uses ?_ ?_
  · rintro other (hother | hother)
    · exact Or.inl hother
    · exact Or.inr (List.mem_of_mem_erase hother)
  · intro found hfound
    rcases hmark with hsame | hnone
    · exact ⟨found, hsame ▸ hfound, rfl, Nat.le_refl found.left⟩
    · exact absurd (hnone ▸ hfound) (Option.not_mem_none found)

theorem serveDelete (h : Kept s) (job : JobId) : Kept (s.serveDelete job) := by
  have hserved : Kept { s with deletesSent := s.deletesSent.erase job, mark := none } :=
    h.eraseSent job (Or.inr rfl)
  rw [State.serveDelete, State.answer]
  split
  · exact hserved.setPoint fun hfalse => absurd hfalse (by decide)
  · exact hserved

theorem pass (h : Kept s) (seconds : Nat) : Kept (s.pass seconds) := by
  refine h.of_uses (fun _ huses => huses) ?_
  intro mark hmark
  obtain ⟨before, hbefore, rfl⟩ := Option.map_eq_some_iff.mp hmark
  exact ⟨before, (Option.filter_eq_some_iff.mp hbefore).1, rfl, Nat.sub_le _ _⟩

theorem act (h : Kept s) {action : Action} {next : State} (hok : OnFreeSlot s action)
    (hact : DownloadSlot.act s action = some next) : Kept next := by
  cases action with
  | starts job =>
      obtain ⟨hnew, rfl⟩ := Option.ite_some_none_eq_some.mp hact
      have hmoved : Kept (s.setPoint job .settingSlot) :=
        h.setPoint fun hfalse => absurd hfalse (by decide)
      exact hmoved.of_same_mark (fun _ huses => huses) rfl
  | servesSet job =>
      obtain ⟨-, rfl⟩ := Option.ite_some_none_eq_some.mp hact
      exact h.serveSet hok
  | losesSet job =>
      obtain rfl := Option.some.inj hact
      exact h.of_same_mark (fun _ huses => huses) rfl
  | receives job =>
      rw [DownloadSlot.act] at hact
      split at hact
      · rename_i hpoint
        obtain rfl := Option.some.inj hact
        exact h.setPoint fun _ => holds_of_point hpoint rfl
      · obtain rfl := Option.some.inj hact
        exact h.setPoint fun hfalse => absurd hfalse (by decide)
      · exact absurd hact (Option.some_ne_none next).symm
  | slotRead job =>
      obtain ⟨-, rfl⟩ := Option.ite_some_none_eq_some.mp hact
      exact h.setPoint fun hfalse => absurd hfalse (by decide)
  | attemptEnds job retryable =>
      rw [DownloadSlot.act] at hact
      split at hact
      · rename_i attempt hpoint
        have hholds : s.Holds job := holds_of_point hpoint rfl
        split at hact
        · obtain rfl := Option.some.inj hact
          exact h.setPoint fun _ => hholds
        · obtain rfl := Option.some.inj hact
          exact h.clear hholds
      · exact absurd hact (Option.some_ne_none next).symm
  | wakes job =>
      rw [DownloadSlot.act] at hact
      split at hact
      · rename_i attempt hpoint
        obtain rfl := Option.some.inj hact
        exact h.setPoint fun _ => holds_of_point hpoint rfl
      · exact absurd hact (Option.some_ne_none next).symm
  | interrupted job =>
      obtain ⟨point, hpoint, rfl⟩ := Option.map_eq_some_iff.mp hact
      cases point with
      | attempting attempt => exact h.clear (holds_of_point hpoint rfl)
      | sleeping attempt => exact h.clear (holds_of_point hpoint rfl)
      | _ => exact h.setPoint fun hfalse => absurd hfalse (by decide)
  | servesDelete job =>
      obtain ⟨-, rfl⟩ := Option.ite_some_none_eq_some.mp hact
      exact h.serveDelete job
  | losesDelete job =>
      obtain rfl := Option.some.inj hact
      exact h.eraseSent job (Or.inl rfl)
  | finishes job =>
      obtain ⟨-, rfl⟩ := Option.ite_some_none_eq_some.mp hact
      exact h.setPoint fun hfalse => absurd hfalse (by decide)
  | dies job =>
      obtain ⟨point, -, rfl⟩ := Option.map_eq_some_iff.mp hact
      exact h.setPoint fun hfalse => absurd hfalse (by decide)
  | passes seconds =>
      obtain rfl := Option.some.inj hact
      exact h.pass seconds

end Kept

/-- In every run in which no job takes the slot on a lapsed mark while another one uses it,
the slot is exclusive in every state. -/
theorem exclusive_of_free {run : List (Action × State)} (hrun : slotSystem.IsRun idle run)
    (hfree : StepsMeet OnFreeSlot idle run) : ∀ t ∈ visited idle run, Exclusive t := by
  have hkeeps : ∀ s a t, Kept s → slotSystem.step s a t → OnFreeSlot s a → Kept t :=
    fun s a t h hstep hok => h.act hok hstep
  intro t ht
  exact (forall_visited_of_stepsMeet hkeeps kept_idle hrun hfree t ht).exclusive

/-- A download that is retried once, and a second job that is refused meanwhile. -/
def retriedOnce : List Action :=
  [.starts 0, .servesSet 0, .receives 0, .attemptEnds 0 true, .starts 1, .servesSet 1,
    .receives 1, .passes 5, .wakes 0, .slotRead 1, .passes 1000, .attemptEnds 0 false,
    .servesDelete 0, .finishes 0]

theorem not_uses_started (job : JobId) :
    ¬({ idle.setPoint 0 .settingSlot with setsSent := [0] } : State).Uses job := by
  rintro (hholds | hsent)
  · have hmoved := (holds_setPoint idle 0 job .settingSlot).mp hholds
    split at hmoved
    · exact absurd hmoved (by decide)
    · exact absurd hmoved Bool.false_ne_true
  · exact absurd hsent List.not_mem_nil

theorem exclusive_of_free_retriedOnce :
    Exclusive (lastOf idle (follow act idle retriedOnce)) := by
  refine exclusive_of_free (isRun_follow _ _ _ _) ?_ _ (lastOf_mem_visited _ _)
  refine ⟨trivial, fun _ => not_uses_started, trivial, trivial, trivial, ?_, trivial, trivial,
    trivial, trivial, trivial, trivial, trivial, trivial, trivial⟩
  intro hnone
  exact absurd hnone (Option.some_ne_none _)

/-- A download that runs for more than half an hour, and a second one that then starts. -/
def outlived : List Action :=
  [.starts 0, .servesSet 0, .receives 0, .passes 1800, .starts 1, .servesSet 1, .receives 1]

theorem lapsed_slot_taken_twice :
    ¬ ∀ s, slotSystem.Reachable s → Exclusive s := by
  intro hall
  have hstart : slotSystem.Reachable idle := .initial rfl
  have hboth := (hall _ (reachable_follow hstart outlived)).holder 0 1 (by decide +kernel)
    (by decide +kernel)
  exact absurd hboth (by decide)

end Songmaker.Jobs.DownloadSlot
