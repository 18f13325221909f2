import Songmaker.Jobs.JobTracking

/-!
A followed job is heard of in one way at a time, one that is not followed in none, and
its end is announced once, as long as no job is followed anew whose end was announced or
whose record is still being read.
-/

namespace Songmaker.Jobs.JobTracking

open Songmaker.Foundation
open Songmaker.Foundation.TransitionSystem

namespace Page

variable (page : Page) (jobId : String)

def streamsOf : Nat :=
  page.live.countP fun stream => stream.jobId = jobId

def pendingsOf : Nat :=
  page.pendingReconnects.countP fun entry => entry.1 = jobId

def rereadsOf : Nat :=
  page.rereads.countP fun reread => reread.jobId = jobId

def announcementsOf : Nat :=
  page.announced.countP fun entry => entry.1 = jobId

end Page

/-- A job that is followed is heard of in one way at most, and announced once at most. -/
structure HeardOneWay (page : Page) : Prop where
  followed : ∀ jobId, page.isTracked jobId = true →
    page.streamsOf jobId + page.pendingsOf jobId + page.rereadsOf jobId ≤ 1
  left : ∀ jobId, page.isTracked jobId = false →
    page.streamsOf jobId = 0 ∧ page.pendingsOf jobId = 0
  /-- The answer of a reading whose job is no longer followed changes nothing. -/
  late : ∀ reread ∈ page.rereads, page.isTracked reread.jobId = false → ∀ answer,
    page.rereadAnswered reread answer = { page with rereads := page.rereads.erase reread }
  announced : ∀ jobId, page.announcementsOf jobId ≤ 1

/-- The end of the job was not announced, and its record is not being read. -/
def Page.NewToPage (page : Page) (jobId : String) : Prop :=
  page.isTracked jobId = false → page.announcementsOf jobId = 0 ∧ page.rereadsOf jobId = 0

/-- The step follows no job that the page has followed before. -/
def TracksOnce (page : Page) : Action → Prop
  | .trackJob job _ => page.NewToPage job.id
  | .hydrationAnswered _ job => ∀ found ∈ job, page.NewToPage found.id
  | _ => True

instance (page : Page) (jobId : String) : Decidable (page.NewToPage jobId) :=
  inferInstanceAs (Decidable (_ → _))

instance (page : Page) : (a : Action) → Decidable (TracksOnce page a)
  | .trackJob job _ => inferInstanceAs (Decidable (page.NewToPage job.id))
  | .hydrationAnswered _ job =>
      inferInstanceAs (Decidable (∀ found ∈ job, page.NewToPage found.id))
  | .removeJob _ | .hydrateActiveGeneration _ | .streamOpened _ | .streamSpoke .. |
    .streamFailed _ | .backoffEnds _ | .reconnectOpportunity _ | .connectivity _ |
    .rereadAnswered .. | .songRefreshed _ | .songRefreshFails _ | .backOnline _ |
    .waitRefreshed _ | .waitBoundEnds _ => inferInstanceAs (Decidable True)

/-- How a job stands: whether it is followed, the ways that it is heard of, the announcements
of its end, and whether it waits for its takes. -/
structure Standing (followed : Bool) (streams pendings rereads announcements : Nat)
    (awaits : Bool) : Prop where
  ways : streams + pendings + rereads ≤ 1
  tracked : 0 < streams + pendings → followed = true
  silent : followed = true → announcements = 0
  once : announcements ≤ 1
  waiting : awaits = true → followed = true ∧ streams + pendings + rereads = 0

/-- The counts of what is heard of each job, in step with the tables of the store. -/
structure Inv (page : Page) : Prop where
  standing : ∀ jobId, Standing (page.isTracked jobId) (page.streamsOf jobId)
    (page.pendingsOf jobId) (page.rereadsOf jobId) (page.announcementsOf jobId)
    (page.takeArrivalWaits jobId).isSome
  mapped : ∀ stream ∈ page.live, page.eventSources stream.jobId = some stream.id
  waits : ∀ wait ∈ page.waits, (wait.watching || wait.bound) = true →
    page.takeArrivalWaits wait.job.id = some wait.id
  fresh : ∀ wait ∈ page.waits, wait.id < page.nextRef

theorem Standing.mono {followed awaits : Bool} {s p r s' p' r' a : Nat}
    (h : Standing followed s p r a awaits) (hs : s' ≤ s) (hp : p' ≤ p) (hr : r' ≤ r) :
    Standing followed s' p' r' a awaits where
  ways := by
    have hways := h.ways
    omega
  tracked := fun hsome => h.tracked (by omega)
  silent := h.silent
  once := h.once
  waiting := fun hwaiting => by
    obtain ⟨htracked, hnone⟩ := h.waiting hwaiting
    exact ⟨htracked, by omega⟩

theorem Inv.heardOneWay {page : Page} (h : Inv page) : HeardOneWay page where
  followed := fun jobId _ => (h.standing jobId).ways
  left := by
    intro jobId hleft
    have hnone : ¬0 < page.streamsOf jobId + page.pendingsOf jobId := by
      intro hsome
      exact absurd ((h.standing jobId).tracked hsome) (by simp [hleft])
    omega
  late := by
    intro reread _ hleft answer
    unfold Page.rereadAnswered
    rw [hleft]
    rfl
  announced := fun jobId => (h.standing jobId).once

/-! ### What the calls change -/

section Calls

variable (page : Page) (jobId other : String)

theorem isTracked_updateActive {change : ActiveJob → ActiveJob}
    (hid : ∀ active, (change active).job.id = jobId ∨ (change active).job.id = active.job.id) :
    (page.updateActive jobId change).isTracked other = page.isTracked other := by
  rw [Page.isTracked, Page.updateActive, List.any_map]
  congr 1
  funext active
  dsimp only [Function.comp]
  split
  next hsame =>
    rcases hid active with h | h
    · rw [h, hsame]
    · rw [h]
  next => rfl

theorem isTracked_dropActive :
    (page.dropActive jobId).isTracked other =
      (page.isTracked other && decide (other ≠ jobId)) := by
  rw [Page.isTracked, Page.dropActive, List.any_filter, Bool.eq_iff_iff]
  simp only [List.any_eq_true, Bool.and_eq_true, decide_eq_true_eq, Page.isTracked]
  constructor
  · rintro ⟨active, hactive, hne, rfl⟩
    exact ⟨⟨active, hactive, rfl⟩, hne⟩
  · rintro ⟨⟨active, hactive, rfl⟩, hne⟩
    exact ⟨active, hactive, hne, rfl⟩

theorem streamsOf_closeStream_le :
    (page.closeStream jobId).streamsOf other ≤ page.streamsOf other :=
  List.filter_sublist.countP_le

theorem streamsOf_closeStream
    (hmapped : ∀ stream ∈ page.live, page.eventSources stream.jobId = some stream.id) :
    (page.closeStream jobId).streamsOf jobId = 0 := by
  rw [Page.streamsOf, List.countP_eq_zero]
  intro stream hstream
  obtain ⟨hlive, hopen⟩ := List.mem_filter.mp hstream
  have hmap := hmapped stream hlive
  rw [decide_eq_true_eq]
  rintro rfl
  exact absurd hmap (of_decide_eq_true hopen)

theorem streamsOf_streamJob (retry : StreamRetry) (gap : Nat) :
    (page.streamJob jobId retry gap).streamsOf other =
      page.streamsOf other + if jobId = other then 1 else 0 := by
  rw [Page.streamsOf, Page.streamJob, List.countP_append, List.countP_singleton]
  simp [Page.streamsOf]

theorem pendingsOf_cancel_le :
    (page.cancelPendingReconnect jobId).pendingsOf other ≤ page.pendingsOf other := by
  unfold Page.cancelPendingReconnect
  split
  · exact Nat.le_refl _
  · exact List.filter_sublist.countP_le

theorem pendingsOf_cancel : (page.cancelPendingReconnect jobId).pendingsOf jobId = 0 := by
  unfold Page.cancelPendingReconnect
  split
  next hnone =>
    rw [Page.pendingsOf, List.countP_eq_zero]
    intro entry hentry
    have hlookup := List.lookup_eq_none_iff.mp hnone entry hentry
    rw [decide_eq_true_eq]
    rintro rfl
    simp at hlookup
  next =>
    rw [Page.pendingsOf, List.countP_eq_zero]
    intro entry hentry
    simpa using (List.mem_filter.mp hentry).2

theorem pendingsOf_schedule (attempt spent gap : Nat) (hnone : page.pendingsOf jobId = 0) :
    (page.scheduleReconnect jobId attempt spent gap).pendingsOf other =
      page.pendingsOf other + if jobId = other then 1 else 0 := by
  have hlookup : page.pendingOf jobId = none := by
    rw [Page.pendingOf, List.lookup_eq_none_iff]
    intro entry hentry
    have hne := List.countP_eq_zero.mp hnone entry hentry
    rw [bne_iff_ne]
    rintro rfl
    simp at hne
  rw [Page.pendingsOf, Page.scheduleReconnect, hlookup]
  dsimp only [Option.isSome]
  rw [if_neg Bool.false_ne_true, List.countP_append, List.countP_singleton]
  simp [Page.pendingsOf]

theorem rereadsOf_reread (attempt gap : Nat) :
    (page.rereadAfterSpentBudget jobId attempt gap).rereadsOf other =
      page.rereadsOf other + if jobId = other then 1 else 0 := by
  rw [Page.rereadsOf, Page.rereadAfterSpentBudget, List.countP_append, List.countP_singleton]
  simp [Page.rereadsOf]

theorem announcementsOf_notify (job : Job) (songId : Option String) :
    (page.notifyTerminalJob job songId).announcementsOf other ≤
      page.announcementsOf other + if job.id = other then 1 else 0 := by
  unfold Page.notifyTerminalJob
  split
  · exact Nat.le_add_right _ _
  · rw [Page.announcementsOf, List.countP_append, List.countP_singleton]
    simp [Page.announcementsOf]

theorem streamsOf_updateStream {stream : Nat} {change : Stream → Stream}
    (hjob : ∀ stream, (change stream).jobId = stream.jobId) :
    (page.updateStream stream change).streamsOf other = page.streamsOf other := by
  rw [Page.streamsOf, Page.updateStream, List.countP_map]
  congr 1
  funext found
  dsimp only [Function.comp]
  split
  · rw [hjob]
  · rfl

theorem notify_drop (job : Job) (songId : Option String) :
    (page.notifyTerminalJob job songId).dropActive jobId =
      (page.dropActive jobId).notifyTerminalJob job songId := by
  unfold Page.notifyTerminalJob
  split
  · rfl
  · rfl

end Calls

/-! ### What the calls keep -/

/-- The job is followed, and neither heard of in any way nor waiting for its takes. -/
structure Clear (page : Page) (jobId : String) : Prop where
  tracked : page.isTracked jobId = true
  ways : page.streamsOf jobId + page.pendingsOf jobId + page.rereadsOf jobId = 0
  unawaited : page.takeArrivalWaits jobId = none

section Kept

variable {page : Page} {jobId : String}

theorem Inv.unawaited (h : Inv page)
    (hways : 0 < page.streamsOf jobId + page.pendingsOf jobId + page.rereadsOf jobId) :
    page.takeArrivalWaits jobId = none := by
  rw [← Option.not_isSome_iff_eq_none]
  intro hsome
  have hnone := ((h.standing jobId).waiting hsome).2
  omega

theorem Inv.updateActive (h : Inv page) {change : ActiveJob → ActiveJob}
    (hid : ∀ active, (change active).job.id = jobId ∨ (change active).job.id = active.job.id) :
    Inv (page.updateActive jobId change) where
  standing other := by
    rw [isTracked_updateActive page jobId other hid]
    exact h.standing other
  mapped := h.mapped
  waits := h.waits
  fresh := h.fresh

theorem Clear.updateActive {other : String} (h : Clear page jobId)
    {change : ActiveJob → ActiveJob}
    (hid : ∀ active, (change active).job.id = other ∨ (change active).job.id = active.job.id) :
    Clear (page.updateActive other change) jobId :=
  ⟨(isTracked_updateActive page other jobId hid).trans h.tracked, h.ways, h.unawaited⟩

theorem Inv.closeStream (h : Inv page) (jobId : String) : Inv (page.closeStream jobId) where
  standing other :=
    (h.standing other).mono (streamsOf_closeStream_le page jobId other) (Nat.le_refl _)
      (Nat.le_refl _)
  mapped := by
    intro stream hstream
    obtain ⟨hlive, hopen⟩ := List.mem_filter.mp hstream
    have hmap := h.mapped stream hlive
    have hne : stream.jobId ≠ jobId := by
      rintro rfl
      exact absurd hmap (of_decide_eq_true hopen)
    exact (Function.update_of_ne hne none page.eventSources).trans hmap
  waits := h.waits
  fresh := h.fresh

theorem Inv.cancelPendingReconnect (h : Inv page) (jobId : String) :
    Inv (page.cancelPendingReconnect jobId) := by
  have hstanding : ∀ other, Standing (page.isTracked other) (page.streamsOf other)
      ((page.cancelPendingReconnect jobId).pendingsOf other) (page.rereadsOf other)
      (page.announcementsOf other) (page.takeArrivalWaits other).isSome := fun other =>
    (h.standing other).mono (Nat.le_refl _) (pendingsOf_cancel_le page jobId other)
      (Nat.le_refl _)
  unfold Page.cancelPendingReconnect at hstanding ⊢
  split
  · exact h
  next pending hpending =>
    rw [hpending] at hstanding
    exact ⟨hstanding, h.mapped, h.waits, h.fresh⟩

theorem stopTakeArrivalWait_eq (page : Page) (jobId : String) :
    page.stopTakeArrivalWait jobId =
      { page with
        waits := page.waits.map fun wait =>
          if page.takeArrivalWaits jobId = some wait.id then
            { wait with watching := false, bound := false }
          else wait
        takeArrivalWaits := Function.update page.takeArrivalWaits jobId none } := by
  unfold Page.stopTakeArrivalWait
  cases hwait : page.takeArrivalWaits jobId with
  | none => simp
  | some id =>
      simp only [Option.elim_some, Page.stopWaiting, Page.updateWait, Option.some.injEq]
      simp only [eq_comm]

theorem Inv.stopTakeArrivalWait (h : Inv page) (jobId : String) :
    Inv (page.stopTakeArrivalWait jobId) := by
  rw [stopTakeArrivalWait_eq]
  refine ⟨fun other => ?_, h.mapped, ?_, ?_⟩
  · have hother := h.standing other
    refine ⟨hother.ways, hother.tracked, hother.silent, hother.once, fun hwaiting => ?_⟩
    refine hother.waiting ?_
    dsimp only at hwaiting
    by_cases hsame : other = jobId
    · subst hsame
      rw [Function.update_self] at hwaiting
      exact absurd hwaiting Bool.false_ne_true
    · rwa [Function.update_of_ne hsame] at hwaiting
  · intro wait hwait hwatching
    obtain ⟨old, hold, rfl⟩ := List.mem_map.mp hwait
    split at hwatching
    · exact absurd hwatching (by simp)
    next hother =>
      rw [if_neg hother]
      have hmapped := h.waits old hold hwatching
      have hne : old.job.id ≠ jobId := by
        rintro rfl
        exact hother hmapped
      exact (Function.update_of_ne hne none page.takeArrivalWaits).trans hmapped
  · intro wait hwait
    obtain ⟨old, hold, rfl⟩ := List.mem_map.mp hwait
    have hfresh := h.fresh old hold
    split
    · exact hfresh
    · exact hfresh

theorem Inv.dropActive (h : Inv page) (hstreams : page.streamsOf jobId = 0)
    (hpendings : page.pendingsOf jobId = 0) (hunawaited : page.takeArrivalWaits jobId = none) :
    Inv (page.dropActive jobId) where
  standing other := by
    have hother := h.standing other
    rw [isTracked_dropActive]
    by_cases hsame : other = jobId
    · subst hsame
      refine ⟨hother.ways, fun hsome => ?_, fun hfollowed => ?_, hother.once, fun hwaiting => ?_⟩
      · exact absurd hsome (by
          change ¬0 < page.streamsOf other + page.pendingsOf other
          omega)
      · exact absurd hfollowed (by simp)
      · change (page.takeArrivalWaits other).isSome = true at hwaiting
        rw [hunawaited] at hwaiting
        exact absurd hwaiting Bool.false_ne_true
    · rw [decide_eq_true hsame, Bool.and_true]
      exact hother
  mapped := h.mapped
  waits := h.waits
  fresh := h.fresh

/-- What a removal leaves of the job. -/
structure Left (page next : Page) (jobId : String) : Prop where
  inv : Inv next
  untracked : next.isTracked jobId = false
  announced : next.announcementsOf jobId = page.announcementsOf jobId

theorem Inv.removeJob (h : Inv page) (jobId : String) :
    Left page (page.removeJob jobId) jobId := by
  have hcancelled := h.cancelPendingReconnect jobId
  have hstopped := hcancelled.stopTakeArrivalWait jobId
  have hclosed := hstopped.closeStream jobId
  have hannounced : ((page.cancelPendingReconnect jobId)).announcementsOf jobId =
      page.announcementsOf jobId := by
    unfold Page.cancelPendingReconnect
    split
    · rfl
    · rfl
  refine ⟨hclosed.dropActive ?_ ?_ ?_, ?_, ?_⟩
  · exact streamsOf_closeStream _ jobId hstopped.mapped
  · change ((page.cancelPendingReconnect jobId).stopTakeArrivalWait jobId).pendingsOf jobId = 0
    rw [stopTakeArrivalWait_eq]
    exact pendingsOf_cancel page jobId
  · change ((page.cancelPendingReconnect jobId).stopTakeArrivalWait jobId).takeArrivalWaits jobId =
      none
    rw [stopTakeArrivalWait_eq]
    exact Function.update_self _ _ _
  · rw [Page.removeJob, isTracked_dropActive]
    simp
  · change ((page.cancelPendingReconnect jobId).stopTakeArrivalWait jobId).announcementsOf jobId = _
    rw [stopTakeArrivalWait_eq]
    exact hannounced

theorem Inv.notify (h : Inv page) {job : Job} (songId : Option String)
    (huntracked : page.isTracked job.id = false) (hsilent : page.announcementsOf job.id = 0) :
    Inv (page.notifyTerminalJob job songId) := by
  have hstanding : ∀ other, Standing (page.isTracked other) (page.streamsOf other)
      (page.pendingsOf other) (page.rereadsOf other)
      ((page.notifyTerminalJob job songId).announcementsOf other)
      (page.takeArrivalWaits other).isSome := by
    intro other
    have hother := h.standing other
    have hle := announcementsOf_notify page other job songId
    by_cases hsame : job.id = other
    · subst hsame
      rw [if_pos rfl, hsilent] at hle
      exact ⟨hother.ways, hother.tracked, fun hfollowed => absurd hfollowed (by simp [huntracked]),
        hle, hother.waiting⟩
    · rw [if_neg hsame, Nat.add_zero] at hle
      refine ⟨hother.ways, hother.tracked, fun hfollowed => ?_, hle.trans hother.once,
        hother.waiting⟩
      exact Nat.le_zero.mp (hle.trans (hother.silent hfollowed).le)
  unfold Page.notifyTerminalJob at hstanding ⊢
  split
  · exact h
  next htype =>
    simp only [if_neg htype] at hstanding
    exact ⟨hstanding, h.mapped, h.waits, h.fresh⟩

theorem Inv.letGo (h : Inv page) {wait : TakeWait}
    (hwaiting : page.takeArrivalWaits wait.job.id = some wait.id) : Inv (page.letGo wait) := by
  have htracked := ((h.standing wait.job.id).waiting (by rw [hwaiting]; rfl)).1
  have hremoved := h.removeJob wait.job.id
  refine hremoved.inv.notify (some wait.songId) hremoved.untracked ?_
  rw [hremoved.announced]
  exact (h.standing wait.job.id).silent htracked

theorem Inv.clear_closeStream (h : Inv page) {stream : Stream} (hstream : stream ∈ page.live) :
    Clear (page.closeStream stream.jobId) stream.jobId := by
  have hstanding := h.standing stream.jobId
  have hsome : 0 < page.streamsOf stream.jobId :=
    List.countP_pos_iff.mpr ⟨stream, hstream, by simp⟩
  have hways := hstanding.ways
  have hclosed := streamsOf_closeStream page stream.jobId h.mapped
  refine ⟨hstanding.tracked (by omega), ?_, h.unawaited (by omega)⟩
  change (page.closeStream stream.jobId).streamsOf stream.jobId + page.pendingsOf stream.jobId +
    page.rereadsOf stream.jobId = 0
  omega

theorem Inv.clear_cancel (h : Inv page) {pending : PendingReconnect}
    (hpending : page.pendingOf jobId = some pending) :
    Clear (page.cancelPendingReconnect jobId) jobId := by
  have hstanding := h.standing jobId
  have hsome : 0 < page.pendingsOf jobId := by
    rw [Page.pendingsOf, List.countP_pos_iff]
    by_contra hnone
    have hlookup : page.pendingOf jobId = none := by
      rw [Page.pendingOf, List.lookup_eq_none_iff]
      intro entry hentry
      rw [bne_iff_ne]
      rintro rfl
      exact hnone ⟨entry, hentry, by simp⟩
    rw [hpending] at hlookup
    exact absurd hlookup (Option.some_ne_none pending)
  have hways := hstanding.ways
  have hnone := pendingsOf_cancel page jobId
  have hunawaited := h.unawaited (by omega : 0 < page.streamsOf jobId + page.pendingsOf jobId +
    page.rereadsOf jobId)
  have htracked := hstanding.tracked (by omega)
  have hstreams : page.streamsOf jobId = 0 := by omega
  have hrereads : page.rereadsOf jobId = 0 := by omega
  unfold Page.cancelPendingReconnect at hnone ⊢
  rw [hpending] at hnone ⊢
  refine ⟨htracked, ?_, hunawaited⟩
  change page.streamsOf jobId + _ + page.rereadsOf jobId = 0
  rw [hstreams, hrereads, hnone]

theorem Inv.clear_erase (h : Inv page) {reread : Reread} (hreread : reread ∈ page.rereads)
    (htracked : page.isTracked reread.jobId = true) :
    Clear { page with rereads := page.rereads.erase reread } reread.jobId := by
  have hstanding := h.standing reread.jobId
  have hsome : 0 < page.rereadsOf reread.jobId :=
    List.countP_pos_iff.mpr ⟨reread, hreread, by simp⟩
  have hways := hstanding.ways
  have herased : page.rereadsOf reread.jobId =
      (page.rereads.erase reread).countP (fun other => other.jobId = reread.jobId) + 1 := by
    rw [Page.rereadsOf, (List.perm_cons_erase hreread).countP_eq, List.countP_cons_of_pos (by simp)]
  refine ⟨htracked, ?_, h.unawaited (by omega)⟩
  change page.streamsOf reread.jobId + page.pendingsOf reread.jobId +
    (page.rereads.erase reread).countP (fun other => other.jobId = reread.jobId) = 0
  omega

theorem Inv.erase (h : Inv page) (reread : Reread) :
    Inv { page with rereads := page.rereads.erase reread } where
  standing other := (h.standing other).mono (Nat.le_refl _) (Nat.le_refl _)
    (List.erase_sublist.countP_le)
  mapped := h.mapped
  waits := h.waits
  fresh := h.fresh

theorem Clear.standing (hclear : Clear page jobId) (h : Inv page) {s p r s' p' r' : Nat}
    (hs : page.streamsOf jobId = s) (hp : page.pendingsOf jobId = p)
    (hr : page.rereadsOf jobId = r) (hone : s' + p' + r' ≤ s + p + r + 1) :
    Standing (page.isTracked jobId) s' p' r' (page.announcementsOf jobId)
      (page.takeArrivalWaits jobId).isSome := by
  have hnone := hclear.ways
  have hstanding := h.standing jobId
  refine ⟨by omega, fun _ => hclear.tracked, hstanding.silent, hstanding.once, fun hwaiting => ?_⟩
  rw [hclear.unawaited] at hwaiting
  exact absurd hwaiting Bool.false_ne_true

theorem Inv.streamJob (h : Inv page) (hclear : Clear page jobId) (retry : StreamRetry)
    (gap : Nat) : Inv (page.streamJob jobId retry gap) where
  standing other := by
    rw [streamsOf_streamJob]
    by_cases hsame : jobId = other
    · subst hsame
      rw [if_pos rfl]
      exact hclear.standing h rfl rfl rfl (by
        change page.streamsOf jobId + 1 + page.pendingsOf jobId + page.rereadsOf jobId ≤ _
        omega)
    · rw [if_neg hsame]
      exact h.standing other
  mapped := by
    intro stream hstream
    rcases List.mem_append.mp hstream with hold | hnew
    · have hne : stream.jobId ≠ jobId := by
        rintro rfl
        have hsome : 0 < page.streamsOf stream.jobId :=
          List.countP_pos_iff.mpr ⟨stream, hold, by simp⟩
        have hnone := hclear.ways
        omega
      exact (Function.update_of_ne hne _ page.eventSources).trans (h.mapped stream hold)
    · obtain rfl := List.mem_singleton.mp hnew
      exact Function.update_self _ _ _
  waits := h.waits
  fresh := fun wait hwait => Nat.lt_succ_of_lt (h.fresh wait hwait)

theorem Inv.scheduleReconnect (h : Inv page) (hclear : Clear page jobId)
    (attempt spent gap : Nat) : Inv (page.scheduleReconnect jobId attempt spent gap) where
  standing other := by
    have hnone := hclear.ways
    rw [pendingsOf_schedule page jobId other attempt spent gap (by omega)]
    by_cases hsame : jobId = other
    · subst hsame
      rw [if_pos rfl]
      exact hclear.standing h rfl rfl rfl (by
        change page.streamsOf jobId + (page.pendingsOf jobId + 1) + page.rereadsOf jobId ≤ _
        omega)
    · rw [if_neg hsame]
      exact h.standing other
  mapped := h.mapped
  waits := h.waits
  fresh := fun wait hwait => Nat.lt_succ_of_lt (h.fresh wait hwait)

theorem Inv.reread (h : Inv page) (hclear : Clear page jobId) (attempt gap : Nat) :
    Inv (page.rereadAfterSpentBudget jobId attempt gap) where
  standing other := by
    rw [rereadsOf_reread]
    by_cases hsame : jobId = other
    · subst hsame
      rw [if_pos rfl]
      exact hclear.standing h rfl rfl rfl (by
        change page.streamsOf jobId + page.pendingsOf jobId + (page.rereadsOf jobId + 1) ≤ _
        omega)
    · rw [if_neg hsame]
      exact h.standing other
  mapped := h.mapped
  waits := h.waits
  fresh := fun wait hwait => Nat.lt_succ_of_lt (h.fresh wait hwait)

theorem Inv.keepUntilSongRefreshed (h : Inv page) {job : Job} (hclear : Clear page job.id)
    (songId : String) : Inv (page.keepUntilSongRefreshed job songId) where
  standing other := by
    have hother := h.standing other
    have htracked : (page.keepUntilSongRefreshed job songId).isTracked other =
        page.isTracked other := isTracked_updateActive page job.id other fun active => Or.inr rfl
    rw [htracked]
    refine ⟨hother.ways, hother.tracked, hother.silent, hother.once, fun hwaiting => ?_⟩
    by_cases hsame : other = job.id
    · subst hsame
      exact ⟨hclear.tracked, hclear.ways⟩
    · refine hother.waiting ?_
      change (Function.update page.takeArrivalWaits job.id _ other).isSome = true at hwaiting
      rwa [Function.update_of_ne hsame] at hwaiting
  mapped := h.mapped
  waits := by
    intro wait hwait hwatching
    rcases List.mem_append.mp hwait with hold | hnew
    · have hmapped := h.waits wait hold hwatching
      have hne : wait.job.id ≠ job.id := by
        intro hsame
        rw [hsame, hclear.unawaited] at hmapped
        exact absurd hmapped.symm (Option.some_ne_none _)
      exact (Function.update_of_ne hne _ page.takeArrivalWaits).trans hmapped
    · obtain rfl := List.mem_singleton.mp hnew
      exact Function.update_self _ _ _
  fresh := by
    intro wait hwait
    rcases List.mem_append.mp hwait with hold | hnew
    · exact Nat.lt_succ_of_lt (h.fresh wait hold)
    · obtain rfl := List.mem_singleton.mp hnew
      exact Nat.lt_succ_self _

theorem Inv.completeTrackedJob (h : Inv page) {job : Job}
    (hclear : Clear (page.closeStream job.id) job.id) : Inv (page.completeTrackedJob job) := by
  have hclosed := h.closeStream job.id
  have hnone := hclear.ways
  have hdropped := hclosed.dropActive (by omega) (by omega) hclear.unawaited
  have hgone : ∀ songId, Inv (((page.closeStream job.id).notifyTerminalJob job songId).dropActive
      job.id) := by
    intro songId
    rw [notify_drop]
    refine hdropped.notify songId ?_ ((hclosed.standing job.id).silent hclear.tracked)
    rw [isTracked_dropActive]
    simp
  unfold Page.completeTrackedJob
  dsimp only
  split
  · split
    · exact hclosed.keepUntilSongRefreshed hclear _
    · exact hgone _
  · exact hgone none

theorem Inv.trackJob (h : Inv page) (job : Job) (songId : Option String)
    (hnew : page.NewToPage job.id) : Inv (page.trackJob job songId) := by
  unfold Page.trackJob
  split
  next => exact h.updateActive fun active => Or.inl rfl
  next hfalse =>
    have huntracked : page.isTracked job.id = false := Bool.eq_false_iff.mpr hfalse
    obtain ⟨hsilent, hrereads⟩ := hnew huntracked
    have hstanding := h.standing job.id
    have hfollowed : ∀ other, (page.isTracked other || decide (job.id = other)) =
        (page.activeJobs ++ [ActiveJob.mk job songId false false]).any
          fun active => active.job.id = other := by
      intro other
      rw [List.any_append]
      simp [Page.isTracked]
    have hnone : ¬0 < page.streamsOf job.id + page.pendingsOf job.id := by
      intro hsome
      exact absurd (hstanding.tracked hsome) (by simp [huntracked])
    have hunawaited : page.takeArrivalWaits job.id = none := by
      rw [← Option.not_isSome_iff_eq_none]
      intro hwaiting
      exact absurd (hstanding.waiting hwaiting).1 (by simp [huntracked])
    have hadded : ∀ failures, Inv { page with
        activeJobs := page.activeJobs ++ [⟨job, songId, false, false⟩]
        generationFailures := failures } := by
      intro failures
      refine ⟨fun other => ?_, h.mapped, h.waits, h.fresh⟩
      have hother := h.standing other
      change Standing ((page.activeJobs ++ [ActiveJob.mk job songId false false]).any
        fun active => active.job.id = other) _ _ _ _ _
      rw [← hfollowed other]
      by_cases hsame : job.id = other
      · subst hsame
        rw [decide_eq_true rfl, Bool.or_true]
        refine ⟨hother.ways, fun _ => rfl, fun _ => hsilent, hother.once, fun hwaiting => ?_⟩
        exact ⟨rfl, (hother.waiting hwaiting).2⟩
      · rw [decide_eq_false hsame, Bool.or_false]
        exact hother
    have hclear : ∀ failures, Clear { page with
        activeJobs := page.activeJobs ++ [⟨job, songId, false, false⟩]
        generationFailures := failures } job.id := by
      intro failures
      refine ⟨?_, ?_, hunawaited⟩
      · exact (hfollowed job.id).symm.trans (by simp)
      · change page.streamsOf job.id + page.pendingsOf job.id + page.rereadsOf job.id = 0
        omega
    dsimp only
    split
    · split
      · exact (hadded _).streamJob (hclear _) freshStream page.nextRef
      · exact (hadded page.generationFailures).streamJob (hclear _) freshStream page.nextRef
    · exact (hadded page.generationFailures).streamJob (hclear _) freshStream page.nextRef

theorem Inv.updateStream (h : Inv page) {stream : Nat} {change : Stream → Stream}
    (hid : ∀ stream, (change stream).id = stream.id)
    (hjob : ∀ stream, (change stream).jobId = stream.jobId) :
    Inv (page.updateStream stream change) where
  standing other := by
    rw [streamsOf_updateStream page other hjob]
    exact h.standing other
  mapped := by
    intro found hfound
    obtain ⟨old, hold, rfl⟩ := List.mem_map.mp hfound
    have hmapped := h.mapped old hold
    split
    · rw [hid, hjob]
      exact hmapped
    · exact hmapped
  waits := h.waits
  fresh := h.fresh

theorem Inv.reopen (h : Inv page) {pending : PendingReconnect}
    (hpending : page.pendingOf jobId = some pending) (retry : StreamRetry) (gap : Nat) :
    Inv ((page.cancelPendingReconnect jobId).streamJob jobId retry gap) :=
  (h.cancelPendingReconnect jobId).streamJob (h.clear_cancel hpending) retry gap

theorem Inv.retryAfterBackoff (h : Inv page) (jobId : String) :
    Inv (page.retryAfterBackoff jobId) := by
  unfold Page.retryAfterBackoff
  split
  · exact h
  next pending hpending => exact h.reopen hpending _ _

theorem Inv.reconnectNow (h : Inv page) (now : ℚ) (jobId : String) :
    Inv (page.reconnectNow now jobId) := by
  unfold Page.reconnectNow
  split
  · exact h
  next pending hpending =>
    split
    · exact h
    · have hsame : Inv { page with
          lastReopenAt := Function.update page.lastReopenAt pending.reopenGap (some now) } :=
        ⟨h.standing, h.mapped, h.waits, h.fresh⟩
      exact hsame.reopen hpending _ _

theorem Inv.reconnectAllWaitingJobs (h : Inv page) (now : ℚ) :
    Inv (page.reconnectAllWaitingJobs now) := by
  unfold Page.reconnectAllWaitingJobs
  induction page.pendingReconnects.map Prod.fst generalizing page with
  | nil => exact h
  | cons jobId rest ih => exact ih (h.reconnectNow now jobId)

theorem Inv.updateWait (h : Inv page) {wait : Nat} {change : TakeWait → TakeWait}
    (hid : ∀ wait, (change wait).id = wait.id) (hjob : ∀ wait, (change wait).job = wait.job)
    (hstops : ∀ wait, ((change wait).watching || (change wait).bound) = true →
      (wait.watching || wait.bound) = true) : Inv (page.updateWait wait change) where
  standing := h.standing
  mapped := h.mapped
  waits := by
    intro found hfound hwatching
    obtain ⟨old, hold, rfl⟩ := List.mem_map.mp hfound
    split at hwatching
    next hsame =>
      rw [if_pos hsame, hid, hjob]
      exact h.waits old hold (hstops old hwatching)
    next hother =>
      rw [if_neg hother]
      exact h.waits old hold hwatching
  fresh := by
    intro found hfound
    obtain ⟨old, hold, rfl⟩ := List.mem_map.mp hfound
    have hfresh := h.fresh old hold
    split
    · rw [hid]
      exact hfresh
    · exact hfresh

theorem Inv.connectivity (h : Inv page) (offline : Bool) : Inv (page.connectivity offline) := by
  unfold Page.connectivity
  split
  · exact h
  · refine ⟨h.standing, h.mapped, ?_, ?_⟩
    · intro found hfound hwatching
      obtain ⟨old, hold, rfl⟩ := List.mem_map.mp hfound
      split at hwatching
      next hwas =>
        rw [if_pos hwas]
        exact h.waits old hold (by rw [hwas, Bool.true_or])
      next hwas =>
        rw [if_neg hwas]
        exact h.waits old hold hwatching
    · intro found hfound
      obtain ⟨old, hold, rfl⟩ := List.mem_map.mp hfound
      have hfresh := h.fresh old hold
      split
      · exact hfresh
      · exact hfresh

end Kept

/-! ### What an event keeps -/

section Events

variable {page : Page}

theorem Inv.streamSpoke (h : Inv page) {stream : Stream} (hstream : stream ∈ page.live)
    {updated : Job} (hid : updated.id = stream.jobId) :
    Inv (page.streamSpoke stream updated) := by
  have hspoke : Inv (page.updateStream stream.id fun other =>
      { other with current := freshStream, spoke := true }) :=
    h.updateStream (fun _ => rfl) (fun _ => rfl)
  have hupdated : ∀ active : ActiveJob, (withFreshStatus active updated).job.id = stream.jobId ∨
      (withFreshStatus active updated).job.id = active.job.id := fun _ => Or.inl hid
  have hheard := hspoke.updateActive hupdated
  unfold Page.streamSpoke
  dsimp only
  split
  next =>
    refine hheard.completeTrackedJob ?_
    have hlive : { stream with current := freshStream, spoke := true } ∈
        (page.updateStream stream.id fun other =>
          { other with current := freshStream, spoke := true }).live :=
      List.mem_map.mpr ⟨stream, hstream, if_pos rfl⟩
    have hclear := hspoke.clear_closeStream hlive
    rw [hid]
    exact hclear.updateActive hupdated
  next => exact hheard

theorem Inv.streamFailed (h : Inv page) {stream : Stream} (hstream : stream ∈ page.live) :
    Inv (page.streamFailed stream) := by
  have hclosed := h.closeStream stream.jobId
  have hclear := h.clear_closeStream hstream
  have hfollowed : ∀ marked : Page, Inv marked → Clear marked stream.jobId → ∀ spent,
      Inv (if spent ≥ jobStreamMaxConnectionErrors then
          marked.rereadAfterSpentBudget stream.jobId stream.current.attempt stream.reopenGap
        else marked.scheduleReconnect stream.jobId stream.current.attempt spent
          stream.reopenGap) := by
    intro marked hinv hready spent
    split
    · exact hinv.reread hready _ _
    · exact hinv.scheduleReconnect hready _ _ _
  unfold Page.streamFailed
  dsimp only
  cases stream.spoke with
  | true => exact hfollowed _ hclosed hclear _
  | false =>
      have hsame : ∀ active : ActiveJob,
          ({ active with streamStale := true } : ActiveJob).job.id = active.job.id := fun _ => rfl
      exact hfollowed _ (hclosed.updateActive fun active => Or.inr (hsame active))
        (hclear.updateActive fun active => Or.inr (hsame active)) _

theorem Clear.closeStream {jobId : String} (h : Clear page jobId) :
    Clear (page.closeStream jobId) jobId := by
  have hways := h.ways
  have hclosed := streamsOf_closeStream_le page jobId jobId
  refine ⟨h.tracked, ?_, h.unawaited⟩
  change (page.closeStream jobId).streamsOf jobId + page.pendingsOf jobId +
    page.rereadsOf jobId = 0
  omega

theorem Inv.rereadAnswered (h : Inv page) {reread : Reread} (hreread : reread ∈ page.rereads)
    {answer : RereadAnswer} (hof : answer.isOf reread.jobId = true) :
    Inv (page.rereadAnswered reread answer) := by
  have herased := h.erase reread
  unfold Page.rereadAnswered
  dsimp only
  split
  next htracked =>
    have hclear := h.clear_erase hreread htracked
    cases answer with
    | job told =>
        have hid : told.id = reread.jobId := of_decide_eq_true hof
        have hafter : ∀ active : ActiveJob, (afterReread active told).job.id = reread.jobId ∨
            (afterReread active told).job.id = active.job.id := by
          intro active
          unfold afterReread
          split
          · exact Or.inl hid
          · exact Or.inl hid
        have hupdated := herased.updateActive hafter
        have hready := hclear.updateActive hafter
        dsimp only
        split
        · refine hupdated.completeTrackedJob ?_
          rw [hid]
          exact hready.closeStream
        · exact hupdated.scheduleReconnect hready _ _ _
    | notFound => exact (herased.removeJob reread.jobId).inv
    | failed => exact herased.scheduleReconnect hclear _ _ _
  next => exact herased

theorem Inv.hydrating (h : Inv page) (hydrations : List (Nat × String)) {nextRef : Nat}
    (hnext : page.nextRef ≤ nextRef) :
    Inv { page with hydrations := hydrations, nextRef := nextRef } where
  standing := h.standing
  mapped := h.mapped
  waits := h.waits
  fresh wait hwait := Nat.lt_of_lt_of_le (h.fresh wait hwait) hnext

end Events

theorem inv_newPage (offline : Bool) : Inv (newPage offline) where
  standing _ := ⟨Nat.zero_le 1, fun hsome => absurd hsome (Nat.lt_irrefl 0), fun _ => rfl,
    Nat.zero_le 1, fun hwaiting => absurd hwaiting Bool.false_ne_true⟩
  mapped _ hstream := absurd hstream List.not_mem_nil
  waits _ hwait := absurd hwait List.not_mem_nil
  fresh _ hwait := absurd hwait List.not_mem_nil

theorem Inv.act {page next : Page} {a : Action} (h : Inv page)
    (hact : act page a = some next) (honce : TracksOnce page a) : Inv next := by
  cases a with
  | trackJob job songId =>
      obtain rfl := Option.some.inj hact
      exact h.trackJob job songId honce
  | removeJob jobId =>
      obtain rfl := Option.some.inj hact
      exact (h.removeJob jobId).inv
  | hydrateActiveGeneration songId =>
      obtain rfl := Option.some.inj hact
      exact h.hydrating _ (Nat.le_succ _)
  | hydrationAnswered hydration job =>
      obtain ⟨-, rfl⟩ := Option.ite_some_none_eq_some.mp hact
      have hanswered := h.hydrating (page.hydrations.erase hydration) (Nat.le_refl page.nextRef)
      cases job with
      | none => exact hanswered
      | some found => exact hanswered.trackJob found _ (honce found rfl)
  | streamOpened stream =>
      obtain ⟨-, rfl⟩ := Option.ite_some_none_eq_some.mp hact
      exact h.updateStream (fun _ => rfl) (fun _ => rfl)
  | streamSpoke stream updated =>
      obtain ⟨⟨hstream, hid⟩, rfl⟩ := Option.ite_some_none_eq_some.mp hact
      exact h.streamSpoke hstream hid
  | streamFailed stream =>
      obtain ⟨hstream, rfl⟩ := Option.ite_some_none_eq_some.mp hact
      exact h.streamFailed hstream
  | backoffEnds timer =>
      obtain ⟨-, rfl⟩ := Option.ite_some_none_eq_some.mp hact
      have hfired : Inv { page with timers := page.timers.erase timer } :=
        ⟨h.standing, h.mapped, h.waits, h.fresh⟩
      exact hfired.retryAfterBackoff timer.2
  | reconnectOpportunity now =>
      obtain ⟨-, rfl⟩ := Option.ite_some_none_eq_some.mp hact
      exact h.reconnectAllWaitingJobs now
  | connectivity offline =>
      obtain rfl := Option.some.inj hact
      exact h.connectivity offline
  | rereadAnswered reread answer =>
      obtain ⟨⟨hreread, hof⟩, rfl⟩ := Option.ite_some_none_eq_some.mp hact
      exact h.rereadAnswered hreread hof
  | songRefreshed wait =>
      obtain ⟨-, rfl⟩ := Option.ite_some_none_eq_some.mp hact
      exact h.updateWait (fun _ => rfl) (fun _ => rfl) (fun _ hwaiting => hwaiting)
  | songRefreshFails wait =>
      obtain ⟨-, rfl⟩ := Option.ite_some_none_eq_some.mp hact
      exact h.updateWait (fun _ => rfl) (fun _ => rfl) (fun _ hwaiting => hwaiting)
  | backOnline wait =>
      obtain ⟨-, rfl⟩ := Option.ite_some_none_eq_some.mp hact
      exact h.updateWait (fun _ => rfl) (fun _ => rfl) (fun _ hwaiting => hwaiting)
  | waitRefreshed wait =>
      obtain ⟨-, rfl⟩ := Option.ite_some_none_eq_some.mp hact
      have hover : Inv (page.updateWait wait.id fun other => { other with stage := .over }) :=
        h.updateWait (fun _ => rfl) (fun _ => rfl) (fun _ hwaiting => hwaiting)
      split
      next hstill => exact hover.letGo (of_decide_eq_true hstill)
      next => exact hover
  | waitBoundEnds wait =>
      obtain ⟨⟨hwait, hbound⟩, rfl⟩ := Option.ite_some_none_eq_some.mp hact
      have hstopped : Inv (page.updateWait wait.id fun other => { other with bound := false }) :=
        h.updateWait (fun _ => rfl) (fun _ => rfl) fun wait hwaiting => by
          rw [Bool.or_false] at hwaiting
          rw [hwaiting, Bool.true_or]
      exact hstopped.letGo (h.waits wait hwait (by rw [hbound, Bool.or_true]))

/-- A run that follows no job anew hears of each job in one way at most. -/
theorem tracked_once {offline : Bool} {run : List (Action × Page)}
    (hrun : jobTracking.IsRun (newPage offline) run)
    (hmeet : StepsMeet TracksOnce (newPage offline) run) :
    ∀ page ∈ visited (newPage offline) run, HeardOneWay page := by
  have hkeeps : ∀ page a next, Inv page → jobTracking.step page a next → TracksOnce page a →
      Inv next := fun page a next h hact honce => h.act hact honce
  have hkept := forall_visited_of_stepsMeet hkeeps (inv_newPage offline) hrun hmeet
  exact fun page hpage => (hkept page hpage).heardOneWay

def exampleJob (status : JobStatus) : Job :=
  ⟨"j", .generate, status, none, none⟩

/-- The stream that is opened after as many failures, and the backoff after it. -/
def exampleStream (failures : Nat) : Stream :=
  ⟨2 * failures, "j", ⟨failures + 1, failures, true⟩, false, 0⟩

/-- The job is followed, its stream fails until the budget is spent, and it is let go. -/
def leavesReread : List Action :=
  .trackJob (exampleJob .running) (some "s") ::
    ((List.range 24).flatMap fun failures =>
      [.streamFailed (exampleStream failures), .backoffEnds (2 * failures + 1, "j")]) ++
    [.streamFailed (exampleStream 24), .removeJob "j"]

/-- A hydration is answered after the job has ended, with the job as it ran before. -/
def hydratesLate : List Action :=
  [.trackJob (exampleJob .running) (some "s"), .hydrateActiveGeneration "s",
    .streamSpoke ⟨0, "j", freshStream, false, 0⟩ (exampleJob .failed),
    .hydrationAnswered (1, "s") (some (exampleJob .running)),
    .streamSpoke ⟨2, "j", freshStream, false, 2⟩ (exampleJob .failed)]

def followed (actions : List Action) : Page :=
  lastOf (newPage false) (follow act (newPage false) actions)

theorem tracked_once_budget_spent : HeardOneWay (followed leavesReread) :=
  tracked_once (isRun_follow _ act (newPage false) leavesReread) (by decide +kernel) _
    (lastOf_mem_visited _ _)

/-- A job that was let go is still being read, and the end of a job is announced twice. -/
theorem untracked_job_read_and_end_announced_twice :
    (∃ run, jobTracking.IsRun (newPage false) run ∧
      (lastOf (newPage false) run).isTracked "j" = false ∧
      (lastOf (newPage false) run).rereadsOf "j" = 1) ∧
    ∃ run, jobTracking.IsRun (newPage false) run ∧
      (lastOf (newPage false) run).announcementsOf "j" = 2 := by
  have hleaves := isRun_follow (fun page => ∃ offline, page = newPage offline) act (newPage false)
    leavesReread
  have hlate := isRun_follow (fun page => ∃ offline, page = newPage offline) act (newPage false)
    hydratesLate
  refine ⟨⟨_, hleaves, ?_, ?_⟩, _, hlate, ?_⟩
  · decide +kernel
  · decide +kernel
  · decide +kernel

end Songmaker.Jobs.JobTracking
