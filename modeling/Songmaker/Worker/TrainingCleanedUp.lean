import Songmaker.Worker.TrainingCleanup

/-!
However a training ends, its cleanup lowers the use count once, tries to release
the hold once and drops the training's handover entry, unless the wait for the
lock of that step was cancelled.
-/

namespace Songmaker.Worker.TrainingCleanup

open Songmaker.Foundation
open Songmaker.Foundation.CleanupProgram
open Songmaker.Worker.GpuHold
open Songmaker.Worker.HoldHandover
open Songmaker.Worker.ModelCache

theorem Settles.child_ended {waiterCancelled : Bool} {child child' : Child}
    {completion : Completion} (hsettles : Settles waiterCancelled child completion child') :
    child' ≠ .running := by
  induction hsettles with
  | ended outcome => simp
  | endedCancelled outcome => simp
  | childEnds _ _ ih => exact ih
  | waiterCancelled _ ih => exact ih

variable {Mode Token : Type}

/-- A request before its setup. -/
structure Fresh (s : TrainingState Mode Token) : Prop where
  notes : s.notes = ⟨false, none, 0, 0, false, false⟩
  training : s.training = none
  renewal : s.renewal = none

/-- A training that has its model, its renewal and its handover entry. -/
structure Owned (mode : Mode) (task : Nat) (s : TrainingState Mode Token) : Prop where
  notes : s.notes = ⟨true, some task, 0, 0, false, false⟩
  inUse : 1 ≤ s.cache.inUse mode
  renewal : s.renewal.isSome = true

/-- A training after its cleanup. -/
structure CleanedUp (token : Token) (task : Nat) (s : TrainingState Mode Token) : Prop where
  claimed : s.notes.task = some task
  decrements : s.notes.cacheWaitCancelled = false → s.notes.decrements = 1
  loweredAtMostOnce : s.notes.decrements ≤ 1
  releaseAttempts : s.notes.releaseAttempts = 1
  handover : s.notes.handoverWaitCancelled = false → s.table.tasks token ≠ some task
  training : s.training ≠ some .running
  renewal : s.renewal ≠ some .running

/-- A request whose setup has failed. -/
structure SetupCleanedUp (s : TrainingState Mode Token) : Prop where
  task : s.notes.task = none
  decrements : s.notes.loaded = true → s.notes.cacheWaitCancelled = false →
    s.notes.decrements = 1
  loweredAtMostOnce : s.notes.decrements ≤ if s.notes.loaded = true then 1 else 0
  releaseAttempts : s.notes.releaseAttempts = 0
  training : s.training = none
  renewal : s.renewal ≠ some .running

variable {mode : Mode} {token : Token} {s t u : TrainingState Mode Token} {task : Nat}

theorem Owned.others (howned : Owned mode task s) (hothers : Others mode token s t) :
    Owned mode task t := by
  have hnotes := howned.notes
  refine ⟨hothers.notes.trans hnotes, ?_, hothers.renewalIsSome.trans howned.renewal⟩
  exact hothers.inUse (by rw [hnotes]) (by rw [hnotes]) howned.inUse

/-- Its tasks have ended. -/
structure Settled (s : TrainingState Mode Token) : Prop where
  training : s.training ≠ some .running
  renewal : s.renewal ≠ some .running

theorem Settled.others (hsettled : Settled s) (hothers : Others mode token s t) : Settled t := by
  constructor
  · rw [hothers.training hsettled.training]
    exact hsettled.training
  · rw [hothers.renewal hsettled.renewal]
    exact hsettled.renewal

/-- A training that was told to stop and has lowered its use count, if the wait
for the cache was not cancelled. -/
structure Lowered (task attempts : Nat) (s : TrainingState Mode Token) : Prop where
  claimed : s.notes.task = some task
  decrements : s.notes.decrements = if s.notes.cacheWaitCancelled = true then 0 else 1
  releaseAttempts : s.notes.releaseAttempts = attempts
  handoverWaitCancelled : s.notes.handoverWaitCancelled = false
  settled : Settled s

theorem Lowered.cleanedUp {attempts : Nat} (hlowered : Lowered task attempts s) :
    (s.notes.cacheWaitCancelled = false → s.notes.decrements = 1) ∧ s.notes.decrements ≤ 1 := by
  rw [hlowered.decrements]
  constructor
  · intro hwait
    rw [hwait]
    rfl
  · split_ifs <;> omega

theorem Lowered.others {attempts : Nat} (hlowered : Lowered task attempts s)
    (hothers : Others mode token s t) : Lowered task attempts t := by
  obtain ⟨htask, hdecrements, hattempts, hwait, hsettled⟩ := hlowered
  rw [← hothers.notes] at htask hdecrements hattempts hwait
  exact ⟨htask, hdecrements, hattempts, hwait, hsettled.others hothers⟩

variable [DecidableEq Mode] [DecidableEq Token]

section Cache

variable {cache : Cache Mode}

theorem release_inUse (hinUse : 1 ≤ cache.inUse mode) :
    cache.inUse mode - (release cache mode).1.inUse mode = 1 := by
  simp only [release, Function.update_self]
  omega

theorem releaseAndStop_inUse (hinUse : 1 ≤ cache.inUse mode) :
    cache.inUse mode - (releaseAndStop cache mode).1.inUse mode = 1 := by
  have hpos : cache.inUse mode ≠ 0 := by omega
  simp only [releaseAndStop, if_neg hpos]
  split_ifs
  · simp only [Function.update_self]
    omega
  · split
    · simp only [Function.update_self]
      omega
    · simp only [Function.update_self]
      omega

end Cache

section Calls

omit [DecidableEq Mode] in
theorem guarantees_releaseHandover :
    Guarantees (Lowered task 1) (.call (releaseGpuHoldHandover mode token)) fun _ t =>
      CleanedUp token task (t : TrainingState Mode Token) := by
  refine guarantees_call ?_
  rintro s c t hlowered ⟨u, hothers, ⟨-, rfl⟩ | ⟨-, rfl⟩⟩
  · have hu := hlowered.others hothers
    exact ⟨hu.claimed, hu.cleanedUp.1, hu.cleanedUp.2, hu.releaseAttempts, by simp,
      hu.settled.training, hu.settled.renewal⟩
  · have hu := hlowered.others hothers
    refine ⟨hu.claimed, hu.cleanedUp.1, hu.cleanedUp.2, hu.releaseAttempts, ?_,
      hu.settled.training, hu.settled.renewal⟩
    simp [HandoverTable.release]

omit [DecidableEq Mode] in
theorem guarantees_releaseHold :
    Guarantees (Lowered task 0) (.call (releaseHold mode token)) fun _ t =>
      Lowered task 1 (t : TrainingState Mode Token) := by
  refine guarantees_call ?_
  rintro s c t hlowered ⟨u, keys, hothers, -, -, rfl⟩
  have hu := hlowered.others hothers
  exact ⟨hu.claimed, hu.decrements, congrArg (· + 1) hu.releaseAttempts, hu.handoverWaitCancelled,
    ⟨hu.settled.training, hu.settled.renewal⟩⟩

omit [DecidableEq Token] in
theorem guarantees_releaseAndStop :
    Guarantees (fun s => Owned mode task s ∧ Settled s) (.call (releaseAndStopModel mode token))
      fun _ t => Lowered task 0 (t : TrainingState Mode Token) := by
  refine guarantees_call ?_
  rintro s c t ⟨howned, hsettled⟩ ⟨u, hothers, hcase⟩
  have hu := howned.others hothers
  have hended := hsettled.others hothers
  have hlowered : Lowered task 0 (u.lowered mode (releaseAndStop u.cache mode).1) := by
    refine ⟨?_, ?_, ?_, ?_, ⟨hended.training, hended.renewal⟩⟩
    · simp [TrainingState.lowered, hu.notes]
    · simp [TrainingState.lowered, hu.notes, releaseAndStop_inUse hu.inUse]
    · simp [TrainingState.lowered, hu.notes]
    · simp [TrainingState.lowered, hu.notes]
  rcases hcase with ⟨-, rfl⟩ | ⟨-, -, rfl⟩ | ⟨-, hafter⟩
  · refine ⟨?_, ?_, ?_, ?_, ⟨hended.training, hended.renewal⟩⟩
    all_goals simp [hu.notes]
  · exact hlowered
  · exact hlowered.others hafter

theorem guarantees_releaseResources :
    Guarantees (fun s => Owned mode task s ∧ Settled s) (releaseTrainLoraResources mode token)
      fun _ t => CleanedUp token task (t : TrainingState Mode Token) :=
  guarantees_tryFinally guarantees_releaseAndStop
    (guarantees_tryFinally guarantees_releaseHold guarantees_releaseHandover)

omit [DecidableEq Mode] [DecidableEq Token] in
theorem guarantees_cancelRenewal :
    Guarantees (fun s => Owned mode task s ∧ s.training ≠ some .running)
      (.call (cancelGpuHoldRenewal mode token))
      fun _ (t : TrainingState Mode Token) => Owned mode task t ∧ Settled t := by
  refine guarantees_call ?_
  rintro s c t ⟨howned, htraining⟩ ⟨u, child, completion, child', hothers, -, hsettles, -, rfl⟩
  have hu := howned.others hothers
  refine ⟨⟨hu.notes, hu.inUse, rfl⟩, ⟨?_, ?_⟩⟩
  · rw [← hothers.training htraining] at htraining
    exact htraining
  · exact fun hrunning => hsettles.child_ended (Option.some.inj hrunning)

theorem guarantees_cleanUpRun :
    Guarantees (fun s => Owned mode task s ∧ s.training ≠ some .running)
      (cleanUpTrainLoraRun mode token)
      fun _ (t : TrainingState Mode Token) => CleanedUp token task t :=
  guarantees_tryFinally guarantees_cancelRenewal guarantees_releaseResources

omit [DecidableEq Mode] [DecidableEq Token] in
theorem guarantees_cancelTraining :
    Guarantees (Owned mode task) (.call (cancelTrainingTask mode token))
      fun _ (t : TrainingState Mode Token) => Owned mode task t ∧ t.training ≠ some .running := by
  refine guarantees_call ?_
  intro s c t howned hcall
  rw [cancelTrainingTask] at hcall
  split_ifs at hcall with hrunning
  · obtain ⟨u, child, child', hothers, -, hsettles, rfl⟩ := hcall
    have hu := howned.others hothers
    refine ⟨⟨hu.notes, hu.inUse, hu.renewal⟩, ?_⟩
    exact fun hrunning => hsettles.child_ended (Option.some.inj hrunning)
  · obtain ⟨-, rfl⟩ := hcall
    exact ⟨howned, hrunning⟩

omit [DecidableEq Mode] [DecidableEq Token] in
theorem guarantees_awaited :
    Guarantees (Owned mode task) (.call (awaited mode token))
      fun _ (t : TrainingState Mode Token) => Owned mode task t :=
  guarantees_call fun _ _ _ howned hothers => howned.others hothers

omit [DecidableEq Mode] [DecidableEq Token] in
theorem guarantees_skip {pre : TrainingState Mode Token → Prop} :
    Guarantees pre skip fun _ t => pre t := by
  refine guarantees_call ?_
  rintro s c t hpre ⟨-, rfl⟩
  exact hpre

omit [DecidableEq Mode] [DecidableEq Token] in
theorem guarantees_awaitTrainingOrRenewal :
    Guarantees (Owned mode task) (awaitTrainingOrRenewal mode token)
      fun _ (t : TrainingState Mode Token) => Owned mode task t := by
  have hcancelled : Guarantees (Owned mode task)
      (.seq (.call (cancelTrainingTask mode token)) (.call (awaited mode token)))
      fun _ (t : TrainingState Mode Token) => Owned mode task t := by
    refine guarantees_seq guarantees_cancelTraining ?_ (fun _ _ _ howned => howned.1)
    exact fun s c t howned hends => guarantees_awaited s c t howned.1 hends
  have hchecked : Guarantees (Owned mode task)
      (.branch (fun s => s.renewal ≠ some .running)
        (.seq (.call (cancelTrainingTask mode token)) (.call (awaited mode token))) skip)
      fun _ (t : TrainingState Mode Token) => Owned mode task t := by
    refine guarantees_branch ?_ ?_
    · exact fun s c t howned hends => hcancelled s c t howned.1 hends
    · exact fun s c t howned hends => guarantees_skip s c t howned.1 hends
  refine guarantees_seq guarantees_awaited ?_ (fun _ _ _ howned => howned)
  exact guarantees_seq hchecked guarantees_awaited (fun _ _ _ howned => howned)

theorem guarantees_run :
    Guarantees (Owned mode task) (runTrainLoraWithCleanup mode token)
      fun _ (t : TrainingState Mode Token) => CleanedUp token task t :=
  guarantees_tryFinally guarantees_awaitTrainingOrRenewal
    (guarantees_tryFinally guarantees_cancelTraining guarantees_cleanUpRun)

end Calls

section Setup

/-- A setup on its way: what it has been given so far. -/
structure SettingUp (mode : Mode) (s : TrainingState Mode Token) : Prop where
  notes : s.notes = ⟨s.notes.loaded, none, 0, 0, false, false⟩
  inUse : s.notes.loaded = true → 1 ≤ s.cache.inUse mode
  training : s.training = none

omit [DecidableEq Mode] [DecidableEq Token] in
theorem SettingUp.untouched (hsetting : SettingUp mode s) :
    s.notes.task = none ∧ s.notes.decrements = 0 ∧ s.notes.releaseAttempts = 0 ∧
      s.notes.cacheWaitCancelled = false :=
  ⟨congrArg CleanupNotes.task hsetting.notes, congrArg CleanupNotes.decrements hsetting.notes,
    congrArg CleanupNotes.releaseAttempts hsetting.notes,
    congrArg CleanupNotes.cacheWaitCancelled hsetting.notes⟩

omit [DecidableEq Mode] [DecidableEq Token] in
theorem SettingUp.others (hsetting : SettingUp mode s) (hothers : Others mode token s t) :
    SettingUp mode t := by
  have hnotes := hsetting.notes
  refine ⟨?_, ?_, ?_⟩
  · rw [hothers.notes]
    exact hnotes
  · intro hloaded
    rw [hothers.notes] at hloaded
    exact hothers.inUse hloaded (by rw [hnotes]) (hsetting.inUse hloaded)
  · rw [hothers.training (by simp [hsetting.training])]
    exact hsetting.training

omit [DecidableEq Token] in
theorem guarantees_acquireModel :
    Guarantees Fresh (.call (acquireTrainingModel mode token))
      fun c (t : TrainingState Mode Token) => SettingUp mode t ∧ t.renewal = none ∧
        (c = .returned → t.notes.loaded = true) := by
  refine guarantees_call ?_
  rintro s c t hfresh ⟨u, hothers, hcase⟩
  have hsetting : SettingUp mode s := by
    refine ⟨?_, ?_, hfresh.training⟩
    · rw [hfresh.notes]
    · simp [hfresh.notes]
  have hu := hsetting.others hothers
  have hrenewal : u.renewal = none := by
    rw [hothers.renewal (by simp [hfresh.renewal])]
    exact hfresh.renewal
  rcases hcase with ⟨rfl, rfl⟩ | ⟨rfl, -, rfl⟩ | ⟨-, hloaded, rfl⟩
  · exact ⟨hu, hrenewal, by simp⟩
  · exact ⟨hu, hrenewal, by simp⟩
  · refine ⟨⟨?_, ?_, hu.training⟩, hrenewal, fun _ => rfl⟩
    · rw [hu.notes]
    · intro _
      obtain ⟨child, hchild⟩ := Option.isSome_iff_exists.mp hloaded
      simp [acquireForUse, hchild]

omit [DecidableEq Mode] in
theorem guarantees_renewHold :
    Guarantees (fun s => SettingUp mode s ∧ s.notes.loaded = true)
      (.call (renewTrainingHold mode token))
      fun c (t : TrainingState Mode Token) => SettingUp mode t ∧
        (c = .returned → t.notes.loaded = true ∧ t.renewal.isSome = true) := by
  refine guarantees_call ?_
  rintro s c t ⟨hsetting, hloaded⟩ ⟨u, hothers, ⟨hfailed, rfl⟩ | ⟨-, -, rfl⟩⟩
  · exact ⟨hsetting.others hothers, fun hreturned => absurd hreturned hfailed⟩
  · have hu := hsetting.others hothers
    refine ⟨⟨hu.notes, hu.inUse, hu.training⟩, fun _ => ⟨?_, rfl⟩⟩
    show u.notes.loaded = true
    rw [hothers.notes]
    exact hloaded

omit [DecidableEq Mode] in
theorem guarantees_claimHandover :
    Guarantees (fun s => SettingUp mode s ∧ s.notes.loaded = true ∧ s.renewal.isSome = true)
      (.call (claimTrainingHandover mode token))
      fun c (t : TrainingState Mode Token) =>
        (c ≠ .returned → SettingUp mode t) ∧
          (c = .returned → t.training = none ∧ ∃ task, Owned mode task t) := by
  refine guarantees_call ?_
  rintro s c t ⟨hsetting, hloaded, hrenewal⟩
    ⟨u, hothers, ⟨hfailed, rfl⟩ | ⟨hreturned, -, task, -, rfl⟩⟩
  · exact ⟨fun _ => hsetting.others hothers, fun hreturned => absurd hreturned hfailed⟩
  · have hu := hsetting.others hothers
    have hloaded' : u.notes.loaded = true := by
      rw [hothers.notes]
      exact hloaded
    refine ⟨fun hfailed => absurd hreturned hfailed, fun _ => ⟨hu.training, task, ?_, ?_, ?_⟩⟩
    · rw [hu.notes, hloaded']
    · exact hu.inUse hloaded'
    · exact hothers.renewalIsSome.trans hrenewal

omit [DecidableEq Mode] [DecidableEq Token] in
theorem SetupCleanedUp.others (hcleaned : SetupCleanedUp s) (hothers : Others mode token s t) :
    SetupCleanedUp t := by
  obtain ⟨htask, hdecrements, honce, hattempts, htraining, hrenewal⟩ := hcleaned
  have htraining' : t.training = none := by
    rw [hothers.training (by simp [htraining])]
    exact htraining
  have hrenewal' : t.renewal ≠ some .running := by
    rw [hothers.renewal hrenewal]
    exact hrenewal
  rw [← hothers.notes] at htask hdecrements honce hattempts
  exact ⟨htask, hdecrements, honce, hattempts, htraining', hrenewal'⟩

theorem guarantees_cleanUpSetup :
    Guarantees (SettingUp mode) (cleanUpTrainLoraSetup mode token)
      fun _ (t : TrainingState Mode Token) => SetupCleanedUp t := by
  have hrenewal : Guarantees (SettingUp mode)
      (.branch (fun s => s.renewal.isSome) (.call (cancelGpuHoldRenewal mode token)) skip)
      fun _ (t : TrainingState Mode Token) => SettingUp mode t ∧ t.renewal ≠ some .running := by
    refine guarantees_branch (guarantees_call ?_) (guarantees_call ?_)
    · rintro s c t ⟨hsetting, -⟩ ⟨u, child, completion, child', hothers, -, hsettles, -, rfl⟩
      have hu := hsetting.others hothers
      refine ⟨⟨hu.notes, hu.inUse, hu.training⟩, ?_⟩
      exact fun hrunning => hsettles.child_ended (Option.some.inj hrunning)
    · rintro s c t ⟨hsetting, hnone⟩ ⟨-, rfl⟩
      refine ⟨hsetting, ?_⟩
      rw [Option.isSome_eq_false_iff, Option.isNone_iff_eq_none] at hnone
      simp [hnone]
  have hmodel : Guarantees
      (fun (s : TrainingState Mode Token) => SettingUp mode s ∧ s.renewal ≠ some .running)
      (.branch (fun s => s.notes.loaded) (.call (releaseModel mode token)) skip)
      fun _ t => SetupCleanedUp t := by
    refine guarantees_branch (guarantees_call ?_) (guarantees_call ?_)
    · rintro s c t ⟨⟨hsetting, hended⟩, hloaded⟩ ⟨u, hothers, hcase⟩
      have hu := hsetting.others hothers
      have hloaded' : u.notes.loaded = true := by
        rw [hothers.notes]
        exact hloaded
      have hrenewal' : u.renewal ≠ some .running := by
        rw [hothers.renewal hended]
        exact hended
      obtain ⟨htask, hdecrements, hattempts, hwait⟩ := hu.untouched
      rcases hcase with ⟨-, rfl⟩ | ⟨-, rfl⟩
      · exact ⟨htask, by simp, by simp [hdecrements], hattempts, hu.training, hrenewal'⟩
      · have hone := release_inUse (hu.inUse hloaded')
        refine ⟨htask, ?_, ?_, hattempts, hu.training, hrenewal'⟩
        · simp [TrainingState.lowered, hdecrements, hone]
        · simp [TrainingState.lowered, hdecrements, hloaded', hone]
    · rintro s c t ⟨⟨hsetting, hended⟩, hloaded⟩ ⟨-, rfl⟩
      obtain ⟨htask, hdecrements, hattempts, -⟩ := hsetting.untouched
      exact ⟨htask, by simp [hloaded], by simp [hdecrements], hattempts, hsetting.training, hended⟩
  have hhandover : Guarantees (fun s : TrainingState Mode Token => SetupCleanedUp s)
      (.call (releaseGpuHoldHandover mode token)) fun _ t => SetupCleanedUp t := by
    refine guarantees_call ?_
    rintro s c t hcleaned ⟨u, hothers, ⟨-, rfl⟩ | ⟨-, rfl⟩⟩
    · have hu := hcleaned.others hothers
      exact ⟨hu.task, hu.decrements, hu.loweredAtMostOnce, hu.releaseAttempts, hu.training,
        hu.renewal⟩
    · have hu := hcleaned.others hothers
      exact ⟨hu.task, hu.decrements, hu.loweredAtMostOnce, hu.releaseAttempts, hu.training,
        hu.renewal⟩
  exact guarantees_tryFinally hrenewal (guarantees_tryFinally hmodel hhandover)

end Setup

section Request

theorem guarantees_acquireResources :
    Guarantees Fresh (acquireTrainLoraResources mode token)
      fun c (t : TrainingState Mode Token) =>
        (c ≠ .returned → SetupCleanedUp t) ∧
          (c = .returned → t.training = none ∧ ∃ task, Owned mode task t) := by
  have hclaim : Guarantees
      (fun (s : TrainingState Mode Token) => SettingUp mode s ∧ s.notes.loaded = true)
      (.seq (.call (renewTrainingHold mode token)) (.call (claimTrainingHandover mode token)))
      fun c t => (c ≠ .returned → SettingUp mode t) ∧
        (c = .returned → t.training = none ∧ ∃ task, Owned mode task t) := by
    refine guarantees_seq guarantees_renewHold ?_ ?_
    · exact fun s c t hrenewed hends =>
        guarantees_claimHandover s c t ⟨hrenewed.1, hrenewed.2 rfl⟩ hends
    · exact fun c t hfailed hrenewed =>
        ⟨fun _ => hrenewed.1, fun hreturned => absurd hreturned hfailed⟩
  have hbody : Guarantees Fresh
      (.seq (.call (acquireTrainingModel mode token))
        (.seq (.call (renewTrainingHold mode token)) (.call (claimTrainingHandover mode token))))
      fun c (t : TrainingState Mode Token) => (c ≠ .returned → SettingUp mode t) ∧
        (c = .returned → t.training = none ∧ ∃ task, Owned mode task t) := by
    refine guarantees_seq guarantees_acquireModel ?_ ?_
    · exact fun s c t hacquired hends =>
        hclaim s c t ⟨hacquired.1, hacquired.2.2 rfl⟩ hends
    · exact fun c t hfailed hacquired =>
        ⟨fun _ => hacquired.1, fun hreturned => absurd hreturned hfailed⟩
  refine guarantees_tryExcept hbody ?_ ?_
  · intro c t hcaught hmid
    refine ⟨fun hfailed => ?_, hmid.2⟩
    simp [catchesAll, hfailed] at hcaught
  · intro c hcaught s c' t hmid hends
    have hfailed : c ≠ .returned := by simpa [catchesAll] using hcaught
    refine ⟨fun _ => guarantees_cleanUpSetup s c' t (hmid.1 hfailed) hends, fun hreturned => ?_⟩
    exact absurd (afterCleanup_eq_returned.mp hreturned).1 hfailed

theorem guarantees_spawnRunner :
    Guarantees (fun s => Owned mode task s ∧ s.training = none)
      (spawnTrainLoraRunner mode token)
      fun c (t : TrainingState Mode Token) =>
        (c ≠ .returned → CleanedUp token task t) ∧ (c = .returned → Owned mode task t) := by
  have hspawn : Guarantees
      (fun (s : TrainingState Mode Token) => Owned mode task s ∧ s.training = none)
      spawnBackground
      fun c t => c ≠ .cancelled ∧ Owned mode task t ∧ t.training ≠ some .running := by
    refine guarantees_call ?_
    rintro s c t ⟨howned, htraining⟩ ⟨hnotCancelled, rfl⟩
    exact ⟨hnotCancelled, howned, by simp [htraining]⟩
  refine guarantees_tryExcept hspawn ?_ ?_
  · rintro c t hcaught ⟨hnotCancelled, howned, -⟩
    refine ⟨fun hfailed => ?_, fun _ => howned⟩
    cases c with
    | returned => exact absurd rfl hfailed
    | raised => simp [catchesException] at hcaught
    | cancelled => exact absurd rfl hnotCancelled
  · intro c hcaught s c' t hmid hends
    have hraised : c = .raised := by simpa [catchesException] using hcaught
    refine ⟨fun _ => guarantees_cleanUpRun s c' t hmid.2 hends, fun hreturned => ?_⟩
    rw [hraised] at hreturned
    exact absurd (afterCleanup_eq_returned.mp hreturned).1 (by simp)

/-- A request that fails has cleaned up what it was given, and a request that
returns has a runner that cleans up however it ends. -/
theorem training_cleaned_up {s t : TrainingState Mode Token} {c : Completion} (hfresh : Fresh s)
    (hends : Ends (trainLora mode token) s c t) :
    (c ≠ .returned → SetupCleanedUp t ∨ ∃ task, CleanedUp token task t) ∧
      (c = .returned → ∃ task, t.notes.task = some task ∧ ∀ u v c', Others mode token t u →
        Ends (runTrainLoraWithCleanup mode token) { u with training := some .running } c' v →
          CleanedUp token task v) := by
  cases hends with
  | seq hacquire hspawn =>
      obtain ⟨htraining, task, howned⟩ :=
        (guarantees_acquireResources _ _ _ hfresh hacquire).2 rfl
      have hspawned := guarantees_spawnRunner _ _ _ ⟨howned, htraining⟩ hspawn
      refine ⟨fun hfailed => .inr ⟨task, hspawned.1 hfailed⟩, fun hreturned => ?_⟩
      have ht := hspawned.2 hreturned
      refine ⟨task, by rw [ht.notes], ?_⟩
      intro u v c' hothers hrun
      have hu := ht.others hothers
      have hstart : Owned mode task { u with training := some .running } :=
        ⟨hu.notes, hu.inUse, hu.renewal⟩
      exact guarantees_run _ _ _ hstart hrun
  | seqStops hacquire hstops =>
      have hcleaned := (guarantees_acquireResources _ _ _ hfresh hacquire).1 hstops
      exact ⟨fun _ => .inl hcleaned, fun hreturned => absurd hreturned hstops⟩

end Request

omit [DecidableEq Mode] [DecidableEq Token] in
theorem Others.refl (mode : Mode) (token : Token) (s : TrainingState Mode Token) :
    Others mode token s s :=
  ⟨rfl, fun _ _ hinUse => hinUse, fun _ _ htable => htable, fun _ => rfl, rfl, fun _ => rfl, rfl⟩

/-- A worker with `turbo` loaded and held for the token 7. -/
def heldTurbo : TrainingState String Nat where
  cache := ⟨[("turbo", 0)], fun _ => 0, ∅, none⟩
  keys := ⟨none, some 7⟩
  table := ⟨∅, fun _ => none⟩
  training := none
  renewal := none
  notes := ⟨false, none, 0, 0, false, false⟩

def acquiredTurbo : TrainingState String Nat :=
  { heldTurbo with
    cache := (acquireForUse heldTurbo.cache "turbo").1
    notes := { heldTurbo.notes with loaded := true } }

def claimedTurbo : TrainingState String Nat :=
  { acquiredTurbo with
    renewal := some .running
    table := acquiredTurbo.table.claim 7 0
    notes := { acquiredTurbo.notes with task := some 0 } }

theorem acquires_turbo (rest : CleanupProgram (TrainingState String Nat)) {c : Completion}
    {t : TrainingState String Nat} (hrest : Ends rest acquiredTurbo c t) :
    Ends (.seq (.call (acquireTrainingModel "turbo" 7)) rest) heldTurbo c t :=
  .seq (.call ⟨heldTurbo, Others.refl _ _ _, .inr (.inr ⟨rfl, rfl, rfl⟩)⟩) hrest

theorem training_cleaned_up_turbo :
    Ends (trainLora "turbo" 7) heldTurbo .returned claimedTurbo ∧
      ∀ u v c', Others "turbo" 7 claimedTurbo u →
        Ends (runTrainLoraWithCleanup "turbo" 7) { u with training := some .running } c' v →
          CleanedUp 7 0 v := by
  have hfresh : Fresh heldTurbo := ⟨rfl, rfl, rfl⟩
  have hrenewed : Ends (.call (renewTrainingHold "turbo" 7)) acquiredTurbo .returned
      { acquiredTurbo with renewal := some .running } :=
    .call ⟨acquiredTurbo, Others.refl _ _ _, .inr ⟨rfl, rfl, rfl⟩⟩
  have hclaimed : Ends (.call (claimTrainingHandover "turbo" 7))
      { acquiredTurbo with renewal := some .running } .returned claimedTurbo :=
    .call ⟨_, Others.refl _ _ _, .inr ⟨rfl, by decide, 0, by simp [acquiredTurbo, heldTurbo], rfl⟩⟩
  have hacquired : Ends (acquireTrainLoraResources "turbo" 7) heldTurbo .returned claimedTurbo :=
    .passes (acquires_turbo _ (.seq hrenewed hclaimed)) rfl
  have hspawned : Ends (spawnTrainLoraRunner "turbo" 7) claimedTurbo .returned claimedTurbo :=
    .passes (.call ⟨by decide, rfl⟩) rfl
  have hends : Ends (trainLora "turbo" 7) heldTurbo .returned claimedTurbo :=
    .seq hacquired hspawned
  obtain ⟨task, htask, hrun⟩ := (training_cleaned_up hfresh hends).2 rfl
  obtain rfl : 0 = task := Option.some.inj htask
  exact ⟨hends, hrun⟩

/-- A setup whose hold renewal raises gives the model back and does not try to
release the hold. -/
theorem failed_setup_keeps_hold :
    ∃ c t, Fresh heldTurbo ∧ Ends (acquireTrainLoraResources "turbo" 7) heldTurbo c t ∧
      c ≠ .returned ∧ t.notes.releaseAttempts = 0 := by
  have hfresh : Fresh heldTurbo := ⟨rfl, rfl, rfl⟩
  have hraised : Ends (.call (renewTrainingHold "turbo" 7)) acquiredTurbo .raised acquiredTurbo :=
    .call ⟨acquiredTurbo, Others.refl _ _ _, .inl ⟨by decide, rfl⟩⟩
  have hskipped : Ends skip acquiredTurbo .returned acquiredTurbo := .call ⟨rfl, rfl⟩
  have hreleased : Ends (.call (releaseModel "turbo" 7)) acquiredTurbo .returned
      (acquiredTurbo.lowered "turbo" (release acquiredTurbo.cache "turbo").1) :=
    .call ⟨acquiredTurbo, Others.refl _ _ _, .inr ⟨rfl, rfl⟩⟩
  have hdropped : Ends (.call (releaseGpuHoldHandover "turbo" 7))
      (acquiredTurbo.lowered "turbo" (release acquiredTurbo.cache "turbo").1) .returned _ :=
    .call ⟨_, Others.refl _ _ _, .inr ⟨rfl, rfl⟩⟩
  have hcleaned : Ends (cleanUpTrainLoraSetup "turbo" 7) acquiredTurbo .returned _ :=
    .tryFinally (.branchFalse rfl hskipped) (.tryFinally (.branchTrue rfl hreleased) hdropped)
  refine ⟨_, _, hfresh,
    .catches (acquires_turbo _ (.seqStops hraised (by decide))) rfl hcleaned, by decide, rfl⟩

end Songmaker.Worker.TrainingCleanup
