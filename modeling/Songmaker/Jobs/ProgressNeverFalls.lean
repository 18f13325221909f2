import Songmaker.Jobs.GenerationProgress

namespace Songmaker.Jobs

open Songmaker.Foundation

namespace GenerationProgressTracker

variable {tracker : GenerationProgressTracker}

/-- The tracker moves on to `result`: nothing it has reached is lost, and a
write shows where it then stands. -/
structure Advances (tracker : GenerationProgressTracker)
    (result : GenerationProgressTracker × Option JobStatusUpdate) : Prop where
  takeCount : result.1.takeCount = tracker.takeCount
  failure : result.1.failure = tracker.failure
  reached : tracker.reached ≤ result.1.reached
  status : ∀ update ∈ result.2, update.status = .running
  progress : ∀ update ∈ result.2, update.progress = result.1.reached
  phase : ∀ update ∈ result.2, update.phase = result.1.phase
  error : ∀ update ∈ result.2,
    (update.error, update.errorType) = runningFailurePair result.1.failure

theorem write_eq (tracker : GenerationProgressTracker) (update : JobStatusUpdate)
    (written : Option ℚ) :
    ∃ lastWrite, (tracker.write update written).1 = { tracker with lastWrite := lastWrite } ∧
      ∀ other ∈ (tracker.write update written).2, other = update := by
  cases written with
  | none => exact ⟨tracker.lastWrite, rfl, by simp [write]⟩
  | some now => exact ⟨some now, rfl, by simp [write]⟩

theorem advances_write {moved : GenerationProgressTracker}
    (htakeCount : moved.takeCount = tracker.takeCount) (hfailure : moved.failure = tracker.failure)
    (hreached : tracker.reached ≤ moved.reached) (workerPid takeIndex takeCount : Option Nat)
    (written : Option ℚ) :
    tracker.Advances
      (moved.write (moved.runningUpdate workerPid takeIndex takeCount) written) := by
  obtain ⟨lastWrite, hmoved, hupdate⟩ :=
    moved.write_eq (moved.runningUpdate workerPid takeIndex takeCount) written
  refine ⟨?_, ?_, ?_, ?_, ?_, ?_, ?_⟩
  · rw [hmoved]
    exact htakeCount
  · rw [hmoved]
    exact hfailure
  · rw [hmoved]
    exact hreached
  · intro update hmem
    rw [hupdate update hmem]
    rfl
  · intro update hmem
    rw [hupdate update hmem, hmoved]
    rfl
  · intro update hmem
    rw [hupdate update hmem, hmoved]
    rfl
  · intro update hmem
    rw [hupdate update hmem, hmoved]
    rfl

theorem advances_markRunning (pid : Nat) (written : Option ℚ) :
    tracker.Advances (tracker.markRunning pid written) :=
  advances_write rfl rfl le_rfl _ _ _ written

theorem advances_startTake (index : Nat) (written : Option ℚ) :
    tracker.Advances (tracker.startTake index written) := by
  refine advances_write ?_ ?_ ?_ _ _ _ written
  · rfl
  · rfl
  · exact le_max_left _ _

theorem advances_report (phase : GenerationPhase) (fraction now : ℚ) (written : Option ℚ) :
    tracker.Advances (tracker.report phase fraction now written) := by
  rw [report]
  dsimp only
  split_ifs
  · exact ⟨rfl, rfl, le_rfl, by simp, by simp, by simp, by simp⟩
  · refine advances_write ?_ ?_ ?_ _ _ _ written
    · rfl
    · rfl
    · exact le_max_left _ _
  · exact ⟨rfl, rfl, le_max_left _ _, by simp, by simp, by simp, by simp⟩

theorem markRunning_fst (tracker : GenerationProgressTracker) (pid : Nat) (written : Option ℚ) :
    ∃ lastWrite, (tracker.markRunning pid written).1 = { tracker with lastWrite := lastWrite } := by
  obtain ⟨lastWrite, hmoved, -⟩ := tracker.write_eq (tracker.runningUpdate (some pid) none none)
    written
  exact ⟨lastWrite, hmoved⟩

theorem startTake_fst (tracker : GenerationProgressTracker) (index : Nat) (written : Option ℚ) :
    ∃ lastWrite, (tracker.startTake index written).1 =
      { tracker with
        takeIndex := index
        phase := some .loadingModel
        reached := max tracker.reached (index / tracker.takeCount)
        lastWrite := lastWrite } := by
  obtain ⟨lastWrite, hmoved, -⟩ := write_eq
    (raiseTo { tracker with takeIndex := index, phase := some .loadingModel }
      (index / tracker.takeCount)) _ written
  exact ⟨lastWrite, hmoved⟩

/-- A report is either behind the current phase and ignored, or moves the tracker. -/
theorem report_fst (tracker : GenerationProgressTracker) (phase : GenerationPhase)
    (fraction now : ℚ) (written : Option ℚ) :
    (tracker.report phase fraction now written).1 = tracker ∨
      phaseRank tracker.phase ≤ phaseRank (some phase) ∧
        ∃ lastWrite, (tracker.report phase fraction now written).1 =
          { tracker with
            phase := some phase
            reached := max tracker.reached
              ((tracker.takeIndex + (takeShares phase).startsAt +
                (takeShares phase).weight * fraction) / tracker.takeCount)
            lastWrite := lastWrite } := by
  by_cases hprecedes : tracker.precedesCurrentPhase phase
  · left
    rw [report, if_pos hprecedes]
  · right
    constructor
    · cases hcurrent : tracker.phase with
      | none => exact Nat.zero_le _
      | some current =>
          rw [precedesCurrentPhase, hcurrent] at hprecedes
          exact Nat.succ_le_succ (not_lt.mp hprecedes)
    · rw [report, if_neg hprecedes]
      dsimp only
      split_ifs
      · obtain ⟨lastWrite, hmoved, -⟩ := write_eq
          { tracker.raiseTo ((tracker.takeIndex + (takeShares phase).startsAt +
              (takeShares phase).weight * fraction) / tracker.takeCount) with
            phase := some phase } _ written
        exact ⟨lastWrite, hmoved⟩
      · exact ⟨tracker.lastWrite, rfl⟩

end GenerationProgressTracker

/-- Within a phase a take stays below its end; saving it is reported at its start. -/
theorem share_lt_one {phase : GenerationPhase} {fraction : ℚ} (hle : fraction ≤ 1)
    (hsaving : phase = .savingTake → fraction = 0) :
    (takeShares phase).startsAt + (takeShares phase).weight * fraction < 1 := by
  cases phase with
  | loadingModel | writing | rendering =>
      simp only [takeShares]
      linarith
  | savingTake =>
      rw [hsaving rfl]
      norm_num [takeShares]

theorem report_lt_one {index count : Nat} {share : ℚ} (hindex : index < count)
    (hshare : share < 1) :
    ((index : ℚ) + share) / count < 1 := by
  have hcount : (0 : ℚ) < count := by exact_mod_cast Nat.lt_of_le_of_lt (Nat.zero_le _) hindex
  rw [div_lt_one hcount]
  have hsucc : (index : ℚ) + 1 ≤ count := by exact_mod_cast hindex
  linarith

/-- What holds of a tracker and its writes at every moment of a job. -/
structure Tracked (count : Nat) (run : ProgressRun) : Prop where
  takeCount : run.tracker.takeCount = count
  index_lt : 0 < run.takesStarted → run.tracker.takeIndex < count
  reached_lt : run.tracker.reached < 1
  ordered : run.writes.Pairwise fun earlier later =>
    earlier.update.progress ≤ later.update.progress
  below : ∀ entry ∈ run.writes, entry.update.progress ≤ run.tracker.reached
  forward : run.writes.Pairwise fun earlier later => earlier.take = later.take →
    phaseRank earlier.update.phase ≤ phaseRank later.update.phase
  take_le : ∀ entry ∈ run.writes, entry.take ≤ run.takesStarted
  behind : ∀ entry ∈ run.writes, entry.take = run.takesStarted →
    phaseRank entry.update.phase ≤ phaseRank run.tracker.phase
  typed : ∀ failure, run.tracker.failure = some failure → failure.errorType = gpuOutOfMemory →
    failure = outOfMemoryFailure
  recorded : (∃ exc ∈ run.recorded, exc.isOutOfMemory = true) →
    run.tracker.failure = some outOfMemoryFailure
  shown : ∀ entry ∈ run.writes, (∃ exc ∈ entry.recorded, exc.isOutOfMemory = true) →
    entry.update.error = some jobErrorGpuOutOfMemory ∧
      entry.update.errorType = some gpuOutOfMemory

namespace Tracked

variable {count : Nat} {run : ProgressRun}

theorem after (htracked : Tracked count run) {takesStarted : Nat}
    {result : GenerationProgressTracker × Option JobStatusUpdate}
    (hadvances : run.tracker.Advances result) (htakes : run.takesStarted ≤ takesStarted)
    (hindex : 0 < takesStarted → result.1.takeIndex < count) (hreached : result.1.reached < 1)
    (hphase : takesStarted = run.takesStarted →
      phaseRank run.tracker.phase ≤ phaseRank result.1.phase) :
    Tracked count (run.after takesStarted result) := by
  have hnew : ∀ entry ∈ (result.2.map fun update =>
      (⟨update, takesStarted, run.recorded⟩ : RunningWrite)).toList,
      entry.update ∈ result.2 ∧ entry.take = takesStarted ∧ entry.recorded = run.recorded := by
    intro entry hentry
    obtain ⟨update, hupdate, rfl⟩ := Option.map_eq_some_iff.mp (Option.mem_toList.mp hentry)
    exact ⟨hupdate, rfl, rfl⟩
  have hsingle : ∀ relation : RunningWrite → RunningWrite → Prop,
      (result.2.map fun update =>
        (⟨update, takesStarted, run.recorded⟩ : RunningWrite)).toList.Pairwise relation := by
    intro relation
    cases result.2 with
    | none => exact List.Pairwise.nil
    | some update => exact List.pairwise_singleton _ _
  refine ⟨?_, hindex, hreached, ?_, ?_, ?_, ?_, ?_, ?_, ?_, ?_⟩
  · exact hadvances.takeCount.trans htracked.takeCount
  · refine List.pairwise_append.mpr ⟨htracked.ordered, hsingle _, ?_⟩
    intro earlier hearlier later hlater
    rw [hadvances.progress _ (hnew later hlater).1]
    exact (htracked.below earlier hearlier).trans hadvances.reached
  · intro entry hentry
    rcases List.mem_append.mp hentry with hold | hentry
    · exact (htracked.below entry hold).trans hadvances.reached
    · exact (hadvances.progress _ (hnew entry hentry).1).le
  · refine List.pairwise_append.mpr ⟨htracked.forward, hsingle _, ?_⟩
    intro earlier hearlier later hlater hsame
    obtain ⟨hupdate, htake, -⟩ := hnew later hlater
    have heq : takesStarted = run.takesStarted :=
      le_antisymm (htake ▸ hsame ▸ htracked.take_le earlier hearlier) htakes
    rw [hadvances.phase _ hupdate]
    exact (htracked.behind earlier hearlier (hsame.trans (htake.trans heq))).trans (hphase heq)
  · intro entry hentry
    rcases List.mem_append.mp hentry with hold | hentry
    · exact (htracked.take_le entry hold).trans htakes
    · exact (hnew entry hentry).2.1.le
  · intro entry hentry (htake : entry.take = takesStarted)
    rcases List.mem_append.mp hentry with hold | hentry
    · have heq : takesStarted = run.takesStarted :=
        le_antisymm (htake ▸ htracked.take_le entry hold) htakes
      exact (htracked.behind entry hold (htake.trans heq)).trans (hphase heq)
    · rw [hadvances.phase _ (hnew entry hentry).1]
      exact le_rfl
  · intro failure hfailure
    exact htracked.typed failure (hadvances.failure ▸ hfailure)
  · intro hrecorded
    exact hadvances.failure.trans (htracked.recorded hrecorded)
  · intro entry hentry hrecorded
    rcases List.mem_append.mp hentry with hold | hentry
    · exact htracked.shown entry hold hrecorded
    · obtain ⟨hupdate, -, hnoted⟩ := hnew entry hentry
      have hpair := hadvances.error _ hupdate
      rw [hadvances.failure, htracked.recorded (hnoted ▸ hrecorded),
        runningFailurePair_outOfMemory] at hpair
      exact Prod.ext_iff.mp hpair

theorem recordFailure (htracked : Tracked count run) (exc : RaisedError) :
    Tracked count
      { run with
        tracker := run.tracker.recordFailure exc
        recorded := run.recorded ++ [exc] } := by
  refine ⟨htracked.takeCount, htracked.index_lt, htracked.reached_lt, htracked.ordered,
    htracked.below, htracked.forward, htracked.take_le, htracked.behind, ?_, ?_, htracked.shown⟩
  · rintro _ ⟨⟩ htype
    exact selectGenerationFailure_typed htracked.typed exc htype
  · rintro ⟨other, hother, hmemory⟩
    apply congrArg some
    rcases List.mem_append.mp hother with hold | hnew
    · rw [htracked.recorded ⟨other, hold, hmemory⟩]
      exact selectGenerationFailure_outOfMemory exc
    · obtain rfl := List.mem_singleton.mp hnew
      exact selectGenerationFailure_of_outOfMemory htracked.typed hmemory

theorem report (htracked : Tracked count run) (hstarted : 0 < run.takesStarted)
    (phase : GenerationPhase) {fraction : ℚ} (hle : fraction ≤ 1)
    (hsaving : phase = .savingTake → fraction = 0) (now : ℚ) (written : Option ℚ) :
    Tracked count
      (run.after run.takesStarted (run.tracker.report phase fraction now written)) := by
  have hindex := htracked.index_lt hstarted
  have hvalue := report_lt_one hindex (share_lt_one hle hsaving)
  rw [← add_assoc] at hvalue
  rcases run.tracker.report_fst phase fraction now written with hsame | ⟨hrank, lastWrite, hmoved⟩
  · refine htracked.after (GenerationProgressTracker.advances_report _ _ _ _) le_rfl ?_ ?_ ?_
    · rw [hsame]
      exact htracked.index_lt
    · rw [hsame]
      exact htracked.reached_lt
    · rw [hsame]
      exact fun _ => le_rfl
  · refine htracked.after (GenerationProgressTracker.advances_report _ _ _ _) le_rfl ?_ ?_ ?_
    · rw [hmoved]
      exact htracked.index_lt
    · rw [hmoved, htracked.takeCount]
      exact max_lt htracked.reached_lt hvalue
    · rw [hmoved]
      exact fun _ => hrank

theorem startTake (htracked : Tracked count run) (hmore : run.takesStarted < count)
    (written : Option ℚ) :
    Tracked count
      (run.after (run.takesStarted + 1) (run.tracker.startTake run.takesStarted written)) := by
  obtain ⟨lastWrite, hmoved⟩ := run.tracker.startTake_fst run.takesStarted written
  refine htracked.after (GenerationProgressTracker.advances_startTake _ _) (Nat.le_succ _) ?_ ?_ ?_
  · rw [hmoved]
    exact fun _ => hmore
  · rw [hmoved, htracked.takeCount]
    have hvalue : ((run.takesStarted : ℚ) + 0) / count < 1 := report_lt_one hmore zero_lt_one
    rw [add_zero] at hvalue
    exact max_lt htracked.reached_lt hvalue
  · intro hsame
    omega

theorem act (htracked : Tracked count run) {action : ProgressAction} {next : ProgressRun}
    (hstep : run.act action = some next) : Tracked count next := by
  cases action with
  | markRunning pid written =>
      obtain rfl := Option.some.inj hstep
      obtain ⟨lastWrite, hmoved⟩ := run.tracker.markRunning_fst pid written
      refine htracked.after (GenerationProgressTracker.advances_markRunning _ _) le_rfl ?_ ?_ ?_
      · rw [hmoved]
        exact htracked.index_lt
      · rw [hmoved]
        exact htracked.reached_lt
      · rw [hmoved]
        exact fun _ => le_rfl
  | startTake written =>
      rw [ProgressRun.act, Option.ite_none_right_eq_some] at hstep
      obtain ⟨hmore, hstep⟩ := hstep
      obtain rfl := Option.some.inj hstep
      exact htracked.startTake (htracked.takeCount ▸ hmore) written
  | report phase fraction now written =>
      rw [ProgressRun.act, Option.ite_none_right_eq_some] at hstep
      obtain ⟨⟨hstarted, -, hle⟩, hstep⟩ := hstep
      obtain rfl := Option.some.inj hstep
      refine htracked.report hstarted _ hle ?_ now written
      intro hphase
      cases phase with
      | loadingModel | writing | rendering => simp [generationPhaseOf] at hphase
  | startSavingTake now written =>
      rw [ProgressRun.act, Option.ite_none_right_eq_some] at hstep
      obtain ⟨hstarted, hstep⟩ := hstep
      obtain rfl := Option.some.inj hstep
      exact htracked.report hstarted _ zero_le_one (fun _ => rfl) now written
  | recordFailure exc =>
      obtain rfl := Option.some.inj hstep
      exact htracked.recordFailure exc

end Tracked

theorem tracked_invariant (count : Nat) :
    (progressSystem count).Invariant (Tracked count) where
  initial := by
    rintro _ rfl
    refine ⟨rfl, ?_, ?_, ?_, ?_, ?_, ?_, ?_, ?_, ?_, ?_⟩
    all_goals simp [progressStart]
  step := fun _ _ _ htracked hstep => htracked.act hstep

/-- The writes of a tracker never fall and stay below 1, the phase of a take
never moves back, and an out-of-memory failure stays visible. -/
theorem progress_never_falls {count : Nat} {run : ProgressRun}
    (hreach : (progressSystem count).Reachable run) :
    run.writes.Pairwise (fun earlier later =>
        earlier.update.progress ≤ later.update.progress ∧
          (earlier.take = later.take →
            phaseRank earlier.update.phase ≤ phaseRank later.update.phase)) ∧
      ∀ entry ∈ run.writes, entry.update.progress < 1 ∧
        ((∃ exc ∈ entry.recorded, exc.isOutOfMemory = true) →
          entry.update.error = some jobErrorGpuOutOfMemory ∧
            entry.update.errorType = some gpuOutOfMemory) := by
  have htracked := (tracked_invariant count).of_reachable hreach
  refine ⟨htracked.ordered.and htracked.forward, ?_⟩
  intro entry hentry
  exact ⟨(htracked.below entry hentry).trans_lt htracked.reached_lt, htracked.shown entry hentry⟩

/-- Two takes, with the phases of the first one reported out of order and a
failed second one. -/
def reorderedRun : ProgressRun :=
  TransitionSystem.lastOf (progressStart 2)
    (TransitionSystem.follow ProgressRun.act (progressStart 2)
      [.markRunning 1 (some 0), .startTake (some 0), .report .rendering 1 1 (some 1),
        .report .writing 1 9 (some 9), .startSavingTake 9 (some 9), .startTake (some 10),
        .recordFailure (.workerGpuOutOfMemory "CUDA out of memory"), .markRunning 1 (some 11)])

theorem progress_never_falls_reordered :
    reorderedRun.writes.map (fun entry => entry.update.progress) =
        [0, 0, 35 / 100, 35 / 100, 1 / 2, 1 / 2] ∧
      ∀ entry ∈ reorderedRun.writes, entry.update.progress < 1 := by
  have hstart : (progressSystem 2).Reachable (progressStart 2) := .initial rfl
  have hreach : (progressSystem 2).Reachable reorderedRun :=
    TransitionSystem.reachable_follow hstart _
  exact ⟨by decide +kernel, fun entry hentry => ((progress_never_falls hreach).2 entry hentry).1⟩

end Songmaker.Jobs
