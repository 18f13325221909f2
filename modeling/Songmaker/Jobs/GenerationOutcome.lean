import Songmaker.Jobs.GenerationJob
import Songmaker.Jobs.ProgressNeverFalls

namespace Songmaker.Jobs

open Songmaker.Foundation

namespace JobPoint

/-- The points between the admission and the end of the function. -/
def isWorking : JobPoint → Bool
  | .checking | .admitting _ | .ended _ => false
  | _ => true

/-- The ending the function is on its way to. -/
def ending : JobPoint → Option JobEnding
  | .releasing ending | .ended ending => some ending
  | _ => none

/-- The take the loop is at. -/
def loopIndex : JobPoint → Option Nat
  | .checkingTake index | .startingTake index | .dispatching index | .checkingFetched index
  | .startingSave index | .postProcessing index | .autoScoring index => some index
  | _ => none

/-- How many takes have ended by the point, for a job of `count` takes. -/
def takesDone (count : Nat) : JobPoint → Option Nat
  | .checking | .admitting _ | .requeueing | .enqueueing | .building | .settingUpFailed _
  | .markingRunning | .checkingRunning => some 0
  | .checkingTake index | .startingTake index | .dispatching index | .checkingFetched index
  | .startingSave index | .postProcessing index => some index
  | .autoScoring index => some (index + 1)
  | .checkingFinal | .finalizing | .releasing .finalized | .ended .finalized => some count
  | _ => none

end JobPoint

namespace JobRun

section Frames

variable (run : JobRun)

theorem updateJob_cases (update : JobStatusUpdate) (now : Nat) :
    run.updateJob update now = run ∧ jobIsTerminal run.row = true ∨
      ∃ job, run.updateJob update now =
          { run with
            row := some job
            applied := run.applied || decide (update.status ∈ jobTerminalStatuses) } ∧
        jobIsTerminal run.row = false ∧ job.status = update.status ∧ job.error = update.error ∧
        job.errorType = update.errorType := by
  rw [updateJob]
  cases hrow : run.row with
  | none => exact .inl ⟨rfl, rfl⟩
  | some old =>
      rw [Option.bind_some]
      cases hupdate : old.updateStatus update now with
      | none =>
          refine .inl ⟨rfl, ?_⟩
          rw [JobRow.updateStatus] at hupdate
          by_contra hactive
          rw [if_neg (by simpa [jobIsTerminal] using hactive)] at hupdate
          contradiction
      | some job =>
          rw [JobRow.updateStatus, Option.ite_none_left_eq_some] at hupdate
          obtain ⟨hactive, hjob⟩ := hupdate
          obtain rfl := Option.some.inj hjob
          refine .inr ⟨_, rfl, ?_, rfl, rfl, rfl⟩
          simpa [jobIsTerminal] using hactive

end Frames

/-- `next` keeps the point and the takes of `run`, a terminal row and the
failure that the tracker holds. -/
structure Keeps (run next : JobRun) : Prop where
  count : next.count = run.count
  point : next.point = run.point
  completed : next.completed = run.completed
  outcomes : next.outcomes = run.outcomes
  applied : next.applied = run.applied
  failure : next.tracker.failure = run.tracker.failure
  row : jobIsTerminal run.row = true → next.row = run.row

theorem Keeps.refl (run : JobRun) : Keeps run run :=
  ⟨rfl, rfl, rfl, rfl, rfl, rfl, fun _ => rfl⟩

theorem keeps_updateJob (run : JobRun) {update : JobStatusUpdate}
    (hactive : update.status ∉ jobTerminalStatuses) (now : Nat) :
    Keeps run (run.updateJob update now) := by
  rcases run.updateJob_cases update now with ⟨hsame, -⟩ | ⟨job, hupdate, hrow, -, -, -⟩
  · rw [hsame]
    exact Keeps.refl run
  · rw [hupdate]
    refine ⟨rfl, rfl, rfl, rfl, ?_, rfl, ?_⟩
    · simp [hactive]
    · intro hterminal
      rw [hrow] at hterminal
      contradiction

theorem keeps_tracked (run : JobRun) {result : GenerationProgressTracker × Option JobStatusUpdate}
    (hadvances : run.tracker.Advances result) (now : Nat) :
    Keeps run (run.tracked result now) := by
  obtain ⟨tracker, update⟩ := result
  have hfailure : tracker.failure = run.tracker.failure := hadvances.failure
  cases update with
  | none => exact ⟨rfl, rfl, rfl, rfl, rfl, hfailure, fun _ => rfl⟩
  | some update =>
      have hactive : update.status ∉ jobTerminalStatuses := by
        rw [hadvances.status update rfl]
        decide
      have hkeeps := keeps_updateJob { run with tracker := tracker } hactive now
      exact ⟨hkeeps.count, hkeeps.point, hkeeps.completed, hkeeps.outcomes, hkeeps.applied,
        hkeeps.failure.trans hfailure, hkeeps.row⟩

theorem heartbeat_kept (run : JobRun) (now : Nat) (hterminal : jobIsTerminal run.row = true) :
    run.row.map (fun job => (job.updateHeartbeat now).getD job) = run.row := by
  cases hrow : run.row with
  | none => rfl
  | some job =>
      rw [hrow] at hterminal
      have hended : job.status ∈ jobTerminalStatuses := of_decide_eq_true hterminal
      simp [JobRow.updateHeartbeat, hended]

end JobRun

/-- The take's call returned. -/
def TakeOutcome.returned : TakeOutcome → Bool
  | .persisted | .jobEnded => true
  | .failed _ => false

/-- The job's row holds what the run stored at its ending. -/
def RecordedBy (run : JobRun) (job : JobRow) : JobEnding → Prop
  | .finalized =>
      ∃ update, finalUpdate run.count run.completed run.tracker.failure = .ok update ∧
        job.status = update.status ∧ job.error = update.error ∧
        job.errorType = update.errorType
  | .cancelled =>
      job.status = .failed ∧ job.error = some jobErrorGenerationCancelled ∧
        job.errorType = some "timeout"
  | .setupFailed =>
      job.status = .failed ∧ job.error.isSome ∧ job.errorType = some "setup_error"
  | .failed exc =>
      job.status = .failed ∧ job.error = some (generationFailure exc).message ∧
        job.errorType = some (generationFailure exc).errorType
  | .jobEnded | .requeued | .updateFailed => False

/-- What holds of a job function at each of its calls. -/
structure JobInv (count : Nat) (run : JobRun) : Prop where
  count_eq : run.count = count
  takes : ∀ done, run.point.takesDone count = some done → run.outcomes.length = done
  loop : ∀ index, run.point.loopIndex = some index → index < count
  completed : run.completed = run.outcomes.countP TakeOutcome.returned
  failure : (∃ outcome ∈ run.outcomes, outcome.returned = false) → run.tracker.failure ≠ none
  ended : .jobEnded ∈ run.outcomes → jobIsTerminal run.row = true
  early : run.point.ending = none → run.applied = false
  stored : ∀ ending, run.point.ending = some ending → run.applied = true →
    .jobEnded ∉ run.outcomes ∧
      ∃ job, run.row = some job ∧ job.status ∈ jobTerminalStatuses ∧ RecordedBy run job ending
  gone : ∀ ending, run.point.ending = some ending → run.applied = false →
    ending = .requeued ∨ ending = .updateFailed ∨ jobIsTerminal run.row = true

namespace JobInv

variable {count : Nat} {run kept : JobRun}

theorem move (hinv : JobInv count run) (hkeeps : JobRun.Keeps run kept)
    (hbefore : run.point.ending = none) {point : JobPoint} (hafter : point.ending = none)
    (htakes : ∀ done, point.takesDone count = some done → run.outcomes.length = done)
    (hloop : ∀ index, point.loopIndex = some index → index < count) :
    JobInv count { kept with point := point } := by
  refine ⟨hkeeps.count.trans hinv.count_eq, ?_, hloop, ?_, ?_, ?_, ?_, ?_, ?_⟩
  · intro done hdone
    exact (congrArg List.length hkeeps.outcomes).trans (htakes done hdone)
  · show kept.completed = kept.outcomes.countP _
    rw [hkeeps.completed, hkeeps.outcomes]
    exact hinv.completed
  · show (∃ outcome ∈ kept.outcomes, _) → kept.tracker.failure ≠ none
    rw [hkeeps.outcomes, hkeeps.failure]
    exact hinv.failure
  · intro hended
    have hterminal := hinv.ended (hkeeps.outcomes ▸ hended)
    show jobIsTerminal kept.row = true
    rw [hkeeps.row hterminal]
    exact hterminal
  · exact fun _ => hkeeps.applied.trans (hinv.early hbefore)
  · intro ending hending
    rw [show point.ending = some ending from hending] at hafter
    contradiction
  · intro ending hending
    rw [show point.ending = some ending from hending] at hafter
    contradiction

theorem release (hinv : JobInv count run) (hbefore : run.point.ending = none)
    {ending : JobEnding} (hending : ending ≠ .finalized)
    (hgone : ending = .requeued ∨ ending = .updateFailed ∨ jobIsTerminal run.row = true) :
    JobInv count { run with point := .releasing ending } := by
  refine ⟨hinv.count_eq, ?_, nofun, hinv.completed, hinv.failure, hinv.ended, nofun, ?_, ?_⟩
  · intro done hdone
    cases ending with
    | finalized => exact absurd rfl hending
    | _ => contradiction
  · intro _ _ happlied
    have hearly := hinv.early hbefore
    rw [show run.applied = true from happlied] at hearly
    contradiction
  · rintro _ ⟨⟩ -
    exact hgone

theorem store (hinv : JobInv count run) (hbefore : run.point.ending = none)
    {ending : JobEnding} (htakes : ending = .finalized → run.outcomes.length = count)
    {update : JobStatusUpdate} (hfinal : update.status ∈ jobTerminalStatuses) (now : Nat)
    (hrecorded : ∀ job : JobRow, job.status = update.status → job.error = update.error →
      job.errorType = update.errorType → RecordedBy run job ending) :
    JobInv count { run.updateJob update now with point := .releasing ending } := by
  have hearly := hinv.early hbefore
  have htakesDone : ∀ done, (JobPoint.releasing ending).takesDone count = some done →
      run.outcomes.length = done := by
    intro done hdone
    cases ending with
    | finalized => exact (htakes rfl).trans (Option.some.inj hdone)
    | _ => contradiction
  rcases run.updateJob_cases update now with ⟨hsame, hterminal⟩ |
    ⟨job, hupdate, hactive, hstatus, herror, herrorType⟩
  · rw [hsame]
    refine ⟨hinv.count_eq, htakesDone, nofun, hinv.completed, hinv.failure, hinv.ended, nofun, ?_,
      ?_⟩
    · intro _ _ happlied
      rw [show run.applied = true from happlied] at hearly
      contradiction
    · exact fun _ _ _ => .inr (.inr hterminal)
  · rw [hupdate]
    have hunended : TakeOutcome.jobEnded ∉ run.outcomes := by
      intro hended
      rw [hinv.ended hended] at hactive
      contradiction
    refine ⟨hinv.count_eq, htakesDone, nofun, hinv.completed, hinv.failure, ?_, nofun, ?_, ?_⟩
    · exact fun hended => absurd hended hunended
    · rintro _ ⟨⟩ -
      refine ⟨hunended, job, rfl, hstatus ▸ hfinal, ?_⟩
      have hrow := hrecorded job hstatus herror herrorType
      cases ending with
      | _ => exact hrow
    · intro _ _ happlied
      simp [hfinal] at happlied

theorem head_facts {index limit : Nat} (hlimit : limit = count) (hle : index ≤ count)
    {point : JobPoint}
    (hpoint : point = if index < limit then .checkingTake index else .checkingFinal) :
    point.ending = none ∧ (∀ done, point.takesDone count = some done → index = done) ∧
      ∀ other, point.loopIndex = some other → other < count := by
  subst hpoint hlimit
  split_ifs with hlt
  · refine ⟨rfl, ?_, ?_⟩
    · exact fun done hdone => Option.some.inj hdone
    · rintro other hother
      obtain rfl := Option.some.inj hother
      exact hlt
  · refine ⟨rfl, ?_, nofun⟩
    intro done hdone
    exact (le_antisymm hle (not_lt.mp hlt)).trans (Option.some.inj hdone)

theorem nextTake (hinv : JobInv count run) (hbefore : run.point.ending = none) {index : Nat}
    (hle : index ≤ count) (hlength : run.outcomes.length = index) :
    JobInv count (run.nextTake index) := by
  obtain ⟨hafter, htakes, hloop⟩ := head_facts hinv.count_eq hle rfl
  refine hinv.move (JobRun.Keeps.refl run) hbefore hafter ?_ hloop
  exact fun done hdone => hlength.trans (htakes done hdone)

theorem append (hinv : JobInv count run) (hbefore : run.point.ending = none)
    {outcome : TakeOutcome} {completed : Nat} {tracker : GenerationProgressTracker}
    {point : JobPoint}
    (hcompleted : completed = run.completed + [outcome].countP TakeOutcome.returned)
    (hfailed : outcome.returned = false → tracker.failure ≠ none)
    (hreturned : outcome.returned = true → tracker.failure = run.tracker.failure)
    (hended : outcome = .jobEnded → jobIsTerminal run.row = true)
    (hafter : point.ending = none)
    (htakes : ∀ done, point.takesDone count = some done → run.outcomes.length + 1 = done)
    (hloop : ∀ index, point.loopIndex = some index → index < count) :
    JobInv count
      { run with
        completed := completed
        tracker := tracker
        outcomes := run.outcomes ++ [outcome]
        point := point } := by
  refine ⟨hinv.count_eq, ?_, hloop, ?_, ?_, ?_, ?_, ?_, ?_⟩
  · intro done hdone
    show (run.outcomes ++ [outcome]).length = done
    rw [List.length_append]
    exact htakes done hdone
  · show completed = (run.outcomes ++ [outcome]).countP _
    rw [List.countP_append, ← hinv.completed]
    exact hcompleted
  · rintro ⟨other, hother, hlost⟩
    rcases List.mem_append.mp hother with hold | hnew
    · have hfailure := hinv.failure ⟨other, hold, hlost⟩
      cases hkind : outcome.returned with
      | true => exact hreturned hkind ▸ hfailure
      | false => exact hfailed hkind
    · obtain rfl := List.mem_singleton.mp hnew
      exact hfailed hlost
  · intro hmem
    rcases List.mem_append.mp hmem with hold | hnew
    · exact hinv.ended hold
    · exact hended (List.mem_singleton.mp hnew).symm
  · exact fun _ => hinv.early hbefore
  · intro ending hending
    rw [show point.ending = some ending from hending] at hafter
    contradiction
  · intro ending hending
    rw [show point.ending = some ending from hending] at hafter
    contradiction

theorem takeCompleted_nextTake (hinv : JobInv count run) (hbefore : run.point.ending = none)
    {index : Nat} (hlt : index < count) (hlength : run.outcomes.length = index)
    {outcome : TakeOutcome} (hreturned : outcome.returned = true)
    (hended : outcome = .jobEnded → jobIsTerminal run.row = true) :
    JobInv count ((run.takeCompleted outcome).nextTake (index + 1)) := by
  obtain ⟨hafter, htakes, hloop⟩ := head_facts hinv.count_eq (Nat.succ_le_of_lt hlt) rfl
  refine hinv.append hbefore ?_ ?_ (fun _ => rfl) hended hafter ?_ hloop
  · rw [List.countP_singleton, if_pos hreturned]
    rfl
  · simp [hreturned]
  · exact fun done hdone => hlength ▸ htakes done hdone

theorem takeRaised (hinv : JobInv count run) (hbefore : run.point.ending = none) {index : Nat}
    (hlt : index < count) (hlength : run.outcomes.length = index) (exc : RaisedError) :
    JobInv count (run.takeRaised index exc) := by
  rw [JobRun.takeRaised]
  split_ifs
  · exact hinv.move (JobRun.Keeps.refl run) hbefore rfl nofun nofun
  · obtain ⟨hafter, htakes, hloop⟩ := head_facts hinv.count_eq (Nat.succ_le_of_lt hlt) rfl
    refine hinv.append hbefore rfl ?_ ?_ ?_ hafter ?_ hloop
    · exact fun _ => Option.some_ne_none _
    · simp [TakeOutcome.returned]
    · simp
    · exact fun done hdone => hlength ▸ htakes done hdone

theorem stay (hinv : JobInv count run) (hkeeps : JobRun.Keeps run kept)
    (hbefore : run.point.ending = none) : JobInv count kept := by
  have hsame : kept = { kept with point := run.point } := by
    rw [← hkeeps.point]
  rw [hsame]
  exact hinv.move hkeeps hbefore hbefore (fun done hdone => hinv.takes done hdone)
    (fun index hindex => hinv.loop index hindex)

theorem othersWrite (hinv : JobInv count run) {row : Option JobRow}
    (hrow : jobIsTerminal run.row = true → row = run.row) :
    JobInv count { run with row := row } := by
  have hterminal : jobIsTerminal run.row = true → jobIsTerminal row = true := by
    intro hterminal
    rw [hrow hterminal]
    exact hterminal
  refine ⟨hinv.count_eq, hinv.takes, hinv.loop, hinv.completed, hinv.failure,
    fun hended => hterminal (hinv.ended hended), hinv.early, ?_, ?_⟩
  · intro ending hending happlied
    obtain ⟨hunended, job, hjob, hfinal, hrecorded⟩ := hinv.stored ending hending happlied
    refine ⟨hunended, job, ?_, hfinal, ?_⟩
    · rw [← hjob]
      apply hrow
      rw [hjob]
      exact decide_eq_true hfinal
    · cases ending with
      | _ => exact hrecorded
  · intro ending hending happlied
    rcases hinv.gone ending hending happlied with h | h | h
    · exact .inl h
    · exact .inr (.inl h)
    · exact .inr (.inr (hterminal h))

theorem decrement (hinv : JobInv count run) {ending : JobEnding}
    (hpoint : run.point = .releasing ending) (decrCalls : Nat) :
    JobInv count { run with point := .ended ending, decrCalls := decrCalls } := by
  have hbefore : run.point.ending = some ending := by rw [hpoint]; rfl
  refine ⟨hinv.count_eq, ?_, nofun, hinv.completed, hinv.failure, hinv.ended, nofun, ?_, ?_⟩
  · intro done hdone
    apply hinv.takes done
    rw [hpoint]
    cases ending with
    | _ => exact hdone
  · rintro _ ⟨⟩ happlied
    obtain ⟨hunended, job, hjob, hfinal, hrecorded⟩ := hinv.stored ending hbefore happlied
    refine ⟨hunended, job, hjob, hfinal, ?_⟩
    cases ending with
    | _ => exact hrecorded
  · rintro _ ⟨⟩ happlied
    exact hinv.gone ending hbefore happlied

theorem checked (hinv : JobInv count run) (hbefore : run.point.ending = none)
    {point : JobPoint} (hafter : point.ending = none)
    (htakes : ∀ done, point.takesDone count = some done → run.outcomes.length = done)
    (hloop : ∀ index, point.loopIndex = some index → index < count) :
    JobInv count
      { run with point := if jobIsTerminal run.row then .releasing .jobEnded else point } := by
  split_ifs with hterminal
  · exact hinv.release hbefore (by decide) (.inr (.inr hterminal))
  · exact hinv.move (JobRun.Keeps.refl run) hbefore hafter htakes hloop

theorem readRow (hinv : JobInv count run) {next : JobRun} (hstep : run.readRow = some next) :
    JobInv count next := by
  have htakes := hinv.takes
  have hloop := hinv.loop
  rw [JobRun.readRow] at hstep
  split at hstep
  · rename_i hpoint
    rw [hpoint] at htakes hloop
    obtain rfl := Option.some.inj hstep
    exact hinv.checked (by rw [hpoint]; rfl) rfl htakes nofun
  · rename_i hpoint
    rw [hpoint] at htakes
    have hbefore : run.point.ending = none := by rw [hpoint]; rfl
    split_ifs at hstep with hterminal
    · obtain rfl := Option.some.inj hstep
      exact hinv.release hbefore (by decide) (.inr (.inr hterminal))
    · obtain rfl := Option.some.inj hstep
      exact hinv.nextTake hbefore (Nat.zero_le _) (htakes 0 rfl)
  · rename_i index hpoint
    rw [hpoint] at htakes hloop
    obtain rfl := Option.some.inj hstep
    exact hinv.checked (by rw [hpoint]; rfl) rfl htakes hloop
  · rename_i index hpoint
    rw [hpoint] at htakes hloop
    have hbefore : run.point.ending = none := by rw [hpoint]; rfl
    split_ifs at hstep with hterminal
    · obtain rfl := Option.some.inj hstep
      exact hinv.takeCompleted_nextTake hbefore (hloop index rfl) (htakes index rfl) rfl
        (fun _ => hterminal)
    · obtain rfl := Option.some.inj hstep
      exact hinv.move (JobRun.Keeps.refl run) hbefore rfl htakes hloop
  · rename_i hpoint
    rw [hpoint] at htakes
    obtain rfl := Option.some.inj hstep
    exact hinv.checked (by rw [hpoint]; rfl) rfl htakes nofun
  · contradiction

theorem failedUpdate_final (error errorType : String) :
    (failedUpdate error errorType).status ∈ jobTerminalStatuses := by
  show JobStatus.failed ∈ jobTerminalStatuses
  decide

theorem finalUpdate_final {completed : Nat} {failure : Option GenerationFailure}
    {update : JobStatusUpdate} (hupdate : finalUpdate count completed failure = .ok update) :
    update.status ∈ jobTerminalStatuses := by
  unfold finalUpdate at hupdate
  split_ifs at hupdate
  · cases hupdate
    decide
  all_goals
    cases failure with
    | none => contradiction
    | some failure =>
        cases hupdate
        simp [jobTerminalStatuses]

theorem write (hinv : JobInv count run) {now : Nat} {next : JobRun}
    (hstep : run.write now = some next) : JobInv count next := by
  have htakes := hinv.takes
  rw [JobRun.write] at hstep
  split at hstep
  · rename_i hpoint
    rw [hpoint] at htakes
    obtain rfl := Option.some.inj hstep
    exact hinv.move (run.keeps_updateJob (by decide) now) (by rw [hpoint]; rfl) rfl htakes nofun
  · rename_i exc hpoint
    obtain rfl := Option.some.inj hstep
    refine hinv.store (by rw [hpoint]; rfl) (by simp) (failedUpdate_final _ _) now ?_
    intro job hstatus herror herrorType
    exact ⟨hstatus, by rw [herror]; rfl, herrorType⟩
  · rename_i hpoint
    rw [hpoint] at htakes
    have hbefore : run.point.ending = none := by rw [hpoint]; rfl
    split at hstep
    · obtain rfl := Option.some.inj hstep
      exact hinv.move (JobRun.Keeps.refl run) hbefore rfl nofun nofun
    · rename_i update hupdate
      obtain rfl := Option.some.inj hstep
      refine hinv.store hbefore (fun _ => htakes count rfl) (finalUpdate_final hupdate) now ?_
      intro job hstatus herror herrorType
      exact ⟨update, hupdate, hstatus, herror, herrorType⟩
  · rename_i hpoint
    obtain rfl := Option.some.inj hstep
    refine hinv.store (by rw [hpoint]; rfl) (by simp) (failedUpdate_final _ _) now ?_
    intro job hstatus herror herrorType
    exact ⟨hstatus, herror, herrorType⟩
  · rename_i exc hpoint
    obtain rfl := Option.some.inj hstep
    refine hinv.store (by rw [hpoint]; rfl) (by simp) (failedUpdate_final _ _) now ?_
    intro job hstatus herror herrorType
    exact ⟨hstatus, herror, herrorType⟩
  · contradiction

theorem track (hinv : JobInv count run) {pid now : Nat} {clock : ℚ} {written : Option ℚ}
    {next : JobRun} (hstep : run.track pid clock written now = some next) : JobInv count next := by
  have htakes := hinv.takes
  have hloop := hinv.loop
  rw [JobRun.track] at hstep
  split at hstep
  · rename_i hpoint
    rw [hpoint] at htakes
    have hbefore : run.point.ending = none := by rw [hpoint]; rfl
    have hkeeps := run.keeps_tracked (run.tracker.advances_markRunning pid written) now
    obtain rfl := Option.some.inj hstep
    split_ifs
    · exact hinv.move hkeeps hbefore rfl htakes nofun
    · exact hinv.move hkeeps hbefore rfl nofun nofun
  · rename_i index hpoint
    rw [hpoint] at htakes hloop
    have hbefore : run.point.ending = none := by rw [hpoint]; rfl
    have hkeeps := run.keeps_tracked (run.tracker.advances_startTake index written) now
    obtain rfl := Option.some.inj hstep
    split_ifs
    · exact hinv.move hkeeps hbefore rfl htakes hloop
    · exact hinv.move hkeeps hbefore rfl nofun nofun
  · rename_i index hpoint
    rw [hpoint] at htakes hloop
    have hbefore : run.point.ending = none := by rw [hpoint]; rfl
    have hkeeps := run.keeps_tracked
      (run.tracker.advances_report .savingTake 0 clock written) now
    split_ifs at hstep
    · obtain rfl := Option.some.inj hstep
      exact hinv.move hkeeps hbefore rfl htakes hloop
    · obtain rfl := Option.some.inj hstep
      refine (hinv.stay hkeeps hbefore).takeRaised ?_ (hloop index rfl) ?_ _
      · rw [hkeeps.point]
        exact hbefore
      · rw [hkeeps.outcomes]
        exact htakes index rfl
  · contradiction

theorem raise (hinv : JobInv count run) {exc : RaisedError} {next : JobRun}
    (hstep : run.raise exc = some next) : JobInv count next := by
  have htakes := hinv.takes
  have hloop := hinv.loop
  have hkeeps := JobRun.Keeps.refl run
  rw [JobRun.raise] at hstep
  cases hpoint : run.point with
  | checking | admitting | requeueing | enqueueing | settingUpFailed | checkingRunning
  | checkingTake | checkingFinal | finalizing =>
      rw [hpoint] at hstep
      obtain rfl := Option.some.inj hstep
      exact hinv.move hkeeps (by rw [hpoint]; rfl) rfl nofun nofun
  | building =>
      rw [hpoint] at hstep htakes
      have hbefore : run.point.ending = none := by rw [hpoint]; rfl
      obtain rfl := Option.some.inj hstep
      split_ifs
      · exact hinv.move hkeeps hbefore rfl htakes nofun
      · exact hinv.move hkeeps hbefore rfl nofun nofun
  | dispatching index | checkingFetched index | postProcessing index =>
      rw [hpoint] at hstep htakes hloop
      obtain rfl := Option.some.inj hstep
      exact hinv.takeRaised (by rw [hpoint]; rfl) (hloop index rfl) (htakes index rfl) exc
  | autoScoring index =>
      simp only [hpoint, Option.ite_none_right_eq_some] at hstep
      obtain ⟨-, hstep⟩ := hstep
      obtain rfl := Option.some.inj hstep
      have hraised : JobRun.Keeps run { run with scoringRaised := true } :=
        ⟨rfl, rfl, rfl, rfl, rfl, rfl, fun _ => rfl⟩
      exact hinv.move hraised (by rw [hpoint]; rfl) rfl nofun nofun
  | cancelling | failing =>
      rw [hpoint] at hstep
      obtain rfl := Option.some.inj hstep
      exact hinv.release (by rw [hpoint]; rfl) (by decide) (.inr (.inl rfl))
  | markingRunning | startingTake | startingSave | releasing | ended =>
      rw [hpoint] at hstep
      contradiction

theorem cancel (hinv : JobInv count run) {next : JobRun} (hstep : run.cancel = some next) :
    JobInv count next := by
  rw [JobRun.cancel] at hstep
  cases hpoint : run.point with
  | admitting | enqueueing | building | dispatching | postProcessing | autoScoring =>
      rw [hpoint] at hstep
      obtain rfl := Option.some.inj hstep
      exact hinv.move (JobRun.Keeps.refl run) (by rw [hpoint]; rfl) rfl nofun nofun
  | checking | requeueing | settingUpFailed | markingRunning | checkingRunning | checkingTake
  | startingTake | checkingFetched | startingSave | checkingFinal | finalizing | cancelling
  | failing | releasing | ended =>
      rw [hpoint] at hstep
      contradiction

theorem act (hinv : JobInv count run) {action : JobAction} {next : JobRun}
    (hstep : run.act action = some next) : JobInv count next := by
  have htakes := hinv.takes
  have hloop := hinv.loop
  have hrefl := JobRun.Keeps.refl run
  cases action with
  | readRow => exact hinv.readRow hstep
  | redisTakesSlot =>
      rw [JobRun.act, Option.ite_none_right_eq_some] at hstep
      obtain ⟨hpoint, hstep⟩ := hstep
      obtain rfl := Option.some.inj hstep
      rw [hpoint] at htakes
      have hkeeps : JobRun.Keeps run { run with slotsTaken := run.slotsTaken + 1 } :=
        ⟨rfl, rfl, rfl, rfl, rfl, rfl, fun _ => rfl⟩
      exact hinv.move hkeeps (by rw [hpoint]; rfl) rfl htakes nofun
  | admissionReturns =>
      rw [JobRun.act, Option.ite_none_right_eq_some] at hstep
      obtain ⟨hpoint, hstep⟩ := hstep
      obtain rfl := Option.some.inj hstep
      rw [hpoint] at htakes
      have hkeeps : JobRun.Keeps run { run with granted := true } :=
        ⟨rfl, rfl, rfl, rfl, rfl, rfl, fun _ => rfl⟩
      exact hinv.move hkeeps (by rw [hpoint]; rfl) rfl htakes nofun
  | allWorkersHeld =>
      rw [JobRun.act, Option.ite_none_right_eq_some] at hstep
      obtain ⟨hpoint, hstep⟩ := hstep
      obtain rfl := Option.some.inj hstep
      rw [hpoint] at htakes
      exact hinv.move hrefl (by rw [hpoint]; rfl) rfl htakes nofun
  | write now => exact hinv.write hstep
  | enqueued =>
      rw [JobRun.act, Option.ite_none_right_eq_some] at hstep
      obtain ⟨hpoint, hstep⟩ := hstep
      obtain rfl := Option.some.inj hstep
      exact hinv.release (by rw [hpoint]; rfl) (by decide) (.inl rfl)
  | contextBuilt =>
      rw [JobRun.act, Option.ite_none_right_eq_some] at hstep
      obtain ⟨hpoint, hstep⟩ := hstep
      obtain rfl := Option.some.inj hstep
      rw [hpoint] at htakes
      exact hinv.move hrefl (by rw [hpoint]; rfl) rfl htakes nofun
  | track pid clock written now => exact hinv.track hstep
  | report phase fraction clock written now =>
      simp only [JobRun.act] at hstep
      split at hstep
      · rename_i index hpoint
        obtain rfl := Option.some.inj hstep
        exact hinv.stay (run.keeps_tracked (run.tracker.advances_report _ _ _ _) now)
          (by rw [hpoint]; rfl)
      · contradiction
  | reportRaises phase fraction clock exc =>
      simp only [JobRun.act] at hstep
      split at hstep
      · rename_i index hpoint
        obtain rfl := Option.some.inj hstep
        rw [hpoint] at htakes hloop
        have hbefore : run.point.ending = none := by rw [hpoint]; rfl
        have hfailure := (run.tracker.advances_report (generationPhaseOf phase) fraction clock
          none).failure
        have hstayed : JobInv count { run with tracker :=
            (run.tracker.report (generationPhaseOf phase) fraction clock none).1 } :=
          hinv.stay ⟨rfl, rfl, rfl, rfl, rfl, hfailure, fun _ => rfl⟩ hbefore
        exact hstayed.takeRaised hbefore (hloop index rfl) (htakes index rfl) exc
      · contradiction
  | heartbeat now =>
      simp only [JobRun.act] at hstep
      split at hstep
      · obtain rfl := Option.some.inj hstep
        exact hinv.othersWrite (run.heartbeat_kept now)
      · contradiction
  | fetched =>
      simp only [JobRun.act] at hstep
      split at hstep
      · rename_i index hpoint
        obtain rfl := Option.some.inj hstep
        rw [hpoint] at htakes hloop
        exact hinv.move hrefl (by rw [hpoint]; rfl) rfl htakes hloop
      · contradiction
  | postProcessed =>
      simp only [JobRun.act] at hstep
      split at hstep
      · rename_i index hpoint
        rw [hpoint] at htakes hloop
        have hbefore : run.point.ending = none := by rw [hpoint]; rfl
        split_ifs at hstep with hterminal
        · obtain rfl := Option.some.inj hstep
          exact hinv.takeCompleted_nextTake hbefore (hloop index rfl) (htakes index rfl) rfl
            (fun _ => hterminal)
        · obtain rfl := Option.some.inj hstep
          refine hinv.append hbefore rfl (by simp [TakeOutcome.returned]) (fun _ => rfl) (by simp)
            rfl ?_ hloop
          intro done hdone
          rw [htakes index rfl]
          exact Option.some.inj hdone
      · contradiction
  | autoScored =>
      simp only [JobRun.act] at hstep
      split at hstep
      · rename_i index hpoint
        rw [hpoint] at htakes hloop
        obtain rfl := Option.some.inj hstep
        exact hinv.nextTake (by rw [hpoint]; rfl) (Nat.succ_le_of_lt (hloop index rfl))
          (htakes _ rfl)
      · contradiction
  | raise exc => exact hinv.raise hstep
  | cancel => exact hinv.cancel hstep
  | decrement =>
      simp only [JobRun.act] at hstep
      split at hstep
      · rename_i ending hpoint
        obtain rfl := Option.some.inj hstep
        exact hinv.decrement hpoint _
      · contradiction
  | othersWrite row =>
      rw [JobRun.act, Option.ite_none_right_eq_some] at hstep
      obtain ⟨hrow, hstep⟩ := hstep
      obtain rfl := Option.some.inj hstep
      exact hinv.othersWrite hrow

end JobInv

namespace JobRun

def isEnded : JobPoint → Bool
  | .ended _ => true
  | _ => false

/-- A step between two calls of the function that leaves its slot alone. -/
structure WorksOn (run next : JobRun) : Prop where
  granted : next.granted = run.granted
  slotsTaken : next.slotsTaken = run.slotsTaken
  decrCalls : next.decrCalls = run.decrCalls
  before : isEnded run.point = false
  working : next.point.isWorking = true

/-- The slot of the run: at most one is taken, and it is given back at the end. -/
structure SlotsBalanced (run : JobRun) : Prop where
  untaken : run.point = .checking ∨ run.point = .admitting false → run.slotsTaken = 0
  taken : run.point = .admitting true → run.slotsTaken = 1
  granted : run.granted = true → run.slotsTaken = 1
  le_one : run.slotsTaken ≤ 1
  decrCalls : run.decrCalls = if run.granted = true ∧ isEnded run.point = true then 1 else 0

variable {run next : JobRun}

theorem SlotsBalanced.worksOn (hslots : SlotsBalanced run) (hworks : WorksOn run next) :
    SlotsBalanced next := by
  have hworking := hworks.working
  refine ⟨?_, ?_, ?_, ?_, ?_⟩
  · rintro (hpoint | hpoint)
    all_goals
      rw [hpoint] at hworking
      contradiction
  · intro hpoint
    rw [hpoint] at hworking
    contradiction
  · rw [hworks.granted, hworks.slotsTaken]
    exact hslots.granted
  · rw [hworks.slotsTaken]
    exact hslots.le_one
  · have hended : isEnded next.point = false := by
      cases hpoint : next.point with
      | ended => rw [hpoint] at hworking; contradiction
      | _ => rfl
    have hbefore := hslots.decrCalls
    rw [hworks.before] at hbefore
    rw [hworks.decrCalls, hended, hbefore]
    simp

theorem updateJob_slots (run : JobRun) (update : JobStatusUpdate) (now : Nat) :
    (run.updateJob update now).granted = run.granted ∧
      (run.updateJob update now).slotsTaken = run.slotsTaken ∧
      (run.updateJob update now).decrCalls = run.decrCalls := by
  rw [updateJob]
  split
  · exact ⟨rfl, rfl, rfl⟩
  · exact ⟨rfl, rfl, rfl⟩

theorem tracked_slots (run : JobRun) (result : GenerationProgressTracker × Option JobStatusUpdate)
    (now : Nat) :
    (run.tracked result now).granted = run.granted ∧
      (run.tracked result now).slotsTaken = run.slotsTaken ∧
      (run.tracked result now).decrCalls = run.decrCalls := by
  rw [tracked]
  split
  · exact ⟨rfl, rfl, rfl⟩
  · exact updateJob_slots _ _ now

theorem nextTake_worksOn {moved : JobRun} (hgranted : moved.granted = run.granted)
    (htaken : moved.slotsTaken = run.slotsTaken) (hdecr : moved.decrCalls = run.decrCalls)
    (hbefore : isEnded run.point = false) (index : Nat) : WorksOn run (moved.nextTake index) := by
  refine ⟨hgranted, htaken, hdecr, hbefore, ?_⟩
  rw [nextTake]
  dsimp only
  split_ifs
  · rfl
  · rfl

theorem takeRaised_worksOn {moved : JobRun} (hgranted : moved.granted = run.granted)
    (htaken : moved.slotsTaken = run.slotsTaken) (hdecr : moved.decrCalls = run.decrCalls)
    (hbefore : isEnded run.point = false) (index : Nat) (exc : RaisedError) :
    WorksOn run (moved.takeRaised index exc) := by
  rw [takeRaised]
  split_ifs
  · exact ⟨hgranted, htaken, hdecr, hbefore, rfl⟩
  · exact nextTake_worksOn (by exact hgranted) (by exact htaken) (by exact hdecr) hbefore _

theorem write_worksOn {now : Nat} (hstep : run.write now = some next) : WorksOn run next := by
  have hsame := fun update => run.updateJob_slots update now
  rw [write] at hstep
  split at hstep
  · rename_i hpoint
    obtain rfl := Option.some.inj hstep
    exact ⟨(hsame _).1, (hsame _).2.1, (hsame _).2.2, by rw [hpoint]; rfl, rfl⟩
  · rename_i hpoint
    obtain rfl := Option.some.inj hstep
    exact ⟨(hsame _).1, (hsame _).2.1, (hsame _).2.2, by rw [hpoint]; rfl, rfl⟩
  · rename_i hpoint
    split at hstep
    · obtain rfl := Option.some.inj hstep
      exact ⟨rfl, rfl, rfl, by rw [hpoint]; rfl, rfl⟩
    · obtain rfl := Option.some.inj hstep
      exact ⟨(hsame _).1, (hsame _).2.1, (hsame _).2.2, by rw [hpoint]; rfl, rfl⟩
  · rename_i hpoint
    obtain rfl := Option.some.inj hstep
    exact ⟨(hsame _).1, (hsame _).2.1, (hsame _).2.2, by rw [hpoint]; rfl, rfl⟩
  · rename_i hpoint
    obtain rfl := Option.some.inj hstep
    exact ⟨(hsame _).1, (hsame _).2.1, (hsame _).2.2, by rw [hpoint]; rfl, rfl⟩
  · contradiction

theorem track_worksOn {pid now : Nat} {clock : ℚ} {written : Option ℚ}
    (hstep : run.track pid clock written now = some next) : WorksOn run next := by
  have hsame := fun result => run.tracked_slots result now
  rw [track] at hstep
  split at hstep
  · rename_i hpoint
    obtain rfl := Option.some.inj hstep
    refine ⟨(hsame _).1, (hsame _).2.1, (hsame _).2.2, by rw [hpoint]; rfl, ?_⟩
    dsimp only
    split_ifs
    · rfl
    · rfl
  · rename_i index hpoint
    obtain rfl := Option.some.inj hstep
    refine ⟨(hsame _).1, (hsame _).2.1, (hsame _).2.2, by rw [hpoint]; rfl, ?_⟩
    dsimp only
    split_ifs
    · rfl
    · rfl
  · rename_i index hpoint
    split_ifs at hstep
    · obtain rfl := Option.some.inj hstep
      exact ⟨(hsame _).1, (hsame _).2.1, (hsame _).2.2, by rw [hpoint]; rfl, rfl⟩
    · obtain rfl := Option.some.inj hstep
      exact takeRaised_worksOn (hsame _).1 (hsame _).2.1 (hsame _).2.2 (by rw [hpoint]; rfl) _ _
  · contradiction

theorem raise_worksOn {exc : RaisedError} (hstep : run.raise exc = some next) :
    WorksOn run next := by
  rw [raise] at hstep
  cases hpoint : run.point with
  | checking | admitting | requeueing | enqueueing | settingUpFailed | checkingRunning
  | checkingTake | checkingFinal | finalizing | cancelling | failing =>
      rw [hpoint] at hstep
      obtain rfl := Option.some.inj hstep
      exact ⟨rfl, rfl, rfl, by rw [hpoint]; rfl, rfl⟩
  | building =>
      rw [hpoint] at hstep
      obtain rfl := Option.some.inj hstep
      refine ⟨rfl, rfl, rfl, by rw [hpoint]; rfl, ?_⟩
      dsimp only
      split_ifs
      · rfl
      · rfl
  | dispatching index | checkingFetched index | postProcessing index =>
      rw [hpoint] at hstep
      obtain rfl := Option.some.inj hstep
      exact takeRaised_worksOn rfl rfl rfl (by rw [hpoint]; rfl) index exc
  | autoScoring index =>
      simp only [hpoint, Option.ite_none_right_eq_some] at hstep
      obtain ⟨-, hstep⟩ := hstep
      obtain rfl := Option.some.inj hstep
      exact ⟨rfl, rfl, rfl, by rw [hpoint]; rfl, rfl⟩
  | markingRunning | startingTake | startingSave | releasing | ended =>
      rw [hpoint] at hstep
      contradiction

theorem cancel_worksOn (hstep : run.cancel = some next) : WorksOn run next := by
  rw [cancel] at hstep
  cases hpoint : run.point with
  | admitting | enqueueing | building | dispatching | postProcessing | autoScoring =>
      rw [hpoint] at hstep
      obtain rfl := Option.some.inj hstep
      exact ⟨rfl, rfl, rfl, by rw [hpoint]; rfl, rfl⟩
  | checking | requeueing | settingUpFailed | markingRunning | checkingRunning | checkingTake
  | startingTake | checkingFetched | startingSave | checkingFinal | finalizing | cancelling
  | failing | releasing | ended =>
      rw [hpoint] at hstep
      contradiction

namespace SlotsBalanced

theorem untakenTo (hslots : SlotsBalanced run) (hchecking : run.point = .checking) :
    SlotsBalanced { run with point := .admitting false } := by
  refine ⟨fun _ => hslots.untaken (.inl hchecking), nofun, hslots.granted, hslots.le_one, ?_⟩
  have hbefore := hslots.decrCalls
  rw [hchecking] at hbefore
  exact hbefore

theorem readRow (hslots : SlotsBalanced run) (hstep : run.readRow = some next) :
    SlotsBalanced next := by
  rw [JobRun.readRow] at hstep
  split at hstep
  · rename_i hpoint
    obtain rfl := Option.some.inj hstep
    split_ifs
    · exact hslots.worksOn ⟨rfl, rfl, rfl, by rw [hpoint]; rfl, rfl⟩
    · exact hslots.untakenTo hpoint
  · rename_i hpoint
    have hbefore : isEnded run.point = false := by rw [hpoint]; rfl
    split_ifs at hstep
    · obtain rfl := Option.some.inj hstep
      exact hslots.worksOn ⟨rfl, rfl, rfl, hbefore, rfl⟩
    · obtain rfl := Option.some.inj hstep
      exact hslots.worksOn (nextTake_worksOn rfl rfl rfl hbefore 0)
  · rename_i index hpoint
    obtain rfl := Option.some.inj hstep
    refine hslots.worksOn ⟨rfl, rfl, rfl, by rw [hpoint]; rfl, ?_⟩
    dsimp only
    split_ifs
    · rfl
    · rfl
  · rename_i index hpoint
    have hbefore : isEnded run.point = false := by rw [hpoint]; rfl
    split_ifs at hstep
    · obtain rfl := Option.some.inj hstep
      exact hslots.worksOn (nextTake_worksOn (by rfl) (by rfl) (by rfl) hbefore _)
    · obtain rfl := Option.some.inj hstep
      exact hslots.worksOn ⟨rfl, rfl, rfl, hbefore, rfl⟩
  · rename_i hpoint
    obtain rfl := Option.some.inj hstep
    refine hslots.worksOn ⟨rfl, rfl, rfl, by rw [hpoint]; rfl, ?_⟩
    dsimp only
    split_ifs
    · rfl
    · rfl
  · contradiction

theorem kept (hslots : SlotsBalanced run) {row : Option JobRow}
    {tracker : GenerationProgressTracker} {applied : Bool} (hrow : next =
      { run with row := row, tracker := tracker, applied := applied }) : SlotsBalanced next := by
  subst hrow
  exact ⟨hslots.untaken, hslots.taken, hslots.granted, hslots.le_one, hslots.decrCalls⟩

theorem act (hslots : SlotsBalanced run) {action : JobAction}
    (hstep : run.act action = some next) : SlotsBalanced next := by
  cases action with
  | readRow => exact hslots.readRow hstep
  | redisTakesSlot =>
      rw [JobRun.act, Option.ite_none_right_eq_some] at hstep
      obtain ⟨hpoint, hstep⟩ := hstep
      obtain rfl := Option.some.inj hstep
      have huntaken := hslots.untaken (.inr hpoint)
      refine ⟨by simp, fun _ => by rw [huntaken], ?_, by rw [huntaken], ?_⟩
      · exact fun _ => by rw [huntaken]
      · have hbefore := hslots.decrCalls
        rw [hpoint] at hbefore
        exact hbefore
  | admissionReturns =>
      rw [JobRun.act, Option.ite_none_right_eq_some] at hstep
      obtain ⟨hpoint, hstep⟩ := hstep
      obtain rfl := Option.some.inj hstep
      refine ⟨by simp, nofun, fun _ => hslots.taken hpoint, hslots.le_one, ?_⟩
      have hbefore := hslots.decrCalls
      rw [hpoint] at hbefore
      simpa [isEnded] using hbefore
  | allWorkersHeld =>
      rw [JobRun.act, Option.ite_none_right_eq_some] at hstep
      obtain ⟨hpoint, hstep⟩ := hstep
      obtain rfl := Option.some.inj hstep
      exact hslots.worksOn ⟨rfl, rfl, rfl, by rw [hpoint]; rfl, rfl⟩
  | write now => exact hslots.worksOn (write_worksOn hstep)
  | enqueued =>
      rw [JobRun.act, Option.ite_none_right_eq_some] at hstep
      obtain ⟨hpoint, hstep⟩ := hstep
      obtain rfl := Option.some.inj hstep
      exact hslots.worksOn ⟨rfl, rfl, rfl, by rw [hpoint]; rfl, rfl⟩
  | contextBuilt =>
      rw [JobRun.act, Option.ite_none_right_eq_some] at hstep
      obtain ⟨hpoint, hstep⟩ := hstep
      obtain rfl := Option.some.inj hstep
      exact hslots.worksOn ⟨rfl, rfl, rfl, by rw [hpoint]; rfl, rfl⟩
  | track pid clock written now => exact hslots.worksOn (track_worksOn hstep)
  | report phase fraction clock written now =>
      simp only [JobRun.act] at hstep
      split at hstep
      · rename_i index hpoint
        obtain rfl := Option.some.inj hstep
        have hsame := run.tracked_slots
          (run.tracker.report (generationPhaseOf phase) fraction clock (some written)) now
        have hkeeps := run.keeps_tracked (run.tracker.advances_report
          (generationPhaseOf phase) fraction clock (some written)) now
        refine hslots.worksOn ⟨hsame.1, hsame.2.1, hsame.2.2, by rw [hpoint]; rfl, ?_⟩
        rw [hkeeps.point, hpoint]
        rfl
      · contradiction
  | reportRaises phase fraction clock exc =>
      simp only [JobRun.act] at hstep
      split at hstep
      · rename_i index hpoint
        obtain rfl := Option.some.inj hstep
        exact hslots.worksOn
          (takeRaised_worksOn (by rfl) (by rfl) (by rfl) (by rw [hpoint]; rfl) index exc)
      · contradiction
  | heartbeat now =>
      simp only [JobRun.act] at hstep
      split at hstep
      · obtain rfl := Option.some.inj hstep
        exact hslots.kept rfl
      · contradiction
  | fetched =>
      simp only [JobRun.act] at hstep
      split at hstep
      · rename_i index hpoint
        obtain rfl := Option.some.inj hstep
        exact hslots.worksOn ⟨rfl, rfl, rfl, by rw [hpoint]; rfl, rfl⟩
      · contradiction
  | postProcessed =>
      simp only [JobRun.act] at hstep
      split at hstep
      · rename_i index hpoint
        have hbefore : isEnded run.point = false := by rw [hpoint]; rfl
        split_ifs at hstep
        · obtain rfl := Option.some.inj hstep
          exact hslots.worksOn (nextTake_worksOn (by rfl) (by rfl) (by rfl) hbefore _)
        · obtain rfl := Option.some.inj hstep
          exact hslots.worksOn ⟨rfl, rfl, rfl, hbefore, rfl⟩
      · contradiction
  | autoScored =>
      simp only [JobRun.act] at hstep
      split at hstep
      · rename_i index hpoint
        obtain rfl := Option.some.inj hstep
        exact hslots.worksOn (nextTake_worksOn rfl rfl rfl (by rw [hpoint]; rfl) _)
      · contradiction
  | raise exc => exact hslots.worksOn (raise_worksOn hstep)
  | cancel => exact hslots.worksOn (cancel_worksOn hstep)
  | decrement =>
      simp only [JobRun.act] at hstep
      split at hstep
      · rename_i ending hpoint
        obtain rfl := Option.some.inj hstep
        refine ⟨by simp, nofun, hslots.granted, hslots.le_one, ?_⟩
        have hbefore := hslots.decrCalls
        rw [hpoint] at hbefore
        simp only [isEnded, and_false, Bool.false_eq_true, if_false] at hbefore
        simp [isEnded, hbefore]
      · contradiction
  | othersWrite row =>
      rw [JobRun.act, Option.ite_none_right_eq_some] at hstep
      obtain ⟨-, hstep⟩ := hstep
      obtain rfl := Option.some.inj hstep
      exact hslots.kept rfl

end SlotsBalanced

section TerminalRow

theorem updateJob_row (hterminal : jobIsTerminal run.row = true) (update : JobStatusUpdate)
    (now : Nat) : (run.updateJob update now).row = run.row := by
  rcases run.updateJob_cases update now with ⟨hsame, -⟩ | ⟨job, -, hactive, -⟩
  · rw [hsame]
  · rw [hterminal] at hactive
    contradiction

theorem tracked_row (hterminal : jobIsTerminal run.row = true)
    (result : GenerationProgressTracker × Option JobStatusUpdate) (now : Nat) :
    (run.tracked result now).row = run.row := by
  rw [tracked]
  split
  · rfl
  · have hmoved : jobIsTerminal { run with tracker := result.1 }.row = true := hterminal
    exact updateJob_row hmoved _ now

theorem takeRaised_row (index : Nat) (exc : RaisedError) :
    (run.takeRaised index exc).row = run.row := by
  rw [takeRaised]
  split_ifs
  · rfl
  · rfl

theorem readRow_row (hstep : run.readRow = some next) : next.row = run.row := by
  rw [readRow] at hstep
  split at hstep
  · obtain rfl := Option.some.inj hstep
    rfl
  · split_ifs at hstep
    · obtain rfl := Option.some.inj hstep
      rfl
    · obtain rfl := Option.some.inj hstep
      rfl
  · obtain rfl := Option.some.inj hstep
    rfl
  · split_ifs at hstep
    · obtain rfl := Option.some.inj hstep
      rfl
    · obtain rfl := Option.some.inj hstep
      rfl
  · obtain rfl := Option.some.inj hstep
    rfl
  · contradiction

theorem write_row (hterminal : jobIsTerminal run.row = true) {now : Nat}
    (hstep : run.write now = some next) : next.row = run.row := by
  rw [write] at hstep
  split at hstep
  · obtain rfl := Option.some.inj hstep
    exact updateJob_row hterminal _ now
  · obtain rfl := Option.some.inj hstep
    exact updateJob_row hterminal _ now
  · split at hstep
    · obtain rfl := Option.some.inj hstep
      rfl
    · obtain rfl := Option.some.inj hstep
      exact updateJob_row hterminal _ now
  · obtain rfl := Option.some.inj hstep
    exact updateJob_row hterminal _ now
  · obtain rfl := Option.some.inj hstep
    exact updateJob_row hterminal _ now
  · contradiction

theorem track_row (hterminal : jobIsTerminal run.row = true) {pid now : Nat} {clock : ℚ}
    {written : Option ℚ} (hstep : run.track pid clock written now = some next) :
    next.row = run.row := by
  rw [track] at hstep
  split at hstep
  · obtain rfl := Option.some.inj hstep
    exact tracked_row hterminal _ now
  · obtain rfl := Option.some.inj hstep
    exact tracked_row hterminal _ now
  · split_ifs at hstep
    · obtain rfl := Option.some.inj hstep
      exact tracked_row hterminal _ now
    · obtain rfl := Option.some.inj hstep
      exact (takeRaised_row _ _).trans (tracked_row hterminal _ now)
  · contradiction

theorem raise_row {exc : RaisedError} (hstep : run.raise exc = some next) :
    next.row = run.row := by
  rw [raise] at hstep
  cases hpoint : run.point with
  | checking | admitting | requeueing | enqueueing | settingUpFailed | checkingRunning
  | checkingTake | checkingFinal | finalizing | cancelling | failing | building =>
      rw [hpoint] at hstep
      obtain rfl := Option.some.inj hstep
      rfl
  | dispatching index | checkingFetched index | postProcessing index =>
      rw [hpoint] at hstep
      obtain rfl := Option.some.inj hstep
      exact takeRaised_row index exc
  | autoScoring index =>
      simp only [hpoint, Option.ite_none_right_eq_some] at hstep
      obtain ⟨-, hstep⟩ := hstep
      obtain rfl := Option.some.inj hstep
      rfl
  | markingRunning | startingTake | startingSave | releasing | ended =>
      rw [hpoint] at hstep
      contradiction

theorem cancel_row (hstep : run.cancel = some next) : next.row = run.row := by
  rw [cancel] at hstep
  split at hstep
  on_goal 7 => contradiction
  all_goals
    obtain rfl := Option.some.inj hstep
    rfl

theorem act_row (hterminal : jobIsTerminal run.row = true) {action : JobAction}
    (hstep : run.act action = some next) : next.row = run.row := by
  cases action with
  | readRow => exact readRow_row hstep
  | write now => exact write_row hterminal hstep
  | track pid clock written now => exact track_row hterminal hstep
  | raise exc => exact raise_row hstep
  | cancel => exact cancel_row hstep
  | othersWrite row =>
      rw [JobRun.act, Option.ite_none_right_eq_some] at hstep
      obtain ⟨hrow, hstep⟩ := hstep
      obtain rfl := Option.some.inj hstep
      exact hrow hterminal
  | redisTakesSlot | admissionReturns | allWorkersHeld | enqueued | contextBuilt =>
      rw [JobRun.act, Option.ite_none_right_eq_some] at hstep
      obtain ⟨-, hstep⟩ := hstep
      obtain rfl := Option.some.inj hstep
      rfl
  | report phase fraction clock written now =>
      simp only [JobRun.act] at hstep
      split at hstep
      · obtain rfl := Option.some.inj hstep
        exact tracked_row hterminal _ now
      · contradiction
  | reportRaises phase fraction clock exc =>
      simp only [JobRun.act] at hstep
      split at hstep
      · obtain rfl := Option.some.inj hstep
        exact takeRaised_row _ _
      · contradiction
  | heartbeat now =>
      simp only [JobRun.act] at hstep
      split at hstep
      · obtain rfl := Option.some.inj hstep
        exact run.heartbeat_kept now hterminal
      · contradiction
  | fetched | autoScored | decrement =>
      simp only [JobRun.act] at hstep
      split at hstep
      · obtain rfl := Option.some.inj hstep
        rfl
      · contradiction
  | postProcessed =>
      simp only [JobRun.act] at hstep
      split at hstep
      · rw [if_pos hterminal] at hstep
        obtain rfl := Option.some.inj hstep
        rfl
      · contradiction

end TerminalRow

end JobRun

theorem jobInv_invariant (count : Nat) :
    (jobSystem count).Invariant fun run => JobInv count run ∧ run.SlotsBalanced where
  initial := by
    rintro _ ⟨row, rfl⟩
    refine ⟨⟨rfl, ?_, nofun, rfl, nofun, nofun, fun _ => rfl, nofun, nofun⟩,
      ⟨fun _ => rfl, nofun, nofun, Nat.zero_le 1, rfl⟩⟩
    exact fun done hdone => Option.some.inj hdone
  step := fun _ _ _ hrun hstep => ⟨hrun.1.act hstep, hrun.2.act hstep⟩

theorem row_of_reaches {count : Nat} {run later : JobRun}
    (hreaches : (jobSystem count).Reaches run later) (hterminal : jobIsTerminal run.row = true) :
    later.row = run.row := by
  induction hreaches with
  | refl => rfl
  | tail _ hlast ih =>
      obtain ⟨action, hstep⟩ := hlast
      exact (JobRun.act_row (by rw [ih]; exact hterminal) hstep).trans ih

/-- A finished loop stores the status its takes call for, and a failure unless
every take succeeded. -/
theorem recorded_finalized {count : Nat} (hcount : 1 ≤ count) {run : JobRun}
    (hinv : JobInv count run) (hlength : run.outcomes.length = count)
    (hunended : TakeOutcome.jobEnded ∉ run.outcomes) {job : JobRow}
    (hrecorded : RecordedBy run job .finalized) :
    (job.status = .completed ↔ ∀ outcome ∈ run.outcomes, outcome = .persisted) ∧
      (job.status = .partialResult ↔
        .persisted ∈ run.outcomes ∧ ∃ outcome ∈ run.outcomes, outcome ≠ .persisted) ∧
      (job.status = .failed ↔ .persisted ∉ run.outcomes) ∧
      ((∃ outcome ∈ run.outcomes, outcome ≠ .persisted) →
        job.error.isSome = true ∧ job.errorType.isSome = true) := by
  have hreturned : ∀ outcome ∈ run.outcomes, outcome.returned = true ↔ outcome = .persisted := by
    intro outcome houtcome
    cases outcome with
    | persisted => simp [TakeOutcome.returned]
    | jobEnded => exact absurd houtcome hunended
    | failed exc => simp [TakeOutcome.returned]
  have hall : run.completed = run.count ↔ ∀ outcome ∈ run.outcomes, outcome = .persisted := by
    rw [hinv.completed, hinv.count_eq, ← hlength, List.countP_eq_length]
    exact forall₂_congr hreturned
  have hsome : 0 < run.completed ↔ .persisted ∈ run.outcomes := by
    rw [hinv.completed, List.countP_pos_iff]
    constructor
    · rintro ⟨outcome, houtcome, hkind⟩
      exact (hreturned outcome houtcome).mp hkind ▸ houtcome
    · exact fun hpersisted => ⟨_, hpersisted, rfl⟩
  have hnotAll : (∃ outcome ∈ run.outcomes, outcome ≠ .persisted) ↔ run.completed ≠ run.count := by
    rw [ne_eq, hall]
    push Not
    rfl
  have hmember : run.completed = run.count → .persisted ∈ run.outcomes := by
    intro heq
    rw [← hsome, heq, hinv.count_eq]
    exact hcount
  obtain ⟨update, hupdate, hstatus, herror, herrorType⟩ := hrecorded
  rw [hnotAll, ← hall, ← hsome, hstatus, herror, herrorType]
  rw [← hsome] at hmember
  unfold finalUpdate at hupdate
  split_ifs at hupdate with heq hpos
  · cases hupdate
    have hpos : 0 < run.count := heq ▸ hmember heq
    simp [heq, hpos.ne']
  · cases hfailure : run.tracker.failure with
    | none => simp [hfailure] at hupdate
    | some failure =>
        simp only [hfailure, Except.ok.injEq] at hupdate
        subst hupdate
        simp [heq, hpos]
  · cases hfailure : run.tracker.failure with
    | none => simp [hfailure] at hupdate
    | some failure =>
        simp only [hfailure, Except.ok.injEq] at hupdate
        subst hupdate
        simp [heq, hpos]

/-- A run of the job function that has ended gave its slot back once. If it
finished its loop and its write reached an active row, the status says how many
takes succeeded; the other final writes fail the job with a cause, unless scoring
raised; a requeued job stores no final status; and a row that is terminal at any
moment stays as it is. -/
theorem generation_job_outcome {count : Nat} (hcount : 1 ≤ count) {run : JobRun}
    {ending : JobEnding} (hreach : (jobSystem count).Reachable run)
    (hended : run.point = .ended ending) :
    (run.granted = true → run.slotsTaken = 1) ∧
      run.decrCalls = (if run.granted = true then 1 else 0) ∧
      (ending = .finalized → run.applied = true → run.outcomes.length = count ∧
        ∃ job, run.row = some job ∧
          (job.status = .completed ↔ ∀ outcome ∈ run.outcomes, outcome = .persisted) ∧
          (job.status = .partialResult ↔
            .persisted ∈ run.outcomes ∧ ∃ outcome ∈ run.outcomes, outcome ≠ .persisted) ∧
          (job.status = .failed ↔ .persisted ∉ run.outcomes) ∧
          ((∃ outcome ∈ run.outcomes, outcome ≠ .persisted) →
            job.error.isSome = true ∧ job.errorType.isSome = true)) ∧
      (ending ≠ .finalized → run.scoringRaised = false → run.applied = true →
        ∃ job, run.row = some job ∧ job.status = .failed ∧ job.error.isSome = true ∧
          job.errorType.isSome = true) ∧
      (ending = .requeued → run.applied = false) ∧
      (run.applied = false →
        ending = .requeued ∨ ending = .updateFailed ∨ jobIsTerminal run.row = true) ∧
      ∀ earlier, (jobSystem count).Reaches earlier run → jobIsTerminal earlier.row = true →
        run.row = earlier.row := by
  obtain ⟨hinv, hslots⟩ := (jobInv_invariant count).of_reachable hreach
  have hending : run.point.ending = some ending := by rw [hended]; rfl
  refine ⟨hslots.granted, ?_, ?_, ?_, ?_, fun happlied => hinv.gone ending hending happlied,
    fun earlier hreaches hterminal => row_of_reaches hreaches hterminal⟩
  · have hdecr := hslots.decrCalls
    rw [hended] at hdecr
    simpa [JobRun.isEnded] using hdecr
  · rintro rfl happlied
    obtain ⟨hunended, job, hjob, -, hrecorded⟩ := hinv.stored _ hending happlied
    have hlength : run.outcomes.length = count := hinv.takes count (by rw [hended]; rfl)
    exact ⟨hlength, job, hjob, recorded_finalized hcount hinv hlength hunended hrecorded⟩
  · intro hother _ happlied
    obtain ⟨-, job, hjob, -, hrecorded⟩ := hinv.stored ending hending happlied
    refine ⟨job, hjob, ?_⟩
    cases ending with
    | finalized => exact absurd rfl hother
    | cancelled =>
        obtain ⟨hstatus, herror, htype⟩ := hrecorded
        exact ⟨hstatus, by rw [herror]; rfl, by rw [htype]; rfl⟩
    | setupFailed =>
        obtain ⟨hstatus, herror, htype⟩ := hrecorded
        exact ⟨hstatus, herror, by rw [htype]; rfl⟩
    | failed exc =>
        obtain ⟨hstatus, herror, htype⟩ := hrecorded
        exact ⟨hstatus, by rw [herror]; rfl, by rw [htype]; rfl⟩
    | jobEnded | requeued | updateFailed => exact hrecorded.elim
  · rintro rfl
    refine Bool.eq_false_iff.mpr fun happlied => ?_
    obtain ⟨-, job, -, -, hrecorded⟩ := hinv.stored _ hending happlied
    exact hrecorded

/-- One of two takes is saved and the other one fails. -/
def partialRun : JobRun :=
  TransitionSystem.lastOf (jobStart 2 (some (createJob .generate (some "user") none 0)))
    (TransitionSystem.follow JobRun.act
      (jobStart 2 (some (createJob .generate (some "user") none 0)))
      [.readRow, .redisTakesSlot, .admissionReturns, .contextBuilt, .track 1 0 (some 0) 1, .readRow,
        .readRow, .track 1 0 (some 1) 2, .fetched, .readRow, .track 1 2 (some 2) 3, .postProcessed,
        .autoScored, .readRow, .track 1 0 (some 3) 4, .raise (.workerGpuOutOfMemory "CUDA"),
        .readRow, .write 5, .decrement])

theorem generation_job_outcome_partial :
    partialRun.decrCalls = 1 ∧ ∃ job, partialRun.row = some job ∧
      (job.status = .partialResult ↔ .persisted ∈ partialRun.outcomes ∧
        ∃ outcome ∈ partialRun.outcomes, outcome ≠ .persisted) := by
  have hstart : (jobSystem 2).Reachable
      (jobStart 2 (some (createJob .generate (some "user") none 0))) := .initial ⟨_, rfl⟩
  have hreach : (jobSystem 2).Reachable partialRun := TransitionSystem.reachable_follow hstart _
  have hended : partialRun.point = .ended .finalized := by decide +kernel
  obtain ⟨-, hdecr, hstored, -⟩ := generation_job_outcome (by decide) hreach hended
  obtain ⟨-, job, hjob, -, hpartial, -⟩ := hstored rfl (by decide +kernel)
  refine ⟨?_, job, hjob, hpartial⟩
  rw [hdecr]
  decide +kernel

/-- A cancellation after a saved take fails the job. -/
theorem cancelled_after_saved_take :
    ∃ run, (jobSystem 2).Reachable run ∧ run.point = .ended .cancelled ∧
      run.outcomes = [.persisted] ∧ run.row.map JobRow.status = some .failed := by
  have hstart : (jobSystem 2).Reachable
      (jobStart 2 (some (createJob .generate (some "user") none 0))) := .initial ⟨_, rfl⟩
  refine ⟨_, TransitionSystem.reachable_follow hstart
    [.readRow, .redisTakesSlot, .admissionReturns, .contextBuilt, .track 1 0 (some 0) 1, .readRow,
      .readRow, .track 1 0 (some 1) 2, .fetched, .readRow, .track 1 2 (some 2) 3, .postProcessed,
      .autoScored, .readRow, .track 1 0 (some 3) 4, .cancel, .write 5, .decrement], ?_⟩
  exact ⟨by decide +kernel, by decide +kernel, by decide +kernel⟩

end Songmaker.Jobs
