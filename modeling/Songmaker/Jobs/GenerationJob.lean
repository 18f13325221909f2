import Songmaker.Jobs.GenerationProgress

namespace Songmaker.Jobs

open Songmaker.Foundation

/-- How one take of the loop ended. In `jobEnded` the job was found terminal
and nothing was saved. -/
inductive TakeOutcome where
  | persisted
  | jobEnded
  | failed (exc : RaisedError)
deriving DecidableEq

/-- How the job function ends; in `updateFailed` the write of its handler raised. -/
inductive JobEnding where
  | jobEnded
  | requeued
  | setupFailed
  | finalized
  | cancelled
  | failed (exc : RaisedError)
  | updateFailed
deriving DecidableEq

/-- The call at which the job function stands. -/
inductive JobPoint where
  | checking
  | admitting (slotTaken : Bool)
  | requeueing
  | enqueueing
  | building
  | settingUpFailed (exc : RaisedError)
  | markingRunning
  | checkingRunning
  | checkingTake (index : Nat)
  | startingTake (index : Nat)
  | dispatching (index : Nat)
  | checkingFetched (index : Nat)
  | startingSave (index : Nat)
  | postProcessing (index : Nat)
  | autoScoring (index : Nat)
  | checkingFinal
  | finalizing
  | cancelling
  | failing (exc : RaisedError)
  | releasing (ending : JobEnding)
  | ended (ending : JobEnding)
deriving DecidableEq

/-- The job function, the row of its job and the queue depth of its worker.
`granted` says that `admitted_worker` is set, `applied` that a final status of
this run was stored, `scoringRaised` that `_auto_score_generation` raised. -/
structure JobRun where
  count : Nat
  point : JobPoint
  row : Option JobRow
  granted : Bool
  slotsTaken : Nat
  decrCalls : Nat
  tracker : GenerationProgressTracker
  completed : Nat
  outcomes : List TakeOutcome
  applied : Bool
  scoringRaised : Bool

/-- What happens at a call: its answers, an exception, a cancellation, or a
write of the row by someone else. -/
inductive JobAction where
  | readRow
  | redisTakesSlot
  | admissionReturns
  | allWorkersHeld
  | write (now : Nat)
  | enqueued
  | contextBuilt
  | track (pid : Nat) (clock : ℚ) (written : Option ℚ) (now : Nat)
  | report (phase : AceStepPhase) (fraction clock : ℚ) (written : ℚ) (now : Nat)
  | reportRaises (phase : AceStepPhase) (fraction clock : ℚ) (exc : RaisedError)
  | heartbeat (now : Nat)
  | fetched
  | postProcessed
  | autoScored
  | raise (exc : RaisedError)
  | cancel
  | decrement
  | othersWrite (row : Option JobRow)

/-- `_job_is_terminal`. -/
def jobIsTerminal : Option JobRow → Bool
  | none => true
  | some job => job.status ∈ jobTerminalStatuses

/-- `isinstance(exc, GenerationSetupError)`. -/
def RaisedError.isSetupError : RaisedError → Bool
  | .generationSetupError _ | .referenceDeletedDuringTake => true
  | _ => false

/-- The update of `_finalize_generation_job`, or what `expect_present` raises. -/
def finalUpdate (count completed : Nat) (failure : Option GenerationFailure) :
    Except RaisedError JobStatusUpdate :=
  if completed = count then .ok { status := .completed, progress := 1 }
  else
    match failure with
    | none => .error .runtimeError
    | some failure =>
        if 0 < completed then
          .ok
            { status := .partialResult
              progress := completed / count
              error := some (partialFailureError completed count failure.message)
              errorType := some failure.errorType }
        else
          .ok
            { status := .failed
              error := some failure.message
              errorType := some failure.errorType }

def requeueUpdate : JobStatusUpdate where
  status := .queued
  queueReason := some "Waiting for LoRA training on this GPU."

/-- The update that ends a job as failed. -/
def failedUpdate (error errorType : String) : JobStatusUpdate where
  status := .failed
  error := some error
  errorType := some errorType

def jobErrorGenerationCancelled : String :=
  "Job cancelled: exceeded ARQ_JOB_TIMEOUT or worker shutdown"

namespace JobRun

/-- `_update_job` once its transaction commits. -/
def updateJob (run : JobRun) (update : JobStatusUpdate) (now : Nat) : JobRun :=
  match run.row.bind (JobRow.updateStatus update now) with
  | none => run
  | some job =>
      { run with
        row := some job
        applied := run.applied || decide (update.status ∈ jobTerminalStatuses) }

/-- The head of the loop over the takes. -/
def nextTake (run : JobRun) (index : Nat) : JobRun :=
  { run with point := if index < run.count then .checkingTake index else .checkingFinal }

/-- A take whose call returned: `completed += 1`. -/
def takeCompleted (run : JobRun) (outcome : TakeOutcome) : JobRun :=
  { run with completed := run.completed + 1, outcomes := run.outcomes ++ [outcome] }

/-- The handlers of `_generate_variant` and the `record_failure` of the loop. -/
def takeRaised (run : JobRun) (index : Nat) (exc : RaisedError) : JobRun :=
  if exc = .referenceDeletedDuringTake then { run with point := .failing exc }
  else
    { run with
        tracker := run.tracker.recordFailure exc
        outcomes := run.outcomes ++ [TakeOutcome.failed exc] }.nextTake (index + 1)

/-- The tracker has moved and its write, if any, is committed. -/
def tracked (run : JobRun) (result : GenerationProgressTracker × Option JobStatusUpdate)
    (now : Nat) : JobRun :=
  match result.2 with
  | none => { run with tracker := result.1 }
  | some update => { run with tracker := result.1 }.updateJob update now

/-- What `_job_is_terminal` decides at the points that call it. -/
def readRow (run : JobRun) : Option JobRun :=
  match run.point with
  | .checking =>
      some { run with
        point := if jobIsTerminal run.row then .releasing .jobEnded else .admitting false }
  | .checkingRunning =>
      if jobIsTerminal run.row then some { run with point := .releasing .jobEnded }
      else some (run.nextTake 0)
  | .checkingTake index =>
      some { run with
        point := if jobIsTerminal run.row then .releasing .jobEnded else .startingTake index }
  | .checkingFetched index =>
      if jobIsTerminal run.row then some ((run.takeCompleted .jobEnded).nextTake (index + 1))
      else some { run with point := .startingSave index }
  | .checkingFinal =>
      some { run with
        point := if jobIsTerminal run.row then .releasing .jobEnded else .finalizing }
  | _ => none

/-- The `_update_job` calls outside the tracker. -/
def write (run : JobRun) (now : Nat) : Option JobRun :=
  match run.point with
  | .requeueing => some { run.updateJob requeueUpdate now with point := .enqueueing }
  | .settingUpFailed exc =>
      some { run.updateJob (failedUpdate (sanitizeError exc) "setup_error") now with
        point := .releasing .setupFailed }
  | .finalizing =>
      match finalUpdate run.count run.completed run.tracker.failure with
      | .error exc => some { run with point := .failing exc }
      | .ok update => some { run.updateJob update now with point := .releasing .finalized }
  | .cancelling =>
      some { run.updateJob (failedUpdate jobErrorGenerationCancelled "timeout") now with
        point := .releasing .cancelled }
  | .failing exc =>
      some { run.updateJob
          (failedUpdate (generationFailure exc).message (generationFailure exc).errorType) now with
        point := .releasing (.failed exc) }
  | _ => none

/-- The tracker calls of the job function, with the clock before and after. -/
def track (run : JobRun) (pid : Nat) (clock : ℚ) (written : Option ℚ) (now : Nat) :
    Option JobRun :=
  match run.point with
  | .markingRunning =>
      some { run.tracked (run.tracker.markRunning pid written) now with
        point := if written.isSome then .checkingRunning else .failing .runtimeError }
  | .startingTake index =>
      some { run.tracked (run.tracker.startTake index written) now with
        point := if written.isSome then .dispatching index else .failing .runtimeError }
  | .startingSave index =>
      if written.isSome then
        some { run.tracked (run.tracker.startSavingTake clock written) now with
          point := .postProcessing index }
      else
        some ((run.tracked (run.tracker.startSavingTake clock written) now).takeRaised index
          .runtimeError)
  | _ => none

/-- An exception at the call of the point. All that `_auto_score_generation` lets through
is the `RuntimeError` of `_update_job` in the handler of `_dispatch_auto_score`. -/
def raise (run : JobRun) (exc : RaisedError) : Option JobRun :=
  match run.point with
  | .checking | .admitting _ | .requeueing | .enqueueing | .settingUpFailed _ | .checkingRunning
  | .checkingTake _ | .checkingFinal | .finalizing => some { run with point := .failing exc }
  | .building =>
      some { run with
        point := if exc.isSetupError then .settingUpFailed exc else .failing exc }
  | .dispatching index | .checkingFetched index | .postProcessing index =>
      some (run.takeRaised index exc)
  | .autoScoring _ =>
      if exc = .runtimeError then some { run with point := .failing exc, scoringRaised := true }
      else none
  | .cancelling | .failing _ => some { run with point := .releasing .updateFailed }
  | .markingRunning | .startingTake _ | .startingSave _ | .releasing _ | .ended _ => none

/-- `CancelledError` at the awaits of the job function. -/
def cancel (run : JobRun) : Option JobRun :=
  match run.point with
  | .admitting _ | .enqueueing | .building | .dispatching _ | .postProcessing _
  | .autoScoring _ => some { run with point := .cancelling }
  | _ => none

/-- One action, `none` where it cannot happen at the point. -/
def act (run : JobRun) : JobAction → Option JobRun
  | .readRow => run.readRow
  | .redisTakesSlot =>
      if run.point = .admitting false then
        some { run with point := .admitting true, slotsTaken := run.slotsTaken + 1 }
      else none
  | .admissionReturns =>
      if run.point = .admitting true then some { run with point := .building, granted := true }
      else none
  | .allWorkersHeld =>
      if run.point = .admitting false then some { run with point := .requeueing } else none
  | .write now => run.write now
  | .enqueued =>
      if run.point = .enqueueing then some { run with point := .releasing .requeued } else none
  | .contextBuilt =>
      if run.point = .building then some { run with point := .markingRunning } else none
  | .track pid clock written now => run.track pid clock written now
  | .report phase fraction clock written now =>
      match run.point with
      | .dispatching _ =>
          some (run.tracked
            (run.tracker.report (generationPhaseOf phase) fraction clock (some written)) now)
      | _ => none
  | .reportRaises phase fraction clock exc =>
      match run.point with
      | .dispatching index =>
          some ({ run with
            tracker := (run.tracker.report (generationPhaseOf phase) fraction clock none).1
          }.takeRaised index exc)
      | _ => none
  | .heartbeat now =>
      match run.point with
      | .dispatching _ =>
          some { run with row := run.row.map fun job => (job.updateHeartbeat now).getD job }
      | _ => none
  | .fetched =>
      match run.point with
      | .dispatching index => some { run with point := .checkingFetched index }
      | _ => none
  | .postProcessed =>
      match run.point with
      | .postProcessing index =>
          if jobIsTerminal run.row then some ((run.takeCompleted .jobEnded).nextTake (index + 1))
          else some { run.takeCompleted .persisted with point := .autoScoring index }
      | _ => none
  | .autoScored =>
      match run.point with
      | .autoScoring index => some (run.nextTake (index + 1))
      | _ => none
  | .raise exc => run.raise exc
  | .cancel => run.cancel
  | .decrement =>
      match run.point with
      | .releasing ending =>
          some { run with
            point := .ended ending
            decrCalls := run.decrCalls + if run.granted then 1 else 0 }
      | _ => none
  | .othersWrite row =>
      if jobIsTerminal run.row → row = run.row then some { run with row := row } else none

end JobRun

/-- A job that the worker is about to begin. -/
def jobStart (count : Nat) (row : Option JobRow) : JobRun where
  count := count
  point := .checking
  row := row
  granted := false
  slotsTaken := 0
  decrCalls := 0
  tracker := { takeCount := count }
  completed := 0
  outcomes := []
  applied := false
  scoringRaised := false

/-- The runs of the job function for a job of `count` takes, whatever its row holds. -/
def jobSystem (count : Nat) : TransitionSystem JobRun JobAction :=
  TransitionSystem.ofAct (fun run => ∃ row, run = jobStart count row) JobRun.act

end Songmaker.Jobs
