import Mathlib.Tactic.FieldSimp
import Mathlib.Tactic.Linarith
import Mathlib.Tactic.Positivity
import Songmaker.Foundation.TransitionSystem
import Songmaker.Jobs.GenerationFailure
import Songmaker.Jobs.JobRow

namespace Songmaker.Jobs

open Songmaker.Foundation

/-- `AceStepPhase`, the phases a worker reports. -/
inductive AceStepPhase where
  | loadingModel
  | writing
  | rendering
deriving DecidableEq

/-- The part of a job's progress that a take stands for. -/
structure TakeShare where
  startsAt : ℚ
  weight : ℚ

/-- The part of a take's progress that a phase stands for. -/
def takeShares : GenerationPhase → TakeShare
  | .loadingModel => ⟨0, 0⟩
  | .writing => ⟨0, 55 / 100⟩
  | .rendering => ⟨55 / 100, 15 / 100⟩
  | .savingTake => ⟨70 / 100, 30 / 100⟩

def phasesInTakeOrder : List GenerationPhase :=
  [.loadingModel, .writing, .rendering, .savingTake]

def generationPhaseOf : AceStepPhase → GenerationPhase
  | .loadingModel => .loadingModel
  | .writing => .writing
  | .rendering => .rendering

def progressThrottleSeconds : ℚ := 2

/-- The tracker of one job; in `lastWrite`, `none` is minus infinity. -/
structure GenerationProgressTracker where
  takeCount : Nat
  takeIndex : Nat := 0
  phase : Option GenerationPhase := none
  reached : ℚ := 0
  lastWrite : Option ℚ := none
  failure : Option GenerationFailure := none

namespace GenerationProgressTracker

/-- A failed take leaves its failure, unless one is kept that counts for more. -/
def recordFailure (tracker : GenerationProgressTracker) (exc : RaisedError) :
    GenerationProgressTracker :=
  { tracker with failure := some (selectGenerationFailure tracker.failure exc) }

/-- The progress never falls. -/
def raiseTo (tracker : GenerationProgressTracker) (value : ℚ) : GenerationProgressTracker :=
  { tracker with reached := max tracker.reached value }

/-- The update that `_write` hands to `_update_job`, with the fields of its caller. -/
def runningUpdate (tracker : GenerationProgressTracker)
    (workerPid takeIndex takeCount : Option Nat) :
    JobStatusUpdate where
  status := .running
  progress := tracker.reached
  phase := tracker.phase
  error := (runningFailurePair tracker.failure).1
  errorType := (runningFailurePair tracker.failure).2
  workerPid := workerPid
  takeIndex := takeIndex
  takeCount := takeCount

/-- `_write`: `written` is the clock after the write, `none` where the write raised. -/
def write (tracker : GenerationProgressTracker) (update : JobStatusUpdate) (written : Option ℚ) :
    GenerationProgressTracker × Option JobStatusUpdate :=
  match written with
  | some now => ({ tracker with lastWrite := some now }, some update)
  | none => (tracker, none)

/-- The first write of the job, with the worker's pid. -/
def markRunning (tracker : GenerationProgressTracker) (pid : Nat) (written : Option ℚ) :
    GenerationProgressTracker × Option JobStatusUpdate :=
  tracker.write (tracker.runningUpdate (some pid) none none) written

/-- A take begins: no phase of it has been heard of, and the progress stands where its
share begins. -/
def startTake (tracker : GenerationProgressTracker) (index : Nat) (written : Option ℚ) :
    GenerationProgressTracker × Option JobStatusUpdate :=
  let tracker : GenerationProgressTracker :=
    { tracker with takeIndex := index, phase := some (generationPhaseOf .loadingModel) }
  let tracker := tracker.raiseTo (index / tracker.takeCount)
  tracker.write (tracker.runningUpdate none (some (index + 1)) (some tracker.takeCount)) written

/-- The phase is one that the take has left. -/
def precedesCurrentPhase (tracker : GenerationProgressTracker) (phase : GenerationPhase) : Prop :=
  match tracker.phase with
  | none => False
  | some current => phasesInTakeOrder.idxOf phase < phasesInTakeOrder.idxOf current

instance (tracker : GenerationProgressTracker) (phase : GenerationPhase) :
    Decidable (tracker.precedesCurrentPhase phase) := by
  unfold precedesCurrentPhase
  split
  · exact inferInstance
  · exact inferInstance

/-- `self.clock() - self.last_write >= _PROGRESS_THROTTLE_SECONDS`. -/
def writeDue (tracker : GenerationProgressTracker) (now : ℚ) : Prop :=
  ∀ last ∈ tracker.lastWrite, progressThrottleSeconds ≤ now - last

instance (tracker : GenerationProgressTracker) (now : ℚ) : Decidable (tracker.writeDue now) :=
  inferInstanceAs (Decidable (∀ last ∈ tracker.lastWrite, _))

/-- A phase of the take is heard of, with the fraction of it that is done. -/
def report (tracker : GenerationProgressTracker) (phase : GenerationPhase) (fraction now : ℚ)
    (written : Option ℚ) : GenerationProgressTracker × Option JobStatusUpdate :=
  if tracker.precedesCurrentPhase phase then (tracker, none)
  else
    let share := takeShares phase
    let raised := tracker.raiseTo
      ((tracker.takeIndex + share.startsAt + share.weight * fraction) / tracker.takeCount)
    let moved : GenerationProgressTracker := { raised with phase := some phase }
    if tracker.phase ≠ some phase ∨ tracker.writeDue now then
      moved.write (moved.runningUpdate none none none) written
    else (moved, none)

/-- The take has come back, and is saved now. -/
def startSavingTake (tracker : GenerationProgressTracker) (now : ℚ) (written : Option ℚ) :
    GenerationProgressTracker × Option JobStatusUpdate :=
  tracker.report .savingTake 0 now written

end GenerationProgressTracker

/-- A write of the tracker, noted with the number of takes started and the
errors recorded by then. -/
structure RunningWrite where
  update : JobStatusUpdate
  take : Nat
  recorded : List RaisedError

/-- A tracker in its job: takes are started one after the other, and a worker
reports on the take that is running. -/
structure ProgressRun where
  tracker : GenerationProgressTracker
  takesStarted : Nat
  recorded : List RaisedError
  writes : List RunningWrite

/-- What the job or a worker's report makes the tracker do, with the clock
readings and whether the write goes through. -/
inductive ProgressAction where
  | markRunning (pid : Nat) (written : Option ℚ)
  | startTake (written : Option ℚ)
  | report (phase : AceStepPhase) (fraction now : ℚ) (written : Option ℚ)
  | startSavingTake (now : ℚ) (written : Option ℚ)
  | recordFailure (exc : RaisedError)

namespace ProgressRun

/-- The tracker has moved and may have written. -/
def after (run : ProgressRun) (takesStarted : Nat)
    (result : GenerationProgressTracker × Option JobStatusUpdate) : ProgressRun where
  tracker := result.1
  takesStarted := takesStarted
  recorded := run.recorded
  writes := run.writes ++ (result.2.map fun update => ⟨update, takesStarted, run.recorded⟩).toList

def act (run : ProgressRun) : ProgressAction → Option ProgressRun
  | .markRunning pid written =>
      some (run.after run.takesStarted (run.tracker.markRunning pid written))
  | .startTake written =>
      if run.takesStarted < run.tracker.takeCount then
        some (run.after (run.takesStarted + 1) (run.tracker.startTake run.takesStarted written))
      else none
  | .report phase fraction now written =>
      if 0 < run.takesStarted ∧ 0 ≤ fraction ∧ fraction ≤ 1 then
        some (run.after run.takesStarted
          (run.tracker.report (generationPhaseOf phase) fraction now written))
      else none
  | .startSavingTake now written =>
      if 0 < run.takesStarted then
        some (run.after run.takesStarted (run.tracker.startSavingTake now written))
      else none
  | .recordFailure exc =>
      some
        { run with
          tracker := run.tracker.recordFailure exc
          recorded := run.recorded ++ [exc] }

end ProgressRun

/-- A job that has written nothing yet. -/
def progressStart (count : Nat) : ProgressRun where
  tracker := { takeCount := count }
  takesStarted := 0
  recorded := []
  writes := []

/-- The runs of the tracker of a job of `count` takes. -/
def progressSystem (count : Nat) : TransitionSystem ProgressRun ProgressAction :=
  TransitionSystem.ofAct (fun run => run = progressStart count) ProgressRun.act

/-- The place of a phase in a take, before any phase 0. -/
def phaseRank : Option GenerationPhase → Nat
  | none => 0
  | some phase => phasesInTakeOrder.idxOf phase + 1

end Songmaker.Jobs
