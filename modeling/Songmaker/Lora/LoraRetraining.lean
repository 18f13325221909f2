import Songmaker.Foundation.ProgramRuns
import Songmaker.Foundation.TransitionSystem
import Songmaker.Lora.LoraReconciliation

namespace Songmaker.Lora

open Songmaker.Foundation
open Songmaker.Jobs

variable {File : Type}

/-- What a training run meets on its way. An answer that is an error is a worker
that failed, or a job that was cancelled while it waited. -/
structure TrainingRun (File : Type) where
  jobId : String
  targetMode : String
  /-- The status of the job when the run begins. -/
  job : JobStatus
  /-- Why no worker was reserved. -/
  unreserved : Option String
  datasetFiles : List File
  missingSample : Option String
  /-- What the worker leaves at the path that it was given. -/
  handoff : Option (List File)
  answer : Except String TrainLoraTaskResult
  /-- The removals of `_complete_lora_training`. -/
  replaced : LoraPath → Removal File
  /-- The removals of `_cleanup_failed_lora_paths`. -/
  cleaned : LoraPath → Removal File

/-- `_update_job`; an ended job keeps its status. -/
def updateJob (status : JobStatus) : LoraProgram File Bool :=
  commit fun site =>
    .ok (site.job.any fun old => decide (old ∉ jobTerminalStatuses), { site with
      job := site.job.map fun old => if old ∈ jobTerminalStatuses then old else status })

def setLoraStatus (status : LoraStatus) : LoraProgram File Unit :=
  commit fun site =>
    .ok ((), { site with lora := { site.lora with status := status, error := none } })

/-- The loop of `_materialize_dataset`. -/
def writeDataset (run : TrainingRun File) : LoraProgram File Unit := do
  onDisk (.update fun disk => ((), disk.put .dataset (some (.directory run.datasetFiles))))
  match run.missingSample with
  | none => return ()
  | some audioPath => .raise ("Missing LoRA sample audio: " ++ audioPath)

/-- The dataset is written anew. -/
def materializeDataset (run : TrainingRun File) : LoraProgram File Unit := do
  if ← onDisk (Disk.exists? .dataset) then
    onDiskOrRaise (Disk.rmtree .dataset) "Failed to remove the previous dataset"
  writeDataset run

/-- `_pick_and_call_worker`. -/
def pickAndCallWorker (run : TrainingRun File) : LoraProgram File TrainLoraTaskResult := do
  onDisk (.update fun disk => ((), disk.put .trainingTmp (run.handoff.map .directory)))
  match run.answer with
  | .ok result => return result
  | .error error => .raise error

/-- The dataset is prepared and the training handed to the worker. -/
def prepareAndSubmitLora (run : TrainingRun File) :
    LoraProgram File (Option TrainLoraTaskResult) := do
  if ← updateJob .running then
    materializeDataset run
    setLoraStatus .preprocessing
    let _ ← updateJob .running
    if ← onDisk (Disk.exists? .trainingTmp) then
      onDiskOrRaise (Disk.rmtree .trainingTmp) "Failed to remove the training directory"
    let result ← pickAndCallWorker run
    return some result
  else return none

/-- `_remove_replaced_lora_paths`, whose removals turn out in some way. -/
def removeReplacedLoraPathsWith (removals : LoraPath → Removal File) :
    LoraProgram File Unit := do
  if ← onDisk (Disk.exists? .previous) then
    let _ ← onDisk (Disk.tryRmtree .previous (removals .previous))
  let _ ← onDisk (Disk.tryRmtree .dataset (removals .dataset))

def clearCompletedTrainingModelModeWith (removals : LoraPath → Removal File) :
    LoraProgram File Unit := do
  let _ ← onDisk (Disk.tryUnlink .modeRecord (removals .modeRecord))

/-- `_complete_lora_training`, whose removals turn out in some way. -/
def completeLoraTrainingWith (removals : LoraPath → Removal File) (jobId targetMode : String)
    (workerResult : TrainLoraTaskResult) : LoraProgram File Unit := do
  let completedModelMode ← validateCompletedTrainingModelMode targetMode workerResult.mode
  validatedLoraAdapterHandoff workerResult
  recordCompletedTrainingModelMode jobId completedModelMode
  let _previousModelMode ← saveLoraModelMode completedModelMode
  replaceLoraAdapter
  removeReplacedLoraPathsWith removals
  clearCompletedTrainingModelModeWith removals
  markLoraTrainingComplete completedModelMode workerResult.numSamples

theorem completeLoraTrainingWith_works :
    completeLoraTrainingWith (fun _ => (.works : Removal File)) = completeLoraTraining := rfl

def cleanupFailedLoraPathWith (removals : LoraPath → Removal File) (path : LoraPath) :
    LoraProgram File Unit := do
  if ← onDisk (Disk.exists? path) then
    if ← onDisk (Disk.isDir? path) then
      let _ ← onDisk (Disk.tryRmtree path (removals path))
    else
      let _ ← onDisk (Disk.tryUnlink path (removals path))

/-- `_cleanup_failed_lora_paths`, whose removals turn out in some way. -/
def cleanupFailedLoraPathsWith (removals : LoraPath → Removal File) : LoraProgram File Unit := do
  cleanupFailedLoraPathWith removals .dataset
  cleanupFailedLoraPathWith removals .trainingTmp
  cleanupFailedLoraPathWith removals .modeRecord
  cleanupFailedLoraPathWith removals .modeRecordTmp

theorem cleanupFailedLoraPathsWith_works :
    cleanupFailedLoraPathsWith (fun _ => (.works : Removal File)) = cleanupFailedLoraPaths := rfl

/-- `_fail_lora_training`, and what a cancelled run does. -/
def failLoraTraining (run : TrainingRun File) (error : String) : LoraProgram File Unit := do
  commit fun site => .ok ((), cleanupFailedLora error site)
  cleanupFailedLoraPathsWith run.cleaned
  let _ ← updateJob .failed

/-- A training from its reservation to its end. -/
def runLoraTraining (run : TrainingRun File) : LoraProgram File Unit := do
  match run.unreserved with
  | some error => .raise error
  | none =>
      match ← prepareAndSubmitLora run with
      | none => return ()
      | some workerResult =>
          completeLoraTrainingWith run.replaced run.jobId run.targetMode workerResult

/-- `run_lora_training_job`. No step fails here that makes it put a staged adapter back. -/
def runLoraTrainingJob (run : TrainingRun File) : LoraProgram File Unit :=
  (runLoraTraining run).handle (failLoraTraining run)

/-- `api_train_lora` for a request that it accepts. -/
def LoraSite.requestTraining (site : LoraSite File) (run : TrainingRun File) : LoraSite File :=
  { site with
    lora := { site.lora with
      status := .queued
      trainingJobId := some run.jobId
      error := none }
    job := some run.job }

/-- The site after an undisturbed training. -/
def LoraSite.trained (site : LoraSite File) (run : TrainingRun File) : LoraSite File :=
  ((runLoraTrainingJob run).run (site.requestTraining run)).2

/-- A LoRA that has never been trained. -/
structure LoraSite.Fresh (site : LoraSite File) : Prop where
  disk : ∀ path, site.disk path = none
  status : site.lora.status = .draft

/-- The training runs of one LoRA; one that is being trained is refused. -/
def retraining (File : Type) : TransitionSystem (LoraSite File) (TrainingRun File) where
  initial := LoraSite.Fresh
  step site run site' :=
    site.lora.deleted = false ∧ ¬ site.Active ∧ site' = site.trained run

/-- The worker was given its dataset and returned a valid adapter. -/
structure TrainingRun.Valid (run : TrainingRun File) : Prop where
  job : run.job ∉ jobTerminalStatuses
  reserved : run.unreserved = none
  samples : run.missingSample = none
  mode : run.targetMode ∈ loraTrainingModelModes
  handoff : run.handoff ≠ none
  answer : ∃ numSamples, run.answer = .ok ⟨run.targetMode, true, numSamples⟩

/-- The adapter of the run is the LoRA's current one. -/
structure MadeCurrent (run : TrainingRun File) (site : LoraSite File) : Prop where
  ready : site.lora.status = .ready
  output : site.disk .output = run.handoff.map .directory
  storagePath : site.lora.storagePath = some storageRel
  modelMode : site.lora.modelMode = some run.targetMode

/-- A run that replaces an adapter removes the replaced one. -/
def RemovesReplaced (site : LoraSite File) (run : TrainingRun File) : Prop :=
  run.Valid → site.disk .output ≠ none → run.replaced .previous = .works

end Songmaker.Lora
