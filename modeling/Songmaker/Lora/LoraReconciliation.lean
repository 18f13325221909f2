import Songmaker.Lora.LoraTraining

namespace Songmaker.Lora

open Songmaker.Foundation
open Songmaker.Jobs

variable {File : Type}

def readCompletedTrainingModelMode :
    LoraProgram File (Option CompletedLoraTrainingModeRecord) := do
  if ← onDisk (Disk.exists? .modeRecord) then
    match ← onDisk (Disk.readText .modeRecord) with
    | some (some record) =>
        if record.modelMode ∉ loraTrainingModelModes then
          .raise ("Completed LoRA training recorded invalid model mode: " ++ record.modelMode)
        else return some record
    | _ => .raise "Completed LoRA training mode record is invalid"
  else return none

/-- The mode of the training job's record, if the record is that job's. -/
def completedModelModeForLora (trainingJobId : Option String) :
    LoraProgram File (Option String) := do
  match ← readCompletedTrainingModelMode with
  | none => return none
  | some record => return if some record.jobId = trainingJobId then some record.modelMode else none

def recoverRecordedLoraAdapter : LoraProgram File Bool := do
  requireLoraAdapterDirectory .output loraAdapterDescription
  requireLoraAdapterDirectory .previous "Previous LoRA adapter"
  requireLoraAdapterDirectory .trainingTmp "Temporary LoRA adapter"
  if ← onDisk (Disk.isDir? .trainingTmp) then
    if ← onDisk (Disk.exists? .output) then
      onDiskOrRaise (Disk.rename .output .previous) "Failed to stage the LoRA adapter"
    onDiskOrRaise (Disk.rename .trainingTmp .output) "Failed to move the LoRA adapter"
  if ← onDisk (Disk.exists? .previous) then
    onDiskOrRaise (Disk.rmtree .previous) "Failed to remove the previous LoRA adapter"
  onDisk (Disk.isDir? .output)

def restorePreviousLoraAdapter : LoraProgram File Bool := do
  if ← onDisk (Disk.exists? .previous) then
    if ← onDisk (Disk.exists? .output) then
      requireLoraAdapterDirectory .output loraAdapterDescription
      onDiskOrRaise (Disk.rmtree .previous) "Failed to remove the previous LoRA adapter"
    else
      onDiskOrRaise (Disk.rename .previous .output) "Failed to restore the previous LoRA adapter"
    onDisk (Disk.isDir? .output)
  else onDisk (Disk.isDir? .output)

/-- A finished training has its adapter put into place. -/
def recoverCompleteLoraAdapter (completedModelMode : Option String) : LoraProgram File Bool :=
  match completedModelMode with
  | some _ => recoverRecordedLoraAdapter
  | none => restorePreviousLoraAdapter

/-- The row of an adapter whose training has crashed. -/
def cleanupFailedLora (errorMessage : String) (site : LoraSite File) : LoraSite File :=
  { site with
    lora := { site.lora with status := .failed, error := some errorMessage }
    audits := site.audits ++ ["failed: " ++ errorMessage] }

/-- The row gets what the recovery has found, in one commit. -/
def persistCrashedLoraReconciliation (completedModelMode : Option String)
    (recoveredAdapter : Bool) (errorMessage : String) : LoraProgram File Unit :=
  commit fun site => do
    if recoveredAdapter = false then return ((), cleanupFailedLora errorMessage site)
    validateLoraTrainingModelMode completedModelMode
    let lora :=
      { site.lora with
        status := .ready
        storagePath := some storageRel
        modelMode := completedModelMode.or site.lora.modelMode
        error := none }
    return ((), { site with
      lora := lora
      audits := site.audits ++
        ["ready: recovered complete adapter after interrupted training"] })

/-- The path is removed, whatever stands there. -/
def cleanupFailedLoraPath (path : LoraPath) : LoraProgram File Unit := do
  if ← onDisk (Disk.exists? path) then
    if ← onDisk (Disk.isDir? path) then
      let _ ← onDisk (Disk.rmtree path)
    else
      let _ ← onDisk (Disk.unlink path)

def cleanupFailedLoraPaths : LoraProgram File Unit := do
  cleanupFailedLoraPath .dataset
  cleanupFailedLoraPath .trainingTmp
  cleanupFailedLoraPath .modeRecord
  cleanupFailedLoraPath .modeRecordTmp

/-- The filter of `_next_reconcilable_lora`. -/
def LoraSite.reconcilable (site : LoraSite File) : Bool :=
  decide (site.lora.status ∈ loraActiveStatuses) && !site.lora.deleted &&
    (site.lora.trainingJobId.isNone || site.job.all fun status => status ∈ jobTerminalStatuses)

/-- The loop body of `reconcile_crashed_loras` for a LoRA that was selected. -/
def reconcileCrashedLora (trainingJobId : Option String) : LoraProgram File Unit := do
  let completedModelMode ← completedModelModeForLora trainingJobId
  let recoveredAdapter ← recoverCompleteLoraAdapter completedModelMode
  persistCrashedLoraReconciliation completedModelMode recoveredAdapter
    "Training crashed or was interrupted"
  if recoveredAdapter && completedModelMode.isSome then clearCompletedTrainingModelMode
  cleanupFailedLoraPaths

abbrev LoraSites (File : Type) := String → LoraSite File

/-- `loraIds` are all LoRAs in the order of their ids. -/
def nextReconcilableLora (loraIds excludedIds : List String) (sites : LoraSites File) :
    Option (String × Option String) :=
  (loraIds.find? fun loraId => (sites loraId).reconcilable && !excludedIds.contains loraId).map
    fun loraId => (loraId, (sites loraId).lora.trainingJobId)

/-- The loop of `reconcile_crashed_loras`; one that needs more rounds than it is
given does not return. -/
def reconcileCrashedLoras (loraIds : List String) :
    Nat → List String → Nat → Program (LoraSites File) Nat
  | 0, _, _ => .raise "still reconciling"
  | rounds + 1, excludedIds, reconciled => do
      match ← .call (.read (nextReconcilableLora loraIds excludedIds)) with
      | none => return reconciled
      | some (loraId, trainingJobId) =>
          match ← ((reconcileCrashedLora trainingJobId).within loraId).attempt with
          | none => reconcileCrashedLoras loraIds rounds (loraId :: excludedIds) reconciled
          | some () => reconcileCrashedLoras loraIds rounds excludedIds (reconciled + 1)

end Songmaker.Lora
