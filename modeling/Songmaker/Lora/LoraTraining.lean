import Songmaker.Lora.LoraSite

namespace Songmaker.Lora

open Songmaker.Foundation
open Songmaker.Jobs

variable {File : Type}

def loraAdapterDescription : String := "LoRA adapter"

/-- What the worker answered, and whether it reported the handoff directory it was given. -/
structure TrainLoraTaskResult where
  mode : String
  adapterDirIsTmpOutput : Bool
  numSamples : Nat
deriving DecidableEq

/-- The mode that the worker has trained for, which must be the one that was asked for. -/
def validateCompletedTrainingModelMode (requestedMode workerMode : String) :
    LoraProgram File String :=
  if workerMode ∉ loraTrainingModelModes then
    .raise ("Worker completed LoRA training with unsupported model mode: " ++ workerMode)
  else if workerMode ≠ requestedMode then
    .raise ("Worker completed LoRA training with model mode " ++ workerMode ++ ", expected " ++
      requestedMode)
  else return workerMode

/-- The worker must hand over the temporary output and nothing else. -/
def validatedLoraAdapterHandoff (workerResult : TrainLoraTaskResult) : LoraProgram File Unit := do
  if workerResult.adapterDirIsTmpOutput = false then
    .raise "Worker reported unexpected training handoff path"
  else if ← onDisk (Disk.isDir? .trainingTmp) then return ()
  else .raise "Worker reported adapter but it is not a directory"

/-- `os.replace` of the mode record. -/
def replaceModeRecord : LoraProgram File Bool :=
  .call
    { run := fun site =>
        let result := (Disk.rename .modeRecordTmp .modeRecord).run site.disk
        (result.1, (site.setDisk result.2).noteRecord)
      torn := fun _ _ => False }

/-- The mode is recorded beside the adapter, through a temporary file. -/
def recordCompletedTrainingModelMode (jobId modelMode : String) : LoraProgram File Unit := do
  let written ← onDisk (Disk.writeText .modeRecordTmp (some ⟨jobId, modelMode⟩))
  let replaced ← if written then replaceModeRecord else pure false
  let removed ← onDisk (Disk.unlink .modeRecordTmp)
  if replaced && removed then return ()
  else .raise "Failed to record the completed LoRA training mode"

def clearCompletedTrainingModelMode : LoraProgram File Unit := do
  let _ ← onDisk (Disk.unlink .modeRecord)

/-- Returns the mode that the adapter in place was trained in. -/
def saveLoraModelMode (completedModelMode : String) : LoraProgram File (Option String) :=
  commit fun site => do
    validateLoraTrainingModelMode (some completedModelMode)
    return (site.lora.modelMode,
      { site with lora := { site.lora with modelMode := some completedModelMode } })

/-- What stands at the path must be a directory or nothing. -/
def requireLoraAdapterDirectory (path : LoraPath) (description : String) :
    LoraProgram File Unit := do
  if ← onDisk (Disk.exists? path) then
    if ← onDisk (Disk.isDir? path) then return ()
    else .raise (description ++ " path is not a directory")

def stageCurrentLoraAdapter : LoraProgram File Unit := do
  if ← onDisk (Disk.exists? .previous) then
    .raise "Previous LoRA adapter handoff is still pending"
  else if ← onDisk (Disk.exists? .output) then
    requireLoraAdapterDirectory .output loraAdapterDescription
    onDiskOrRaise (Disk.rename .output .previous) "Failed to stage the current LoRA adapter"

def moveLoraAdapter : LoraProgram File Unit := do
  if ← onDisk (Disk.rename .trainingTmp .output) then return ()
  else
    if ← onDisk (Disk.exists? .output) then .raise "Failed to move the LoRA adapter"
    else if ← onDisk (Disk.isDir? .previous) then
      onDiskOrRaise (Disk.rename .previous .output) "Failed to restore the previous LoRA adapter"
      .raise "Failed to replace LoRA adapter; restored the previous adapter"
    else .raise "Failed to move the LoRA adapter"

def replaceLoraAdapter : LoraProgram File Unit := do
  stageCurrentLoraAdapter
  moveLoraAdapter

/-- Removals that fail are only logged. -/
def removeReplacedLoraPaths : LoraProgram File Unit := do
  if ← onDisk (Disk.exists? .previous) then
    let _ ← onDisk (Disk.rmtree .previous)
  let _ ← onDisk (Disk.rmtree .dataset)

def storageRel : String := "output"

/-- The row says that the adapter is ready, and the job is completed. -/
def markLoraTrainingComplete (completedModelMode : String) (sampleCount : Nat) :
    LoraProgram File Unit := do
  commit fun site => do
    validateLoraTrainingModelMode (some completedModelMode)
    let lora :=
      { site.lora with
        status := .ready
        storagePath := some storageRel
        modelMode := some completedModelMode
        error := none }
    return ((), { site with
      lora := lora, audits := site.audits ++ ["ready: samples=" ++ toString sampleCount] })
  commit fun site => .ok ((), { site with
    job := site.job.map fun status =>
      if status ∈ jobTerminalStatuses then status else .completed })

/-- A training that the worker has finished, up to the committed row. -/
def completeLoraTraining (jobId targetMode : String) (workerResult : TrainLoraTaskResult) :
    LoraProgram File Unit := do
  let completedModelMode ← validateCompletedTrainingModelMode targetMode workerResult.mode
  validatedLoraAdapterHandoff workerResult
  recordCompletedTrainingModelMode jobId completedModelMode
  let _previousModelMode ← saveLoraModelMode completedModelMode
  replaceLoraAdapter
  removeReplacedLoraPaths
  clearCompletedTrainingModelMode
  markLoraTrainingComplete completedModelMode workerResult.numSamples

end Songmaker.Lora
