import Songmaker.Foundation.Directories
import Songmaker.Jobs.JobRow

namespace Songmaker.Lora

open Songmaker.Foundation
open Songmaker.Jobs

inductive LoraStatus where
  | draft
  | queued
  | preprocessing
  | training
  | exporting
  | ready
  | failed
deriving DecidableEq

def loraActiveStatuses : List LoraStatus := [.queued, .preprocessing, .training, .exporting]

def loraTrainingModelModes : List String := ["sft", "turbo"]

def jobTerminalStatuses : List JobStatus := [.completed, .failed, .partialResult, .cancelled]

structure CompletedLoraTrainingModeRecord where
  jobId : String
  modelMode : String
deriving DecidableEq

/-- The row of an adapter. -/
structure UserLora where
  status : LoraStatus
  storagePath : Option String
  modelMode : Option String
  trainingJobId : Option String
  error : Option String
  deleted : Bool
deriving DecidableEq

/-- The paths that a training writes. -/
inductive LoraPath where
  | output
  | previous
  | trainingTmp
  | dataset
  | modeRecord
  | modeRecordTmp
deriving DecidableEq

/-- A text file either holds a mode record or something that does not parse. -/
abbrev LoraDisk (File : Type) := Disk LoraPath File (Option CompletedLoraTrainingModeRecord)

/-- The adapter's files and rows. -/
structure LoraSite (File : Type) where
  disk : LoraDisk File
  lora : UserLora
  job : Option JobStatus
  audits : List String
  /-- The mode that the last record of the training job was written with. -/
  recordedMode : Option String

variable {File : Type}

/-- A program on the adapter's files and rows. -/
abbrev LoraProgram (File α : Type) := Program (LoraSite File) α

namespace LoraSite

def setDisk (site : LoraSite File) (disk : LoraDisk File) : LoraSite File :=
  { site with disk := disk }

/-- The mode in the record of the LoRA's own training job. -/
def ownRecord (site : LoraSite File) : Option String :=
  match site.disk .modeRecord with
  | some (.file (some record)) =>
      if some record.jobId = site.lora.trainingJobId then some record.modelMode else none
  | _ => none

/-- The mode that the record has is noted with the site. -/
def noteRecord (site : LoraSite File) : LoraSite File :=
  { site with recordedMode := site.ownRecord }

/-- The row says that a training is under way. -/
def Active (site : LoraSite File) : Prop :=
  site.lora.status ∈ loraActiveStatuses

instance (site : LoraSite File) : Decidable site.Active :=
  inferInstanceAs (Decidable (_ ∈ _))

end LoraSite

/-- An action on the files alone. -/
def onDisk {α : Type} (action : Atomic (LoraDisk File) α) : LoraProgram File α :=
  .call (action.through LoraSite.disk LoraSite.setDisk)

def onDiskOrRaise (action : Atomic (LoraDisk File) Bool) (error : String) :
    LoraProgram File Unit := do
  if ← onDisk action then return () else .raise error

/-- A transaction that commits or raises. -/
def commit {α : Type} (transaction : LoraSite File → Except String (α × LoraSite File)) :
    LoraProgram File α := do
  let result ← .call (.update fun site =>
    match transaction site with
    | .ok (result, site') => (.ok result, site')
    | .error error => (.error error, site))
  match (result : Except String α) with
  | .ok result => return result
  | .error error => .raise error

/-- `_validate_lora_training_model_mode`, where a mode is to be written. -/
def validateLoraTrainingModelMode (modelMode : Option String) : Except String Unit :=
  match modelMode with
  | none => .ok ()
  | some mode =>
      if mode ∈ loraTrainingModelModes then .ok ()
      else .error ("Unsupported LoRA training model mode: " ++ mode)

end Songmaker.Lora
