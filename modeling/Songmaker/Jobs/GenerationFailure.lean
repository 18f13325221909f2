import Mathlib.Data.List.Basic

namespace Songmaker.Jobs

/-- The exceptions that reach `generation_failure`, by the classes it and
`_sanitize_error` tell apart. `workerTaskFailed` stands for a `WorkerTaskFailed`
of any other class than the two before it. -/
inductive RaisedError where
  | workerGpuOutOfMemory (detail : String)
  | workerGenerationUnavailable (detail : String)
  | workerTaskFailed (detail : String)
  | noCapacityError
  | generationSetupError (detail : String)
  | referenceDeletedDuringTake
  | audioDownloadError
  | connectionError
  | timeoutError
  | runtimeError
  | otherError
deriving DecidableEq

def jobErrorGpuOutOfMemory : String := "Too long for the GPU right now — try a shorter duration."

def jobErrorUnexpected : String := "An unexpected error occurred"

def jobErrorReferenceDeletedDuringTake : String :=
  "The reference track was deleted while this take was generating."

def generationSetupMessages : List String :=
  ["Song not found", "Version not found", "Reference audio not found",
    jobErrorReferenceDeletedDuringTake, "Selected voice is unavailable for this generation"]

/-- `_sanitize_error`. -/
def sanitizeError : RaisedError → String
  | .workerGpuOutOfMemory detail | .workerGenerationUnavailable detail
  | .workerTaskFailed detail => detail
  | .generationSetupError detail =>
      if detail ∈ generationSetupMessages then detail else jobErrorUnexpected
  | .referenceDeletedDuringTake => jobErrorReferenceDeletedDuringTake
  | .audioDownloadError => "Failed to download generated audio"
  | .connectionError => "ACE-Step server not reachable"
  | .timeoutError => "Generation timed out"
  | .noCapacityError => "No ACE-Step workers available"
  | .runtimeError => "Internal error during processing"
  | .otherError => jobErrorUnexpected

/-- What a job's row says about its failure. -/
structure GenerationFailure where
  message : String
  errorType : String
deriving DecidableEq

def gpuOutOfMemory : String := "gpu_out_of_memory"

/-- What the job's row says about an exception. -/
def generationFailure : RaisedError → GenerationFailure
  | .workerGpuOutOfMemory _ => ⟨jobErrorGpuOutOfMemory, gpuOutOfMemory⟩
  | .workerGenerationUnavailable _ | .noCapacityError =>
      ⟨"Generating isn't available right now.", "generation_unavailable"⟩
  | .workerTaskFailed _ => ⟨"Generating failed — try again.", "generation_error"⟩
  | exc => ⟨sanitizeError exc, "generation_error"⟩

/-- The failure that is kept: a visible one is not replaced. -/
def selectGenerationFailure (previous : Option GenerationFailure) (exc : RaisedError) :
    GenerationFailure :=
  match previous with
  | some earlier => if earlier.errorType = gpuOutOfMemory then earlier else generationFailure exc
  | none => generationFailure exc

def isVisibleGenerationFailure (errorType : String) : Prop :=
  errorType = gpuOutOfMemory

instance (errorType : String) : Decidable (isVisibleGenerationFailure errorType) :=
  inferInstanceAs (Decidable (_ = _))

/-- What the row of a running job already shows of a failure. -/
def runningFailurePair : Option GenerationFailure → Option String × Option String
  | some failure =>
      if isVisibleGenerationFailure failure.errorType then
        (some failure.message, some failure.errorType)
      else (none, none)
  | none => (none, none)

/-- The message of a job some of whose takes have failed. -/
def partialFailureError (completed count : Nat) (message : String) : String :=
  s!"{completed}/{count} completed, {count - completed} failed: {message}"

/-- The failure every out-of-memory error is recorded as. -/
def outOfMemoryFailure : GenerationFailure := ⟨jobErrorGpuOutOfMemory, gpuOutOfMemory⟩

def RaisedError.isOutOfMemory : RaisedError → Bool
  | .workerGpuOutOfMemory _ => true
  | _ => false

theorem selectGenerationFailure_outOfMemory (exc : RaisedError) :
    selectGenerationFailure (some outOfMemoryFailure) exc = outOfMemoryFailure := by
  rw [selectGenerationFailure]
  exact if_pos (show outOfMemoryFailure.errorType = gpuOutOfMemory from rfl)

theorem selectGenerationFailure_of_outOfMemory {previous : Option GenerationFailure}
    (hprevious : ∀ earlier, previous = some earlier → earlier.errorType = gpuOutOfMemory →
      earlier = outOfMemoryFailure) {exc : RaisedError} (hexc : exc.isOutOfMemory = true) :
    selectGenerationFailure previous exc = outOfMemoryFailure := by
  have hfailure : generationFailure exc = outOfMemoryFailure := by
    cases exc with
    | workerGpuOutOfMemory => rfl
    | _ => contradiction
  cases previous with
  | none => exact hfailure
  | some earlier =>
      rw [selectGenerationFailure]
      split_ifs with htype
      · exact hprevious earlier rfl htype
      · exact hfailure

theorem generationFailure_eq_of_gpuOutOfMemory {exc : RaisedError}
    (htype : (generationFailure exc).errorType = gpuOutOfMemory) :
    generationFailure exc = outOfMemoryFailure := by
  cases exc with
  | workerGpuOutOfMemory => rfl
  | _ => simp [generationFailure, gpuOutOfMemory] at htype

theorem selectGenerationFailure_typed {previous : Option GenerationFailure}
    (hprevious : ∀ earlier, previous = some earlier → earlier.errorType = gpuOutOfMemory →
      earlier = outOfMemoryFailure) (exc : RaisedError)
    (htype : (selectGenerationFailure previous exc).errorType = gpuOutOfMemory) :
    selectGenerationFailure previous exc = outOfMemoryFailure := by
  cases previous with
  | none => exact generationFailure_eq_of_gpuOutOfMemory htype
  | some earlier =>
      rw [selectGenerationFailure] at htype ⊢
      split_ifs at htype ⊢ with hearlier
      · exact hprevious earlier rfl hearlier
      · exact generationFailure_eq_of_gpuOutOfMemory htype

theorem runningFailurePair_outOfMemory :
    runningFailurePair (some outOfMemoryFailure) =
      (some jobErrorGpuOutOfMemory, some gpuOutOfMemory) :=
  rfl

end Songmaker.Jobs
