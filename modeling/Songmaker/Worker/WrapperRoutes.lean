import Songmaker.Worker.HoldHandover

/-!
The routes of one worker process that decide between generation tasks and a
training: hold reservations and generations under the admission lock, beside the
training requests and hold releases under the handover lock.
-/

namespace Songmaker.Worker.WrapperRoutes

open Songmaker.Foundation
open Songmaker.Worker.GpuHold
open Songmaker.Worker.HoldHandover

variable {Req Gen Token : Type}

/-- The await a `generate` request, or its background runner, is suspended at. -/
inductive GenerationPhase where
  | lockingAdmission
  | checkingHold
  | acquiringModel
  | creatingTask
  | releasingUnused
  | generating
  | releasingModel
  | lockingDiscard
  | ended
deriving DecidableEq

/-- The awaits of `_reserve_generation_task` inside its lock. -/
def GenerationPhase.ownsLock : GenerationPhase → Bool
  | .checkingHold | .acquiringModel | .creatingTask | .releasingUnused => true
  | _ => false

/-- The awaits after the hold key was found missing. -/
def GenerationPhase.foundNoHold : GenerationPhase → Bool
  | .acquiringModel | .creatingTask | .releasingUnused => true
  | _ => false

/-- The await a `reserve_hold` request is suspended at. -/
inductive ReservationPhase where
  | lockingAdmission
  | reserving
  | ended
deriving DecidableEq

/-- Who holds `gpu_hold_admission_lock` across an await. -/
inductive AdmissionOwner (Gen Token : Type) where
  | generation (gen : Gen)
  | reservation (token : Token)
deriving DecidableEq

/-- A generation stands for its request and its task. -/
structure Wrapper (Req Gen Token : Type) where
  worker : WorkerDeps Req Token
  admissionLock : Option (AdmissionOwner Gen Token)
  generationTasks : Finset Gen
  generations : Gen → Option GenerationPhase
  reservations : Token → Option ReservationPhase

/-- How an await of a generation ends: it returns, the model is not loaded, it
raises, or the request is cancelled. -/
inductive GenerationOutcome where
  | returns
  | notLoaded
  | raises
  | cancelled
deriving DecidableEq

/-- The requests to the worker, their next steps, and the expiry of the hold's key. -/
inductive Action (Req Gen Token : Type) where
  | trainLora (req : Req) (token : Token)
  | resumeTraining (req : Req) (outcome : Outcome)
  | releaseHold (token : Token)
  | releaseHoldResumes (token : Token) (outcome : Outcome)
  | renewHold (token : Token)
  | holdExpires
  | reserveHold (token : Token)
  | reserveHoldResumes (token : Token) (outcome : Outcome)
  | generate (gen : Gen)
  | generateResumes (gen : Gen) (outcome : GenerationOutcome)

variable [DecidableEq Req] [DecidableEq Gen] [DecidableEq Token]

namespace Wrapper

variable (wrapper : Wrapper Req Gen Token)

def setGeneration (gen : Gen) (phase : GenerationPhase) : Wrapper Req Gen Token :=
  { wrapper with generations := Function.update wrapper.generations gen (some phase) }

def setReservation (token : Token) (phase : ReservationPhase) : Wrapper Req Gen Token :=
  { wrapper with reservations := Function.update wrapper.reservations token (some phase) }

def setKeys (keys : WorkerKeys Token) : Wrapper Req Gen Token :=
  { wrapper with worker := { wrapper.worker with keys := keys } }

/-- A step of the requests that do not take the admission lock. -/
def onWorker (action : HoldHandover.Action Req Token) : Option (Wrapper Req Gen Token) :=
  (wrapper.worker.act action).map fun worker => { wrapper with worker := worker }

/-- A `reserve_hold` request runs on to its next await. Its token is fresh. -/
def resumeReservation (token : Token) (outcome : Outcome) : Option (Wrapper Req Gen Token) :=
  match wrapper.reservations token, outcome with
  | some .lockingAdmission, .returns =>
      if wrapper.admissionLock.isSome then none
      else if wrapper.generationTasks.Nonempty then some (wrapper.setReservation token .ended)
      else some { wrapper.setReservation token .reserving with
        admissionLock := some (.reservation token) }
  | some .lockingAdmission, _ => some (wrapper.setReservation token .ended)
  | some .reserving, .returns =>
      some { (wrapper.setReservation token .ended).setKeys
          (reserveGpuHold token wrapper.worker.keys).2 with
        admissionLock := none }
  | some .reserving, _ => some { wrapper.setReservation token .ended with admissionLock := none }
  | _, _ => none

/-- A generation runs on to its next await. -/
def resumeGeneration (gen : Gen) (outcome : GenerationOutcome) : Option (Wrapper Req Gen Token) :=
  let goTo := wrapper.setGeneration gen
  let leave : Option (Wrapper Req Gen Token) := some { goTo .ended with admissionLock := none }
  match wrapper.generations gen, outcome with
  | some .lockingAdmission, .returns =>
      if wrapper.admissionLock.isSome then none
      else some { goTo .checkingHold with admissionLock := some (.generation gen) }
  | some .lockingAdmission, _ => some (goTo .ended)
  | some .checkingHold, .returns =>
      if wrapper.worker.keys.gpuHold.isSome then leave else some (goTo .acquiringModel)
  | some .checkingHold, _ => leave
  | some .acquiringModel, .returns => some (goTo .creatingTask)
  | some .acquiringModel, _ => leave
  | some .creatingTask, .returns =>
      some { goTo .generating with
        admissionLock := none
        generationTasks := insert gen wrapper.generationTasks }
  | some .creatingTask, .raises => some (goTo .releasingUnused)
  | some .creatingTask, _ => leave
  | some .releasingUnused, _ => leave
  | some .generating, _ => some (goTo .releasingModel)
  | some .releasingModel, _ => some (goTo .lockingDiscard)
  | some .lockingDiscard, .returns =>
      if wrapper.admissionLock.isSome then none
      else some { goTo .ended with generationTasks := wrapper.generationTasks.erase gen }
  | some .lockingDiscard, _ => some (goTo .ended)
  | _, _ => none

/-- A step of a request, or the expiry of the hold's key. -/
def act : Action Req Gen Token → Option (Wrapper Req Gen Token)
  | .trainLora req token => wrapper.onWorker (.trainLora req token)
  | .resumeTraining req outcome => wrapper.onWorker (.resume req outcome)
  | .releaseHold token => wrapper.onWorker (.releaseHold token)
  | .releaseHoldResumes token outcome => wrapper.onWorker (.releaseHoldResumes token outcome)
  | .renewHold token => some (wrapper.setKeys (renewGpuHold token wrapper.worker.keys).2)
  | .holdExpires => wrapper.onWorker .holdExpires
  | .reserveHold token =>
      if (wrapper.reservations token).isSome then none
      else some (wrapper.setReservation token .lockingAdmission)
  | .reserveHoldResumes token outcome => wrapper.resumeReservation token outcome
  | .generate gen =>
      if (wrapper.generations gen).isSome then none
      else some (wrapper.setGeneration gen .lockingAdmission)
  | .generateResumes gen outcome => wrapper.resumeGeneration gen outcome

end Wrapper

/-- Every interleaving in one worker process, which starts by clearing its keys. -/
def wrapperSystem (Req Gen Token : Type) [DecidableEq Req] [DecidableEq Gen]
    [DecidableEq Token] : TransitionSystem (Wrapper Req Gen Token) (Action Req Gen Token) :=
  TransitionSystem.ofAct
    (fun wrapper => (handoverSystem Req Token).initial wrapper.worker ∧
      wrapper.worker.keys.gpuHold = none ∧ wrapper.admissionLock = none ∧
        wrapper.generationTasks = ∅ ∧ (∀ gen, wrapper.generations gen = none) ∧
          ∀ token, wrapper.reservations token = none)
    Wrapper.act

end Songmaker.Worker.WrapperRoutes
