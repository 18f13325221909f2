import Songmaker.Worker.HoldHandover

/-!
`_prepare_and_submit_lora` of every LoRA job that submits to one worker, from the
hold it reserved to the events of its training task, with the requests that are on
their way to the worker.
-/

namespace Songmaker.Lora.LoraSubmission

open Songmaker.Foundation
open Songmaker.Foundation.TransitionSystem
open Songmaker.Worker.GpuHold
open Songmaker.Worker.HoldHandover

variable {Job Token : Type}

/-- The await, or the blocking call, that a job stands at. -/
inductive Stage where
  | startingRenewal
  | markingRunning
  | materializing
  | preprocessing
  | loadingModel
  | submitting
  | probing
  | recoveryReleasing
  | stoppingRenewal (raising : Bool)
  | followingEvents
  | finalReleasing
  | finalStoppingRenewal
  | ended
deriving DecidableEq

/-- How it ends: `refused` is the `False` of `_update_job`, `httpError` an
`httpx.HTTPError` or an answer of no use, `raises` any other exception. A renewal
that fails first makes the operation it races with raise. -/
inductive Ending where
  | returns
  | refused
  | httpError
  | raises
  | cancelled
deriving DecidableEq

/-- The calls to the worker. -/
inductive Request where
  | trainLora
  | handover
  | release
deriving DecidableEq

/-- The `_LoraSubmissionAttempt`, the `_LoraHoldHandover` and the locals of one job,
with its task's cancellation, the requests it handed to its HTTP client and the
answers that came back. `releaseAttempted`, `report` and `followed` are history:
what the worker reported of the hold, and the task whose events were read. -/
structure Submission (Token : Type) where
  holdToken : Token
  stage : Stage
  renewing : Bool
  transmissionStarted : Bool
  handoverComplete : Bool
  taskId : Option Nat
  cancelling : Bool
  cancelPending : Bool
  inFlight : List Request
  trainAnswer : Option Nat
  handoverAnswer : Option (Bool × Option Nat)
  releaseAttempted : Bool
  report : Option (Bool × Option Nat)
  followed : Option Nat
deriving DecidableEq

namespace Submission

/-- A submission whose job has just begun. -/
def start (holdToken : Token) : Submission Token where
  holdToken := holdToken
  stage := .startingRenewal
  renewing := false
  transmissionStarted := false
  handoverComplete := false
  taskId := none
  cancelling := false
  cancelPending := false
  inFlight := []
  trainAnswer := none
  handoverAnswer := none
  releaseAttempted := false
  report := none
  followed := none

variable (job : Submission Token)

def goTo (stage : Stage) : Submission Token :=
  { job with stage := stage }

/-- A request to the worker goes out. -/
def send (request : Request) : Submission Token :=
  { job with inFlight := job.inFlight ++ [request] }

/-- `_release_lora_hold`, up to its await. -/
def releaseHold : Submission Token :=
  { job.send .release with releaseAttempted := true }

/-- The end of the `finally` of `_prepare_and_submit_lora`. -/
def stopRenewal : Submission Token :=
  job.goTo (if job.renewing then .finalStoppingRenewal else .ended)

/-- The `finally` of `_prepare_and_submit_lora`. -/
def leave : Submission Token :=
  if job.handoverComplete then job.stopRenewal else job.releaseHold.goTo .finalReleasing

/-- `_pick_and_call_worker` after the recovery: it raises again without a task. -/
def recovered : Submission Token :=
  job.goTo (.stoppingRenewal job.taskId.isNone)

/-- The end of `_recover_lora_submission`. -/
def releaseUnclaimed : Submission Token :=
  if job.handoverComplete then job.recovered else job.releaseHold.goTo .recoveryReleasing

/-- `_recover_lora_submission`, up to its first await. -/
def recover : Submission Token :=
  if job.transmissionStarted then
    { (job.send .handover).goTo .probing with handoverComplete := true }
  else job.releaseUnclaimed

/-- `_recover_lora_submission` once the worker answered the probe. -/
def probed (claimed : Bool) (taskId : Option Nat) : Submission Token :=
  let reported := { job with report := some (claimed, taskId) }
  match claimed, taskId with
  | true, some taskId => { reported with taskId := some taskId }.releaseUnclaimed
  | true, none => reported.releaseUnclaimed
  | false, _ => { reported with handoverComplete := false }.releaseUnclaimed

/-- `_submit_lora_training` returned the id of the training task. -/
def submitted (taskId : Nat) : Submission Token :=
  { job.goTo (.stoppingRenewal false) with
    taskId := some taskId
    handoverComplete := true
    report := some (true, some taskId) }

/-- `_cancel_child_task` of the renewal does not raise. The await `returns` when the
renewal ended cancelled, and raises when it had failed. -/
def renewalPasses : Ending → Bool
  | .returns => !job.cancelling
  | .cancelled => false
  | _ => job.handoverComplete

/-- The `finally` of `_pick_and_call_worker`. -/
def renewalStopped (raising : Bool) (ending : Ending) : Submission Token :=
  if raising = false ∧ job.renewalPasses ending = true then
    { job.goTo .followingEvents with followed := job.taskId }
  else job.leave

/-- The await ends, and the job runs on to its next one. -/
def runOn (ending : Ending) : Option (Submission Token) :=
  match job.stage, ending with
  | .startingRenewal, .returns => some { job.goTo .markingRunning with renewing := true }
  | .startingRenewal, _ => some job.leave
  | .markingRunning, .returns => some (job.goTo .materializing)
  | .markingRunning, _ => some job.leave
  | .materializing, .returns => some (job.goTo .preprocessing)
  | .materializing, _ => some job.leave
  | .preprocessing, .returns => some (job.goTo .loadingModel)
  | .preprocessing, _ => some job.leave
  | .loadingModel, .returns =>
      some { (job.send .trainLora).goTo .submitting with transmissionStarted := true }
  | .loadingModel, _ => some job.recover
  | .submitting, .returns => job.trainAnswer.map job.submitted
  | .submitting, _ => some job.recover
  | .probing, .returns => job.handoverAnswer.map fun answer => job.probed answer.1 answer.2
  | .probing, .httpError => some job.recovered
  | .probing, _ => some (job.goTo (.stoppingRenewal true))
  | .recoveryReleasing, .returns | .recoveryReleasing, .httpError => some job.recovered
  | .recoveryReleasing, _ => some (job.goTo (.stoppingRenewal true))
  | .stoppingRenewal raising, ending => some (job.renewalStopped raising ending)
  | .followingEvents, _ => some job.leave
  | .finalReleasing, .returns | .finalReleasing, .httpError => some job.stopRenewal
  | .finalReleasing, _ => some (job.goTo .ended)
  | .finalStoppingRenewal, _ => some (job.goTo .ended)
  | .ended, _ => none

/-- `CancelledError` is raised once for a cancellation of the job's task. -/
def resume (ending : Ending) : Option (Submission Token) :=
  if ending = .cancelled then
    if job.cancelPending then { job with cancelPending := false }.runOn .cancelled else none
  else job.runOn ending

def cancel : Submission Token :=
  { job with cancelling := true, cancelPending := true }

end Submission

/-- The jobs and the worker, with the tokens that `reserve_hold` issued so far and
those of them that no job has taken. -/
structure Deployment (Job Token : Type) where
  jobs : Job → Option (Submission Token)
  worker : WorkerDeps Job Token
  issued : Finset Token
  granted : Finset Token

/-- Jobs are submitted, the worker answers or is not reached, and jobs are cancelled. -/
inductive Action (Job Token : Type) where
  | reserve (token : Token)
  | prepare (id : Job) (token : Token)
  | resume (id : Job) (ending : Ending)
  | cancel (id : Job)
  | deliver (id : Job) (request : Request)
  | lose (id : Job) (request : Request)
  | resumeTraining (id : Job) (outcome : Outcome)
  | releaseHoldResumes (token : Token) (outcome : Outcome)
  | holdExpires
deriving DecidableEq

variable [DecidableEq Job] [DecidableEq Token]

namespace Deployment

variable (deployment : Deployment Job Token)

def setJob (id : Job) (job : Submission Token) : Deployment Job Token :=
  { deployment with jobs := Function.update deployment.jobs id (some job) }

/-- The worker serves what the step asks of it. -/
def onWorker (action : Worker.HoldHandover.Action Job Token) : Option (Deployment Job Token) :=
  (deployment.worker.act action).map fun worker => { deployment with worker := worker }

/-- `train_lora` answers once it has spawned its training task. -/
def answerTrainLora (id : Job) : Deployment Job Token :=
  match deployment.worker.requests id, deployment.jobs id with
  | some (_, .training task), some job =>
      deployment.setJob id { job with trainAnswer := some task }
  | _, _ => deployment

/-- The worker receives a request, once it has the handover lock where it needs it. -/
def handle (id : Job) (job : Submission Token) : Request → Option (Deployment Job Token)
  | .trainLora => deployment.onWorker (.trainLora id job.holdToken)
  | .handover =>
      if deployment.worker.lock.isSome then none
      else some (deployment.setJob id
        { job with handoverAnswer := some (holdHandover deployment.worker job.holdToken) })
  | .release => deployment.onWorker (.releaseHold job.holdToken)

def act : Action Job Token → Option (Deployment Job Token)
  | .reserve token =>
      if token ∈ deployment.issued then none
      else (deployment.onWorker (.reserveHold token)).map fun reserved =>
        { reserved with
          issued := insert token deployment.issued
          granted :=
            if (reserveGpuHold token deployment.worker.keys).1 then insert token deployment.granted
            else deployment.granted }
  | .prepare id token =>
      if token ∈ deployment.granted ∧ deployment.jobs id = none then
        some { deployment.setJob id (.start token) with
          granted := deployment.granted.erase token }
      else none
  | .resume id ending => do
      let job ← deployment.jobs id
      return deployment.setJob id (← job.resume ending)
  | .cancel id => do
      return deployment.setJob id (← deployment.jobs id).cancel
  | .deliver id request => do
      let job ← deployment.jobs id
      if request ∈ job.inFlight then
        let received := { job with inFlight := job.inFlight.erase request }
        (deployment.setJob id received).handle id received request
      else none
  | .lose id request => do
      let job ← deployment.jobs id
      return deployment.setJob id { job with inFlight := job.inFlight.erase request }
  | .resumeTraining id outcome =>
      (deployment.onWorker (.resume id outcome)).map fun resumed => resumed.answerTrainLora id
  | .releaseHoldResumes token outcome => deployment.onWorker (.releaseHoldResumes token outcome)
  | .holdExpires => deployment.onWorker .holdExpires

end Deployment

/-- Every interleaving of jobs, requests and worker that starts with no job. -/
def submissionSystem (Job Token : Type) [DecidableEq Job] [DecidableEq Token] :
    TransitionSystem (Deployment Job Token) (Action Job Token) :=
  ofAct
    (fun deployment => (∀ id, deployment.jobs id = none) ∧ deployment.issued = ∅ ∧
      deployment.granted = ∅ ∧ (handoverSystem Job Token).initial deployment.worker)
    Deployment.act

end Songmaker.Lora.LoraSubmission
