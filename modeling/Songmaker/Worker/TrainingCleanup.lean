import Songmaker.Foundation.CleanupPrograms
import Songmaker.Worker.HoldHandover
import Songmaker.Worker.ModelCache

namespace Songmaker.Worker.TrainingCleanup

open Songmaker.Foundation
open Songmaker.Worker.GpuHold
open Songmaker.Worker.HoldHandover
open Songmaker.Worker.ModelCache

/-- An asyncio task that another one waits for. -/
inductive Child where
  | running
  | ended (outcome : Completion)
deriving DecidableEq

/-- The loop of `settle_child_task`: however often the waiter is cancelled, it
ends with the child. `waiterCancelled` says that a cancellation is kept. -/
inductive Settles : Bool → Child → Completion → Child → Prop where
  | ended (outcome : Completion) :
      Settles false (.ended outcome) (if outcome = .raised then .raised else .returned)
        (.ended outcome)
  | endedCancelled (outcome : Completion) :
      Settles true (.ended outcome) .cancelled (.ended outcome)
  | childEnds {waiterCancelled : Bool} {completion : Completion} {child : Child}
      (outcome : Completion)
      (hrest : Settles waiterCancelled (.ended outcome) completion child) :
      Settles waiterCancelled .running completion child
  | waiterCancelled {cancelled : Bool} {completion : Completion} {child : Child}
      (hrest : Settles true .running completion child) :
      Settles cancelled .running completion child

/-- What one training has done: whether its model and its task were given to
it, how far it lowered the use count, and which of its lock waits in a cleanup
were cancelled. -/
structure CleanupNotes where
  loaded : Bool
  task : Option Nat
  decrements : Nat
  releaseAttempts : Nat
  cacheWaitCancelled : Bool
  handoverWaitCancelled : Bool

/-- The state a training shares with the rest of its worker, and its own tasks,
`none` until they are created. -/
structure TrainingState (Mode Token : Type) where
  cache : Cache Mode
  keys : WorkerKeys Token
  table : HandoverTable Token
  training : Option Child
  renewal : Option Child
  notes : CleanupNotes

variable {Mode Token : Type} [DecidableEq Mode] [DecidableEq Token]

/-- What the rest of the worker may do during an await of the training: others
end their own uses only, nobody else takes the training's task, and a task that
has ended stays ended. The `evict_all` of a worker that shuts down is no such step. -/
structure Others (mode : Mode) (token : Token) (s t : TrainingState Mode Token) : Prop where
  notes : t.notes = s.notes
  inUse : s.notes.loaded = true → s.notes.decrements = 0 → 1 ≤ s.cache.inUse mode →
    1 ≤ t.cache.inUse mode
  table : ∀ task, s.notes.task = some task → s.table.tasks token ≠ some task →
    t.table.tasks token ≠ some task
  training : s.training ≠ some .running → t.training = s.training
  trainingIsSome : t.training.isSome = s.training.isSome
  renewal : s.renewal ≠ some .running → t.renewal = s.renewal
  renewalIsSome : t.renewal.isSome = s.renewal.isSome

/-- The cache after a call of the training that lowered the use count. -/
def TrainingState.lowered (s : TrainingState Mode Token) (mode : Mode) (cache : Cache Mode) :
    TrainingState Mode Token :=
  { s with
    cache := cache
    notes := { s.notes with
      decrements := s.notes.decrements + (s.cache.inUse mode - cache.inUse mode) } }

section Calls

variable (mode : Mode) (token : Token)

/-- An await whose call changes nothing of the training's own. -/
def awaited (s : TrainingState Mode Token) (_ : Completion) (t : TrainingState Mode Token) : Prop :=
  Others mode token s t

/-- `_acquire_training_model`. -/
def acquireTrainingModel (s : TrainingState Mode Token) (c : Completion)
    (t : TrainingState Mode Token) : Prop :=
  ∃ u, Others mode token s u ∧
    ((c = .cancelled ∧ t = u) ∨
      (c = .raised ∧ getLoaded u.cache mode = none ∧ t = u) ∨
      (c = .returned ∧ (getLoaded u.cache mode).isSome = true ∧
        t = { u with
          cache := (acquireForUse u.cache mode).1
          notes := { u.notes with loaded := true } }))

/-- `_renew_training_hold`: the hold is renewed once and its renewal started. -/
def renewTrainingHold (s : TrainingState Mode Token) (c : Completion)
    (t : TrainingState Mode Token) : Prop :=
  ∃ u, Others mode token s u ∧
    ((c ≠ .returned ∧ t = u) ∨
      (c = .returned ∧ (renewGpuHold token u.keys).1 = true ∧
        t = { u with renewal := some .running }))

/-- `_claim_training_handover`: the token is claimed for a task of its own. -/
def claimTrainingHandover (s : TrainingState Mode Token) (c : Completion)
    (t : TrainingState Mode Token) : Prop :=
  ∃ u, Others mode token s u ∧
    ((c ≠ .returned ∧ t = u) ∨
      (c = .returned ∧ token ∉ u.table.tokens ∧ ∃ task,
        (∀ other, u.table.tasks other ≠ some task) ∧
          t = { u with
            table := u.table.claim token task
            notes := { u.notes with task := some task } }))

/-- `_cancel_gpu_hold_renewal`: a failure of the renewal is logged. -/
def cancelGpuHoldRenewal (s : TrainingState Mode Token) (c : Completion)
    (t : TrainingState Mode Token) : Prop :=
  ∃ u child completion child', Others mode token s u ∧ u.renewal = some child ∧
    Settles false child completion child' ∧
    c = (if completion = .cancelled then .cancelled else .returned) ∧
    t = { u with renewal := some child' }

/-- `_cancel_training_task`. -/
def cancelTrainingTask (s : TrainingState Mode Token) (c : Completion)
    (t : TrainingState Mode Token) : Prop :=
  if s.training = some .running then
    ∃ u child child', Others mode token s u ∧ u.training = some child ∧
      Settles false child c child' ∧ t = { u with training := some child' }
  else c = .returned ∧ t = s

/-- `cache.release`, whose only await is the one for the lock. -/
def releaseModel (s : TrainingState Mode Token) (c : Completion)
    (t : TrainingState Mode Token) : Prop :=
  ∃ u, Others mode token s u ∧
    ((c = .cancelled ∧ t = { u with notes := { u.notes with cacheWaitCancelled := true } }) ∨
      (c = .returned ∧ t = u.lowered mode (release u.cache mode).1))

/-- `cache.release_and_stop`: under the lock the use ends, and where it was the
last one the unloader runs, however that ends. -/
def releaseAndStopModel (s : TrainingState Mode Token) (c : Completion)
    (t : TrainingState Mode Token) : Prop :=
  ∃ u, Others mode token s u ∧
    ((c = .cancelled ∧ t = { u with notes := { u.notes with cacheWaitCancelled := true } }) ∨
      ((∃ answer, (releaseAndStop u.cache mode).2 = .finished answer) ∧ c = .returned ∧
        t = u.lowered mode (releaseAndStop u.cache mode).1) ∨
      ((∃ part, (releaseAndStop u.cache mode).2 = .suspended part) ∧
        Others mode token (u.lowered mode (releaseAndStop u.cache mode).1) t))

/-- `release_gpu_hold`: Redis may have run the script even where the call fails. -/
def releaseHold (s : TrainingState Mode Token) (c : Completion)
    (t : TrainingState Mode Token) : Prop :=
  ∃ u keys, Others mode token s u ∧
    (keys = u.keys ∨ keys = (releaseGpuHold token u.keys).2) ∧
    (c = .returned → keys = (releaseGpuHold token u.keys).2) ∧
    t = { u with
      keys := keys
      notes := { u.notes with releaseAttempts := u.notes.releaseAttempts + 1 } }

/-- `_release_gpu_hold_handover`. -/
def releaseGpuHoldHandover (s : TrainingState Mode Token) (c : Completion)
    (t : TrainingState Mode Token) : Prop :=
  ∃ u, Others mode token s u ∧
    ((c = .cancelled ∧ t = { u with notes := { u.notes with handoverWaitCancelled := true } }) ∨
      (c = .returned ∧ t = { u with table := u.table.release token }))

end Calls

section Programs

open CleanupProgram

variable (mode : Mode) (token : Token)

/-- A step that only returns. -/
def skip : CleanupProgram (TrainingState Mode Token) :=
  .call fun s c t => c = .returned ∧ t = s

def releaseTrainLoraResources : CleanupProgram (TrainingState Mode Token) :=
  .tryFinally (.call (releaseAndStopModel mode token))
    (.tryFinally (.call (releaseHold mode token)) (.call (releaseGpuHoldHandover mode token)))

def cleanUpTrainLoraRun : CleanupProgram (TrainingState Mode Token) :=
  .tryFinally (.call (cancelGpuHoldRenewal mode token)) (releaseTrainLoraResources mode token)

def cleanUpTrainLoraSetup : CleanupProgram (TrainingState Mode Token) :=
  .tryFinally
    (.branch (fun s => s.renewal.isSome) (.call (cancelGpuHoldRenewal mode token)) skip)
    (.tryFinally
      (.branch (fun s => s.notes.loaded) (.call (releaseModel mode token)) skip)
      (.call (releaseGpuHoldHandover mode token)))

/-- `except BaseException`. -/
def catchesAll (c : Completion) : Bool :=
  c ≠ .returned

/-- `except Exception`. -/
def catchesException (c : Completion) : Bool :=
  c = .raised

def acquireTrainLoraResources : CleanupProgram (TrainingState Mode Token) :=
  .tryExcept catchesAll
    (.seq (.call (acquireTrainingModel mode token))
      (.seq (.call (renewTrainingHold mode token)) (.call (claimTrainingHandover mode token))))
    (cleanUpTrainLoraSetup mode token)

/-- `spawn_background` starts the runner or raises; nothing is awaited. -/
def spawnBackground : CleanupProgram (TrainingState Mode Token) :=
  .call fun s c t => c ≠ .cancelled ∧ t = s

def spawnTrainLoraRunner : CleanupProgram (TrainingState Mode Token) :=
  .tryExcept catchesException spawnBackground (cleanUpTrainLoraRun mode token)

/-- `train_lora` after its request was validated. -/
def trainLora : CleanupProgram (TrainingState Mode Token) :=
  .seq (acquireTrainLoraResources mode token) (spawnTrainLoraRunner mode token)

/-- `_await_training_or_renewal`; each of its awaits may end in any way. -/
def awaitTrainingOrRenewal : CleanupProgram (TrainingState Mode Token) :=
  .seq (.call (awaited mode token))
    (.seq
      (.branch (fun s => s.renewal ≠ some .running)
        (.seq (.call (cancelTrainingTask mode token)) (.call (awaited mode token)))
        skip)
      (.call (awaited mode token)))

/-- `_run_train_lora_with_cleanup` once its training task is created. -/
def runTrainLoraWithCleanup : CleanupProgram (TrainingState Mode Token) :=
  .tryFinally (awaitTrainingOrRenewal mode token)
    (.tryFinally (.call (cancelTrainingTask mode token)) (cleanUpTrainLoraRun mode token))

end Programs

end Songmaker.Worker.TrainingCleanup
