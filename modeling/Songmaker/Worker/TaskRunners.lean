import Songmaker.Worker.TaskStore

namespace Songmaker.Worker.TaskStore

open Songmaker.Foundation

variable {Result : Type}

def modelConfigPaths : List (String × String) :=
  [("turbo", "acestep-v15-turbo"), ("sft", "acestep-v15-sft"),
    ("xl-turbo", "acestep-v15-xl-turbo"), ("xl-sft", "acestep-v15-xl-sft"),
    ("xl-base", "acestep-v15-xl-base")]

def estimatedModelSizeBytes : List (String × Nat) :=
  [("turbo", 6500000000), ("sft", 6500000000), ("xl-turbo", 13000000000),
    ("xl-sft", 13000000000), ("xl-base", 13000000000)]

/-- The runner of a task, with what it reads of the request. -/
inductive Runner where
  | generate
  | trainLora (trainEpochs : Nat)
  | download (mode : String)
deriving DecidableEq

namespace Runner

/-- The kind that the task is created with. -/
def kind : Runner → TaskKind
  | .generate => .generate
  | .trainLora _ => .trainLora
  | .download _ => .download

/-- The epochs that the task is created with. -/
def trainEpochs : Runner → Option Nat
  | .trainLora trainEpochs => some trainEpochs
  | .generate | .download _ => none

/-- Of a generation, `NOT_STARTED.phase`. -/
def phase : Runner → Option String
  | .generate => some "loading_model"
  | .trainLora _ | .download _ => none

end Runner

/-- Where a runner stands between two calls of the store. `staging` up to `exported` are the
stages of a training, which stops its subprocess before it fails with the message of
`stopping`. An `orphaned` generation has been cancelled and left its thread behind. -/
inductive RunnerPoint where
  | notStarted
  | working
  | staging
  | staged
  | preprocessing
  | starting
  | training
  | exported
  | stopping (message : String)
  | orphaned
  | over
deriving DecidableEq

/-- What leads a runner to its next call of the store, or to its end. -/
inductive RunnerEvent (Result : Type) where
  | started
  | reported (fraction : ℚ) (phase : String)
  | sizeRead (actual : Nat)
  | scanned
  | preprocessStarted
  | preprocessPolled (current total : Nat)
  | preprocessCompleted (startedAt : ℚ)
  | trainingRuns
  | trainingPolled (currentEpoch : Nat)
  | adapterExported
  | finished (result : Result) (resultFile : Option String)
  | raised (message : String) (errorKind : Option TaskErrorKind)
  | cancelled
  | stopped

/-- The ratio that `_poll_progress` writes. -/
def pollRatio (mode : String) (actual : Nat) : ℚ :=
  let expectedSize := (estimatedModelSizeBytes.lookup mode).getD 0
  if 0 < expectedSize then min (actual / expectedSize) (99 / 100) else 0

/-- `run_download` and its poller, which is cancelled with the end of the body. -/
def runDownload (mode : String) :
    RunnerPoint → RunnerEvent Result → Option (RunnerPoint × Option (Change Result))
  | .notStarted, .started =>
      if (modelConfigPaths.lookup mode).isNone then
        some (.over, some (.fail ("Unknown mode: " ++ mode) none))
      else some (.working, some .markRunning)
  | .working, .sizeRead actual =>
      some (.working, some (.updateProgress (pollRatio mode actual) none none))
  | .working, .finished result _ => some (.over, some (.complete result none))
  | .working, .raised message _ => some (.over, some (.fail message none))
  | .notStarted, .cancelled | .working, .cancelled => some (.over, none)
  | _, _ => none

/-- `default_generate_runner`. Every progress write is a coroutine of its own, and the
thread of a cancelled generation goes on to schedule them. -/
def defaultGenerateRunner :
    RunnerPoint → RunnerEvent Result → Option (RunnerPoint × Option (Change Result))
  | .notStarted, .started => some (.working, some .markRunning)
  | .working, .reported fraction phase =>
      some (.working, some (.updateProgress fraction (some phase) none))
  | .working, .finished result resultFile => some (.over, some (.complete result resultFile))
  | .working, .raised message errorKind => some (.over, some (.fail message errorKind))
  | .notStarted, .cancelled => some (.over, none)
  | .working, .cancelled => some (.orphaned, none)
  | .orphaned, .reported fraction phase =>
      some (.orphaned, some (.updateProgress fraction (some phase) none))
  | _, _ => none

/-- The stages of `_run_lora_training`. -/
def runLoraTraining (trainEpochs : Nat) :
    RunnerPoint → RunnerEvent Result → Option (RunnerPoint × Option (Change Result))
  | .staging, .scanned => some (.staged, some (.updateProgress (1 / 50) none none))
  | .staged, .preprocessStarted => some (.preprocessing, some (.updateProgress (1 / 20) none none))
  | .preprocessing, .preprocessPolled current total =>
      if 0 < total then
        some (.preprocessing,
          some (.updateProgress (1 / 20 + 3 / 20 * min (current / total) 1) none none))
      else some (.preprocessing, none)
  | .preprocessing, .preprocessCompleted startedAt =>
      some (.starting, some (.markTrainingStarted startedAt))
  | .starting, .trainingRuns => some (.training, some (.updateProgress (1 / 5) none none))
  | .training, .trainingPolled currentEpoch =>
      some (.training, some (.updateProgress
        (1 / 5 + 7 / 10 * min (currentEpoch / max trainEpochs 1) 1) none (some currentEpoch)))
  | .training, .adapterExported => some (.exported, some (.updateProgress (99 / 100) none none))
  | .exported, .finished result _ => some (.over, some (.complete result none))
  | _, _ => none

/-- `default_train_lora_runner` -/
def defaultTrainLoraRunner (trainEpochs : Nat) (point : RunnerPoint) (event : RunnerEvent Result) :
    Option (RunnerPoint × Option (Change Result)) :=
  match point, event with
  | .notStarted, .started => some (.staging, some .markRunning)
  | .notStarted, .cancelled | .stopping _, .cancelled => some (.over, none)
  | .stopping message, .stopped => some (.over, some (.fail message none))
  | .staging, .cancelled | .staged, .cancelled | .preprocessing, .cancelled | .starting, .cancelled
  | .training, .cancelled | .exported, .cancelled => some (.stopping "cancelled", none)
  | .staging, .raised message _ | .staged, .raised message _ | .preprocessing, .raised message _
  | .starting, .raised message _ | .training, .raised message _ | .exported, .raised message _ =>
      some (.stopping message, none)
  | _, _ => runLoraTraining trainEpochs point event

/-- What a runner does at an event: the point it comes to, and its call of the store. -/
def Runner.step : Runner → RunnerPoint → RunnerEvent Result →
    Option (RunnerPoint × Option (Change Result))
  | .generate => defaultGenerateRunner
  | .trainLora trainEpochs => defaultTrainLoraRunner trainEpochs
  | .download mode => runDownload mode

/-- The store and the runners of its tasks. -/
structure WorkerState (Result : Type) where
  store : Store Result
  runners : Nat → Option (Runner × RunnerPoint)

def idleWorker : WorkerState Result where
  store := emptyStore
  runners := fun _ => none

/-- A route creates a task for its runner, a runner goes on, or the store is called for
another reason. -/
inductive WorkerAction (Result : Type) where
  | spawn (now : ℚ) (runner : Runner)
  | runner (now : ℚ) (taskId : Nat) (event : RunnerEvent Result)
  | store (action : Action Result)

/-- The methods of the store that only routes and runners call. -/
def Action.ofRunner : Action Result → Bool
  | .create .. | .update .. => true
  | _ => false

namespace WorkerState

variable (worker : WorkerState Result)

def setRunner (taskId : Nat) (runner : Runner) (point : RunnerPoint) : WorkerState Result :=
  { worker with runners := Function.update worker.runners taskId (some (runner, point)) }

/-- A runner's call of the store. The `KeyError` for a task that is gone ends the runner. -/
def call (now : ℚ) (taskId : Nat) (runner : Runner) (point : RunnerPoint) (change : Change Result) :
    WorkerState Result :=
  match worker.store.update now taskId change with
  | none => worker.setRunner taskId runner .over
  | some store => { worker with store := store }.setRunner taskId runner point

def act (retention : ℚ) : WorkerAction Result → Option (WorkerState Result)
  | .spawn now runner => do
      let store ← worker.store.create now runner.kind runner.trainEpochs runner.phase
      return { worker with store := store }.setRunner worker.store.nextTask runner .notStarted
  | .runner now taskId event => do
      let (runner, point) ← worker.runners taskId
      let (point, change) ← runner.step point event
      match change with
      | none => return worker.setRunner taskId runner point
      | some change => return worker.call now taskId runner point change
  | .store action =>
      if action.ofRunner then none
      else do
        let store ← TaskStore.act retention worker.store action
        return { worker with store := store }

end WorkerState

section Runners

variable {before after : RunnerPoint} {event : RunnerEvent Result}
  {change : Option (Change Result)}

end Runners

/-! ### The store under its runners -/

namespace WorkerState

/-- Tasks that are not created have not started, and a task has started when its runner has
made a call. -/
structure InStep (worker : WorkerState Result) : Prop where
  created : ∀ taskId, (worker.runners taskId).isSome → taskId < worker.store.nextTask
  fresh : ∀ taskId, worker.store.nextTask ≤ taskId → worker.store.started taskId = false
  waiting : ∀ taskId runner, worker.runners taskId = some (runner, .notStarted) →
    worker.store.started taskId = false
  begun : ∀ taskId runner point, worker.runners taskId = some (runner, point) →
    point ≠ .notStarted → point ≠ .over → worker.store.started taskId = true

end WorkerState

theorem create_started {store store' : Store Result} {now : ℚ} {kind : TaskKind}
    {trainEpochs : Option Nat} {phase : Option String}
    (hstep : store.create now kind trainEpochs phase = some store') :
    store'.nextTask = store.nextTask + 1 ∧ store'.started = store.started := by
  simp only [Store.create] at hstep
  split_ifs at hstep
  obtain rfl := Option.some.inj hstep
  exact ⟨rfl, rfl⟩

namespace WorkerState.InStep

variable {worker : WorkerState Result} {taskId : Nat} {runner : Runner} {before after : RunnerPoint}

theorem spawn (hworker : InStep worker) {store : Store Result} {now : ℚ}
    (hcreate : worker.store.create now runner.kind runner.trainEpochs runner.phase = some store) :
    InStep ({ worker with store := store }.setRunner worker.store.nextTask runner .notStarted) := by
  obtain ⟨hnext, hstarted⟩ := create_started hcreate
  refine ⟨?_, ?_, ?_, ?_⟩
  · intro other hother
    show other < store.nextTask
    rw [hnext]
    by_cases hnew : other = worker.store.nextTask
    · exact hnew ▸ Nat.lt_succ_self _
    · have hold : (worker.runners other).isSome := by simpa [setRunner, hnew] using hother
      exact Nat.lt_succ_of_lt (hworker.created other hold)
  · intro other hother
    show store.started other = false
    rw [hstarted]
    have hle : worker.store.nextTask + 1 ≤ other := hnext ▸ hother
    exact hworker.fresh other (Nat.le_of_succ_le hle)
  · intro other runner' hother
    show store.started other = false
    rw [hstarted]
    by_cases hnew : other = worker.store.nextTask
    · exact hworker.fresh other hnew.ge
    · exact hworker.waiting other runner' (by simpa [setRunner, hnew] using hother)
  · intro other runner' point hother hbegun hopen
    show store.started other = true
    rw [hstarted]
    by_cases hnew : other = worker.store.nextTask
    · subst hnew
      simp only [setRunner, Function.update_self, Option.some.injEq, Prod.mk.injEq] at hother
      exact absurd hother.2.symm hbegun
    · exact hworker.begun other runner' point (by simpa [setRunner, hnew] using hother) hbegun hopen

theorem goOn (hworker : InStep worker) (hrunner : worker.runners taskId = some (runner, before))
    (hbegun : after ≠ .notStarted) {store : Store Result}
    (hnext : store.nextTask = worker.store.nextTask)
    (hstarted : ∀ other ≠ taskId, store.started other = worker.store.started other)
    (hown : after ≠ .over → store.started taskId = true) :
    InStep ({ worker with store := store }.setRunner taskId runner after) := by
  have hcreated := hworker.created taskId (by rw [hrunner]; rfl)
  refine ⟨?_, ?_, ?_, ?_⟩
  · intro other hother
    show other < store.nextTask
    rw [hnext]
    by_cases hsame : other = taskId
    · exact hsame ▸ hcreated
    · exact hworker.created other (by simpa [setRunner, hsame] using hother)
  · intro other hother
    have hle : worker.store.nextTask ≤ other := hnext ▸ hother
    show store.started other = false
    rw [hstarted other (Nat.ne_of_gt (Nat.lt_of_lt_of_le hcreated hle))]
    exact hworker.fresh other hle
  · intro other runner' hother
    by_cases hsame : other = taskId
    · subst hsame
      simp only [setRunner, Function.update_self, Option.some.injEq, Prod.mk.injEq] at hother
      exact absurd hother.2 hbegun
    · show store.started other = false
      rw [hstarted other hsame]
      exact hworker.waiting other runner' (by simpa [setRunner, hsame] using hother)
  · intro other runner' point hother hpoint hopen
    by_cases hsame : other = taskId
    · subst hsame
      simp only [setRunner, Function.update_self, Option.some.injEq, Prod.mk.injEq] at hother
      exact hown (hother.2 ▸ hopen)
    · show store.started other = true
      rw [hstarted other hsame]
      exact hworker.begun other runner' point
        (by simpa [setRunner, hsame] using hother) hpoint hopen

end WorkerState.InStep

end Songmaker.Worker.TaskStore
