import Mathlib.Algebra.Order.Field.Rat
import Songmaker.Foundation.TransitionSystem

/-!
The worker's task store. Every method changes the store under one asyncio lock
and puts its events without another pause, so a call is one step. A clock
reading is a number, in seconds.
-/

namespace Songmaker.Worker.TaskStore

open Songmaker.Foundation

inductive TaskKind where
  | generate
  | trainLora
  | download
deriving DecidableEq

inductive TaskState where
  | pending
  | running
  | done
  | error
deriving DecidableEq

inductive TaskErrorKind where
  | gpuOutOfMemory
deriving DecidableEq

inductive EventType where
  | progress
  | done
  | error
deriving DecidableEq

/-- A task as a reader sees it. -/
structure TaskSnapshot (Result : Type) where
  taskId : Nat
  kind : TaskKind
  state : TaskState
  progress : ℚ
  phase : Option String
  currentEpoch : Option Nat
  trainEpochs : Option Nat
  trainingStartedAt : Option ℚ
  result : Option Result
  error : Option String
  errorKind : Option TaskErrorKind
  createdAt : ℚ
  updatedAt : ℚ

structure WorkerTaskEvent (Result : Type) where
  type : EventType
  data : TaskSnapshot Result

/-- A task of the store, with what no reader sees. -/
structure Task (Result : Type) extends TaskSnapshot Result where
  terminalAt : Option ℚ
  resultFile : Option String
  subscribers : List Nat

variable {Result : Type}

def isTerminal : TaskState → Bool
  | .done => true
  | .error => true
  | _ => false

def endsStream : EventType → Bool
  | .done => true
  | .error => true
  | .progress => false

/-- The event that the task's state amounts to. -/
def Task.toEvent (task : Task Result) : WorkerTaskEvent Result where
  type :=
    match task.state with
    | .done => .done
    | .error => .error
    | _ => .progress
  data := task.toTaskSnapshot

theorem Task.endsStream_toEvent (task : Task Result) :
    endsStream task.toEvent.type = isTerminal task.state := by
  unfold Task.toEvent
  cases task.state <;> rfl

/-- A task that waits for its runner. -/
def newTask (taskId : Nat) (now : ℚ) (kind : TaskKind) (trainEpochs : Option Nat)
    (phase : Option String) : Task Result where
  taskId := taskId
  kind := kind
  state := .pending
  progress := 0
  phase := phase
  currentEpoch := if trainEpochs.isSome then some 0 else none
  trainEpochs := trainEpochs
  trainingStartedAt := none
  result := none
  error := none
  errorKind := none
  createdAt := now
  updatedAt := now
  terminalAt := none
  resultFile := none
  subscribers := []

/-- The keyword arguments of `_update`. -/
structure Update (Result : Type) where
  state : Option TaskState := none
  progress : Option ℚ := none
  phase : Option String := none
  currentEpoch : Option Nat := none
  trainingStartedAt : Option ℚ := none
  result : Option Result := none
  error : Option String := none
  errorKind : Option TaskErrorKind := none
  terminal : Bool := false
  resultFile : Option String := none

/-- The task with the fields of the update, and the time at which it has ended. -/
def Task.update (task : Task Result) (now : ℚ) (update : Update Result) : Task Result :=
  { task with
    state := update.state.getD task.state
    progress := update.progress.getD task.progress
    phase := update.phase <|> task.phase
    currentEpoch := update.currentEpoch <|> task.currentEpoch
    trainingStartedAt := update.trainingStartedAt <|> task.trainingStartedAt
    result := update.result <|> task.result
    resultFile := update.resultFile <|> task.resultFile
    error := update.error <|> task.error
    errorKind := if update.error.isSome then update.errorKind else task.errorKind
    updatedAt := now
    terminalAt := if update.terminal then some now else task.terminalAt }

/-- The public methods that update a task. -/
inductive Change (Result : Type) where
  | markRunning
  | markTrainingStarted (startedAt : ℚ)
  | updateProgress (progress : ℚ) (phase : Option String) (currentEpoch : Option Nat)
  | complete (result : Result) (resultFile : Option String)
  | fail (message : String) (errorKind : Option TaskErrorKind)

/-- The fields that a change writes. -/
def Change.toUpdate : Change Result → Update Result
  | .markRunning => { state := some .running }
  | .markTrainingStarted startedAt => { trainingStartedAt := some startedAt }
  | .updateProgress progress phase currentEpoch =>
      { progress := some progress, phase := phase, currentEpoch := currentEpoch }
  | .complete result resultFile =>
      { state := some .done, progress := some 1, result := some result, terminal := true,
        resultFile := resultFile }
  | .fail message errorKind =>
      { state := some .error, error := some message, errorKind := errorKind, terminal := true }

/-- One call of `subscribe`. -/
inductive Phase where
  | reading
  /-- In the `finally` block, waiting for the lock. -/
  | leaving
  | left
deriving DecidableEq

/-- A subscriber, with what it has been given. `last` says that the event it was
given last ends its stream, `ended` that the stream ended by itself, and
`since` how much of the store's log it subscribed after. -/
structure Subscriber (Result : Type) where
  taskId : Nat
  received : List (WorkerTaskEvent Result)
  queue : List (WorkerTaskEvent Result)
  last : Bool
  phase : Phase
  ended : Bool
  since : Nat

/-- The store, its subscribers, and two records that no method reads: the state
that every create and update left its task in, and the tasks whose runner has
started. -/
structure Store (Result : Type) where
  tasks : Nat → Option (Task Result)
  nextTask : Nat
  subscribers : Nat → Option (Subscriber Result)
  nextSubscriber : Nat
  log : List (WorkerTaskEvent Result)
  started : Nat → Bool

def emptyStore : Store Result where
  tasks := fun _ => none
  nextTask := 0
  subscribers := fun _ => none
  nextSubscriber := 0
  log := []
  started := fun _ => false

namespace Store

variable (store : Store Result)

/-- A task with the next number. -/
def create (now : ℚ) (kind : TaskKind) (trainEpochs : Option Nat) (phase : Option String) :
    Option (Store Result) :=
  if kind ≠ .trainLora ∧ trainEpochs.isSome then none
  else if kind ≠ .generate ∧ phase.isSome then none
  else
    let task := newTask store.nextTask now kind trainEpochs phase
    some { store with
      tasks := Function.update store.tasks store.nextTask (some task)
      nextTask := store.nextTask + 1
      log := store.log ++ [task.toEvent] }

/-- `put` of an event on every queue of a list. -/
def putTo (queues : List Nat) (event : WorkerTaskEvent Result) (id : Nat) :
    Option (Subscriber Result) :=
  (store.subscribers id).map fun subscriber =>
    { subscriber with queue := subscriber.queue ++ List.replicate (queues.count id) event }

/-- The task is changed, and its subscribers are told. -/
def update (now : ℚ) (taskId : Nat) (change : Change Result) : Option (Store Result) := do
  let task ← store.tasks taskId
  let updated := task.update now change.toUpdate
  return { store with
    tasks := Function.update store.tasks taskId (some updated)
    subscribers := store.putTo updated.subscribers updated.toEvent
    log := store.log ++ [updated.toEvent]
    started := Function.update store.started taskId true }

/-- `subscribe` up to its first `yield`. -/
def subscribe (taskId : Nat) : Option (Store Result) := do
  let task ← store.tasks taskId
  let subscriber : Subscriber Result :=
    { taskId := taskId, received := [task.toEvent], queue := [], last := isTerminal task.state
      phase := .reading, ended := false, since := store.log.length }
  return { store with
    tasks := Function.update store.tasks taskId
      (some { task with subscribers := task.subscribers ++ [store.nextSubscriber] })
    subscribers := Function.update store.subscribers store.nextSubscriber (some subscriber)
    nextSubscriber := store.nextSubscriber + 1 }

def setSubscriber (id : Nat) (subscriber : Subscriber Result) : Store Result :=
  { store with subscribers := Function.update store.subscribers id (some subscriber) }

/-- The reader asks for the next event: it gets one, waits, or sees the end. -/
def next (id : Nat) : Option (Store Result) := do
  let subscriber ← store.subscribers id
  if subscriber.phase ≠ .reading then none
  else if subscriber.last then
    return store.setSubscriber id { subscriber with phase := .leaving, ended := true }
  else
    match subscriber.queue with
    | [] => none
    | event :: queue =>
        return store.setSubscriber id { subscriber with
          received := subscriber.received ++ [event]
          queue := queue
          last := endsStream event.type }

/-- The reader goes away, or its request is cancelled. -/
def close (id : Nat) : Option (Store Result) := do
  let subscriber ← store.subscribers id
  if subscriber.phase ≠ .reading then none
  else return store.setSubscriber id { subscriber with phase := .leaving }

/-- The `finally` block of `subscribe`. -/
def leave (id : Nat) : Option (Store Result) := do
  let subscriber ← store.subscribers id
  if subscriber.phase ≠ .leaving then none
  else
    let store := store.setSubscriber id { subscriber with phase := .left }
    match store.tasks subscriber.taskId with
    | none => return store
    | some task => return { store with
        tasks := Function.update store.tasks subscriber.taskId
          (some { task with subscribers := task.subscribers.erase id }) }

/-- `discard_result`, where the file system lets the file go. -/
def discardResult (taskId : Nat) : Option (Store Result) := do
  let task ← store.tasks taskId
  return { store with
    tasks := Function.update store.tasks taskId (some { task with resultFile := none }) }

/-- Whether `cleanup_terminal` drops a task: past its retention, and its file
goes. -/
def dropped (retention now : ℚ) (unlinks : String → Bool) (task : Task Result) : Bool :=
  match task.terminalAt with
  | none => false
  | some terminalAt => decide (retention < now - terminalAt) && task.resultFile.all unlinks

/-- Tasks that ended long ago are removed with their files. -/
def cleanupTerminal (retention now : ℚ) (unlinks : String → Bool) : Store Result :=
  { store with
    tasks := fun id => (store.tasks id).filter fun task => !dropped retention now unlinks task }

end Store

/-- The calls into the store, and the readers of its streams. -/
inductive Action (Result : Type) where
  | create (now : ℚ) (kind : TaskKind) (trainEpochs : Option Nat) (phase : Option String)
  | update (now : ℚ) (taskId : Nat) (change : Change Result)
  | subscribe (taskId : Nat)
  | next (subscriber : Nat)
  | close (subscriber : Nat)
  | leave (subscriber : Nat)
  | discardResult (taskId : Nat)
  | cleanupTerminal (now : ℚ) (unlinks : String → Bool)

def act (retention : ℚ) (store : Store Result) : Action Result → Option (Store Result)
  | .create now kind trainEpochs phase => store.create now kind trainEpochs phase
  | .update now taskId change => store.update now taskId change
  | .subscribe taskId => store.subscribe taskId
  | .next subscriber => store.next subscriber
  | .close subscriber => store.close subscriber
  | .leave subscriber => store.leave subscriber
  | .discardResult taskId => store.discardResult taskId
  | .cleanupTerminal now unlinks => some (store.cleanupTerminal retention now unlinks)

/-- Every runner marks its task running before it changes it in any other way,
or fails it at once. -/
def runnersObey (store : Store Result) : Action Result → Bool
  | .update _ taskId .markRunning => !store.started taskId
  | .update _ _ (.fail _ _) => true
  | .update _ taskId _ => store.started taskId
  | _ => true

end Songmaker.Worker.TaskStore
