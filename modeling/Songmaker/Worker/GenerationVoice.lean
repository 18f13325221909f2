import Songmaker.Foundation.TransitionSystem

namespace Songmaker.Worker.GenerationVoice

open Songmaker.Foundation

/-- What a load request names: the adapter name is a digest of the path. -/
structure Adapter where
  loraPath : String
  adapterName : String
  deriving DecidableEq

/-- The requests of `generate` that change something on the child server. -/
inductive Request where
  | loadLora (adapter : Adapter)
  | unloadLora
  | releaseTask
  deriving DecidableEq

/-- Where `generate` is, with the request it awaits. -/
inductive Phase where
  | admitted
  | loading
  | submitting (attempt : Nat)
  | retrying (attempt : Nat)
  | polling
  | downloading
  | unloading
  | ended
  deriving DecidableEq

/-- One generation task. `served` says that the request it awaits has taken effect,
`accepted` that the server has accepted a submission of it before its polling ended,
and `changes` which adapters other requests have set since its own load took effect. -/
structure Task where
  loraPath : String
  phase : Phase
  served : Bool
  accepted : Bool
  changes : List (Option Adapter)
  deriving DecidableEq

def submitRetries : Nat := 3

section

variable (digest : String → String)

/-- The adapter that is loaded for a path. -/
def namedAdapter (loraPath : String) : Option Adapter :=
  if loraPath = "" then none else some ⟨loraPath, digest loraPath⟩

/-- The voice that the task's take is to have. -/
def Task.voice (task : Task) : Option Adapter :=
  namedAdapter digest task.loraPath

/-- The task sends the call of the phase. -/
def Task.await (task : Task) (phase : Phase) : Task :=
  { task with phase := phase, served := false }

/-- The `finally` of `generate`. -/
def Task.cleanUp (task : Task) : Task :=
  task.await (if task.loraPath = "" then .ended else .unloading)

/-- Before `generate` gives up on or ends its polling. -/
def Task.beforePollEnd (task : Task) : Bool :=
  match task.phase with
  | .submitting _ | .retrying _ | .polling => true
  | _ => false

/-- The server has accepted a submission, and the polling has not ended. -/
def Task.rendering (task : Task) : Bool :=
  task.accepted && task.beforePollEnd

/-- The request that the task awaits. -/
def Task.awaited (task : Task) : Option Request :=
  match task.phase with
  | .loading => some (.loadLora ⟨task.loraPath, digest task.loraPath⟩)
  | .submitting _ => some .releaseTask
  | .unloading => some .unloadLora
  | _ => none

/-- How a call to the child server fails. -/
inductive Failure where
  | osError
  | other
  deriving DecidableEq

/-- What a poll reports: nothing yet (also after a network error or a reply that
cannot be read), completion, or that polling ends without a result. -/
inductive PollOutcome where
  | unfinished
  | completed
  | failed
  deriving DecidableEq

/-- `generate` begins. -/
def Task.start (task : Task) : Option Task :=
  match task.phase with
  | .admitted => some (task.await (if task.loraPath = "" then .submitting 0 else .loading))
  | _ => none

/-- The reply to the awaited request arrives; `readable` says that a submission's
reply has a task id. -/
def Task.answer (task : Task) (readable : Bool) : Option Task :=
  if task.served then
    match task.phase with
    | .loading => some (task.await (.submitting 0))
    | .submitting _ => some (if readable then task.await .polling else task.cleanUp)
    | .unloading => some (task.await .ended)
    | _ => none
  else none

/-- The awaited request fails or times out at the client. -/
def Task.fail (task : Task) (failure : Failure) : Option Task :=
  match task.phase with
  | .loading => some (task.await .ended)
  | .submitting attempt =>
      if failure = .osError ∧ attempt + 1 < submitRetries then
        some (task.await (.retrying attempt))
      else some task.cleanUp
  | .unloading => some (task.await .ended)
  | _ => none

/-- A submission that has failed is sent again. -/
def Task.retry (task : Task) : Option Task :=
  match task.phase with
  | .retrying attempt => some (task.await (.submitting (attempt + 1)))
  | _ => none

/-- What the task does with the answer of a poll. -/
def Task.poll (task : Task) (outcome : PollOutcome) : Option Task :=
  match task.phase, outcome with
  | .polling, .unfinished => some task
  | .polling, .completed => some (task.await .downloading)
  | .polling, .failed => some task.cleanUp
  | _, _ => none

def Task.download (task : Task) : Option Task :=
  match task.phase with
  | .downloading => some task.cleanUp
  | _ => none

end

/-- The child server with the tasks that use it. `strays` are the requests that
failed at their client before they took effect, and `changes` the adapters set
since the server started, the latest first. -/
structure State (Id : Type) where
  active : Option Adapter
  tasks : Id → Option Task
  strays : List (Id × Request)
  changes : List (Option Adapter)

/-- A task takes its next step, or the child serves a call. -/
inductive Action (Id : Type) where
  | enqueue (id : Id) (loraPath : String)
  | start (id : Id)
  | serve (id : Id)
  | serveStray (index : Nat)
  | answer (id : Id) (readable : Bool)
  | fail (id : Id) (failure : Failure)
  | retry (id : Id)
  | poll (id : Id) (outcome : PollOutcome)
  | download (id : Id)
  deriving DecidableEq

/-- The adapter is changed while the task is under way. -/
def Task.overhear (task : Task) (voice : Option Adapter) : Task :=
  { task with changes := voice :: task.changes }

variable {Id : Type}

/-- A load or an unload takes effect. -/
def State.setAdapter (s : State Id) (voice : Option Adapter) : State Id :=
  { s with
    active := voice
    tasks := fun id => (s.tasks id).map (·.overhear voice)
    changes := voice :: s.changes }

section

variable [DecidableEq Id]

def State.put (s : State Id) (id : Id) (task : Task) : State Id :=
  { s with tasks := Function.update s.tasks id (some task) }

/-- The client of one task takes a step of its own. -/
def State.client (s : State Id) (id : Id) (step : Task → Option Task) : Option (State Id) :=
  (s.tasks id).bind fun task => (step task).map (s.put id)

variable (digest : String → String)

/-- The request that a task awaits takes effect. -/
def State.serve (s : State Id) (id : Id) : Option (State Id) :=
  (s.tasks id).bind fun task =>
    if task.served then none
    else
      match task.awaited digest with
      | some (.loadLora adapter) =>
          some ((s.setAdapter (some adapter)).put id { task with served := true, changes := [] })
      | some .unloadLora =>
          some ((s.setAdapter none).put id { task with served := true })
      | some .releaseTask => some (s.put id { task with served := true, accepted := true })
      | none => none

/-- A request that its client has given up takes effect. -/
def State.serveStray (s : State Id) (index : Nat) : Option (State Id) :=
  match s.strays[index]? with
  | none => none
  | some (id, request) =>
      match request with
      | .loadLora adapter =>
          some ({ s with strays := s.strays.eraseIdx index }.setAdapter (some adapter))
      | .unloadLora => some ({ s with strays := s.strays.eraseIdx index }.setAdapter none)
      | .releaseTask =>
          (s.tasks id).map fun task =>
            { s with strays := s.strays.eraseIdx index }.put id
              { task with accepted := task.accepted || task.beforePollEnd }

/-- The task's request fails at its client, and may still take effect if it has not yet. -/
def State.fail (s : State Id) (id : Id) (failure : Failure) : Option (State Id) :=
  (s.tasks id).bind fun task =>
    match task.awaited digest, task.fail failure with
    | some request, some next =>
        some ({ s with
          strays := if task.served then s.strays else s.strays ++ [(id, request)] }.put id next)
    | _, _ => none

def act (s : State Id) : Action Id → Option (State Id)
  | .enqueue id loraPath =>
      match s.tasks id with
      | none => some (s.put id ⟨loraPath, .admitted, false, false, []⟩)
      | some _ => none
  | .start id => s.client id Task.start
  | .serve id => s.serve digest id
  | .serveStray index => s.serveStray index
  | .answer id readable => s.client id (·.answer readable)
  | .fail id failure => s.fail digest id failure
  | .retry id => s.client id Task.retry
  | .poll id outcome => s.client id (·.poll outcome)
  | .download id => s.client id Task.download

/-- A child server that has just started. -/
def started : State Id := ⟨none, fun _ => none, [], []⟩

/-- A worker with one loaded mode. -/
def system : TransitionSystem (State Id) (Action Id) :=
  TransitionSystem.ofAct (· = started) (act digest)

/-- Every take that is rendered is rendered with its own voice. -/
def OwnVoice (s : State Id) : Prop :=
  ∀ id task, s.tasks id = some task → task.rendering = true → s.active = task.voice digest

/-- The adapter that was last set behind a task's back: since its own load, or
ever when it names no adapter. -/
def State.lastChange (s : State Id) (task : Task) : Option (Option Adapter) :=
  if task.loraPath = "" then s.changes.head? else task.changes.head?

/-- No task is being rendered with another adapter than `voice`. -/
def State.Admits (s : State Id) (voice : Option Adapter) : Prop :=
  ∀ id task, s.tasks id = some task → task.rendering = true → task.voice digest = voice

/-- Nothing has set another adapter than the task's behind its back. -/
def State.Undisturbed (s : State Id) (task : Task) : Prop :=
  ∀ voice, s.lastChange task = some voice → voice = task.voice digest

/-- What it takes for a request to take effect without giving a take another voice. -/
def State.Harmless (s : State Id) (id : Id) : Request → Prop
  | .loadLora adapter => s.Admits digest (some adapter)
  | .unloadLora => s.Admits digest none
  | .releaseTask => ∀ task, s.tasks id = some task → task.beforePollEnd = true →
      s.Undisturbed digest task

/-- Requests take effect only where they are harmless. -/
def Orderly (s : State Id) : Action Id → Prop
  | .serve id => ∀ task request, s.tasks id = some task → task.awaited digest = some request →
      s.Harmless digest id request
  | .serveStray index => ∀ id request, s.strays[index]? = some (id, request) →
      s.Harmless digest id request
  | _ => True

end

end Songmaker.Worker.GenerationVoice
