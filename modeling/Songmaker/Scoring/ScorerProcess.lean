import Songmaker.Foundation.TransitionSystem
import Songmaker.Scoring.ScorePipeline

namespace Songmaker.Scoring.ScorerProcess

open Songmaker.Foundation
open Songmaker.Scoring.ScorePipeline (ScorerName ScorerOutcome ScorerRun)

/-- A call of `score`. Its requests are named by it, the retried one too. -/
abbrev CallId := Nat

/-- `request` is not part of the source's scores: the call they were computed for. -/
structure SongScores where
  request : CallId
  anyChildScorerTimedOut : Bool
deriving DecidableEq

/-- What a message carries beside its request id. -/
inductive Body where
  | progress (completed total : Nat) (scorerName : String)
  | scores (scores : SongScores)
  | error (error : String)
deriving DecidableEq

/-- A message in the pipe. It does not carry the request that it answers. -/
structure Message where
  request : CallId
  body : Body
deriving DecidableEq

/-- The request that the child works on: the scorers that it has abandoned and not yet
collected, and the runs that it has collected. A scorer that is not registered is skipped
before the others run and has no part in it. -/
structure Work where
  request : CallId
  overran : List ScorerName
  runs : List ScorerRun
deriving DecidableEq

/-- The run of a scorer that `_aggregate` keeps: its last. -/
def keptRun (runs : List ScorerRun) (scorer : ScorerName) : Option ScorerRun :=
  runs.reverse.find? fun run => run.scorer = scorer

/-- `any_child_scorer_timed_out` of the scores: whether a run that is kept timed out. -/
def anyChildScorerTimedOut (runs : List ScorerRun) : Bool :=
  runs.any fun run => (keptRun runs run.scorer).any fun kept => kept.outcome = .timedOut

/-- The pipeline collects a run; one that timed out was abandoned before. -/
def Work.collect (work : Work) (run : ScorerRun) : Option Work :=
  match run.outcome with
  | .ok | .failed => some { work with runs := work.runs ++ [run] }
  | .timedOut =>
      if run.scorer ∈ work.overran then
        some { work with
          overran := work.overran.erase run.scorer
          runs := work.runs ++ [run] }
      else none
  | .skipped => none

/-- A child process with its pipe. `overBudget` says whether an abandoned scorer
still runs in it. -/
structure Child where
  alive : Bool
  inbox : List CallId
  working : Option Work
  outbox : List Message
  overBudget : Bool
deriving DecidableEq

inductive Stage where
  | starting
  | sending
  | polling
deriving DecidableEq

/-- The call that holds the pipe lock; `retried` is its second attempt. -/
structure Call where
  id : CallId
  retried : Bool
  stage : Stage
deriving DecidableEq

/-- `returned` and `handed` are records that the program does not keep: the
scores that calls returned, and for every request handed to a child whether
that child was over budget. -/
structure State where
  child : Option Child
  tainted : Bool
  call : Option Call
  nextCall : CallId
  returned : List (CallId × SongScores)
  handed : List Bool
deriving DecidableEq

def startedChild : Child where
  alive := true
  inbox := []
  working := none
  outbox := []
  overBudget := false

namespace State

/-- There is a child, and it runs. -/
def alive (state : State) : Bool :=
  state.child.any (·.alive)

/-- The call raises, and the pipe lock goes. -/
def raise (state : State) : State :=
  { state with call := none }

/-- `_kill` and `_cleanup_dead` leave no child and no connection. -/
def cleanup (state : State) : State :=
  { state with child := none }

def moveTo (state : State) (call : Call) (stage : Stage) : State :=
  { state with call := some { call with stage := stage } }

/-- `_ensure_started`; `started` is false where the process cannot be started. -/
def ensureStarted (state : State) (call : Call) (started : Bool) : State :=
  if state.alive && !state.tainted then state.moveTo call .sending
  else if started then
    { state with child := some startedChild, tainted := false }.moveTo call .sending
  else state.cleanup.raise

/-- The handler of a connection error. -/
def retry (state : State) (call : Call) : State :=
  if call.retried then state.raise
  else { state.cleanup with call := some ⟨call.id, true, .starting⟩ }

/-- `conn.send` of the request. -/
def send (state : State) (call : Call) (child : Child) : State :=
  if child.alive then
    { state with
      child := some { child with inbox := child.inbox ++ [call.id] }
      handed := state.handed ++ [child.overBudget] }.moveTo call .polling
  else state.retry call

/-- What a call makes of a message, where its callback returns. -/
def receive (state : State) (call : Call) (child : Child) (message : Message)
    (rest : List Message) : State :=
  let read := { state with child := some { child with outbox := rest } }
  match message.body with
  | .progress .. => read
  | .error _ => read.raise
  | .scores scores =>
      { read.raise with
        tainted := scores.anyChildScorerTimedOut
        returned := state.returned ++ [(call.id, scores)] }

end State

/-- `callbackRaises` is a progress message whose callback raises, `connection`
where that is one of the errors that the call takes for a broken connection. -/
inductive Action where
  | score
  | ensureStarted (started : Bool)
  | send
  | receive
  | callbackRaises (connection : Bool)
  | endOfFile
  | tornMessage
  | pipelineTimeout
  | recycle
  | childReads
  | childOverruns (scorer : ScorerName)
  | childReports (run : ScorerRun) (total : Nat)
  | childAnswers (error : Option String)
  | childCrashes
deriving DecidableEq

/-- The child's answer to the request that it works on. There are scores only when every
scorer has been collected. -/
def answer (work : Work) : Option String → Option Message
  | some error => some ⟨work.request, .error error⟩
  | none =>
      if work.overran = [] then
        some ⟨work.request, .scores ⟨work.request, anyChildScorerTimedOut work.runs⟩⟩
      else none

/-- One step of `_child_main`. -/
def childStep (child : Child) : Action → Option Child
  | .childReads =>
      match child.working, child.inbox with
      | none, request :: rest =>
          some { child with inbox := rest, working := some ⟨request, [], []⟩ }
      | _, _ => none
  | .childOverruns scorer => do
      let work ← child.working
      return { child with
        working := some { work with overran := work.overran ++ [scorer] }
        overBudget := true }
  | .childReports run total => do
      let work ← child.working
      let collected ← work.collect run
      return { child with
        working := some collected
        outbox := child.outbox ++
          [⟨work.request, .progress collected.runs.length total run.scorer.text⟩] }
  | .childAnswers error => do
      let work ← child.working
      let message ← answer work error
      return { child with working := none, outbox := child.outbox ++ [message] }
  | .childCrashes => some { child with alive := false }
  | _ => none

/-- A step of the call that holds the pipe lock. -/
def callStep (state : State) (call : Call) : Action → Option State
  | .ensureStarted started =>
      if call.stage = .starting then some (state.ensureStarted call started) else none
  | .send =>
      match call.stage, state.child with
      | .sending, some child => some (state.send call child)
      | _, _ => none
  | .receive =>
      match call.stage, state.child with
      | .polling, some child =>
          match child.outbox with
          | message :: rest => some (state.receive call child message rest)
          | [] => none
      | _, _ => none
  | .callbackRaises connection =>
      match call.stage, state.child with
      | .polling, some child =>
          match child.outbox with
          | ⟨_, .progress ..⟩ :: rest =>
              let read := { state with child := some { child with outbox := rest } }
              some (if connection then read.retry call else read.raise)
          | _ => none
      | _, _ => none
  | .endOfFile =>
      match call.stage, state.child with
      | .polling, some child =>
          if child.outbox = [] ∧ child.alive = false then some (state.retry call) else none
      | _, _ => none
  | .tornMessage =>
      match call.stage, state.child with
      | .polling, some child =>
          if child.outbox = [] ∧ child.alive = false then some state.raise else none
      | _, _ => none
  | .pipelineTimeout =>
      if call.stage = .polling then some state.cleanup.raise else none
  | _ => none

def act (state : State) (action : Action) : Option State :=
  match action with
  | .score =>
      if state.call = none then
        some
          { state with
            call := some ⟨state.nextCall, false, .starting⟩
            nextCall := state.nextCall + 1 }
      else none
  | .recycle => if state.call = none then some state.cleanup else none
  | .childReads | .childOverruns _ | .childReports .. | .childAnswers _ | .childCrashes =>
      match state.child with
      | some child =>
          if child.alive then
            (childStep child action).map fun child => { state with child := some child }
          else none
      | none => none
  | _ =>
      match state.call with
      | some call => callStep state call action
      | none => none

def unstarted : State where
  child := none
  tainted := false
  call := none
  nextCall := 0
  returned := []
  handed := []

def scorerSystem : TransitionSystem State Action :=
  .ofAct (· = unstarted) act

end Songmaker.Scoring.ScorerProcess
