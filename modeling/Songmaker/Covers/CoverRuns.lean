import Songmaker.Foundation.TransitionSystem
import Songmaker.Jobs.JobRow

/-!
One cover job in the web executor: its row, its suggestion row, its files, the run
that draws and publishes, the threads that a cancelled run leaves behind, and the
recoveries of restarted processes.
-/

namespace Songmaker.Covers.CoverRuns

open Songmaker.Foundation
open Songmaker.Jobs

/-- Why a turn with the agent cannot be had. -/
inductive AgentProblem where
  | unavailable
  | busy
  | notEnabled
  | signInAgain
deriving DecidableEq

def AgentProblem.value : AgentProblem → String
  | .unavailable => "unavailable"
  | .busy => "busy"
  | .notEnabled => "not_enabled"
  | .signInAgain => "sign_in_again"

/-- `_PROBLEM_SENTENCES`. -/
def problemSentences : AgentProblem → String
  | .unavailable => "Cover suggestions are unavailable right now. Try again later."
  | .busy => "Cover suggestions are busy. Try again when Suggest opens."
  | .notEnabled =>
      "Cover suggestions are not enabled for your account. Ask an admin to enable them."
  | .signInAgain => "Log in again to get cover suggestions."

structure TurnProblem where
  problem : AgentProblem
  detail : String
  retryAfterSeconds : Option Nat
deriving DecidableEq

/-- `_RUN_FAILED`. -/
def runFailed : TurnProblem := ⟨.unavailable, "cover run failed", none⟩

/-- The update of `_end_with_problem`. -/
def endUpdate (problem : TurnProblem) : JobStatusUpdate where
  status := .failed
  error := some (problemSentences problem.problem)
  errorType := some problem.problem.value
  retryAfterSeconds := problem.retryAfterSeconds

/-- The update of `_publish_suggestion`. -/
def publishUpdate : JobStatusUpdate where
  status := .completed
  progress := 1

/-- The update of `api_cancel_job`. -/
def cancelUpdate : JobStatusUpdate where
  status := .cancelled

/-- Where `_publish_suggestion` stands. From its status write to its commit or
rollback it holds the lock of the job row, with the row it is about to commit. -/
inductive PublishPoint where
  | locking
  | makingParent (pending : JobRow)
  | moving (pending : JobRow)
  | committing (pending : JobRow)
  | withdrawing
deriving DecidableEq

/-- The row that the publishing has written and not committed. -/
def PublishPoint.pending : PublishPoint → Option JobRow
  | .makingParent pending | .moving pending | .committing pending => some pending
  | .locking | .withdrawing => none

/-- Where `run_claimed_cover_suggestion_job` stands. `staged` says whether its
variable `staging_dir` is set when it cleans up, `cancelled` whether it is being
cancelled. -/
inductive RunPoint where
  | beating
  | loading
  | checking
  | picturing
  | ending (problem : TurnProblem) (attempt : Nat)
  | creating
  | writing
  | beatingAgain
  | publishing (point : PublishPoint) (cancelled : Bool)
  | removing
  | cleaning (staged cancelled : Bool)
  | failing (attempt : Nat)
  | returned
  | raised
  | crashed
deriving DecidableEq

/-- The run's transaction holds the lock of the job row. -/
def RunPoint.locks : RunPoint → Bool
  | .publishing point _ => point.pending.isSome
  | _ => false

/-- A thread that goes on after the run stopped waiting for it. -/
inductive Thread where
  | ending (problem : TurnProblem) (attempt : Nat)
  | creating
  | writing
  | removing
  | cleaning
deriving DecidableEq

/-- Where `recover_web_cover_jobs` stands: whether it listed the job as running,
whether it deletes its suggestion, and the row that its session loaded as running. -/
inductive Recovery where
  | listed (seen : Bool)
  | deleted (seen rows : Bool)
  | loaded (seen rows : Bool) (stale : Option JobRow)
  | files (seen rows : Bool)
  | stagings (seen : Bool)
deriving DecidableEq

/-- `suggestion`: its row is committed. `picture`: its PNG is at the final path.
`staging`: the staging directory, and whether the PNG is in it. `aborted`: a
cancellation has called `abort_web_cover_job`. `reported` records whether
`shutil.rmtree` has raised on the staging directory; the program keeps no such
record. -/
structure State where
  job : JobRow
  suggestion : Bool
  picture : Bool
  staging : Option Bool
  run : RunPoint
  adrift : List Thread
  aborted : Bool
  reported : Bool
  recoveries : Nat → Option Recovery

/-- How a step goes. `part`: a removal that fails has taken the PNG away. -/
inductive Fate where
  | done
  | failed
  | part
  | problem (problem : TurnProblem)
  | aborted
deriving DecidableEq

/-- What happens to a cover job: the run itself, a cancellation, the reaper, a crash, the
threads that go on without it, and the recovery of the next start. -/
inductive Action where
  | cancelJob (now : Nat)
  | reap (status : JobStatus) (heartbeatAt : Nat) (error errorType : String) (now : Nat)
  | beat (now : Nat)
  | cancelTask
  | crash
  | run (fate : Fate) (now : Nat)
  | drift (thread : Thread) (fate : Fate) (now : Nat)
  | recover (recovery : Nat) (fate : Fate) (now : Nat)
deriving DecidableEq

namespace State

variable (s : State)

/-- A guarded write of the job row in a transaction of its own. -/
def writeJob (change : JobRow → Option JobRow) : State :=
  { s with job := (change s.job).getD s.job }

def goTo (point : RunPoint) : State :=
  { s with run := point }

/-- What a failing removal leaves of the staging directory. -/
def stagingLeft : Fate → Option Bool
  | .part => s.staging.map fun _ => false
  | _ => s.staging

/-- One attempt of `_end_with_problem`. -/
def endWithProblem (problem : TurnProblem) (attempt : Nat) (again : Nat → RunPoint)
    (finished : RunPoint) (failed : RunPoint) : Fate → Nat → Option State
  | .done, now => some ((s.writeJob (JobRow.updateStatus (endUpdate problem) now)).goTo finished)
  | .failed, _ => some (s.goTo (if attempt = 0 then again 1 else failed))
  | _, _ => none

/-- One step of `_publish_suggestion`; the run goes on once it has returned or raised. -/
def publish (point : PublishPoint) (cancelled : Bool) : Fate → Nat → Option State
  | fate, now =>
      let raise := s.goTo (.cleaning true cancelled)
      match point, fate with
      | .locking, .done =>
          match s.job.updateStatus publishUpdate now with
          | none => some raise
          | some pending => some (s.goTo (.publishing (.makingParent pending) cancelled))
      | .makingParent pending, .done =>
          some (s.goTo (.publishing (.moving pending) cancelled))
      | .moving pending, .done =>
          if s.staging = some true then
            some { s with
              staging := some false
              picture := true
              run := .publishing (.committing pending) cancelled }
          else some raise
      | .committing pending, .done =>
          some { s with
            job := pending
            suggestion := true
            run := if cancelled then .cleaning true true else .removing }
      | .committing _, .failed => some (s.goTo (.publishing .withdrawing cancelled))
      | .withdrawing, .done => some { raise with picture := false }
      | .locking, .failed | .makingParent _, .failed | .moving _, .failed
      | .withdrawing, .failed => some raise
      | _, _ => none

/-- The step that the run or the thread it waits for takes next. -/
def runStep : RunPoint → Fate → Nat → Option State
  | .beating, .done, now => some ((s.writeJob (JobRow.updateHeartbeat now)).goTo .loading)
  | .beating, .failed, _ => some (s.goTo .loading)
  | .loading, .done, _ =>
      some (s.goTo (if s.job.status = .running then .checking else .cleaning false false))
  | .loading, .problem problem, _ =>
      if s.job.status = .running ∧
          (problem = ⟨.notEnabled, "user gone", none⟩ ∨
            problem = ⟨.signInAgain, "no asking session", none⟩) then
        some (s.goTo (.ending problem 0))
      else none
  | .loading, .failed, _ => some (s.goTo (.cleaning false false))
  | .checking, .done, _ =>
      some (s.goTo (if s.job.status = .running then .picturing else .returned))
  | .checking, .failed, _ => some (s.goTo (.ending runFailed 0))
  | .checking, .aborted, _ => if s.aborted then some (s.goTo .returned) else none
  | .picturing, .done, _ => some (s.goTo .creating)
  | .picturing, .problem problem, _ => some (s.goTo (.ending problem 0))
  | .picturing, .failed, _ => some (s.goTo (.ending runFailed 0))
  | .picturing, .aborted, _ => if s.aborted then some (s.goTo .returned) else none
  | .ending problem attempt, fate, now =>
      s.endWithProblem problem attempt (.ending problem) .returned (.cleaning false false) fate now
  | .creating, .done, _ =>
      if s.staging.isSome then some (s.goTo (.cleaning false false))
      else some { s with staging := some false, run := .writing }
  | .creating, .failed, _ => some (s.goTo (.cleaning false false))
  | .writing, .done, _ =>
      if s.staging.isSome then some { s with staging := some true, run := .beatingAgain }
      else some (s.goTo (.cleaning true false))
  | .writing, .failed, _ => some (s.goTo (.cleaning true false))
  | .beatingAgain, .done, now =>
      some ((s.writeJob (JobRow.updateHeartbeat now)).goTo (.publishing .locking false))
  | .beatingAgain, .failed, _ => some (s.goTo (.publishing .locking false))
  | .publishing point cancelled, fate, now => s.publish point cancelled fate now
  | .removing, .done, _ =>
      if s.staging.isSome then some { s with staging := none, run := .returned }
      else some { s with reported := true, run := .cleaning true false }
  | .removing, .failed, _ => some { s with reported := true, run := .cleaning true false }
  | .removing, .part, _ =>
      some { s with
        staging := s.stagingLeft .part
        reported := true
        run := .cleaning true false }
  | .cleaning staged cancelled, fate, _ =>
      if fate ∈ [.done, .failed, .part] then
        some { s with
          staging :=
            if staged then if fate = .done then none else s.stagingLeft fate else s.staging
          run := if cancelled then .raised else .failing 0 }
      else none
  | .failing attempt, fate, now =>
      s.endWithProblem runFailed attempt .failing .returned .raised fate now
  | _, _, _ => none

/-- Where the run goes when it is cancelled, and the thread that it leaves behind. -/
def cancelled : RunPoint → Option (RunPoint × List Thread)
  | .beating => some (.raised, [])
  | .loading | .checking | .picturing => some (.cleaning false true, [])
  | .ending problem attempt => some (.cleaning false true, [.ending problem attempt])
  | .creating => some (.cleaning false true, [.creating])
  | .writing => some (.cleaning true true, [.writing])
  | .beatingAgain => some (.cleaning true true, [])
  | .publishing point _ => some (.publishing point true, [])
  | .removing => some (.cleaning true true, [.removing])
  | .cleaning staged _ => some (.raised, if staged then [.cleaning] else [])
  | .failing attempt => some (.raised, [.ending runFailed attempt])
  | .returned | .raised | .crashed => none

/-- The step of a thread that nobody waits for. -/
def driftStep (thread : Thread) (fate : Fate) (now : Nat) : Option State :=
  let rest := { s with adrift := s.adrift.erase thread }
  match thread, fate with
  | .ending problem _, .done =>
      if s.run.locks = false then some (rest.writeJob (JobRow.updateStatus (endUpdate problem) now))
      else none
  | .ending problem attempt, .failed =>
      some { rest with
        adrift := if attempt = 0 then .ending problem 1 :: rest.adrift else rest.adrift }
  | .creating, .done => some { rest with staging := s.staging <|> some false }
  | .writing, .done => some { rest with staging := s.staging.map fun _ => true }
  | .removing, .done | .cleaning, .done => some { rest with staging := none }
  | .creating, .failed | .writing, .failed | .removing, .failed | .cleaning, .failed =>
      some rest
  | .removing, .part | .cleaning, .part => some { rest with staging := s.stagingLeft .part }
  | _, _ => none

def setRecovery (recovery : Nat) (point : Option Recovery) : State :=
  { s with recoveries := Function.update s.recoveries recovery point }

/-- The commit of a recovery: the flush of the row that it loaded as running,
which waits for the lock, and the deletion of the suggestion. -/
def commitRecovery (seen rows : Bool) (stale : Option JobRow) (recovery now : Nat) :
    Option State :=
  match stale with
  | none =>
      some ({ s with suggestion := s.suggestion && !rows }.setRecovery recovery
        (some (.files seen rows)))
  | some loaded =>
      if s.run.locks = false then
        some ({ s with
          job := JobRow.recoverByType loaded now s.job
          suggestion := s.suggestion && !rows }.setRecovery recovery (some (.files seen rows)))
      else none

/-- The next step of a recovery. -/
def recoverStep (recovery : Nat) (now : Nat) : Option Recovery → Fate → Option State
  | none, .done => some (s.setRecovery recovery (some (.listed (s.job.status = .running))))
  | some (.listed seen), .done =>
      some (s.setRecovery recovery (some (.deleted seen (seen && s.suggestion))))
  | some (.deleted seen rows), .done =>
      some (s.setRecovery recovery (some (.loaded seen rows
        (if s.job.status = .running then some s.job else none))))
  | some (.loaded seen rows stale), .done => s.commitRecovery seen rows stale recovery now
  | some (.files seen rows), .done =>
      some ({ s with picture := s.picture && !rows }.setRecovery recovery
        (some (.stagings seen)))
  | some (.stagings seen), .done =>
      some ({ s with staging := if seen then none else s.staging }.setRecovery recovery none)
  | some (.stagings seen), .part =>
      some ({ s with
        staging := if seen then s.stagingLeft .part else s.staging }.setRecovery recovery none)
  | some _, .failed => some (s.setRecovery recovery none)
  | _, _ => none

/-- What a step does; `none` where it cannot be taken. -/
def act : Action → Option State
  | .cancelJob now =>
      if s.run.locks = false ∧ s.job.status ∈ jobActiveStatuses then
        some { s.writeJob (JobRow.updateStatus cancelUpdate now) with aborted := true }
      else none
  | .reap status heartbeatAt error errorType now =>
      if s.run.locks = false ∧ status ∈ jobActiveStatuses then
        some (s.writeJob (JobRow.recoverStaleIfUnchanged status heartbeatAt error errorType now))
      else none
  | .beat now =>
      if s.run.locks = false then some (s.writeJob (JobRow.updateHeartbeat now)) else none
  | .cancelTask =>
      (cancelled s.run).map fun (point, threads) =>
        { s with run := point, adrift := threads ++ s.adrift }
  | .crash =>
      if s.run = .returned ∨ s.run = .raised then none
      else some { s with run := .crashed, adrift := [] }
  | .run fate now => s.runStep s.run fate now
  | .drift thread fate now => if thread ∈ s.adrift then s.driftStep thread fate now else none
  | .recover recovery fate now => s.recoverStep recovery now (s.recoveries recovery) fate

/-- The run is over, with an exception or without, and its process still lives. -/
def Returned : Prop :=
  s.run = .returned ∨ s.run = .raised

end State

/-- A cover job that has just been claimed. -/
def claimed (s : State) : Prop :=
  s.job.status = .running ∧ s.suggestion = false ∧ s.picture = false ∧ s.staging = none ∧
    s.run = .beating ∧ s.adrift = [] ∧ s.aborted = false ∧ s.reported = false ∧
      ∀ recovery, s.recoveries recovery = none

def coverRunSystem : TransitionSystem State Action :=
  TransitionSystem.ofAct claimed State.act

end Songmaker.Covers.CoverRuns
