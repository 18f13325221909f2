import Songmaker.Foundation.RowLocks
import Songmaker.Foundation.TransitionSystem
import Songmaker.Jobs.JobRow

namespace Songmaker.Jobs.JobTransactions

open Songmaker.Foundation
open Songmaker.Foundation.RowLocks

/-- The call that a transaction is in the middle of. -/
inductive Call (Id : Type) where
  | none
  | cancelling (id : Id)
  | updating (id : Id) (update : JobStatusUpdate)
  | beating (id : Id)
  | claiming (id : Id)
  | reaping (now : Nat) (stale : List (Id × JobRow))
  | recovering (now : Nat) (todo : List (JobType × List JobStatus)) (stale : List (Id × JobRow))
deriving DecidableEq

/-- The rows of the jobs with their locks, and the call that each transaction is in. -/
structure State (Id Tx : Type) where
  jobs : Table Id JobRow Tx
  call : Tx → Call Id

/-- A statement of transaction `tx`, with what it takes from outside: the order
in which the database returns rows, the clock, and what the reaper's liveness
policy says about the next stale candidate. -/
inductive Action (Id Tx : Type) where
  | createJob (id : Id) (jobType : JobType) (userId sessionId : Option String) (now : Nat)
  | cancelJob (tx : Tx) (id : Id)
  | updateJobStatus (tx : Tx) (id : Id) (update : JobStatusUpdate)
  | writeStatus (tx : Tx) (now : Nat)
  | updateJobHeartbeat (tx : Tx) (id : Id)
  | writeHeartbeat (tx : Tx) (now : Nat)
  | selectCoverJob (tx : Tx) (ids : List Id)
  | claimCoverJob (tx : Tx) (now : Nat)
  | selectStaleJobs (tx : Tx) (userId : Option String) (ids : List Id) (now : Nat)
  | recoverStaleJob (tx : Tx) (verdict : Option (String × String))
  | recoverStaleJobsByType (tx : Tx) (statuses : List (JobType × List JobStatus)) (now : Nat)
  | selectRecoverable (tx : Tx) (ids : List Id)
  | flushRecovered (tx : Tx)
  | commit (tx : Tx)
  | rollback (tx : Tx)

variable {Id Tx : Type} [DecidableEq Id] [DecidableEq Tx]

/-- `api_cancel_job` writes this update. -/
def cancelled : JobStatusUpdate := { status := .cancelled }

/-- The next call of a transaction once nothing of this one is left. -/
def Call.orNone : Call Id → Call Id
  | .reaping _ [] => .none
  | .recovering _ [] [] => .none
  | call => call

namespace State

def setCall (state : State Id Tx) (tx : Tx) (call : Call Id) : State Id Tx :=
  { state with call := Function.update state.call tx call.orNone }

/-- One statement on the row `id`, after which `tx` goes on with `call`. -/
def writeRow (state : State Id Tx) (tx : Tx) (id : Id) (change : JobRow → Option JobRow)
    (call : Call Id) : Option (State Id Tx) :=
  (state.jobs.write tx id change).map fun jobs => { state with jobs := jobs }.setCall tx call

/-- The oldest queued cover job that `tx` sees; equally old ones by their order in `ids`. -/
def nextCoverJob (state : State Id Tx) (tx : Tx) (ids : List Id) : Option Id :=
  let queued := state.jobs.select tx ids fun job => job.jobType = .cover ∧ job.status = .queued
  (queued.find? fun entry =>
    queued.all fun other => entry.2.startedAt ≤ other.2.startedAt).map Prod.fst

/-- One action; `none` where it cannot happen: the transaction is in another
call, or the row is locked by another transaction. -/
def act (state : State Id Tx) : Action Id Tx → Option (State Id Tx)
  | .createJob id jobType userId sessionId now =>
      (state.jobs.insert id (createJob jobType userId sessionId now)).map fun jobs =>
        { state with jobs := jobs }
  | .cancelJob tx id =>
      match state.call tx, state.jobs.visible tx id with
      | .none, some job =>
          if job.status ∈ jobActiveStatuses then some (state.setCall tx (.cancelling id))
          else some state
      | .none, none => some state
      | _, _ => none
  | .updateJobStatus tx id update =>
      match state.call tx with
      | .none => state.writeRow tx id some (.updating id update)
      | .cancelling cancelling =>
          if cancelling = id ∧ update = cancelled then
            state.writeRow tx id some (.updating id update)
          else none
      | _ => none
  | .writeStatus tx now =>
      match state.call tx with
      | .updating id update => state.writeRow tx id (JobRow.updateStatus update now) .none
      | _ => none
  | .updateJobHeartbeat tx id =>
      match state.call tx with
      | .none => state.writeRow tx id some (.beating id)
      | _ => none
  | .writeHeartbeat tx now =>
      match state.call tx with
      | .beating id => state.writeRow tx id (JobRow.updateHeartbeat now) .none
      | _ => none
  | .selectCoverJob tx ids =>
      match state.call tx with
      | .none =>
          if ids.Perm state.jobs.ids then
            match state.nextCoverJob tx ids with
            | none => some state
            | some id => some (state.setCall tx (.claiming id))
          else none
      | _ => none
  | .claimCoverJob tx now =>
      match state.call tx with
      | .claiming id => state.writeRow tx id (JobRow.claimCover now) .none
      | _ => none
  | .selectStaleJobs tx userId ids now =>
      match state.call tx with
      | .none =>
          if ids.Perm state.jobs.ids then
            some (state.setCall tx (.reaping now (state.jobs.select tx ids fun job =>
              job.status ∈ jobActiveStatuses ∧ (userId = none ∨ job.userId = userId))))
          else none
      | _ => none
  | .recoverStaleJob tx verdict =>
      match state.call tx with
      | .reaping now ((id, job) :: rest) =>
          match verdict with
          | none => some (state.setCall tx (.reaping now rest))
          | some (error, errorType) =>
              state.writeRow tx id
                (JobRow.recoverStaleIfUnchanged job.status job.heartbeatAt error errorType now)
                (.reaping now rest)
      | _ => none
  | .recoverStaleJobsByType tx statuses now =>
      match state.call tx with
      | .none => some (state.setCall tx (.recovering now statuses []))
      | _ => none
  | .selectRecoverable tx ids =>
      match state.call tx with
      | .recovering now ((jobType, statuses) :: todo) [] =>
          if ids.Perm state.jobs.ids then
            some (state.setCall tx (.recovering now todo (state.jobs.select tx ids fun job =>
              job.jobType = jobType ∧ job.status ∈ statuses)))
          else none
      | _ => none
  | .flushRecovered tx =>
      match state.call tx with
      | .recovering now todo ((id, loaded) :: rest) =>
          state.writeRow tx id (some ∘ JobRow.recoverByType loaded now)
            (.recovering now todo rest)
      | _ => none
  | .commit tx =>
      match state.call tx with
      | .none => some { state with jobs := state.jobs.commit tx }
      | _ => none
  | .rollback tx => some ({ state with jobs := state.jobs.rollback tx }.setCall tx .none)

end State

/-- Any committed rows, and no transaction under way. -/
def initial (state : State Id Tx) : Prop :=
  (∀ id slot, state.jobs.slot id = some slot → slot.lock = none) ∧ ∀ tx, state.call tx = .none

def jobSystem (Id Tx : Type) [DecidableEq Id] [DecidableEq Tx] :
    TransitionSystem (State Id Tx) (Action Id Tx) :=
  TransitionSystem.ofAct initial State.act

end Songmaker.Jobs.JobTransactions
