import Mathlib.Data.List.Basic
import Mathlib.Data.Rat.Defs
import Mathlib.Order.RelClasses

namespace Songmaker.Jobs

/-- `JobStatus`; `partialResult` is the source's `PARTIAL`. -/
inductive JobStatus where
  | queued
  | running
  | completed
  | failed
  | partialResult
  | cancelled
deriving DecidableEq

inductive JobType where
  | cover
  | generate
  | score
  | chat
  | loraTraining
  | loadModelOnWorker
  | downloadModelOnWorker
deriving DecidableEq

inductive GenerationPhase where
  | loadingModel
  | writing
  | rendering
  | savingTake
deriving DecidableEq

def jobActiveStatuses : List JobStatus := [.queued, .running]

def jobTerminalStatuses : List JobStatus := [.completed, .failed, .partialResult, .cancelled]

def generatingPhases : List GenerationPhase := [.writing, .rendering, .savingTake]

theorem mem_active_iff_notMem_terminal (status : JobStatus) :
    status ∈ jobActiveStatuses ↔ status ∉ jobTerminalStatuses := by
  cases status <;> decide

/-- The columns that the writers below read or write. -/
structure JobRow where
  jobType : JobType
  status : JobStatus
  progress : ℚ
  phase : Option GenerationPhase
  generationStartedAt : Option Nat
  takeIndex : Option Nat
  takeCount : Option Nat
  currentEpoch : Option Nat
  trainEpochs : Option Nat
  trainingStartedAt : Option Nat
  error : Option String
  errorType : Option String
  retryAfterSeconds : Option Nat
  queueReason : Option String
  userId : Option String
  sessionId : Option String
  workerPid : Option Nat
  heartbeatAt : Nat
  startedAt : Nat
  completedAt : Option Nat
deriving DecidableEq

/-- The arguments of `update_job_status`. -/
structure JobStatusUpdate where
  status : JobStatus
  progress : ℚ := 0
  error : Option String := none
  errorType : Option String := none
  retryAfterSeconds : Option Nat := none
  queueReason : Option String := none
  workerPid : Option Nat := none
  currentEpoch : Option Nat := none
  trainEpochs : Option Nat := none
  trainingStartedAt : Option Nat := none
  takeIndex : Option Nat := none
  takeCount : Option Nat := none
  phase : Option GenerationPhase := none
deriving DecidableEq

/-- The columns of a row that has just been inserted by `create_job`. -/
def createJob (jobType : JobType) (userId sessionId : Option String) (now : Nat) : JobRow where
  jobType := jobType
  status := .queued
  progress := 0
  phase := none
  generationStartedAt := none
  takeIndex := none
  takeCount := none
  currentEpoch := none
  trainEpochs := none
  trainingStartedAt := none
  error := none
  errorType := none
  retryAfterSeconds := none
  queueReason := none
  userId := userId
  sessionId := sessionId
  workerPid := none
  heartbeatAt := now
  startedAt := now
  completedAt := none

namespace JobRow

/-- The update makes a waiting job run. -/
def entersRunning (job : JobRow) (status : JobStatus) : Prop :=
  status = .running ∧ job.status ≠ .running

instance (job : JobRow) (status : JobStatus) : Decidable (job.entersRunning status) :=
  inferInstanceAs (Decidable (_ ∧ _))

/-- `_move_generation_start`. -/
def movedGenerationStart (job : JobRow) (status : JobStatus) (phase : Option GenerationPhase)
    (now : Nat) : Option Nat :=
  let anchor :=
    if status ≠ .running ∨ job.entersRunning status then none else job.generationStartedAt
  if status = .running ∧ (∃ generating ∈ generatingPhases, phase = some generating) ∧
      anchor = none then
    some now
  else anchor

/-- `update_job_status` once it holds the row lock; `none` when it returns `False`. -/
def updateStatus (update : JobStatusUpdate) (now : Nat) (job : JobRow) : Option JobRow :=
  if job.status ∈ jobTerminalStatuses then none
  else
    some
      { job with
        generationStartedAt := job.movedGenerationStart update.status update.phase now
        status := update.status
        progress := update.progress
        error := update.error
        errorType := update.errorType
        retryAfterSeconds := update.retryAfterSeconds
        queueReason := update.queueReason
        workerPid := update.workerPid <|> job.workerPid
        currentEpoch := update.currentEpoch <|> job.currentEpoch
        trainEpochs := update.trainEpochs <|> job.trainEpochs
        trainingStartedAt := update.trainingStartedAt <|> job.trainingStartedAt
        takeIndex :=
          update.takeIndex <|> if update.status = .queued then none else job.takeIndex
        takeCount :=
          update.takeCount <|> if update.status = .queued then none else job.takeCount
        phase :=
          update.phase <|> if job.entersRunning update.status then none else job.phase
        heartbeatAt :=
          if update.status = .running ∨ update.status = .partialResult then now
          else job.heartbeatAt
        completedAt := if update.status ∈ jobTerminalStatuses then some now else job.completedAt
        sessionId := if update.status ∈ jobTerminalStatuses then none else job.sessionId }

/-- `update_job_heartbeat` once it holds the row lock. -/
def updateHeartbeat (now : Nat) (job : JobRow) : Option JobRow :=
  if job.status ∈ jobTerminalStatuses then none else some { job with heartbeatAt := now }

/-- The columns of the update that `claim_next_cover_job` applies to its candidate. -/
def claimCover (now : Nat) (job : JobRow) : Option JobRow :=
  if job.jobType = .cover ∧ job.status = .queued then
    some { job with status := .running, heartbeatAt := now }
  else none

/-- `_recover_stale_job_if_unchanged` with the status and heartbeat the reaper read. -/
def recoverStaleIfUnchanged (status : JobStatus) (heartbeatAt : Nat) (error errorType : String)
    (completedAt : Nat) (job : JobRow) : Option JobRow :=
  if job.status = status ∧ job.heartbeatAt = heartbeatAt then
    some
      { job with
        status := .failed
        error := some error
        errorType := some errorType
        completedAt := some completedAt
        queueReason := none
        generationStartedAt := none
        sessionId := none }
  else none

/-- The flush writes a column when its new value differs from the one the session loaded. -/
def flushColumn {α : Type} [DecidableEq α] (loaded new current : α) : α :=
  if loaded = new then current else new

/-- What `recover_stale_jobs_by_type` flushes for a row it loaded as `loaded`. -/
def recoverByType (loaded : JobRow) (now : Nat) (job : JobRow) : JobRow :=
  { job with
    status := flushColumn loaded.status .failed job.status
    error := flushColumn loaded.error (some "Server restarted while job was in progress") job.error
    errorType := flushColumn loaded.errorType (some "server_restart") job.errorType
    completedAt := flushColumn loaded.completedAt (some now) job.completedAt
    queueReason := flushColumn loaded.queueReason none job.queueReason
    generationStartedAt := flushColumn loaded.generationStartedAt none job.generationStartedAt
    sessionId := flushColumn loaded.sessionId none job.sessionId }

/-- A terminal job stays as it ended: `job'` has its status, error and completion time. -/
def TerminalKept (job job' : JobRow) : Prop :=
  job.status ∈ jobTerminalStatuses →
    job'.status = job.status ∧ job'.error = job.error ∧ job'.completedAt = job.completedAt

instance : IsPreorder JobRow TerminalKept where
  refl _ _ := ⟨rfl, rfl, rfl⟩
  trans job job' job'' hfirst hsecond hterminal := by
    obtain ⟨hstatus, herror, hcompleted⟩ := hfirst hterminal
    obtain ⟨hstatus', herror', hcompleted'⟩ := hsecond (hstatus ▸ hterminal)
    exact ⟨hstatus'.trans hstatus, herror'.trans herror, hcompleted'.trans hcompleted⟩

theorem terminalKept_of_active {job job' : JobRow} (hactive : job.status ∉ jobTerminalStatuses) :
    TerminalKept job job' :=
  fun hterminal => absurd hterminal hactive

theorem terminalKept_updateStatus {update : JobStatusUpdate} {now : Nat} {job job' : JobRow}
    (hupdate : job.updateStatus update now = some job') : TerminalKept job job' := by
  rw [updateStatus, Option.ite_none_left_eq_some] at hupdate
  exact terminalKept_of_active hupdate.1

theorem terminalKept_updateHeartbeat {now : Nat} {job job' : JobRow}
    (hupdate : job.updateHeartbeat now = some job') : TerminalKept job job' := by
  rw [updateHeartbeat, Option.ite_none_left_eq_some] at hupdate
  exact terminalKept_of_active hupdate.1

theorem terminalKept_claimCover {now : Nat} {job job' : JobRow}
    (hclaim : job.claimCover now = some job') : TerminalKept job job' := by
  unfold claimCover at hclaim
  split_ifs at hclaim with hqueued
  refine terminalKept_of_active ?_
  rw [hqueued.2]
  decide

theorem terminalKept_recoverStaleIfUnchanged {status : JobStatus} {heartbeatAt completedAt : Nat}
    {error errorType : String} {job job' : JobRow} (hactive : status ∈ jobActiveStatuses)
    (hrecover : job.recoverStaleIfUnchanged status heartbeatAt error errorType completedAt =
      some job') : TerminalKept job job' := by
  unfold recoverStaleIfUnchanged at hrecover
  split_ifs at hrecover with hsame
  refine terminalKept_of_active ?_
  rw [hsame.1]
  exact (mem_active_iff_notMem_terminal status).mp hactive

end JobRow

end Songmaker.Jobs
