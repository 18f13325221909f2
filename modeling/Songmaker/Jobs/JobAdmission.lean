import Songmaker.Jobs.JobLife

/-!
`create_job_with_rate_limit` of many sessions at once, among everything else that
writes job rows. Its statements are cut where another transaction can come in
between; the row that it inserts is seen by others once its transaction commits.
-/

namespace Songmaker.Jobs.JobAdmission

open Songmaker.Foundation
open Songmaker.Foundation.RowLocks
open Songmaker.Jobs.JobTransactions (Call)

/-- The `SETTING_...` keys of the rate limits. -/
inductive RateLimitKey where
  | generationRateLimit
  | scoringRateLimit
  | chatRateLimit
  | maxQueueDepth
  | maxUserActiveJobs
deriving DecidableEq

/-- The rows of `rate_limit_settings`, of one user or of none, and what the
environment says where there is no row. -/
structure RateLimits where
  rateLimitSetting : RateLimitKey → Option String → Option Nat
  envFallback : RateLimitKey → Nat

/-- The user's own limit, or the one that holds for all. -/
def RateLimits.resolveRateLimit (limits : RateLimits) (userId : String) (key : RateLimitKey) :
    Nat :=
  match limits.rateLimitSetting key (some userId) with
  | some value => value
  | none => (limits.rateLimitSetting key none).getD (limits.envFallback key)

/-- `_job_type_rate_limit`; `none` where it raises. -/
def jobTypeRateLimit : JobType → Option RateLimitKey
  | .generate => some .generationRateLimit
  | .score => some .scoringRateLimit
  | .chat => some .chatRateLimit
  | _ => none

def queueableJobTypes : List JobType := [.generate, .score]

/-- `RATE_LIMIT_WINDOW_SECONDS`, in microseconds as every time here. -/
def rateLimitWindow : Nat := 3600 * 1000000

def jobTypeValue : JobType → String
  | .cover => "cover"
  | .generate => "generate"
  | .score => "score"
  | .chat => "chat"
  | .loraTraining => "lora_training"
  | .loadModelOnWorker => "load_model_on_worker"
  | .downloadModelOnWorker => "download_model_on_worker"

/-- What a request is refused with. -/
inductive Refusal where
  | uncommittedMutations (caller : String)
  | unknownJobType (jobType : JobType)
  | missingSong
  | http (status : Nat) (detail : String)
deriving DecidableEq

def queueFull : Refusal := .http 429 "Queue is full. Try again later."

def activeJobRefused : Refusal :=
  .http 429 "You already have an active job. Wait for it to finish."

/-- The answer to a user who has created enough. -/
def rateLimitReached (limit : Nat) (jobType : JobType) : Refusal :=
  .http 429 s!"Rate limit reached ({limit}/{jobTypeValue jobType}s per hour)."

def versionNotFound : Refusal := .http 404 "Version not found"

/-- The arguments of one call. -/
structure Request where
  userId : String
  jobType : JobType
  songId : Option String := none
  versionId : Option String := none
deriving DecidableEq

/-- How far a session is in `create_job_with_rate_limit`. From `enforcing` on it
holds the advisory lock; in `created` it is back in the endpoint, which has yet to
commit the row. -/
inductive Stage (Id : Type) where
  | none
  | waiting (request : Request)
  | enforcing (request : Request)
  | recovering (request : Request)
  | countingActive (request : Request)
  | countingWindow (request : Request)
  | lockingVersion (request : Request) (countedAt : Nat)
  | creating (request : Request) (countedAt : Nat)
  | created (id : Id) (job : JobRow)
deriving DecidableEq

/-- The rows of the jobs, the advisory lock, and what each admission has counted. -/
structure State (Id Tx : Type) where
  work : JobTransactions.State Id Tx
  stage : Tx → Stage Id
  /-- The transaction that holds the advisory lock. -/
  exclusive : Option Tx
  clock : Nat
  refusal : Tx → Option Refusal

/-- `other` is a statement of a transaction that is in no admission. -/
inductive Action (Id Tx : Type) where
  | tick (now : Nat)
  | request (tx : Tx) (request : Request)
  | beginExclusive (tx : Tx)
  | selectStaleJobs (tx : Tx) (ids : List Id)
  | recoverStaleJob (tx : Tx) (verdict : Option (String × String))
  | countQueued (tx : Tx)
  | countActive (tx : Tx)
  | countWindow (tx : Tx)
  | lockVersion (tx : Tx) (found : Bool)
  | createJob (tx : Tx) (id : Id)
  | updateCreated (tx : Tx) (update : JobStatusUpdate)
  | commit (tx : Tx)
  | rollback (tx : Tx)
  | other (action : JobTransactions.Action Id Tx)

variable {Id Tx : Type} [DecidableEq Id] [DecidableEq Tx]

def activeJob (job : JobRow) : Bool := job.status ∈ jobActiveStatuses

/-- A user's jobs of a type that are not over. -/
def activeJobOf (userId : String) (jobType : JobType) (job : JobRow) : Bool :=
  job.userId = some userId ∧ job.jobType = jobType ∧ job.status ∈ jobActiveStatuses

/-- A user's jobs of a type that were created in the interval. -/
def createdBetween (userId : String) (jobType : JobType) (first last : Nat) (job : JobRow) : Bool :=
  job.userId = some userId ∧ job.jobType = jobType ∧ first ≤ job.startedAt ∧ job.startedAt ≤ last

/-- The filter of `count_user_jobs_in_window` at `now`. -/
def createdInWindow (userId : String) (jobType : JobType) (now : Nat) (job : JobRow) : Bool :=
  job.userId = some userId ∧ job.jobType = jobType ∧ now ≤ job.startedAt + rateLimitWindow

/-- What the other callers of `create_job` insert: a scoring that no user asked
for, or a job of a type without a rate limit. -/
def CreatedElsewhere : JobTransactions.Action Id Tx → Prop
  | .createJob _ jobType userId _ _ => userId = none ∨ jobTypeRateLimit jobType = none
  | _ => True

instance (action : JobTransactions.Action Id Tx) : Decidable (CreatedElsewhere action) := by
  cases action <;> unfold CreatedElsewhere <;> infer_instance

/-- The stage after the window was counted at `now`. -/
def Request.checked (request : Request) (now : Nat) : Stage Id :=
  if request.versionId = none then .creating request now else .lockingVersion request now

namespace State

def setStage (state : State Id Tx) (tx : Tx) (stage : Stage Id) : State Id Tx :=
  { state with stage := Function.update state.stage tx stage }

/-- `session.rollback()`, which gives the advisory lock back. -/
def rolledBack (state : State Id Tx) (tx : Tx) : State Id Tx where
  work := { state.work with jobs := state.work.jobs.rollback tx }.setCall tx .none
  stage := Function.update state.stage tx .none
  exclusive := if state.exclusive = some tx then none else state.exclusive
  clock := state.clock
  refusal := state.refusal

/-- The request ends with an error, and its transaction is rolled back. -/
def refuse (state : State Id Tx) (tx : Tx) (refusal : Refusal) : State Id Tx :=
  { state.rolledBack tx with refusal := Function.update state.refusal tx (some refusal) }

/-- `_transaction_has_written`: a lock counts as a write. -/
def transactionHasWritten (state : State Id Tx) (tx : Tx) : Prop :=
  ∃ id ∈ state.work.jobs.ids, ∃ slot ∈ state.work.jobs.slot id, ∃ held ∈ slot.lock, held.1 = tx

instance (state : State Id Tx) (tx : Tx) : Decidable (state.transactionHasWritten tx) :=
  inferInstanceAs (Decidable (∃ id ∈ state.work.jobs.ids, ∃ slot ∈ state.work.jobs.slot id,
    ∃ held ∈ slot.lock, held.1 = tx))

/-- The rows that `tx` sees and that match, its own new row among them. -/
def count (state : State Id Tx) (tx : Tx) (matching : JobRow → Bool) : Nat :=
  state.work.jobs.countVisible tx matching +
    match state.stage tx with
    | .created _ job => if matching job then 1 else 0
    | _ => 0

def countTotalQueuedJobs (state : State Id Tx) (tx : Tx) : Nat :=
  state.count tx activeJob

def countUserActiveJobs (state : State Id Tx) (tx : Tx) (userId : String) (jobType : JobType) :
    Nat :=
  state.count tx (activeJobOf userId jobType)

/-- The jobs that the user created in the last hour. -/
def countUserJobsInWindow (state : State Id Tx) (tx : Tx) (userId : String) (jobType : JobType) :
    Nat :=
  state.count tx (createdInWindow userId jobType state.clock)

/-- The last check of `_enforce_job_limits`. -/
def enforceWindow (limits : RateLimits) (state : State Id Tx) (tx : Tx) (request : Request) :
    State Id Tx :=
  match jobTypeRateLimit request.jobType with
  | none => state.refuse tx (.unknownJobType request.jobType)
  | some key =>
      if limits.resolveRateLimit request.userId key ≤
          state.countUserJobsInWindow tx request.userId request.jobType then
        state.refuse tx
          (rateLimitReached (limits.resolveRateLimit request.userId key) request.jobType)
      else state.setStage tx (request.checked state.clock)

/-- One action; `none` where it cannot happen. -/
def act (limits : RateLimits) (state : State Id Tx) : Action Id Tx → Option (State Id Tx)
  | .tick now => if state.clock ≤ now then some { state with clock := now } else none
  | .request tx request =>
      match state.stage tx, state.work.call tx with
      | .none, .none =>
          if state.transactionHasWritten tx then
            some (state.refuse tx (.uncommittedMutations "create_job_with_rate_limit"))
          else
            some
              ({ state with refusal := Function.update state.refusal tx none }.setStage tx
                (.waiting request))
      | _, _ => none
  | .beginExclusive tx =>
      match state.stage tx with
      | .waiting request =>
          if state.exclusive = none then
            some ({ state with exclusive := some tx }.setStage tx (.enforcing request))
          else none
      | _ => none
  | .selectStaleJobs tx ids =>
      match state.stage tx with
      | .enforcing request =>
          (state.work.act (.selectStaleJobs tx (some request.userId) ids state.clock)).map
            fun work => { state with work := work }.setStage tx (.recovering request)
      | _ => none
  | .recoverStaleJob tx verdict =>
      match state.stage tx with
      | .recovering _ =>
          (state.work.act (.recoverStaleJob tx verdict)).map fun work => { state with work := work }
      | _ => none
  | .countQueued tx =>
      match state.stage tx, state.work.call tx with
      | .recovering request, .none =>
          if request.jobType ∈ queueableJobTypes then
            if limits.resolveRateLimit request.userId .maxQueueDepth ≤
                state.countTotalQueuedJobs tx then
              some (state.refuse tx queueFull)
            else some (state.setStage tx (.countingActive request))
          else none
      | _, _ => none
  | .countActive tx =>
      match state.stage tx with
      | .countingActive request =>
          if limits.resolveRateLimit request.userId .maxUserActiveJobs ≤
              state.countUserActiveJobs tx request.userId request.jobType then
            some (state.refuse tx activeJobRefused)
          else some (state.setStage tx (.countingWindow request))
      | _ => none
  | .countWindow tx =>
      match state.stage tx, state.work.call tx with
      | .recovering request, .none =>
          if request.jobType ∈ queueableJobTypes then none
          else some (state.enforceWindow limits tx request)
      | .countingWindow request, _ => some (state.enforceWindow limits tx request)
      | _, _ => none
  | .lockVersion tx found =>
      match state.stage tx with
      | .lockingVersion request countedAt =>
          if request.songId = none then some (state.refuse tx .missingSong)
          else if found then some (state.setStage tx (.creating request countedAt))
          else some (state.refuse tx versionNotFound)
      | _ => none
  | .createJob tx id =>
      match state.stage tx with
      | .creating request _ =>
          if id ∈ state.work.jobs.ids then none
          else
            some (state.setStage tx
              (.created id (createJob request.jobType (some request.userId) none state.clock)))
      | _ => none
  | .updateCreated tx update =>
      match state.stage tx with
      | .created id job =>
          match job.updateStatus update state.clock with
          | none => some state
          | some job' => some (state.setStage tx (.created id job'))
      | _ => none
  | .commit tx =>
      match state.stage tx with
      | .created id job =>
          ((state.work.jobs.commit tx).insert id job).map fun jobs =>
            { work := { state.work with jobs := jobs }
              stage := Function.update state.stage tx .none
              exclusive := if state.exclusive = some tx then none else state.exclusive
              clock := state.clock
              refusal := state.refusal }
      | _ => none
  | .rollback tx => some (state.rolledBack tx)
  | .other action =>
      if (∀ tx ∈ action.tx, state.stage tx = .none) ∧ CreatedElsewhere action then
        (state.work.act action).map fun work => { state with work := work }
      else none

/-- The user's active jobs of a type that are committed. -/
def activeJobs (state : State Id Tx) (userId : String) (jobType : JobType) : Nat :=
  state.work.jobs.countCommitted (activeJobOf userId jobType)

/-- The user's jobs of a type that were created within one window from `first` on. -/
def jobsCreated (state : State Id Tx) (userId : String) (jobType : JobType) (first : Nat) : Nat :=
  state.work.jobs.countCommitted
    (createdBetween userId jobType first (first + rateLimitWindow))

end State

/-- No job yet, and no session in a transaction. -/
def initial (state : State Id Tx) : Prop :=
  state.work.jobs.ids = [] ∧ (∀ tx, state.work.call tx = .none) ∧ (∀ tx, state.stage tx = .none) ∧
    state.exclusive = none

def admissionSystem (Id Tx : Type) [DecidableEq Id] [DecidableEq Tx] (limits : RateLimits) :
    TransitionSystem (State Id Tx) (Action Id Tx) :=
  TransitionSystem.ofAct initial (State.act limits)

end Songmaker.Jobs.JobAdmission
