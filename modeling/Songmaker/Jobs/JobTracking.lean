import Songmaker.Jobs.JobAdmission

/-!
The jobs that the browser follows: one event stream for each, reopened after a backoff
or when the page gets a chance, a reading over REST once the stream has failed its
budget, and the wait of an ended job for its takes. An `EventSource`, a timer, a wait
and a request are told apart by their numbers.
-/

namespace Songmaker.Jobs.JobTracking

open Songmaker.Foundation
open Songmaker.Jobs.JobAdmission (jobTypeValue)

def jobStreamMaxConnectionErrors : Nat := 25

def sseImmediateReopenMinGapMs : ℚ := 2000

/-- The job as the server tells it. -/
structure Job where
  id : String
  type : JobType
  status : JobStatus
  error : Option String
  errorType : Option String
deriving DecidableEq

/-- A job that the page follows. -/
structure ActiveJob where
  job : Job
  songId : Option String
  awaitingTakes : Bool
  streamStale : Bool
deriving DecidableEq

structure GenerationFailure where
  message : String
  unavailable : Bool
deriving DecidableEq

inductive ToastKind where
  | success
  | info
  | error
deriving DecidableEq

/-- A message that the page shows for a while. -/
structure Toast where
  message : String
  kind : ToastKind
deriving DecidableEq

/-- What the next stream of a job takes over from the failed ones. -/
structure StreamRetry where
  attempt : Nat
  spentFailures : Nat
  spendsOnFailure : Bool
deriving DecidableEq

def freshStream : StreamRetry := ⟨1, 0, true⟩

/-- An `EventSource` that is not closed, with what its handlers close over. -/
structure Stream where
  id : Nat
  jobId : String
  current : StreamRetry
  spoke : Bool
  reopenGap : Nat
deriving DecidableEq

/-- A reconnection that a timer will make. -/
structure PendingReconnect where
  timer : Nat
  attempt : Nat
  spentFailures : Nat
  reopenGap : Nat
deriving DecidableEq

/-- A `rereadAfterSpentBudget` that awaits its answer. -/
structure Reread where
  id : Nat
  jobId : String
  attempt : Nat
  reopenGap : Nat
deriving DecidableEq

/-- What the server answers when a job's row is read again. -/
inductive RereadAnswer where
  | job (job : Job)
  | notFound
  | failed
deriving DecidableEq

/-- The server answers with the job that was asked for. -/
def RereadAnswer.isOf (jobId : String) : RereadAnswer → Bool
  | .job told => told.id = jobId
  | _ => true

/-- Where `refreshedWhileOnline` stands. -/
inductive RefreshStage where
  | refreshing
  | awaitingOnline
  | refreshed
  | over
deriving DecidableEq

/-- A `keepUntilSongRefreshed`: whether it watches the connectivity, and whether its
timer runs. -/
structure TakeWait where
  id : Nat
  job : Job
  songId : String
  stage : RefreshStage
  watching : Bool
  bound : Bool
deriving DecidableEq

/-- `eventSources`, `pendingReconnects` and `takeArrivalWaits` are the tables by job id;
`live`, `timers` and `waits` hold what runs, in a table or not. `announced` holds the toasts
with the job that each is of. -/
structure Page where
  activeJobs : List ActiveJob
  generationFailures : String → Option GenerationFailure
  announced : List (String × Toast)
  offline : Bool
  live : List Stream
  eventSources : String → Option Nat
  pendingReconnects : List (String × PendingReconnect)
  timers : List (Nat × String)
  watchingOpportunities : Bool
  lastReopenAt : Nat → Option ℚ
  rereads : List Reread
  takeArrivalWaits : String → Option Nat
  waits : List TakeWait
  hydrations : List (Nat × String)
  nextRef : Nat

def isTerminalJobStatus (status : JobStatus) : Bool :=
  status = .completed || status = .partialResult || status = .failed || status = .cancelled

/-- The job has left takes. -/
def endedWithTakes (job : Job) : Bool :=
  job.status = .completed || job.status = .partialResult

/-- A missing and an empty error alike give way to the default. -/
def errorOr (error : Option String) (default : String) : String :=
  (error.filter (· ≠ "")).getD default

/-- What the toast says about a failed job. -/
def failureMessage (job : Job) : String :=
  if job.errorType = some "server_restart" then "Server restarted — please retry"
  else errorOr job.error (jobTypeValue job.type ++ " failed")

def generationFailure (job : Job) : GenerationFailure :=
  ⟨failureMessage job, job.errorType = some "generation_unavailable"⟩

/-- The toast of a job that has ended. -/
def terminalToast (job : Job) : Toast :=
  if job.status = .completed then ⟨jobTypeValue job.type ++ " completed", .success⟩
  else if job.status = .partialResult then
    ⟨errorOr job.error (jobTypeValue job.type ++ " partially completed"), .info⟩
  else if job.status = .cancelled then ⟨jobTypeValue job.type ++ " cancelled", .info⟩
  else ⟨failureMessage job, .error⟩

def withFreshStatus (active : ActiveJob) (job : Job) : ActiveJob :=
  { active with job := job, streamStale := false }

/-- The row that was read again, which ends the wait for the stream if it is terminal. -/
def afterReread (active : ActiveJob) (job : Job) : ActiveJob :=
  if isTerminalJobStatus job.status then withFreshStatus active job else { active with job := job }

namespace Page

variable (page : Page)

def isTracked (jobId : String) : Bool :=
  page.activeJobs.any fun active => active.job.id = jobId

def songOf (jobId : String) : Option String :=
  (page.activeJobs.find? fun active => active.job.id = jobId).bind ActiveJob.songId

def updateActive (jobId : String) (change : ActiveJob → ActiveJob) : Page :=
  { page with activeJobs := page.activeJobs.map fun active =>
      if active.job.id = jobId then change active else active }

def dropActive (jobId : String) : Page :=
  { page with activeJobs := page.activeJobs.filter fun active => active.job.id ≠ jobId }

def dismissGenerationFailure (songId : String) : Page :=
  { page with generationFailures := Function.update page.generationFailures songId none }

/-- `notifyTerminalJob`. -/
def notifyTerminalJob (job : Job) (songId : Option String) : Page :=
  if job.type = .cover then page
  else
    let fails := job.status ≠ .completed ∧ job.status ≠ .partialResult ∧ job.status ≠ .cancelled
    { page with
      announced := page.announced ++ [(job.id, terminalToast job)]
      generationFailures :=
        match songId with
        | some songId =>
            if fails ∧ job.type = .generate then
              Function.update page.generationFailures songId (some (generationFailure job))
            else page.generationFailures
        | none => page.generationFailures }

def closeStream (jobId : String) : Page :=
  { page with
    live := page.live.filter fun stream => page.eventSources jobId ≠ some stream.id
    eventSources := Function.update page.eventSources jobId none }

/-- A stream is opened for the job. -/
def streamJob (jobId : String) (retry : StreamRetry) (reopenGap : Nat) : Page :=
  { page with
    live := page.live ++ [⟨page.nextRef, jobId, retry, false, reopenGap⟩]
    eventSources := Function.update page.eventSources jobId (some page.nextRef)
    nextRef := page.nextRef + 1 }

def pendingOf (jobId : String) : Option PendingReconnect :=
  page.pendingReconnects.lookup jobId

def cancelPendingReconnect (jobId : String) : Page :=
  match page.pendingOf jobId with
  | none => page
  | some pending =>
      let left := page.pendingReconnects.filter fun entry => entry.1 ≠ jobId
      { page with
        timers := page.timers.filter fun timer => timer.1 ≠ pending.timer
        pendingReconnects := left
        watchingOpportunities := if left.isEmpty then false else page.watchingOpportunities }

/-- Setting a key of the table again leaves its entry where it stands. -/
def scheduleReconnect (jobId : String) (attempt spentFailures reopenGap : Nat) : Page :=
  let pending : PendingReconnect := ⟨page.nextRef, attempt, spentFailures, reopenGap⟩
  { page with
    timers := page.timers ++ [(page.nextRef, jobId)]
    pendingReconnects :=
      if (page.pendingOf jobId).isSome then
        page.pendingReconnects.map fun entry => if entry.1 = jobId then (jobId, pending) else entry
      else page.pendingReconnects ++ [(jobId, pending)]
    watchingOpportunities := true
    nextRef := page.nextRef + 1 }

/-- The timer has gone off, and the stream is opened again. -/
def retryAfterBackoff (jobId : String) : Page :=
  match page.pendingOf jobId with
  | none => page
  | some pending =>
      (page.cancelPendingReconnect jobId).streamJob jobId
        ⟨pending.attempt + 1, pending.spentFailures, true⟩ pending.reopenGap

/-- The reconnection that waits is made at once. -/
def reconnectNow (now : ℚ) (jobId : String) : Page :=
  match page.pendingOf jobId with
  | none => page
  | some pending =>
      if (page.lastReopenAt pending.reopenGap).any fun last =>
          now - last < sseImmediateReopenMinGapMs then page
      else
        ({ page with
          lastReopenAt := Function.update page.lastReopenAt pending.reopenGap (some now)
          }.cancelPendingReconnect jobId).streamJob jobId
            ⟨pending.attempt, pending.spentFailures, false⟩ pending.reopenGap

def reconnectAllWaitingJobs (now : ℚ) : Page :=
  (page.pendingReconnects.map Prod.fst).foldl (fun page jobId => page.reconnectNow now jobId) page

def updateWait (wait : Nat) (change : TakeWait → TakeWait) : Page :=
  { page with waits := page.waits.map fun other =>
      if other.id = wait then change other else other }

/-- `stopWaiting`. -/
def stopWaiting (wait : Nat) : Page :=
  page.updateWait wait fun other => { other with watching := false, bound := false }

/-- The wait is the one that the store has for its job. -/
def stillWaiting (wait : TakeWait) : Bool :=
  page.takeArrivalWaits wait.job.id = some wait.id

def stopTakeArrivalWait (jobId : String) : Page :=
  { (page.takeArrivalWaits jobId).elim page page.stopWaiting with
    takeArrivalWaits := Function.update page.takeArrivalWaits jobId none }

/-- Nothing is heard of the job any more. -/
def stopTracking (jobId : String) : Page :=
  ((page.cancelPendingReconnect jobId).stopTakeArrivalWait jobId).closeStream jobId

def removeJob (jobId : String) : Page :=
  (page.stopTracking jobId).dropActive jobId

/-- The takes have come: the job is dropped and announced. -/
def letGo (wait : TakeWait) : Page :=
  (page.removeJob wait.job.id).notifyTerminalJob wait.job (some wait.songId)

/-- The job stays in the list until the takes that it left are shown. -/
def keepUntilSongRefreshed (job : Job) (songId : String) : Page :=
  { page.updateActive job.id fun active => { active with awaitingTakes := true } with
    waits := page.waits ++ [⟨page.nextRef, job, songId, .refreshing, true, !page.offline⟩]
    takeArrivalWaits := Function.update page.takeArrivalWaits job.id (some page.nextRef)
    nextRef := page.nextRef + 1 }

/-- A followed job is over. -/
def completeTrackedJob (job : Job) : Page :=
  let closed := page.closeStream job.id
  match page.songOf job.id with
  | some songId =>
      if songId ≠ "" ∧ endedWithTakes job ∧ job.type = .generate then
        closed.keepUntilSongRefreshed job songId
      else (closed.notifyTerminalJob job (some songId)).dropActive job.id
  | none => (closed.notifyTerminalJob job none).dropActive job.id

/-- A job that is followed already is brought up to date; another one is followed from now on. -/
def trackJob (job : Job) (songId : Option String) : Page :=
  if page.isTracked job.id then
    page.updateActive job.id fun active =>
      { active with job := job, songId := songId.or active.songId }
  else
    let added : Page :=
      { page with activeJobs := page.activeJobs ++ [⟨job, songId, false, false⟩] }
    let dismissed : Page :=
      match songId with
      | some songId =>
          if songId ≠ "" ∧ job.type = .generate then added.dismissGenerationFailure songId
          else added
      | none => added
    dismissed.streamJob job.id freshStream page.nextRef

def updateStream (stream : Nat) (change : Stream → Stream) : Page :=
  { page with live := page.live.map fun other =>
      if other.id = stream then change other else other }

/-- A stream that opens has its failures forgiven. -/
def streamOpened (stream : Stream) : Page :=
  page.updateStream stream.id fun other =>
    { other with current := { other.current with spentFailures := 0, spendsOnFailure := true } }

/-- An event of the stream: the job goes on or is over. -/
def streamSpoke (stream : Stream) (updated : Job) : Page :=
  let heard := (page.updateStream stream.id fun other =>
    { other with current := freshStream, spoke := true }).updateActive stream.jobId fun active =>
      withFreshStatus active updated
  if isTerminalJobStatus updated.status then heard.completeTrackedJob updated else heard

/-- After too many failures the job's row is read again instead. -/
def rereadAfterSpentBudget (jobId : String) (attempt reopenGap : Nat) : Page :=
  { page with
    rereads := page.rereads ++ [⟨page.nextRef, jobId, attempt, reopenGap⟩]
    nextRef := page.nextRef + 1 }

/-- The stream failed: it is opened again after a while, or the row is read. -/
def streamFailed (stream : Stream) : Page :=
  let closed := page.closeStream stream.jobId
  let marked :=
    if stream.spoke then closed
    else closed.updateActive stream.jobId fun active => { active with streamStale := true }
  let spendsBudget := stream.current.spendsOnFailure && !page.offline
  let spentFailures := stream.current.spentFailures + if spendsBudget then 1 else 0
  if spentFailures ≥ jobStreamMaxConnectionErrors then
    marked.rereadAfterSpentBudget stream.jobId stream.current.attempt stream.reopenGap
  else marked.scheduleReconnect stream.jobId stream.current.attempt spentFailures stream.reopenGap

/-- The row that was read again decides whether the job is followed on. -/
def rereadAnswered (reread : Reread) (answer : RereadAnswer) : Page :=
  let answered := { page with rereads := page.rereads.erase reread }
  if page.isTracked reread.jobId then
    match answer with
    | .job job =>
        let updated := answered.updateActive reread.jobId fun active => afterReread active job
        if isTerminalJobStatus job.status then updated.completeTrackedJob job
        else updated.scheduleReconnect reread.jobId reread.attempt 0 reread.reopenGap
    | .notFound => answered.removeJob reread.jobId
    | .failed => answered.scheduleReconnect reread.jobId reread.attempt 0 reread.reopenGap
  else answered

/-- The store notifies its followers of a change only. -/
def connectivity (offline : Bool) : Page :=
  if offline = page.offline then page
  else { page with
    offline := offline
    waits := page.waits.map fun wait =>
      if wait.watching then { wait with bound := !offline } else wait }

end Page

/-- The calls into the store, the events of the streams, and the answers and timers. -/
inductive Action where
  | trackJob (job : Job) (songId : Option String)
  | removeJob (jobId : String)
  | hydrateActiveGeneration (songId : String)
  | hydrationAnswered (hydration : Nat × String) (job : Option Job)
  | streamOpened (stream : Stream)
  | streamSpoke (stream : Stream) (updated : Job)
  | streamFailed (stream : Stream)
  | backoffEnds (timer : Nat × String)
  | reconnectOpportunity (now : ℚ)
  | connectivity (offline : Bool)
  | rereadAnswered (reread : Reread) (answer : RereadAnswer)
  | songRefreshed (wait : TakeWait)
  | songRefreshFails (wait : TakeWait)
  | backOnline (wait : TakeWait)
  | waitRefreshed (wait : TakeWait)
  | waitBoundEnds (wait : TakeWait)
deriving DecidableEq

open Page

def act (page : Page) : Action → Option Page
  | .trackJob job songId => some (page.trackJob job songId)
  | .removeJob jobId => some (page.removeJob jobId)
  | .hydrateActiveGeneration songId => some { page with
      hydrations := page.hydrations ++ [(page.nextRef, songId)], nextRef := page.nextRef + 1 }
  | .hydrationAnswered hydration job =>
      if hydration ∈ page.hydrations then
        let answered := { page with hydrations := page.hydrations.erase hydration }
        some (job.elim answered fun job => answered.trackJob job (some hydration.2))
      else none
  | .streamOpened stream =>
      if stream ∈ page.live then some (page.streamOpened stream) else none
  | .streamSpoke stream updated =>
      if stream ∈ page.live ∧ updated.id = stream.jobId then
        some (page.streamSpoke stream updated)
      else none
  | .streamFailed stream =>
      if stream ∈ page.live then some (page.streamFailed stream) else none
  | .backoffEnds timer =>
      if timer ∈ page.timers then
        some ({ page with timers := page.timers.erase timer }.retryAfterBackoff timer.2)
      else none
  | .reconnectOpportunity now =>
      if page.watchingOpportunities then some (page.reconnectAllWaitingJobs now) else none
  | .connectivity offline => some (page.connectivity offline)
  | .rereadAnswered reread answer =>
      if reread ∈ page.rereads ∧ answer.isOf reread.jobId then
        some (page.rereadAnswered reread answer)
      else none
  | .songRefreshed wait =>
      if wait ∈ page.waits ∧ wait.stage = .refreshing then
        some (page.updateWait wait.id fun other =>
          { other with stage := if page.offline then .awaitingOnline else .refreshed })
      else none
  | .songRefreshFails wait =>
      if wait ∈ page.waits ∧ wait.stage = .refreshing then
        some (page.updateWait wait.id fun other => { other with stage := .over })
      else none
  | .backOnline wait =>
      if wait ∈ page.waits ∧ wait.stage = .awaitingOnline ∧ page.offline = false then
        some (page.updateWait wait.id fun other =>
          { other with stage := if page.stillWaiting wait then .refreshing else .over })
      else none
  | .waitRefreshed wait =>
      if wait ∈ page.waits ∧ wait.stage = .refreshed then
        let ended := page.updateWait wait.id fun other => { other with stage := .over }
        some (if page.stillWaiting wait then ended.letGo wait else ended)
      else none
  | .waitBoundEnds wait =>
      if wait ∈ page.waits ∧ wait.bound = true then
        some ((page.updateWait wait.id fun other => { other with bound := false }).letGo wait)
      else none

def newPage (offline : Bool) : Page where
  activeJobs := []
  generationFailures := fun _ => none
  announced := []
  offline := offline
  live := []
  eventSources := fun _ => none
  pendingReconnects := []
  timers := []
  watchingOpportunities := false
  lastReopenAt := fun _ => none
  rereads := []
  takeArrivalWaits := fun _ => none
  waits := []
  hydrations := []
  nextRef := 0

/-- Every order of the calls, the events of the streams, the timers and the answers. -/
def jobTracking : TransitionSystem Page Action :=
  .ofAct (fun page => ∃ offline, page = newPage offline) act

end Songmaker.Jobs.JobTracking
