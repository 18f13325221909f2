import Songmaker.Foundation.PythonText
import Songmaker.Foundation.Renumbering
import Songmaker.Foundation.TransitionSystem
import Songmaker.Lora.LoraSite

/-!
The requests that change the samples of one LoRA, delete it or start its training,
each a transaction that reads what is committed, statement by statement, and
commits what it has to write.
-/

namespace Songmaker.Lora.SampleRequests

open Songmaker.Foundation
open Songmaker.Foundation.Renumbering
open Songmaker.Jobs

def userLoraMaxSamples : Nat := 20

def userLoraMinSamplesForTraining : Nat := 3

variable {SampleId JobId Req : Type}

/-- The row of a sample. -/
structure UserLoraSample (SampleId : Type) where
  id : SampleId
  caption : List Char
  lyrics : List Char
  position : Int
  deriving DecidableEq

/-- What orders a sample. -/
def UserLoraSample.row (sample : UserLoraSample SampleId) : SampleId × Int :=
  (sample.id, sample.position)

/-- A new sample. `uploaded` tells an uploaded one, whose texts are stripped and
must not be empty, from one copied from a take. -/
structure NewSample where
  caption : List Char
  lyrics : List Char
  position : Option Int
  uploaded : Bool
  deriving DecidableEq

/-- The fields of a sample that a request changes. -/
structure SamplePatch where
  caption : Option (List Char)
  lyrics : Option (List Char)
  position : Option Nat
  deriving DecidableEq

/-- The requests that read or change the samples of an adapter. -/
inductive Request (SampleId : Type) where
  | addSample (sample : NewSample)
  | patchSample (sampleId : SampleId) (patch : SamplePatch)
  | deleteSample (sampleId : SampleId)
  | deleteLora
  | trainLora
  deriving DecidableEq

/-- What a request writes when it commits, with what it has read for it: a new
sample with the count that was below the maximum, a patched sample as it was
loaded with its siblings if it moves, the samples that remain after a deletion. -/
inductive Write (SampleId : Type) where
  | insert (sample : NewSample) (counted : Nat) (position : Int)
  | patch (loaded : UserLoraSample SampleId) (patch : SamplePatch)
      (siblings : Option (List (UserLoraSample SampleId)))
  | remove (sampleId : SampleId) (remaining : List (UserLoraSample SampleId))
  | deleteLora
  deriving DecidableEq

/-- How far a request has come. `status` is the status of the LoRA that it read. -/
inductive Stage (SampleId JobId : Type) where
  | opened (request : Request SampleId)
  | accepted (request : Request SampleId) (status : LoraStatus)
      (loaded : Option (UserLoraSample SampleId))
  | counted (sample : NewSample) (status : LoraStatus) (count : Nat)
  | writing (status : LoraStatus) (write : Write SampleId)
  | locked
  | starting (status : LoraStatus)
  | enqueuing (job : JobId)
  | notEnqueued (job : JobId)
  | ended
  deriving DecidableEq

/-- The committed rows of a LoRA, the requests under way, who has the capacity lock,
and the status under which each sample change and deletion was committed. -/
structure State (SampleId JobId Req : Type) where
  status : LoraStatus
  deleted : Bool
  samples : List (UserLoraSample SampleId)
  jobs : List (JobId × JobStatus)
  requests : Req → Option (Stage SampleId JobId)
  capacityLock : Option Req
  changedUnder : List LoraStatus

/-- `abort` is a refusal, a failure or a rollback. The last two are commits of the
training job and of its reconciliation. -/
inductive Action (SampleId JobId Req : Type) where
  | openRequest (req : Req) (request : Request SampleId)
  | readLora (req : Req)
  | countSamples (req : Req)
  | placeSample (req : Req)
  | readSamples (req : Req) (rows : List (UserLoraSample SampleId))
  | prepare (req : Req)
  | lockCapacity (req : Req)
  | readLocked (req : Req)
  | commit (req : Req) (sampleId : SampleId)
  | commitStart (req : Req) (job : JobId)
  | enqueue (req : Req) (succeeds : Bool)
  | commitFailure (req : Req)
  | abort (req : Req)
  | updateLora (status : LoraStatus)
  | updateJob (job : JobId) (status : JobStatus)
  deriving DecidableEq

def isActive (status : LoraStatus) : Bool := status ∈ loraActiveStatuses

def jobActive (job : JobId × JobStatus) : Bool := job.2 ∉ jobTerminalStatuses

/-- The sample as it is stored; an upload's texts are stripped. -/
def NewSample.cleaned (sample : NewSample) : NewSample :=
  if sample.uploaded then
    { sample with caption := strip sample.caption, lyrics := strip sample.lyrics }
  else sample

/-- An uploaded sample has a caption and lyrics. -/
def NewSample.valid (sample : NewSample) : Bool :=
  !sample.uploaded || (!sample.cleaned.caption.isEmpty && !sample.cleaned.lyrics.isEmpty)

def SamplePatch.cleaned (patch : SamplePatch) : SamplePatch :=
  { patch with caption := patch.caption.map strip, lyrics := patch.lyrics.map strip }

/-- A caption or lyrics that are given are not empty. -/
def SamplePatch.valid (patch : SamplePatch) : Bool :=
  patch.cleaned.caption ≠ some [] && patch.cleaned.lyrics ≠ some []

section

variable [DecidableEq SampleId]

/-- The order that `_reorder_sample` gives the siblings it has read. -/
def reordered (loaded : UserLoraSample SampleId) (siblings : List (UserLoraSample SampleId))
    (newPosition : Nat) : List (UserLoraSample SampleId) :=
  (siblings.filter fun other => other.id ≠ loaded.id).insertIdx
    (min newPosition (siblings.filter fun other => other.id ≠ loaded.id).length) loaded

/-- The positions that a write changes. -/
def Write.positions : Write SampleId → List (SampleId × Int)
  | .insert .. => []
  | .patch loaded change siblings =>
      match change.position, siblings with
      | some newPosition, some siblings =>
          renumberFrom 0 ((reordered loaded siblings newPosition).map (·.row))
      | _, _ => []
  | .remove _ remaining => renumberFrom 0 (remaining.map (·.row))
  | .deleteLora => []

/-- The rows that a write updates: an update of a row that is gone fails. -/
def Write.updated : Write SampleId → List SampleId
  | .patch loaded change siblings =>
      (if change.caption.getD loaded.caption ≠ loaded.caption ∨
          change.lyrics.getD loaded.lyrics ≠ loaded.lyrics then [loaded.id] else []) ++
        (Write.patch loaded change siblings).positions.map Prod.fst
  | write => write.positions.map Prod.fst

/-- The sample at its new place. -/
def UserLoraSample.renumbered (sample : UserLoraSample SampleId)
    (positions : List (SampleId × Int)) : UserLoraSample SampleId :=
  { sample with position := written positions sample.row }

/-- The sample with the fields of the patch. -/
def UserLoraSample.edited (sample : UserLoraSample SampleId) (patch : SamplePatch) :
    UserLoraSample SampleId :=
  { sample with
    caption := patch.caption.getD sample.caption
    lyrics := patch.lyrics.getD sample.lyrics }

/-- The samples after a write is committed. -/
def Write.apply (write : Write SampleId) (newId : SampleId)
    (samples : List (UserLoraSample SampleId)) : List (UserLoraSample SampleId) :=
  match write with
  | .insert sample _ position => samples ++ [⟨newId, sample.caption, sample.lyrics, position⟩]
  | .patch loaded change _ =>
      samples.map fun sample =>
        (if sample.id = loaded.id then sample.edited change else sample).renumbered write.positions
  | .remove sampleId _ =>
      (samples.filter fun sample => sample.id ≠ sampleId).map (·.renumbered write.positions)
  | .deleteLora => samples

variable [DecidableEq JobId] [DecidableEq Req]

namespace State

variable (s : State SampleId JobId Req)

def setStage (req : Req) (stage : Stage SampleId JobId) : State SampleId JobId Req :=
  { s with requests := Function.update s.requests req (some stage) }

def sample (sampleId : SampleId) : Option (UserLoraSample SampleId) :=
  s.samples.find? fun sample => sample.id = sampleId

/-- A request is over, and with it its lock. -/
def finish (req : Req) : State SampleId JobId Req :=
  { s.setStage req .ended with
    capacityLock := if s.capacityLock = some req then none else s.capacityLock }

/-- `_reject_if_active_or_deleted` -/
def modifiable : Bool := !s.deleted && !isActive s.status

/-- The first read of a request: the LoRA, and the sample it names. -/
def readLora (req : Req) : Option (State SampleId JobId Req) :=
  match s.requests req with
  | some (.opened (.addSample sample)) =>
      if s.modifiable && sample.valid then
        some (s.setStage req (.accepted (.addSample sample.cleaned) s.status none))
      else none
  | some (.opened (.patchSample sampleId patch)) =>
      match s.sample sampleId with
      | some loaded =>
          if s.modifiable && patch.valid then
            some (s.setStage req
              (.accepted (.patchSample sampleId patch.cleaned) s.status (some loaded)))
          else none
      | none => none
  | some (.opened (.deleteSample sampleId)) =>
      match s.sample sampleId with
      | some loaded =>
          if s.modifiable then
            some (s.setStage req (.accepted (.deleteSample sampleId) s.status (some loaded)))
          else none
      | none => none
  | some (.opened .deleteLora) =>
      if s.modifiable then some (s.setStage req (.accepted .deleteLora s.status none)) else none
  | some (.opened .trainLora) =>
      if s.deleted then none else some (s.setStage req (.accepted .trainLora s.status none))
  | _ => none

/-- The samples are counted against the limit. -/
def countSamples (req : Req) : Option (State SampleId JobId Req) :=
  match s.requests req with
  | some (.accepted (.addSample sample) status none) =>
      if s.samples.length < userLoraMaxSamples then
        some (s.setStage req (.counted sample status s.samples.length))
      else none
  | _ => none

/-- An uploaded sample takes the position it is given, another counts once more. -/
def placeSample (req : Req) : Option (State SampleId JobId Req) :=
  match s.requests req with
  | some (.counted sample status count) =>
      some (s.setStage req (.writing status
        (.insert sample count (sample.position.getD s.samples.length))))
  | _ => none

/-- `rows` is what a query ordered by position returns. -/
def queryReturns (committed rows : List (UserLoraSample SampleId)) : Prop :=
  rows.Perm committed ∧ rows.Pairwise fun first second => first.position ≤ second.position

instance (committed rows : List (UserLoraSample SampleId)) :
    Decidable (queryReturns committed rows) :=
  inferInstanceAs (Decidable (_ ∧ _))

/-- The query for the siblings of a sample that moves, or for those that remain. -/
def readSamples (req : Req) (rows : List (UserLoraSample SampleId)) :
    Option (State SampleId JobId Req) :=
  match s.requests req with
  | some (.accepted (.patchSample sampleId patch) status (some loaded)) =>
      if (s.sample sampleId).isSome ∧ patch.position.isSome ∧ queryReturns s.samples rows then
        some (s.setStage req (.writing status (.patch loaded patch (some rows))))
      else none
  | some (.accepted (.deleteSample sampleId) status (some _)) =>
      if (s.sample sampleId).isSome ∧
          queryReturns (s.samples.filter fun sample => sample.id ≠ sampleId) rows then
        some (s.setStage req (.writing status (.remove sampleId rows)))
      else none
  | _ => none

/-- The requests that read no samples. -/
def prepare (req : Req) : Option (State SampleId JobId Req) :=
  match s.requests req with
  | some (.accepted (.patchSample sampleId patch) status (some loaded)) =>
      if (s.sample sampleId).isSome ∧ patch.position = none then
        some (s.setStage req (.writing status (.patch loaded patch none)))
      else none
  | some (.accepted .deleteLora status none) =>
      some (s.setStage req (.writing status .deleteLora))
  | _ => none

/-- A submission of a training takes the lock that keeps the jobs within their number. -/
def lockCapacity (req : Req) : Option (State SampleId JobId Req) :=
  match s.requests req, s.capacityLock with
  | some (.accepted .trainLora _ none), none =>
      some { s.setStage req .locked with capacityLock := some req }
  | _, _ => none

/-- The checks that `api_train_lora` makes under the lock. -/
def readLocked (req : Req) : Option (State SampleId JobId Req) :=
  match s.requests req with
  | some .locked =>
      if s.modifiable && decide (userLoraMinSamplesForTraining ≤ s.samples.length) &&
          s.samples.all fun sample =>
            !(strip sample.caption).isEmpty && !(strip sample.lyrics).isEmpty then
        some (s.setStage req (.starting s.status))
      else none
  | _ => none

/-- A sample change or a deletion is committed. -/
def commit (req : Req) (newId : SampleId) : Option (State SampleId JobId Req) :=
  match s.requests req with
  | some (.writing _ write) =>
      if (∀ sampleId ∈ write.updated, (s.sample sampleId).isSome) ∧ (s.sample newId).isNone then
        some { s.finish req with
          samples := write.apply newId s.samples
          deleted := s.deleted || write = .deleteLora
          changedUnder := s.status :: s.changedUnder }
      else none
  | _ => none

/-- The job is created and the LoRA queued. -/
def commitStart (req : Req) (job : JobId) : Option (State SampleId JobId Req) :=
  match s.requests req with
  | some (.starting _) =>
      if s.jobs.all fun other => other.1 ≠ job then
        some { (s.finish req).setStage req (.enqueuing job) with
          status := .queued
          jobs := s.jobs ++ [(job, .queued)] }
      else none
  | _ => none

/-- The job is handed to the queue, which may fail. -/
def enqueue (req : Req) (succeeds : Bool) : Option (State SampleId JobId Req) :=
  match s.requests req with
  | some (.enqueuing job) =>
      some (s.setStage req (if succeeds then .ended else .notEnqueued job))
  | _ => none

/-- A job that has not ended takes a new status. -/
def updateJob (job : JobId) (status : JobStatus) : State SampleId JobId Req :=
  { s with
    jobs := s.jobs.map fun other =>
      if other.1 = job ∧ jobActive other then (job, status) else other }

/-- `_fail_training_job` -/
def commitFailure (req : Req) : Option (State SampleId JobId Req) :=
  match s.requests req with
  | some (.notEnqueued job) =>
      some { (s.updateJob job .failed).setStage req .ended with status := .failed }
  | _ => none

def abort (req : Req) : Option (State SampleId JobId Req) :=
  (s.requests req).map fun _ => s.finish req

end State

def act (s : State SampleId JobId Req) :
    Action SampleId JobId Req → Option (State SampleId JobId Req)
  | .openRequest req request =>
      match s.requests req with
      | none => some (s.setStage req (.opened request))
      | some _ => none
  | .readLora req => s.readLora req
  | .countSamples req => s.countSamples req
  | .placeSample req => s.placeSample req
  | .readSamples req rows => s.readSamples req rows
  | .prepare req => s.prepare req
  | .lockCapacity req => s.lockCapacity req
  | .readLocked req => s.readLocked req
  | .commit req newId => s.commit req newId
  | .commitStart req job => s.commitStart req job
  | .enqueue req succeeds => s.enqueue req succeeds
  | .commitFailure req => s.commitFailure req
  | .abort req => s.abort req
  | .updateLora status => some { s with status := status }
  | .updateJob job status => some (s.updateJob job status)

/-- A LoRA that was just created. -/
def created : State SampleId JobId Req := ⟨.draft, false, [], [], fun _ => none, none, []⟩

def system : TransitionSystem (State SampleId JobId Req) (Action SampleId JobId Req) :=
  TransitionSystem.ofAct (· = created) act

end

/-- The samples are in order, not too many and change only while the LoRA is not in
training, and one training job at most is active. -/
structure Excluded (s : State SampleId JobId Req) : Prop where
  count : s.samples.length ≤ userLoraMaxSamples
  positions : NumbersInOrder (s.samples.map (·.row))
  oneJob : (s.jobs.filter jobActive).length ≤ 1
  changes : ∀ status ∈ s.changedUnder, isActive status = false

end Songmaker.Lora.SampleRequests
