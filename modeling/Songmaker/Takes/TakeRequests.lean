import Songmaker.Foundation.RowLocks
import Songmaker.Foundation.TransitionSystem
import Mathlib.Data.List.Sort

namespace Songmaker.Takes.TakeRequests

open Songmaker.Foundation
open Songmaker.Foundation.RowLocks

abbrev TakeId := Nat

abbrev SongId := Nat

/-- A request or a retention run, with the session it works in. -/
abbrev Worker := Nat

/-- The row of a take, as far as its flags go. -/
structure Generation where
  songId : SongId
  isPicked : Bool
  isKept : Bool
  isArchived : Bool
  archivedAt : Option Nat
  createdAt : Nat
  srcGenerationId : Option TakeId
deriving DecidableEq

/-- What makes a take archivable by retention. -/
def Generation.expiredForArchive (gen : Generation) : Bool :=
  !gen.isPicked && !gen.isKept && !gen.isArchived

/-- What makes an archived take deletable by retention. -/
def Generation.expiredForDelete (gen : Generation) (cutoff : Nat) (isAnchor : Bool) : Bool :=
  gen.isArchived && gen.archivedAt.any (· < cutoff) && !gen.isPicked && !gen.isKept && !isAnchor

/-- The marks that a request takes back without a lock on the take. -/
inductive Mark where
  | picked
  | kept
  | archived
deriving DecidableEq

/-- The flag is taken away. -/
def Generation.lower (gen : Generation) : Mark → Generation
  | .picked => { gen with isPicked := false }
  | .kept => { gen with isKept := false }
  | .archived => { gen with isArchived := false, archivedAt := none }

/-- A run of `run_generation_retention`, and what it reports so far. -/
structure Retention where
  now : Nat
  deleteCutoff : Nat
  toArchive : List TakeId
  toDelete : List TakeId
  archivedIds : List TakeId
  deletedIds : List TakeId
deriving DecidableEq

/-- Where the transaction of a retention run is. -/
inductive Phase where
  | between
  | archiving (id : TakeId)
  | archived (id : TakeId)
  | deleting (id : TakeId)
  | deleted (id : TakeId)
deriving DecidableEq

/-- What a worker does next. Picking locks the takes of the song one by one, then
the picked take again. -/
inductive Stage where
  | idle
  | lockTakes (id : TakeId) (song : SongId) (remaining : List TakeId)
  | pick (id : TakeId) (song : SongId)
  | picked (id : TakeId) (song : SongId)
  | keep (id : TakeId)
  | lower (id : TakeId) (mark : Mark)
  | written
  | retention (run : Retention) (phase : Phase)
deriving DecidableEq

/-- The rows of the takes with their locks, and what each worker is doing. -/
structure State where
  takes : Table TakeId (Option Generation) Worker
  stage : Worker → Stage

namespace State

variable (state : State) (worker : Worker)

/-- The take that a statement of the worker reads. -/
def read (id : TakeId) : Option Generation :=
  (state.takes.visible worker id).join

def moveTo (stage : Stage) : State :=
  { state with stage := Function.update state.stage worker stage }

/-- A statement that has the row locked writes it. -/
def write (id : TakeId) (take : Option Generation) : State :=
  { state with takes := state.takes.set worker id take }

def commit : State :=
  { state with takes := state.takes.commit worker }

def rollback : State :=
  { state with takes := state.takes.rollback worker }

/-- The takes that match, in the order of their ids. -/
def select (matching : Generation → Bool) : List TakeId :=
  (state.takes.ids.insertionSort (· ≤ ·)).filter fun id => (state.read worker id).any matching

/-- Whether another take was made from this one. -/
def isAnchor (id : TakeId) : Bool :=
  state.takes.ids.any fun child =>
    (state.read worker child).any fun gen => gen.srcGenerationId = some id

end State

inductive Request where
  | pick
  | keep
  | lower (mark : Mark)
deriving DecidableEq

/-- The first statement of a request. An unknown take ends it. -/
def request (state : State) (worker : Worker) (id : TakeId) : Request → State
  | .pick =>
      match state.read worker id with
      | none => state
      | some gen =>
          state.moveTo worker
            (.lockTakes id gen.songId (state.select worker fun take => take.songId = gen.songId))
  | .keep => state.moveTo worker (.keep id)
  | .lower mark =>
      match state.read worker id with
      | none => state
      | some gen =>
          -- An UPDATE goes out for the columns that change, and only then.
          if gen.lower mark = gen then state.moveTo worker .written
          else state.moveTo worker (.lower id mark)

/-- A locked take that is missing or archived is refused. -/
def mark (state : State) (worker : Worker) (id : TakeId) (change : Generation → Generation)
    (next : Stage) : State :=
  match state.read worker id with
  | none => (state.rollback worker).moveTo worker .idle
  | some gen =>
      if gen.isArchived then (state.rollback worker).moveTo worker .idle
      else (state.write worker id (some (change gen))).moveTo worker next

/-- Writes a locked take, unless it is gone. -/
def update (state : State) (worker : Worker) (id : TakeId) (change : Generation → Generation)
    (next : Stage) : State :=
  match state.read worker id with
  | none => state.moveTo worker next
  | some gen => (state.write worker id (some (change gen))).moveTo worker next

/-- Archives or deletes a locked take if it still qualifies. -/
def retire (state : State) (worker : Worker) (id : TakeId) (qualifies : Generation → Bool)
    (change : Generation → Option Generation) (run : Retention) (done : Phase) : State :=
  match state.read worker id with
  | none => (state.rollback worker).moveTo worker (.retention run .between)
  | some gen =>
      if qualifies gen then
        (state.write worker id (change gen)).moveTo worker (.retention run done)
      else (state.rollback worker).moveTo worker (.retention run .between)

/-- The transaction for the next take of a retention run. Its statement looks for
the take before it locks it. -/
def nextTake (state : State) (worker : Worker) (run : Retention) : State :=
  match run.toArchive, run.toDelete with
  | id :: rest, _ =>
      state.moveTo worker (.retention { run with toArchive := rest }
        (if (state.read worker id).any (·.expiredForArchive) then .archiving id else .between))
  | [], id :: rest =>
      state.moveTo worker (.retention { run with toDelete := rest }
        (if (state.read worker id).any
            (·.expiredForDelete run.deleteCutoff (state.isAnchor worker id)) then .deleting id
          else .between))
  | [], [] => state.moveTo worker .idle

/-- The next statement of a worker, which waits while another transaction has
the row locked. -/
def advance (state : State) (worker : Worker) : Option State :=
  match state.stage worker with
  | .idle | .written | .picked .. => none
  | .lockTakes id song (next :: rest) =>
      if state.takes.Lockable worker next then
        some (update state worker next (·.lower .picked) (.lockTakes id song rest))
      else none
  | .lockTakes id song [] => some (state.moveTo worker (.pick id song))
  | .pick id song =>
      if state.takes.Lockable worker id then
        some (mark state worker id (fun gen => { gen with isPicked := true }) (.picked id song))
      else none
  | .keep id =>
      if state.takes.Lockable worker id then
        some (mark state worker id (fun gen => { gen with isKept := true }) .written)
      else none
  | .lower id mark =>
      if state.takes.Lockable worker id then
        some (update state worker id (·.lower mark) .written)
      else none
  | .retention run .between => some (nextTake state worker run)
  | .retention run (.archiving id) =>
      if state.takes.Lockable worker id then
        some (retire state worker id (·.expiredForArchive)
          (fun gen => some { gen with isArchived := true, archivedAt := some run.now }) run
          (.archived id))
      else none
  | .retention run (.deleting id) =>
      if state.takes.Lockable worker id then
        some (retire state worker id
          (·.expiredForDelete run.deleteCutoff (state.isAnchor worker id)) (fun _ => none) run
          (.deleted id))
      else none
  | .retention _ (.archived _) | .retention _ (.deleted _) => none

/-- Commits the transaction of a worker that has no statement left. -/
def commit (state : State) (worker : Worker) : Option State :=
  match state.stage worker with
  | .written | .picked .. => some ((state.commit worker).moveTo worker .idle)
  | .retention run (.archived id) =>
      some ((state.commit worker).moveTo worker
        (.retention { run with archivedIds := run.archivedIds ++ [id] } .between))
  | .retention run (.deleted id) =>
      some ((state.commit worker).moveTo worker
        (.retention { run with deletedIds := run.deletedIds ++ [id] } .between))
  | _ => none

/-- Selects the takes of a retention run. A dry run reports them and writes nothing. -/
def runGenerationRetention (state : State) (worker : Worker) (now archiveCutoff deleteCutoff : Nat)
    (dryRun : Bool) : State :=
  let toArchive := state.select worker fun gen =>
    gen.expiredForArchive && gen.createdAt < archiveCutoff
  let toDelete := (state.select worker fun _ => true).filter fun id =>
    (state.read worker id).any (·.expiredForDelete deleteCutoff (state.isAnchor worker id))
  if dryRun then state
  else
    state.moveTo worker
      (.retention
        { now := now
          deleteCutoff := deleteCutoff
          toArchive := toArchive
          toDelete := toDelete
          archivedIds := []
          deletedIds := [] } .between)

/-- A worker begins a request or a retention run, goes on, or ends. -/
inductive Action where
  | request (worker : Worker) (id : TakeId) (request : Request)
  | retention (worker : Worker) (now archiveCutoff deleteCutoff : Nat) (dryRun : Bool)
  | advance (worker : Worker)
  | commit (worker : Worker)
  | abort (worker : Worker)
deriving DecidableEq

/-- A worker can abort at any point: a crash, a lost connection, a deadlock. -/
def act (state : State) : Action → Option State
  | .request worker id asked =>
      if state.stage worker = .idle then some (request state worker id asked) else none
  | .retention worker now archiveCutoff deleteCutoff dryRun =>
      if state.stage worker = .idle then
        some (runGenerationRetention state worker now archiveCutoff deleteCutoff dryRun)
      else none
  | .advance worker => advance state worker
  | .commit worker => commit state worker
  | .abort worker => some ((state.rollback worker).moveTo worker .idle)

end Songmaker.Takes.TakeRequests
