import Songmaker.Foundation.TransitionSystem
import Mathlib.Data.List.MinMax

namespace Songmaker.References

open Songmaker.Foundation

variable {Id Tx : Type}

/-- A recording, and since when it is unused if it is. -/
structure ReferenceRecording where
  isKept : Bool
  unusedSince : Option Nat
  deriving DecidableEq

structure Version (Id : Type) where
  id : Id
  song : Id
  versionNumber : Nat
  reference : Option Id
  deriving DecidableEq

structure Generation (Id : Type) where
  id : Id
  song : Id
  version : Option Id
  reference : Option Id
  deriving DecidableEq

/-- The row locks that the code takes on recordings: `FOR KEY SHARE` by the foreign
key of an inserted link, `FOR NO KEY UPDATE` and `FOR UPDATE`. -/
inductive LockMode where
  | keyShare
  | noKeyUpdate
  | forUpdate
  deriving DecidableEq

/-- The modes that no two transactions have at one time. -/
def LockMode.conflicts : LockMode → LockMode → Bool
  | .forUpdate, _ | _, .forUpdate => true
  | .noKeyUpdate, .noKeyUpdate => true
  | _, _ => false

/-- What a transaction is for. The reference of `updateSong` is `none` where the
request leaves it unset. `stampUnstamped` lists its candidates and goes on as
`commitUnusedStamps`. -/
inductive Operation (Id : Type) where
  | uploadReference
  | createSong (song : Id) (reference : Option Id)
  | updateSong (song : Id) (reference : Option (Option Id))
  | deleteVersion (version : Id) (deleteGenerations : Bool)
  | createGeneration (song : Id) (version reference : Option Id)
  | deleteGenerations (takes : List Id)
  | purgeSongs (songs : List Id)
  | keepReference (reference : Id)
  | unkeepReference (reference : Id)
  | deleteReference (reference : Id)
  | commitUnusedStamps (candidates : List Id)
  | stampUnstamped
  | clearStamps
  deriving DecidableEq

/-- What a transaction has written. `clears` is the reference it has marked used. -/
inductive Change (Id : Type) where
  | addReference (reference : Id)
  | insertVersion (clears : Option Id) (row : Version Id)
  | rewriteVersion (clears : Option Id) (row : Version Id)
  | removeVersion (version : Id) (takes : List Id)
  | addTake (clears : Option Id) (row : Generation Id)
  | removeTakes (takes : List Id)
  | removeSongs (songs : List Id)
  | keep (reference : Id)
  | stamp (unkeeps : Option Id) (rows : List Id)
  | clear (rows : List Id)
  | removeReference (reference : Id)
  deriving DecidableEq

/-- How far a transaction has come: the recordings it still has to lock and those it
has locked, those among them that no version links, what it has written. -/
inductive Stage (Id : Type) where
  | begun
  | attached
  | songLocked (song : Id)
  | selected (todo rows : List Id)
  | versionsCounted (rows unlinked : List Id)
  | ready (change : Change Id)
  deriving DecidableEq

/-- A transaction of an operation, and how far it has come. -/
structure Transaction (Id : Type) where
  operation : Operation Id
  stage : Stage Id
  deriving DecidableEq

/-- The committed rows, the row locks and the transactions under way. -/
structure State (Id Tx : Type) where
  recordings : Id → Option ReferenceRecording
  versions : List (Version Id)
  takes : List (Generation Id)
  referenceLocks : List (Tx × Id × LockMode)
  songLocks : List (Tx × Id)
  transactions : Tx → Option (Transaction Id)

/-- A transaction begins, runs its next statement, or ends. -/
inductive Action (Id Tx : Type) where
  | begin (tx : Tx) (operation : Operation Id)
  | attachReference (tx : Tx)
  | lockSong (tx : Tx)
  | saveVersion (tx : Tx) (rewrites : Bool) (newId : Id)
  | prepare (tx : Tx) (newId : Id)
  | lockReference (tx : Tx)
  | select (tx : Tx) (ids : List Id)
  | lockNext (tx : Tx)
  | countVersions (tx : Tx)
  | countTakes (tx : Tx)
  | commit (tx : Tx) (now : Nat)
  | rollback (tx : Tx)
  deriving DecidableEq

/-- The reference that a transaction newly links. -/
def Operation.attaches : Operation Id → Option Id
  | .createSong _ reference => reference
  | .updateSong _ reference => reference.join
  | .createGeneration _ _ reference => reference
  | _ => none

/-- The recording that the operation takes the mark from. -/
def Operation.unkeeps : Operation Id → Option Id
  | .unkeepReference reference => some reference
  | _ => none

namespace State

variable [DecidableEq Id] [DecidableEq Tx] (s : State Id Tx)

/-- How many versions link the recording. -/
def versionLinks (reference : Id) : Nat :=
  s.versions.countP fun version => version.reference = some reference

/-- How many takes link the recording. -/
def takeLinks (reference : Id) : Nat :=
  s.takes.countP fun take => take.reference = some reference

def isKept (reference : Id) : Bool :=
  (s.recordings reference).any fun recording => recording.isKept

def isStamped (reference : Id) : Bool :=
  (s.recordings reference).any fun recording => recording.unusedSince.isSome

/-- A row that `mark_newly_unused` looks for. -/
def stampable (reference : Id) : Bool :=
  (s.recordings reference).any fun recording =>
    recording.unusedSince.isNone && !recording.isKept

def latestVersion (song : Id) : Option (Version Id) :=
  (s.versions.filter fun version => version.song = song).argmax (·.versionNumber)

def setStage (tx : Tx) (operation : Operation Id) (stage : Stage Id) : State Id Tx :=
  { s with transactions := Function.update s.transactions tx (some ⟨operation, stage⟩) }

/-- Whether a transaction gets a lock on a recording without waiting. -/
def lockable (tx : Tx) (reference : Id) (mode : LockMode) : Bool :=
  s.referenceLocks.all fun held =>
    held.1 = tx || held.2.1 ≠ reference || !mode.conflicts held.2.2

def withReferenceLock (tx : Tx) (reference : Id) (mode : LockMode) : State Id Tx :=
  { s with referenceLocks := (tx, reference, mode) :: s.referenceLocks }

/-- Nobody else has the song locked. -/
def songLockable (tx : Tx) (song : Id) : Bool :=
  s.songLocks.all fun held => held.1 = tx || held.2 ≠ song

/-- A transaction is over and releases its locks. -/
def finish (tx : Tx) : State Id Tx :=
  { s with
    referenceLocks := s.referenceLocks.filter fun held => held.1 ≠ tx
    songLocks := s.songLocks.filter fun held => held.1 ≠ tx
    transactions := Function.update s.transactions tx none }

/-- `lock_and_mark_reference_used`, or nothing where there is no new link. -/
def attachReference (tx : Tx) : Option (State Id Tx) :=
  match s.transactions tx with
  | some ⟨operation, .begun⟩ =>
      match operation with
      | .createSong .. | .updateSong .. | .createGeneration .. =>
          match operation.attaches with
          | none => some (s.setStage tx operation .attached)
          | some reference =>
              if (s.recordings reference).isSome ∧ s.lockable tx reference .noKeyUpdate then
                some ((s.withReferenceLock tx reference .noKeyUpdate).setStage tx operation
                  .attached)
              else none
      | _ => none
  | _ => none

/-- `lock_song_row`, of the song of the version where a version is deleted. -/
def lockSong (tx : Tx) : Option (State Id Tx) :=
  match s.transactions tx with
  | some ⟨.updateSong song reference, .attached⟩ =>
      if s.songLockable tx song then
        some { s.setStage tx (.updateSong song reference) (.songLocked song) with
          songLocks := (tx, song) :: s.songLocks }
      else none
  | some ⟨.deleteVersion version deleteGenerations, .begun⟩ =>
      match s.versions.find? fun row => row.id = version with
      | some row =>
          if s.songLockable tx row.song then
            some { s.setStage tx (.deleteVersion version deleteGenerations) (.songLocked row.song)
              with songLocks := (tx, row.song) :: s.songLocks }
          else none
      | none => none
  | _ => none

/-- The foreign key of a link that is written locks the recording. -/
def writeLink (tx : Tx) (reference : Option Id) : Option (State Id Tx) :=
  match reference with
  | none => some s
  | some reference =>
      if (s.recordings reference).isSome ∧ s.lockable tx reference .keyShare then
        some (s.withReferenceLock tx reference .keyShare)
      else none

/-- `update_song` under the song lock. Whether it rewrites the latest version is
decided by content, jobs and takes that are not part of this state. -/
def saveVersion (tx : Tx) (rewrites : Bool) (newId : Id) : Option (State Id Tx) :=
  match s.transactions tx with
  | some ⟨.updateSong song set, .songLocked _⟩ =>
      match s.latestVersion song, rewrites with
      | some previous, true =>
          (s.writeLink tx
              (if set.getD previous.reference = previous.reference then none
              else set.getD previous.reference)).map fun next =>
            next.setStage tx (.updateSong song set) (.ready (.rewriteVersion set.join
              { previous with reference := set.getD previous.reference }))
      | none, true => none
      | previous, false =>
          (s.writeLink tx (set.getD (previous.bind (·.reference)))).map fun next =>
            next.setStage tx (.updateSong song set) (.ready (.insertVersion set.join
              ⟨newId, song, (previous.elim 0 (·.versionNumber)) + 1,
                set.getD (previous.bind (·.reference))⟩))
  | _ => none

/-- The writes of the other transactions before their commit. -/
def prepare (tx : Tx) (newId : Id) : Option (State Id Tx) :=
  match s.transactions tx with
  | some ⟨.uploadReference, .begun⟩ =>
      some (s.setStage tx .uploadReference (.ready (.addReference newId)))
  | some ⟨.createSong song reference, .attached⟩ =>
      some (s.setStage tx (.createSong song reference)
        (.ready (.insertVersion reference ⟨newId, song, 1, reference⟩)))
  | some ⟨.deleteVersion version deleteGenerations, .songLocked song⟩ =>
      if s.versions.any fun row => row.id = version && row.song = song then
        some (s.setStage tx (.deleteVersion version deleteGenerations)
          (.ready (.removeVersion version
            (if deleteGenerations then
              (s.takes.filter fun take => take.version = some version).map (·.id)
            else []))))
      else none
  | some ⟨.createGeneration song version reference, .attached⟩ =>
      some (s.setStage tx (.createGeneration song version reference)
        (.ready (.addTake reference ⟨newId, song, version, reference⟩)))
  | some ⟨.deleteGenerations takes, .begun⟩ =>
      some (s.setStage tx (.deleteGenerations takes) (.ready (.removeTakes takes)))
  | some ⟨.purgeSongs songs, .begun⟩ =>
      if songs.all fun song => s.songLockable tx song then
        some { s.setStage tx (.purgeSongs songs) (.ready (.removeSongs songs)) with
          songLocks := songs.map (Prod.mk tx) ++ s.songLocks }
      else none
  | _ => none

/-- `get_owned_reference_recording` under `FOR UPDATE`, and what its callers do next. -/
def lockReference (tx : Tx) : Option (State Id Tx) :=
  match s.transactions tx with
  | some ⟨.keepReference reference, .begun⟩ =>
      if (s.recordings reference).isSome ∧ s.lockable tx reference .forUpdate then
        some ((s.withReferenceLock tx reference .forUpdate).setStage tx
          (.keepReference reference) (.ready (.keep reference)))
      else none
  | some ⟨.unkeepReference reference, .begun⟩ =>
      if (s.recordings reference).isSome ∧ s.lockable tx reference .forUpdate then
        some ((s.withReferenceLock tx reference .forUpdate).setStage tx
          (.unkeepReference reference)
          (if s.isKept reference then
            .selected [] (if s.isStamped reference then [] else [reference])
          else .ready (.stamp none [])))
      else none
  | some ⟨.deleteReference reference, .begun⟩ =>
      if (s.recordings reference).isSome ∧ s.lockable tx reference .forUpdate ∧
          s.versionLinks reference = 0 ∧ s.takeLinks reference = 0 then
        some ((s.withReferenceLock tx reference .forUpdate).setStage tx
          (.deleteReference reference) (.ready (.removeReference reference)))
      else none
  | _ => none

/-- The queries that find the rows to lock, and the listing of the stamp candidates.
`ids` is what a query over the whole table returns. -/
def select (tx : Tx) (ids : List Id) : Option (State Id Tx) :=
  match s.transactions tx with
  | some ⟨.commitUnusedStamps candidates, .begun⟩ =>
      some (s.setStage tx (.commitUnusedStamps candidates)
        (.selected (candidates.filter fun reference => s.stampable reference) []))
  | some ⟨.stampUnstamped, .begun⟩ => some (s.setStage tx (.commitUnusedStamps ids) .begun)
  | some ⟨.clearStamps, .begun⟩ => some (s.setStage tx .clearStamps (.selected ids []))
  | _ => none

/-- What a query over the whole table returns. -/
def Lists (tx : Tx) (ids : List Id) : Prop :=
  match s.transactions tx with
  | some ⟨.stampUnstamped, .begun⟩ => ∀ reference, reference ∈ ids ↔ s.stampable reference = true
  | some ⟨.clearStamps, .begun⟩ => ∀ reference, reference ∈ ids ↔ s.isStamped reference = true
  | _ => True

/-- A row that the query of the operation looks for. -/
def wanted (operation : Operation Id) (reference : Id) : Bool :=
  if operation = .clearStamps then s.isStamped reference else s.stampable reference

/-- The next row is locked, and taken if it still is one that the query looks for. -/
def lockNext (tx : Tx) : Option (State Id Tx) :=
  match s.transactions tx with
  | some ⟨operation, .selected (reference :: todo) rows⟩ =>
      if s.lockable tx reference .forUpdate then
        if s.wanted operation reference then
          some ((s.withReferenceLock tx reference .forUpdate).setStage tx operation
            (.selected todo (rows ++ [reference])))
        else some (s.setStage tx operation (.selected todo rows))
      else none
  | _ => none

/-- The links are counted by two statements after the locks. -/
def countVersions (tx : Tx) : Option (State Id Tx) :=
  match s.transactions tx with
  | some ⟨operation, .selected [] rows⟩ =>
      some (s.setStage tx operation (.versionsCounted rows
        (rows.filter fun reference => s.versionLinks reference = 0)))
  | _ => none

/-- The statement that counts the takes of what no version links. -/
def countTakes (tx : Tx) : Option (State Id Tx) :=
  match s.transactions tx with
  | some ⟨operation, .versionsCounted rows unlinked⟩ =>
      some (s.setStage tx operation (.ready
        (if operation = .clearStamps then
          .clear (rows.filter fun reference =>
            s.isKept reference || !(reference ∈ unlinked && s.takeLinks reference = 0))
        else
          .stamp operation.unkeeps (unlinked.filter fun reference => s.takeLinks reference = 0))))
  | _ => none

/-- The recordings with one of them changed. -/
def setRecording (reference : Id) (change : ReferenceRecording → ReferenceRecording) :
    Id → Option ReferenceRecording :=
  Function.update s.recordings reference ((s.recordings reference).map change)

/-- The stamp of a reference that is newly linked is cleared. -/
def markUsed (clears : Option Id) : Id → Option ReferenceRecording :=
  match clears with
  | none => s.recordings
  | some reference => s.setRecording reference fun recording =>
      { recording with unusedSince := none }

/-- What is committed after a change. A row that is inserted has a new id. -/
def apply (now : Nat) : Change Id → Option (State Id Tx)
  | .addReference reference =>
      if (s.recordings reference).isNone then
        some { s with
          recordings := Function.update s.recordings reference (some ⟨false, some now⟩) }
      else none
  | .insertVersion clears row =>
      if s.versions.all fun other => other.id ≠ row.id then
        some { s with recordings := s.markUsed clears, versions := s.versions ++ [row] }
      else none
  | .rewriteVersion clears row =>
      some { s with
        recordings := s.markUsed clears
        versions := s.versions.map fun other => if other.id = row.id then row else other }
  | .removeVersion version takes =>
      some { s with
        versions := s.versions.filter fun other => other.id ≠ version
        takes := (s.takes.filter fun take => take.id ∉ takes).map fun take =>
          if take.version = some version then { take with version := none } else take }
  | .addTake clears row =>
      some { s with recordings := s.markUsed clears, takes := s.takes ++ [row] }
  | .removeTakes takes =>
      some { s with takes := s.takes.filter fun take => take.id ∉ takes }
  | .removeSongs songs =>
      some { s with
        versions := s.versions.filter fun version => version.song ∉ songs
        takes := s.takes.filter fun take => take.song ∉ songs }
  | .keep reference =>
      some { s with recordings := s.setRecording reference fun _ => ⟨true, none⟩ }
  | .stamp unkeeps rows =>
      some { s with
        recordings := fun reference =>
          (s.recordings reference).map fun recording =>
            ⟨recording.isKept && unkeeps ≠ some reference,
              if reference ∈ rows then some now else recording.unusedSince⟩ }
  | .clear rows =>
      some { s with
        recordings := fun reference =>
          (s.recordings reference).map fun recording =>
            if reference ∈ rows then { recording with unusedSince := none } else recording }
  | .removeReference reference =>
      some { s with recordings := Function.update s.recordings reference none }

/-- The change is made at one time, and the locks are let go. -/
def commit (tx : Tx) (now : Nat) : Option (State Id Tx) :=
  match s.transactions tx with
  | some ⟨_, .ready change⟩ => (s.apply now change).map fun next => next.finish tx
  | _ => none

end State

section

variable [DecidableEq Id] [DecidableEq Tx]

def act (s : State Id Tx) : Action Id Tx → Option (State Id Tx)
  | .begin tx operation =>
      match s.transactions tx with
      | none => some (s.setStage tx operation .begun)
      | some _ => none
  | .attachReference tx => s.attachReference tx
  | .lockSong tx => s.lockSong tx
  | .saveVersion tx rewrites newId => s.saveVersion tx rewrites newId
  | .prepare tx newId => s.prepare tx newId
  | .lockReference tx => s.lockReference tx
  | .select tx ids => s.select tx ids
  | .lockNext tx => s.lockNext tx
  | .countVersions tx => s.countVersions tx
  | .countTakes tx => s.countTakes tx
  | .commit tx now => s.commit tx now
  | .rollback tx => (s.transactions tx).map fun _ => s.finish tx

/-- The queries over the whole table return its rows as they are committed. -/
def Queries (s : State Id Tx) : Action Id Tx → Prop
  | .select tx ids => s.Lists tx ids
  | _ => True

def empty : State Id Tx := ⟨fun _ => none, [], [], [], [], fun _ => none⟩

def system : TransitionSystem (State Id Tx) (Action Id Tx) where
  initial := (· = empty)
  step s action t := Queries s action ∧ act s action = some t

end

end Songmaker.References
