import Songmaker.Foundation.TransitionSystem

/-!
The Write list of Home: one read of the server's rows at a time, with removals
and undos made here while reads are out. The callbacks of a read run one after
the other, and others may come between them.
-/

namespace Songmaker.Library

open Songmaker.Foundation

/-- What the store knows of the list. -/
inductive WriteReadState where
  | unread
  | failed
  | ready
  | outdated
deriving DecidableEq

inductive RemovedKind where
  | song
  | album
deriving DecidableEq

/-- A song to write on, as the server lists it. -/
structure LibraryWriteItem where
  songId : String
  songTitle : String
  albumId : String
  albumTitle : String
  work : String
  workedAt : String
deriving DecidableEq

def LibraryWriteItem.idOf (row : LibraryWriteItem) : RemovedKind → String
  | .song => row.songId
  | .album => row.albumId

/-- A set of song ids and one of album ids. -/
structure RemovedIds where
  song : List String
  album : List String
deriving DecidableEq

namespace RemovedIds

def empty : RemovedIds := ⟨[], []⟩

def of (ids : RemovedIds) : RemovedKind → List String
  | .song => ids.song
  | .album => ids.album

def has (ids : RemovedIds) (kind : RemovedKind) (id : String) : Bool := (ids.of kind).contains id

def add (ids : RemovedIds) (kind : RemovedKind) (id : String) : RemovedIds :=
  match kind with
  | .song => { ids with song := id :: ids.song }
  | .album => { ids with album := id :: ids.album }

def delete (ids : RemovedIds) (kind : RemovedKind) (gone : List String) : RemovedIds :=
  match kind with
  | .song => { ids with song := ids.song.filter fun id => !gone.contains id }
  | .album => { ids with album := ids.album.filter fun id => !gone.contains id }

end RemovedIds

/-- The reads are numbered from 1 on in the order in which they start. -/
structure LibraryWrite where
  rows : List LibraryWriteItem
  state : WriteReadState
  loading : Bool
  pending : Option Nat
  outdatedDuringRead : Bool
  removed : RemovedIds
  removedHere : RemovedIds
  /-- The reads whose answer is still to come. -/
  fetches : List Nat
  /-- The reads whose answer has come and whose `finally` has still to run. -/
  answered : List Nat
  /-- The refills under way, each with the read that it waits for. -/
  waiters : List Nat
  reads : Nat
  /-- How many reads had started when the last removal, undo or outdate came. -/
  lastChange : Nat
  /-- The last answer, with the number of its read. -/
  shown : Option (Nat × List LibraryWriteItem)
  /-- What was removed here since the last read started. -/
  removedWhileOut : List (RemovedKind × String)
deriving DecidableEq

namespace LibraryWrite

def start : LibraryWrite where
  rows := []
  state := .unread
  loading := false
  pending := none
  outdatedDuringRead := false
  removed := .empty
  removedHere := .empty
  fetches := []
  answered := []
  waiters := []
  reads := 0
  lastChange := 0
  shown := none
  removedWhileOut := []

/-- A read begins, unless one is under way. -/
def readLibraryWrite (s : LibraryWrite) : LibraryWrite :=
  match s.pending with
  | some _ => s
  | none =>
      { s with
        outdatedDuringRead := false
        loading := true
        pending := some (s.reads + 1)
        fetches := s.fetches ++ [s.reads + 1]
        reads := s.reads + 1
        removedWhileOut := [] }

/-- A read begins where there is nothing up to date to show. -/
def ensureLibraryWriteRead (s : LibraryWrite) : LibraryWrite :=
  match s.pending with
  | some _ => s
  | none => if s.state = .ready then s else s.readLibraryWrite

/-- Something changed on the server that the list may show. -/
def outdateLibraryWrite (s : LibraryWrite) : LibraryWrite :=
  { s with
    outdatedDuringRead := s.outdatedDuringRead || s.pending.isSome
    state := if s.state = .ready then .outdated else s.state
    lastChange := s.reads }

/-- `refillWritten` behind its await. -/
def refillNow (s : LibraryWrite) : LibraryWrite :=
  match s.pending with
  | some _ => s
  | none => if s.state = .unread then s else s.outdateLibraryWrite.ensureLibraryWriteRead

/-- The list is read again, after the read under way if there is one. -/
def refillWritten (s : LibraryWrite) : LibraryWrite :=
  match s.pending with
  | some read => { s with waiters := s.waiters ++ [read] }
  | none => s.refillNow

/-- What every removal and undo leaves for the record. -/
def noteChange (s : LibraryWrite) (gone : List (RemovedKind × String)) : LibraryWrite :=
  { s with lastChange := s.reads, removedWhileOut := s.removedWhileOut ++ gone }

/-- A row was removed here: it is not shown, whatever a read under way brings. -/
def forgetWritten (s : LibraryWrite) (kind : RemovedKind) (id : String) : LibraryWrite :=
  if s.removed.has kind id ∧ s.removedHere.has kind id then s.noteChange [(kind, id)]
  else
    { s.noteChange [(kind, id)] with
      removedHere := s.removedHere.add kind id
      removed := if s.pending.isSome then s.removed.add kind id else s.removed
      rows := s.rows.filter fun row => row.idOf kind ≠ id }.refillWritten

/-- Ids that were not removed here are ordinary additions and no undo. -/
def restoreWritten (s : LibraryWrite) (kind : RemovedKind) (ids : List String) : LibraryWrite :=
  if ids.filter (s.removedHere.has kind) = [] then s
  else
    { s.noteChange [] with
      removedHere := s.removedHere.delete kind (ids.filter (s.removedHere.has kind))
      }.refillWritten

/-- A read has brought the list, from which what was removed meanwhile is left out. -/
def answer (s : LibraryWrite) (read : Nat) (items : List LibraryWriteItem) : LibraryWrite :=
  { s with
    rows := items.filter fun row =>
      !s.removed.has .song row.songId && !s.removed.has .album row.albumId
    state := if s.outdatedDuringRead then .outdated else .ready
    shown := some (read, items)
    fetches := s.fetches.erase read
    answered := s.answered ++ [read] }

/-- A read has failed. -/
def fail (s : LibraryWrite) (read : Nat) : LibraryWrite :=
  { s with
    state := if s.state = .unread ∨ s.state = .failed then .failed else .outdated
    fetches := s.fetches.erase read
    answered := s.answered ++ [read] }

/-- The `finally` of a read. -/
def settle (s : LibraryWrite) (read : Nat) : LibraryWrite :=
  { s with
    removed := .empty
    pending := none
    loading := false
    answered := s.answered.erase read }

end LibraryWrite

/-- The calls into the store, the answers of its reads, and the server's changes. -/
inductive LibraryWriteAct where
  | ensure
  | outdate
  | forget (kind : RemovedKind) (id : String)
  | restore (kind : RemovedKind) (ids : List String)
  | answers (read : Nat) (items : List LibraryWriteItem)
  | fails (read : Nat)
  | settles (read : Nat)
  | resumes (i : Nat)
deriving DecidableEq

namespace LibraryWrite

def act (s : LibraryWrite) : LibraryWriteAct → Option LibraryWrite
  | .ensure => some s.ensureLibraryWriteRead
  | .outdate => some s.outdateLibraryWrite
  | .forget kind id => some (s.forgetWritten kind id)
  | .restore kind ids => some (s.restoreWritten kind ids)
  | .answers read items => if read ∈ s.fetches then some (s.answer read items) else none
  | .fails read => if read ∈ s.fetches then some (s.fail read) else none
  | .settles read => if read ∈ s.answered then some (s.settle read) else none
  | .resumes i =>
      s.waiters[i]?.bind fun read =>
        if read ∈ s.fetches ∨ read ∈ s.answered then none
        else some { s with waiters := s.waiters.eraseIdx i }.refillNow

def system : TransitionSystem LibraryWrite LibraryWriteAct :=
  .ofAct (fun s => s = .start) act

end LibraryWrite

end Songmaker.Library
