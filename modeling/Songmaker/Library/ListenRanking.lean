import Mathlib.Data.Prod.Lex
import Mathlib.Data.String.Basic
import Songmaker.Foundation.LeadingItems
import Songmaker.Foundation.TransitionSystem

namespace Songmaker.Library.ListenRanking

open Songmaker.Foundation

inductive PlaceType where
  | album
  | playlist
deriving DecidableEq

/-- A place that can be listened to. -/
structure PlaceKey where
  type : PlaceType
  id : String
deriving DecidableEq

/-- An album or playlist of the viewer. Its listen outlives a removal. -/
structure ServerPlace where
  key : PlaceKey
  playedAt : Option Nat
  live : Bool
deriving DecidableEq

structure PlaceListen where
  key : PlaceKey
  playedAt : Nat
deriving DecidableEq

/-- The sort key of `_most_recent_listen_first`. -/
def PlaceListen.sortKey (listen : PlaceListen) : ℕᵒᵈ ×ₗ Bool ×ₗ String :=
  toLex (OrderDual.toDual listen.playedAt,
    toLex (decide (listen.key.type = .playlist), listen.key.id))

def mostRecentListenFirst (a b : PlaceListen) : Prop := a.sortKey ≤ b.sortKey

instance : DecidableRel mostRecentListenFirst := fun a b =>
  inferInstanceAs (Decidable (a.sortKey ≤ b.sortKey))

/-- The live places of one kind that were listened in. -/
def kindListens (places : List ServerPlace) (type : PlaceType) : List PlaceListen :=
  (places.filter fun place => place.live && place.key.type = type).filterMap fun place =>
    place.playedAt.map fun at' => ⟨place.key, at'⟩

/-- The last listened places of one kind. -/
def leadingKindListens (places : List ServerPlace) (type : PlaceType) (limit : Nat) :
    List PlaceListen :=
  ((kindListens places type).insertionSort mostRecentListenFirst).take limit

/-- The last listened places of both kinds. -/
def listPlaceListens (places : List ServerPlace) (limit : Nat) : List PlaceListen :=
  ((leadingKindListens places .album limit ++
    leadingKindListens places .playlist limit).insertionSort mostRecentListenFirst).take limit

/-- A page of the ranking, as the server answers it. -/
def apiLibraryListen (places : List ServerPlace) (offset limit : Nat) : List PlaceListen :=
  (listPlaceListens places (offset + limit)).drop offset

/-- The whole list that the pages are cut from. -/
def everyListen (places : List ServerPlace) : List PlaceListen :=
  (kindListens places .album ++ kindListens places .playlist).insertionSort mostRecentListenFirst

/-- What the store knows of the ranking. -/
inductive ListenReadState where
  | unread
  | failed
  | ranked
  | outdated
deriving DecidableEq

/-- The read that `lastPlayedRead` stands for. -/
structure ListenRead where
  taken : List PlaceListen
  /-- The page that the server has computed and that is under way. -/
  served : Option (List PlaceListen)
  /-- The server's list when the read started. -/
  startKeys : List PlaceKey
  /-- How many removals had been made here when the read started. -/
  startLog : Nat
deriving DecidableEq

/-- A change made here whose answer has still to come. -/
inductive Told where
  | removal
  | undo
deriving DecidableEq

/-- The server's places, the ranking that is shown, and the read under way. -/
structure Ranking where
  places : List ServerPlace
  untold : List (PlaceKey × Told)
  listened : List PlaceListen
  lastPlayed : List (PlaceKey × Nat × Nat)
  state : ListenReadState
  read : Option ListenRead
  listenRecordedDuringRead : Bool
  forgotten : List PlaceKey
  /-- The restores that wait, each for the read with that number. -/
  waiters : List Nat
  reads : Nat
  /-- Every place that was removed here, in the order of the calls. -/
  removedLog : List PlaceKey
  /-- The places that were removed here and have not come back. -/
  goneHere : List PlaceKey
  /-- The server's list at the start and at the end of the read that ranked the
  places, and the removals made here before it. -/
  rankStart : List PlaceKey
  rankEnd : List PlaceKey
  rankLog : Nat
deriving DecidableEq

namespace Ranking

/-- The store before its first read. -/
def start (places : List ServerPlace) : Ranking where
  places := places
  untold := []
  listened := []
  lastPlayed := []
  state := .unread
  read := none
  listenRecordedDuringRead := false
  forgotten := []
  waiters := []
  reads := 0
  removedLog := []
  goneHere := []
  rankStart := []
  rankEnd := []
  rankLog := 0

/-- The keys of the server's list. -/
def listedKeys (s : Ranking) : List PlaceKey := (everyListen s.places).map PlaceListen.key

/-- The places with their ranks. -/
def rankedPlaces (places : List PlaceListen) : List (PlaceKey × Nat × Nat) :=
  places.zipIdx.map fun (place, rank) => (place.key, rank, place.playedAt)

/-- A read of the ranking begins, unless one is under way. -/
def readLastPlayed (s : Ranking) : Ranking :=
  match s.read with
  | some _ => s
  | none =>
      { s with
        listenRecordedDuringRead := false
        reads := s.reads + 1
        read := some ⟨[], none, s.listedKeys, s.removedLog.length⟩ }

/-- A read begins where the ranking is not up to date. -/
def ensureLastPlayedRead (s : Ranking) : Ranking :=
  if s.state = .ranked then s else s.readLastPlayed

/-- A listen was recorded that the ranking does not have yet. -/
def outdateLastPlayedRanking (s : Ranking) : Ranking :=
  { s with
    listenRecordedDuringRead := s.listenRecordedDuringRead || s.read.isSome
    state := if s.state = .ranked then .outdated else s.state }

/-- The place is there, and not removed. -/
def isLive (s : Ranking) (key : PlaceKey) : Bool :=
  s.places.any fun place => place.key = key && place.live

/-- A place was removed here, and a read under way is not to bring it back. -/
def forgetListenedPlace (s : Ranking) (key : PlaceKey) : Ranking :=
  { s with
    forgotten := if s.read.isSome then key :: s.forgotten else s.forgotten
    listened := s.listened.filter fun place => place.key ≠ key
    removedLog := s.removedLog ++ [key]
    goneHere := if s.isLive key then s.goneHere else key :: s.goneHere }

/-- `readRestoredPlace` up to its await, or to its end where there is no read to wait for. -/
def readRestoredPlace (s : Ranking) (key : PlaceKey) : Ranking :=
  match s.read with
  | some _ =>
      { s with
        forgotten := s.forgotten.filter fun other => other ≠ key
        waiters := s.waiters ++ [s.reads] }
  | none =>
      { s with
        forgotten := s.forgotten.filter fun other => other ≠ key
        }.outdateLastPlayedRanking.readLastPlayed

/-- The last page of a read has arrived. -/
def finish (s : Ranking) (read : ListenRead) (places : List PlaceListen) : Ranking :=
  { s with
    read := none
    forgotten := []
    listened := places.filter fun place => !s.forgotten.contains place.key
    lastPlayed := rankedPlaces (places.filter fun place => !s.forgotten.contains place.key)
    state := if s.listenRecordedDuringRead then .outdated else .ranked
    rankStart := read.startKeys
    rankEnd := s.listedKeys
    rankLog := read.startLog }

/-- The read has failed. -/
def failRead (s : Ranking) : Ranking :=
  { s with
    read := none
    forgotten := []
    state := if s.state = .ranked ∨ s.state = .outdated then s.state else .failed }

def setPlace (s : Ranking) (key : PlaceKey) (change : ServerPlace → ServerPlace) : Ranking :=
  { s with places := s.places.map fun place => if place.key = key then change place else place }

def setLive (s : Ranking) (key : PlaceKey) (live : Bool) : Ranking :=
  { s.setPlace key fun place => { place with live := live } with
    goneHere := if live then s.goneHere.filter fun other => other ≠ key else s.goneHere }

/-- A change made here, which is told once the server has answered. -/
def changesHere (s : Ranking) (key : PlaceKey) (told : Told) : Option Ranking :=
  if key ∈ s.untold.map Prod.fst then none
  else some { s.setLive key (decide (told = .undo)) with untold := s.untold ++ [(key, told)] }

end Ranking

/-- Listens and changes, here and on the server, and the steps of a read. -/
inductive RankingAct where
  /-- A listen is recorded on the server. -/
  | listens (key : PlaceKey) (at' : Nat)
  | removes (key : PlaceKey)
  | restores (key : PlaceKey)
  | changesHere (key : PlaceKey) (told : Told)
  /-- The answer to a change made here has come. -/
  | tells (i : Nat)
  | outdates
  | ensures
  | reads
  | serves
  | receives
  | fails
  | resumes (i : Nat)
deriving DecidableEq

open Ranking in
def act (pageSize : Nat) (s : Ranking) : RankingAct → Option Ranking
  | .listens key at' => some (s.setPlace key fun place => { place with playedAt := some at' })
  | .removes key => some (s.setLive key false)
  | .restores key => some (s.setLive key true)
  | .changesHere key told => s.changesHere key told
  | .tells i =>
      s.untold[i]?.map fun (key, told) =>
        match told with
        | .removal => { s with untold := s.untold.eraseIdx i }.forgetListenedPlace key
        | .undo => { s with untold := s.untold.eraseIdx i }.readRestoredPlace key
  | .outdates => some s.outdateLastPlayedRanking
  | .ensures => some s.ensureLastPlayedRead
  | .reads => some s.readLastPlayed
  | .serves =>
      match s.read with
      | some ⟨taken, none, startKeys, startLog⟩ =>
          some { s with
            read := some ⟨taken, some (apiLibraryListen s.places taken.length pageSize), startKeys,
              startLog⟩ }
      | _ => none
  | .receives =>
      match s.read with
      | some ⟨taken, some page, startKeys, startLog⟩ =>
          if page.length < pageSize then
            some (s.finish ⟨taken, some page, startKeys, startLog⟩ (taken ++ page))
          else some { s with read := some ⟨taken ++ page, none, startKeys, startLog⟩ }
      | _ => none
  | .fails => s.read.map fun _ => s.failRead
  | .resumes i =>
      s.waiters[i]?.bind fun read =>
        if s.read.isSome ∧ read = s.reads then none
        else
          some { s with waiters := s.waiters.eraseIdx i }.outdateLastPlayedRanking.readLastPlayed

/-- A client that has not read yet, on a server with any places. -/
def Opening (s : Ranking) : Prop :=
  (s.places.map ServerPlace.key).Nodup ∧ s = .start s.places

/-- The store before its first read, and its steps. -/
def ranking (pageSize : Nat) : TransitionSystem Ranking RankingAct := .ofAct Opening (act pageSize)

end Songmaker.Library.ListenRanking
