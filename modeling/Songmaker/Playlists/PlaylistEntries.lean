import Songmaker.Foundation.Numbering
import Songmaker.Foundation.TransitionSystem

namespace Songmaker.Playlists.PlaylistEntries

open Songmaker.Foundation
open Songmaker.Foundation.Numbering

abbrev EntryId := Nat

abbrev GenerationId := Nat

abbrev SongId := Nat

def initialPlaylistPosition : Nat := 0

structure PlaylistEntry where
  id : EntryId
  generationId : GenerationId
  position : Nat
deriving DecidableEq

/-- One behind the last. -/
def nextPosition (entries : List PlaylistEntry) : Nat :=
  match (entries.map (·.position)).max? with
  | some maxPos => maxPos + 1
  | none => initialPlaylistPosition

/-- The entry is gone, and those behind it move up. -/
def removeFromPlaylist (entries : List PlaylistEntry) (entryId : EntryId) : List PlaylistEntry :=
  match entries.find? fun entry => entry.id = entryId with
  | none => entries
  | some removed =>
      (entries.filter fun entry => entry.id ≠ entryId).map fun entry =>
        if removed.position < entry.position then { entry with position := entry.position - 1 }
        else entry

/-- The new position of each entry when one of them moves from `oldPos`. -/
def shifted (oldPos newPosition : Nat) (entry : PlaylistEntry) : PlaylistEntry :=
  if newPosition < oldPos then
    if newPosition ≤ entry.position ∧ entry.position < oldPos then
      { entry with position := entry.position + 1 }
    else entry
  else if oldPos < entry.position ∧ entry.position ≤ newPosition then
    { entry with position := entry.position - 1 }
  else entry

/-- The entry is put at the position, and those that it passes shift by one. -/
def reorderPlaylistEntry (entries : List PlaylistEntry) (entryId : EntryId) (newPosition : Nat) :
    List PlaylistEntry :=
  match entries.find? fun entry => entry.id = entryId with
  | none => entries
  | some moved =>
      if moved.position = newPosition then entries
      else entries.map fun entry =>
        if entry.id = entryId then { entry with position := newPosition }
        else shifted moved.position newPosition entry

inductive Direction where
  | up
  | down
deriving DecidableEq

/-- The entries before and after a move of the page, those it shows and all. -/
structure Move where
  direction : Direction
  entry : EntryId
  visibleBefore : List EntryId
  visibleAfter : List EntryId
  before : List EntryId
  after : List EntryId
deriving DecidableEq

/-- `songOf` is the song of each take. `moves` is a record that the program does
not keep. -/
structure State where
  entries : List PlaylistEntry
  songOf : GenerationId → SongId
  deletedSongs : List SongId
  moves : List Move

namespace State

variable (state : State)

/-- Whether the song of an entry is not soft-deleted. -/
def shows (entry : PlaylistEntry) : Bool :=
  state.songOf entry.generationId ∉ state.deletedSongs

def order : List PlaylistEntry :=
  inOrder (·.position) state.entries

/-- The entries that the page lists. -/
def visible : List PlaylistEntry :=
  state.order.filter state.shows

/-- The position that the page sends, where it has the button. -/
def sentPosition (direction : Direction) (entryId : EntryId) : Option Nat :=
  match state.visible.findIdx? fun entry => entry.id = entryId, direction with
  | some i, .up => if 0 < i then some (i - 1) else none
  | some i, .down => if i < state.visible.length - 1 then some (i + 1) else none
  | none, _ => none

end State

/-- The requests that change a playlist, and the deletions and restorations of what it lists. -/
inductive Action where
  | add (entry : EntryId) (generation : GenerationId)
  | remove (entry : EntryId)
  | reorder (entry : EntryId) (newPosition : Nat)
  | move (direction : Direction) (entry : EntryId)
  | deleteTakes (generations : List GenerationId)
  | deleteSong (song : SongId)
  | restoreSong (song : SongId)
deriving DecidableEq

/-- A move, noted with what is shown before and after it. -/
def moveEntry (state : State) (direction : Direction) (entry : EntryId) (newPosition : Nat) :
    State :=
  let next := { state with entries := reorderPlaylistEntry state.entries entry newPosition }
  { next with
    moves := state.moves ++
      [{ direction := direction
         entry := entry
         visibleBefore := state.visible.map (·.id)
         visibleAfter := next.visible.map (·.id)
         before := state.order.map (·.id)
         after := next.order.map (·.id) }] }

def act (state : State) : Action → Option State
  | .add entry generation =>
      if state.entries.any fun row => row.id = entry then none
      else
        some
          { state with
            entries := state.entries ++ [⟨entry, generation, nextPosition state.entries⟩] }
  | .remove entry => some { state with entries := removeFromPlaylist state.entries entry }
  | .reorder entry newPosition =>
      some { state with entries := reorderPlaylistEntry state.entries entry newPosition }
  | .move direction entry =>
      (state.sentPosition direction entry).map (moveEntry state direction entry)
  | .deleteTakes generations =>
      -- The database cascades a deleted take to its entries.
      some
        { state with
          entries := state.entries.filter fun entry => entry.generationId ∉ generations }
  | .deleteSong song => some { state with deletedSongs := song :: state.deletedSongs }
  | .restoreSong song =>
      some { state with deletedSongs := state.deletedSongs.filter fun gone => gone ≠ song }

/-- The entry changes places with the one that the page shows next to it, and
all other entries stay in the order they are in. -/
structure Move.Swaps (move : Move) : Prop where
  visible : ∃ above neighbour below,
    match move.direction with
    | .up =>
        move.visibleBefore = above ++ neighbour :: move.entry :: below ∧
          move.visibleAfter = above ++ move.entry :: neighbour :: below
    | .down =>
        move.visibleBefore = above ++ move.entry :: neighbour :: below ∧
          move.visibleAfter = above ++ neighbour :: move.entry :: below
  others : (move.after.filter fun entry => entry ≠ move.entry) =
    move.before.filter fun entry => entry ≠ move.entry

/-- The positions are 0 to `n - 1`, and every move so far was a swap. -/
structure InOrder (state : State) : Prop where
  positions : Numbered (·.position) state.entries
  moves : ∀ move ∈ state.moves, move.Swaps

/-- Whether an action keeps the order: deleted takes are the last ones, a new
position is one that the playlist has, and a move passes no hidden entry. -/
def KeepsOrder (state : State) : Action → Prop
  | .deleteTakes generations =>
      ∀ gone ∈ state.entries, gone.generationId ∈ generations →
        ∀ kept ∈ state.entries, kept.generationId ∉ generations → kept.position < gone.position
  | .reorder entry newPosition =>
      (∀ row ∈ state.entries, row.id ≠ entry) ∨ newPosition < state.entries.length
  | .move direction entry =>
      ∀ sent ∈ state.sentPosition direction entry, ∀ hidden ∈ state.entries,
        state.shows hidden = false →
          match direction with
          | .up => sent ≤ hidden.position
          | .down => sent < hidden.position
  | _ => True

instance (state : State) : DecidablePred (KeepsOrder state)
  | .deleteTakes generations =>
      inferInstanceAs (Decidable (∀ gone ∈ state.entries, gone.generationId ∈ generations →
        ∀ kept ∈ state.entries, kept.generationId ∉ generations →
          kept.position < gone.position))
  | .reorder entry newPosition =>
      inferInstanceAs (Decidable
        ((∀ row ∈ state.entries, row.id ≠ entry) ∨ newPosition < state.entries.length))
  | .move .up entry =>
      inferInstanceAs (Decidable (∀ sent ∈ state.sentPosition .up entry,
        ∀ hidden ∈ state.entries, state.shows hidden = false → sent ≤ hidden.position))
  | .move .down entry =>
      inferInstanceAs (Decidable (∀ sent ∈ state.sentPosition .down entry,
        ∀ hidden ∈ state.entries, state.shows hidden = false → sent < hidden.position))
  | .add .. | .remove _ | .deleteSong _ | .restoreSong _ => .isTrue trivial

/-- A playlist whose entries are in order, before the page has moved any. -/
structure Opened (state : State) : Prop where
  ids : (state.entries.map (·.id)).Nodup
  positions : Numbered (·.position) state.entries
  moves : state.moves = []

def playlistSystem : TransitionSystem State Action :=
  .ofAct Opened act

end Songmaker.Playlists.PlaylistEntries
