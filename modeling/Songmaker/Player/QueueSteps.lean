import Mathlib.Data.List.Basic

namespace Songmaker.Player.QueueSteps

structure PlaylistEntryItem where
  ref : Nat
  generationId : String
deriving DecidableEq

/-- A `PlaybackInfo`: the one that `playbackInfoOfEntry` keeps for an entry, or one
built elsewhere. -/
inductive PlaybackInfo where
  | ofEntry (entry : PlaylistEntryItem)
  | built (ref : Nat) (generationId : String)
deriving DecidableEq

def PlaybackInfo.generationId : PlaybackInfo → String
  | .ofEntry entry => entry.generationId
  | .built _ generationId => generationId

def playlistEntryToPlaybackInfo (entry : PlaylistEntryItem) : PlaybackInfo :=
  .ofEntry entry

/-- What a library or an album queue plays, once its takes are gathered. -/
structure NativeQueue where
  takes : Option (List PlaybackInfo)
  index : Option Nat
deriving DecidableEq

/-- What the queue plays from. -/
inductive QueueSource where
  | library (queue : NativeQueue)
  | album (albumId : String) (queue : NativeQueue)
  | playlist (id : String) (entries : List PlaylistEntryItem) (index : Nat)
deriving DecidableEq

/-- A queue and the takes that are skipped in it. -/
structure QueueContext where
  source : QueueSource
  skipped : List PlaybackInfo
deriving DecidableEq

inductive QueueDirection where
  | previous
  | next
deriving DecidableEq

def QueueDirection.sign : QueueDirection → Int
  | .previous => -1
  | .next => 1

/-- What comes next in a queue. -/
inductive NextQueueTake where
  | take (index : Nat) (take : PlaybackInfo)
  | windowEnd
  | none
deriving DecidableEq

section Places

variable {α : Type}

/-- The loop of `queuePositionFrom`, with the steps still to take; `none` is -1. -/
def positionFromStep (items : List α) (start : Nat) (holds : α → Bool) (step : Nat) :
    Nat → Option Nat
  | 0 => none
  | steps + 1 =>
      if (items[(start + step) % items.length]?).any holds then
        some ((start + step) % items.length)
      else positionFromStep items start holds (step + 1) steps

/-- The first place from the start on, going round, that holds the take. -/
def queuePositionFrom (items : List α) (start : Nat) (holds : α → Bool) : Option Nat :=
  positionFromStep items start holds 0 items.length

/-- The place itself, or else the nearest one that holds the take. -/
def queuePositionOf (items : List α) (start : Nat) (isPlaceOf holds : α → Bool) : Option Nat :=
  match items.findIdx? isPlaceOf with
  | some place => some place
  | none => queuePositionFrom items start holds

end Places

/-- `none` is -1. -/
def nativeTakeIndex (queue : NativeQueue) (current : Option PlaybackInfo) : Option Nat :=
  match queue.takes with
  | none => none
  | some takes =>
      if takes.length = 0 then none
      else
        match current with
        | none => some (queue.index.getD 0)
        | some current =>
            queuePositionOf takes (queue.index.getD 0) (fun take => take = current)
              (fun take => take.generationId = current.generationId)

def holdsEntryTake (current : PlaybackInfo) (entry : PlaylistEntryItem) : Bool :=
  current.generationId = entry.generationId

/-- Where the current take stands in the playlist. -/
def currentPlaylistIndex (entries : List PlaylistEntryItem) (index : Nat)
    (current : Option PlaybackInfo) : Nat :=
  match current with
  | none => index
  | some current =>
      (queuePositionOf entries index (fun entry => PlaybackInfo.ofEntry entry = current)
        (holdsEntryTake current)).getD index

/-- A place in a queue, with what the queue tells about its neighbours. -/
structure QueuePlace where
  index : Nat
  length : Nat
  takeAt : Nat → Option PlaybackInfo
  endsWithItsWindow : Bool

/-- The loop of `firstPlayableInDirection`, from a step on. -/
def playableFromStep (skipped : List PlaybackInfo) (place : QueuePlace)
    (direction : QueueDirection) (step : Nat) : Nat → NextQueueTake
  | 0 => if place.endsWithItsWindow then .windowEnd else .none
  | steps + 1 =>
      if place.endsWithItsWindow ∧ place.index + step = place.length then .windowEnd
      else
        let index := ((place.index + direction.sign * step + place.length) % place.length).toNat
        match place.takeAt index with
        | some take =>
            if take ∉ skipped then .take index take
            else playableFromStep skipped place direction (step + 1) steps
        | none => playableFromStep skipped place direction (step + 1) steps

/-- The nearest take in the direction that is not to be skipped. -/
def firstPlayableInDirection (skipped : List PlaybackInfo) (place : QueuePlace)
    (direction : QueueDirection) : NextQueueTake :=
  playableFromStep skipped place direction 1 (place.length - 1)

/-- The library queue's window ends its forward steps unless the pool was scanned whole. -/
def endsWithItsWindow (skippedComplete : Bool) (source : QueueSource)
    (direction : QueueDirection) : Bool :=
  match source with
  | .library _ => direction = .next && !skippedComplete
  | _ => false

/-- What comes next in an album or the library. -/
def adjacentNativeTake (skippedComplete : Bool) (ctx : QueueContext) (queue : NativeQueue)
    (current : Option PlaybackInfo) (direction : QueueDirection) : NextQueueTake :=
  match nativeTakeIndex queue current, queue.takes with
  | some index, some takes =>
      firstPlayableInDirection ctx.skipped {
        index := index
        length := takes.length
        takeAt := fun place => takes[place]?
        endsWithItsWindow := endsWithItsWindow skippedComplete ctx.source direction } direction
  | _, _ => .none

/-- `skippedComplete` is the store `libraryQueueSkippedComplete`. -/
def adjacentQueueTake (skippedComplete : Bool) (ctx : QueueContext)
    (current : Option PlaybackInfo) (direction : QueueDirection) : NextQueueTake :=
  match ctx.source with
  | .playlist _ entries index =>
      firstPlayableInDirection ctx.skipped {
        index := currentPlaylistIndex entries index current
        length := entries.length
        takeAt := fun place => entries[place]?.map playlistEntryToPlaybackInfo
        endsWithItsWindow := false } direction
  | .library queue => adjacentNativeTake skippedComplete ctx queue current direction
  | .album _ queue => adjacentNativeTake skippedComplete ctx queue current direction

/-- Where a take stands in the queue. -/
def queuePlaceOf (ctx : QueueContext) (take : Option PlaybackInfo) : Option Nat :=
  match ctx.source with
  | .playlist _ entries index => some (currentPlaylistIndex entries index take)
  | .library queue => nativeTakeIndex queue take
  | .album _ queue => nativeTakeIndex queue take

/-- The queue and the take in the transport, as the app's own player holds them. -/
structure Playing where
  context : QueueContext
  current : Option PlaybackInfo
  windowEnded : Bool
deriving DecidableEq

/-- `playNativeIndex`; `source` puts the moved queue back. -/
def playNativeIndex (playing : Playing) (queue : NativeQueue)
    (source : NativeQueue → QueueSource) (index : Nat) : Playing :=
  match queue.takes.bind fun takes => takes[index]? with
  | none => playing
  | some take =>
      { context := { playing.context with source := source { queue with index := some index } }
        current := some take
        windowEnded := false }

/-- An entry of the playlist is played. -/
def playPlaylistIndex (playing : Playing) (id : String) (entries : List PlaylistEntryItem)
    (newIndex : Nat) : Playing :=
  match entries[newIndex]? with
  | none => playing
  | some entry =>
      { playing with
        context := { playing.context with source := .playlist id entries newIndex }
        current := some (playlistEntryToPlaybackInfo entry) }

/-- The next take of an album or of the library is played. -/
def playNativeTakesInDirection (skippedComplete : Bool) (playing : Playing)
    (queue : NativeQueue) (source : NativeQueue → QueueSource) (direction : QueueDirection) :
    Playing :=
  match adjacentQueueTake skippedComplete playing.context playing.current direction with
  | .windowEnd => { playing with windowEnded := true }
  | .take index _ => playNativeIndex playing queue source index
  | .none => playing

/-- The next entry of the playlist is played. -/
def playPlaylistInDirection (skippedComplete : Bool) (playing : Playing) (id : String)
    (entries : List PlaylistEntryItem) (direction : QueueDirection) : Playing :=
  match adjacentQueueTake skippedComplete playing.context playing.current direction with
  | .take index _ => playPlaylistIndex playing id entries index
  | _ => playing

/-- The next take is played, whatever the queue is. -/
def playContextInDirection (skippedComplete : Bool) (playing : Playing)
    (direction : QueueDirection) : Playing :=
  match playing.context.source with
  | .playlist id entries _ =>
      playPlaylistInDirection skippedComplete playing id entries direction
  | .library queue =>
      if queue.takes.any fun takes => 0 < takes.length then
        playNativeTakesInDirection skippedComplete playing queue .library direction
      else playing
  | .album albumId queue =>
      if queue.takes.any fun takes => 0 < takes.length then
        playNativeTakesInDirection skippedComplete playing queue (.album albumId) direction
      else playing

def playNextSong (skippedComplete : Bool) (playing : Playing) : Playing :=
  playContextInDirection skippedComplete playing .next

end Songmaker.Player.QueueSteps
