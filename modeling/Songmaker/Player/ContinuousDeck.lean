import Mathlib.Algebra.Order.Field.Rat
import Mathlib.Data.Finset.Insert
import Songmaker.Foundation.TransitionSystem

/-!
`ContinuousDeck`: the takes of a queue appended behind one another into one
`SourceBuffer` in sequence mode. The queued steps run one at a time, and the
playhead moves while they wait. Times are exact seconds.
-/

namespace Songmaker.Player.ContinuousDeck

open Songmaker.Foundation
open Songmaker.Foundation.TransitionSystem

variable {Take : Type}

def secondsBufferedAhead : ℚ := 60

def secondsKeptBehindWhenFull : ℚ := 10

/-- Attempts in a row before a download parks until the player retries it. -/
def downloadAttempts : Nat := 3

/-- A `DeckEntry`, with the number of the request that it was made for. -/
structure DeckEntry (Take : Type) where
  id : Nat
  take : Take
  startOffset : ℚ
  duration : ℚ
deriving DecidableEq

def DeckEntry.endOffset (entry : DeckEntry Take) : ℚ :=
  entry.startOffset + entry.duration

/-- A `PendingTake`, with the number of its request; `begun` once it has an entry. -/
structure PendingTake (Take : Type) where
  id : Nat
  take : Take
  next : Bool
  begun : Bool
  withdrawn : Bool
deriving DecidableEq

/-- The await that the running step is suspended at. -/
inductive Stage where
  | idle
  | removingAhead (ahead : Nat) (playingEnd : ℚ)
  | startingAppend
  | downloading
  | parked
  | makingRoom
  | evicting (seconds : ℚ)
  | appending
  | freeing (seconds : ℚ)
  | appendingAgain
deriving DecidableEq

/-- Why a request left nothing in the manifest. -/
inductive Reason where
  | refused
  | replaced
  | streamEnded
  | deckBroken
deriving DecidableEq

/-- A `SourceBuffer.remove` outside `appendNext`, with the entry under the playhead
and the playhead when it was called. -/
structure Removal (Take : Type) where
  upTo : ℚ
  whenFull : Bool
  playing : Option (DeckEntry Take)
  playhead : ℚ
deriving DecidableEq

/-- `aimed` and what follows it is history: the entry under the playhead when the
running step began, every take asked for, the requests that left no entry, those
whose entry an `appendNext` removed, the seconds appended for each request, and the
removals. -/
structure Deck (Take : Type) where
  entries : List (DeckEntry Take)
  pending : List (PendingTake Take)
  stage : Stage
  opened : Bool
  ending : Bool
  ended : Bool
  broken : Bool
  closed : Bool
  playableFrom : ℚ
  liveSeekableRange : Option (ℚ × ℚ)
  currentTime : ℚ
  timestampOffset : ℚ
  failedInARow : Nat
  aimed : Option (DeckEntry Take)
  requested : List Take
  dropped : List (Nat × Reason)
  removed : List Nat
  appended : Nat → ℚ
  removals : List (Removal Take)

/-- `earliest` is `buffered.start(0)`, where anything is buffered. -/
inductive Action (Take : Type) where
  | appendTake (take : Take)
  | appendNext (take : Take)
  | endStream
  | close
  | seekTo (seconds : ℚ)
  | scrubTo (seconds : ℚ)
  | retryDownload
  | sourceOpens
  | playheadMoves (seconds : ℚ)
  | stepBegins
  | removalEnds
  | appendBegins
  | chunkArrives
  | downloadEnds
  | takeRefused
  | requestFails
  | abortNoticed (closing : Bool)
  | roomFound (earliest : Option ℚ)
  | chunkAppended (seconds : ℚ)
  | quotaExceeded (earliest : Option ℚ)
  | updateFails (timestampOffset : ℚ)
  | streamEnds
deriving DecidableEq

namespace Deck

variable (deck : Deck Take)

/-- The entry that is played at the time. -/
def entryAt (seconds : ℚ) : Option (DeckEntry Take) :=
  deck.entries.findRev? fun entry => entry.startOffset ≤ seconds

def playing : Option (DeckEntry Take) :=
  deck.entryAt deck.currentTime

def goTo (stage : Stage) : Deck Take :=
  { deck with stage := stage }

def countFailures (failedInARow : Nat) : Deck Take :=
  { deck with failedInARow := failedInARow }

/-! ### Takes asked for -/

/-- A take is asked for, as the next one or as the last. -/
def request (take : Take) (next : Bool) : Deck Take :=
  { deck with
    requested := deck.requested ++ [take]
    pending := deck.pending ++ [⟨deck.requested.length, take, next, false, false⟩] }

def rejectAfterEnd (take : Take) : Deck Take :=
  { deck with
    requested := deck.requested ++ [take]
    dropped := deck.dropped ++ [(deck.requested.length, .streamEnded)] }

/-- The index of the first pending take that `withdrawAhead` gives up. -/
def firstAhead : Nat :=
  match deck.playing with
  | none => 1
  | some playing =>
      match deck.pending.findIdx? fun pending => pending.begun ∧ pending.id = playing.id with
      | none => 0
      | some index => index + 1

def withdrawAhead : Deck Take :=
  { deck with
    pending := deck.pending.take deck.firstAhead ++
      (deck.pending.drop deck.firstAhead).map fun pending => { pending with withdrawn := true } }

/-- A take is to come last. -/
def appendTake (take : Take) : Deck Take :=
  if deck.ending then deck.rejectAfterEnd take else deck.request take false

/-- A take is to come next, in place of those that were. -/
def appendNext (take : Take) : Deck Take :=
  if deck.ending then deck.rejectAfterEnd take else deck.withdrawAhead.request take true

def sourceIsOpen : Bool :=
  deck.opened && !deck.ended

/-- Playback goes on at the time. -/
def seekTo (seconds : ℚ) : Deck Take :=
  { deck with
    liveSeekableRange :=
      if deck.sourceIsOpen then some (deck.playableFrom, max seconds deck.playableFrom)
      else deck.liveSeekableRange
    currentTime := seconds }

/-- The listener drags to the time. -/
def scrubTo (seconds : ℚ) : Deck Take :=
  { deck with
    liveSeekableRange := if deck.sourceIsOpen then none else deck.liveSeekableRange
    currentTime := seconds }

/-! ### How a step ends -/

/-- The step of the first pending take is over. -/
def endStep : Deck Take :=
  { deck with pending := deck.pending.tail, stage := .idle }

/-- The step throws anything but `TakeNotAppended`: every later one fails. -/
def breakStep (pending : PendingTake Take) : Deck Take :=
  { deck.endStep with
    broken := true
    dropped := if pending.begun then deck.dropped
      else deck.dropped ++ [(pending.id, .deckBroken)] }

/-- The take has no entry, or an empty one. -/
def nothingAppended (pending : PendingTake Take) : Bool :=
  deck.entries.all fun entry => entry.id ≠ pending.id ∨ entry.duration = 0

/-- The step throws `TakeNotAppended`: `endTakeEarly`, where the take has an entry. -/
def giveUp (pending : PendingTake Take) (reason : Reason) : Deck Take :=
  if deck.nothingAppended pending then
    { deck.endStep with
      entries := deck.entries.filter fun entry => entry.id ≠ pending.id
      dropped := deck.dropped ++ [(pending.id, reason)] }
  else deck.endStep

/-- `update`: a closed deck leaves the buffer alone. -/
def update (pending : PendingTake Take) (stage : Stage) : Deck Take :=
  if deck.closed then deck.breakStep pending else deck.goTo stage

/-! ### One step -/

def indexOf (entry : DeckEntry Take) : Nat :=
  deck.entries.findIdx fun other => other.id = entry.id

/-- `removeAhead`, up to its await. -/
def removeAhead (pending : PendingTake Take) : Deck Take :=
  match deck.playing with
  | none => deck.goTo .startingAppend
  | some playing =>
      match deck.entries[deck.indexOf playing + 1]? with
      | none => deck.goTo .startingAppend
      | some firstAhead =>
          deck.update pending
            (.removingAhead (deck.indexOf playing + 1) firstAhead.startOffset)

/-- The playhead is noted for the step that begins. -/
def aim : Deck Take :=
  { deck with aimed := deck.playing }

/-- The next step of the queue begins. -/
def beginStep (pending : PendingTake Take) : Deck Take :=
  if deck.broken ∨ deck.closed then deck.aim.breakStep pending
  else if pending.next then deck.aim.removeAhead pending
  else deck.aim.goTo .startingAppend

/-- The end of `removeAhead`. -/
def dropAhead (ahead : Nat) (playingEnd : ℚ) : Deck Take :=
  { deck.goTo .startingAppend with
    timestampOffset := playingEnd
    entries := deck.entries.take ahead
    removed := deck.removed ++ (deck.entries.drop ahead).map (·.id) }

/-- `appendWholeTake`, up to its first await. -/
def beginAppend (pending : PendingTake Take) : Deck Take :=
  if deck.closed then deck.breakStep pending
  else if pending.withdrawn then deck.giveUp pending .replaced
  else
    { (deck.countFailures 0).goTo .downloading with
      entries := deck.entries ++ [⟨pending.id, pending.take, deck.timestampOffset, 0⟩]
      pending := { pending with begun := true } :: deck.pending.tail }

/-- The first abort that an await notices. -/
def noticeAbort (pending : PendingTake Take) (closing : Bool) : Option (Deck Take) :=
  if closing then if deck.closed then some (deck.breakStep pending) else none
  else if pending.withdrawn then some (deck.giveUp pending .replaced) else none

/-- `removeBefore`, up to its await; `none` where nothing is removed. -/
def removeBefore (pending : PendingTake Take) (earliest : Option ℚ) (seconds : ℚ)
    (whenFull : Bool) (stage : Stage) : Option (Deck Take) :=
  match earliest with
  | none => none
  | some first =>
      if seconds ≤ first then none
      else if deck.closed then some (deck.breakStep pending)
      else some { deck.goTo stage with
        removals := deck.removals ++ [⟨seconds, whenFull, deck.playing, deck.currentTime⟩] }

/-- `evictPlayedTakes`, and the append behind it where nothing is evicted. -/
def evictPlayedTakes (pending : PendingTake Take) (earliest : Option ℚ) : Deck Take :=
  match deck.playing with
  | none => deck.update pending .appending
  | some playing =>
      (deck.removeBefore pending earliest playing.startOffset false
        (.evicting playing.startOffset)).getD (deck.update pending .appending)

/-- A full buffer frees what has played, or the step fails. -/
def freePlayed (pending : PendingTake Take) (earliest : Option ℚ) : Deck Take :=
  (deck.removeBefore pending earliest (deck.currentTime - secondsKeptBehindWhenFull) true
    (.freeing (deck.currentTime - secondsKeptBehindWhenFull))).getD (deck.breakStep pending)

/-- The buffer appended a chunk at `timestampOffset` and advanced it. -/
def appendedChunk (pending : PendingTake Take) (seconds : ℚ) : Deck Take :=
  { deck.goTo .downloading with
    timestampOffset := deck.timestampOffset + seconds
    entries := deck.entries.map fun entry =>
      if entry.id = pending.id then
        { entry with duration := deck.timestampOffset + seconds - entry.startOffset }
      else entry
    appended := Function.update deck.appended pending.id (deck.appended pending.id + seconds) }

/-- Neither the deck was closed nor the take withdrawn. -/
def wants (pending : PendingTake Take) : Bool :=
  !deck.closed && !pending.withdrawn

/-- The running step goes on. -/
def resume (pending : PendingTake Take) : Stage → Action Take → Option (Deck Take)
  | .idle, .stepBegins => if deck.opened then some (deck.beginStep pending) else none
  | .removingAhead ahead playingEnd, .removalEnds => some (deck.dropAhead ahead playingEnd)
  | .startingAppend, .appendBegins => some (deck.beginAppend pending)
  | .downloading, .chunkArrives => some (deck.goTo .makingRoom)
  | .downloading, .downloadEnds => some deck.endStep
  | .downloading, .takeRefused =>
      if deck.wants pending then some (deck.giveUp pending .refused) else none
  | .downloading, .requestFails =>
      if deck.wants pending then
        -- No chunk that arrives in between resets the count.
        some (if deck.failedInARow + 1 = downloadAttempts then
          (deck.countFailures 0).goTo .parked
        else deck.countFailures (deck.failedInARow + 1))
      else none
  | .downloading, .abortNoticed closing => deck.noticeAbort pending closing
  | .parked, .abortNoticed closing => deck.noticeAbort pending closing
  | .makingRoom, .abortNoticed closing => deck.noticeAbort pending closing
  | .makingRoom, .roomFound earliest =>
      if deck.timestampOffset - deck.currentTime < secondsBufferedAhead then
        some (deck.evictPlayedTakes pending earliest)
      else none
  | .evicting seconds, .removalEnds =>
      some ({ deck with playableFrom := seconds }.update pending .appending)
  | .appending, .chunkAppended seconds =>
      if 0 ≤ seconds then some (deck.appendedChunk pending seconds) else none
  | .appending, .quotaExceeded earliest => some (deck.freePlayed pending earliest)
  | .freeing seconds, .removalEnds =>
      some ({ deck with playableFrom := seconds }.update pending .appendingAgain)
  | .appendingAgain, .chunkAppended seconds =>
      if 0 ≤ seconds then some (deck.appendedChunk pending seconds) else none
  | .removingAhead _ _, .updateFails offset | .evicting _, .updateFails offset
  | .appending, .updateFails offset | .freeing _, .updateFails offset
  | .appendingAgain, .updateFails offset =>
      some ({ deck with timestampOffset := offset }.breakStep pending)
  | _, _ => none

/-- Cuts the request in flight, or wakes a parked download. -/
def retryDownload : Deck Take :=
  match deck.stage with
  | .parked => deck.goTo .downloading
  | _ => deck.countFailures 0

def act : Action Take → Option (Deck Take)
  | .appendTake take => some (deck.appendTake take)
  | .appendNext take => some (deck.appendNext take)
  | .endStream => some { deck with ending := true }
  | .close => some { deck with closed := true }
  | .seekTo seconds => if 0 ≤ seconds then some (deck.seekTo seconds) else none
  | .scrubTo seconds => if 0 ≤ seconds then some (deck.scrubTo seconds) else none
  | .retryDownload => some deck.retryDownload
  | .sourceOpens => some { deck with opened := true }
  | .playheadMoves seconds =>
      if 0 ≤ seconds then some { deck with currentTime := seconds } else none
  | .streamEnds =>
      if deck.pending = [] ∧ deck.ending ∧ ¬ deck.ended then
        if deck.broken ∨ deck.closed then some { deck with broken := true }
        else if deck.opened then some { deck with ended := true } else none
      else none
  | action =>
      match deck.pending with
      | [] => none
      | pending :: _ => deck.resume pending deck.stage action

end Deck

def newDeck : Deck Take where
  entries := []
  pending := []
  stage := .idle
  opened := false
  ending := false
  ended := false
  broken := false
  closed := false
  playableFrom := 0
  liveSeekableRange := none
  currentTime := 0
  timestampOffset := 0
  failedInARow := 0
  aimed := none
  requested := []
  dropped := []
  removed := []
  appended := fun _ => 0
  removals := []

/-- Every order of calls, steps, downloads and playhead positions of a new deck. -/
def deckSystem (Take : Type) : TransitionSystem (Deck Take) (Action Take) :=
  ofAct (fun deck => deck = newDeck) Deck.act

end Songmaker.Player.ContinuousDeck
