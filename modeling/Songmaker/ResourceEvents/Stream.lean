import Mathlib.Algebra.Order.Field.Rat
import Songmaker.Foundation.TransitionSystem
import Songmaker.ResourceEvents.Frames

/-!
One connection of the resource event stream. Between its database reads, and
between any two frames it yields, events may be created and old ones deleted.
A clock reading is whatever `monotonic()` returns at that call.
-/

namespace Songmaker.ResourceEvents

open Songmaker.Foundation

def connectionSeconds : ℚ := 60

def heartbeatSeconds : ℚ := 15

def pageSize : Nat := 100

/-- The variables of the stream's loop. -/
structure StreamState where
  cursor : Nat
  replayThrough : Option Nat
  resyncSent : Bool
  lastEmit : ℚ
deriving DecidableEq

/-- The events of a page, with the mark that it was read under. -/
structure EventPage where
  highWaterMark : Nat
  events : List ResourceEvent
deriving DecidableEq

/-- The client is ahead of the ledger, or the event after its last one is gone. -/
def hasReplayGap (lastEventId highWaterMark : Nat) (oldestRetained : Option Nat) : Prop :=
  highWaterMark < lastEventId ∨
    lastEventId < highWaterMark ∧ ∀ oldest ∈ oldestRetained, lastEventId + 1 < oldest

instance (lastEventId highWaterMark : Nat) (oldestRetained : Option Nat) :
    Decidable (hasReplayGap lastEventId highWaterMark oldestRetained) :=
  inferInstanceAs (Decidable (_ ∨ _ ∧ _))

/-- The events carry the next numbers one by one. -/
def isContiguous : List ResourceEvent → Nat → Prop
  | [], _ => True
  | event :: rest, cursor => event.sequence = cursor + 1 ∧ isContiguous rest (cursor + 1)

instance decidableIsContiguous :
    (events : List ResourceEvent) → (cursor : Nat) → Decidable (isContiguous events cursor)
  | [], _ => .isTrue trivial
  | event :: rest, cursor =>
      have _hrest : Decidable (isContiguous rest (cursor + 1)) := decidableIsContiguous rest _
      inferInstanceAs (Decidable (event.sequence = cursor + 1 ∧ isContiguous rest (cursor + 1)))

namespace StreamState

/-- `_resync_resource_stream`, with the readings at its check and at its end. -/
def resync (state : StreamState) (targetHigh : Nat) (deadline now emitted : ℚ) :
    StreamState × Option Frame :=
  if state.resyncSent = true ∨ deadline ≤ now then (state, none)
  else
    ({ cursor := targetHigh, replayThrough := none, resyncSent := true, lastEmit := emitted },
      some (.resync targetHigh))

/-- The replay is over once the cursor is there. -/
def finishReplay (state : StreamState) : StreamState :=
  if ∃ through ∈ state.replayThrough, through ≤ state.cursor then
    { state with replayThrough := none }
  else state

/-- How far the page is to reach. -/
def targetHigh (state : StreamState) (page : EventPage) : Nat :=
  state.replayThrough.getD page.highWaterMark

/-- Events that the page should have are gone. -/
def pageHasGap (state : StreamState) (page : EventPage) (targetHigh : Nat) : Prop :=
  state.cursor < targetHigh ∧ (page.events = [] ∨ ¬ isContiguous page.events state.cursor)

instance (state : StreamState) (page : EventPage) (targetHigh : Nat) :
    Decidable (state.pageHasGap page targetHigh) :=
  inferInstanceAs (Decidable (_ ∧ (_ ∨ _)))

/-- The loop of `_resource_event_frames`: it reads the clock twice for an event, and
where the readings run out the deadline has passed. -/
def eventFrames (state : StreamState) (deadline : ℚ) :
    List ResourceEvent → List (ℚ × ℚ) → Option (StreamState × List Frame)
  | [], _ => some (state, [])
  | _ :: _, [] => none
  | event :: rest, (now, emitted) :: readings =>
      if deadline ≤ now then none
      else
        ({ state with cursor := event.sequence, lastEmit := emitted }.eventFrames deadline rest
          readings).map fun (state, frames) => (state, .generationCreated event :: frames)

/-- `_resource_idle_frames` with its heartbeat. -/
def idleFrames (state : StreamState) (deadline now : ℚ) : Option (StreamState × List Frame) :=
  let state := state.finishReplay
  if deadline ≤ now then none
  else if now - state.lastEmit < heartbeatSeconds then some (state, [])
  else some ({ state with lastEmit := now }, [.heartbeat])

/-- `_resource_page_frames`: the frames of a page and whether to wait for the next poll. -/
def pageFrames (state : StreamState) (page : EventPage) (deadline : ℚ)
    (readings : List (ℚ × ℚ)) (now emitted : ℚ) : Option (StreamState × List Frame × Bool) :=
  let target := state.targetHigh page
  if state.pageHasGap page target then
    match state.resync target deadline now emitted with
    | (_, none) => none
    | (state, some frame) => some (state, [frame], false)
  else if page.events ≠ [] then
    (state.eventFrames deadline page.events readings).map fun (state, frames) =>
      (state.finishReplay, frames, false)
  else (state.idleFrames deadline now).map fun (state, frames) => (state, frames, true)

end StreamState

/-- Where the stream starts: behind the client's last event, or at the mark. -/
def initialState (lastEventId : Option Nat) (highWaterMark : Nat) (emitted : ℚ) : StreamState where
  cursor := lastEventId.getD highWaterMark
  replayThrough := if lastEventId = none then none else some highWaterMark
  resyncSent := false
  lastEmit := emitted

/-- `_initialize_resource_stream`: the state and the first frames. -/
def initializeStream (lastEventId : Option Nat) (highWaterMark : Nat)
    (oldestRetained : Option Nat) (deadline emitted now emitted' : ℚ) :
    StreamState × List Frame :=
  let state := initialState lastEventId highWaterMark emitted
  let hello := Frame.hello state.cursor highWaterMark
  if lastEventId = none ∨ ¬ hasReplayGap state.cursor highWaterMark oldestRetained then
    (state, [hello])
  else
    let (state, frame) := state.resync highWaterMark deadline now emitted'
    (state, hello :: frame.toList)

/-- Where the connection stands: before its first reads, between two reads, or
at a `yield`. -/
inductive Phase where
  | opening
  | openingAt (highWaterMark : Nat)
  | opened (highWaterMark : Nat) (oldestRetained : Option Nat)
  | yielding (state : StreamState) (deadline : ℚ) (frames : List Frame) (waitForPoll : Bool)
  | checking (state : StreamState) (deadline : ℚ)
  | reading (state : StreamState) (deadline : ℚ) (highWaterMark : Nat)
  | closed

/-- A client's stream, with the ledger that it reads. -/
structure Connection where
  lastEventId : Option Nat
  ledger : Ledger
  phase : Phase
  emitted : List Frame

/-- The ledger grows and is cleaned up, and the stream goes one step further. -/
inductive Action where
  | create (songId generationId : String) (now : Nat)
  | cleanUp (cutoff : Nat)
  | readHighWaterMark
  | readOldest
  | startStream (now emitted now' emitted' : ℚ)
  | yieldFrame
  | finishPage (now : ℚ)
  | readPageMark (now now' : ℚ)
  | readPageEvents (readings : List (ℚ × ℚ)) (now emitted : ℚ)
  | disconnect

namespace Connection

def act (connection : Connection) : Action → Option Connection
  | .create songId generationId now =>
      some { connection with
        ledger := connection.ledger.createGenerationCreatedEvent songId generationId now }
  | .cleanUp cutoff =>
      some { connection with ledger := connection.ledger.deleteResourceEventsBefore cutoff }
  | .readHighWaterMark =>
      match connection.phase with
      | .opening => some { connection with phase := .openingAt connection.ledger.highWaterMark }
      | _ => none
  | .readOldest =>
      match connection.phase with
      | .openingAt highWaterMark =>
          some { connection with
            phase := .opened highWaterMark connection.ledger.getOldestResourceEventSequence }
      | _ => none
  | .startStream now emitted now' emitted' =>
      match connection.phase with
      | .opened highWaterMark oldestRetained =>
          let deadline := now + connectionSeconds
          let (state, frames) := initializeStream connection.lastEventId highWaterMark
            oldestRetained deadline emitted now' emitted'
          some { connection with phase := .yielding state deadline frames false }
      | _ => none
  | .yieldFrame =>
      match connection.phase with
      | .yielding state deadline (frame :: frames) waitForPoll =>
          some { connection with
            phase := .yielding state deadline frames waitForPoll
            emitted := connection.emitted ++ [frame] }
      | _ => none
  | .finishPage now =>
      match connection.phase with
      | .yielding state deadline [] waitForPoll =>
          if waitForPoll = true ∧ deadline - now ≤ 0 then
            some { connection with phase := .closed }
          else some { connection with phase := .checking state deadline }
      | _ => none
  | .readPageMark now now' =>
      match connection.phase with
      | .checking state deadline =>
          if deadline ≤ now ∨ deadline - now' ≤ 0 then some { connection with phase := .closed }
          else
            some { connection with
              phase := .reading state deadline connection.ledger.highWaterMark }
      | _ => none
  | .readPageEvents readings now emitted =>
      match connection.phase with
      | .reading state deadline highWaterMark =>
          let through := state.replayThrough.getD highWaterMark
          let page : EventPage :=
            { highWaterMark := highWaterMark
              events := connection.ledger.listResourceEventsAfter state.cursor through pageSize }
          match state.pageFrames page deadline readings now emitted with
          | none => some { connection with phase := .closed }
          | some (state, frames, waitForPoll) =>
              some { connection with phase := .yielding state deadline frames waitForPoll }
      | _ => none
  | .disconnect => some { connection with phase := .closed }

end Connection

/-- A connection that has read nothing yet, whatever happened to the ledger before. -/
def connected (connection : Connection) : Prop :=
  connection.phase = .opening ∧ connection.emitted = []

def streamSystem : TransitionSystem Connection Action :=
  TransitionSystem.ofAct connected Connection.act

end Songmaker.ResourceEvents
