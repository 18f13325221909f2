import Songmaker.Foundation.TransitionSystem

/-!
`_fetch_generation_result`: how a take comes from the worker into a file of
music's own. The coroutine stops at every await; what it has handed to a thread
goes on when it is cancelled, unless the thread had not started.
-/

namespace Songmaker.Takes.TakeHandoff

open Songmaker.Foundation

abbrev Bytes := List UInt8

/-- What `_open_take_file` has come to in its thread. Nothing fails in it once
the file is made. -/
inductive Acquisition where
  | running
  | failed
  | opened
deriving DecidableEq

/-- A call on the file that runs in a thread. -/
inductive Work where
  | write (chunk : Bytes)
  | close
deriving DecidableEq

/-- How far the thread that acquires the file has come. -/
inductive Stage where
  | queued
  | running
  | ended (ok : Bool)
deriving DecidableEq

/-- The thread that the coroutine waits for. -/
structure Awaited where
  work : Work
  stage : Stage
deriving DecidableEq

/-- The await at which the coroutine stands. `raised` says that an exception is
on its way out of the stream. -/
inductive Point where
  | acquiring
  | awaitingRelease
  | requesting
  | reading
  | writing
  | leaving (raised : Bool)
  | closing (raised : Bool)
  | freeing
  | ended (returned : Bool)
deriving DecidableEq

/-- The acquisition, the request that waits for it, and the file. -/
structure Handoff where
  point : Point
  acquisition : Acquisition
  /-- `acquire_in_thread` has returned the file. -/
  handedOver : Bool
  /-- `_release_acquired` waits for the acquisition. -/
  callback : Bool
  released : Nat
  present : Bool
  /-- What the file has taken, and how much of it is on disk. -/
  written : Bytes
  disk : Bytes
  closed : Bool
  /-- What the worker has still to send. -/
  rest : Bytes
  received : Nat
  own : Option Awaited
  /-- The threads whose waits were cancelled. -/
  orphans : List Work
  asked : Bool
deriving DecidableEq

namespace Handoff

/-- The acquisition runs, and the request waits for it. -/
def start (body : Bytes) : Handoff where
  point := .acquiring
  acquisition := .running
  handedOver := false
  callback := false
  released := 0
  present := false
  written := []
  disk := []
  closed := false
  rest := body
  received := 0
  own := none
  orphans := []
  asked := false

/-- What a thread does to the file; `flushed` bytes of it reach the disk. -/
def runWork (s : Handoff) (work : Work) (ok : Bool) (flushed : Nat) : Handoff :=
  match work with
  | .write chunk =>
      if s.closed then s
      else
        { s with
          written := if ok then s.written ++ chunk else s.written
          disk := (s.written ++ chunk).take flushed }
  | .close => { s with closed := true, disk := if ok then s.written else s.disk }

/-- `_release_acquired`. -/
def runCallback (s : Handoff) : Handoff :=
  match s.acquisition with
  | .opened =>
      { s with callback := false, released := s.released + 1, closed := true, present := false }
  | _ => { s with callback := false }

/-- The `finally` that closes the file. -/
def startClose (s : Handoff) (raised : Bool) : Handoff :=
  { s with point := .closing raised, own := some ⟨.close, .queued⟩ }

/-- An exception at the await of the point. -/
def fail (s : Handoff) : Handoff :=
  match s.point with
  | .requesting | .reading | .writing => { s with point := .leaving true }
  | .leaving _ => s.startClose true
  | .closing _ | .freeing => { s with point := .ended false, present := false }
  | .acquiring | .awaitingRelease | .ended _ => s

/-- A wait for a thread that is cancelled. -/
def abandon (s : Handoff) : Handoff :=
  match s.own with
  | some ⟨work, .running⟩ => { s with own := none, orphans := s.orphans ++ [work] }
  | _ => { s with own := none }

/-- `CancelledError` at the await of the point. -/
def cancel (s : Handoff) : Option Handoff :=
  match s.point with
  | .acquiring => some { s with point := .awaitingRelease, callback := true }
  | .awaitingRelease => some { s with point := .ended false }
  | .ended _ => none
  | _ => some s.abandon.fail

/-- What the coroutine waits for is there. -/
def resume (s : Handoff) : Option Handoff :=
  match s.point with
  | .acquiring =>
      match s.acquisition with
      | .running => none
      | .failed => some { s with point := .ended false }
      | .opened => some { s with point := .requesting, handedOver := true }
  | .awaitingRelease =>
      if s.acquisition = .running then none else some { s with point := .ended false }
  | .writing =>
      match s.own with
      | some ⟨_, .ended true⟩ => some { s with point := .reading, own := none }
      | some ⟨_, .ended false⟩ => some ({ s with own := none }).fail
      | _ => none
  | .leaving raised => some (s.startClose raised)
  | .closing raised =>
      match s.own with
      | some ⟨_, .ended true⟩ =>
          some (if raised then ({ s with own := none }).fail
            else { s with point := .freeing, own := none })
      | some ⟨_, .ended false⟩ => some ({ s with own := none }).fail
      | _ => none
  | .freeing => some { s with point := .ended true }
  | _ => none

/-- The next chunk of the answer, of at most `length` bytes. -/
def chunk (limit : Nat) (s : Handoff) (length : Nat) : Handoff :=
  if limit < s.received + (s.rest.take length).length then
    { s with received := s.received + (s.rest.take length).length }.fail
  else
    { s with
      point := .writing
      rest := s.rest.drop length
      received := s.received + (s.rest.take length).length
      own := some ⟨.write (s.rest.take length), .queued⟩ }

end Handoff

/-- The thread ends, the request goes on, and a cancellation or failure cuts it short. -/
inductive HandoffAct where
  | acquireEnds (ok : Bool)
  | runCallback
  | resume
  | cancel
  /-- The request, the answer's headers, its stream or an exit from it fails. -/
  | raises
  | headers
  | chunk (length : Nat)
  | streamEnds
  | threadStarts
  | threadEnds (ok : Bool) (flushed : Nat)
  | orphanEnds (i : Nat) (ok : Bool) (flushed : Nat)
  | asksFree
deriving DecidableEq

open Handoff in
def act (limit : Nat) (s : Handoff) : HandoffAct → Option Handoff
  | .acquireEnds ok =>
      if s.acquisition = .running then
        some { s with acquisition := if ok then .opened else .failed, present := ok }
      else none
  | .runCallback =>
      if s.callback = true ∧ s.acquisition ≠ .running then some s.runCallback else none
  | .resume => s.resume
  | .cancel => s.cancel
  | .raises =>
      match s.point with
      | .requesting | .reading | .leaving _ | .freeing => some s.fail
      | _ => none
  | .headers => if s.point = .requesting then some { s with point := .reading } else none
  | .chunk length => if s.point = .reading then some (s.chunk limit length) else none
  | .streamEnds =>
      if s.point = .reading ∧ s.rest = [] then some { s with point := .leaving false } else none
  | .threadStarts =>
      match s.own with
      | some ⟨work, .queued⟩ => some { s with own := some ⟨work, .running⟩ }
      | _ => none
  | .threadEnds ok flushed =>
      match s.own with
      | some ⟨work, .running⟩ =>
          some { s.runWork work ok flushed with
            own := some ⟨work, .ended (ok && !(s.closed && decide (work ≠ .close)))⟩ }
      | _ => none
  | .orphanEnds i ok flushed =>
      (s.orphans[i]?).map fun work =>
        { s.runWork work ok flushed with orphans := s.orphans.eraseIdx i }
  | .asksFree => if s.point = .freeing then some { s with asked := true } else none

/-- The hand-off of one take, with the bytes that the worker sends. -/
def handoff (limit : Nat) (body : Bytes) : TransitionSystem Handoff HandoffAct :=
  .ofAct (fun s => s = .start body) (act limit)

end Songmaker.Takes.TakeHandoff
