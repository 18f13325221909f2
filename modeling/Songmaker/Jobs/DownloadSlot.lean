import Songmaker.Foundation.TransitionSystem

/-!
The download jobs of one model mode and the in-progress mark in Redis that each of them
takes before its attempts and deletes behind them. Commands to Redis are on their way
until they are served or lost.
-/

namespace Songmaker.Jobs.DownloadSlot

open Songmaker.Foundation

/-- One execution of `download_model_on_worker`. -/
abbrev JobId := Nat

def downloadTtlSeconds : Nat := 1800
def downloadMaxAttempts : Nat := 3

/-- How far a download job has come with the slot of its mode. -/
inductive Point where
  /-- The `SET NX` is sent. -/
  | settingSlot
  | slotAnswered (taken : Bool)
  /-- The slot was refused, and the job that has it is read. -/
  | readingSlot
  | attempting (attempt : Nat)
  | sleeping (attempt : Nat)
  /-- The `DELETE` of the `finally` is sent. -/
  | clearing
  | cleared
  | ended
deriving DecidableEq

/-- Between taking the slot and the end of the last attempt. -/
def Point.holds : Point → Bool
  | .slotAnswered taken => taken
  | .attempting _ => true
  | .sleeping _ => true
  | _ => false

/-- The value of the key and its time to live in seconds. -/
structure Mark where
  owner : JobId
  left : Nat
deriving DecidableEq

/-- The jobs, the mark in Redis and the commands that are on their way to it. -/
structure State where
  point : JobId → Option Point
  mark : Option Mark
  setsSent : List JobId
  deletesSent : List JobId

/-- The job goes on as the owner of the slot. -/
def State.Holds (s : State) (job : JobId) : Prop :=
  (s.point job).any Point.holds = true

instance (s : State) (job : JobId) : Decidable (s.Holds job) :=
  inferInstanceAs (Decidable ((s.point job).any Point.holds = true))

def State.setPoint (s : State) (job : JobId) (point : Point) : State :=
  { s with point := Function.update s.point job (some point) }

/-- The `finally` of a job. -/
def State.clear (s : State) (job : JobId) : State :=
  { s.setPoint job .clearing with deletesSent := job :: s.deletesSent }

/-- The answer of a command, where the job still waits for it. -/
def State.answer (s : State) (job : JobId) (waits answered : Point) : State :=
  if s.point job = some waits then s.setPoint job answered else s

/-- Redis serves `SET key job EX ttl NX`. -/
def State.serveSet (s : State) (job : JobId) : State :=
  if s.mark = none then
    ({ s with setsSent := s.setsSent.erase job
              mark := some ⟨job, downloadTtlSeconds⟩ }).answer job .settingSlot
      (.slotAnswered true)
  else
    ({ s with setsSent := s.setsSent.erase job }).answer job .settingSlot (.slotAnswered false)

/-- Redis serves `DELETE key`. -/
def State.serveDelete (s : State) (job : JobId) : State :=
  ({ s with deletesSent := s.deletesSent.erase job, mark := none }).answer job .clearing .cleared

/-- The key lapses once its time is over. -/
def State.pass (s : State) (seconds : Nat) : State :=
  { s with mark := (s.mark.filter fun mark => seconds < mark.left).map fun mark =>
      { mark with left := mark.left - seconds } }

/-- An exception or a cancellation at an await. -/
def State.interrupt (s : State) (job : JobId) : Point → State
  | .attempting _ => s.clear job
  | .sleeping _ => s.clear job
  | _ => s.setPoint job .ended

/-- A job goes on, Redis serves or loses a command, and the mark lapses. -/
inductive Action where
  | starts (job : JobId)
  | servesSet (job : JobId)
  | losesSet (job : JobId)
  | receives (job : JobId)
  | slotRead (job : JobId)
  /-- `retryable` tells whether the attempt returned an exception. -/
  | attemptEnds (job : JobId) (retryable : Bool)
  | wakes (job : JobId)
  | interrupted (job : JobId)
  | servesDelete (job : JobId)
  | losesDelete (job : JobId)
  | finishes (job : JobId)
  /-- The process of the job dies. -/
  | dies (job : JobId)
  | passes (seconds : Nat)
deriving DecidableEq

/-- What a step does; `none` where it cannot be taken. -/
def act (s : State) : Action → Option State
  | .starts job =>
      if s.point job = none then
        some { s.setPoint job .settingSlot with setsSent := job :: s.setsSent }
      else none
  | .servesSet job => if job ∈ s.setsSent then some (s.serveSet job) else none
  | .losesSet job => some { s with setsSent := s.setsSent.erase job }
  | .receives job =>
      match s.point job with
      | some (.slotAnswered true) => some (s.setPoint job (.attempting 1))
      | some (.slotAnswered false) => some (s.setPoint job .readingSlot)
      | _ => none
  | .slotRead job =>
      if s.point job = some .readingSlot then some (s.setPoint job .ended) else none
  | .attemptEnds job retryable =>
      match s.point job with
      | some (.attempting attempt) =>
          if retryable && decide (attempt < downloadMaxAttempts) then
            some (s.setPoint job (.sleeping attempt))
          else some (s.clear job)
      | _ => none
  | .wakes job =>
      match s.point job with
      | some (.sleeping attempt) => some (s.setPoint job (.attempting (attempt + 1)))
      | _ => none
  | .interrupted job => (s.point job).map (s.interrupt job)
  | .servesDelete job => if job ∈ s.deletesSent then some (s.serveDelete job) else none
  | .losesDelete job => some { s with deletesSent := s.deletesSent.erase job }
  | .finishes job =>
      if s.point job = some .cleared then some (s.setPoint job .ended) else none
  | .dies job => (s.point job).map fun _ => s.setPoint job .ended
  | .passes seconds => some (s.pass seconds)

def idle : State where
  point _ := none
  mark := none
  setsSent := []
  deletesSent := []

def slotSystem : TransitionSystem State Action :=
  .ofAct (· = idle) act

/-- The job has the slot, or its `DELETE` is on the way. -/
def State.Uses (s : State) (job : JobId) : Prop :=
  s.Holds job ∨ job ∈ s.deletesSent

/-- No `SET` is served on a lapsed mark whose job is not done with the slot. -/
def OnFreeSlot (s : State) : Action → Prop
  | .servesSet _ => s.mark = none → ∀ job, ¬s.Uses job
  | _ => True

/-- At most one job holds the slot, whatever a job deletes is its own mark, and a mark
that nobody touches lapses. -/
structure Exclusive (s : State) : Prop where
  holder : ∀ job other, s.Holds job → s.Holds other → job = other
  deleted : ∀ job ∈ s.deletesSent, ∀ mark ∈ s.mark, mark.owner = job
  lapses : (s.pass downloadTtlSeconds).mark = none

end Songmaker.Jobs.DownloadSlot
