import Mathlib.Data.List.Nodup
import Mathlib.Data.List.Range

namespace Songmaker.ResourceEvents

/-- A row of the ledger. -/
structure ResourceEvent where
  sequence : Nat
  resourceId : String
  generationId : String
  createdAt : Nat
deriving DecidableEq

/-- `created` has every event ever created; the rows left of them are `events`,
both in the order of their sequence numbers. -/
structure Ledger where
  highWaterMark : Nat
  events : List ResourceEvent
  created : List ResourceEvent
  numbered : created.map ResourceEvent.sequence = List.range' 1 highWaterMark
  events_sublist : events.Sublist created

namespace Ledger

/-- A new event gets the next number. -/
def createGenerationCreatedEvent (ledger : Ledger) (songId generationId : String)
    (now : Nat) : Ledger where
  highWaterMark := ledger.highWaterMark + 1
  events := ledger.events ++ [⟨ledger.highWaterMark + 1, songId, generationId, now⟩]
  created := ledger.created ++ [⟨ledger.highWaterMark + 1, songId, generationId, now⟩]
  numbered := by
    rw [List.map_append, ledger.numbered, List.range'_concat]
    simp [Nat.add_comm]
  events_sublist := ledger.events_sublist.append (List.Sublist.refl _)

/-- Old events are removed; the mark stays. -/
def deleteResourceEventsBefore (ledger : Ledger) (cutoff : Nat) : Ledger where
  highWaterMark := ledger.highWaterMark
  events := ledger.events.filter (cutoff ≤ ·.createdAt)
  created := ledger.created
  numbered := ledger.numbered
  events_sublist := List.filter_sublist.trans ledger.events_sublist

def getOldestResourceEventSequence (ledger : Ledger) : Option Nat :=
  (ledger.events.map ResourceEvent.sequence).min?

/-- The events of a page. -/
def listResourceEventsAfter (ledger : Ledger) (sequence through limit : Nat) :
    List ResourceEvent :=
  (ledger.events.filter fun event => sequence < event.sequence ∧ event.sequence ≤ through).take
    limit

variable {ledger : Ledger} {event event' : ResourceEvent}

theorem sequence_injective (hevent : event ∈ ledger.created) (hevent' : event' ∈ ledger.created)
    (hsequence : event.sequence = event'.sequence) : event = event' := by
  have hnodup : (ledger.created.map ResourceEvent.sequence).Nodup := by
    rw [ledger.numbered]
    exact List.nodup_range'
  exact List.inj_on_of_nodup_map hnodup hevent hevent' hsequence

theorem mem_listResourceEventsAfter {sequence through limit : Nat}
    (hevent : event ∈ ledger.listResourceEventsAfter sequence through limit) :
    event ∈ ledger.created ∧ sequence < event.sequence ∧ event.sequence ≤ through := by
  have hfilter := List.mem_of_mem_take hevent
  rw [List.mem_filter, decide_eq_true_eq] at hfilter
  exact ⟨ledger.events_sublist.subset hfilter.1, hfilter.2⟩

end Ledger

end Songmaker.ResourceEvents
