import Songmaker.ResourceEvents.Ledger

namespace Songmaker.ResourceEvents

/-- The frames of the stream. A hello and an event frame carry the cursor as
their id, a resync frame its high-water mark. -/
inductive Frame where
  | hello (cursor highWaterMark : Nat)
  | generationCreated (event : ResourceEvent)
  | resync (highWaterMark : Nat)
  | heartbeat
deriving DecidableEq

def Frame.isResync : Frame → Bool
  | resync _ => true
  | hello _ _ | generationCreated _ | heartbeat => false

/-- The events that the frames carry. -/
def eventsOf : List Frame → List ResourceEvent
  | [] => []
  | .generationCreated event :: rest => event :: eventsOf rest
  | .hello _ _ :: rest | .resync _ :: rest | .heartbeat :: rest => eventsOf rest

/-- The cursor of a browser that had `cursor` and gets the frames. -/
def cursorAfter (cursor : Nat) : List Frame → Nat
  | [] => cursor
  | .hello cursor _ :: rest => cursorAfter cursor rest
  | .generationCreated event :: rest => cursorAfter event.sequence rest
  | .resync highWaterMark :: rest => cursorAfter highWaterMark rest
  | .heartbeat :: rest => cursorAfter cursor rest

theorem mem_eventsOf {frames : List Frame} {event : ResourceEvent} :
    event ∈ eventsOf frames ↔ Frame.generationCreated event ∈ frames := by
  induction frames with
  | nil => simp [eventsOf]
  | cons frame rest ih => cases frame <;> simp [eventsOf, ih]

/-- The frames after the hello, followed by a reader: the cursor, whether a
resync came, and the last event. -/
structure Position where
  cursor : Nat
  resynced : Bool
  lastEvent : Nat
deriving DecidableEq

namespace Position

/-- Where the frame leads a reader to, if it may come there. -/
def advance (position : Position) : Frame → Option Position
  | .hello _ _ => none
  | .heartbeat => some position
  | .generationCreated event =>
      if event.sequence = position.cursor + 1 then
        some { position with cursor := event.sequence, lastEvent := event.sequence }
      else none
  | .resync highWaterMark =>
      if position.resynced = false ∧ position.lastEvent ≤ highWaterMark then
        some { position with cursor := highWaterMark, resynced := true }
      else none

/-- Where the frames lead a reader to. -/
def track (position : Position) : List Frame → Option Position
  | [] => some position
  | frame :: rest => (position.advance frame).bind fun next => next.track rest

variable {position next : Position} {frames frames' : List Frame}

theorem track_append (position : Position) (frames frames' : List Frame) :
    position.track (frames ++ frames') =
      (position.track frames).bind fun next => next.track frames' := by
  induction frames generalizing position with
  | nil => rfl
  | cons frame rest ih =>
      simp only [List.cons_append, track, Option.bind_assoc]
      congr 1
      funext next
      exact ih next

theorem advance_cases {frame : Frame} (hadvance : position.advance frame = some next) :
    (frame = .heartbeat ∧ next = position) ∨
      (∃ event : ResourceEvent, frame = .generationCreated event ∧
        event.sequence = position.cursor + 1 ∧
        next = ⟨event.sequence, position.resynced, event.sequence⟩) ∨
      ∃ mark, frame = .resync mark ∧ position.resynced = false ∧ position.lastEvent ≤ mark ∧
        next = ⟨mark, true, position.lastEvent⟩ := by
  cases frame with
  | hello => cases hadvance
  | heartbeat => exact .inl ⟨rfl, by simpa [advance] using hadvance.symm⟩
  | generationCreated event =>
      simp only [advance, Option.ite_none_right_eq_some, Option.some.injEq] at hadvance
      exact .inr (.inl ⟨event, rfl, hadvance.1, hadvance.2.symm⟩)
  | resync mark =>
      simp only [advance, Option.ite_none_right_eq_some, Option.some.injEq] at hadvance
      exact .inr (.inr ⟨mark, rfl, hadvance.1.1, hadvance.1.2, hadvance.2.symm⟩)

theorem track_cons {frame : Frame} {rest : List Frame}
    (htrack : position.track (frame :: rest) = some next) :
    ∃ middle, position.advance frame = some middle ∧ middle.track rest = some next :=
  Option.bind_eq_some_iff.mp htrack

theorem lastEvent_le_cursor (htrack : position.track frames = some next)
    (hposition : position.lastEvent ≤ position.cursor) : next.lastEvent ≤ next.cursor := by
  induction frames generalizing position with
  | nil =>
      cases htrack
      exact hposition
  | cons frame rest ih =>
      obtain ⟨middle, hadvance, hrest⟩ := track_cons htrack
      apply ih hrest
      rcases advance_cases hadvance with ⟨-, rfl⟩ | ⟨event, -, -, rfl⟩ | ⟨mark, -, -, hmark, rfl⟩
      · exact hposition
      · exact le_rfl
      · exact hmark

theorem hello_notMem (htrack : position.track frames = some next) (cursor mark : Nat) :
    Frame.hello cursor mark ∉ frames := by
  induction frames generalizing position with
  | nil => exact List.not_mem_nil
  | cons frame rest ih =>
      obtain ⟨middle, hadvance, hrest⟩ := track_cons htrack
      intro hmem
      rcases List.mem_cons.mp hmem with rfl | hmem
      · cases hadvance
      · exact ih hrest hmem

theorem countP_isResync_le_one (htrack : position.track frames = some next) :
    frames.countP Frame.isResync ≤ if position.resynced then 0 else 1 := by
  induction frames generalizing position with
  | nil => simp
  | cons frame rest ih =>
      obtain ⟨middle, hadvance, hrest⟩ := track_cons htrack
      have hcount := ih hrest
      rcases advance_cases hadvance with
        ⟨rfl, rfl⟩ | ⟨event, rfl, -, rfl⟩ | ⟨mark, rfl, hfirst, -, rfl⟩
      · simpa [Frame.isResync] using hcount
      · simpa [Frame.isResync] using hcount
      · have hzero : rest.countP Frame.isResync ≤ 0 := hcount
        rw [List.countP_cons_of_pos rfl, hfirst]
        simpa using hzero

theorem cursorAfter_eq (htrack : position.track frames = some next) :
    cursorAfter position.cursor frames = next.cursor := by
  induction frames generalizing position with
  | nil =>
      cases htrack
      rfl
  | cons frame rest ih =>
      obtain ⟨middle, hadvance, hrest⟩ := track_cons htrack
      have hlast := ih hrest
      rcases advance_cases hadvance with
        ⟨rfl, rfl⟩ | ⟨event, rfl, -, rfl⟩ | ⟨mark, rfl, -, -, rfl⟩
      · exact hlast
      · exact hlast
      · exact hlast

theorem events_increasing (htrack : position.track frames = some next)
    (hposition : position.lastEvent ≤ position.cursor) :
    (∀ event ∈ eventsOf frames, position.lastEvent < event.sequence) ∧
      (eventsOf frames).Pairwise (·.sequence < ·.sequence) := by
  induction frames generalizing position with
  | nil => simp [eventsOf]
  | cons frame rest ih =>
      obtain ⟨middle, hadvance, hrest⟩ := track_cons htrack
      rcases advance_cases hadvance with
        ⟨rfl, rfl⟩ | ⟨event, rfl, hnext, rfl⟩ | ⟨mark, rfl, -, hmark, rfl⟩
      · exact ih hrest hposition
      · obtain ⟨hafter, hpairwise⟩ := ih hrest le_rfl
        have hlt : position.lastEvent < event.sequence := by omega
        constructor
        · intro other hother
          rcases List.mem_cons.mp hother with rfl | hother
          · exact hlt
          · exact hlt.trans (hafter other hother)
        · exact List.pairwise_cons.mpr ⟨hafter, hpairwise⟩
      · obtain ⟨hafter, hpairwise⟩ := ih hrest hmark
        exact ⟨hafter, hpairwise⟩

theorem covered (htrack : position.track frames = some next) {number : Nat}
    (hlower : position.cursor < number) (hupper : number ≤ next.cursor) :
    (∃ event, Frame.generationCreated event ∈ frames ∧ event.sequence = number) ∨
      ∃ mark, Frame.resync mark ∈ frames ∧ number ≤ mark := by
  induction frames generalizing position with
  | nil =>
      cases htrack
      omega
  | cons frame rest ih =>
      obtain ⟨middle, hadvance, hrest⟩ := track_cons htrack
      have htail : middle.cursor < number →
          (∃ event, Frame.generationCreated event ∈ frame :: rest ∧ event.sequence = number) ∨
            ∃ mark, Frame.resync mark ∈ frame :: rest ∧ number ≤ mark := by
        intro hmiddle
        rcases ih hrest hmiddle with ⟨event, hevent, hnumber⟩ | ⟨mark, hmark, hnumber⟩
        · exact .inl ⟨event, List.mem_cons_of_mem _ hevent, hnumber⟩
        · exact .inr ⟨mark, List.mem_cons_of_mem _ hmark, hnumber⟩
      rcases advance_cases hadvance with
        ⟨rfl, rfl⟩ | ⟨event, rfl, hnext, rfl⟩ | ⟨mark, rfl, -, -, rfl⟩
      · exact htail hlower
      · by_cases hnumber : event.sequence = number
        · exact .inl ⟨event, List.mem_cons_self, hnumber⟩
        · apply htail
          show event.sequence < number
          omega
      · by_cases hmark : number ≤ mark
        · exact .inr ⟨mark, List.mem_cons_self, hmark⟩
        · exact htail (not_le.mp hmark)

end Position

end Songmaker.ResourceEvents
