import Songmaker.ResourceEvents.Stream

namespace Songmaker.ResourceEvents

open Songmaker.Foundation

/-- What one connection owes its browser after the hello, given every event ever created. -/
structure Complete (created : List ResourceEvent) (start : Nat) (frames : List Frame) : Prop where
  no_hello : ∀ cursor mark, Frame.hello cursor mark ∉ frames
  consecutive : ∀ before event after, frames = before ++ .generationCreated event :: after →
    event.sequence = cursorAfter start before + 1
  one_resync : frames.countP Frame.isResync ≤ 1
  from_ledger : ∀ event, .generationCreated event ∈ frames → event ∈ created
  in_order : (eventsOf frames).Pairwise (·.sequence < ·.sequence)
  covered : ∀ event ∈ created, start < event.sequence →
    event.sequence ≤ cursorAfter start frames →
      frames.count (.generationCreated event) = 1 ∨
        ∃ mark, .resync mark ∈ frames ∧ event.sequence ≤ mark

/-- The first position of a reader that was told `start`. -/
def startAt (start : Nat) : Position := ⟨start, false, 0⟩

theorem count_generationCreated {frames : List Frame} {event : ResourceEvent}
    (hsorted : (eventsOf frames).Pairwise (·.sequence < ·.sequence))
    (hevent : Frame.generationCreated event ∈ frames) :
    frames.count (.generationCreated event) = 1 := by
  induction frames with
  | nil => cases hevent
  | cons frame rest ih =>
      cases frame with
      | generationCreated head =>
          obtain ⟨hafter, hrest⟩ := List.pairwise_cons.mp hsorted
          by_cases hhead : head = event
          · subst hhead
            have habsent : Frame.generationCreated head ∉ rest := by
              intro hmem
              exact lt_irrefl _ (hafter head (mem_eventsOf.mpr hmem))
            rw [List.count_cons_self, List.count_eq_zero_of_not_mem habsent]
          · have hmem : Frame.generationCreated event ∈ rest := by
              simpa [Ne.symm hhead] using hevent
            simpa [hhead] using ih hrest hmem
      | hello | resync | heartbeat =>
          have hmem : Frame.generationCreated event ∈ rest := by simpa using hevent
          simpa using ih hsorted hmem

theorem complete_of_track {ledger : Ledger} {start : Nat} {frames : List Frame}
    {next : Position} (htrack : (startAt start).track frames = some next)
    (hcreated : ∀ event ∈ eventsOf frames, event ∈ ledger.created) :
    Complete ledger.created start frames := by
  have hsorted := (Position.events_increasing htrack (Nat.zero_le start)).2
  refine ⟨Position.hello_notMem htrack, ?_, ?_, ?_, hsorted, ?_⟩
  · rintro before event after rfl
    rw [Position.track_append] at htrack
    obtain ⟨middle, hbefore, hafter⟩ := Option.bind_eq_some_iff.mp htrack
    obtain ⟨_, hadvance, -⟩ := Position.track_cons hafter
    rcases Position.advance_cases hadvance with ⟨h, -⟩ | ⟨_, h, hnext, -⟩ | ⟨_, h, -, -, -⟩
    · cases h
    · cases h
      rw [hnext, ← Position.cursorAfter_eq hbefore]
      rfl
    · cases h
  · exact Position.countP_isResync_le_one htrack
  · intro event hevent
    exact hcreated event (mem_eventsOf.mpr hevent)
  · intro event hevent hlower hupper
    have hlast : cursorAfter start frames = next.cursor := Position.cursorAfter_eq htrack
    rcases Position.covered htrack hlower (hlast ▸ hupper) with ⟨other, hother, hsame⟩ | hresync
    · obtain rfl := Ledger.sequence_injective
        (hcreated other (mem_eventsOf.mpr hother)) hevent hsame
      exact .inl (count_generationCreated hsorted hother)
    · exact .inr hresync

/-- The frames so far follow a hello that carries the cursor, up to the position
of the stream. -/
def Tracks (lastEventId : Option Nat) (bound : Nat) (frames : List Frame)
    (state : StreamState) : Prop :=
  ∃ mark rest last, mark ≤ bound ∧ frames = .hello (lastEventId.getD mark) mark :: rest ∧
    (startAt (lastEventId.getD mark)).track rest = some ⟨state.cursor, state.resyncSent, last⟩

/-- A prefix of such frames. -/
def Followed (lastEventId : Option Nat) (bound : Nat) (frames : List Frame) : Prop :=
  frames = [] ∨ ∃ mark rest next, mark ≤ bound ∧
    frames = .hello (lastEventId.getD mark) mark :: rest ∧
      (startAt (lastEventId.getD mark)).track rest = some next

section Following

variable {lastEventId : Option Nat} {bound bound' : Nat} {frames frames' : List Frame}
  {state state' : StreamState}

theorem followed_of_tracks_append (htracks : Tracks lastEventId bound (frames ++ frames') state) :
    Followed lastEventId bound frames := by
  obtain ⟨mark, rest, last, hmark, hframes, htrack⟩ := htracks
  cases frames with
  | nil => exact .inl rfl
  | cons frame tail =>
      rw [List.cons_append] at hframes
      obtain ⟨rfl, rfl⟩ := List.cons.inj hframes
      rw [Position.track_append] at htrack
      obtain ⟨next, hnext, -⟩ := Option.bind_eq_some_iff.mp htrack
      exact .inr ⟨mark, tail, next, hmark, rfl, hnext⟩

theorem Tracks.mono (htracks : Tracks lastEventId bound frames state) (hbound : bound ≤ bound') :
    Tracks lastEventId bound' frames state := by
  obtain ⟨mark, rest, last, hmark, htrack⟩ := htracks
  exact ⟨mark, rest, last, hmark.trans hbound, htrack⟩

theorem Followed.mono (hfollowed : Followed lastEventId bound frames) (hbound : bound ≤ bound') :
    Followed lastEventId bound' frames := by
  rcases hfollowed with rfl | ⟨mark, rest, next, hmark, hframes⟩
  · exact .inl rfl
  · exact .inr ⟨mark, rest, next, hmark.trans hbound, hframes⟩

/-- Frames that continue from the position of the stream keep the reader on track. -/
theorem Tracks.append (htracks : Tracks lastEventId bound frames state)
    (hcontinue : ∀ last ≤ state.cursor, ∃ last',
      Position.track ⟨state.cursor, state.resyncSent, last⟩ frames' =
        some ⟨state'.cursor, state'.resyncSent, last'⟩) :
    Tracks lastEventId bound (frames ++ frames') state' := by
  obtain ⟨mark, rest, last, hmark, rfl, htrack⟩ := htracks
  obtain ⟨last', hlast'⟩ :=
    hcontinue last (Position.lastEvent_le_cursor htrack (Nat.zero_le _))
  refine ⟨mark, rest ++ frames', last', hmark, rfl, ?_⟩
  rw [Position.track_append, htrack]
  exact hlast'

end Following

namespace StreamState

variable {state state' : StreamState} {frames : List Frame} {deadline now emitted : ℚ}

theorem finishReplay_cursor (state : StreamState) : state.finishReplay.cursor = state.cursor := by
  unfold finishReplay
  split_ifs <;> rfl

theorem finishReplay_resyncSent (state : StreamState) :
    state.finishReplay.resyncSent = state.resyncSent := by
  unfold finishReplay
  split_ifs <;> rfl

theorem eventFrames_spec {events : List ResourceEvent} {readings : List (ℚ × ℚ)}
    (hframes : state.eventFrames deadline events readings = some (state', frames))
    (hcontiguous : isContiguous events state.cursor) :
    eventsOf frames = events ∧ ∀ last, ∃ last',
      Position.track ⟨state.cursor, state.resyncSent, last⟩ frames =
        some ⟨state'.cursor, state'.resyncSent, last'⟩ := by
  induction events generalizing state readings frames with
  | nil =>
      cases hframes
      exact ⟨rfl, fun last => ⟨last, rfl⟩⟩
  | cons event rest ih =>
      cases readings with
      | nil => cases hframes
      | cons reading readings =>
          simp only [eventFrames, Option.ite_none_left_eq_some, Option.map_eq_some_iff] at hframes
          obtain ⟨-, ⟨final, tail⟩, htail, heq⟩ := hframes
          cases heq
          obtain ⟨hnext, hrest⟩ := hcontiguous
          rw [← hnext] at hrest
          obtain ⟨hevents, htrack⟩ := ih htail hrest
          refine ⟨congrArg (event :: ·) hevents, ?_⟩
          intro last
          obtain ⟨last', hlast'⟩ := htrack event.sequence
          refine ⟨last', ?_⟩
          rw [Position.track, Position.advance, if_pos hnext]
          exact hlast'

theorem idleFrames_spec (hframes : state.idleFrames deadline now = some (state', frames)) :
    eventsOf frames = [] ∧ ∀ last, ∃ last',
      Position.track ⟨state.cursor, state.resyncSent, last⟩ frames =
        some ⟨state'.cursor, state'.resyncSent, last'⟩ := by
  simp only [idleFrames, Option.ite_none_left_eq_some] at hframes
  obtain ⟨-, hframes⟩ := hframes
  split_ifs at hframes
  · cases hframes
    rw [finishReplay_cursor, finishReplay_resyncSent]
    exact ⟨rfl, fun last => ⟨last, rfl⟩⟩
  · cases hframes
    rw [finishReplay_cursor, finishReplay_resyncSent]
    exact ⟨rfl, fun last => ⟨last, rfl⟩⟩

theorem resync_spec (state : StreamState) (deadline now emitted : ℚ) {targetHigh last : Nat}
    (hlast : last ≤ targetHigh) :
    eventsOf (state.resync targetHigh deadline now emitted).2.toList = [] ∧
      Position.track ⟨state.cursor, state.resyncSent, last⟩
          (state.resync targetHigh deadline now emitted).2.toList =
        some ⟨(state.resync targetHigh deadline now emitted).1.cursor,
          (state.resync targetHigh deadline now emitted).1.resyncSent, last⟩ := by
  unfold resync
  split_ifs with hblocked
  · exact ⟨rfl, rfl⟩
  · rw [not_or, Bool.not_eq_true] at hblocked
    refine ⟨rfl, ?_⟩
    show Position.track _ [_] = _
    rw [Position.track, Position.advance, if_pos ⟨hblocked.1, hlast⟩]
    rfl

theorem pageFrames_spec {page : EventPage} {readings : List (ℚ × ℚ)} {waitForPoll : Bool}
    (hpage : ∀ event ∈ page.events,
      state.cursor < event.sequence ∧ event.sequence ≤ state.targetHigh page)
    (hframes : state.pageFrames page deadline readings now emitted =
      some (state', frames, waitForPoll)) :
    (∀ event ∈ eventsOf frames, event ∈ page.events) ∧
      ∀ last ≤ state.cursor, ∃ last',
        Position.track ⟨state.cursor, state.resyncSent, last⟩ frames =
          some ⟨state'.cursor, state'.resyncSent, last'⟩ := by
  simp only [pageFrames] at hframes
  split_ifs at hframes with hgap hevents
  · split at hframes
    · cases hframes
    · rename_i next frame hresync
      cases hframes
      have hhigh : state.cursor ≤ state.targetHigh page := hgap.1.le
      have hspec := fun last (hlast : last ≤ state.cursor) =>
        state.resync_spec deadline now emitted (hlast.trans hhigh)
      rw [hresync] at hspec
      constructor
      · have hnone : eventsOf [frame] = [] := (hspec 0 (Nat.zero_le _)).1
        rw [hnone]
        exact nofun
      · intro last hlast
        exact ⟨last, (hspec last hlast).2⟩
  · obtain ⟨⟨next, tail⟩, htail, heq⟩ := Option.map_eq_some_iff.mp hframes
    cases heq
    have hcontiguous : isContiguous page.events state.cursor := by
      obtain ⟨event, hevent⟩ := List.exists_mem_of_ne_nil _ hevents
      have hlower : state.cursor < state.targetHigh page :=
        (hpage event hevent).1.trans_le (hpage event hevent).2
      by_contra hbroken
      exact hgap ⟨hlower, .inr hbroken⟩
    obtain ⟨hsame, htrack⟩ := eventFrames_spec htail hcontiguous
    rw [hsame, finishReplay_cursor, finishReplay_resyncSent]
    exact ⟨fun _ hevent => hevent, fun last _ => htrack last⟩
  · obtain ⟨⟨next, tail⟩, htail, heq⟩ := Option.map_eq_some_iff.mp hframes
    cases heq
    obtain ⟨hnone, htrack⟩ := idleFrames_spec htail
    rw [hnone]
    exact ⟨nofun, fun last _ => htrack last⟩

end StreamState

theorem initializeStream_spec (lastEventId : Option Nat) (highWaterMark : Nat)
    (oldestRetained : Option Nat) (deadline emitted now emitted' : ℚ) :
    let result := initializeStream lastEventId highWaterMark oldestRetained deadline emitted now
      emitted'
    Tracks lastEventId highWaterMark result.2 result.1 ∧ eventsOf result.2 = [] := by
  intro result
  simp only [result, initializeStream]
  split_ifs
  · exact ⟨⟨highWaterMark, [], 0, le_rfl, rfl, rfl⟩, rfl⟩
  · obtain ⟨hevents, htrack⟩ := (initialState lastEventId highWaterMark emitted).resync_spec
      deadline now emitted' (Nat.zero_le highWaterMark)
    exact ⟨⟨highWaterMark, _, 0, le_rfl, rfl, htrack⟩, hevents⟩

/-- What each phase of a connection knows about the frames emitted so far. -/
def OnTrack (connection : Connection) : Prop :=
  match connection.phase with
  | .opening => connection.emitted = []
  | .openingAt mark | .opened mark _ =>
      connection.emitted = [] ∧ mark ≤ connection.ledger.highWaterMark
  | .yielding state _ frames _ =>
      Tracks connection.lastEventId connection.ledger.highWaterMark
          (connection.emitted ++ frames) state ∧
        ∀ event ∈ eventsOf frames, event ∈ connection.ledger.created
  | .checking state _ | .reading state _ _ =>
      Tracks connection.lastEventId connection.ledger.highWaterMark connection.emitted state
  | .closed => True

/-- What was emitted follows the ledger from the client's last event. -/
structure Sound (connection : Connection) : Prop where
  followed : Followed connection.lastEventId connection.ledger.highWaterMark connection.emitted
  created : ∀ event ∈ eventsOf connection.emitted, event ∈ connection.ledger.created
  onTrack : OnTrack connection

theorem Sound.ledger {connection : Connection} (hsound : Sound connection) {ledger : Ledger}
    (hmark : connection.ledger.highWaterMark ≤ ledger.highWaterMark)
    (hcreated : ∀ event ∈ connection.ledger.created, event ∈ ledger.created) :
    Sound { connection with ledger := ledger } := by
  obtain ⟨lastEventId, before, phase, emitted⟩ := connection
  obtain ⟨hfollowed, hevents, hphase⟩ := hsound
  refine ⟨hfollowed.mono hmark, fun event hevent => hcreated event (hevents event hevent), ?_⟩
  cases phase with
  | opening => exact hphase
  | openingAt | opened => exact ⟨hphase.1, hphase.2.trans hmark⟩
  | yielding =>
      exact ⟨hphase.1.mono hmark, fun event hevent => hcreated event (hphase.2 event hevent)⟩
  | checking | reading => exact Tracks.mono hphase hmark
  | closed => trivial

theorem mem_eventsOf_append {frames frames' : List Frame} {event : ResourceEvent} :
    event ∈ eventsOf (frames ++ frames') ↔ event ∈ eventsOf frames ∨ event ∈ eventsOf frames' := by
  simp only [mem_eventsOf, List.mem_append]

theorem Sound.act {connection next : Connection} (hsound : Sound connection) {action : Action}
    (hstep : connection.act action = some next) : Sound next := by
  have hfollowed := hsound.followed
  have hevents := hsound.created
  have hphase := hsound.onTrack
  unfold OnTrack at hphase
  cases action with
  | create songId generationId now =>
      cases hstep
      apply hsound.ledger
      · exact Nat.le_succ _
      · intro event hevent
        exact List.mem_append_left _ hevent
  | cleanUp cutoff =>
      cases hstep
      exact hsound.ledger le_rfl fun _ hevent => hevent
  | readHighWaterMark =>
      simp only [Connection.act] at hstep
      split at hstep
      · rename_i hopening
        cases hstep
        rw [hopening] at hphase
        exact ⟨hfollowed, hevents, hphase, le_rfl⟩
      · cases hstep
  | readOldest =>
      simp only [Connection.act] at hstep
      split at hstep
      · rename_i mark hopening
        cases hstep
        rw [hopening] at hphase
        exact ⟨hfollowed, hevents, hphase⟩
      · cases hstep
  | startStream now emitted now' emitted' =>
      simp only [Connection.act] at hstep
      split at hstep
      · rename_i mark oldest hopened
        cases hstep
        rw [hopened] at hphase
        obtain ⟨hempty, hmark⟩ := hphase
        obtain ⟨htracks, hnone⟩ := initializeStream_spec connection.lastEventId mark oldest
          (now + connectionSeconds) emitted now' emitted'
        refine ⟨hfollowed, hevents, ?_, ?_⟩
        · show Tracks _ _ (connection.emitted ++ _) _
          rw [hempty]
          exact htracks.mono hmark
        · rw [hnone]
          exact nofun
      · cases hstep
  | yieldFrame =>
      simp only [Connection.act] at hstep
      split at hstep
      · rename_i state deadline frame frames waitForPoll hyielding
        cases hstep
        rw [hyielding] at hphase
        obtain ⟨htracks, hcreated⟩ := hphase
        have hsplit : connection.emitted ++ frame :: frames =
            (connection.emitted ++ [frame]) ++ frames := by simp
        rw [hsplit] at htracks
        refine ⟨followed_of_tracks_append htracks, ?_, htracks, ?_⟩
        · intro event hevent
          rcases mem_eventsOf_append.mp hevent with hevent | hevent
          · exact hevents event hevent
          · apply hcreated
            rw [mem_eventsOf] at hevent ⊢
            exact List.mem_cons.mpr (.inl (List.mem_singleton.mp hevent))
        · intro event hevent
          apply hcreated
          rw [mem_eventsOf] at hevent ⊢
          exact List.mem_cons_of_mem _ hevent
      · cases hstep
  | finishPage now =>
      simp only [Connection.act] at hstep
      split at hstep
      · rename_i state deadline waitForPoll hyielding
        rw [hyielding] at hphase
        split_ifs at hstep
        · cases hstep
          exact ⟨hfollowed, hevents, trivial⟩
        · cases hstep
          have htracks := hphase.1
          rw [List.append_nil] at htracks
          exact ⟨hfollowed, hevents, htracks⟩
      · cases hstep
  | readPageMark now now' =>
      simp only [Connection.act] at hstep
      split at hstep
      · rename_i state deadline hchecking
        rw [hchecking] at hphase
        split_ifs at hstep
        · cases hstep
          exact ⟨hfollowed, hevents, trivial⟩
        · cases hstep
          exact ⟨hfollowed, hevents, hphase⟩
      · cases hstep
  | readPageEvents readings now emitted =>
      simp only [Connection.act] at hstep
      split at hstep
      · rename_i state deadline mark hreading
        rw [hreading] at hphase
        split at hstep
        · cases hstep
          exact ⟨hfollowed, hevents, trivial⟩
        · rename_i state' frames waitForPoll hframes
          cases hstep
          obtain ⟨hpage, htrack⟩ := StreamState.pageFrames_spec
            (fun event hevent => (Ledger.mem_listResourceEventsAfter hevent).2) hframes
          refine ⟨hfollowed, hevents, Tracks.append hphase htrack, ?_⟩
          intro event hevent
          exact (Ledger.mem_listResourceEventsAfter (hpage event hevent)).1
      · cases hstep
  | disconnect =>
      cases hstep
      exact ⟨hfollowed, hevents, trivial⟩

theorem sound_invariant : streamSystem.Invariant Sound where
  initial := by
    rintro connection ⟨hopening, hempty⟩
    refine ⟨.inl hempty, ?_, ?_⟩
    · rw [hempty]
      exact nofun
    · unfold OnTrack
      rw [hopening]
      exact hempty
  step := fun _ _ _ hsound hstep => hsound.act hstep

/-- At every point of a connection, the frames emitted so far are a hello that
carries the cursor and after it frames that leave out and repeat no event. -/
theorem stream_complete {connection : Connection} (hreach : streamSystem.Reachable connection) :
    connection.emitted = [] ∨
      ∃ mark frames, mark ≤ connection.ledger.highWaterMark ∧
        connection.emitted = .hello (connection.lastEventId.getD mark) mark :: frames ∧
          Complete connection.ledger.created (connection.lastEventId.getD mark) frames := by
  obtain ⟨hfollowed, hevents, -⟩ := sound_invariant.of_reachable hreach
  rcases hfollowed with hempty | ⟨mark, frames, next, hmark, hframes, htrack⟩
  · exact .inl hempty
  · refine .inr ⟨mark, frames, hmark, hframes, complete_of_track htrack ?_⟩
    intro event hevent
    apply hevents
    rw [hframes]
    exact hevent

/-- A browser that has seen nothing, on a ledger that is still empty. -/
def newConnection : Connection :=
  ⟨some 0, ⟨0, [], [], rfl, List.Sublist.refl _⟩, .opening, []⟩

/-- Two events are created before the connection reads and a third while it pages. -/
def replayedConnection : Connection :=
  TransitionSystem.lastOf newConnection
    (TransitionSystem.follow Connection.act newConnection
      [.create "a" "g1" 1, .create "a" "g2" 2, .readHighWaterMark, .readOldest,
        .startStream 0 0 0 0, .yieldFrame, .finishPage 1, .readPageMark 1 1,
        .create "b" "g3" 3, .readPageEvents [(1, 1), (1, 1)] 1 1, .yieldFrame, .yieldFrame])

theorem stream_complete_after_replay :
    replayedConnection.emitted = [.hello 0 2, .generationCreated ⟨1, "a", "g1", 1⟩,
        .generationCreated ⟨2, "a", "g2", 2⟩] ∧
      (replayedConnection.emitted = [] ∨
        ∃ mark frames, mark ≤ replayedConnection.ledger.highWaterMark ∧
          replayedConnection.emitted =
              .hello (replayedConnection.lastEventId.getD mark) mark :: frames ∧
            Complete replayedConnection.ledger.created
              (replayedConnection.lastEventId.getD mark) frames) := by
  have hstart : streamSystem.Reachable newConnection := .initial ⟨rfl, rfl⟩
  have hreach : streamSystem.Reachable replayedConnection :=
    TransitionSystem.reachable_follow hstart _
  exact ⟨by decide +kernel, stream_complete hreach⟩

end Songmaker.ResourceEvents
