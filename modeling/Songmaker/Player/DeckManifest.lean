import Songmaker.Player.DeckInvariant

namespace Songmaker.Player.DeckManifest

open Songmaker.Foundation
open Songmaker.Foundation.TransitionSystem
open Songmaker.Player.ContinuousDeck
open Songmaker.Player.DeckEntries
open Songmaker.Player.DeckInvariant

variable {Take : Type} {deck : Deck Take}

/-! ### What a step notes and removes -/

/-- Audio is removed before the playing entry, or ten seconds behind the playhead
when the buffer is full. -/
def RemovesPlayed (deck : Deck Take) (removal : ContinuousDeck.Removal Take) : Prop :=
  removal.playing = deck.playing ∧ removal.playhead = deck.currentTime ∧
    ((∃ playing, removal.playing = some playing ∧ removal.upTo ≤ playing.startOffset) ∨
      (removal.whenFull = true ∧ removal.upTo ≤ removal.playhead - secondsKeptBehindWhenFull))

/-- What a step does to the history. -/
inductive Notes (deck : Deck Take) : Action Take → Deck Take → Prop
  | nothing {action : Action Take} {next : Deck Take} (haimed : next.aimed = deck.aimed)
      (hremoved : next.removed = deck.removed) (hremovals : next.removals = deck.removals) :
      Notes deck action next
  | aims {next : Deck Take} (haimed : next.aimed = deck.playing)
      (hremoved : next.removed = deck.removed) (hremovals : next.removals = deck.removals) :
      Notes deck .stepBegins next
  | drops {next : Deck Take} (ahead : Nat) (haimed : next.aimed = deck.aimed)
      (hnext : ∃ pending ∈ deck.pending.head?, pending.next = true)
      (hremoved : next.removed = deck.removed ++ (deck.entries.drop ahead).map (·.id))
      (hremovals : next.removals = deck.removals) : Notes deck .removalEnds next
  | removes {action : Action Take} {next : Deck Take} (removal : ContinuousDeck.Removal Take)
      (haimed : next.aimed = deck.aimed) (hremoved : next.removed = deck.removed)
      (hplayed : RemovesPlayed deck removal)
      (hremovals : next.removals = deck.removals ++ [removal]) : Notes deck action next

section Notes

variable {pending : PendingTake Take} {action : Action Take} {next : Deck Take}

theorem notes_breakStep (deck : Deck Take) (pending : PendingTake Take) :
    Notes deck action (deck.breakStep pending) :=
  .nothing rfl rfl rfl

theorem notes_giveUp (deck : Deck Take) (pending : PendingTake Take) (reason : Reason) :
    Notes deck action (deck.giveUp pending reason) := by
  unfold Deck.giveUp
  split
  · exact .nothing rfl rfl rfl
  · exact .nothing rfl rfl rfl

theorem notes_update (deck : Deck Take) (pending : PendingTake Take) (stage : Stage) :
    Notes deck action (deck.update pending stage) := by
  unfold Deck.update
  split
  · exact .nothing rfl rfl rfl
  · exact .nothing rfl rfl rfl

theorem notes_removeBefore {earliest : Option ℚ} {seconds : ℚ} {whenFull : Bool} {stage : Stage}
    (hplayed : (∃ playing, deck.playing = some playing ∧ seconds ≤ playing.startOffset) ∨
      (whenFull = true ∧ seconds ≤ deck.currentTime - secondsKeptBehindWhenFull))
    (hnext : deck.removeBefore pending earliest seconds whenFull stage = some next) :
    Notes deck action next := by
  unfold Deck.removeBefore at hnext
  split at hnext
  · simp at hnext
  · split_ifs at hnext
    · obtain rfl := Option.some.inj hnext
      exact notes_breakStep deck pending
    · obtain rfl := Option.some.inj hnext
      exact .removes ⟨seconds, whenFull, deck.playing, deck.currentTime⟩ rfl rfl
        ⟨rfl, rfl, hplayed⟩ rfl

theorem notes_evictPlayedTakes (deck : Deck Take) (pending : PendingTake Take)
    (earliest : Option ℚ) : Notes deck action (deck.evictPlayedTakes pending earliest) := by
  unfold Deck.evictPlayedTakes
  split
  · exact notes_update deck pending _
  · rename_i playing hplaying
    rcases hremoved : deck.removeBefore pending earliest playing.startOffset false
      (.evicting playing.startOffset) with _ | next
    · exact notes_update deck pending _
    · exact notes_removeBefore (Or.inl ⟨playing, hplaying, le_refl _⟩) hremoved

theorem notes_freePlayed (deck : Deck Take) (pending : PendingTake Take)
    (earliest : Option ℚ) : Notes deck action (deck.freePlayed pending earliest) := by
  unfold Deck.freePlayed
  rcases hremoved : deck.removeBefore pending earliest
    (deck.currentTime - secondsKeptBehindWhenFull) true
    (.freeing (deck.currentTime - secondsKeptBehindWhenFull)) with _ | next
  · exact notes_breakStep deck pending
  · exact notes_removeBefore (Or.inr ⟨rfl, le_refl _⟩) hremoved

theorem notes_noticeAbort {closing : Bool} (hnext : deck.noticeAbort pending closing = some next) :
    Notes deck action next := by
  unfold Deck.noticeAbort at hnext
  split_ifs at hnext
  · obtain rfl := Option.some.inj hnext
    exact notes_breakStep deck pending
  · obtain rfl := Option.some.inj hnext
    exact notes_giveUp deck pending .replaced

theorem notes_beginStep (deck : Deck Take) (pending : PendingTake Take) :
    Notes deck .stepBegins (deck.beginStep pending) := by
  unfold Deck.beginStep
  split
  · exact .aims rfl rfl rfl
  · split
    · unfold Deck.removeAhead
      split
      · exact .aims rfl rfl rfl
      · split
        · exact .aims rfl rfl rfl
        · unfold Deck.update
          split
          · exact .aims rfl rfl rfl
          · exact .aims rfl rfl rfl
    · exact .aims rfl rfl rfl

theorem notes_beginAppend (deck : Deck Take) (pending : PendingTake Take) :
    Notes deck action (deck.beginAppend pending) := by
  unfold Deck.beginAppend
  split
  · exact notes_breakStep deck pending
  · split
    · exact notes_giveUp deck pending .replaced
    · exact .nothing rfl rfl rfl

theorem notes_resume (h : Invariant deck)
    (hstep : deck.resume pending deck.stage action = some next) : Notes deck action next := by
  unfold Deck.resume at hstep
  split at hstep
  case h_22 => simp at hstep
  case h_1 =>
    split_ifs at hstep
    obtain rfl := Option.some.inj hstep
    exact notes_beginStep deck pending
  case h_2 =>
    rename_i ahead playingEnd hstage
    obtain rfl := Option.some.inj hstep
    have hrunning : deck.stage ≠ .idle := by
      rw [hstage]
      rintro ⟨⟩
    have hfacts := h.facts
    rw [hstage] at hfacts
    obtain ⟨first, rest, hlist⟩ := List.exists_cons_of_ne_nil (h.running hrunning).2
    have hfirst : first ∈ deck.pending.head? := by
      rw [hlist]
      rfl
    exact .drops ahead rfl ⟨first, hfirst, hfacts.2.2 first hfirst⟩ rfl rfl
  case h_3 =>
    obtain rfl := Option.some.inj hstep
    exact notes_beginAppend deck pending
  case h_6 =>
    split_ifs at hstep
    obtain rfl := Option.some.inj hstep
    exact notes_giveUp deck pending .refused
  case h_7 =>
    split at hstep
    · obtain rfl := Option.some.inj hstep
      split
      · exact .nothing rfl rfl rfl
      · exact .nothing rfl rfl rfl
    · simp at hstep
  case h_8 | h_9 | h_10 => exact notes_noticeAbort hstep
  case h_11 =>
    split_ifs at hstep
    obtain rfl := Option.some.inj hstep
    exact notes_evictPlayedTakes deck pending _
  case h_12 | h_15 =>
    obtain rfl := Option.some.inj hstep
    unfold Deck.update
    split
    · exact .nothing rfl rfl rfl
    · exact .nothing rfl rfl rfl
  case h_13 | h_16 =>
    split_ifs at hstep
    obtain rfl := Option.some.inj hstep
    exact .nothing rfl rfl rfl
  case h_14 =>
    obtain rfl := Option.some.inj hstep
    exact notes_freePlayed deck pending _
  all_goals
    obtain rfl := Option.some.inj hstep
    exact .nothing rfl rfl rfl

theorem notes_act (h : Invariant deck) (hstep : deck.act action = some next) :
    Notes deck action next := by
  unfold Deck.act at hstep
  split at hstep
  case h_1 =>
    obtain rfl := Option.some.inj hstep
    unfold Deck.appendTake
    split
    · exact .nothing rfl rfl rfl
    · exact .nothing rfl rfl rfl
  case h_2 =>
    obtain rfl := Option.some.inj hstep
    unfold Deck.appendNext
    split
    · exact .nothing rfl rfl rfl
    · exact .nothing rfl rfl rfl
  case h_5 | h_6 | h_9 =>
    split_ifs at hstep
    obtain rfl := Option.some.inj hstep
    exact .nothing rfl rfl rfl
  case h_7 =>
    obtain rfl := Option.some.inj hstep
    unfold Deck.retryDownload
    split
    · exact .nothing rfl rfl rfl
    · exact .nothing rfl rfl rfl
  case h_10 =>
    split_ifs at hstep
    · obtain rfl := Option.some.inj hstep
      exact .nothing rfl rfl rfl
    · obtain rfl := Option.some.inj hstep
      exact .nothing rfl rfl rfl
  case h_11 =>
    split at hstep
    · simp at hstep
    · exact notes_resume h hstep
  all_goals
    obtain rfl := Option.some.inj hstep
    exact .nothing rfl rfl rfl

end Notes

/-! ### Every run -/

/-- The manifest of a deck: contiguous entries, which are those of the takes asked for,
in their order, without those that still wait, those of which nothing was appended and
those that an `appendNext` removed. -/
structure ManifestKept (deck : Deck Take) : Prop where
  contiguous : Contiguous 0 deck.entries
  inOrder : deck.entries.map (·.id) = (List.range deck.requested.length).filter fun id =>
    id ∉ (deck.pending.filter fun pending => !pending.begun).map (·.id) ∧
      id ∉ deck.dropped.map Prod.fst ∧ id ∉ deck.removed
  takes : ∀ entry ∈ deck.entries,
    deck.requested[entry.id]? = some entry.take ∧ deck.appended entry.id = entry.duration
  empty : ∀ id ∈ deck.dropped.map Prod.fst, deck.appended id = 0

/-- The take of an `appendNext` goes behind the entry that was under the playhead when
its step began, which is still the playing one unless the playhead moved before it. -/
def FollowsPlaying (deck : Deck Take) (action : Action Take) (next : Deck Take) : Prop :=
  ∀ pending ∈ deck.pending.head?, pending.next = true → action = .appendBegins →
    ∀ entry, next.entries = deck.entries ++ [entry] →
      deck.entries.getLast? = deck.aimed ∧
        ∀ playing, deck.aimed = some playing → playing.startOffset ≤ deck.currentTime →
          deck.playing = some playing

theorem waiting_eq (h : Invariant deck) :
    waiting deck = (deck.pending.filter fun pending => !pending.begun).map (·.id) := by
  unfold waiting
  congr 1
  rcases hlist : deck.pending with _ | ⟨first, rest⟩
  · simp
  · have hfirst := h.begun_eq hlist
    have hrest : (rest.filter fun pending => !pending.begun) = rest := by
      rw [List.filter_eq_self]
      intro pending hpending
      have htail := h.tail pending
      rw [hlist] at htail
      rw [htail hpending]
      rfl
    rcases hbegun : begun deck.stage with _ | _
    · rw [List.filter_cons_of_pos (by simp [hfirst, hbegun]), hrest]
      rfl
    · rw [List.filter_cons_of_neg (by simp [hfirst, hbegun]), hrest]
      rfl

theorem manifestKept (h : Invariant deck) : ManifestKept deck where
  contiguous := h.manifest.contiguous
  inOrder := waiting_eq h ▸ h.manifest.ids
  takes entry hentry := ⟨h.manifest.takes entry hentry, h.manifest.measured entry hentry⟩
  empty id hid := h.manifest.untouched id (Or.inl hid)

theorem stage_of_appendBegins {next : Deck Take} (hstep : deck.act .appendBegins = some next) :
    deck.stage = .startingAppend := by
  simp only [Deck.act] at hstep
  split at hstep
  · simp at hstep
  · rcases hstage : deck.stage with _ | _ | _ | _ | _ | _ | _ | _ | _ | _
    case startingAppend => rfl
    all_goals simp [hstage, Deck.resume] at hstep

theorem followsPlaying (h : Invariant deck) {action : Action Take} {next : Deck Take}
    (hstep : deck.act action = some next) : FollowsPlaying deck action next := by
  intro pending hpending hnext haction entry hentries
  subst haction
  have hstage := stage_of_appendBegins hstep
  have hfacts := h.facts
  rw [hstage] at hfacts
  have hlast := hfacts pending hpending hnext
  refine ⟨hlast, ?_⟩
  intro playing hplaying hreached
  rw [hplaying] at hlast
  obtain ⟨rest, hrest⟩ := List.getLast?_eq_some_iff.mp hlast
  exact playing_of_last hrest hreached

theorem invariant_of_reachable (hreach : (deckSystem Take).Reachable deck) : Invariant deck := by
  have hinvariant : (deckSystem Take).Invariant Invariant := by
    constructor
    · rintro _ rfl
      refine ⟨⟨trivial, ?_, List.Pairwise.nil, ?_, ?_, ?_, ?_, ?_, ?_⟩, fun _ => rfl, le_refl _,
        ?_, ?_, ?_, ?_, trivial⟩
      all_goals simp [newDeck, waiting, begun]
    · intro _ _ _ h hstep
      exact h.act hstep
  exact hinvariant.of_reachable hreach

/-- In every reachable state the manifest is kept, and every step puts a next take
behind the playing one, aims only when a step begins, drops entries only for an
`appendNext` and otherwise removes only audio that has played. -/
theorem deck_keeps_manifest (hreach : (deckSystem Take).Reachable deck) :
    ManifestKept deck ∧ ∀ action next, (deckSystem Take).step deck action next →
      FollowsPlaying deck action next ∧ Notes deck action next := by
  have h := invariant_of_reachable hreach
  refine ⟨manifestKept h, ?_⟩
  intro action next hstep
  exact ⟨followsPlaying h hstep, notes_act h hstep⟩

section Runs

/-- A take that is appended in one chunk of ten seconds. -/
def wholeTake : List (Action Nat) :=
  [.stepBegins, .appendBegins, .chunkArrives, .roomFound none, .chunkAppended 10, .downloadEnds]

/-- Three takes are appended, and the second one plays when a fourth is put next. -/
def putNext : List (Action Nat) :=
  [.sourceOpens, .appendTake 0] ++ wholeTake ++ .appendTake 1 :: wholeTake ++
    .appendTake 2 :: wholeTake ++ [.playheadMoves 12, .appendNext 3, .stepBegins]

def manifestOf (actions : List (Action Nat)) : List (Nat × ℚ × ℚ) :=
  (lastOf newDeck (follow Deck.act newDeck actions)).entries.map fun entry =>
    (entry.take, entry.startOffset, entry.duration)

theorem newDeck_reachable : (deckSystem Nat).Reachable newDeck :=
  .initial rfl

theorem deck_keeps_manifest_of_put_next :
    ManifestKept (lastOf newDeck (follow Deck.act newDeck
        (putNext ++ [.removalEnds, .appendBegins]))) ∧
      manifestOf (putNext ++ [.removalEnds, .appendBegins]) =
        [(0, 0, 10), (1, 10, 10), (3, 20, 0)] :=
  ⟨(deck_keeps_manifest (reachable_follow newDeck_reachable _)).1, by decide +kernel⟩

/-- While the third take is removed, the listener seeks back into the first: the next
take follows the second, and the third has left the manifest with all it appended. -/
theorem next_misses_playing_after_seek :
    manifestOf (putNext ++ [.seekTo 5, .removalEnds, .appendBegins]) =
        [(0, 0, 10), (1, 10, 10), (3, 20, 0)] ∧
      (lastOf newDeck (follow Deck.act newDeck
        (putNext ++ [.seekTo 5, .removalEnds, .appendBegins]))).playing.map (·.take) = some 0 ∧
      (lastOf newDeck (follow Deck.act newDeck
        (putNext ++ [.seekTo 5, .removalEnds, .appendBegins]))).appended 2 = 10 := by
  refine ⟨?_, ?_, ?_⟩
  · decide +kernel
  · decide +kernel
  · decide +kernel

end Runs

end Songmaker.Player.DeckManifest
