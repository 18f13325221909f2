import Songmaker.Player.AudioKept
import Songmaker.Player.PauseEvents

namespace Songmaker.Player.PauseHolds

open Songmaker.Foundation
open Songmaker.Foundation.TransitionSystem

variable {p q : AudioPlayer} (around : Surroundings)

/-- The call asks for sound, whatever the player is doing. -/
def asksForSound : Action → Bool
  | .play | .toggle => true
  | .load _ opts | .loadUrl _ _ opts => opts.autoplay
  | .loadStream _ _ opts => opts.autoplay
  | .seekToStreamTrack _ autoplay | .nextStreamTrack autoplay | .prevStreamTrack autoplay =>
      autoplay = some true
  | _ => false

theorem Quiet.changesTrack (hquiet : Quiet p)
    {change : QueueStreamEngine → QueueStreamEngine × Option StreamTrackState}
    (hactive : (change p.streamEngine).2.isSome → (change p.streamEngine).1.active)
    {autoplay : Option Bool} (hunasked : autoplay ≠ some true)
    (hkept : (autoplay.isNone && !around.element.paused && changePlays p around change) = false) :
    Kept p (p.changeStreamTrack around change autoplay) := by
  refine hquiet.changeStreamTrack around hactive fun hplays => ?_
  cases autoplay with
  | none =>
      rw [Option.getD_none] at hplays
      rwa [Option.isNone_none, hplays, Bool.true_and, Bool.true_and] at hkept
  | some wanted =>
      rw [Option.getD_some] at hplays
      exact absurd (congrArg some hplays) hunasked

theorem Quiet.act (hquiet : Quiet p) {action : Action} (hsilent : asksForSound action = false)
    (hkept : Defies p around action = false) (hact : p.act around action = some q) : Kept p q := by
  cases action with
  | load info opts =>
      obtain rfl := Option.some.inj hact
      exact hquiet.load around hsilent
  | loadUrl info url opts =>
      obtain rfl := Option.some.inj hact
      exact hquiet.loadUrl around hsilent
  | loadStream manifest startIndex opts =>
      obtain rfl := Option.some.inj hact
      exact hquiet.loadStream around hsilent
  | preload info =>
      obtain rfl := Option.some.inj hact
      exact .of_wish hquiet (wish_preload p info)
  | play => contradiction
  | toggle => contradiction
  | pause =>
      obtain rfl := Option.some.inj hact
      cases haudio : p.audio with
      | true => exact hquiet.pause around haudio
      | false =>
          rw [AudioPlayer.pause, haudio]
          exact hquiet.refl
  | seek seconds =>
      obtain rfl := Option.some.inj hact
      exact .of_wish hquiet (wish_seek p around seconds)
  | seekToStreamTrack index autoplay =>
      obtain rfl := Option.some.inj hact
      exact hquiet.changesTrack around active_seekToTrack (of_decide_eq_false hsilent) hkept
  | nextStreamTrack autoplay =>
      obtain rfl := Option.some.inj hact
      exact hquiet.changesTrack around active_nextTrack (of_decide_eq_false hsilent) hkept
  | prevStreamTrack autoplay =>
      obtain rfl := Option.some.inj hact
      exact hquiet.changesTrack around active_prevTrack (of_decide_eq_false hsilent) hkept
  | networkReturns =>
      obtain rfl := Option.some.inj hact
      exact hquiet.resumeAfterNetworkReturn around hkept
  | unload =>
      obtain rfl := Option.some.inj hact
      exact kept_unload around p
  | destroy =>
      obtain rfl := Option.some.inj hact
      exact kept_destroy around p
  | element event =>
      rw [AudioPlayer.act] at hact
      split at hact
      · obtain rfl := Option.some.inj hact
        exact hquiet.hear around hkept
      · contradiction
  | stallTimerFires =>
      rw [AudioPlayer.act, hquiet.unwatched] at hact
      contradiction
  | progressIsChecked =>
      rw [AudioPlayer.act] at hact
      split at hact
      · obtain rfl := Option.some.inj hact
        exact hquiet.checkProgress around
      · contradiction
  | probeAnswered index answer =>
      obtain ⟨probe, hprobe, rfl⟩ := Option.map_eq_some_iff.mp hact
      rw [Defies, hprobe] at hkept
      have hsame := Kept.of_wish hquiet (q := { p with probes := p.probes.eraseIdx index }) rfl
      exact hsame.trans (hsame.quiet.resume around hkept)
  | rebuildAnswered index fresh =>
      obtain ⟨rebuild, hrebuild, rfl⟩ := Option.map_eq_some_iff.mp hact
      rw [Defies, hrebuild] at hkept
      have hsame := Kept.of_wish hquiet (q := { p with rebuilds := p.rebuilds.eraseIdx index }) rfl
      exact hsame.trans (hsame.quiet.resumeRebuild around hkept)
  | playRejected name =>
      obtain rfl := Option.some.inj hact
      exact hquiet.handlePlayRejection around name
  | deckFails number error =>
      obtain rfl := Option.some.inj hact
      exact hquiet.deckFailed around hkept

/-! ### Presses -/

theorem hends_of_respected
    (hkept : (p.audio && around.element.ended &&
      (decide (p.status = .playing) || decide (p.status = .buffering))) = false)
    (haudio : p.audio = true) (hended : around.element.ended = true) :
    p.status ≠ .playing ∧ p.status ≠ .buffering := by
  rw [haudio, hended, Bool.true_and, Bool.true_and, Bool.or_eq_false_iff] at hkept
  exact ⟨of_decide_eq_false hkept.1, of_decide_eq_false hkept.2⟩

theorem quiet_flipAsk (hloading : p.status = .loading) (hstarted : p.recoveryStartedAt.isNone)
    (hoffers : transportOffersPause p.transport = true) : Quiet (p.flipAsk around) := by
  have hnone : p.recoveryStartedAt = none := Option.isNone_iff_eq_none.mp hstarted
  have hpending : p.autoplayPending = true := by
    by_contra hunasked
    simp [AudioPlayer.transport, AudioPlayer.loadingTransport, hloading, hnone, hunasked,
      transportOffersPause] at hoffers
  simp only [AudioPlayer.flipAsk, hpending]
  exact
    { unasked := rfl
      unrecovered := hnone
      unwatched := rfl
      notPlaying := fun hplaying => PlayerStatus.noConfusion (hloading.symm.trans hplaying)
      notBuffering := fun hbuffering => PlayerStatus.noConfusion (hloading.symm.trans hbuffering) }

theorem quiet_toggle (haudio : p.audio = true) (hcurrent : p.current.isSome = true)
    (hoffers : transportOffersPause p.transport = true)
    (hkept : Defies p around .toggle = false) : Quiet (p.toggle around) := by
  rw [AudioPlayer.toggle, haudio, Option.isNone_eq_false_iff.mpr hcurrent, if_neg (by decide)]
  split
  · rename_i hloading
    simp only [Bool.and_eq_true, decide_eq_true_eq] at hloading
    exact quiet_flipAsk around hloading.1 hloading.2 hoffers
  · exact quiet_pause around haudio (hends_of_respected around hkept haudio)

/-! ### The elements that there are -/

theorem Quiet.resumeRebuild_or (hquiet : Quiet p) (rebuild : Rebuild)
    (fresh : Option QueueStreamManifest) :
    Kept p (p.resumeRebuild around rebuild fresh) ∨
      (p.resumeRebuild around rebuild fresh).audio = true := by
  rw [AudioPlayer.resumeRebuild.eq_def]
  split
  · exact Or.inl hquiet.refl
  split
  · exact Or.inl (hquiet.fail _)
  split
  · exact Or.inl (hquiet.fail _)
  simp only [AudioPlayer.loadRebuiltStream]
  split
  · exact Or.inl hquiet.refl
  · rcases AudioPlayer.audio_loadStream p around _ _ _ with hsame | hloaded
    · rw [hsame]
      exact Or.inl hquiet.refl
    · exact Or.inr hloaded

theorem respected_of_no_audio (haudio : p.audio = false) {action : Action}
    (hact : p.act around action = some q)
    (hrebuild : ∀ index fresh, action ≠ .rebuildAnswered index fresh) :
    Defies p around action = false := by
  cases action with
  | element event => simp [AudioPlayer.act, haudio] at hact
  | rebuildAnswered index fresh => exact absurd rfl (hrebuild index fresh)
  | probeAnswered index answer =>
      obtain ⟨probe, hprobe, -⟩ := Option.map_eq_some_iff.mp hact
      rw [Defies, hprobe, Option.any_some]
      cases probe with
      | mediaError target mediaError => simp [answerDefies, takeIsRecoverable, haudio]
      | failure target mediaError => rfl
      | stream number target state absoluteTime => rfl
  | networkReturns => simp [Defies, playSetsGoing, haudio]
  | deckFails number error => simp [Defies, fallBackPlays, haudio]
  | pause | toggle => simp [Defies, haudio]
  | seekToStreamTrack _ _ | nextStreamTrack _ | prevStreamTrack _ =>
      simp [Defies, changePlays, haudio]
  | load _ _ | loadUrl _ _ _ | loadStream _ _ _ | preload _ | play | seek _ | unload | destroy |
    stallTimerFires | progressIsChecked | playRejected _ => rfl

theorem asks_without_audio (haudio : p.audio = false) {action : Action}
    (hasks : asksForSound action = true) (hact : p.act around action = some q) :
    q = p ∨ q.audio = true := by
  cases action with
  | load info opts =>
      obtain rfl := Option.some.inj hact
      exact Or.inr (AudioPlayer.audio_load p around info opts)
  | loadUrl info url opts =>
      obtain rfl := Option.some.inj hact
      exact Or.inr (AudioPlayer.audio_loadUrl p around info url opts)
  | loadStream manifest startIndex opts =>
      obtain rfl := Option.some.inj hact
      exact AudioPlayer.audio_loadStream p around manifest startIndex opts
  | play =>
      obtain rfl := Option.some.inj hact
      simp [AudioPlayer.play, haudio]
  | toggle =>
      obtain rfl := Option.some.inj hact
      simp [AudioPlayer.toggle, haudio]
  | seekToStreamTrack _ _ | nextStreamTrack _ | prevStreamTrack _ =>
      obtain rfl := Option.some.inj hact
      exact Or.inl (if_pos (by simp [haudio]))
  | preload _ | pause | seek _ | networkReturns | unload | destroy | element _ | stallTimerFires |
    progressIsChecked | probeAnswered _ _ | rebuildAnswered _ _ | playRejected _ | deckFails _ _ =>
      exact absurd hasks Bool.false_ne_true

theorem quiet_of_no_audio (hsilent : p.audio = false → Quiet p) {action : Action}
    (hact : p.act around action = some q) (haudio : q.audio = false) : Quiet q := by
  cases hbefore : p.audio with
  | true =>
      obtain rfl : action = .destroy := by
        by_contra hdestroy
        have hafter := AudioPlayer.audio_act p around hbefore hdestroy hact
        exact absurd (hafter.symm.trans haudio) Bool.true_eq_false.mp
      obtain rfl := Option.some.inj hact
      exact (kept_destroy around p).quiet
  | false =>
      have hquiet := hsilent hbefore
      cases hasks : asksForSound action with
      | true =>
          rcases asks_without_audio around hbefore hasks hact with rfl | hafter
          · exact hquiet
          · exact absurd (hafter.symm.trans haudio) Bool.true_eq_false.mp
      | false =>
          by_cases hrebuild : ∃ index fresh, action = .rebuildAnswered index fresh
          · obtain ⟨index, fresh, rfl⟩ := hrebuild
            obtain ⟨rebuild, -, rfl⟩ := Option.map_eq_some_iff.mp hact
            have hsame := Kept.of_wish hquiet
              (q := { p with rebuilds := p.rebuilds.eraseIdx index }) rfl
            rcases hsame.quiet.resumeRebuild_or around rebuild fresh with hkept | hafter
            · exact hkept.quiet
            · exact absurd (hafter.symm.trans haudio) Bool.true_eq_false.mp
          · have hkept := respected_of_no_audio around hbefore hact
              fun index fresh hsame => hrebuild ⟨index, fresh, hsame⟩
            exact (hquiet.act around hasks hkept hact).quiet

/-! ### Runs -/

/-- While the hold stands the player is quiet and has told no element to play since,
and a player without elements is quiet. -/
structure Held (s : Listening) : Prop where
  stands : ∀ before, s.hold = some before → Quiet s.player ∧ asks s.player = before
  silent : s.player.audio = false → Quiet s.player

theorem Quiet.transport (hquiet : Quiet p) :
    p.transport ≠ .playing ∧ p.transport ≠ .loading ∧ p.transport ≠ .recovering := by
  have hloading : p.loadingTransport = .paused := by
    simp [AudioPlayer.loadingTransport, hquiet.unrecovered, hquiet.unasked]
  have hfailed : p.failedTransport ≠ .playing ∧ p.failedTransport ≠ .loading ∧
      p.failedTransport ≠ .recovering := by
    rw [AudioPlayer.failedTransport]
    split
    · decide
    · split <;> decide
  cases hstatus : p.status with
  | loading => simp [AudioPlayer.transport, hstatus, hloading]
  | error => simpa [AudioPlayer.transport, hstatus] using hfailed
  | playing => exact absurd hstatus hquiet.notPlaying
  | buffering => exact absurd hstatus hquiet.notBuffering
  | idle | ready | paused => simp [AudioPlayer.transport, hstatus]

theorem Held.holdStands {s : Listening} (hheld : Held s) : HoldStands s := by
  intro before hhold
  obtain ⟨hquiet, hasked⟩ := hheld.stands before hhold
  exact ⟨hasked, hquiet.transport⟩

theorem held_fresh : Held fresh where
  stands _ hhold := absurd hhold (Option.some_ne_none _).symm
  silent _ :=
    { unasked := rfl
      unrecovered := rfl
      unwatched := rfl
      notPlaying := PlayerStatus.noConfusion
      notBuffering := PlayerStatus.noConfusion }

theorem Held.stands_act {s : Listening} (hheld : Held s) {action : Action} {after : AudioPlayer}
    (hact : s.player.act around action = some after) (hstands : standsAfter s action = true)
    (hkept : Defies s.player around action = false) {before : Nat}
    (hhold : holdAfter s after action = some before) : Quiet after ∧ asks after = before := by
  have hsilent : asksForSound action = false → holdAfter s after action = s.hold →
      Quiet after ∧ asks after = before := by
    intro hsilent hsame
    obtain ⟨hquiet, hasked⟩ := hheld.stands before (hsame.symm.trans hhold)
    have hkeeps := hquiet.act around hsilent hkept hact
    exact ⟨hkeeps.quiet, hkeeps.asked.trans hasked⟩
  cases action with
  | pause =>
      obtain rfl := Option.some.inj hact
      refine ⟨?_, Option.some.inj hhold⟩
      cases haudio : s.player.audio with
      | true => exact quiet_pause around haudio (hends_of_respected around hkept haudio)
      | false =>
          rw [AudioPlayer.pause, haudio]
          exact hheld.silent haudio
  | toggle =>
      obtain rfl := Option.some.inj hact
      simp only [standsAfter, Bool.and_eq_true] at hstands
      obtain ⟨⟨haudio, hcurrent⟩, hoffers⟩ := hstands
      exact ⟨quiet_toggle around haudio hcurrent hoffers hkept, Option.some.inj hhold⟩
  | play => exact absurd hstands Bool.false_ne_true
  | load _ opts | loadUrl _ _ opts | loadStream _ _ opts =>
      simp only [standsAfter, Bool.and_eq_true, Bool.not_eq_true'] at hstands
      exact hsilent hstands.1 rfl
  | seekToStreamTrack _ autoplay | nextStreamTrack autoplay | prevStreamTrack autoplay =>
      simp only [standsAfter, Bool.and_eq_true, decide_eq_true_eq] at hstands
      exact hsilent (decide_eq_false hstands.1) rfl
  | preload _ | seek _ | networkReturns | unload | destroy | element _ | stallTimerFires |
    progressIsChecked | probeAnswered _ _ | rebuildAnswered _ _ | playRejected _ | deckFails _ _ =>
      exact hsilent rfl rfl

theorem Held.step {s t : Listening} {call : Surroundings × Action} (hheld : Held s)
    (hstep : act s call = some t) (hrespects : Respects s call) : Held t := by
  obtain ⟨after, hact, rfl⟩ := Option.map_eq_some_iff.mp hstep
  refine ⟨?_, quiet_of_no_audio call.1 hheld.silent hact⟩
  intro before hhold
  dsimp only at hhold
  split at hhold
  · rename_i hstands
    exact hheld.stands_act call.1 hact hstands (hrespects hstands) hhold
  · exact absurd hhold (Option.some_ne_none before).symm

/-- Once `pause` was called, or a press withdrew the ask for a loading take, no
element is told to play and the transport shows neither sound nor a wait for it
until the listener or an owner asks for sound, in every run whose calls respect
the hold. -/
theorem holdStands_of_respects {run : List ((Surroundings × Action) × Listening)}
    (hrun : system.IsRun fresh run) (hrespects : StepsMeet Respects fresh run) :
    ∀ s ∈ visited fresh run, HoldStands s := by
  have hheld := forall_visited_of_stepsMeet (M := system)
    (fun _ _ _ hheld hstep hmeets => Held.step hheld hstep hmeets) held_fresh hrun hrespects
  intro s hs
  exact (hheld s hs).holdStands

/-! ### Instances -/

/-- A stream of one take of three minutes. -/
def oneTakeStream : QueueStreamManifest where
  tracks := [⟨"take", "take.mp3", 0, 180, 180⟩]
  streamUrl := "/streams/one"
  windowed := false
  totalDuration := 180

/-- The element stands still at two seconds, with ten of them buffered. -/
def standing : Surroundings where
  element := ⟨2, 180, 10, true, false, false, true, none⟩
  standby := ⟨0, 0, 0, true, false, false, false, none⟩
  standbyHasFutureData := false
  deckSupported := false
  deck := ContinuousDeck.newDeck
  now := 1000
  networkFailureIsAnnounced := false
  takeAfter := fun _ => none

def sounding : Surroundings :=
  { standing with element := { standing.element with paused := false } }

/-- A stream plays, is paused, and its element then waits and stalls. -/
def pausedStreamWaits : List (Surroundings × Action) :=
  [(standing, .loadStream oneTakeStream 0 ⟨true, none⟩), (standing, .element .canplay),
    (sounding, .element .play), (sounding, .element .playing), (sounding, .pause),
    (standing, .element .pause), (standing, .element .waiting), (standing, .element .stalled),
    (standing, .networkReturns), (standing, .element .timeupdate), (standing, .element .canplay)]

instance (s : Listening) (call : Surroundings × Action) : Decidable (Respects s call) :=
  inferInstanceAs (Decidable (_ → _))

theorem paused_stream_stays :
    (lastOf fresh (follow act fresh pausedStreamWaits)).hold = some 1 ∧
      HoldStands (lastOf fresh (follow act fresh pausedStreamWaits)) :=
  ⟨by decide +kernel, holdStands_of_respects (isRun_follow _ _ _ _) (by decide +kernel) _
    (lastOf_mem_visited _ _)⟩

/-- A stream plays, is paused, and its element then reports an error. -/
def pausedStreamFails : List (Surroundings × Action) :=
  [(standing, .loadStream oneTakeStream 0 ⟨true, none⟩), (standing, .element .canplay),
    (sounding, .element .play), (sounding, .element .playing), (sounding, .pause),
    (standing, .element .pause), (standing, .element .error),
    (standing, .probeAnswered 0 ⟨true, 200⟩), (standing, .element .canplay)]

/-- The stream that the listener paused is told to play once its element has failed. -/
theorem paused_stream_plays :
    ¬ ∀ run, system.IsRun fresh run → ∀ s ∈ visited fresh run, HoldStands s := by
  intro hall
  have hlast := hall (follow act fresh pausedStreamFails) (isRun_follow _ _ _ _) _
    (lastOf_mem_visited _ _)
  have hasked := (hlast 1 (by decide +kernel)).1
  exact absurd hasked (by decide +kernel)

end Songmaker.Player.PauseHolds
