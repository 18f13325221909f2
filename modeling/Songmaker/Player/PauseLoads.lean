import Songmaker.Player.PauseKept

namespace Songmaker.Player.PauseHolds

open ContinuousDeck (DeckEntry)

variable {p q : AudioPlayer} (around : Surroundings) {info : PlaybackInfo} {url : String}
  {opts : LoadOptions}

theorem Quiet.pause (hquiet : Quiet p) (haudio : p.audio = true) : Kept p (p.pause around) where
  quiet := quiet_pause around haudio fun _ => ⟨hquiet.notPlaying, hquiet.notBuffering⟩
  asked := asks_pause around

theorem wish_continueCurrentTake (hunasked : opts.autoplay = false) :
    wish (p.continueCurrentTake around info url opts).1 = wish p := by
  rw [AudioPlayer.continueCurrentTake]
  dsimp only
  split
  · rfl
  · rw [hunasked, Bool.false_and, if_neg Bool.false_ne_true]
    dsimp only
    split
    · rfl
    · rfl

theorem kept_of_quietWish {status : PlayerStatus}
    (hwish : wish q = ⟨status, false, none, none, asks p⟩) (hplaying : status ≠ .playing)
    (hbuffering : status ≠ .buffering) : Kept p q :=
  ⟨quiet_of_wish hwish hplaying hbuffering, congrArg Wish.asked hwish⟩

theorem loadsUnasked_of_quietWish {asked : Nat}
    (hwish : wish p = ⟨.loading, false, none, none, asked⟩) : p.loadsUnasked = true :=
  (quiet_of_wish hwish PlayerStatus.noConfusion PlayerStatus.noConfusion).loadsUnasked
    (congrArg Wish.status hwish)

theorem wish_loadSource_loading {asked : Nat}
    (hwish : wish p = ⟨.loading, false, none, none, asked⟩) (url : String) :
    wish (p.loadSource around url) = ⟨.loading, false, none, none, asked⟩ :=
  (wish_loadSource around (loadsUnasked_of_quietWish hwish) url).trans hwish

theorem wish_attachTake_loading {asked : Nat}
    (hwish : wish p = ⟨.loading, false, none, none, asked⟩) (info : PlaybackInfo) (url : String)
    (source : AudioPlayer.Source) :
    wish (p.attachTake around info url source) = ⟨.loading, false, none, none, asked⟩ :=
  (wish_attachTake around (loadsUnasked_of_quietWish hwish) info url source).trans hwish

theorem asks_clearStandby (p : AudioPlayer) : asks p.clearStandby = asks p :=
  congrArg Wish.asked (wish_clearStandby p)

theorem wish_cleared_reset (p : AudioPlayer) :
    wish p.clearStandby.resetTakeState = ⟨p.status, false, none, none, asks p⟩ := by
  have hstatus : p.clearStandby.status = p.status := congrArg Wish.status (wish_clearStandby p)
  rw [wish_resetTakeState, asks_clearStandby, hstatus]

theorem wish_waitForTheNetworkFromTheTap (hunasked : p.autoplayPending = false) :
    p.waitForTheNetworkFromTheTap around = p := by
  rw [AudioPlayer.waitForTheNetworkFromTheTap, hunasked, Bool.false_and,
    if_neg Bool.false_ne_true]

theorem wish_startTake (hunasked : opts.autoplay = false) (source : AudioPlayer.Source) :
    wish (p.startTake around info url opts source) = ⟨.loading, false, none, none, asks p⟩ := by
  rw [AudioPlayer.startTake]
  dsimp only
  rw [wish_waitForTheNetworkFromTheTap around hunasked]
  refine wish_attachTake_loading around ?_ info url source
  rw [wish_pauseElement]
  refine (congrArg (fun w => { w with status := .loading, autoplayPending := opts.autoplay })
    (wish_cleared_reset p)).trans ?_
  rw [hunasked]

theorem kept_startTake (hunasked : opts.autoplay = false) (source : AudioPlayer.Source) :
    Kept p (p.startTake around info url opts source) :=
  kept_of_quietWish (wish_startTake around hunasked source) PlayerStatus.noConfusion
    PlayerStatus.noConfusion

theorem wish_promote (hunasked : opts.autoplay = false) :
    wish (p.promote around info url opts) = ⟨.ready, false, none, none, asks p⟩ := by
  have hready : wish (AudioPlayer.tell
      { p.resetTakeState with
        audio := true
        standby := p.audio
        standbyUrl := none
        pauseRequestedByApp := false
        pendingRecoverySeek := opts.startAt
        currentTime := around.standby.currentTime
        duration := around.standby.duration
        status := .ready
        currentUrl := some url } .promote) = ⟨.ready, false, none, none, asks p⟩ :=
    (wish_tell _ Command.noConfusion).trans
      (congrArg (fun w => { w with status := .ready }) (wish_resetTakeState p))
  have hplaced := (wish_applyPendingRecoverySeek _ { around with element := around.standby }).trans
    hready
  rw [AudioPlayer.promote]
  dsimp only
  rw [hunasked, if_neg Bool.false_ne_true, wish_setCurrent]
  split
  · exact (wish_tell _ Command.noConfusion).trans hplaced
  · exact hplaced

theorem kept_promote (hunasked : opts.autoplay = false) :
    Kept p (p.promote around info url opts) :=
  kept_of_quietWish (wish_promote around hunasked) PlayerStatus.noConfusion
    PlayerStatus.noConfusion

theorem Quiet.continueCurrentTake (hquiet : Quiet p) (hunasked : opts.autoplay = false) :
    Kept p (p.continueCurrentTake around info url opts).1 :=
  .of_wish hquiet (wish_continueCurrentTake around hunasked)

theorem Quiet.loadUrl (hquiet : Quiet p) (hunasked : opts.autoplay = false) :
    Kept p (p.loadUrl around info url opts) := by
  have hleft : Kept p (p.continueCurrentTake around info url opts).1 :=
    hquiet.continueCurrentTake around hunasked
  rw [AudioPlayer.loadUrl]
  dsimp only
  split
  · exact hleft
  · split
    · exact hleft.trans (kept_promote around hunasked)
    · exact hleft.trans (kept_startTake around hunasked _)

theorem Quiet.pauseWished (hquiet : Quiet p) (hwish : wish q = wish p) (haudio : q.audio = true) :
    Kept p (q.pause around) := by
  have hmoved := Kept.of_wish hquiet hwish
  exact hmoved.trans (hmoved.quiet.pause around haudio)

theorem Quiet.seekWithinDeck (hquiet : Quiet p) (hunasked : opts.autoplay = false)
    {session : DeckSession} (hmoved : p.seekWithinDeck around session info url opts = some q) :
    Kept p q := by
  rw [AudioPlayer.seekWithinDeck] at hmoved
  split at hmoved
  · contradiction
  · rename_i haudio
    simp only [Bool.not_eq_true', Bool.not_eq_false] at haudio
    obtain ⟨entry, -, rfl⟩ := Option.map_eq_some_iff.mp hmoved
    dsimp only
    rw [hunasked, if_neg Bool.false_ne_true]
    split
    · exact hquiet.pauseWished _ rfl haudio
    · exact hquiet.pauseWished _ (wish_tell _ Command.noConfusion) haudio

theorem Quiet.loadOnTheDeck (hquiet : Quiet p) (hunasked : opts.autoplay = false) :
    Kept p (p.loadOnTheDeck around info url opts) := by
  rw [AudioPlayer.loadOnTheDeck]
  split
  · exact hquiet.loadUrl around hunasked
  · exact kept_startTake around hunasked _

theorem Quiet.load (hquiet : Quiet p) (hunasked : opts.autoplay = false) :
    Kept p (p.load around info opts) := by
  have hleft : Kept p (p.continueCurrentTake around info (audioUrlOf info) opts).1 :=
    hquiet.continueCurrentTake around hunasked
  rw [AudioPlayer.load]
  dsimp only
  split
  · exact hleft
  · split
    · rename_i moved hmoved
      obtain ⟨session, -, hmoved⟩ := Option.bind_eq_some_iff.mp hmoved
      exact hleft.trans (hleft.quiet.seekWithinDeck around hunasked hmoved)
    · exact hleft.trans (hleft.quiet.loadOnTheDeck around hunasked)

theorem wish_streamLoading (engine : QueueStreamEngine) {autoplay : Bool}
    (hunasked : autoplay = false) :
    wish (AudioPlayer.pauseElement
      { AudioPlayer.resetTakeState
          { AudioPlayer.clearStandby { p with streamEngine := engine } with audio := true } with
        autoplayPending := autoplay, status := .loading } around) =
      ⟨.loading, false, none, none, asks p⟩ := by
  have hcleared := asks_clearStandby { p with streamEngine := engine }
  have hreset := wish_resetTakeState
    { AudioPlayer.clearStandby { p with streamEngine := engine } with audio := true }
  rw [wish_pauseElement, hunasked]
  refine (congrArg (fun w => { w with status := .loading, autoplayPending := false })
    hreset).trans ?_
  exact congrArg (Wish.mk .loading false none none) hcleared

theorem Quiet.loadStream (hquiet : Quiet p) {manifest : QueueStreamManifest} {startIndex : Int}
    {streamOpts : StreamOptions} (hunasked : streamOpts.autoplay = false) :
    Kept p (p.loadStream around manifest startIndex streamOpts) := by
  rw [AudioPlayer.loadStream]
  dsimp only
  split
  · exact hquiet.refl
  · rename_i streamState hstate
    refine kept_of_quietWish (wish_loadSource_loading around ?_ _) PlayerStatus.noConfusion
      PlayerStatus.noConfusion
    exact wish_streamLoading around _ hunasked

/-- What runs of a deck or a stream falls back to asks for no sound when nobody wanted it. -/
theorem Quiet.fallBackToTwoDecks (hquiet : Quiet p) (hplays : fallBackPlays p around = false) :
    Kept p (p.fallBackToTwoDecks around) := by
  rw [AudioPlayer.fallBackToTwoDecks]
  split
  · exact hquiet.refl
  · rename_i current hcurrent
    split
    · exact hquiet.refl
    · rename_i haudio
      simp only [Bool.not_eq_true', Bool.not_eq_false] at haudio
      have hpaused : around.element.paused = true := by
        simpa [fallBackPlays, haudio, hcurrent] using hplays
      refine hquiet.loadUrl around ?_
      rw [hquiet.unasked, hpaused]
      rfl

theorem kept_forgetTake (hwish : wish q = ⟨p.status, false, none, none, asks p⟩) :
    Kept p q.forgetTake :=
  kept_of_quietWish (congrArg (fun w => { w with status := .idle }) hwish)
    PlayerStatus.noConfusion PlayerStatus.noConfusion

theorem wish_reset_cleared (p : AudioPlayer) :
    wish p.resetTakeState.clearStandby = ⟨p.status, false, none, none, asks p⟩ :=
  (wish_clearStandby _).trans (wish_resetTakeState p)

theorem wish_emptied (p : AudioPlayer) :
    wish ((p.pauseElement around).tell (.source "")) = wish p :=
  (wish_tell _ Command.noConfusion).trans (wish_pauseElement p around)

theorem kept_unload (p : AudioPlayer) : Kept p (p.unload around) := by
  have hcleared := wish_reset_cleared p
  simp only [AudioPlayer.unload]
  split
  · exact kept_forgetTake ((wish_emptied around _).trans hcleared)
  · exact kept_forgetTake hcleared

theorem kept_destroy (p : AudioPlayer) : Kept p (p.destroy around) := by
  have hcleared : wish { p.resetTakeState.clearStandby with standby := false } =
      ⟨p.status, false, none, none, asks p⟩ := wish_reset_cleared p
  simp only [AudioPlayer.destroy]
  split
  · exact kept_forgetTake ((wish_emptied around _).trans hcleared)
  · exact kept_forgetTake hcleared

end Songmaker.Player.PauseHolds
