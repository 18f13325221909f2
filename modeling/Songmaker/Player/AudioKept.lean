import Songmaker.Player.AudioPlayer

namespace Songmaker.Player.AudioPlayer

open ContinuousDeck (DeckEntry)

section

variable (p : AudioPlayer) (around : Surroundings)

/-! ### The element, its source and its deck -/

@[simp] theorem audio_tell (command : Command) : (p.tell command).audio = p.audio := rfl

@[simp] theorem audio_send (probe : Probe) : (p.send probe).audio = p.audio := rfl

@[simp] theorem audio_setCurrent (current : Option PlaybackInfo) :
    (p.setCurrent current).audio = p.audio := rfl

@[simp] theorem audio_clearStallRecoveryTimer : p.clearStallRecoveryTimer.audio = p.audio := rfl

@[simp] theorem audio_stopProgressWatchdog : p.stopProgressWatchdog.audio = p.audio := rfl

@[simp] theorem audio_pauseElement : (p.pauseElement around).audio = p.audio := rfl

@[simp] theorem audio_scheduleStallRecovery : (p.scheduleStallRecovery around).audio = p.audio := by
  rw [scheduleStallRecovery]
  split <;> rfl

@[simp] theorem audio_startProgressWatchdog : (p.startProgressWatchdog around).audio = p.audio := by
  rw [startProgressWatchdog]
  split <;> rfl

@[simp] theorem audio_loadSource (url : String) : (p.loadSource around url).audio = p.audio := by
  simp [loadSource]

@[simp] theorem audio_leaveDeck : p.leaveDeck.audio = p.audio := by
  rw [leaveDeck]
  split <;> rfl

@[simp] theorem audio_reloadSource (url : String) :
    (p.reloadSource around url).audio = p.audio := by
  simp [reloadSource]

@[simp] theorem audio_seekElement (seconds : ℚ) : (p.seekElement seconds).audio = p.audio := by
  rw [seekElement]
  split <;> rfl

@[simp] theorem audio_applyPendingRecoverySeek :
    (p.applyPendingRecoverySeek around).audio = p.audio := by
  rw [applyPendingRecoverySeek]
  split
  · rfl
  · dsimp only
    split <;> simp

@[simp] theorem audio_resumeDeckDownloadOf : p.resumeDeckDownloadOf.audio = p.audio := by
  rw [resumeDeckDownloadOf]
  split <;> rfl

@[simp] theorem audio_resetTakeState : p.resetTakeState.audio = p.audio := by
  simp [resetTakeState]

@[simp] theorem audio_clearStandby : p.clearStandby.audio = p.audio := by
  simp only [clearStandby]
  split <;> rfl

@[simp] theorem audio_attachSource (info : PlaybackInfo) (url : String) (source : Source) :
    (p.attachSource around info url source).audio = p.audio := by
  cases source with
  | deck => rfl
  | url => exact audio_loadSource p around url

@[simp] theorem audio_attachTake (info : PlaybackInfo) (url : String) (source : Source) :
    (p.attachTake around info url source).audio = p.audio := by
  simp [attachTake]

@[simp] theorem audio_appendAhead (session : DeckSession) (info : PlaybackInfo) :
    (p.appendAhead session info).audio = p.audio := by
  rw [appendAhead]
  split <;> rfl

/-! ### Failures and recovery -/

@[simp] theorem audio_fail (failure : Failure) : (p.fail failure).audio = p.audio := rfl

@[simp] theorem audio_giveUpOnStall : (p.giveUpOnStall around).audio = p.audio := rfl

@[simp] theorem audio_resumeAfterGivingUp : (p.resumeAfterGivingUp around).audio = p.audio := by
  simp [resumeAfterGivingUp]

@[simp] theorem audio_handleMediaError (mediaError : Option MediaErrorCode) :
    (p.handleMediaError around mediaError).audio = p.audio := by
  rw [handleMediaError]
  split <;> rfl

@[simp] theorem audio_answeredARefusal (answer : ProbeAnswer) :
    (p.answeredARefusal around answer).1.audio = p.audio := by
  rw [answeredARefusal]
  split
  · rfl
  · split <;> rfl

@[simp] theorem audio_keepWaiting : (p.keepWaiting around).audio = p.audio := by
  simp [keepWaiting]

@[simp] theorem audio_reloadAt (reachedTime : ℚ) :
    (p.reloadAt around reachedTime).audio = p.audio := by
  rw [reloadAt]
  split
  · rfl
  · split
    · rfl
    · simp

@[simp] theorem audio_reopenDeckAtThePlayhead :
    (p.reopenDeckAtThePlayhead around).audio = p.audio := by
  rw [reopenDeckAtThePlayhead]
  split
  · simp
  · rfl

@[simp] theorem audio_unfreezeDeckClock : (p.unfreezeDeckClock around).audio = p.audio := by
  rw [unfreezeDeckClock]
  split <;> simp

@[simp] theorem audio_recoverOnTheDeck (session : DeckSession) (reason : RecoveryReason) :
    (p.recoverOnTheDeck around session reason).1.audio = p.audio := by
  rw [recoverOnTheDeck]
  split <;> simp [resumeDeckDownload]

@[simp] theorem audio_startRecovery : (p.startRecovery around).audio = p.audio := rfl

@[simp] theorem audio_recoverPlayback (reason : RecoveryReason) :
    (p.recoverPlayback around reason).1.audio = p.audio := by
  rw [recoverPlayback]
  split
  · rfl
  split
  · rfl
  dsimp only
  split
  · rfl
  · simp
  · split <;> simp

@[simp] theorem audio_recoverStream (reason : RecoveryReason) :
    (p.recoverStream around reason).audio = p.audio := by
  rw [recoverStream]
  split
  · rfl
  split
  · rfl
  dsimp only
  split <;> simp

@[simp] theorem audio_recoverFromStall (reason : StallReason) :
    (p.recoverFromStall around reason).audio = p.audio := by
  rw [recoverFromStall]
  split
  · simp
  · dsimp only
    split <;> simp

@[simp] theorem audio_recoverOrFail (mediaError : Option MediaErrorCode) :
    (p.recoverOrFail around mediaError).audio = p.audio := by
  rw [recoverOrFail]
  dsimp only
  split <;> simp

@[simp] theorem audio_recoverFromMediaError (mediaError : Option MediaErrorCode) :
    (p.recoverFromMediaError around mediaError).audio = p.audio := by
  rw [recoverFromMediaError]
  split <;> simp

/-! ### Play, pause and toggle -/

@[simp] theorem audio_recoverOnPlay (reason : RecoveryReason) :
    (p.recoverOnPlay around reason).audio = p.audio := by
  rw [recoverOnPlay]
  dsimp only
  split
  · simp [forgetRecovery]
  split
  · rfl
  split
  · simp [forgetRecovery]
  · split <;> simp [forgetRecovery]

@[simp] theorem audio_play : (p.play around).audio = p.audio := by
  rw [play]
  split
  · rfl
  split
  · simp
  split
  · simp
  split
  · simp
  · dsimp only
    split <;> simp

@[simp] theorem audio_pause : (p.pause around).audio = p.audio := by
  rw [pause]
  split
  · rfl
  · split <;> rfl

@[simp] theorem audio_toggle : (p.toggle around).audio = p.audio := by
  rw [toggle]
  split
  · rfl
  split
  · rw [flipAsk]
    dsimp only
    split <;> simp
  split <;> simp

@[simp] theorem audio_resumeAfterNetworkReturn :
    (p.resumeAfterNetworkReturn around).audio = p.audio := by
  rw [resumeAfterNetworkReturn]
  split
  · simp
  split
  · rw [retryAfterWaitingForNetwork]
    split <;> simp
  split <;> simp

/-! ### Loads -/

@[simp] theorem audio_startTake (info : PlaybackInfo) (url : String) (opts : LoadOptions)
    (source : Source) : (p.startTake around info url opts source).audio = true := by
  simp [startTake]

@[simp] theorem audio_promote (info : PlaybackInfo) (url : String) (opts : LoadOptions) :
    (p.promote around info url opts).audio = true := by
  rw [promote]
  dsimp only
  split
  · split <;> simp
  · split <;> simp

theorem audio_continueCurrentTake (info : PlaybackInfo) (url : String) (opts : LoadOptions) :
    (p.continueCurrentTake around info url opts).1.audio = p.audio := by
  rw [continueCurrentTake]
  dsimp only
  split
  · rfl
  · split
    · split <;> simp
    · split <;> simp

theorem audio_of_continues {info : PlaybackInfo} {url : String} {opts : LoadOptions}
    (hcontinues : (p.continueCurrentTake around info url opts).2 = true) : p.audio = true := by
  rw [continueCurrentTake] at hcontinues
  dsimp only at hcontinues
  split at hcontinues
  · contradiction
  · rename_i hgoesOn
    simp only [Bool.or_eq_true, not_or, Bool.not_eq_true', Bool.not_eq_false] at hgoesOn
    exact hgoesOn.1.1.2

@[simp] theorem audio_loadUrl (info : PlaybackInfo) (url : String) (opts : LoadOptions) :
    (p.loadUrl around info url opts).audio = true := by
  rw [loadUrl]
  dsimp only
  split
  · rename_i hcontinues
    rw [audio_continueCurrentTake, audio_of_continues p around hcontinues]
  · split <;> simp

theorem audio_seekWithinDeck {session : DeckSession} {info : PlaybackInfo} {url : String}
    {opts : LoadOptions} {q : AudioPlayer}
    (hmoved : p.seekWithinDeck around session info url opts = some q) : q.audio = true := by
  rw [seekWithinDeck] at hmoved
  split at hmoved
  · contradiction
  · rename_i haudio
    simp only [Bool.not_eq_true', Bool.not_eq_false] at haudio
    obtain ⟨entry, -, rfl⟩ := Option.map_eq_some_iff.mp hmoved
    dsimp only
    split
    · split <;> simp [haudio]
    · split <;> simp [haudio]

theorem audio_load (info : PlaybackInfo) (opts : LoadOptions) :
    (p.load around info opts).audio = true := by
  rw [load]
  dsimp only
  split
  · rename_i hcontinues
    rw [audio_continueCurrentTake, audio_of_continues p around hcontinues]
  · split
    · rename_i moved hmoved
      obtain ⟨session, -, hmoved⟩ := Option.bind_eq_some_iff.mp hmoved
      exact audio_seekWithinDeck _ around hmoved
    · rw [loadOnTheDeck]
      split <;> simp

theorem audio_loadStream (manifest : QueueStreamManifest) (startIndex : Int)
    (opts : StreamOptions) :
    p.loadStream around manifest startIndex opts = p ∨
      (p.loadStream around manifest startIndex opts).audio = true := by
  rw [loadStream]
  dsimp only
  split
  · exact Or.inl rfl
  · right
    simp

@[simp] theorem audio_preload (info : Option PlaybackInfo) : (p.preload info).audio = p.audio := by
  rw [preload.eq_def]
  split
  · simp
  · rfl
  · simp
  · dsimp only
    split <;> rfl

@[simp] theorem audio_unload : (p.unload around).audio = p.audio := by
  simp only [unload]
  split <;> simp [forgetTake]

theorem audio_fallBackToTwoDecks (haudio : p.audio = true) :
    (p.fallBackToTwoDecks around).audio = true := by
  rw [fallBackToTwoDecks]
  split
  · exact haudio
  · split
    · exact haudio
    · simp

/-! ### Seeks, track changes and element events -/

@[simp] theorem audio_seek (seconds : ℚ) : (p.seek around seconds).audio = p.audio := by
  rw [seek]
  split
  · rfl
  split
  · split <;> rfl
  split
  · rfl
  · split <;> rfl

@[simp] theorem audio_changeStreamTrack
    (change : QueueStreamEngine → QueueStreamEngine × Option StreamTrackState)
    (autoplay : Option Bool) : (p.changeStreamTrack around change autoplay).audio = p.audio := by
  rw [changeStreamTrack]
  split
  · rfl
  split
  · rfl
  · rw [enterStreamTrack]
    dsimp only
    split <;> simp

@[simp] theorem audio_updateStreamPosition (absoluteTime : ℚ) :
    (p.updateStreamPosition absoluteTime).audio = p.audio := by
  rw [updateStreamPosition]
  split
  · rfl
  · dsimp only
    split
    · split <;> simp
    · split <;> simp

@[simp] theorem audio_applyPendingStreamSeek :
    (p.applyPendingStreamSeek around).audio = p.audio := by
  rw [applyPendingStreamSeek]
  split
  · rfl
  · simp

@[simp] theorem audio_onLoadedmetadata : (p.onLoadedmetadata around).audio = p.audio := by
  rw [onLoadedmetadata]
  split <;> simp

@[simp] theorem audio_playTheAskedForSound :
    (p.playTheAskedForSound around).audio = p.audio := by
  rw [playTheAskedForSound]
  split <;> rfl

@[simp] theorem audio_becomeReady : (p.becomeReady around).audio = p.audio := by
  simp only [becomeReady]
  split
  · split <;> simp
  · split <;> simp

@[simp] theorem audio_onCanplay : (p.onCanplay around).audio = p.audio := by
  rw [onCanplay]
  split
  · simp
  · split <;> simp

@[simp] theorem audio_observe (position : ℚ) : (p.observe around position).audio = p.audio := by
  rw [observe]
  dsimp only
  split
  · split
    · simp
    · split <;> rfl
  · rfl

@[simp] theorem audio_followDeckPlayhead (session : DeckSession) :
    (p.followDeckPlayhead around session).1.audio = p.audio := by
  rw [followDeckPlayhead]
  split
  · rfl
  · dsimp only
    split
    · rfl
    · rw [enterDeckEntry]
      dsimp only
      split <;> rfl

@[simp] theorem audio_onTimeupdate : (p.onTimeupdate around).audio = p.audio := by
  rw [onTimeupdate]
  split
  · simp
  split
  · rfl
  split
  · simp
  · dsimp only
    rw [audio_observe, audio_followDeckPlayhead]

@[simp] theorem audio_onPlaying : (p.onPlaying around).audio = p.audio := by
  simp only [onPlaying]
  split
  · split <;> simp
  · split <;> simp

@[simp] theorem audio_onPause : (p.onPause around).audio = p.audio := by
  simp only [onPause]
  split
  · split <;> rfl
  · split <;> rfl

@[simp] theorem audio_waitForBytes : (p.waitForBytes around).audio = p.audio := by
  rw [waitForBytes]
  split <;> simp

@[simp] theorem audio_onWaiting : (p.onWaiting around).audio = p.audio := by
  rw [onWaiting]
  split
  · split <;> simp
  · simp

@[simp] theorem audio_onEnded : (p.onEnded around).audio = p.audio := by
  simp only [onEnded]
  split
  · rw [nextStreamTrack, audio_changeStreamTrack]
    rfl
  · rfl

theorem audio_onError (haudio : p.audio = true) : (p.onError around).audio = true := by
  rw [onError]
  split
  · exact haudio
  split
  · exact audio_fallBackToTwoDecks p around haudio
  split
  · rw [audio_recoverStream, haudio]
  · rw [audio_recoverFromMediaError, haudio]

theorem audio_hear (haudio : p.audio = true) (event : ElementEvent) :
    (p.hear around event).audio = true := by
  cases event with
  | error => exact audio_onError p around haudio
  | loadstart => exact haudio
  | play => simpa [hear, onPlay] using haudio
  | stalled => simpa [hear, onStalled] using haudio
  | loadedmetadata | canplay | timeupdate | playing | pause | waiting | ended =>
      simpa [hear] using haudio

/-! ### Timers, answers and deck failures -/

@[simp] theorem audio_stallTimerFires (bufferedAtStall : ℚ) :
    (p.stallTimerFires around bufferedAtStall).audio = p.audio := by
  simp only [stallTimerFires]
  split
  · rfl
  · split <;> simp

@[simp] theorem audio_trackSteadyPlayback (steadily : Bool) :
    (p.trackSteadyPlayback steadily).audio = p.audio := by
  simp only [trackSteadyPlayback]
  split
  · split <;> rfl
  · split <;> rfl

@[simp] theorem audio_checkProgress : (p.checkProgress around).audio = p.audio := by
  simp only [checkProgress]
  split
  · simp
  · split <;> simp

@[simp] theorem audio_handlePlayRejection (name : RejectionName) :
    (p.handlePlayRejection around name).audio = p.audio := by
  cases name with
  | abortError => rfl
  | notAllowedError => rfl
  | other => simp [handlePlayRejection]

theorem audio_resume (answer : ProbeAnswer) (probe : Probe) :
    (AudioPlayer.resume p around answer probe).audio = p.audio := by
  cases probe with
  | mediaError target mediaError =>
      rw [resume]
      split
      · rfl
      · dsimp only
        split <;> simp
  | failure target mediaError =>
      rw [resume.eq_def]
      dsimp only
      split
      · rfl
      split
      · simp
      split
      · split <;> simp [failForAnUnknownReason]
      · simp [failForAnUnknownReason]
  | stream number target state absoluteTime =>
      rw [resume]
      split
      · rfl
      dsimp only
      split
      · rfl
      split
      · rfl
      split <;> simp [reloadStream]

theorem audio_resumeRebuild (haudio : p.audio = true) (rebuild : Rebuild)
    (fresh : Option QueueStreamManifest) : (p.resumeRebuild around rebuild fresh).audio = true := by
  rw [resumeRebuild.eq_def]
  split
  · exact haudio
  split
  · exact haudio
  split
  · exact haudio
  simp only [loadRebuiltStream]
  split
  · exact haudio
  · rcases audio_loadStream p around _ _ _ with hsame | hloaded
    · rw [hsame, haudio]
    · exact hloaded

theorem audio_deckFailed (haudio : p.audio = true) (number : Nat) (error : DeckError) :
    (p.deckFailed around number error).audio = true := by
  rw [deckFailed]
  split
  · exact haudio
  split
  · exact haudio
  cases error with
  | takeNotAppended take reason =>
      dsimp only
      split
      · split
        · rw [skipTake]
          split
          · exact haudio
          · split
            · exact haudio
            · rw [audio_appendAhead, haudio]
        · exact haudio
      · exact audio_fallBackToTwoDecks p around haudio
  | other => exact audio_fallBackToTwoDecks p around haudio

theorem audio_act (haudio : p.audio = true) {action : Action} (hdestroy : action ≠ .destroy)
    {q : AudioPlayer} (hact : p.act around action = some q) : q.audio = true := by
  cases action with
  | load info opts =>
      obtain rfl := Option.some.inj hact
      exact audio_load p around info opts
  | loadUrl info url opts =>
      obtain rfl := Option.some.inj hact
      exact audio_loadUrl p around info url opts
  | loadStream manifest startIndex opts =>
      obtain rfl := Option.some.inj hact
      rcases audio_loadStream p around manifest startIndex opts with hsame | hloaded
      · rw [hsame, haudio]
      · exact hloaded
  | destroy => exact absurd rfl hdestroy
  | element event =>
      obtain rfl : p.hear around event = q := by simpa [act, haudio] using hact
      exact audio_hear p around haudio event
  | stallTimerFires =>
      obtain ⟨bufferedAtStall, -, rfl⟩ := Option.map_eq_some_iff.mp hact
      rw [audio_stallTimerFires, haudio]
  | progressIsChecked =>
      rw [act] at hact
      split at hact
      · obtain rfl := Option.some.inj hact
        rw [audio_checkProgress, haudio]
      · contradiction
  | probeAnswered index answer =>
      obtain ⟨probe, -, rfl⟩ := Option.map_eq_some_iff.mp hact
      exact (audio_resume _ around answer probe).trans haudio
  | rebuildAnswered index fresh =>
      obtain ⟨rebuild, -, rfl⟩ := Option.map_eq_some_iff.mp hact
      refine audio_resumeRebuild _ around ?_ rebuild fresh
      exact haudio
  | deckFails number error =>
      obtain rfl := Option.some.inj hact
      exact audio_deckFailed p around haudio number error
  | preload _ | play | pause | toggle | seek _ | networkReturns | unload | playRejected _ =>
      obtain rfl := Option.some.inj hact
      simpa using haudio
  | seekToStreamTrack _ _ | nextStreamTrack _ | prevStreamTrack _ =>
      obtain rfl := Option.some.inj hact
      exact (audio_changeStreamTrack p around _ _).trans haudio

end

end Songmaker.Player.AudioPlayer
