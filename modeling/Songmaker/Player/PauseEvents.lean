import Songmaker.Player.PauseLoads

namespace Songmaker.Player.PauseHolds

open ContinuousDeck (DeckEntry)

variable {p q : AudioPlayer} (around : Surroundings)

/-! ### Changes to another track of the stream -/

theorem active_seekToTrack {engine : QueueStreamEngine} {index : Int}
    (hsome : (engine.seekToTrack index).2.isSome) : (engine.seekToTrack index).1.active := by
  rw [QueueStreamEngine.seekToTrack] at hsome ⊢
  cases hsession : engine.session with
  | none => simp [hsession] at hsome
  | some session =>
      simp only [hsession] at hsome ⊢
      split
      · rename_i hnegative
        simp [hnegative] at hsome
      · rename_i hindex
        rw [if_neg hindex] at hsome
        split
        · rename_i hnone
          simp [hnone] at hsome
        · rfl

theorem active_nextTrack {engine : QueueStreamEngine} (hsome : engine.nextTrack.2.isSome) :
    engine.nextTrack.1.active := by
  rw [QueueStreamEngine.nextTrack] at hsome ⊢
  cases hsession : engine.session with
  | none => simp [hsession] at hsome
  | some session =>
      simp only [hsession] at hsome ⊢
      split
      · rename_i hnext
        rw [if_pos hnext] at hsome
        exact active_seekToTrack hsome
      · rename_i hlast
        simp [hlast] at hsome

theorem active_prevTrack {engine : QueueStreamEngine} (hsome : engine.prevTrack.2.isSome) :
    engine.prevTrack.1.active := by
  rw [QueueStreamEngine.prevTrack] at hsome ⊢
  cases hsession : engine.session with
  | none => simp [hsession] at hsome
  | some session =>
      simp only [hsession] at hsome ⊢
      split
      · rename_i hprev
        rw [if_pos hprev] at hsome
        exact active_seekToTrack hsome
      · rename_i hfirst
        simp [hfirst] at hsome

theorem Quiet.changeStreamTrack (hquiet : Quiet p)
    {change : QueueStreamEngine → QueueStreamEngine × Option StreamTrackState}
    (hactive : (change p.streamEngine).2.isSome → (change p.streamEngine).1.active)
    {autoplay : Option Bool}
    (hplays : autoplay.getD (!around.element.paused) = true → changePlays p around change = false) :
    Kept p (p.changeStreamTrack around change autoplay) := by
  rw [AudioPlayer.changeStreamTrack]
  split
  · exact hquiet.refl
  · rename_i hplayer
    simp only [Bool.or_eq_true, Bool.not_eq_true', not_or, Bool.not_eq_false] at hplayer
    split
    · exact hquiet.refl
    · rename_i streamState hstate
      have hsome : (change p.streamEngine).2.isSome = true := by rw [hstate]; rfl
      refine hquiet.enterStreamTrack around streamState (hactive hsome) fun hautoplay => ?_
      have hneither := hplays hautoplay
      simp only [changePlays, hplayer.1, hplayer.2, hsome, Bool.true_and, Bool.or_eq_false_iff,
        Bool.not_eq_false', Option.isNone_eq_false_iff] at hneither
      exact hneither

/-! ### Where the clock stands -/

theorem Quiet.unwatch (hquiet : Quiet p) : Kept p p.clearStallRecoveryTimer where
  quiet := { hquiet with unwatched := rfl }
  asked := rfl

theorem Kept.playsOn (hkept : Kept p q) :
    Kept p (if q.status = .buffering then { q with status := .playing } else q) := by
  rw [if_neg hkept.quiet.notBuffering]
  exact hkept

theorem Quiet.updateStreamPosition (hquiet : Quiet p) (absoluteTime : ℚ) :
    Kept p (p.updateStreamPosition absoluteTime) := by
  rw [AudioPlayer.updateStreamPosition]
  split
  · exact hquiet.refl
  · rename_i engine streamState hstate
    have hplaced : ∀ q : AudioPlayer, wish q = wish p →
        Kept p (AudioPlayer.clearStallRecoveryTimer
          { q with
            duration := streamState.duration
            currentTime := streamState.currentTime
            lastObservedTime := absoluteTime }) := by
      intro q hwish
      have hsame := Kept.of_wish hquiet (q := { q with
        duration := streamState.duration
        currentTime := streamState.currentTime
        lastObservedTime := absoluteTime }) hwish
      exact hsame.trans hsame.quiet.unwatch
    refine (hplaced _ ?_).playsOn
    split
    · rfl
    · rfl

theorem Quiet.applyPendingStreamSeek (hquiet : Quiet p) :
    Kept p (p.applyPendingStreamSeek around) := by
  rw [AudioPlayer.applyPendingStreamSeek]
  split
  · exact hquiet.refl
  · rename_i engine seekTime hseek
    have htold : Kept p (AudioPlayer.tell
        { p with streamEngine := engine, lastObservedTime := seekTime } (.seek seekTime)) :=
      .of_wish hquiet (wish_tell _ Command.noConfusion)
    exact htold.trans (htold.quiet.updateStreamPosition _)

theorem Quiet.applyPendingRecoverySeek (hquiet : Quiet p) :
    Kept p (p.applyPendingRecoverySeek around) :=
  .of_wish hquiet (wish_applyPendingRecoverySeek p around)

/-! ### Element events -/

theorem Quiet.onLoadedmetadata (hquiet : Quiet p) : Kept p (p.onLoadedmetadata around) := by
  rw [AudioPlayer.onLoadedmetadata]
  split
  · have hsame := Kept.of_wish hquiet
      (q := { p with duration := p.streamEngine.activeDuration }) rfl
    exact hsame.trans (hsame.quiet.applyPendingStreamSeek around)
  · have hsame := Kept.of_wish hquiet
      (q := { p with duration := (p.deckTakeDuration around).getD around.element.duration }) rfl
    exact hsame.trans (hsame.quiet.applyPendingRecoverySeek around)

theorem Quiet.becomeReady (hquiet : Quiet p) (hpaused : around.element.paused = true) :
    Kept p (p.becomeReady around) := by
  have hcleared := hquiet.unwatch
  have hplaced : Kept p (if p.clearStallRecoveryTimer.streamEngine.active then
      p.clearStallRecoveryTimer.applyPendingStreamSeek around
    else p.clearStallRecoveryTimer.applyPendingRecoverySeek around) := by
    split
    · exact hcleared.trans (hcleared.quiet.applyPendingStreamSeek around)
    · exact hcleared.trans (hcleared.quiet.applyPendingRecoverySeek around)
  simp only [AudioPlayer.becomeReady]
  rw [if_neg (by simp [hplaced.quiet.unasked]), if_pos hpaused]
  exact ⟨{ hplaced.quiet with
    notPlaying := PlayerStatus.noConfusion
    notBuffering := PlayerStatus.noConfusion }, hplaced.asked⟩

theorem Quiet.onCanplay (hquiet : Quiet p) (hkept : eventDefies p around .canplay = false) :
    Kept p (p.onCanplay around) := by
  simp only [eventDefies, Bool.and_eq_false_iff, Bool.or_eq_false_iff, decide_eq_false_iff_not,
    not_not, Bool.not_eq_false'] at hkept
  rw [AudioPlayer.onCanplay]
  split
  · rename_i hgaveUp
    have hpaused : around.element.paused = true := by simpa [hgaveUp] using hkept
    have hsame := Kept.of_wish hquiet (q := { p with failure := none }) rfl
    exact hsame.trans (hsame.quiet.becomeReady around hpaused)
  · split
    · exact hquiet.refl
    · rename_i herror
      have hpaused : around.element.paused = true := by simpa [herror] using hkept
      exact hquiet.becomeReady around hpaused

theorem Quiet.observe (hquiet : Quiet p) {position : ℚ}
    (hkept : 1 / 20 < |position - p.lastObservedTime| →
      (p.gaveUpOnStall && !around.element.paused) = false) :
    Kept p (p.observe around position) := by
  have hplaced : ∀ q, Kept p q → Kept p { q with currentTime := position } :=
    fun q hq => hq.wished rfl
  rw [AudioPlayer.observe]
  refine hplaced _ ?_
  split
  · rename_i hmoved
    have hobserved : Kept p (AudioPlayer.clearStallRecoveryTimer
        { p with lastObservedTime := position }) := by
      have hsame := Kept.of_wish hquiet (q := { p with lastObservedTime := position }) rfl
      exact hsame.trans hsame.quiet.unwatch
    simp only
    split
    · rename_i hgone
      exact absurd hgone (ne_true_of_eq_false (hkept hmoved))
    · exact hobserved.playsOn
  · exact hquiet.refl

theorem observes_followDeckPlayhead (session : DeckSession) :
    (p.followDeckPlayhead around session).1.gaveUpOnStall = p.gaveUpOnStall ∧
      (p.followDeckPlayhead around session).1.lastObservedTime = p.lastObservedTime := by
  rw [AudioPlayer.followDeckPlayhead]
  split
  · exact ⟨rfl, rfl⟩
  · dsimp only
    split
    · exact ⟨rfl, rfl⟩
    · rw [AudioPlayer.enterDeckEntry]
      dsimp only
      split
      · exact ⟨rfl, rfl⟩
      · exact ⟨rfl, rfl⟩

theorem followDeckPlayhead_position {session : DeckSession}
    (hsession : p.deckSession = some session) :
    (p.followDeckPlayhead around session).2 = observedPosition p around := by
  rw [AudioPlayer.followDeckPlayhead, observedPosition, hsession]
  cases hentry : around.deckEntry with
  | none => rfl
  | some entry => rfl

theorem Quiet.onTimeupdate (hquiet : Quiet p)
    (hkept : eventDefies p around .timeupdate = false) : Kept p (p.onTimeupdate around) := by
  rw [AudioPlayer.onTimeupdate]
  split
  · exact hquiet.updateStreamPosition _
  · rename_i hactive
    split
    · exact hquiet.refl
    · rename_i hpending
      have hstill : 1 / 20 < |observedPosition p around - p.lastObservedTime| →
          (p.gaveUpOnStall && !around.element.paused) = false := by
        intro hmoved
        have hnone : p.pendingRecoverySeek.isNone = true := by simpa using hpending
        simpa only [eventDefies, eq_false_of_ne_true hactive, hnone, hmoved, Bool.not_false,
          Bool.true_and, decide_true, Bool.and_true] using hkept
      split
      · rename_i hdeck
        have hposition : observedPosition p around = around.element.currentTime := by
          rw [observedPosition, hdeck]
        rw [hposition] at hstill
        exact hquiet.observe around hstill
      · rename_i session hsession
        have hfollowed := Kept.of_wish hquiet (wish_followDeckPlayhead p around session)
        have hobserves := observes_followDeckPlayhead around (p := p) session
        rw [← hobserves.1, ← hobserves.2, ← followDeckPlayhead_position around hsession] at hstill
        exact hfollowed.trans (hfollowed.quiet.observe around hstill)

theorem Quiet.onPlay (hquiet : Quiet p) (hkept : eventDefies p around .play = false) :
    Kept p (p.onPlay around) := by
  have herror : p.status = .error := by simpa [eventDefies] using hkept
  rw [AudioPlayer.onPlay, if_pos herror]
  refine .of_wish hquiet ((wish_startProgressWatchdog _ around).trans ?_)
  rw [wish, wish, hquiet.unasked, herror]
  rfl

theorem gaveUpOnStall_startProgressWatchdog (p : AudioPlayer) :
    (p.startProgressWatchdog around).gaveUpOnStall = p.gaveUpOnStall := by
  rw [AudioPlayer.startProgressWatchdog]
  split
  · rfl
  · rfl

theorem Quiet.onPlaying (hquiet : Quiet p) (hkept : eventDefies p around .playing = false) :
    Kept p (p.onPlaying around) := by
  have hcleared := hquiet.unwatch
  have hwatched := hcleared.wished (wish_startProgressWatchdog p.clearStallRecoveryTimer around)
  have hgaveUp : (p.clearStallRecoveryTimer.startProgressWatchdog around).gaveUpOnStall =
      p.gaveUpOnStall := gaveUpOnStall_startProgressWatchdog around _
  have hstatus : (p.clearStallRecoveryTimer.startProgressWatchdog around).status = p.status :=
    congrArg Wish.status (wish_startProgressWatchdog p.clearStallRecoveryTimer around)
  simp only [eventDefies, Bool.or_eq_false_iff, decide_eq_false_iff_not] at hkept
  have hstays : (if (p.clearStallRecoveryTimer.startProgressWatchdog around).gaveUpOnStall then
      (p.clearStallRecoveryTimer.startProgressWatchdog around).resumeAfterGivingUp around
    else p.clearStallRecoveryTimer.startProgressWatchdog around) =
      p.clearStallRecoveryTimer.startProgressWatchdog around := by
    rw [hgaveUp, hkept.1, if_neg Bool.false_ne_true]
  simp only [AudioPlayer.onPlaying]
  rw [hstays, if_neg]
  · exact hwatched
  · simp [hstatus, hkept.2, hquiet.notBuffering]

theorem Kept.stops (hkept : Kept p q) :
    Kept p (if q.status = .loading || q.status = .error || around.element.ended then q
      else { q with status := .paused }) := by
  split
  · exact hkept
  · exact hkept.trans (hkept.quiet.settle PlayerStatus.noConfusion PlayerStatus.noConfusion)

theorem Quiet.onPause (hquiet : Quiet p) : Kept p (p.onPause around) := by
  have htold : ∀ q : AudioPlayer, wish q = wish p → Kept p (AudioPlayer.stopProgressWatchdog
      (AudioPlayer.clearStallRecoveryTimer { q with pauseRequestedByApp := false })) := by
    intro q hwish
    have hsame := Kept.of_wish hquiet (q := { q with pauseRequestedByApp := false }) hwish
    have hcleared := hsame.trans hsame.quiet.unwatch
    exact hcleared.wished (wish_stopProgressWatchdog _)
  have hwithdrawn : wish (if p.gaveUpOnStall && !p.pauseRequestedByApp then
      { p with autoplayPending := false } else p) = wish p := by
    split
    · rw [wish, wish, hquiet.unasked]
      rfl
    · rfl
  rw [AudioPlayer.onPause]
  exact (htold _ hwithdrawn).stops around

theorem Quiet.waitForBytes (hquiet : Quiet p) : p.waitForBytes around = p := by
  rw [AudioPlayer.waitForBytes, if_neg]
  simp [hquiet.notPlaying, hquiet.notBuffering]

theorem Quiet.onWaiting (hquiet : Quiet p) : Kept p (p.onWaiting around) := by
  rw [AudioPlayer.onWaiting, hquiet.waitForBytes]
  split
  · split
    · exact .of_wish hquiet (wish_tell _ Command.noConfusion)
    · exact hquiet.refl
  · exact hquiet.refl

theorem Quiet.onEnded (hquiet : Quiet p) (hkept : eventDefies p around .ended = false) :
    Kept p (p.onEnded around) := by
  have hcleared := hquiet.unwatch
  have hstopped : Kept p p.clearStallRecoveryTimer.stopProgressWatchdog :=
    hcleared.wished (wish_stopProgressWatchdog _)
  simp only [AudioPlayer.onEnded]
  split
  · exact hstopped.trans (hstopped.quiet.changeStreamTrack around active_nextTrack fun _ => hkept)
  · have hidle : Kept p { p.clearStallRecoveryTimer.stopProgressWatchdog with status := .idle } :=
      hstopped.trans (hstopped.quiet.settle PlayerStatus.noConfusion PlayerStatus.noConfusion)
    exact hidle.wished rfl

theorem recoverPlayback_of_not_recoverable (hnot : takeIsRecoverable p around = false) :
    p.recoverPlayback around .mediaError = (p, false) := by
  rw [AudioPlayer.recoverPlayback]
  split
  · rfl
  · rename_i hready
    simp only [Bool.or_eq_true, not_or, Bool.not_eq_true, Bool.not_eq_false',
      Option.isNone_eq_false_iff] at hready
    obtain ⟨⟨⟨⟨hactive, hcurrent⟩, haudio⟩, hurl⟩, hended⟩ := hready
    have hfailed : p.failedPartWayThrough around = false := by
      simpa [takeIsRecoverable, hactive, hcurrent, haudio, hurl] using hnot
    rw [hfailed]
    rfl

theorem Quiet.recoverOrFail (hquiet : Quiet p) (hnot : takeIsRecoverable p around = false)
    (mediaError : Option MediaErrorCode) : Kept p (p.recoverOrFail around mediaError) := by
  rw [AudioPlayer.recoverOrFail, recoverPlayback_of_not_recoverable around hnot]
  exact hquiet.handleMediaError around mediaError

theorem Quiet.recoverFromMediaError (hquiet : Quiet p)
    (hnot : (takeIsRecoverable p around && around.networkFailureIsAnnounced) = false)
    (mediaError : Option MediaErrorCode) : Kept p (p.recoverFromMediaError around mediaError) := by
  rw [AudioPlayer.recoverFromMediaError]
  split
  · exact .of_wish hquiet (wish_send p _)
  · rename_i hprobes
    refine hquiet.recoverOrFail around ?_ mediaError
    cases hannounced : around.networkFailureIsAnnounced with
    | true => simpa [hannounced] using hnot
    | false =>
        cases hrecoverable : takeIsRecoverable p around with
        | false => rfl
        | true =>
            simp only [takeIsRecoverable, Bool.and_eq_true] at hrecoverable
            simp [hrecoverable, hannounced] at hprobes

theorem Quiet.onError (hquiet : Quiet p) (hkept : eventDefies p around .error = false) :
    Kept p (p.onError around) := by
  rw [AudioPlayer.onError]
  split
  · exact hquiet.refl
  · rename_i hplays
    simp only [Bool.or_eq_true, not_or, Bool.not_eq_true, Option.isNone_eq_false_iff] at hplays
    rw [eventDefies, hplays.1, hplays.2] at hkept
    split
    · rename_i hdeck
      rw [if_pos hdeck] at hkept
      exact hquiet.fallBackToTwoDecks around hkept
    · rename_i hdeck
      rw [if_neg hdeck] at hkept
      split
      · rename_i hactive
        rw [if_pos hactive] at hkept
        exact hquiet.recoverStream around hkept
      · rename_i hactive
        rw [if_neg hactive] at hkept
        exact hquiet.recoverFromMediaError around hkept _

theorem Quiet.hear (hquiet : Quiet p) {event : ElementEvent}
    (hkept : eventDefies p around event = false) : Kept p (p.hear around event) := by
  cases event with
  | loadstart =>
      have hloading : Kept p { p with status := .loading } :=
        hquiet.settle PlayerStatus.noConfusion PlayerStatus.noConfusion
      exact hloading.wished rfl
  | loadedmetadata => exact hquiet.onLoadedmetadata around
  | canplay => exact hquiet.onCanplay around hkept
  | timeupdate => exact hquiet.onTimeupdate around hkept
  | play => exact hquiet.onPlay around hkept
  | playing => exact hquiet.onPlaying around hkept
  | pause => exact hquiet.onPause around
  | waiting => exact hquiet.onWaiting around
  | stalled =>
      rw [AudioPlayer.hear, AudioPlayer.onStalled, hquiet.waitForBytes]
      exact hquiet.refl
  | ended => exact hquiet.onEnded around hkept
  | error => exact hquiet.onError around hkept

/-! ### Timers, answers and deck failures -/

theorem Kept.playsSteadily (hkept : Kept p q) :
    Kept p (if q.steadyChecks < steadyChecksBeforeRecoveryEnds then q
      else { q with recoveryStartedAt := none, frozenClockNudged := false }) := by
  split
  · exact hkept
  · exact ⟨{ hkept.quiet with unrecovered := rfl }, hkept.asked⟩

theorem Quiet.checkProgress (hquiet : Quiet p) : Kept p (p.checkProgress around) := by
  have htracked : ∀ (q : AudioPlayer) (steadily : Bool), wish q = wish p →
      Kept p (q.trackSteadyPlayback steadily) := by
    intro q steadily hwish
    have hcounted := Kept.of_wish hquiet (q := { q with
      steadyChecks := if steadily then q.steadyChecks + 1 else 0 }) hwish
    exact hcounted.playsSteadily
  have hstopped := htracked { p with lastCheckedTime := around.element.currentTime }
    (decide (around.element.currentTime ≠ p.lastCheckedTime) && p.status = .playing &&
      !around.element.seeking) rfl
  simp only [AudioPlayer.checkProgress]
  rw [if_pos]
  · exact hstopped.wished rfl
  · simp only [Bool.or_eq_true, decide_eq_true_eq]
    exact Or.inl (Or.inl (Or.inr hstopped.quiet.notPlaying))

theorem Quiet.handlePlayRejection (hquiet : Quiet p) (name : AudioPlayer.RejectionName) :
    Kept p (p.handlePlayRejection around name) := by
  cases name with
  | abortError => exact hquiet.refl
  | notAllowedError =>
      exact ⟨{ hquiet with
        unasked := rfl
        notPlaying := PlayerStatus.noConfusion
        notBuffering := PlayerStatus.noConfusion }, rfl⟩
  | other =>
      have hwithdrawn : Kept p { p with autoplayPending := false } :=
        ⟨{ hquiet with unasked := rfl }, rfl⟩
      exact hwithdrawn.trans (hwithdrawn.quiet.handleMediaError around _)

theorem Quiet.reloadStream (hquiet : Quiet p) (hloading : p.status = .loading)
    (state : StreamFallbackState) (absoluteTime : ℚ) :
    Kept p (p.reloadStream around state absoluteTime) := by
  have hsame := Kept.of_wish hquiet
    (q := { p with streamEngine := p.streamEngine.resumeAt absoluteTime }) rfl
  exact hsame.wished (wish_reloadSource around (hsame.quiet.loadsUnasked hloading) _)

theorem Quiet.refused_or (hquiet : Quiet p) (answer : ProbeAnswer) :
    (∃ q, p.answeredARefusal around answer = (q, true) ∧ Kept p q) ∨
      (p.answeredARefusal around answer = (p, false) ∧ answer.status ≠ 401 ∧
        answer.status ≠ 404) := by
  rw [AudioPlayer.answeredARefusal]
  split
  · exact Or.inl ⟨_, rfl, hquiet.fail _⟩
  · rename_i hsignedIn
    split
    · exact Or.inl ⟨_, rfl, hquiet.fail _⟩
    · rename_i hfound
      exact Or.inr ⟨rfl, hsignedIn, hfound⟩

theorem Quiet.resumeMediaError (hquiet : Quiet p) {answer : ProbeAnswer}
    {target : Option PlaybackInfo} {mediaError : Option MediaErrorCode}
    (hkept : answerDefies p around answer (.mediaError target mediaError) = false) :
    Kept p (AudioPlayer.resume p around answer (.mediaError target mediaError)) := by
  rw [AudioPlayer.resume]
  split
  · exact hquiet.refl
  · rename_i hgoesOn
    rcases hquiet.refused_or around answer with ⟨refused, hrefused, hkeeps⟩ | ⟨hnone, hanswer⟩
    · rw [hrefused]
      exact hkeeps
    · rw [hnone]
      refine hquiet.recoverOrFail around ?_ mediaError
      simp only [Bool.or_eq_true, decide_eq_true_eq, not_or, not_not] at hgoesOn
      simpa [answerDefies, hgoesOn, hanswer] using hkept

theorem Quiet.resumeFailure (hquiet : Quiet p) (answer : ProbeAnswer) (target : PlaybackInfo)
    (mediaError : Option MediaErrorCode) :
    Kept p (AudioPlayer.resume p around answer (.failure target mediaError)) := by
  have hunknown : Kept p (p.failForAnUnknownReason around) := hquiet.fail _
  rw [AudioPlayer.resume.eq_def]
  dsimp only
  split
  · exact hquiet.refl
  · rcases hquiet.refused_or around answer with ⟨refused, hrefused, hkeeps⟩ | ⟨hnone, -⟩
    · rw [hrefused]
      exact hkeeps
    · rw [hnone]
      dsimp only
      rw [if_neg Bool.false_ne_true]
      split
      · split
        · exact hunknown
        · exact .of_wish hquiet rfl
      · exact hunknown

theorem Quiet.resumeStream (hquiet : Quiet p) (answer : ProbeAnswer) (number : Nat)
    (target : Option PlaybackInfo) (state : StreamFallbackState) (absoluteTime : ℚ) :
    Kept p (AudioPlayer.resume p around answer (.stream number target state absoluteTime)) := by
  have hanswered := Kept.of_wish hquiet (q := { p with streamProbe := none }) rfl
  rw [AudioPlayer.resume]
  split
  · exact hquiet.refl
  · dsimp only
    split
    · exact hanswered
    · rename_i hgoesOn
      simp only [AudioPlayer.streamRecoveryInterrupted, Bool.or_eq_true, decide_eq_true_eq, not_or,
        not_not] at hgoesOn
      split
      · exact hanswered.wished rfl
      · rcases hanswered.quiet.refused_or around answer with
          ⟨refused, hrefused, hkeeps⟩ | ⟨hnone, -⟩
        · rw [hrefused]
          exact hanswered.trans hkeeps
        · rw [hnone]
          exact hanswered.trans (hanswered.quiet.reloadStream around hgoesOn.2 state absoluteTime)

theorem Quiet.resume (hquiet : Quiet p) {answer : ProbeAnswer} {probe : Probe}
    (hkept : answerDefies p around answer probe = false) :
    Kept p (AudioPlayer.resume p around answer probe) := by
  cases probe with
  | mediaError target mediaError => exact hquiet.resumeMediaError around hkept
  | failure target mediaError => exact hquiet.resumeFailure around answer target mediaError
  | stream number target state absoluteTime =>
      exact hquiet.resumeStream around answer number target state absoluteTime

theorem Quiet.resumeRebuild (hquiet : Quiet p) {rebuild : Rebuild}
    {fresh : Option QueueStreamManifest} (hkept : rebuildDefies p fresh rebuild = false) :
    Kept p (p.resumeRebuild around rebuild fresh) := by
  rw [AudioPlayer.resumeRebuild.eq_def]
  split
  · exact hquiet.refl
  · rename_i hgoesOn
    split
    · exact hquiet.fail _
    · rename_i manifest
      split
      · exact hquiet.fail _
      · rename_i htracks
        simp [rebuildDefies, hgoesOn, htracks] at hkept

theorem Quiet.skipTake (hquiet : Quiet p) (session : DeckSession) (dropped : PlaybackInfo) :
    Kept p (p.skipTake around session dropped) :=
  .of_wish hquiet (wish_skipTake p around session dropped)

theorem Quiet.deckFailed (hquiet : Quiet p) {number : Nat} {error : AudioPlayer.DeckError}
    (hkept : Defies p around (.deckFails number error) = false) :
    Kept p (p.deckFailed around number error) := by
  rw [AudioPlayer.deckFailed]
  split
  · exact hquiet.refl
  · rename_i session hsession
    split
    · exact hquiet.refl
    · rename_i hnumber
      rw [Defies, hsession] at hkept
      have hcurrents :
          decide (Option.map DeckSession.number (some session) = some number) = true := by
        simpa using hnumber
      rw [hcurrents, Bool.true_and] at hkept
      cases error with
      | takeNotAppended take reason =>
          dsimp only
          split
          · split
            · exact hquiet.skipTake around session take
            · exact hquiet.refl
          · rename_i hcurrent
            rw [deckErrorIsTheCurrentTakes, decide_eq_true (not_not.mp hcurrent),
              Bool.true_and] at hkept
            exact hquiet.fallBackToTwoDecks around hkept
      | other =>
          rw [deckErrorIsTheCurrentTakes, Bool.true_and] at hkept
          exact hquiet.fallBackToTwoDecks around hkept

theorem Quiet.resumeAfterNetworkReturn (hquiet : Quiet p)
    (hkept : Defies p around .networkReturns = false) :
    Kept p (p.resumeAfterNetworkReturn around) := by
  rw [AudioPlayer.resumeAfterNetworkReturn]
  split
  · rename_i hfailure
    rw [Defies, decide_eq_true hfailure, Bool.true_and] at hkept
    exact hquiet.play around hkept
  · split
    · rw [AudioPlayer.retryAfterWaitingForNetwork]
      split
      · rename_i hpending
        exact absurd hpending (ne_true_of_eq_false hquiet.unasked)
      · exact .of_wish hquiet rfl
    · rw [hquiet.unwatched, Option.isSome_none, if_neg Bool.false_ne_true]
      exact .of_wish hquiet (wish_resumeDeckDownloadOf p)

end Songmaker.Player.PauseHolds
