import Songmaker.Player.AudioPlayer

namespace Songmaker.Player.PauseHolds

open Songmaker.Foundation
open Songmaker.Foundation.TransitionSystem

/-- How often the elements were told to play. -/
def asks (p : AudioPlayer) : Nat :=
  p.commands.count .play

/-- `hold` is set while the listener's pause or withdrawn ask stands, to the number
of times that the elements had been told to play. -/
structure Listening where
  player : AudioPlayer
  hold : Option Nat

/-- Whether a pause or a withdrawn ask stands after the call. -/
def standsAfter (s : Listening) : Action → Bool
  | .pause => true
  | .toggle => s.player.audio && s.player.current.isSome && transportOffersPause s.player.transport
  | .play => false
  | .load _ opts | .loadUrl _ _ opts => !opts.autoplay && s.hold.isSome
  | .loadStream _ _ opts => !opts.autoplay && s.hold.isSome
  | .seekToStreamTrack _ autoplay | .nextStreamTrack autoplay | .prevStreamTrack autoplay =>
      autoplay ≠ some true && s.hold.isSome
  | _ => s.hold.isSome

/-- A press or a pause makes a new hold, and any other call keeps the one there is. -/
def holdAfter (s : Listening) (after : AudioPlayer) : Action → Option Nat
  | .pause | .toggle => some (asks after)
  | _ => s.hold

def act (s : Listening) (call : Surroundings × Action) : Option Listening :=
  (s.player.act call.1 call.2).map fun after =>
    ⟨after, if standsAfter s call.2 then holdAfter s after call.2 else none⟩

def fresh : Listening := ⟨.new, none⟩

def system : TransitionSystem Listening (Surroundings × Action) :=
  ofAct (· = fresh) act

/-- While the hold stands no element has been told to play, and the transport shows
neither sound nor a wait for it. -/
def HoldStands (s : Listening) : Prop :=
  ∀ before, s.hold = some before →
    asks s.player = before ∧ s.player.transport ≠ .playing ∧
      s.player.transport ≠ .loading ∧ s.player.transport ≠ .recovering

/-! ### The calls that a hold does not withstand -/

section

variable (p : AudioPlayer) (around : Surroundings)

/-- `play` fetches the take again instead of resuming what the element holds. -/
def playReloads : Bool :=
  p.status = .error || p.pausedOnAFailedLoad around || (p.status ≠ .loading && p.clockStoodStill)

/-- `recoverStream` goes ahead. -/
def streamIsRecoverable : Bool :=
  p.streamProbe.isNone &&
    (p.streamEngine.fallbackState p.currentTime around.element.currentTime).isSome

/-- A play that fetches the take again finds what it needs. -/
def reloadSetsGoing : Bool :=
  if p.streamEngine.active then streamIsRecoverable p around
  else p.deckSession.isSome || p.currentUrl.isSome

/-- `play` sets the take going, or what brings it back. -/
def playSetsGoing : Bool :=
  p.audio && p.current.isSome && (!playReloads p around || reloadSetsGoing p around)

/-- `recoverPlayback` goes ahead after a media error. -/
def takeIsRecoverable : Bool :=
  !p.streamEngine.active && p.current.isSome && p.audio && p.currentUrl.isSome &&
    p.failedPartWayThrough around

/-- A change to another track of the stream plays it. -/
def changePlays (change : QueueStreamEngine → QueueStreamEngine × Option StreamTrackState) :
    Bool :=
  p.audio && p.streamEngine.active && (change p.streamEngine).2.isSome &&
    (!playReloads p around || p.streamProbe.isNone)

/-- The current take is given to the two decks, which play it. -/
def fallBackPlays : Bool :=
  p.audio && p.current.isSome && !around.element.paused

/-- Where `timeupdate` puts the clock within the current take. -/
def observedPosition : ℚ :=
  match p.deckSession, around.deckEntry with
  | some _, some entry => around.element.currentTime - entry.startOffset
  | _, _ => around.element.currentTime

/-- The states in which the event would end a pause. -/
def eventDefies : ElementEvent → Bool
  | .canplay => (p.gaveUpOnStall || p.status ≠ .error) && !around.element.paused
  | .timeupdate => !p.streamEngine.active && p.pendingRecoverySeek.isNone && p.gaveUpOnStall &&
      !around.element.paused && 1 / 20 < |observedPosition p around - p.lastObservedTime|
  | .play => p.status ≠ .error
  | .playing => p.gaveUpOnStall || p.status = .loading
  | .ended => changePlays p around QueueStreamEngine.nextTrack
  | .error => p.currentUrl.isSome && !p.gaveUpOnStall &&
      if p.deckSession.isSome then fallBackPlays p around
      else if p.streamEngine.active then streamIsRecoverable p around
      else takeIsRecoverable p around && around.networkFailureIsAnnounced
  | _ => false

/-- The states in which the answer would end a pause. -/
def answerDefies (answer : ProbeAnswer) : Probe → Bool
  | .mediaError target _ => p.current = target && p.status ≠ .paused && p.status ≠ .error &&
      answer.status ≠ 401 && answer.status ≠ 404 && takeIsRecoverable p around
  | _ => false

/-- The states in which the fresh manifest would end a pause. -/
def rebuildDefies (fresh : Option QueueStreamManifest) (rebuild : Rebuild) : Bool :=
  !p.streamRecoveryInterrupted rebuild.target &&
    (fresh.any fun manifest => !manifest.tracks.isEmpty)

/-- The error keeps the current take from playing. -/
def deckErrorIsTheCurrentTakes : AudioPlayer.DeckError → Bool
  | .takeNotAppended take _ => p.current = some take
  | .other => true

/-- The call does not respect a hold that stands after it. -/
def Defies : Action → Bool
  | .pause | .toggle =>
      p.audio && around.element.ended && (p.status = .playing || p.status = .buffering)
  | .seekToStreamTrack index autoplay => autoplay.isNone && !around.element.paused &&
      changePlays p around (·.seekToTrack index)
  | .nextStreamTrack autoplay => autoplay.isNone && !around.element.paused &&
      changePlays p around QueueStreamEngine.nextTrack
  | .prevStreamTrack autoplay => autoplay.isNone && !around.element.paused &&
      changePlays p around QueueStreamEngine.prevTrack
  | .networkReturns => p.failure = some .unreachable && playSetsGoing p around
  | .element event => eventDefies p around event
  | .probeAnswered index answer => (p.probes[index]?).any (answerDefies p around answer)
  | .rebuildAnswered index fresh => (p.rebuilds[index]?).any (rebuildDefies p fresh)
  | .deckFails number error =>
      (p.deckSession.map DeckSession.number = some number) &&
        deckErrorIsTheCurrentTakes p error && fallBackPlays p around
  | _ => false

end

/-- No hold stands after the call, or the call respects it. -/
def Respects (s : Listening) (call : Surroundings × Action) : Prop :=
  standsAfter s call.2 = true → Defies s.player call.1 call.2 = false

/-! ### What the calls leave of the wish for sound -/

/-- What decides the transport, and how often the elements were told to play. -/
@[ext] structure Wish where
  status : PlayerStatus
  autoplayPending : Bool
  recoveryStartedAt : Option Nat
  stallRecoveryTimer : Option ℚ
  asked : Nat

/-- What the listener has asked for, as far as the player's state shows it. -/
def wish (p : AudioPlayer) : Wish where
  status := p.status
  autoplayPending := p.autoplayPending
  recoveryStartedAt := p.recoveryStartedAt
  stallRecoveryTimer := p.stallRecoveryTimer
  asked := asks p

/-- Nobody asks for sound, and nothing is under way that would bring it. -/
structure Quiet (p : AudioPlayer) : Prop where
  unasked : p.autoplayPending = false
  unrecovered : p.recoveryStartedAt = none
  unwatched : p.stallRecoveryTimer = none
  notPlaying : p.status ≠ .playing
  notBuffering : p.status ≠ .buffering

/-- The call left the player quiet and told no element to play. -/
structure Kept (p q : AudioPlayer) : Prop where
  quiet : Quiet q
  asked : asks q = asks p

variable {p q r : AudioPlayer}

theorem Kept.of_wish (hquiet : Quiet p) (hwish : wish q = wish p) : Kept p q where
  quiet :=
    { unasked := (congrArg Wish.autoplayPending hwish).trans hquiet.unasked
      unrecovered := (congrArg Wish.recoveryStartedAt hwish).trans hquiet.unrecovered
      unwatched := (congrArg Wish.stallRecoveryTimer hwish).trans hquiet.unwatched
      notPlaying := fun hstatus => hquiet.notPlaying
        ((congrArg Wish.status hwish).symm.trans hstatus)
      notBuffering := fun hstatus => hquiet.notBuffering
        ((congrArg Wish.status hwish).symm.trans hstatus) }
  asked := congrArg Wish.asked hwish

theorem quiet_of_wish {status : PlayerStatus} {asked : Nat}
    (hwish : wish q = ⟨status, false, none, none, asked⟩) (hplaying : status ≠ .playing)
    (hbuffering : status ≠ .buffering) : Quiet q where
  unasked := congrArg Wish.autoplayPending hwish
  unrecovered := congrArg Wish.recoveryStartedAt hwish
  unwatched := congrArg Wish.stallRecoveryTimer hwish
  notPlaying := fun hstatus => hplaying ((congrArg Wish.status hwish).symm.trans hstatus)
  notBuffering := fun hstatus => hbuffering ((congrArg Wish.status hwish).symm.trans hstatus)

theorem Quiet.refl (hquiet : Quiet p) : Kept p p := ⟨hquiet, rfl⟩

theorem Kept.trans (hpq : Kept p q) (hqr : Kept q r) : Kept p r :=
  ⟨hqr.quiet, hqr.asked.trans hpq.asked⟩

theorem Kept.wished (hkept : Kept p q) (hwish : wish r = wish q) : Kept p r :=
  hkept.trans (.of_wish hkept.quiet hwish)

section

variable (p) (around : Surroundings)

theorem asks_tell {command : Command} (hcommand : command ≠ .play) :
    asks (p.tell command) = asks p :=
  List.count_cons_of_ne hcommand

theorem wish_tell {command : Command} (hcommand : command ≠ .play) :
    wish (p.tell command) = wish p := by
  rw [wish, asks_tell p hcommand]
  rfl

@[simp] theorem wish_pauseElement : wish (p.pauseElement around) = wish p :=
  wish_tell _ Command.noConfusion

@[simp] theorem wish_leaveDeck : wish p.leaveDeck = wish p := by
  rw [AudioPlayer.leaveDeck]
  split
  · rfl
  · exact wish_tell _ Command.noConfusion

@[simp] theorem wish_setCurrent (current : Option PlaybackInfo) :
    wish (p.setCurrent current) = wish p := rfl

@[simp] theorem wish_send (probe : Probe) : wish (p.send probe) = wish p := rfl

@[simp] theorem wish_stopProgressWatchdog : wish p.stopProgressWatchdog = wish p := rfl

@[simp] theorem wish_startProgressWatchdog : wish (p.startProgressWatchdog around) = wish p := by
  rw [AudioPlayer.startProgressWatchdog]
  split <;> rfl

@[simp] theorem wish_seekElement (seconds : ℚ) : wish (p.seekElement seconds) = wish p := by
  rw [AudioPlayer.seekElement]
  split
  · exact wish_tell _ Command.noConfusion
  · exact wish_tell _ Command.noConfusion

@[simp] theorem wish_applyPendingRecoverySeek :
    wish (p.applyPendingRecoverySeek around) = wish p := by
  rw [AudioPlayer.applyPendingRecoverySeek]
  split
  · rfl
  · rename_i pending hpending
    simp only
    split
    · exact wish_seekElement p _
    · rfl

@[simp] theorem wish_resumeDeckDownload (session : DeckSession) :
    wish (p.resumeDeckDownload session) = wish p :=
  wish_tell _ Command.noConfusion

@[simp] theorem wish_resumeDeckDownloadOf : wish p.resumeDeckDownloadOf = wish p := by
  rw [AudioPlayer.resumeDeckDownloadOf]
  split
  · exact wish_resumeDeckDownload p _
  · rfl

@[simp] theorem wish_clearStandby : wish p.clearStandby = wish p := by
  simp only [AudioPlayer.clearStandby]
  split
  · exact wish_tell _ Command.noConfusion
  · rfl

@[simp] theorem wish_attachDeck (info : PlaybackInfo) : wish (p.attachDeck info) = wish p := by
  rw [AudioPlayer.attachDeck]
  exact (wish_tell _ Command.noConfusion).trans (wish_tell _ Command.noConfusion)

@[simp] theorem wish_appendAhead (session : DeckSession) (info : PlaybackInfo) :
    wish (p.appendAhead session info) = wish p := by
  rw [AudioPlayer.appendAhead]
  split
  · rfl
  · exact wish_tell _ Command.noConfusion

@[simp] theorem wish_preload (info : Option PlaybackInfo) : wish (p.preload info) = wish p := by
  rw [AudioPlayer.preload.eq_def]
  split
  · exact wish_appendAhead p _ _
  · rfl
  · exact wish_clearStandby p
  · simp only
    split
    · rfl
    · exact wish_tell _ Command.noConfusion

@[simp] theorem wish_skipTake (session : DeckSession) (dropped : PlaybackInfo) :
    wish (p.skipTake around session dropped) = wish p := by
  rw [AudioPlayer.skipTake]
  split
  · rfl
  · split
    · rfl
    · exact wish_appendAhead p _ _

@[simp] theorem wish_enterDeckEntry (session : DeckSession)
    (entry : ContinuousDeck.DeckEntry PlaybackInfo) :
    wish (p.enterDeckEntry session entry) = wish p := by
  simp only [AudioPlayer.enterDeckEntry]
  split <;> rfl

@[simp] theorem wish_followDeckPlayhead (session : DeckSession) :
    wish (p.followDeckPlayhead around session).1 = wish p := by
  rw [AudioPlayer.followDeckPlayhead]
  split
  · rfl
  · simp only
    split
    · rfl
    · exact wish_enterDeckEntry p _ _

@[simp] theorem wish_seek (seconds : ℚ) : wish (p.seek around seconds) = wish p := by
  rw [AudioPlayer.seek]
  split
  · rfl
  split
  · split
    · rfl
    · exact wish_tell _ Command.noConfusion
  split
  · rfl
  split
  · exact wish_tell _ Command.noConfusion
  · exact wish_tell _ Command.noConfusion

@[simp] theorem wish_resetTakeState :
    wish p.resetTakeState = ⟨p.status, false, none, none, asks p⟩ := by
  rw [AudioPlayer.resetTakeState, wish_leaveDeck]
  rfl

end

/-! ### Takes that load unasked -/

section

variable (around : Surroundings)

theorem loadsUnasked_of_wish (hwish : wish q = wish p) : q.loadsUnasked = p.loadsUnasked := by
  have hstatus : q.status = p.status := congrArg Wish.status hwish
  have hpending : q.autoplayPending = p.autoplayPending := congrArg Wish.autoplayPending hwish
  have hstarted : q.recoveryStartedAt = p.recoveryStartedAt :=
    congrArg Wish.recoveryStartedAt hwish
  rw [AudioPlayer.loadsUnasked, AudioPlayer.loadsUnasked, AudioPlayer.loadingTransport,
    AudioPlayer.loadingTransport, hstatus, hpending, hstarted]

theorem Quiet.loadsUnasked (hquiet : Quiet p) (hloading : p.status = .loading) :
    p.loadsUnasked = true := by
  simp [AudioPlayer.loadsUnasked, AudioPlayer.loadingTransport, hloading, hquiet.unrecovered,
    hquiet.unasked]

theorem scheduleStallRecovery_eq (hunasked : p.loadsUnasked = true) :
    p.scheduleStallRecovery around = p := by
  simp [AudioPlayer.scheduleStallRecovery, hunasked]

theorem wish_loadSource (hunasked : p.loadsUnasked = true) (url : String) :
    wish (p.loadSource around url) = wish p := by
  have htold : wish (AudioPlayer.tell { p with pauseRequestedByApp := false } (.source url)) =
      wish p := wish_tell _ Command.noConfusion
  rw [AudioPlayer.loadSource,
    scheduleStallRecovery_eq around ((loadsUnasked_of_wish htold).trans hunasked), htold]

theorem wish_reloadSource (hunasked : p.loadsUnasked = true) (url : String) :
    wish (p.reloadSource around url) = wish p := by
  have hleft : wish { p.stopProgressWatchdog.leaveDeck with
      recoveryUrlSerial := p.stopProgressWatchdog.leaveDeck.recoveryUrlSerial + 1 } = wish p :=
    wish_leaveDeck p.stopProgressWatchdog
  exact (wish_loadSource around ((loadsUnasked_of_wish hleft).trans hunasked) _).trans hleft

theorem wish_attachTake (hunasked : p.loadsUnasked = true) (info : PlaybackInfo) (url : String)
    (source : AudioPlayer.Source) : wish (p.attachTake around info url source) = wish p := by
  have hsourced : wish (AudioPlayer.attachSource { p with currentUrl := some url } around info
      url source) = wish p := by
    cases source with
    | deck => exact wish_attachDeck _ info
    | url => exact wish_loadSource (p := { p with currentUrl := some url }) around hunasked url
  have hcurrent := (wish_setCurrent _ (some info)).trans hsourced
  rw [AudioPlayer.attachTake,
    scheduleStallRecovery_eq around ((loadsUnasked_of_wish hcurrent).trans hunasked), hcurrent]

end

/-! ### Calls on a quiet player -/

section

variable (around : Surroundings)

theorem Quiet.fail (hquiet : Quiet p) (failure : Failure) : Kept p (p.fail failure) where
  quiet :=
    { unasked := hquiet.unasked
      unrecovered := hquiet.unrecovered
      unwatched := rfl
      notPlaying := PlayerStatus.noConfusion
      notBuffering := PlayerStatus.noConfusion }
  asked := rfl

theorem Quiet.handleMediaError (hquiet : Quiet p) (mediaError : Option MediaErrorCode) :
    Kept p (p.handleMediaError around mediaError) := by
  have hfailed : Kept p (p.failForAnUnknownReason around) := hquiet.fail _
  rw [AudioPlayer.handleMediaError]
  split
  · exact hfailed.wished (wish_send _ _)
  · exact hfailed

theorem Quiet.settle (hquiet : Quiet p) {status : PlayerStatus} (hplaying : status ≠ .playing)
    (hbuffering : status ≠ .buffering) : Kept p { p with status := status } where
  quiet := { hquiet with notPlaying := hplaying, notBuffering := hbuffering }
  asked := rfl

end

end Songmaker.Player.PauseHolds
