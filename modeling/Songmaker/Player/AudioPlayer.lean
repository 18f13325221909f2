import Songmaker.Player.ContinuousDeck
import Songmaker.Player.QueueStreamEngine

/-!
`AudioPlayer`: the element, the timers, the awaited probes and the owner each
call it in any order. What the active element and the deck read at the moment of
a call is an input of that call. Times are exact seconds, `now` is milliseconds.
-/

namespace Songmaker.Player

open ContinuousDeck (Deck DeckEntry)

/-! ### What every surface shows -/

/-- The status that the store shows. -/
inductive PlayerStatus where
  | idle | loading | ready | playing | paused | buffering | error
deriving DecidableEq

/-- What the player is about, whatever the element does. -/
inductive TransportState where
  | idle | loading | playing | recovering | paused | waitingForNetwork | failed
deriving DecidableEq

/-- The button shows a pause. -/
def transportOffersPause (transport : TransportState) : Bool :=
  transport = .loading || transport = .playing || transport = .recovering ||
    transport = .waitingForNetwork

def transportIsBusy (transport : TransportState) : Bool :=
  transport = .loading || transport = .recovering

inductive StallReason where
  | stallTimeout | frozenClock | networkReturn
deriving DecidableEq

/-- What a recovery was begun for. -/
inductive RecoveryReason where
  | stall (reason : StallReason)
  | mediaError
deriving DecidableEq

inductive RecoveryStep where
  | giveUp | wait | reload
deriving DecidableEq

inductive FailureKind where
  | stalled | awaitingNetwork | failed | autoplayBlocked
deriving DecidableEq

/-- How playback has failed. -/
inductive Failure where
  | worded (kind : FailureKind) (message : String)
  | unreachable
deriving DecidableEq

/-- The answer to the probe of a source. -/
structure ProbeAnswer where
  ok : Bool
  status : Nat
deriving DecidableEq

structure LoadOptions where
  autoplay : Bool := true
  restart : Bool := false
  startAt : Option ℚ := none
deriving DecidableEq

structure StreamOptions where
  autoplay : Bool := true
  resumeAt : Option ℚ := none
deriving DecidableEq

inductive MediaErrorCode where
  | aborted | network | decode | srcNotSupported
deriving DecidableEq

def audioUrlPrefix : String := "/audio/"
def errorMsgGeneric : String := "Playback failed. Press Retry."
def errorMsgNotFound : String := "Audio file not found."
def errorMsgStalled : String := "Playback stalled. Press Retry."
def playerWaitingForNetwork : String := "Waiting for the network."
def autoplayBlockedMessage : String := "Autoplay blocked. Press Play to start."
def endOfDeckSlackSeconds : ℚ := 1 / 2
def recoveryDeadlineMs : Nat := 2 * 60 * 1000
def recoverySeekBackSeconds : ℚ := 3 / 4
def stillChecksBeforeRecovery : Nat := 4
def steadyChecksBeforeRecoveryEnds : Nat := stillChecksBeforeRecovery

def decodeMediaError : MediaErrorCode → String
  | .aborted => "Playback aborted."
  | .decode => "Audio file is corrupted."
  | .srcNotSupported => "Audio format not supported by this browser."
  | .network => errorMsgGeneric

def audioUrlOf (info : PlaybackInfo) : String :=
  audioUrlPrefix ++ info.mp3Path

/-- The take's own length, not the stretch of it appended so far. -/
def takeDuration (entry : DeckEntry PlaybackInfo) : ℚ :=
  entry.take.audioDurationSec.getD entry.duration

/-! ### What a call reads outside the player -/

/-- What an element reads; `duration` is 0 where it has none, and `seekable`
says whether it takes a new `currentTime`. -/
structure Element where
  currentTime : ℚ
  duration : ℚ
  bufferedUntil : ℚ
  paused : Bool
  ended : Bool
  seeking : Bool
  seekable : Bool
  error : Option MediaErrorCode

def Element.ranOutOfAudio (el : Element) : Bool :=
  el.bufferedUntil - el.currentTime ≤ endOfDeckSlackSeconds

/-- The clock stands still although there is audio to play. -/
def unfreezesInPlace (reason : RecoveryReason) (el : Element) : Bool :=
  reason = .stall .frozenClock && el.currentTime < el.bufferedUntil

/-- `standbyHasFutureData` is the standby element's `readyState`, and `deck` the
deck of the session, where there is one. -/
structure Surroundings where
  element : Element
  standby : Element
  standbyHasFutureData : Bool
  deckSupported : Bool
  deck : Deck PlaybackInfo
  now : Nat
  networkFailureIsAnnounced : Bool
  takeAfter : PlaybackInfo → Option PlaybackInfo

namespace Surroundings

variable (around : Surroundings)

/-- The element's clock has just been set. -/
def seeked (seconds : ℚ) : Surroundings :=
  { around with element := { around.element with currentTime := seconds } }

def deckEntry : Option (DeckEntry PlaybackInfo) :=
  around.deck.entryAt around.element.currentTime

/-- Whether a step of the deck is in flight: a take's, or the end of the stream. -/
def deckAppending : Bool :=
  !around.deck.pending.isEmpty ||
    around.deck.ending && !around.deck.ended && !around.deck.broken

/-- The buffer still has the entry's start. -/
def isPlayableFromStart (entry : DeckEntry PlaybackInfo) : Bool :=
  around.deck.playableFrom ≤ entry.startOffset

end Surroundings

/-! ### The player -/

/-- `number` tells one session's deck from another's. -/
structure DeckSession where
  number : Nat
  playing : Option (DeckEntry PlaybackInfo)
  tail : PlaybackInfo

/-- What the player does to its elements and its deck. -/
inductive Command where
  | play
  | pause
  | source (url : String)
  | seek (seconds : ℚ)
  | clearStandby
  | preload (url : String)
  | promote
  | attachDeck (number : Nat)
  | deck (number : Nat) (action : ContinuousDeck.Action PlaybackInfo)
deriving DecidableEq

/-- A function that waits for the answer to its probe, with what it remembers:
`recoverFromMediaError`, `handleMediaError` and `recoverStream`. -/
inductive Probe where
  | mediaError (target : Option PlaybackInfo) (mediaError : Option MediaErrorCode)
  | failure (target : PlaybackInfo) (mediaError : Option MediaErrorCode)
  | stream (number : Nat) (target : Option PlaybackInfo) (state : StreamFallbackState)
      (absoluteTime : ℚ)
deriving DecidableEq

/-- A `recoverStream` that waits for the owner to rebuild its stream. -/
structure Rebuild where
  target : Option PlaybackInfo
  state : StreamFallbackState
deriving DecidableEq

/-- `decksAttached` and `probesSent` number the deck sessions and the stream
probes, `probes` and `rebuilds` hold the functions that wait, and `commands` what
the elements and the deck were told, the latest first. -/
structure AudioPlayer where
  status : PlayerStatus
  currentTime : ℚ
  duration : ℚ
  current : Option PlaybackInfo
  failure : Option Failure
  audio : Bool
  currentUrl : Option String
  standby : Bool
  standbyUrl : Option String
  deckSession : Option DeckSession
  autoplayPending : Bool
  streamEngine : QueueStreamEngine
  stallRecoveryTimer : Option ℚ
  recoveryStartedAt : Option Nat
  pendingRecoverySeek : Option ℚ
  lastObservedTime : ℚ
  progressWatchdog : Bool
  lastCheckedTime : ℚ
  stillChecks : Nat
  steadyChecks : Nat
  frozenClockNudged : Bool
  recoveryUrlSerial : Nat
  streamProbe : Option Nat
  pauseRequestedByApp : Bool
  streamEndSignaled : Bool
  decksAttached : Nat
  probesSent : Nat
  probes : List Probe
  rebuilds : List Rebuild
  commands : List Command

def AudioPlayer.new : AudioPlayer where
  status := .idle
  currentTime := 0
  duration := 0
  current := none
  failure := none
  audio := false
  currentUrl := none
  standby := false
  standbyUrl := none
  deckSession := none
  autoplayPending := false
  streamEngine := ⟨none, none, 0⟩
  stallRecoveryTimer := none
  recoveryStartedAt := none
  pendingRecoverySeek := none
  lastObservedTime := 0
  progressWatchdog := false
  lastCheckedTime := 0
  stillChecks := 0
  steadyChecks := 0
  frozenClockNudged := false
  recoveryUrlSerial := 0
  streamProbe := none
  pauseRequestedByApp := false
  streamEndSignaled := false
  decksAttached := 0
  probesSent := 0
  probes := []
  rebuilds := []
  commands := []

namespace AudioPlayer

variable (p : AudioPlayer) (around : Surroundings)

/-- A command to the element or to a deck. -/
def tell (command : Command) : AudioPlayer :=
  { p with commands := command :: p.commands }

/-- A probe of the source goes out. -/
def send (probe : Probe) : AudioPlayer :=
  { p with probes := p.probes ++ [probe] }

def setCurrent (current : Option PlaybackInfo) : AudioPlayer :=
  { p with current := current }

/-! ### The transport -/

def failureKind : Option FailureKind :=
  match p.failure with
  | some (.worded kind _) => some kind
  | _ => none

def gaveUpOnStall : Bool :=
  p.status = .error && (p.failureKind = some .stalled || p.failureKind = some .awaitingNetwork)

def loadingTransport : TransportState :=
  if p.recoveryStartedAt.isSome then .recovering
  else if p.autoplayPending then .loading
  else .paused

def failedTransport : TransportState :=
  if p.gaveUpOnStall && !p.autoplayPending then .paused
  else if p.failureKind = some .awaitingNetwork then .waitingForNetwork
  else .failed

def transport : TransportState :=
  match p.status with
  | .loading => p.loadingTransport
  | .error => p.failedTransport
  | .idle => .idle
  | .ready => .paused
  | .playing => .playing
  | .paused => .paused
  | .buffering => .recovering

/-! ### The stall watch and the progress watchdog -/

def loadsUnasked : Bool :=
  p.status = .loading && p.loadingTransport = .paused

def clearStallRecoveryTimer : AudioPlayer :=
  { p with stallRecoveryTimer := none }

def scheduleStallRecovery : AudioPlayer :=
  if p.stallRecoveryTimer.isSome || p.current.isNone || !p.audio || p.loadsUnasked then p
  else { p with stallRecoveryTimer := some around.element.bufferedUntil }

def startProgressWatchdog : AudioPlayer :=
  if p.progressWatchdog then p
  else
    { p with
      progressWatchdog := true
      lastCheckedTime := around.element.currentTime
      stillChecks := 0
      steadyChecks := 0 }

def stopProgressWatchdog : AudioPlayer :=
  { p with progressWatchdog := false }

/-! ### Failures -/

/-- Playback is given up with an error. -/
def fail (failure : Failure) : AudioPlayer :=
  { p.clearStallRecoveryTimer with status := .error, failure := some failure }

def failForAnUnknownReason : AudioPlayer :=
  p.fail (if around.networkFailureIsAnnounced then .unreachable
    else .worded .failed errorMsgGeneric)

def giveUpOnStall : AudioPlayer :=
  let listenerWantsSound :=
    p.autoplayPending || p.status = .playing || p.status = .buffering
  let stopped := { p.stopProgressWatchdog with recoveryStartedAt := none }
  let failed := stopped.fail
    (if around.networkFailureIsAnnounced then .worded .awaitingNetwork playerWaitingForNetwork
      else .worded .stalled errorMsgStalled)
  { failed with autoplayPending := listenerWantsSound }

def resumeAfterGivingUp : AudioPlayer :=
  AudioPlayer.startProgressWatchdog
    { p with status := .playing, failure := none, autoplayPending := false } around

/-- `handleMediaError` up to its probe. -/
def handleMediaError (mediaError : Option MediaErrorCode) : AudioPlayer :=
  let failed := p.failForAnUnknownReason around
  match failed.current, failed.currentUrl with
  | some target, some _ => failed.send (.failure target mediaError)
  | _, _ => failed

/-- Whether the answer was a refusal, and the player that names it. -/
def answeredARefusal (probe : ProbeAnswer) : AudioPlayer × Bool :=
  if probe.status = 401 then (p.failForAnUnknownReason around, true)
  else if probe.status = 404 then (p.fail (.worded .failed errorMsgNotFound), true)
  else (p, false)

/-! ### The element, its source and its deck -/

def pauseElement : AudioPlayer :=
  AudioPlayer.tell
    { p with pauseRequestedByApp := p.pauseRequestedByApp || !around.element.paused } .pause

/-- The element is given a source. -/
def loadSource (url : String) : AudioPlayer :=
  (AudioPlayer.tell { p with pauseRequestedByApp := false }
    (.source url)).scheduleStallRecovery around

def leaveDeck : AudioPlayer :=
  match p.deckSession with
  | none => p
  | some session => AudioPlayer.tell { p with deckSession := none } (.deck session.number .close)

/-- The source with a new query, so that it is fetched again. -/
def urlWithRecovery (url : String) : String :=
  let token := toString around.now ++ "-" ++ toString (p.recoveryUrlSerial + 1)
  url ++ (if url.contains '?' then "&" else "?") ++ "recover=" ++ token

/-- The source is fetched again. -/
def reloadSource (url : String) : AudioPlayer :=
  let left := p.stopProgressWatchdog.leaveDeck
  AudioPlayer.loadSource { left with recoveryUrlSerial := left.recoveryUrlSerial + 1 } around
    (left.urlWithRecovery around url)

def seekElement (seconds : ℚ) : AudioPlayer :=
  match p.deckSession with
  | some session => p.tell (.deck session.number (.seekTo seconds))
  | none => p.tell (.seek seconds)

def applyPendingRecoverySeek : AudioPlayer :=
  match p.pendingRecoverySeek with
  | none => p
  | some pending =>
      let seekTime := if 0 < p.duration then min pending p.duration else pending
      if around.element.seekable then
        { p.seekElement seekTime with
          currentTime := seekTime
          lastObservedTime := seekTime
          pendingRecoverySeek := none }
      else p

def deckTakeDuration : Option ℚ :=
  p.deckSession.bind fun _ => around.deckEntry.map takeDuration

def resumeDeckDownload (session : DeckSession) : AudioPlayer :=
  p.tell (.deck session.number .retryDownload)

/-- What one take's playback and recovery leave behind is cleared. -/
def resetTakeState : AudioPlayer :=
  leaveDeck
    { p.clearStallRecoveryTimer.stopProgressWatchdog with
      recoveryStartedAt := none
      streamProbe := none
      stillChecks := 0
      frozenClockNudged := false
      pendingRecoverySeek := none
      lastObservedTime := 0
      autoplayPending := false
      streamEndSignaled := false
      failure := none
      currentTime := 0
      duration := 0 }

def clearStandby : AudioPlayer :=
  let forgotten := { p with standbyUrl := none }
  if p.standby then forgotten.tell .clearStandby else forgotten

def forgetTake : AudioPlayer :=
  { (AudioPlayer.setCurrent { p with status := .idle } none) with
    currentUrl := none
    streamEngine := p.streamEngine.clear }

/-- The new session becomes the player's, and its deck is asked for the take. -/
def attachDeck (info : PlaybackInfo) : AudioPlayer :=
  let attached := AudioPlayer.tell
    { p with
      pauseRequestedByApp := false
      deckSession := some ⟨p.decksAttached, none, info⟩
      decksAttached := p.decksAttached + 1 } (.attachDeck p.decksAttached)
  attached.tell (.deck p.decksAttached (.appendTake info))

/-- The take that comes next is buffered behind the current one. -/
def appendAhead (session : DeckSession) (info : PlaybackInfo) : AudioPlayer :=
  if session.tail = info then p
  else
    AudioPlayer.tell { p with deckSession := some { session with tail := info } }
      (.deck session.number (.appendNext info))

/-- How a take that starts on the active element is given its source. -/
inductive Source where
  | deck
  | url
deriving DecidableEq

def attachSource (info : PlaybackInfo) (url : String) : Source → AudioPlayer
  | .deck => p.attachDeck info
  | .url => p.loadSource around url

/-- The take becomes the current one, from its source. -/
def attachTake (info : PlaybackInfo) (url : String) (source : Source) : AudioPlayer :=
  let attached := AudioPlayer.attachSource { p with currentUrl := some url } around info url source
  (attached.setCurrent (some info)).scheduleStallRecovery around

/-! ### Recovery -/

def positionWithinTake : ℚ :=
  around.element.currentTime -
    ((p.deckSession.bind DeckSession.playing).map DeckEntry.startOffset).getD 0

/-- The position that the listener reached. -/
def reachedPosition : ℚ :=
  let elementPosition := if p.deckSession.isSome then 0 else around.element.currentTime
  orNumber elementPosition (orNumber p.currentTime p.lastObservedTime)

def failedPartWayThrough : Bool :=
  !around.element.ended && (p.recoveryStartedAt.isSome || 1 ≤ p.reachedPosition around)

def keepWaiting : AudioPlayer :=
  AudioPlayer.scheduleStallRecovery
    { p with
      status := if p.status = .loading then .loading else .buffering
      failure := none } around

/-- The current take is loaded again where it was. -/
def reloadAt (reachedTime : ℚ) : AudioPlayer :=
  if !p.audio || p.current.isNone then p
  else
    match p.currentUrl with
    | none => p
    | some url =>
        let seekTime := p.pendingRecoverySeek.getD (max 0 (reachedTime - recoverySeekBackSeconds))
        let loading :=
          { p with
            stillChecks := 0
            pendingRecoverySeek := some seekTime
            currentTime := seekTime
            lastObservedTime := seekTime
            status := .loading
            failure := none
            autoplayPending := true }
        loading.clearStallRecoveryTimer.reloadSource around url

def reopenDeckAtThePlayhead : AudioPlayer :=
  match p.current, p.currentUrl with
  | some info, some url =>
      let loading :=
        { p.resetTakeState with
          recoveryStartedAt := p.recoveryStartedAt
          pendingRecoverySeek := some (p.positionWithinTake around)
          autoplayPending := true
          status := .loading }
      loading.attachTake around info url .deck
  | _, _ => p

def unfreezeDeckClock : AudioPlayer :=
  if p.frozenClockNudged then p.reopenDeckAtThePlayhead around
  else
    let nudged := AudioPlayer.tell { p with frozenClockNudged := true, stillChecks := 0 }
      (.seek around.element.currentTime)
    nudged.tell .play

/-- Whether the deck set the element going itself. -/
def recoverOnTheDeck (session : DeckSession) (reason : RecoveryReason) : AudioPlayer × Bool :=
  if unfreezesInPlace reason around.element then (p.unfreezeDeckClock around, true)
  else ((p.resumeDeckDownload session).keepWaiting around, false)

/-- `nextRecoveryStep` sets when the recovery began. -/
def startRecovery : AudioPlayer :=
  { p with recoveryStartedAt := some (p.recoveryStartedAt.getD around.now) }

/-- A recovery is given up after a while, waits while the network is gone, or reloads. -/
def nextRecoveryStep (reason : RecoveryReason) : RecoveryStep :=
  if recoveryDeadlineMs ≤ around.now - p.recoveryStartedAt.getD around.now then .giveUp
  else if reason = .mediaError && p.stallRecoveryTimer.isSome ||
      around.networkFailureIsAnnounced then .wait
  else .reload

/-- Whether the recovery goes on. -/
def recoverPlayback (reason : RecoveryReason) : AudioPlayer × Bool :=
  if p.streamEngine.active || p.current.isNone || !p.audio || p.currentUrl.isNone ||
      around.element.ended then (p, false)
  else if reason = .mediaError && !p.failedPartWayThrough around then (p, false)
  else
    let reachedTime := p.reachedPosition around
    let started := p.startRecovery around
    match p.nextRecoveryStep around reason with
    | .giveUp => (started, false)
    | .wait => (started.keepWaiting around, true)
    | .reload =>
        match started.deckSession with
        | some session => ((started.recoverOnTheDeck around session reason).1, true)
        | none => (started.reloadAt around reachedTime, true)

/-- `recoverStream` up to its probe. -/
def recoverStream (reason : RecoveryReason) : AudioPlayer :=
  if !p.audio || !p.streamEngine.active || p.streamProbe.isSome then p
  else
    match p.streamEngine.fallbackState p.currentTime around.element.currentTime with
    | none => p
    | some state =>
        let started := p.startRecovery around
        match p.nextRecoveryStep around reason with
        | .giveUp => started.giveUpOnStall around
        | .wait => started.keepWaiting around
        | .reload =>
            let loading :=
              { AudioPlayer.clearStallRecoveryTimer { started with stillChecks := 0 } with
                status := .loading
                failure := none
                autoplayPending := true
                streamProbe := some p.probesSent
                probesSent := p.probesSent + 1 }
            let startOffset := ((state.manifest.tracks[state.trackIndex]?).map
              QueueStreamTrackItem.startOffset).getD 0
            loading.send (.stream p.probesSent p.current state
              (max 0 (startOffset + state.trackTime - recoverySeekBackSeconds)))

/-- Playback has stalled, and is recovered. -/
def recoverFromStall (reason : StallReason) : AudioPlayer :=
  if p.streamEngine.active then p.recoverStream around (.stall reason)
  else
    let (recovering, goesOn) := p.recoverPlayback around (.stall reason)
    if goesOn then recovering else recovering.giveUpOnStall around

/-- `recoverFromMediaError` from after its probe. -/
def recoverOrFail (mediaError : Option MediaErrorCode) : AudioPlayer :=
  let (recovering, goesOn) := p.recoverPlayback around .mediaError
  if goesOn then recovering else recovering.handleMediaError around mediaError

/-- `recoverFromMediaError` up to its probe, where it sends one. -/
def recoverFromMediaError (mediaError : Option MediaErrorCode) : AudioPlayer :=
  if p.currentUrl.isSome && p.audio && p.failedPartWayThrough around &&
      !around.networkFailureIsAnnounced then
    p.send (.mediaError p.current mediaError)
  else p.recoverOrFail around mediaError

/-! ### Play, pause and toggle -/

def pausedOnAFailedLoad : Bool :=
  p.status = .paused && p.audio && around.element.error.isSome

def clockStoodStill : Bool :=
  0 < p.stillChecks

/-- What a play on a broken element starts its recovery from. -/
def forgetRecovery : AudioPlayer :=
  AudioPlayer.clearStallRecoveryTimer { p with recoveryStartedAt := none }

/-- The recovery that a tap begins anew. -/
def recoverOnPlay (reason : RecoveryReason) : AudioPlayer :=
  let cleared := p.forgetRecovery
  if p.streamEngine.active then cleared.recoverStream around reason
  else if !p.audio then cleared
  else
    match p.deckSession with
    | none => cleared.reloadAt around (p.reachedPosition around)
    | some session =>
        let (recovering, setGoing) := cleared.recoverOnTheDeck around session reason
        if setGoing then recovering else recovering.tell .play

def resumeDeckDownloadOf : AudioPlayer :=
  match p.deckSession with
  | some session => p.resumeDeckDownload session
  | none => p

def play : AudioPlayer :=
  if !p.audio || p.current.isNone then p
  else if p.status = .error || p.pausedOnAFailedLoad around then
    p.recoverOnPlay around .mediaError
  else if p.status = .loading || p.status = .buffering then
    (AudioPlayer.scheduleStallRecovery
        { p with autoplayPending := true } around).resumeDeckDownloadOf
  else if p.clockStoodStill then p.recoverOnPlay around (.stall .frozenClock)
  else
    let resumed :=
      if p.deckSession.isSome && around.deckAppending && around.element.ranOutOfAudio then
        p.resumeDeckDownloadOf
      else p
    resumed.tell .play

/-- `pause` but for the status that it settles in. -/
def stopAsking : AudioPlayer :=
  (AudioPlayer.forgetRecovery { p with autoplayPending := false }).pauseElement around

def pause : AudioPlayer :=
  if !p.audio then p
  else if p.status ≠ .error && !around.element.ended then
    { p.stopAsking around with status := .paused }
  else p.stopAsking around

/-- A press on a loading take only asks for its sound or withdraws the ask. -/
def flipAsk : AudioPlayer :=
  let flipped := { p with autoplayPending := !p.autoplayPending }
  if flipped.autoplayPending then flipped.scheduleStallRecovery around
  else flipped.clearStallRecoveryTimer

def toggle : AudioPlayer :=
  if !p.audio || p.current.isNone then p
  else if p.status = .loading && p.recoveryStartedAt.isNone then p.flipAsk around
  else if transportOffersPause p.transport then p.pause around
  else p.play around

def retryAfterWaitingForNetwork : AudioPlayer :=
  if p.autoplayPending then p.play around
  else { p with failure := some (.worded .stalled errorMsgStalled) }

def resumeAfterNetworkReturn : AudioPlayer :=
  if p.failure = some .unreachable then p.play around
  else if p.failureKind = some .awaitingNetwork then p.retryAfterWaitingForNetwork around
  else if p.stallRecoveryTimer.isSome then
    p.clearStallRecoveryTimer.recoverFromStall around .networkReturn
  else p.resumeDeckDownloadOf

/-! ### Loads -/

/-- The deck has the take in its buffer or on its way. -/
def wasHandedTo (session : DeckSession) (take : PlaybackInfo) : Bool :=
  session.tail = take || around.deck.entries.any fun entry => entry.take = take

/-- The two are one take as far as the source can tell. -/
def isTheSameTake (session : DeckSession) (held take : PlaybackInfo) : Bool :=
  if wasHandedTo around session take then take = held else audioUrlOf take = audioUrlOf held

def isCurrentTake (info : PlaybackInfo) (url : String) : Bool :=
  match p.current, p.deckSession with
  | some current, some session => isTheSameTake around session current info
  | current, _ => current.map PlaybackInfo.generationId = some info.generationId &&
      p.currentUrl = some url

/-- Whether the take plays on where it is. -/
def continueCurrentTake (info : PlaybackInfo) (url : String) (opts : LoadOptions) :
    AudioPlayer × Bool :=
  let sameTake := !p.streamEngine.active && p.isCurrentTake around info url
  let left := { p with streamEngine := p.streamEngine.clear }
  if !sameTake || !left.audio || left.status = .error || opts.restart then (left, false)
  else
    let kept :=
      { (if left.deckSession.isNone then left.setCurrent (some info) else left) with
        currentUrl := some url
        failure := none }
    if opts.autoplay && (kept.status ≠ .playing || kept.clockStoodStill) then
      (kept.play around, true)
    else (kept, true)

def waitForTheNetworkFromTheTap : AudioPlayer :=
  if p.autoplayPending && around.networkFailureIsAnnounced then
    { p with recoveryStartedAt := some around.now }
  else p

/-- Another take begins. -/
def startTake (info : PlaybackInfo) (url : String) (opts : LoadOptions) (source : Source) :
    AudioPlayer :=
  let asked : AudioPlayer := waitForTheNetworkFromTheTap
    { p.clearStandby.resetTakeState with
      pendingRecoverySeek := opts.startAt
      currentTime := opts.startAt.getD 0
      duration := info.audioDurationSec.getD 0
      autoplayPending := opts.autoplay } around
  let loading : AudioPlayer := { asked with audio := true, status := .loading }
  (loading.pauseElement around).attachTake around info url source

/-- The element that has the take loaded already takes over. -/
def promote (info : PlaybackInfo) (url : String) (opts : LoadOptions) : AudioPlayer :=
  let promoted := { around with element := around.standby }
  let reset := p.resetTakeState
  let ready := AudioPlayer.tell
    { reset with
      audio := true
      standby := p.audio
      standbyUrl := none
      pauseRequestedByApp := false
      pendingRecoverySeek := opts.startAt
      currentTime := promoted.element.currentTime
      duration := promoted.element.duration
      status := .ready
      currentUrl := some url } .promote
  let placed := ready.applyPendingRecoverySeek promoted
  let asked := if opts.autoplay then placed.play promoted else placed
  (if p.audio then asked.tell .clearStandby else asked).setCurrent (some info)

/-- The element in reserve has the source loaded. -/
def standbyReadyFor (url : String) : Bool :=
  p.standby && p.standbyUrl = some url && around.standbyHasFutureData

/-- The take is played from its source, or goes on where it is the current one. -/
def loadUrl (info : PlaybackInfo) (url : String) (opts : LoadOptions) : AudioPlayer :=
  let (left, continued) := p.continueCurrentTake around info url opts
  if continued then left
  else if left.standbyReadyFor around url then left.promote around info url opts
  else left.startTake around info url opts .url

/-- The deck's last two entries that a load of the take can play on into, and the
one that it plays. -/
def continuableEntry (session : DeckSession) (take : PlaybackInfo) :
    Option (DeckEntry PlaybackInfo) :=
  around.deckEntry.bind fun playing =>
    let next := match around.deck.entries.reverse with
      | handedLast :: before :: _ =>
          if handedLast.take = session.tail ∧ before.id = playing.id then [handedLast] else []
      | _ => []
    (playing :: next).find? fun entry =>
      isTheSameTake around session entry.take take && around.isPlayableFromStart entry

/-- The deck's buffer has the take, and is sought in. -/
def seekWithinDeck (session : DeckSession) (info : PlaybackInfo) (url : String)
    (opts : LoadOptions) : Option AudioPlayer :=
  if !p.audio then none
  else
    (continuableEntry around session info).map fun entry =>
      let startAt := opts.startAt.getD 0
      let playsOnWhereItIs :=
        session.playing.map DeckEntry.id = some entry.id && startAt = p.currentTime
      let entered := { p with deckSession := some { session with playing := some entry } }
      let moved := if playsOnWhereItIs then entered
        else entered.tell (.deck session.number (.seekTo (entry.startOffset + startAt)))
      let placed := AudioPlayer.setCurrent
        { moved with
          currentUrl := some url
          currentTime := startAt
          lastObservedTime := startAt
          duration := takeDuration entry } (some entry.take)
      let there := if playsOnWhereItIs then around
        else around.seeked (entry.startOffset + startAt)
      if opts.autoplay then placed.play there else placed.pause there

def loadOnTheDeck (info : PlaybackInfo) (url : String) (opts : LoadOptions) : AudioPlayer :=
  if !around.deckSupported || p.standbyReadyFor around url then p.loadUrl around info url opts
  else p.startTake around info url opts .deck

/-- A take is to be played. -/
def load (info : PlaybackInfo) (opts : LoadOptions) : AudioPlayer :=
  let url := audioUrlOf info
  let (left, continued) := p.continueCurrentTake around info url opts
  if continued then left
  else
    match left.deckSession.bind fun session => left.seekWithinDeck around session info url opts with
    | some moved => moved
    | none => left.loadOnTheDeck around info url opts

/-- A take will be needed soon. -/
def preload (info : Option PlaybackInfo) : AudioPlayer :=
  match p.deckSession, info with
  | some session, some info => p.appendAhead session info
  | some _, none => p
  | none, none => p.clearStandby
  | none, some info =>
      let url := audioUrlOf info
      if p.standbyUrl = some url then p
      else AudioPlayer.tell { p with standby := true, standbyUrl := some url } (.preload url)

/-- A stream is to be played from one of its tracks. -/
def loadStream (manifest : QueueStreamManifest) (startIndex : Int) (opts : StreamOptions) :
    AudioPlayer :=
  let (started, state) := p.streamEngine.start manifest startIndex
  match state with
  | none => p
  | some streamState =>
      let placed := match opts.resumeAt with
        | none => started
        | some seconds => started.resumeAt seconds
      let reset := AudioPlayer.resetTakeState
        { AudioPlayer.clearStandby { p with streamEngine := placed } with audio := true }
      let loading := AudioPlayer.pauseElement
        { reset with autoplayPending := opts.autoplay, status := .loading } around
      AudioPlayer.loadSource
        { loading.setCurrent (some streamState.info) with
          currentUrl := some manifest.streamUrl
          currentTime := streamState.currentTime
          duration := streamState.duration } around manifest.streamUrl

def unload : AudioPlayer :=
  let cleared := p.resetTakeState.clearStandby
  let emptied := if cleared.audio then (cleared.pauseElement around).tell (.source "") else cleared
  emptied.forgetTake

def destroy : AudioPlayer :=
  let cleared := { p.resetTakeState.clearStandby with standby := false }
  let emptied := if cleared.audio then
      { (cleared.pauseElement around).tell (.source "") with audio := false }
    else cleared
  emptied.forgetTake

/-- The current take loads from its own URL where the listener is. -/
def fallBackToTwoDecks : AudioPlayer :=
  match p.current with
  | none => p
  | some info =>
      if !p.audio then p
      else
        p.loadUrl around info (audioUrlOf info)
          ⟨p.autoplayPending || !around.element.paused, true, some p.currentTime⟩

/-! ### Seeks and track changes -/

/-- The listener asks for another place. -/
def seek (seconds : ℚ) : AudioPlayer :=
  if !p.audio || p.duration ≤ 0 then p
  else if p.streamEngine.active then
    match p.streamEngine.seekLocal seconds with
    | none => p
    | some target => p.tell (.seek target)
  else if p.pendingRecoverySeek.isSome then
    let place := max 0 (min seconds p.duration)
    { p with pendingRecoverySeek := some place, currentTime := place }
  else
    match p.deckSession with
    | none => p.tell (.seek (max 0 (min seconds p.duration)))
    | some session =>
        let reachable := match session.playing with
          | none => p.duration
          | some entry =>
              min p.duration ((around.deck.entries.find? fun live => live.id = entry.id).getD
                entry).duration
        let start := (session.playing.map DeckEntry.startOffset).getD 0
        p.tell (.deck session.number (.scrubTo (start + max 0 (min seconds reachable))))

/-- A track change within the stream, where there is a track to change to. -/
def enterStreamTrack (engine : QueueStreamEngine) (streamState : StreamTrackState)
    (autoplay : Bool) : AudioPlayer :=
  let entered := AudioPlayer.tell
    { AudioPlayer.setCurrent { p with streamEngine := engine } (some streamState.info) with
      currentTime := streamState.currentTime
      duration := streamState.duration
      lastObservedTime := streamState.absoluteTime } (.seek streamState.absoluteTime)
  if autoplay then entered.play (around.seeked streamState.absoluteTime) else entered

/-- The stream goes to another of its tracks. -/
def changeStreamTrack (change : QueueStreamEngine → QueueStreamEngine × Option StreamTrackState)
    (autoplay : Option Bool) : AudioPlayer :=
  if !p.audio || !p.streamEngine.active then p
  else
    match (change p.streamEngine).2 with
    | none => p
    | some streamState =>
        p.enterStreamTrack around (change p.streamEngine).1 streamState
          (autoplay.getD !around.element.paused)

def seekToStreamTrack (index : Int) (autoplay : Option Bool) : AudioPlayer :=
  p.changeStreamTrack around (·.seekToTrack index) autoplay

def nextStreamTrack (autoplay : Option Bool) : AudioPlayer :=
  p.changeStreamTrack around QueueStreamEngine.nextTrack autoplay

def prevStreamTrack (autoplay : Option Bool) : AudioPlayer :=
  p.changeStreamTrack around QueueStreamEngine.prevTrack autoplay

/-! ### What the element tells -/

/-- The stream's clock has moved. -/
def updateStreamPosition (absoluteTime : ℚ) : AudioPlayer :=
  match p.streamEngine.updatePosition absoluteTime with
  | (_, none) => p
  | (engine, some streamState) =>
      let entered : AudioPlayer :=
        if p.current.map PlaybackInfo.generationId = some streamState.info.generationId then
          { p with streamEngine := engine }
        else AudioPlayer.setCurrent { p with streamEngine := engine } (some streamState.info)
      let placed : AudioPlayer := clearStallRecoveryTimer
        { entered with
          duration := streamState.duration
          currentTime := streamState.currentTime
          lastObservedTime := absoluteTime }
      if placed.status = .buffering then { placed with status := .playing } else placed

def applyPendingStreamSeek : AudioPlayer :=
  match p.streamEngine.applyPendingSeek around.element.seekable with
  | (_, none) => p
  | (engine, some seekTime) =>
      AudioPlayer.updateStreamPosition
        (AudioPlayer.tell { p with streamEngine := engine, lastObservedTime := seekTime }
          (.seek seekTime)) seekTime

def onLoadstart : AudioPlayer :=
  { p with status := .loading, failure := none }

def onLoadedmetadata : AudioPlayer :=
  if p.streamEngine.active then
    AudioPlayer.applyPendingStreamSeek { p with duration := p.streamEngine.activeDuration } around
  else
    AudioPlayer.applyPendingRecoverySeek
      { p with duration := (p.deckTakeDuration around).getD around.element.duration } around

def playTheAskedForSound : AudioPlayer :=
  let asked : AudioPlayer :=
    if around.element.paused then { p with status := .loading }
    else { p with autoplayPending := false, status := .playing }
  asked.tell .play

/-- `canplay` once it is known that the take has not failed for good. -/
def becomeReady : AudioPlayer :=
  let cleared := p.clearStallRecoveryTimer
  let placed : AudioPlayer :=
    if cleared.streamEngine.active then cleared.applyPendingStreamSeek around
    else cleared.applyPendingRecoverySeek around
  let timed : AudioPlayer :=
    { placed with
      duration :=
        if placed.streamEngine.active then placed.streamEngine.activeDuration
        else (placed.deckTakeDuration around).getD
          (orNumber around.element.duration placed.duration) }
  if timed.autoplayPending then timed.playTheAskedForSound around
  else { timed with status := if around.element.paused then .ready else .playing }

def onCanplay : AudioPlayer :=
  if p.gaveUpOnStall then AudioPlayer.becomeReady { p with failure := none } around
  else if p.status = .error then p
  else p.becomeReady around

/-- The take under the playhead becomes the current one. -/
def enterDeckEntry (session : DeckSession) (entry : DeckEntry PlaybackInfo) : AudioPlayer :=
  let entered := { p with deckSession := some { session with playing := some entry } }
  if p.current = some entry.take then entered
  else AudioPlayer.setCurrent { entered with currentUrl := some (audioUrlOf entry.take) } entry.take

/-- The position within the take under the playhead, with the player that follows it. -/
def followDeckPlayhead (session : DeckSession) : AudioPlayer × ℚ :=
  match around.deckEntry with
  | none => (p, around.element.currentTime)
  | some entry =>
      let followed :=
        if session.playing.map DeckEntry.id = some entry.id then p
        else p.enterDeckEntry session entry
      ({ followed with duration := takeDuration entry },
        around.element.currentTime - entry.startOffset)

/-- The clock stands at `position` within the current take. -/
def observe (position : ℚ) : AudioPlayer :=
  let moved : AudioPlayer :=
    if 1 / 20 < |position - p.lastObservedTime| then
      let observed := clearStallRecoveryTimer { p with lastObservedTime := position }
      if observed.gaveUpOnStall && !around.element.paused then observed.resumeAfterGivingUp around
      else if observed.status = .buffering then { observed with status := .playing }
      else observed
    else p
  { moved with currentTime := position }

def onTimeupdate : AudioPlayer :=
  if p.streamEngine.active then p.updateStreamPosition around.element.currentTime
  else if p.pendingRecoverySeek.isSome then p
  else
    match p.deckSession with
    | none => p.observe around around.element.currentTime
    | some session =>
        let (followed, position) := p.followDeckPlayhead around session
        followed.observe around position

def onPlay : AudioPlayer :=
  AudioPlayer.startProgressWatchdog
    { p with
      autoplayPending := false
      streamEndSignaled := false
      status := if p.status = .error then .error else .playing } around

def onPlaying : AudioPlayer :=
  let watched := p.clearStallRecoveryTimer.startProgressWatchdog around
  let resumed := if watched.gaveUpOnStall then watched.resumeAfterGivingUp around else watched
  if resumed.status = .buffering || resumed.status = .loading then
    { resumed with status := .playing }
  else resumed

def onPause : AudioPlayer :=
  let told : AudioPlayer :=
    if p.gaveUpOnStall && !p.pauseRequestedByApp then { p with autoplayPending := false } else p
  let stopped := AudioPlayer.stopProgressWatchdog
    (AudioPlayer.clearStallRecoveryTimer { told with pauseRequestedByApp := false })
  if stopped.status = .loading || stopped.status = .error || around.element.ended then stopped
  else { stopped with status := .paused }

/-- The queue says that a take follows. -/
def queueNamesATakeAfter (entry : Option (DeckEntry PlaybackInfo)) : Bool :=
  match entry with
  | none => false
  | some entry => (around.takeAfter entry.take).isSome

/-- Whether the deck is asked to end its stream. -/
def endsDeckAtItsLastTake (session : DeckSession) : Bool :=
  !(around.deckAppending || queueNamesATakeAfter around session.playing ||
    !around.element.ranOutOfAudio)

def waitForBytes : AudioPlayer :=
  if p.status = .playing || p.status = .buffering then
    AudioPlayer.scheduleStallRecovery { p with status := .buffering } around
  else p

def onWaiting : AudioPlayer :=
  match p.deckSession with
  | some session =>
      if endsDeckAtItsLastTake around session then p.tell (.deck session.number .endStream)
      else p.waitForBytes around
  | none => p.waitForBytes around

def onStalled : AudioPlayer :=
  p.waitForBytes around

/-- The owner hears `onEnded` once. -/
def onEnded : AudioPlayer :=
  let stopped := p.clearStallRecoveryTimer.stopProgressWatchdog
  if stopped.streamEngine.active && stopped.streamEngine.nextTrack.2.isSome then
    stopped.nextStreamTrack around (some true)
  else { stopped with status := .idle, currentTime := 0, streamEndSignaled := true }

def onError : AudioPlayer :=
  if p.currentUrl.isNone || p.gaveUpOnStall then p
  else if p.deckSession.isSome then p.fallBackToTwoDecks around
  else if p.streamEngine.active then p.recoverStream around .mediaError
  else p.recoverFromMediaError around around.element.error

/-! ### Timers, answers and deck failures -/

/-- Nothing has been played for a while. -/
def stallTimerFires (bufferedAtStall : ℚ) : AudioPlayer :=
  let fired := p.clearStallRecoveryTimer
  if fired.status ≠ .buffering ∧ fired.status ≠ .loading then fired
  else if bufferedAtStall < around.element.bufferedUntil then fired.scheduleStallRecovery around
  else fired.recoverFromStall around .stallTimeout

/-- After some time of steady playback the recovery is over. -/
def trackSteadyPlayback (playingSteadily : Bool) : AudioPlayer :=
  let tracked := { p with steadyChecks := if playingSteadily then p.steadyChecks + 1 else 0 }
  if tracked.steadyChecks < steadyChecksBeforeRecoveryEnds then tracked
  else { tracked with recoveryStartedAt := none, frozenClockNudged := false }

def checkProgress : AudioPlayer :=
  let el := around.element
  let clockMoved : Bool := el.currentTime ≠ p.lastCheckedTime
  let tracked := AudioPlayer.trackSteadyPlayback { p with lastCheckedTime := el.currentTime }
    (clockMoved && p.status = .playing && !el.seeking)
  if clockMoved || tracked.status ≠ .playing || el.paused || el.seeking then
    { tracked with stillChecks := 0 }
  else
    let counted := { tracked with stillChecks := tracked.stillChecks + 1 }
    if counted.stillChecks < stillChecksBeforeRecovery then counted
    else counted.recoverFromStall around .frozenClock

inductive RejectionName where
  | abortError
  | notAllowedError
  | other
deriving DecidableEq

/-- The element has refused to play. -/
def handlePlayRejection : RejectionName → AudioPlayer
  | .abortError => p
  | .notAllowedError =>
      { p with
        autoplayPending := false
        status := .paused
        failure := some (.worded .autoplayBlocked autoplayBlockedMessage) }
  | .other =>
      AudioPlayer.handleMediaError { p with autoplayPending := false } around
        (if p.audio then around.element.error else none)

def streamRecoveryInterrupted (target : Option PlaybackInfo) : Bool :=
  p.current ≠ target || p.status ≠ .loading

/-- `recoverStream` once its probe is answered and it asks for no rebuild. -/
def reloadStream (state : StreamFallbackState) (absoluteTime : ℚ) : AudioPlayer :=
  AudioPlayer.reloadSource { p with streamEngine := p.streamEngine.resumeAt absoluteTime } around
    state.manifest.streamUrl

/-- What waits goes on with the answer to its probe. -/
def resume (answer : ProbeAnswer) : Probe → AudioPlayer
  | .mediaError target mediaError =>
      if p.current ≠ target || p.status = .paused || p.status = .error then p
      else
        let (refused, named) := p.answeredARefusal around answer
        if named then refused else refused.recoverOrFail around mediaError
  | .failure target mediaError =>
      if p.current ≠ some target then p
      else
        let (refused, named) := p.answeredARefusal around answer
        if named then refused
        else
          match answer.ok, mediaError with
          | true, some code =>
              if code = .network then p.failForAnUnknownReason around
              else { p with failure := some (.worded .failed (decodeMediaError code)) }
          | _, _ => p.failForAnUnknownReason around
  | .stream number target state absoluteTime =>
      if p.streamProbe ≠ some number then p
      else
        let answered := { p with streamProbe := none }
        if answered.streamRecoveryInterrupted target then answered
        else if answer.status = 404 then
          { answered with rebuilds := answered.rebuilds ++ [⟨target, state⟩] }
        else
          let (refused, named) := answered.answeredARefusal around answer
          if named then refused else refused.reloadStream around state absoluteTime

/-- The rebuilt stream goes on with the track that `state` names. -/
def loadRebuiltStream (state : StreamFallbackState) (fresh : QueueStreamManifest) : AudioPlayer :=
  let generationId := (state.manifest.tracks[state.trackIndex]?).map
    QueueStreamTrackItem.generationId
  let index := (fresh.tracks.findIdx? fun track => generationId = some track.generationId).getD 0
  match fresh.tracks[index]? with
  | none => p
  | some freshTrack =>
      p.loadStream around fresh index
        ⟨true, some (freshTrack.startOffset + min state.trackTime freshTrack.duration)⟩

/-- `recoverStream` goes on with the owner's answer to its rebuild. -/
def resumeRebuild (rebuild : Rebuild) (fresh : Option QueueStreamManifest) : AudioPlayer :=
  if p.streamRecoveryInterrupted rebuild.target then p
  else
    match fresh with
    | none => p.fail (.worded .failed errorMsgNotFound)
    | some manifest =>
        if manifest.tracks.isEmpty then p.fail (.worded .failed errorMsgNotFound)
        else p.loadRebuiltStream around rebuild.state manifest

/-- What a deck's promise is rejected with. -/
inductive DeckError where
  | takeNotAppended (take : PlaybackInfo) (reason : ContinuousDeck.Reason)
  | other
deriving DecidableEq

/-- The deck could not load the take, and another one comes next. -/
def skipTake (session : DeckSession) (dropped : PlaybackInfo) : AudioPlayer :=
  if session.tail ≠ dropped then p
  else
    match around.takeAfter dropped with
    | none => p
    | some next => p.appendAhead session next

def deckFailed (number : Nat) (error : DeckError) : AudioPlayer :=
  match p.deckSession with
  | none => p
  | some session =>
      if session.number ≠ number then p
      else
        match error with
        | .takeNotAppended take reason =>
            if p.current ≠ some take then
              if reason = .refused then p.skipTake around session take else p
            else p.fallBackToTwoDecks around
        | .other => p.fallBackToTwoDecks around

end AudioPlayer

/-! ### Every call that reaches the player -/

/-- The events of the audio element. -/
inductive ElementEvent where
  | loadstart | loadedmetadata | canplay | timeupdate | play | playing | pause | waiting
  | stalled | ended | error
deriving DecidableEq

/-- The calls into the player, the element's events, and the timers and answers. -/
inductive Action where
  | load (info : PlaybackInfo) (opts : LoadOptions)
  | loadUrl (info : PlaybackInfo) (url : String) (opts : LoadOptions)
  | loadStream (manifest : QueueStreamManifest) (startIndex : Int) (opts : StreamOptions)
  | preload (info : Option PlaybackInfo)
  | play
  | pause
  | toggle
  | seek (seconds : ℚ)
  | seekToStreamTrack (index : Int) (autoplay : Option Bool)
  | nextStreamTrack (autoplay : Option Bool)
  | prevStreamTrack (autoplay : Option Bool)
  | networkReturns
  | unload
  | destroy
  | element (event : ElementEvent)
  | stallTimerFires
  | progressIsChecked
  | probeAnswered (index : Nat) (answer : ProbeAnswer)
  | rebuildAnswered (index : Nat) (fresh : Option QueueStreamManifest)
  | playRejected (name : AudioPlayer.RejectionName)
  | deckFails (number : Nat) (error : AudioPlayer.DeckError)
deriving DecidableEq

namespace AudioPlayer

variable (p : AudioPlayer) (around : Surroundings)

/-- An event of the element. -/
def hear : ElementEvent → AudioPlayer
  | .loadstart => p.onLoadstart
  | .loadedmetadata => p.onLoadedmetadata around
  | .canplay => p.onCanplay around
  | .timeupdate => p.onTimeupdate around
  | .play => p.onPlay around
  | .playing => p.onPlaying around
  | .pause => p.onPause around
  | .waiting => p.onWaiting around
  | .stalled => p.onStalled around
  | .ended => p.onEnded around
  | .error => p.onError around

/-- The answer to a probe. -/
def answerProbe (index : Nat) (answer : ProbeAnswer) : Option AudioPlayer :=
  (p.probes[index]?).map fun probe =>
    AudioPlayer.resume { p with probes := p.probes.eraseIdx index } around answer probe

/-- The answer to a request for a fresh manifest. -/
def answerRebuild (index : Nat) (fresh : Option QueueStreamManifest) : Option AudioPlayer :=
  (p.rebuilds[index]?).map fun rebuild =>
    AudioPlayer.resumeRebuild { p with rebuilds := p.rebuilds.eraseIdx index } around rebuild fresh

def act : Action → Option AudioPlayer
  | .load info opts => some (p.load around info opts)
  | .loadUrl info url opts => some (p.loadUrl around info url opts)
  | .loadStream manifest startIndex opts => some (p.loadStream around manifest startIndex opts)
  | .preload info => some (p.preload info)
  | .play => some (p.play around)
  | .pause => some (p.pause around)
  | .toggle => some (p.toggle around)
  | .seek seconds => some (p.seek around seconds)
  | .seekToStreamTrack index autoplay => some (p.seekToStreamTrack around index autoplay)
  | .nextStreamTrack autoplay => some (p.nextStreamTrack around autoplay)
  | .prevStreamTrack autoplay => some (p.prevStreamTrack around autoplay)
  | .networkReturns => some (p.resumeAfterNetworkReturn around)
  | .unload => some (p.unload around)
  | .destroy => some (p.destroy around)
  | .element event => if p.audio then some (p.hear around event) else none
  | .stallTimerFires => p.stallRecoveryTimer.map (p.stallTimerFires around)
  | .progressIsChecked => if p.progressWatchdog then some (p.checkProgress around) else none
  | .probeAnswered index answer => p.answerProbe around index answer
  | .rebuildAnswered index fresh => p.answerRebuild around index fresh
  | .playRejected name => some (p.handlePlayRejection around name)
  | .deckFails number error => some (p.deckFailed around number error)

end AudioPlayer

end Songmaker.Player
