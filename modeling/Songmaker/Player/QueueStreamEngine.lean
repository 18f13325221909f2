import Mathlib.Algebra.Order.Field.Rat
import Mathlib.Data.List.Basic

namespace Songmaker.Player

/-- Which object a `PlaybackInfo` is: one that an owner handed over, or one that
the stream engine made. -/
inductive PlaybackObject where
  | handed (number : Nat)
  | made (number : Nat)
deriving DecidableEq

/-- A take as the player is handed it. -/
structure PlaybackInfo where
  object : PlaybackObject
  generationId : String
  mp3Path : String
  audioDurationSec : Option ℚ
deriving DecidableEq

structure QueueStreamTrackItem where
  generationId : String
  mp3Path : String
  startOffset : ℚ
  endOffset : ℚ
  duration : ℚ
deriving DecidableEq

/-- The tracks of a stream, each with its place in it. -/
structure QueueStreamManifest where
  tracks : List QueueStreamTrackItem
  streamUrl : String
  windowed : Bool
  totalDuration : ℚ
deriving DecidableEq

/-- Where playback stood when the stream was given up. -/
structure StreamFallbackState where
  manifest : QueueStreamManifest
  trackIndex : Nat
  trackTime : ℚ
deriving DecidableEq

/-- The stream that plays, with its active track. -/
structure StreamSession where
  manifest : QueueStreamManifest
  activeIndex : Nat
deriving DecidableEq

/-- What the player shows of a moment of a stream. -/
structure StreamTrackState where
  info : PlaybackInfo
  currentTime : ℚ
  duration : ℚ
  absoluteTime : ℚ
deriving DecidableEq

/-- The JavaScript `a || b` of two numbers. -/
def orNumber (a b : ℚ) : ℚ :=
  if a = 0 then b else a

/-- A track as the player is handed it, an object of its own each time. -/
def streamTrackToPlaybackInfo (number : Nat) (track : QueueStreamTrackItem) : PlaybackInfo where
  object := .made number
  generationId := track.generationId
  mp3Path := track.mp3Path
  audioDurationSec := some track.duration

/-- `made` counts the `PlaybackInfo` objects made so far. -/
structure QueueStreamEngine where
  session : Option StreamSession
  pendingSeek : Option ℚ
  made : Nat
deriving DecidableEq

namespace QueueStreamEngine

variable (engine : QueueStreamEngine)

def active : Bool :=
  engine.session.isSome

def activeTrack : Option QueueStreamTrackItem :=
  engine.session.bind fun session => session.manifest.tracks[session.activeIndex]?

def activeDuration : ℚ :=
  (engine.activeTrack.map QueueStreamTrackItem.duration).getD 0

def canNext : Bool :=
  match engine.session with
  | none => false
  | some session =>
      if session.manifest.tracks.length ≤ 1 then false
      else !session.manifest.windowed ||
        session.activeIndex + 1 < session.manifest.tracks.length

def canPrev : Bool :=
  match engine.session with
  | none => false
  | some session =>
      if session.manifest.tracks.length ≤ 1 then false
      else !session.manifest.windowed || 0 < session.activeIndex

/-- What the player is to show of the track. -/
def trackState (track : QueueStreamTrackItem) (currentTime absoluteTime : ℚ) :
    QueueStreamEngine × StreamTrackState :=
  ({ engine with made := engine.made + 1 },
    ⟨streamTrackToPlaybackInfo engine.made track, currentTime, track.duration, absoluteTime⟩)

/-- The stream begins at the track, or at the nearest there is. -/
def start (manifest : QueueStreamManifest) (startIndex : Int) :
    QueueStreamEngine × Option StreamTrackState :=
  let index := (max 0 (min startIndex (manifest.tracks.length - 1))).toNat
  match manifest.tracks[index]? with
  | none => (engine, none)
  | some track =>
      let started : QueueStreamEngine :=
        { engine with session := some ⟨manifest, index⟩, pendingSeek := some track.startOffset }
      let (told, state) := started.trackState track 0 track.startOffset
      (told, some state)

def clear : QueueStreamEngine :=
  { engine with session := none, pendingSeek := none }

/-- The place to go to once the stream has loaded. -/
def resumeAt (absoluteSeconds : ℚ) : QueueStreamEngine :=
  if engine.active then { engine with pendingSeek := some (max 0 absoluteSeconds) } else engine

/-- Where `seekLocal` moves the element's clock. -/
def seekLocal (seconds : ℚ) : Option ℚ :=
  engine.activeTrack.map fun track => track.startOffset + max 0 (min seconds track.duration)

/-- The element's clock moves to the `absoluteTime` of the state. -/
def seekToTrack (index : Int) : QueueStreamEngine × Option StreamTrackState :=
  match engine.session with
  | none => (engine, none)
  | some session =>
      if index < 0 then (engine, none)
      else
        match session.manifest.tracks[index.toNat]? with
        | none => (engine, none)
        | some track =>
            let moved : QueueStreamEngine :=
              { engine with session := some { session with activeIndex := index.toNat } }
            let (told, state) := moved.trackState track 0 track.startOffset
            (told, some state)

def nextTrack : QueueStreamEngine × Option StreamTrackState :=
  match engine.session with
  | none => (engine, none)
  | some session =>
      if engine.canNext then
        engine.seekToTrack ((session.activeIndex + 1) % session.manifest.tracks.length : Nat)
      else (engine, none)

def prevTrack : QueueStreamEngine × Option StreamTrackState :=
  match engine.session with
  | none => (engine, none)
  | some session =>
      if engine.canPrev then
        let count := session.manifest.tracks.length
        engine.seekToTrack ((session.activeIndex + count - 1) % count : Nat)
      else (engine, none)

/-- The seek that the element is given, where it takes one. -/
def applyPendingSeek (seekable : Bool) : QueueStreamEngine × Option ℚ :=
  match engine.pendingSeek with
  | none => (engine, none)
  | some seconds =>
      if seekable then ({ engine with pendingSeek := none }, some seconds) else (engine, none)

/-- The index of the track that the clock stands in. -/
def indexAt (manifest : QueueStreamManifest) (absoluteTime : ℚ) : Nat :=
  match manifest.tracks.findIdx? fun track =>
      track.startOffset ≤ absoluteTime ∧ absoluteTime < track.endOffset with
  | some index => index
  | none =>
      if manifest.totalDuration ≤ absoluteTime then manifest.tracks.length - 1 else 0

/-- The active track follows the stream's clock. -/
def updatePosition (absoluteTime : ℚ) : QueueStreamEngine × Option StreamTrackState :=
  match engine.session with
  | none => (engine, none)
  | some session =>
      let index := indexAt session.manifest absoluteTime
      match session.manifest.tracks[index]? with
      | none => (engine, none)
      | some track =>
          let moved : QueueStreamEngine :=
            { engine with session := some { session with activeIndex := index } }
          let (told, state) := moved.trackState track
            (max 0 (min track.duration (absoluteTime - track.startOffset))) absoluteTime
          (told, some state)

/-- Where to go on with the single takes. -/
def fallbackState (localTime absoluteTime : ℚ) : Option StreamFallbackState :=
  engine.session.bind fun session =>
    engine.activeTrack.map fun track =>
      ⟨session.manifest, session.activeIndex,
        orNumber localTime (max 0 (absoluteTime - track.startOffset))⟩

end QueueStreamEngine

end Songmaker.Player
