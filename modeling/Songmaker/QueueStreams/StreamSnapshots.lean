import Songmaker.Foundation.PythonText
import Songmaker.Foundation.TransitionSystem
import Songmaker.QueueStreams.StreamLibrary

namespace Songmaker.QueueStreams.StreamSnapshots

open Songmaker.Foundation
open Songmaker.QueueStreams.StreamLibrary

/-- Whose stream a snapshot is. -/
inductive SnapshotScope where
  | auth
  | sharedPlaylist
  | sharedAlbum
deriving DecidableEq

def SnapshotScope.text : SnapshotScope → List Char
  | .auth => "auth".toList
  | .sharedPlaylist => "shared-playlist".toList
  | .sharedAlbum => "shared-album".toList

/-- A track of the manifest. -/
structure QueueStreamTrackResponse where
  key : Ident
  index : Nat
  entryId : Option Ident
  generationId : Ident
  songId : List Char
  songTitle : String
  artist : String
  albumTitle : String
  lyrics : Option String
  generationNumber : Nat
  mp3Path : Option Ident
  audioUrl : Ident
  seed : Option Int
  modelMode : String
  duration : ℚ
  startOffset : ℚ
  endOffset : ℚ
deriving DecidableEq

/-- A source whose file has been measured. -/
structure QueueStreamPreparedSource where
  source : QueueStreamSource
  duration : ℚ
  size : Nat
  mtimeNs : Nat
deriving DecidableEq

/-- The sources that fit into the stream. -/
structure QueueStreamAdmission where
  preparedSources : List QueueStreamPreparedSource
  windowedByCount : Bool

/-- Half goes to the even neighbour. -/
def roundHalfEven (q : ℚ) : Int :=
  if q - q.floor < 1 / 2 then q.floor
  else if 1 / 2 < q - q.floor then q.floor + 1
  else if q.floor % 2 = 0 then q.floor
  else q.floor + 1

/-- `round(q, 3)` -/
def round3 (q : ℚ) : ℚ :=
  roundHalfEven (q * 1000) / 1000

/-- `f"{q:.3f}"` for a duration. -/
def format3 (q : ℚ) : List Char :=
  let n := (roundHalfEven (q * 1000)).toNat
  Nat.toDigits 10 (n / 1000) ++ '.' :: Nat.toDigits 10 (n / 100 % 10) ++
    Nat.toDigits 10 (n / 10 % 10) ++ Nat.toDigits 10 (n % 10)

def queueStreamTtl : ℚ := 8 * 60 * 60

def queueStreamMaxTracks : Nat := 200

def queueStreamMaxDurationSeconds : ℚ := 60 * 60 * 6

/-- How long the joining of that much audio may take. -/
def queueStreamFfmpegTimeoutSeconds (duration : ℚ) : Int :=
  (duration / 100).ceil + 120

def queueStreamDurationFitsFfmpegTimeout (duration : ℚ) : Bool :=
  queueStreamFfmpegTimeoutSeconds duration ≤
    queueStreamFfmpegTimeoutSeconds queueStreamMaxDurationSeconds

/-- The loop of `prepare_queue_stream_admission`, with the prepared sources and
their total duration. -/
def prepareFrom (files : Ident → Option AudioFile) (total : ℚ) :
    List QueueStreamSource → Option (List QueueStreamPreparedSource × ℚ)
  | [] => some ([], total)
  | source :: sources => do
      let path ← source.generation.mp3Path
      let file ← files path
      let duration ← file.duration
      if queueStreamMaxDurationSeconds < total + duration then none
      else
        let (prepared, total) ← prepareFrom files (total + duration) sources
        return ({ source := source, duration := duration, size := file.size
                  mtimeNs := file.mtimeNs } :: prepared, total)

/-- `none` is a refused request. -/
def prepareQueueStreamAdmission (files : Ident → Option AudioFile)
    (sources : List QueueStreamSource) : Option QueueStreamAdmission := do
  if sources.isEmpty then none
  else
    let (prepared, total) ← prepareFrom files 0 (sources.take queueStreamMaxTracks)
    if queueStreamDurationFitsFfmpegTimeout total then
      return { preparedSources := prepared
               windowedByCount := queueStreamMaxTracks < sources.length }
    else none

def orEmpty (id : Option Ident) : List Char :=
  (id.map Ident.chars).getD []

/-- What the hash has of a source. -/
def contentParts (prepared : QueueStreamPreparedSource) : List (List Char) :=
  let source := prepared.source
  let gen := source.generation
  [Nat.toDigits 10 source.index, source.key.chars, orEmpty source.entryId, gen.id.chars,
    orEmpty gen.versionId, orEmpty gen.mp3Path, source.audioUrl.chars,
    Nat.toDigits 10 prepared.size, Nat.toDigits 10 prepared.mtimeNs, format3 prepared.duration]

/-- What `_content_hash` feeds to the hash. -/
def contentText (scope : SnapshotScope) (scopeId : Ident) (windowed : Bool)
    (prepared : List QueueStreamPreparedSource) : List Char :=
  scope.text ++ '\x00' :: scopeId.chars ++ '\x00' ::
    (if windowed then "True".toList else "False".toList) ++
    prepared.flatMap fun p => '\x00' :: ['\x1f'].intercalate (contentParts p)

/-- The hash of what a snapshot has been made of. -/
def contentHash (hexdigest : List UInt8 → String) (scope : SnapshotScope) (scopeId : Ident)
    (windowed : Bool) (prepared : List QueueStreamPreparedSource) : String :=
  hexdigest (encodeUtf8 (contentText scope scopeId windowed prepared))

/-- A version that is named but not there raises. -/
def generationVersionLyrics (gen : LoadedGeneration) : Option (Option String) :=
  if gen.versionId.isNone then some none
  else gen.version.map fun version =>
    if version.lyrics = "" then none else some version.lyrics

/-- The track of a source between two offsets. -/
def trackResponse (source : QueueStreamSource) (gen : LoadedGeneration)
    (duration start stop : ℚ) : Option QueueStreamTrackResponse := do
  let lyrics ← generationVersionLyrics gen
  let album := gen.song.bind LoadedSong.album
  return {
    key := source.key
    index := source.index
    entryId := source.entryId
    generationId := gen.id
    songId := (gen.song.map fun song => song.id.chars).getD []
    songTitle := (gen.song.map LoadedSong.title).getD ""
    artist := (album.map Album.artist).getD ""
    albumTitle := (album.map Album.title).getD ""
    lyrics := lyrics
    generationNumber := gen.generationNumber
    mp3Path := gen.mp3Path
    audioUrl := source.audioUrl
    seed := gen.seed
    modelMode := gen.modelMode
    duration := round3 duration
    startOffset := round3 start
    endOffset := round3 stop }

/-- The tracks of a build, and where the last one ends. -/
def tracksFrom (offset : ℚ) :
    List QueueStreamPreparedSource → Option (List QueueStreamTrackResponse × ℚ)
  | [] => some ([], offset)
  | prepared :: rest => do
      let track ← trackResponse prepared.source prepared.source.generation prepared.duration
        offset (offset + prepared.duration)
      let (tracks, stop) ← tracksFrom (offset + prepared.duration) rest
      return (track :: tracks, stop)

/-- The manifest of a snapshot, as it is cached. -/
structure QueueStreamManifest where
  snapshotId : Nat
  scope : SnapshotScope
  scopeId : Ident
  contentHash : String
  expiresAt : ℚ
  totalDuration : ℚ
  tracks : List QueueStreamTrackResponse
  windowed : Bool

/-- The answer to a request for a stream. -/
structure QueueStreamManifestResponse where
  snapshotId : Nat
  expiresAt : ℚ
  totalDuration : ℚ
  tracks : List QueueStreamTrackResponse
  windowed : Bool
  skipped : List Ident
  skippedComplete : Bool
deriving DecidableEq

def QueueStreamManifest.response (manifest : QueueStreamManifest) :
    QueueStreamManifestResponse where
  snapshotId := manifest.snapshotId
  expiresAt := manifest.expiresAt
  totalDuration := manifest.totalDuration
  tracks := manifest.tracks
  windowed := manifest.windowed
  skipped := []
  skippedComplete := true

/-- The manifest of a build. -/
def buildManifest (hexdigest : List UInt8 → String) (scope : SnapshotScope) (scopeId : Ident)
    (admission : QueueStreamAdmission) (snapshotId : Nat) (now : ℚ) :
    Option QueueStreamManifest := do
  let (tracks, stop) ← tracksFrom 0 admission.preparedSources
  return {
    snapshotId := snapshotId
    scope := scope
    scopeId := scopeId
    contentHash := contentHash hexdigest scope scopeId admission.windowedByCount
      admission.preparedSources
    expiresAt := now + queueStreamTtl
    totalDuration := round3 stop
    tracks := tracks
    windowed := admission.windowedByCount }

/-- A manifest on disk, with its file's time and whether its audio is there.
No method reads `prepared`, the sources that it was built from. -/
structure CacheEntry where
  manifest : QueueStreamManifest
  mtime : ℚ
  hasAudio : Bool
  prepared : List QueueStreamPreparedSource

/-- The manifest has not expired, and its audio is there. -/
def CacheEntry.isLive (entry : CacheEntry) (now : ℚ) : Bool :=
  !(entry.manifest.expiresAt < now) && entry.hasAudio

/-- The newest live snapshot with the hash. -/
def findReusableSnapshot (cache : List CacheEntry) (hash : String) (now : ℚ) :
    Option CacheEntry :=
  (cache.insertionSort fun entry entry' => entry'.mtime ≤ entry.mtime).find? fun entry =>
    entry.manifest.contentHash = hash && entry.isLive now

/-- An answer, and what a fresh build for the sources of its request returns. -/
structure Answer where
  response : QueueStreamManifestResponse
  reused : Bool
  fresh : Option QueueStreamManifestResponse

/-- What a response says about the stream, its own address and life aside. -/
def QueueStreamManifestResponse.shown (response : QueueStreamManifestResponse) :
    QueueStreamManifestResponse :=
  { response with snapshotId := 0, expiresAt := 0 }

/-- The library, the cache and, read by no method, the answers given so far. -/
structure State where
  library : Library
  cache : List CacheEntry
  now : ℚ
  nextSnapshot : Nat
  answers : List Answer

/-- What a stream of the scope plays. -/
def sources (library : Library) : SnapshotScope → Ident → Option (List QueueStreamSource)
  | .sharedAlbum, slug => library.albumSources slug
  | .sharedPlaylist, slug => library.playlistSources slug
  | .auth, _ => none

/-- A request to a share route. `builds` says whether `ffmpeg` writes the audio. -/
def buildQueueStreamSnapshot (hexdigest : List UInt8 → String) (state : State)
    (scope : SnapshotScope) (slug : Ident) (builds : Bool) : Option State := do
  let sources ← sources state.library scope slug
  let admission ← prepareQueueStreamAdmission state.library.files sources
  let hash := contentHash hexdigest scope slug admission.windowedByCount admission.preparedSources
  let built := buildManifest hexdigest scope slug admission state.nextSnapshot state.now
  match findReusableSnapshot state.cache hash state.now with
  | some entry => return { state with
      answers := ⟨entry.manifest.response, true, built.map QueueStreamManifest.response⟩ ::
        state.answers }
  | none =>
      let manifest ← built
      if !builds then none
      else return { state with
        cache := ⟨manifest, state.now, true, admission.preparedSources⟩ :: state.cache
        nextSnapshot := state.nextSnapshot + 1
        answers := ⟨manifest.response, false, some manifest.response⟩ :: state.answers }

/-- The library is edited, a stream is asked for, and cached files go. -/
inductive Action where
  | edit (edit : Edit)
  | stream (scope : SnapshotScope) (slug : Ident) (builds : Bool)
  /-- A cleanup or an eviction removes a snapshot's manifest. -/
  | dropManifest (snapshotId : Nat)
  /-- A cleanup or an eviction removes a snapshot's audio. -/
  | dropAudio (snapshotId : Nat)
  | tick (now : ℚ)

def act (hexdigest : List UInt8 → String) (state : State) : Action → Option State
  | .edit edit => do
      let library ← state.library.edit edit
      return { state with library := library }
  | .stream scope slug builds => buildQueueStreamSnapshot hexdigest state scope slug builds
  | .dropManifest snapshotId => some { state with
      cache := state.cache.filter fun entry => entry.manifest.snapshotId ≠ snapshotId }
  | .dropAudio snapshotId => some { state with
      cache := state.cache.map fun entry =>
        if entry.manifest.snapshotId = snapshotId then { entry with hasAudio := false }
        else entry }
  | .tick now => if now < state.now then none else some { state with now := now }

def emptyState : State := ⟨emptyLibrary, [], 0, 0, []⟩

/-- The cache before any stream, and its steps. -/
def queueStreams (hexdigest : List UInt8 → String) : TransitionSystem State Action :=
  .ofAct (fun state => state = emptyState) (act hexdigest)

end Songmaker.QueueStreams.StreamSnapshots
