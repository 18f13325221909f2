import Mathlib.Data.List.Perm.Basic
import Songmaker.Foundation.TransitionSystem
import Songmaker.Player.QueueStreamEngine

/-!
`SharePlayback`: the player of a share's page. A press loads its track at once or
waits for the share's stream, and in between come other presses, the answers of
the streams asked for, the playhead and owners that take the player over.
-/

namespace Songmaker.Sharing.SharePlayback

open Songmaker.Foundation
open Songmaker.Player (QueueStreamManifest QueueStreamTrackItem)

inductive SharedCollectionKind where
  | album
  | song
  | playlist
  | take
deriving DecidableEq

/-- A row of a shared page. -/
structure SharedTrack where
  key : String
  audioUrl : Option String
deriving DecidableEq

/-- The rows of a share name each song, or each entry of a playlist, once. -/
structure SharedCollectionView where
  kind : SharedCollectionKind
  tracks : List SharedTrack
  nodup_keys : (tracks.map SharedTrack.key).Nodup

/-- The rows that have audio. -/
def playableTracks (tracks : List SharedTrack) : List SharedTrack :=
  tracks.filter fun track => track.audioUrl.isSome

structure StreamTrack extends QueueStreamTrackItem where
  index : Nat
  entryId : Option String
  songId : String
deriving DecidableEq

/-- A manifest that the server answered: it numbers its tracks in their order. -/
structure StreamManifest where
  tracks : List StreamTrack
  streamUrl : String
  totalDuration : ℚ
  expiresAt : Nat
  index_eq : ∀ (i : Nat) (track : StreamTrack), tracks[i]? = some track → track.index = i

/-- The manifest as the stream engine reads it. A share's stream is windowed. -/
def StreamManifest.windowed (manifest : StreamManifest) : QueueStreamManifest where
  tracks := manifest.tracks.map StreamTrack.toQueueStreamTrackItem
  streamUrl := manifest.streamUrl
  windowed := true
  totalDuration := manifest.totalDuration

def streamRefreshMarginMs : Nat := 60000

inductive PlaybackMode where
  | classic
  | stream
deriving DecidableEq

/-- The stream that a share plays, with its active track. -/
structure ShareSession where
  manifest : StreamManifest
  activeIndex : Nat

def ShareSession.activeTrack (session : ShareSession) : Option StreamTrack :=
  session.manifest.tracks[session.activeIndex]?

/-- A press that waits: for the manifest the share holds, or for one that it asks for. -/
structure Request where
  track : SharedTrack
  tenure : Nat
  cached : Option StreamManifest

/-- A recovery that asks for a fresh stream, with the take it began at and the number of takes
that had become current. -/
structure Rebuild where
  tenure : Nat
  generationId : String
  currents : Nat

/-- The share's own fields, the player's as far as the share sees them, and in `asked` the row that
the last press asked for or that was reached from it. -/
structure State where
  collection : Option SharedCollectionView
  baseTracks : List SharedTrack
  playOrder : List SharedTrack
  activeIndex : Option Nat
  manifest : Option StreamManifest
  fetchStream : Bool
  shuffle : Bool
  ended : Bool
  tenure : Option Nat
  heldTenure : Nat
  mode : PlaybackMode
  session : Option ShareSession
  /-- The generation id of the player's current take. -/
  current : Option String
  currents : Nat
  requests : List Request
  rebuilds : List Rebuild
  asked : Option String

/-- The row that a track of the stream belongs to. -/
def streamKeyOf (collection : Option SharedCollectionView) (track : StreamTrack) :
    Option String :=
  match collection.map SharedCollectionView.kind with
  | some .album => some track.songId
  | some .playlist => track.entryId
  | _ => none

def rowOf (rows : List SharedTrack) (key : String) : Option Nat :=
  rows.findIdx? fun track => track.key == key

namespace State

/-- The row that is highlighted. -/
def currentTrack (s : State) : Option SharedTrack :=
  s.activeIndex.bind fun index => s.playOrder[index]?

def locateActiveIndex (s : State) : Option String → Option Nat
  | none => none
  | some generationId =>
      match s.mode, s.manifest with
      | .stream, some manifest =>
          match (manifest.tracks.find? fun track => track.generationId == generationId).bind
              (streamKeyOf s.collection) with
          | some key => if key = "" then none else rowOf s.playOrder key
          | none => none
      | _, _ => rowOf s.playOrder generationId

/-- The player's current take changes, and the share's `onCurrentChange` hears so. -/
def setCurrent (s : State) (current : Option String) : State :=
  { s with
    current := current
    currents := s.currents + 1
    activeIndex := s.locateActiveIndex current }

/-- A take is played by itself. -/
def loadUrl (s : State) (track : SharedTrack) : State :=
  { s with manifest := none, mode := .classic, session := none }.setCurrent (some track.key)

/-- The stream is played from one of its tracks. -/
def loadStream (s : State) (manifest : StreamManifest) (startIndex : Nat) : State :=
  match manifest.tracks[min startIndex (manifest.tracks.length - 1)]? with
  | none => s
  | some track =>
      { s with
        mode := .stream
        session := some ⟨manifest, min startIndex (manifest.tracks.length - 1)⟩
      }.setCurrent (some track.generationId)

/-- The share has a stream, and is not shuffled. -/
def canUseStream (s : State) : Bool :=
  s.fetchStream && !s.shuffle

/-- The manifest that `ensureManifest` answers without asking the server. -/
def freshManifest (s : State) (now : Nat) : Option StreamManifest :=
  s.manifest.filter fun manifest => now + streamRefreshMarginMs < manifest.expiresAt

/-- The row is played, from the stream where that can be had. -/
def playTrack (s : State) (track : SharedTrack) (now : Nat) : State :=
  match s.tenure with
  | none => s
  | some tenure =>
      if track.audioUrl = none ∨ s.collection.isNone then s
      else if s.canUseStream then
        { s with
          ended := false
          requests := s.requests ++ [⟨track, tenure, s.freshManifest now⟩] }
      else if tenure = s.heldTenure then { s with ended := false }.loadUrl track
      else { s with ended := false }

/-- Where the manifest has the row that was asked for. -/
def placeOf (s : State) (request : Request) (manifest : StreamManifest) : Option StreamTrack :=
  manifest.tracks.find? fun track => streamKeyOf s.collection track = some request.track.key

/-- A press goes on with the stream it waited for, or with none. -/
def goOn (s : State) (request : Request) (manifest : Option StreamManifest) : State :=
  if request.tenure ≠ s.heldTenure then s
  else
    match manifest with
    | none => s.loadUrl request.track
    | some manifest =>
        match s.placeOf request manifest with
        | some place => s.loadStream manifest place.index
        | none => s.loadUrl request.track

/-- A press for the row asked for still waits. -/
def coming (s : State) : Bool :=
  s.requests.any fun request =>
    request.tenure == s.heldTenure && s.asked == some request.track.key

/-- The listener presses for a row. -/
def press (s : State) (track : SharedTrack) (now : Nat) : State :=
  if track.audioUrl = none then s
  else { s with asked := some track.key }.playTrack track now

/-- The playhead, next or prev reaches a row, from the one asked for unless that still waits. -/
def reach (s : State) (key : Option String) : State :=
  { s with asked := if s.coming then s.asked else key }

def play (s : State) (now : Nat) : State :=
  match s.currentTrack, s.ended with
  | some track, false => { s with asked := some track.key }
  | _, _ =>
      match s.playOrder[0]? with
      | some first => s.press first now
      | none => s

/-- A row is pressed: the current one goes on, another one is played. -/
def toggle (s : State) (track : SharedTrack) (now : Nat) : State :=
  if s.currentTrack.map SharedTrack.key = some track.key then { s with asked := some track.key }
  else s.press track now

def jump (s : State) (orderIndex : Nat) (now : Nat) : State :=
  match s.playOrder[orderIndex]? with
  | some track => s.press track now
  | none => s

def advanceClassic (s : State) (target : Option Nat) (now : Nat) : State :=
  match target.bind fun index => s.playOrder[index]? with
  | some track => (s.reach (some track.key)).playTrack track now
  | none => s

/-- `nextStreamTrack` and `prevStreamTrack` move the playhead to the start of a track. -/
def seekToTrack (s : State) (session : ShareSession) (index : Nat) : State :=
  match session.manifest.tracks[index]? with
  | none => s
  | some track =>
      ({ s with session := some { session with activeIndex := index } }.setCurrent
        (some track.generationId)).reach (streamKeyOf s.collection track)

/-- The next track of the stream, or the next row. -/
def next (s : State) (now : Nat) : State :=
  if s.mode = .stream then
    match s.session with
    | none => s
    | some session => s.seekToTrack session (session.activeIndex + 1)
  else s.advanceClassic (some ((s.activeIndex.map (· + 1)).getD 0)) now

/-- The track before, or the row before. -/
def prev (s : State) (now : Nat) : State :=
  if s.mode = .stream then
    match s.session with
    | none => s
    | some session =>
        if session.activeIndex = 0 then s else s.seekToTrack session (session.activeIndex - 1)
  else
    s.advanceClassic (s.activeIndex.bind fun index => if index = 0 then none else some (index - 1))
      now

/-- There is something after what is played. -/
def canNext (s : State) : Bool :=
  match s.mode with
  | .stream =>
      (s.session.map fun session =>
        decide (session.activeIndex + 1 < session.manifest.tracks.length)).getD false
  | .classic => (s.activeIndex.map (· + 1)).getD 0 < s.playOrder.length

/-- What is played has come to its end. -/
def takeEnds (s : State) (windowEnd : Bool) (now : Nat) : State :=
  if windowEnd || !s.canNext then { s with ended := true } else s.next now

/-- What `shuffled` may make of the rows. -/
def Shuffled (anchor : Option SharedTrack) (rows order : List SharedTrack) : Prop :=
  match anchor with
  | none => order.Perm rows
  | some track =>
      order.head? = some track ∧ order.tail.Perm (rows.filter fun other => other.key != track.key)

instance (anchor : Option SharedTrack) (rows order : List SharedTrack) :
    Decidable (Shuffled anchor rows order) :=
  match anchor with
  | none => inferInstanceAs (Decidable (order.Perm rows))
  | some track => inferInstanceAs (Decidable (order.head? = some track ∧
      order.tail.Perm (rows.filter fun other => other.key != track.key)))

/-- The rows are put into another order. -/
def setShuffle (s : State) (shuffle : Bool) (order : List SharedTrack) (now : Nat) : State :=
  match s.currentTrack with
  | none => { s with shuffle := shuffle, playOrder := order, activeIndex := none }
  | some anchor =>
      { s with
        shuffle := shuffle
        playOrder := order
        activeIndex := rowOf order anchor.key }.playTrack anchor now

/-- The stream's clock has moved. -/
def playheadAt (s : State) (session : ShareSession) (absoluteTime : ℚ) : State :=
  let index := Player.QueueStreamEngine.indexAt session.manifest.windowed absoluteTime
  match session.manifest.tracks[index]? with
  | none => s
  | some track =>
      let moved := { s with session := some { session with activeIndex := index } }
      (if s.current = some track.generationId then moved
        else moved.setCurrent (some track.generationId)).reach (streamKeyOf s.collection track)

/-- Where a rebuilt stream goes on: at its first track of the take, or at its first track. -/
def matchedIndex (manifest : StreamManifest) (generationId : String) : Nat :=
  (manifest.tracks.findIdx? fun track => track.generationId == generationId).getD 0

/-- A rebuilt stream comes. `quiet` says that a pause or a failure came meanwhile. -/
def rebuilt (s : State) (rebuild : Rebuild) (manifest : StreamManifest) (quiet : Bool) : State :=
  if rebuild.tenure ≠ s.heldTenure then s
  else if rebuild.currents ≠ s.currents ∨ quiet ∨ manifest.tracks.length = 0 then
    { s with manifest := some manifest }
  else
    { s with manifest := some manifest }.loadStream manifest
      (matchedIndex manifest rebuild.generationId)

/-- A share is opened. -/
def start (s : State) (collection : SharedCollectionView) (fetchStream : Bool) : State :=
  { s with
    collection := some collection
    baseTracks := playableTracks collection.tracks
    playOrder := playableTracks collection.tracks
    activeIndex := none
    manifest := none
    fetchStream := fetchStream
    shuffle := false
    ended := false
    tenure := some (s.heldTenure + 1)
    heldTenure := s.heldTenure + 1
    mode := .classic
    session := none
    current := none
    currents := s.currents + 1
    asked := none }

/-- Another owner takes the player over, or the share gives it back. -/
def takenOver (s : State) (mode : PlaybackMode) : State :=
  { s with
    heldTenure := s.heldTenure + 1
    mode := mode
    session := none
    current := none
    currents := s.currents + 1
    asked := none }

end State

/-- What a visitor presses, and what the element, the server and another player do. -/
inductive Action where
  | start (collection : SharedCollectionView) (fetchStream : Bool)
  | takenOver (mode : PlaybackMode)
  | play (now : Nat)
  | toggle (track : SharedTrack) (now : Nat)
  | jump (orderIndex : Nat) (now : Nat)
  | next (now : Nat)
  | prev (now : Nat)
  | setShuffle (shuffle : Bool) (order : List SharedTrack) (now : Nat)
  | takeEnds (windowEnd : Bool) (now : Nat)
  | playbackStarts
  /-- The server answers the stream that a press asked for. -/
  | fetched (index : Nat) (manifest : StreamManifest)
  | fetchFails (index : Nat)
  /-- A press goes on with the manifest the share held. -/
  | goesOn (index : Nat)
  | playheadAt (absoluteTime : ℚ)
  | asksRebuild
  | rebuilt (index : Nat) (manifest : StreamManifest) (quiet : Bool)
  | rebuildFails (index : Nat)

def act (s : State) : Action → Option State
  | .start collection fetchStream => some (s.start collection fetchStream)
  | .takenOver mode => some (s.takenOver mode)
  | .play now => some (s.play now)
  | .toggle track now => do
      let collection ← s.collection
      if track ∈ collection.tracks then some (s.toggle track now) else none
  | .jump orderIndex now => some (s.jump orderIndex now)
  | .next now => some (s.next now)
  | .prev now => some (s.prev now)
  | .setShuffle shuffle order now =>
      if s.shuffle = shuffle then none
      else if shuffle then
        if State.Shuffled s.currentTrack s.baseTracks order then
          some (s.setShuffle true order now)
        else none
      else some (s.setShuffle false s.baseTracks now)
  | .takeEnds windowEnd now =>
      if s.tenure = some s.heldTenure then some (s.takeEnds windowEnd now) else none
  | .playbackStarts =>
      if s.tenure = some s.heldTenure then some { s with ended := false } else none
  | .fetched index manifest => do
      let request ← s.requests[index]?
      if request.cached.isSome then none
      else
        let left := { s with requests := s.requests.eraseIdx index }
        some (({ left with
          manifest := if request.tenure = s.heldTenure then some manifest else s.manifest }).goOn
            request (some manifest))
  | .fetchFails index => do
      let request ← s.requests[index]?
      if request.cached.isSome then none
      else some ({ s with requests := s.requests.eraseIdx index }.goOn request none)
  | .goesOn index => do
      let request ← s.requests[index]?
      let manifest ← request.cached
      some ({ s with requests := s.requests.eraseIdx index }.goOn request (some manifest))
  | .playheadAt absoluteTime => s.session.map fun session => s.playheadAt session absoluteTime
  | .asksRebuild => do
      let session ← s.session
      let track ← session.activeTrack
      if s.tenure = some s.heldTenure ∧ s.fetchStream then
        some { s with
          rebuilds := s.rebuilds ++ [⟨s.heldTenure, track.generationId, s.currents⟩] }
      else none
  | .rebuilt index manifest quiet => do
      let rebuild ← s.rebuilds[index]?
      some ({ s with rebuilds := s.rebuilds.eraseIdx index }.rebuilt rebuild manifest quiet)
  | .rebuildFails index => s.rebuilds[index]?.map fun _ =>
      { s with rebuilds := s.rebuilds.eraseIdx index }

/-- No share has been started yet. -/
structure Initial (s : State) : Prop where
  tenure : s.tenure = none
  requests : s.requests = []
  rebuilds : s.rebuilds = []

def sharePlayback : TransitionSystem State Action :=
  TransitionSystem.ofAct Initial act

/-- The page has the player. -/
def Held (s : State) : Prop := s.tenure = some s.heldTenure

/-- No manifest is awaited. -/
def NoFetch (s : State) : Prop :=
  ∀ request ∈ s.requests, request.tenure ≠ s.heldTenure

/-- The row whose take is under the playhead. -/
def State.playedKey (s : State) : Option String :=
  match s.session with
  | some session => session.activeTrack.bind (streamKeyOf s.collection)
  | none => s.current

/-- The share plays what was pressed last and shows the row it plays. -/
structure Right (s : State) : Prop where
  asked : NoFetch s → ∀ key ∈ s.asked, s.playedKey = some key
  stream : NoFetch s → s.mode = .stream → s.shuffle = false
  entry : s.currentTrack.map SharedTrack.key = s.playedKey

/-- The first track of the share's manifest with this track's take stands for the same row, and the
share shows that row. -/
def Named (s : State) (track : StreamTrack) : Prop :=
  ∃ manifest ∈ s.manifest, ∃ key ∈ streamKeyOf s.collection track,
    (manifest.tracks.find? fun other => other.generationId == track.generationId).bind
        (streamKeyOf s.collection) = some key ∧
      key ≠ "" ∧ key ∈ s.playOrder.map SharedTrack.key

/-- A press goes on: it asks for the row asked for last or that one still waits, and a stream is
loaded with shuffle off, at a track named first. -/
def SoundLoad (s : State) (request : Request) (manifest : Option StreamManifest) : Prop :=
  request.tenure = s.heldTenure →
    (s.asked = some request.track.key ∨ s.coming = true) ∧
      ∀ answered ∈ manifest, ∀ place ∈ s.placeOf request answered,
        s.shuffle = false ∧ Named s place

/-- The track after the playhead's is named first. -/
def SoundNext (s : State) : Prop :=
  ∀ session ∈ s.session, ∀ track ∈ session.manifest.tracks[session.activeIndex + 1]?,
    Named s track

def Sound (s : State) : Action → Prop
  | .fetched index manifest =>
      ∀ request ∈ s.requests[index]?,
        SoundLoad { s with
          requests := s.requests.eraseIdx index, manifest := some manifest } request (some manifest)
  | .fetchFails index =>
      ∀ request ∈ s.requests[index]?,
        SoundLoad { s with requests := s.requests.eraseIdx index } request none
  | .goesOn index =>
      ∀ request ∈ s.requests[index]?,
        SoundLoad { s with requests := s.requests.eraseIdx index } request request.cached
  | .playheadAt absoluteTime =>
      ∀ session ∈ s.session,
        ∀ track ∈ session.manifest.tracks[
            Player.QueueStreamEngine.indexAt session.manifest.windowed absoluteTime]?,
          if s.current = some track.generationId then
            streamKeyOf s.collection track = s.playedKey
          else Named s track
  | .next _ => SoundNext s
  | .takeEnds windowEnd _ => windowEnd = false → SoundNext s
  | .prev _ =>
      ∀ session ∈ s.session, 0 < session.activeIndex →
        ∀ track ∈ session.manifest.tracks[session.activeIndex - 1]?, Named s track
  | .rebuilt index manifest quiet =>
      ∀ rebuild ∈ s.rebuilds[index]?, rebuild.tenure = s.heldTenure →
        rebuild.currents = s.currents → quiet = false →
          ∀ track ∈ manifest.tracks[State.matchedIndex manifest rebuild.generationId]?,
            streamKeyOf s.collection track = s.playedKey ∧
              Named { s with manifest := some manifest } track
  | _ => True

end Songmaker.Sharing.SharePlayback
