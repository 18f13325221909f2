import Mathlib

namespace Songmaker.Sharing.ShareLibrary

abbrev Text := List Char

structure Generation where
  id : Text
  songId : Text
  generationNumber : Nat
  mp3Path : Text
  isArchived : Bool
  isPicked : Bool
  createdAt : Nat
deriving DecidableEq

structure Song where
  id : Text
  albumId : Text
  trackNumber : Nat
  shareSlug : Option Text
  isShared : Bool
  deleted : Bool
deriving DecidableEq

structure Album where
  id : Text
  shareSlug : Option Text
  isShared : Bool
  deleted : Bool
deriving DecidableEq

structure Playlist where
  id : Text
  shareSlug : Option Text
  isShared : Bool
deriving DecidableEq

structure PlaylistEntry where
  id : Text
  playlistId : Text
  generationId : Text
  position : Nat
deriving DecidableEq

/-- A unique column that may be null. -/
def UniqueSlugs {Row : Type} (shareSlug : Row → Option Text) (rows : List Row) : Prop :=
  ∀ first ∈ rows, ∀ second ∈ rows, ∀ slug ∈ shareSlug first,
    shareSlug second = some slug → first = second

/-- The library, with what the schema enforces on it. -/
structure Library where
  albums : List Album
  songs : List Song
  generations : List Generation
  playlists : List Playlist
  entries : List PlaylistEntry
  generationIds : (generations.map (·.id)).Nodup
  generationNumbers : ∀ first ∈ generations, ∀ second ∈ generations,
    first.songId = second.songId → first.generationNumber = second.generationNumber →
      first = second
  onePick : ∀ first ∈ generations, ∀ second ∈ generations, first.songId = second.songId →
    first.isPicked = true → second.isPicked = true → first = second
  albumSlugs : UniqueSlugs Album.shareSlug albums
  songSlugs : UniqueSlugs Song.shareSlug songs
  playlistSlugs : UniqueSlugs Playlist.shareSlug playlists

/-- `is_playable_take` and `playable_take_filter`. -/
def isPlayableTake (gen : Generation) : Bool :=
  !gen.mp3Path.isEmpty && !gen.isArchived

/-- The parts of a `PurePosixPath`. -/
def pathParts (filename : Text) : List Text :=
  (filename.splitOn '/').filter fun part => part ≠ [] ∧ part ≠ ['.']

/-- `as_posix` of a relative path. -/
def asPosix (filename : Text) : Text :=
  if pathParts filename = [] then ['.'] else ['/'].intercalate (pathParts filename)

instance : LawfulBEq Text := inferInstanceAs (LawfulBEq (List Char))

/-- Whether `require_canonical_audio_filename` accepts a filename. -/
def isCanonicalAudioFilename (filename : Text) : Bool :=
  filename.head? ≠ some '/' && ['.', '.'] ∉ pathParts filename && asPosix filename = filename

def sharedAudioSuffix : Text := ".mp3".toList

/-- The route with the take's id, if its audio is stored under a proper name. -/
def sharedAudioUrlForTake (route : Text) (gen : Generation) : Option Text :=
  if gen.mp3Path.isEmpty then none
  else if isCanonicalAudioFilename gen.mp3Path then
    some (route ++ '/' :: gen.id ++ sharedAudioSuffix)
  else none

def sharedAudioUrl (route : Text) (generation : Option Generation) : Option Text :=
  match generation with
  | none => none
  | some gen => if isPlayableTake gen then sharedAudioUrlForTake route gen else none

/-- The id that `share_pick_media` gives. -/
def sharePickMedia (generation : Option Generation) : Option Text :=
  (generation.filter fun gen => !gen.mp3Path.isEmpty).map (·.id)

/-- What the JSON of a share says about one take; `key` is the id of its song on
an album and that of its entry in a playlist. -/
structure SharedItem where
  key : Option Text
  audioUrl : Option Text
  generationId : Option Text
deriving DecidableEq

/-- What can be shared. -/
inductive ShareKind where
  | album
  | song
  | playlist
deriving DecidableEq

namespace Library

variable (library : Library)

/-- The takes of a song, newest first. -/
def generationsOf (song : Song) : List Generation :=
  (library.generations.filter fun gen => gen.songId = song.id).insertionSort
    fun first second => second.createdAt ≤ first.createdAt

/-- `_picked_generation`. -/
def pickedGeneration (song : Song) : Option Generation :=
  match (library.generationsOf song).filter fun gen => gen.isPicked && isPlayableTake gen with
  | picked :: _ => some picked
  | [] =>
      (((library.generationsOf song).filter isPlayableTake).insertionSort
        fun first second => first.generationNumber ≤ second.generationNumber).getLast?

def getAlbumBySlug (slug : Text) : Option Album :=
  library.albums.find? fun album => !album.deleted && album.shareSlug = some slug && album.isShared

def getSongBySlug (slug : Text) : Option Song :=
  library.songs.find? fun song => !song.deleted && song.shareSlug = some slug && song.isShared

def getPlaylistBySlug (slug : Text) : Option Playlist :=
  library.playlists.find? fun playlist => playlist.shareSlug = some slug && playlist.isShared

/-- The songs of an album that are not soft-deleted. -/
def songsOf (album : Album) : List Song :=
  library.songs.filter fun song => song.albumId = album.id && !song.deleted

/-- Whether a take has a song that is not soft-deleted. -/
def hasSong (gen : Generation) : Bool :=
  library.songs.any fun song => song.id = gen.songId && !song.deleted

def generationOf (entry : PlaylistEntry) : Option Generation :=
  library.generations.find? fun gen => gen.id = entry.generationId

/-- `_presented_playlist_entries`, each with its take. -/
def presentedPlaylistEntries (playlist : Playlist) : List (PlaylistEntry × Generation) :=
  ((library.entries.filter fun entry => entry.playlistId = playlist.id).insertionSort
    fun first second => first.position ≤ second.position).filterMap fun entry =>
      ((library.generationOf entry).filter library.hasSong).map (entry, ·)

/-- The page of a shared album. -/
def getSharedAlbum (slug : Text) : Option (List SharedItem) :=
  (library.getAlbumBySlug slug).map fun album =>
    ((library.songsOf album).insertionSort
      fun first second => first.trackNumber ≤ second.trackNumber).map fun song =>
        let gen := library.pickedGeneration song
        { key := some song.id
          audioUrl := sharedAudioUrl ("/shared/".toList ++ slug ++ "/audio".toList) gen
          generationId := sharePickMedia gen }

/-- The page of a shared song. -/
def getSharedSong (slug : Text) : Option (List SharedItem) :=
  (library.getSongBySlug slug).map fun song =>
    let gen := library.pickedGeneration song
    [{ key := none
       audioUrl := sharedAudioUrl ("/shared/song/".toList ++ slug ++ "/audio".toList) gen
       generationId := sharePickMedia gen }]

/-- The page of a shared playlist. -/
def getSharedPlaylist (slug : Text) : Option (List SharedItem) :=
  (library.getPlaylistBySlug slug).map fun playlist =>
    (library.presentedPlaylistEntries playlist).map fun (entry, gen) =>
      { key := some entry.id
        audioUrl := sharedAudioUrl ("/shared/playlist/".toList ++ slug ++ "/audio".toList) gen
        generationId := sharePickMedia gen }

/-- The takes in the JSON of a share; `none` where it answers 404. -/
def sharedPage : ShareKind → Text → Option (List SharedItem)
  | .album => library.getSharedAlbum
  | .song => library.getSharedSong
  | .playlist => library.getSharedPlaylist

/-- The subquery `song_has_playable_pick`. -/
def songHasPlayablePick (gen : Generation) : Bool :=
  library.generations.any fun candidate =>
    candidate.songId = gen.songId && candidate.isPicked && isPlayableTake candidate

/-- The subquery `selected_playable_pick_id`. -/
def selectedPlayablePickId (gen : Generation) : Option Text :=
  ((library.generations.filter fun selected =>
    selected.songId = gen.songId && selected.isPicked && isPlayableTake selected).insertionSort
      fun first second => second.createdAt ≤ first.createdAt).head?.map (·.id)

/-- The subquery `latest_playable_generation_number`. -/
def latestPlayableGenerationNumber (gen : Generation) : Option Nat :=
  ((library.generations.filter fun candidate =>
    candidate.songId = gen.songId && isPlayableTake candidate).map (·.generationNumber)).max?

/-- The take that the subqueries select of its song. -/
def isSelected (gen : Generation) : Bool :=
  (gen.isPicked && library.selectedPlayablePickId gen = some gen.id) ||
    (!library.songHasPlayablePick gen &&
      library.latestPlayableGenerationNumber gen = some gen.generationNumber)

/-- The file of a take that its song shows, if the song is shared so. -/
def sharedPickTakeStoredPath (generationId : Text) (shareCondition : Song → Bool) : Option Text :=
  (library.generations.find? fun gen =>
    (library.songs.any fun song => song.id = gen.songId && !song.deleted && shareCondition song) &&
      isPlayableTake gen && library.isSelected gen && gen.id = generationId).map (·.mp3Path)

def sharedAlbumTakeStoredPath (slug generationId : Text) : Option Text :=
  library.sharedPickTakeStoredPath generationId fun song =>
    library.albums.any fun album =>
      song.albumId = album.id && !album.deleted && album.shareSlug = some slug && album.isShared

def sharedSongTakeStoredPath (slug generationId : Text) : Option Text :=
  library.sharedPickTakeStoredPath generationId fun song =>
    song.shareSlug = some slug && song.isShared

/-- The file of a take that a shared playlist lists. -/
def sharedPlaylistTakeStoredPath (slug generationId : Text) : Option Text :=
  (library.generations.find? fun gen =>
    (library.entries.any fun entry => entry.generationId = gen.id &&
      library.playlists.any fun playlist => entry.playlistId = playlist.id &&
        playlist.shareSlug = some slug && playlist.isShared) &&
      library.hasSong gen && isPlayableTake gen && gen.id = generationId).map (·.mp3Path)

/-- The lookup behind the audio route of each kind of share. -/
def takeStoredPath : ShareKind → Text → Text → Option Text
  | .album => library.sharedAlbumTakeStoredPath
  | .song => library.sharedSongTakeStoredPath
  | .playlist => library.sharedPlaylistTakeStoredPath

end Library

structure QueueStreamTrack where
  songId : Text
  entryId : Option Text
  generationId : Text
deriving DecidableEq

/-- The manifest of a stream, as far as a share checks it. -/
structure QueueStreamManifest where
  scope : Text
  scopeId : Text
  tracks : List QueueStreamTrack
deriving DecidableEq

/-- Whether `_validate_shared_queue_manifest` raises nothing. -/
def Library.validateSharedQueueManifest (library : Library) (manifest : QueueStreamManifest) :
    Bool :=
  if manifest.scope = "shared-playlist".toList then
    match library.getPlaylistBySlug manifest.scopeId with
    | none => false
    | some playlist =>
        manifest.tracks.all fun track =>
          (library.presentedPlaylistEntries playlist).any fun (entry, gen) =>
            isPlayableTake gen && track.entryId = some entry.id && track.generationId = gen.id
  else if manifest.scope = "shared-album".toList then
    match library.getAlbumBySlug manifest.scopeId with
    | none => false
    | some album =>
        manifest.tracks.all fun track =>
          (library.songsOf album).any fun song =>
            (library.pickedGeneration song).any fun gen =>
              track.songId = song.id && track.generationId = gen.id
  else false

end Songmaker.Sharing.ShareLibrary
