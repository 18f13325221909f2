import Mathlib.Algebra.Order.Field.Rat
import Mathlib.Data.List.Sort

namespace Songmaker.QueueStreams.StreamLibrary

/-- An id, a slug or a stored path. It is not empty, and holds none of the two
characters that separate the parts of a content hash. -/
structure Ident where
  chars : List Char
  nonempty : chars ≠ []
  unseparated : '\x00' ∉ chars ∧ '\x1f' ∉ chars
deriving DecidableEq

namespace Ident

theorem unseparated_append {text text' : List Char} (h : '\x00' ∉ text ∧ '\x1f' ∉ text)
    (h' : '\x00' ∉ text' ∧ '\x1f' ∉ text') :
    '\x00' ∉ text ++ text' ∧ '\x1f' ∉ text ++ text' := by
  simp only [List.mem_append, not_or]
  exact ⟨⟨h.1, h'.1⟩, ⟨h.2, h'.2⟩⟩

instance : Append Ident where
  append id id' :=
    { chars := id.chars ++ id'.chars
      nonempty := List.append_ne_nil_of_left_ne_nil id.nonempty _
      unseparated := unseparated_append id.unseparated id'.unseparated }

theorem unseparated_toDigits (n : Nat) :
    '\x00' ∉ Nat.toDigits 10 n ∧ '\x1f' ∉ Nat.toDigits 10 n := by
  constructor <;>
    · intro hmem
      exact absurd (Nat.isDigit_of_mem_toDigits (by decide) (by decide) hmem) (by decide)

/-- The number as text. -/
def ofNat (n : Nat) : Ident where
  chars := Nat.toDigits 10 n
  nonempty := Nat.toDigits_ne_nil
  unseparated := unseparated_toDigits n

end Ident

structure Album where
  id : Ident
  title : String
  artist : String
deriving DecidableEq

structure Song where
  id : Ident
  albumId : Ident
  trackNumber : Nat
  title : String
  deleted : Bool
deriving DecidableEq

structure Version where
  id : Ident
  lyrics : String
deriving DecidableEq

/-- A take. An empty audio path is `none`. -/
structure Generation where
  id : Ident
  songId : Ident
  versionId : Option Ident
  generationNumber : Nat
  seed : Option Int
  modelMode : String
  mp3Path : Option Ident
  isArchived : Bool
  isPicked : Bool
deriving DecidableEq

structure PlaylistEntry where
  id : Ident
  position : Nat
  generationId : Ident
deriving DecidableEq

/-- What `stat` and the duration probe read of an audio file. The probe can fail. -/
structure AudioFile where
  size : Nat
  mtimeNs : Nat
  duration : Option ℚ
deriving DecidableEq

/-- The tables, the shares by slug, and the audio files by stored path. No
method reads `issued`, the ids that takes have ever had. -/
structure Library where
  albums : List Album
  songs : List Song
  versions : List Version
  generations : List Generation
  sharedAlbums : Ident → Option Ident
  sharedPlaylists : Ident → Option (List PlaylistEntry)
  files : Ident → Option AudioFile
  issued : List Ident

/-- A song as the stream's query loads it, with its album. -/
structure LoadedSong where
  id : Ident
  title : String
  album : Option Album
deriving DecidableEq

/-- A take with its song, the song's album and its version, as
`ensure_sources_detachable` leaves it. -/
structure LoadedGeneration where
  id : Ident
  versionId : Option Ident
  generationNumber : Nat
  seed : Option Int
  modelMode : String
  mp3Path : Option Ident
  song : Option LoadedSong
  version : Option Version
deriving DecidableEq

/-- A take of the stream, with its place. -/
structure QueueStreamSource where
  key : Ident
  index : Nat
  entryId : Option Ident
  generation : LoadedGeneration
  audioUrl : Ident
deriving DecidableEq

namespace Library

variable (library : Library)

def album (id : Ident) : Option Album :=
  library.albums.find? fun album => album.id = id

def song (id : Ident) : Option Song :=
  library.songs.find? fun song => song.id = id

def version (id : Ident) : Option Version :=
  library.versions.find? fun version => version.id = id

def generation (id : Ident) : Option Generation :=
  library.generations.find? fun generation => generation.id = id

/-- The song with its album. -/
def loadSong (id : Ident) : Option LoadedSong :=
  (library.song id).map fun song =>
    { id := song.id, title := song.title, album := library.album song.albumId }

/-- The routes present no take of a deleted song, so its song is loaded. -/
def load (generation : Generation) : LoadedGeneration where
  id := generation.id
  versionId := generation.versionId
  generationNumber := generation.generationNumber
  seed := generation.seed
  modelMode := generation.modelMode
  mp3Path := generation.mp3Path
  song := library.loadSong generation.songId
  version := generation.versionId.bind library.version

/-- The take has audio and is not archived. -/
def isPlayableTake (generation : Generation) : Bool :=
  generation.mp3Path.isSome && !generation.isArchived

/-- The picked take of the song, or else its newest. -/
def pickedGeneration (song : Song) : Option Generation :=
  let generations := library.generations.filter fun generation =>
    generation.songId = song.id && isPlayableTake generation
  match generations.filter Generation.isPicked with
  | picked :: _ => some picked
  | [] =>
      (generations.insertionSort fun g g' => g.generationNumber ≤ g'.generationNumber).getLast?

/-- `require_canonical_audio_filename`: relative, and with no part that
`PurePosixPath` drops or refuses. -/
def isCanonicalAudioFilename (path : Ident) : Bool :=
  path.chars = ['.'] ||
    (path.chars.splitOn '/').all fun part => part ≠ [] ∧ part ≠ ['.'] ∧ part ≠ ['.', '.']

/-- Where the audio of a shared take is fetched from. -/
def sharedAudioUrl (route : Ident) (generation : Generation) : Option Ident :=
  if !isPlayableTake generation then none
  else if generation.mp3Path.any isCanonicalAudioFilename then
    some (route ++ ⟨['/'], by decide, by decide⟩ ++ generation.id ++
      ⟨['.', 'm', 'p', '3'], by decide, by decide⟩)
  else none

def colon : Ident := ⟨[':'], by decide, by decide⟩

def albumRoute (slug : Ident) : Ident :=
  ⟨"/shared/".toList, by decide, by decide⟩ ++ slug ++ ⟨"/audio".toList, by decide, by decide⟩

def playlistRoute (slug : Ident) : Ident :=
  ⟨"/shared/playlist/".toList, by decide, by decide⟩ ++ slug ++
    ⟨"/audio".toList, by decide, by decide⟩

/-- The sources of `get_shared_album_stream`. -/
def albumSources (slug : Ident) : Option (List QueueStreamSource) :=
  (library.sharedAlbums slug).map fun albumId =>
    let songs := (library.songs.filter fun song => song.albumId = albumId && !song.deleted)
      |>.insertionSort fun s s' => s.trackNumber ≤ s'.trackNumber
    let presented := songs.zipIdx.filterMap fun (song, index) => do
      let generation ← library.pickedGeneration song
      let audioUrl ← sharedAudioUrl (albumRoute slug) generation
      return (song.id ++ colon ++ generation.id ++ colon ++ Ident.ofNat index, generation, audioUrl)
    presented.mapIdx fun index (key, generation, audioUrl) =>
      { key := key, index := index, entryId := none, generation := library.load generation
        audioUrl := audioUrl }

/-- The sources of `get_shared_playlist_stream`. -/
def playlistSources (slug : Ident) : Option (List QueueStreamSource) :=
  (library.sharedPlaylists slug).map fun entries =>
    let presented := (entries.insertionSort fun e e' => e.position ≤ e'.position).filterMap
      fun entry => do
        let generation ← library.generation entry.generationId
        let song ← library.song generation.songId
        guard !song.deleted
        let audioUrl ← sharedAudioUrl (playlistRoute slug) generation
        return (entry.id, generation, audioUrl)
    presented.mapIdx fun index (entryId, generation, audioUrl) =>
      { key := entryId, index := index, entryId := some entryId
        generation := library.load generation, audioUrl := audioUrl }

end Library

/-- The changes to a library. A take keeps its song and path for life, and its version too, as
no version is deleted here; `rewriteVersion` is the only way to change one. -/
inductive Edit where
  | addAlbum (album : Album)
  | addSong (song : Song)
  | addVersion (version : Version)
  | addTake (generation : Generation)
  | deleteTake (id : Ident)
  | renameAlbum (id : Ident) (title : String)
  | renameSong (id : Ident) (title : String)
  | moveSong (id albumId : Ident) (trackNumber : Nat)
  | setSongDeleted (id : Ident) (deleted : Bool)
  | rewriteVersion (id : Ident) (lyrics : String)
  | setPicked (id : Ident) (isPicked : Bool)
  | setArchived (id : Ident) (isArchived : Bool)
  | shareAlbum (slug : Ident) (albumId : Option Ident)
  | sharePlaylist (slug : Ident) (entries : Option (List PlaylistEntry))
  | replaceAudio (path : Ident) (file : Option AudioFile)

namespace Library

variable (library : Library)

def changeAlbum (id : Ident) (change : Album → Album) : Library :=
  { library with
    albums := library.albums.map fun album => if album.id = id then change album else album }

def changeSong (id : Ident) (change : Song → Song) : Library :=
  { library with
    songs := library.songs.map fun song => if song.id = id then change song else song }

def changeTake (id : Ident) (change : Generation → Generation) : Library :=
  { library with
    generations := library.generations.map fun generation =>
      if generation.id = id then change generation else generation }

/-- Ids are new, and the lyrics that a take was sung with stay. -/
def edit : Edit → Option Library
  | .addAlbum album =>
      if (library.album album.id).isSome then none
      else some { library with albums := library.albums ++ [album] }
  | .addSong song =>
      if (library.song song.id).isSome ∨ (library.album song.albumId).isNone then none
      else some { library with songs := library.songs ++ [song] }
  | .addVersion version =>
      if (library.version version.id).isSome then none
      else some { library with versions := library.versions ++ [version] }
  | .addTake generation =>
      if generation.id ∈ library.issued ∨ (library.song generation.songId).isNone ∨
          generation.versionId.any fun id => (library.version id).isNone then none
      else some { library with
        generations := library.generations ++ [generation]
        issued := generation.id :: library.issued }
  | .deleteTake id => some { library with
      generations := library.generations.filter fun generation => generation.id ≠ id }
  | .renameAlbum id title =>
      some (library.changeAlbum id fun album => { album with title := title })
  | .renameSong id title => some (library.changeSong id fun song => { song with title := title })
  | .moveSong id albumId trackNumber =>
      if (library.album albumId).isNone then none
      else some (library.changeSong id fun song =>
        { song with albumId := albumId, trackNumber := trackNumber })
  | .setSongDeleted id deleted =>
      some (library.changeSong id fun song => { song with deleted := deleted })
  | .rewriteVersion id lyrics =>
      if library.generations.any fun generation => generation.versionId = some id then none
      else some { library with
        versions := library.versions.map fun version =>
          if version.id = id then { version with lyrics := lyrics } else version }
  | .setPicked id isPicked =>
      some (library.changeTake id fun generation => { generation with isPicked := isPicked })
  | .setArchived id isArchived =>
      some (library.changeTake id fun generation => { generation with isArchived := isArchived })
  | .shareAlbum slug albumId => some { library with
      sharedAlbums := Function.update library.sharedAlbums slug albumId }
  | .sharePlaylist slug entries => some { library with
      sharedPlaylists := Function.update library.sharedPlaylists slug entries }
  | .replaceAudio path file => some { library with
      files := Function.update library.files path file }

end Library

def emptyLibrary : Library where
  albums := []
  songs := []
  versions := []
  generations := []
  sharedAlbums := fun _ => none
  sharedPlaylists := fun _ => none
  files := fun _ => none
  issued := []

end Songmaker.QueueStreams.StreamLibrary
