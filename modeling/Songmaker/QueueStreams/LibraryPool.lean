import Mathlib.Algebra.Order.Field.Rat
import Mathlib.Data.List.Sort
import Mathlib.Data.Prod.Lex
import Mathlib.Data.String.Basic

namespace Songmaker.QueueStreams.LibraryPool

/-- The pools that the library plays from. -/
inductive LibraryTakePool where
  | mix
  | picks
  | keeps
  | all
deriving DecidableEq

/-- A take, as the pool reads it. A time is a number of seconds. -/
structure Generation where
  id : String
  songId : String
  mp3Path : String
  isArchived : Bool
  isPicked : Bool
  isKept : Bool
  createdAt : Option ℚ
deriving DecidableEq

structure Song where
  id : String
  albumTitle : Option String
  trackNumber : Int
  generations : List Generation

/-- A take of the stream, with its place. -/
structure QueueStreamSource where
  key : String
  index : Nat
  entryId : Option String
  generation : Generation
  audioUrl : String
deriving DecidableEq

/-- Why a take of the pool has no audio to play. -/
inductive SkipReason where
  | missingPath
  | missingFile
  | unreadableFile
deriving DecidableEq

structure QueueStreamSkipResponse where
  songId : String
  generationId : String
  reason : SkipReason
deriving DecidableEq

/-- What the file system and the duration probe answer for a stored path. -/
inductive StoredAudio where
  /-- The path is rejected, or resolving it raises. -/
  | unresolved
  | absent
  | notAFile
  /-- Opening or reading it raises. -/
  | unreadable
  | noDuration
  | playable
deriving DecidableEq

/-- `QUEUE_STREAM_MAX_TRACKS` and `LIBRARY_QUEUE_STREAM_SCAN_LIMIT` -/
structure ScanLimits where
  maxTracks : Nat
  scanLimit : Nat

def scanLimits : ScanLimits where
  maxTracks := 200
  scanLimit := 1000

/-- A run of `random.shuffle`: it rearranges a list. -/
structure Shuffle (α : Type) where
  mix : List α → List α
  perm : ∀ xs, (mix xs).Perm xs

/-- A refused request. -/
inductive Refusal where
  | startNotFound
  | unplayableStart
  | emptyWindow
  | emptyPool (pool : LibraryTakePool)
deriving DecidableEq

/-- What the scan of a pool has kept and skipped. -/
structure LibraryPoolMembership where
  pool : LibraryTakePool
  sources : List QueueStreamSource
  skipped : List QueueStreamSkipResponse
  skippedComplete : Bool
deriving DecidableEq

/-- The loop over a `seen` set: the first element of each key that is not seen yet. -/
def keepUnseen {α κ : Type} [DecidableEq κ] (key : α → κ) : List κ → List α → List α
  | _, [] => []
  | seen, x :: xs =>
      if key x ∈ seen then keepUnseen key seen xs
      else x :: keepUnseen key (key x :: seen) xs

/-- The take belongs to the pool, and is not archived. -/
def generationMatchesPool (generation : Generation) (pool : LibraryTakePool) : Bool :=
  !generation.isArchived &&
    match pool with
    | .mix => generation.isPicked || generation.isKept
    | .picks => generation.isPicked
    | .keeps => generation.isKept
    | .all => true

/-- The newest take first. -/
def takeSortKey (generation : Generation) : ℚ ×ₗ String :=
  toLex ((generation.createdAt.map fun time => -time).getD 0, generation.id)

/-- The songs by album and track. -/
def songSortKey (song : Song) : String ×ₗ Int ×ₗ String :=
  toLex (song.albumTitle.getD "", toLex (song.trackNumber, song.id))

/-- The takes of a song that belong to the pool, in order. -/
def poolTakes (pool : LibraryTakePool) (song : Song) : List Generation :=
  (song.generations.filter fun generation => generationMatchesPool generation pool).insertionSort
    fun generation generation' => takeSortKey generation ≤ takeSortKey generation'

/-- The takes of the pool, each once; the one to start with is among them. -/
def collectLibraryPoolGenerations (songs : List Song) (pool : LibraryTakePool)
    (startGen : Option Generation) : List Generation :=
  let selected := keepUnseen Generation.id [] (songs.flatMap (poolTakes pool))
  match startGen with
  | none => selected
  | some start =>
      if start.id ∉ selected.map Generation.id ∧ !start.isArchived then start :: selected
      else selected

/-- The takes with their places. -/
def libraryCandidateSources (poolGenerations : List Generation) : List QueueStreamSource :=
  poolGenerations.mapIdx fun index generation =>
    { key := generation.id
      index := index
      entryId := none
      generation := generation
      audioUrl := "/audio/" ++ generation.mp3Path }

/-- `none` when the take can be played. -/
def librarySkip (audio : String → StoredAudio) (generation : Generation) :
    Option QueueStreamSkipResponse :=
  let skip reason := some ⟨generation.songId, generation.id, reason⟩
  if generation.mp3Path = "" then skip .missingPath
  else
    match audio generation.mp3Path with
    | .unresolved => skip .missingFile
    | .absent => skip .missingFile
    | .notAFile => skip .unreadableFile
    | .unreadable => skip .unreadableFile
    | .noDuration => skip .unreadableFile
    | .playable => none

/-- The loop that takes the start out: the first source of that take, and the rest. -/
def splitStart (startGenerationId : String) :
    List QueueStreamSource → Option QueueStreamSource × List QueueStreamSource
  | [] => (none, [])
  | item :: items =>
      if item.generation.id = startGenerationId then (some item, items)
      else
        let (start, rest) := splitStart startGenerationId items
        (start, item :: rest)

/-- The sources in another order, the one to start with in front. -/
def shuffleLibrarySources (shuffle : Shuffle QueueStreamSource)
    (sources : List QueueStreamSource) (startGenerationId : Option String) :
    List QueueStreamSource :=
  if sources.length ≤ 1 then sources
  else
    let unique := keepUnseen (fun source => source.generation.id) [] sources
    match startGenerationId with
    | none => shuffle.mix unique
    | some id =>
        match splitStart id unique with
        | (none, rest) => shuffle.mix rest
        | (some start, rest) => start :: shuffle.mix rest

/-- The sources from the one to start with, and then those before it. -/
def rotateSourcesToStart (sources : List QueueStreamSource) (startGenerationId : String) :
    List QueueStreamSource :=
  match sources.findIdx? fun source => source.generation.id = startGenerationId with
  | none => sources
  | some position => sources.drop position ++ sources.take position

/-- The shuffle is `none` when the request does not ask for one. -/
def orderLibraryCandidates (sources : List QueueStreamSource) (startGen : Option Generation)
    (shuffle : Option (Shuffle QueueStreamSource)) : List QueueStreamSource :=
  match shuffle with
  | some shuffle => shuffleLibrarySources shuffle sources (startGen.map Generation.id)
  | none =>
      match startGen with
      | none => sources
      | some start => rotateSourcesToStart sources start.id

/-- What the scan has found, and how many candidates it has looked at. -/
structure Scan where
  skipped : List QueueStreamSkipResponse
  playableSources : List QueueStreamSource
  scanned : Nat

/-- Enough was scanned, or enough was found. -/
def Scan.stops (limits : ScanLimits) (scan : Scan) : Prop :=
  limits.scanLimit ≤ scan.scanned ∨ limits.maxTracks + 1 ≤ scan.playableSources.length

instance (limits : ScanLimits) (scan : Scan) : Decidable (scan.stops limits) :=
  inferInstanceAs (Decidable (_ ∨ _))

/-- The loop of `_scan_library_candidates`. -/
def scanFrom (limits : ScanLimits) (audio : String → StoredAudio)
    (startGen : Option Generation) (scan : Scan) :
    List QueueStreamSource → Except Refusal Scan
  | [] => .ok scan
  | source :: sources =>
      if scan.stops limits then .ok scan
      else
        match librarySkip audio source.generation with
        | some skip =>
            if startGen.any fun start => source.generation.id = start.id then
              .error .unplayableStart
            else
              scanFrom limits audio startGen
                { scan with skipped := scan.skipped ++ [skip], scanned := scan.scanned + 1 }
                sources
        | none =>
            scanFrom limits audio startGen
              { scan with
                playableSources := scan.playableSources ++ [source]
                scanned := scan.scanned + 1 }
              sources

/-- The candidates are looked at in order until there are enough. -/
def scanLibraryCandidates (limits : ScanLimits) (audio : String → StoredAudio)
    (candidates : List QueueStreamSource) (startGen : Option Generation) :
    Except Refusal (List QueueStreamSkipResponse × List QueueStreamSource × Bool) := do
  let scan ← scanFrom limits audio startGen ⟨[], [], 0⟩ candidates
  return (scan.skipped, scan.playableSources, scan.scanned < candidates.length)

/-- The place of a take among the candidates, before they are ordered. -/
def canonicalRank (candidates : List QueueStreamSource) (generationId : String) : Nat :=
  candidates.findIdx fun source => source.generation.id = generationId

/-- The start take that a request names, if it may be played. -/
def requestedStart (access : String → Option Generation) (startGenerationId : Option String) :
    Except Refusal (Option Generation) :=
  match startGenerationId with
  | none => .ok none
  | some id =>
      match access id with
      | none => .error .startNotFound
      | some start => if start.isArchived then .error .unplayableStart else .ok (some start)

def sortedSongs (songs : List Song) : List Song :=
  songs.insertionSort fun song song' => songSortKey song ≤ songSortKey song'

/-- The candidates of a request, before they are ordered. -/
def libraryCandidates (songs : List Song) (pool : LibraryTakePool)
    (startGen : Option Generation) : List QueueStreamSource :=
  libraryCandidateSources (collectLibraryPoolGenerations (sortedSongs songs) pool startGen)

/-- `access` is `check_generation_access`, and `songs` the user's. -/
def resolveLibraryPoolMembership (limits : ScanLimits) (audio : String → StoredAudio)
    (access : String → Option Generation) (songs : List Song) (pool : LibraryTakePool)
    (startGenerationId : Option String) (shuffle : Option (Shuffle QueueStreamSource)) :
    Except Refusal LibraryPoolMembership := do
  let startGen ← requestedStart access startGenerationId
  let candidates := libraryCandidates songs pool startGen
  let ordered := orderLibraryCandidates candidates startGen shuffle
  let (skipped, playableSources, unscannedTail) ←
    scanLibraryCandidates limits audio ordered startGen
  if playableSources.isEmpty then
    .error (if unscannedTail then .emptyWindow else .emptyPool pool)
  else
    return {
      pool := pool
      sources := playableSources.mapIdx fun index source => { source with index := index }
      skipped := skipped.insertionSort fun skip skip' =>
        canonicalRank candidates skip.generationId ≤ canonicalRank candidates skip'.generationId
      skippedComplete := !unscannedTail }

end Songmaker.QueueStreams.LibraryPool
