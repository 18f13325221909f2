import Songmaker.Foundation.CleanupPrograms

/-!
The files that `run_generation_job` makes on its way, as programs in which every
call may raise and every await may be cancelled. A thread that outlives a
cancelled await touches no file that the job still looks at, so its work stands
where it was started.
-/

namespace Songmaker.Jobs.GenerationFiles

open Songmaker.Foundation
open Songmaker.Foundation.CleanupProgram

/-- The kinds of generation jobs. -/
inductive Task where
  | generate
  | repaint
  | cover
deriving DecidableEq

/-- The music of a take that was fetched from the worker, and what is written for it. -/
inductive TakeFile where
  | fetched
  | rawWav
  | wav
  | mp3
deriving DecidableEq

/-- The copies of the source in the shared temporary directory, and the files of a take. -/
inductive JobFile where
  | srcCopy
  | rawCopy
  | ofTake (kind : TakeFile) (take : Nat)
deriving DecidableEq

/-! ### The shared temporary directory -/

/-- A path as `pathlib` keeps it: `..` stays, empty parts and `.` do not. -/
structure PurePath where
  absolute : Bool
  parts : List String
  proper : ∀ part ∈ parts, part ≠ "" ∧ part ≠ "." ∧ '/' ∉ part.toList

/-- The text of the parts of an absolute path that is not the root. -/
def joined (parts : List String) : List Char :=
  parts.flatMap fun part => '/' :: part.toList

/-- `str` of a path that has a part. -/
def PurePath.text (path : PurePath) : List Char :=
  if path.absolute then joined path.parts else (joined path.parts).drop 1

/-- `os.path.normpath` of an absolute path. -/
def normpath (parts : List String) : List String :=
  parts.foldl (fun done part => if part = ".." then done.dropLast else done ++ [part]) []

/-- `os.path.abspath` in a working directory. -/
def abspath (cwd : List String) (path : PurePath) : List String :=
  normpath (if path.absolute then path.parts else cwd ++ path.parts)

def workerSharedTmpDirname : String := ".tmp"

/-- The audio directory of the settings, the working directory, and the names that
`mkstemp` chooses. -/
structure AudioStore where
  audioDir : PurePath
  cwd : List String
  copyName : JobFile → String

namespace AudioStore

variable (store : AudioStore)

def sharedTmpDir : PurePath where
  absolute := store.audioDir.absolute
  parts := store.audioDir.parts ++ [workerSharedTmpDirname]
  proper := by
    intro part hpart
    rcases List.mem_append.mp hpart with hdir | hname
    · exact store.audioDir.proper part hdir
    · rw [List.mem_singleton.mp hname]
      decide

/-- What `mkstemp` returns: the copy in the absolute path of the directory. -/
def copyPath (file : JobFile) : List Char :=
  joined (abspath store.cwd store.sharedTmpDir ++ [store.copyName file])

/-- The filter of `_temporary_generation_audio_paths`. -/
def lists (file : JobFile) : Bool :=
  store.sharedTmpDir.text.isPrefixOf (store.copyPath file)

end AudioStore

/-- The copies that a job has made once its setup is through. -/
def candidates (task : Task) (rawSource : Bool) : List JobFile :=
  match task with
  | .generate => []
  | .cover => [.srcCopy]
  | .repaint => if rawSource then [.srcCopy, .rawCopy] else [.srcCopy]

/-- The copies that the `finally` removes: those that lie in the store's own temporary directory. -/
def temporaryGenerationAudioPaths (store : AudioStore) (task : Task) (rawSource : Bool) :
    List JobFile :=
  (candidates task rawSource).filter store.lists

/-! ### The state of a job -/

/-- What goes wrong where no cleanup is left: the setup ends after a copy was made, a copy
is not in the list that the job removes, the thread that was to save a take never starts,
or a take's files cannot all be written. -/
inductive Mishap where
  | exposed
  | unlisted
  | unstarted (take : Nat)
  | unsaved (take : Nat)
deriving DecidableEq

/-- The files that a job has made and not removed, and how far it has come. -/
structure JobFiles where
  has : JobFile → Bool
  /-- The takes whose row is committed. -/
  rows : Nat → Bool
  mishaps : List Mishap
  admitted : Bool
  contextBuilt : Bool
  terminal : Bool
  /-- Whether there is a raw wav next to the source of a repaint. -/
  rawSource : Bool
  tmpCopies : List JobFile
  handedToPostProcess : Bool
  /-- Whether `lock_active_job` found the job active. -/
  jobActive : Bool

namespace JobFiles

def start : JobFiles where
  has _ := false
  rows _ := false
  mishaps := []
  admitted := false
  contextBuilt := false
  terminal := false
  rawSource := false
  tmpCopies := []
  handedToPostProcess := false
  jobActive := false

def put (s : JobFiles) (file : JobFile) (present : Bool) : JobFiles :=
  { s with has := fun other => if other = file then present else s.has other }

/-- A mishap is noted with the state. -/
def note (s : JobFiles) (mishap : Mishap) : JobFiles :=
  { s with mishaps := s.mishaps ++ [mishap] }

def commitRow (s : JobFiles) (take : Nat) : JobFiles :=
  { s with rows := fun other => other = take || s.rows other }

/-- The setup of a task that copies its source ends. -/
def expose (s : JobFiles) (task : Task) : JobFiles :=
  if task = .generate then s else s.note .exposed

/-- The job takes down the copies that it will remove. -/
def listCopies (s : JobFiles) (store : AudioStore) (task : Task) : JobFiles :=
  let listed := { s with tmpCopies := temporaryGenerationAudioPaths store task s.rawSource }
  if (candidates task s.rawSource).all store.lists then listed else listed.note .unlisted

def remove (s : JobFiles) (files : List JobFile) : JobFiles :=
  files.foldl (fun s file => s.put file false) s

end JobFiles

abbrev Job := CleanupProgram JobFiles

def skip : Job :=
  .call fun s c t => c = .returned ∧ t = s

/-- A call that touches no file of the job. -/
def mayRaise : Job :=
  .call fun s c t => c ≠ .cancelled ∧ t = s

def awaits : Job :=
  .call fun s _ t => t = s

/-- A call that raises or reads something. -/
def reads (set : JobFiles → Bool → JobFiles) : Job :=
  .call fun s c t => (c = .raised ∧ t = s) ∨ (c = .returned ∧ ∃ answer, t = set s answer)

/-- A call that makes the file or raises. -/
def creates (file : JobFile) : Job :=
  .call fun s c t => (c = .raised ∧ t = s) ∨ (c = .returned ∧ t = s.put file true)

/-- The files are unlinked. -/
def removes (files : List JobFile) : Job :=
  .call fun s c t => c = .returned ∧ t = s.remove files

/-- What the setup does after the first copy is made: nothing cleans up after it. -/
def exposing (task : Task) (program : Job) : Job :=
  .call fun s c t => ∃ u, Ends program s c u ∧ t = if c = .returned then u else u.expose task

/-- A call between the first file of a take and its row. -/
def unsaved (take : Nat) (program : Job) : Job :=
  .call fun s c t =>
    ∃ u, Ends program s c u ∧ t = if c = .returned then u else u.note (.unsaved take)

def setTerminal (s : JobFiles) (answer : Bool) : JobFiles := { s with terminal := answer }

/-- `_job_is_terminal`. -/
def jobIsTerminal : Job := reads setTerminal

/-- `_copy_to_shared_tmp`: `mkstemp`, then the copy itself. -/
def copyToSharedTmp (file : JobFile) : Job :=
  .seq (creates file) mayRaise

/-- `_copy_to_shared_tmp` of the source, and what the overrides do after it. -/
def copySource (task : Task) (rest : Job) : Job :=
  .seq (creates .srcCopy) (exposing task (.seq mayRaise rest))

def setRawSource (s : JobFiles) (answer : Bool) : JobFiles := { s with rawSource := answer }

/-- The raw wav is looked up and the source measured before anything is copied. -/
def applyRepaintOverrides : Job :=
  .seq (reads setRawSource) <| .seq mayRaise <| copySource .repaint <|
    .branch (fun s => s.rawSource) (copyToSharedTmp .rawCopy) skip

def applyCoverOverrides : Job := copySource .cover skip

/-- The copies that a task makes of its source. -/
def applyGenerationTaskOverrides : Task → Job
  | .generate => skip
  | .repaint => applyRepaintOverrides
  | .cover => applyCoverOverrides

def setContextBuilt : Job :=
  .call fun s c t => c = .returned ∧ t = { s with contextBuilt := true }

/-- `_build_generation_job_context`: a setup error is written to the job. -/
def buildGenerationJobContext (task : Task) : Job :=
  recover false (.seq awaits (.seq (applyGenerationTaskOverrides task) setContextBuilt)) mayRaise

/-- `_persist_generation_row`; a row that does not commit takes the files along. -/
def persistGenerationRow (take : Nat) : Job :=
  let cleanupOrphanedFiles :=
    removes [.ofTake .mp3 take, .ofTake .wav take, .ofTake .rawWav take]
  .seq (unsaved take mayRaise) <|
    .tryExcept (fun c => decide (c = .raised))
      (.seq (reads fun s answer => { s with jobActive := answer }) <|
        .branch (fun s => s.jobActive)
          (.seq mayRaise <| .call fun s c t =>
            (c = .raised ∧ t = s) ∨
              (c = .returned ∧ t = s.commitRow take))
          cleanupOrphanedFiles)
      cleanupOrphanedFiles

/-- `post_process_generation`: reading, decoding and splicing, the raw wav, the
mastering, the wav, the mp3 and the row. The writes leave no part of a file. -/
def postProcessGeneration (take : Nat) : Job :=
  .tryFinally
    (.seq mayRaise <| .seq (creates (.ofTake .rawWav take)) <| .seq (unsaved take mayRaise) <|
      .seq (unsaved take (creates (.ofTake .wav take))) <|
        .seq (unsaved take (creates (.ofTake .mp3 take))) <| persistGenerationRow take)
    (removes [.ofTake .fetched take])

/-- `asyncio.to_thread`: a wait that is cancelled while the pool is full takes the
call with it; otherwise the thread goes on. -/
def toThread (take : Nat) (call : Job) : Job :=
  .call fun s c t =>
    (c = .cancelled ∧ t = s.note (.unstarted take)) ∨
      ∃ c', Ends call s c' t ∧ (c = c' ∨ c = .cancelled)

def setHanded (handed : Bool) : Job :=
  .call fun s c t => c = .returned ∧ t = { s with handedToPostProcess := handed }

/-- The dispatch leaves the fetched take where it returns, and no file otherwise. -/
def dispatchGenerationOnWorker (take : Nat) : Job :=
  .call fun s c t =>
    (c ≠ .returned ∧ t = s) ∨ (c = .returned ∧ t = s.put (.ofTake .fetched take) true)

/-- `_generate_variant`: every failure becomes the take's, but for a reference
that was deleted. -/
def generateVariant (take : Nat) : Job :=
  .seq mayRaise <| recover false
    (.seq (dispatchGenerationOnWorker take) <| .seq (setHanded false) <|
      .tryFinally
        (.seq jobIsTerminal <| .branch (fun s => s.terminal) skip <|
          .seq mayRaise <| .seq (setHanded true) <|
            toThread take (postProcessGeneration take))
        (.branch (fun s => s.handedToPostProcess) skip (removes [.ofTake .fetched take])))
    skip

/-- `_generate_variants` from a take on, with the takes that are left. -/
def generateVariants : Nat → Nat → Job
  | _, 0 => mayRaise
  | take, left + 1 =>
      .seq jobIsTerminal <| .branch (fun s => s.terminal) skip <|
        .seq (generateVariant take) <| .seq awaits (generateVariants (take + 1) left)

def leaveSetup (task : Task) : Job :=
  .call fun s c t => c = .returned ∧ t = s.expose task

def setTmpCopies (store : AudioStore) (task : Task) : Job :=
  .call fun s c t => c = .returned ∧ t = s.listCopies store task

def removeTemporaryGenerationAudio : Job :=
  .call fun s c t => c = .returned ∧ t = s.remove s.tmpCopies

/-- The body of the job behind its setup. -/
def generateInContext (store : AudioStore) (task : Task) (count : Nat) : Job :=
  .seq (exposing task mayRaise) <| .seq (exposing task jobIsTerminal) <|
    .branch (fun s => s.terminal) (leaveSetup task) <| .seq (setTmpCopies store task) <|
      .tryFinally (generateVariants 0 count) removeTemporaryGenerationAudio

/-- `run_generation_job`. -/
def runGenerationJob (store : AudioStore) (task : Task) (count : Nat) : Job :=
  .tryFinally
    (.tryExcept (fun c => decide (c = .cancelled))
      (recover true
        (.seq (.call fun s _ t => ∃ answer, t = { s with admitted := answer }) <|
          .branch (fun s => s.admitted)
            (.seq (buildGenerationJobContext task) <|
              .branch (fun s => s.contextBuilt) (generateInContext store task count) skip)
            skip)
        mayRaise)
      mayRaise)
    awaits

/-- No copy and no fetched take is left, and the files of a take are there just
when its row is. -/
structure StrayFree (s : JobFiles) : Prop where
  srcCopy : s.has .srcCopy = false
  rawCopy : s.has .rawCopy = false
  fetched : ∀ take, s.has (.ofTake .fetched take) = false
  mp3 : ∀ take, s.has (.ofTake .mp3 take) = s.rows take
  wav : ∀ take, s.has (.ofTake .wav take) = s.rows take
  rawWav : ∀ take, s.has (.ofTake .rawWav take) = s.rows take

end Songmaker.Jobs.GenerationFiles
