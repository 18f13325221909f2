import Songmaker.Foundation.TransitionSystem
import Songmaker.Jobs.JobRow

namespace Songmaker.Songs.SongSaves

open Songmaker.Foundation
open Songmaker.Jobs

abbrev SongId := Nat

abbrev VersionId := Nat

abbrev JobId := Nat

/-- A database session with one transaction at a time. -/
abbrev Session := Nat

/-- `AUTO_LENGTH_SECONDS`. -/
def autoLengthSeconds : Int := 0

/-- What a version holds besides its identity. A `Knob` is one generation
parameter with its value. -/
structure VersionContent (Knob : Type) where
  lyrics : List Char
  prompt : List Char
  bpm : Int
  audioDuration : Int
  keyScale : List Char
  generationParams : Option (List Knob)
  referenceRecordingId : Option Nat
deriving DecidableEq

/-- The row of a version. -/
structure Version (Knob : Type) where
  id : VersionId
  songId : SongId
  versionNumber : Nat
  content : VersionContent Knob
deriving DecidableEq

/-- The row of a take, which its version's deletion may leave without one. -/
structure Take where
  songId : SongId
  versionId : Option VersionId
deriving DecidableEq

/-- A generation job with the version that it renders. -/
structure Job where
  id : JobId
  songId : SongId
  versionId : Option VersionId
  status : JobStatus
deriving DecidableEq

/-- The arguments of `update_song` that concern a version; in the last two of its
content `none` is `UNSET`. -/
structure SaveRequest (Knob : Type) where
  lyrics : Option (List Char) := none
  prompt : Option (List Char) := none
  bpm : Option Int := none
  audioDuration : Option Int := none
  keyScale : Option (List Char) := none
  generationParams : Option (Option (List Knob)) := none
  referenceRecordingId : Option (Option Nat) := none
  forceNewVersion : Bool := false
deriving DecidableEq

variable {Knob : Type} [DecidableEq Knob]

/-- Lyrics, prompt or measures are others. -/
def VersionContent.creativeDiffersFrom (content : VersionContent Knob) (version : Version Knob) :
    Bool :=
  content.lyrics ≠ version.content.lyrics || content.prompt ≠ version.content.prompt ||
    content.bpm ≠ version.content.bpm ||
    content.audioDuration ≠ version.content.audioDuration ||
    content.keyScale ≠ version.content.keyScale

/-- Anything of the content is another. -/
def VersionContent.differsFrom (content : VersionContent Knob) (version : Version Knob) : Bool :=
  content.creativeDiffersFrom version ||
    content.generationParams ≠ version.content.generationParams ||
    content.referenceRecordingId ≠ version.content.referenceRecordingId

/-- The value of the request, or else the one before. -/
def versionValue {α : Type} (value previous : Option α) (default : α) : α :=
  value.getD (previous.getD default)

/-- The parameters of the request, or those of the version before if it names none. -/
def versionGenerationParams (generationParams : Option (Option (List Knob)))
    (previous : Option (Version Knob)) : Option (List Knob) :=
  match generationParams with
  | some params => params.filter (!·.isEmpty)
  | none => previous.bind (·.content.generationParams)

/-- The reference of the request, or the one before if it names none. -/
def carriedUnlessSet (referenceRecordingId : Option (Option Nat))
    (previous : Option (Version Knob)) : Option Nat :=
  referenceRecordingId.getD (previous.bind (·.content.referenceRecordingId))

/-- The content that a save asks for. -/
def SaveRequest.content (request : SaveRequest Knob) (previous : Option (Version Knob)) :
    VersionContent Knob where
  lyrics := versionValue request.lyrics (previous.map (·.content.lyrics)) []
  prompt := versionValue request.prompt (previous.map (·.content.prompt)) []
  bpm := versionValue request.bpm (previous.map (·.content.bpm)) 0
  audioDuration :=
    versionValue request.audioDuration (previous.map (·.content.audioDuration)) autoLengthSeconds
  keyScale := versionValue request.keyScale (previous.map (·.content.keyScale)) []
  generationParams := versionGenerationParams request.generationParams previous
  referenceRecordingId := carriedUnlessSet request.referenceRecordingId previous

/-- What a session does next. A save reads the jobs of a version before its takes. -/
inductive Stage (Knob : Type) where
  | idle
  | lockForSave (song : SongId) (request : SaveRequest Knob)
  | saveLocked (song : SongId) (request : SaveRequest Knob)
  | checkJobs (song : SongId) (request : SaveRequest Knob) (previous : Version Knob)
  | checkTakes (song : SongId) (request : SaveRequest Knob) (previous : Version Knob)
  | rewrite (song : SongId) (request : SaveRequest Knob) (previous : Version Knob)
  | newVersion (song : SongId) (request : SaveRequest Knob) (previous : Option (Version Knob))
  | lockForJob (song : SongId) (version : VersionId)
  | jobLocked (song : SongId) (version : VersionId)
  | newJob (song : SongId) (version : VersionId)
  | lockForDelete (song : SongId) (version : VersionId) (deleteGenerations : Bool)
  | deleteLocked (song : SongId) (version : VersionId) (deleteGenerations : Bool)
  | deleteVersion (song : SongId) (version : VersionId) (deleteGenerations : Bool)
  | lockJob (job : JobId)
  | lockForTake (job : Job)
  | newTake (job : Job)
deriving DecidableEq

/-- The rows, their locks, and what each session is doing. -/
structure State (Knob : Type) where
  songs : List SongId
  versions : List (Version Knob)
  takes : List Take
  jobs : List Job
  nextVersion : VersionId
  nextJob : JobId
  songLock : SongId → Option Session
  jobLock : JobId → Option Session
  stage : Session → Stage Knob

namespace State

variable (state : State Knob) (session : Session)

def latestVersion (song : SongId) : Option (Version Knob) :=
  (state.versions.filter fun version => version.songId = song).getLast?

/-- A job that is not over renders the version. -/
def hasActiveJobForVersion (version : VersionId) : Bool :=
  state.jobs.any fun job => job.versionId = some version && job.status ∈ jobActiveStatuses

def hasTake (version : VersionId) : Bool :=
  state.takes.any fun take => take.versionId = some version

def moveTo (stage : Stage Knob) : State Knob :=
  { state with stage := Function.update state.stage session stage }

/-- Ends a transaction: its locks go. -/
def release : State Knob :=
  { state with
    songLock := fun song =>
      if state.songLock song = some session then none else state.songLock song
    jobLock := fun job => if state.jobLock job = some session then none else state.jobLock job
    stage := Function.update state.stage session .idle }

/-- Waits for the row of a song. A song that is gone ends the transaction. -/
def lockSong (song : SongId) (next : Stage Knob) : Option (State Knob) :=
  if song ∉ state.songs then some (state.release session)
  else if state.songLock song = none then
    some ({ state with songLock := Function.update state.songLock song (some session) }.moveTo
      session next)
  else none

end State

/-- The next statement of a session; `none` while it waits for a lock. -/
def advance (state : State Knob) (session : Session) : Option (State Knob) :=
  match state.stage session with
  | .lockForSave song request => state.lockSong session song (.saveLocked song request)
  | .saveLocked song request =>
      match state.latestVersion song with
      | none => some (state.moveTo session (.newVersion song request none))
      | some previous =>
          if request.forceNewVersion then
            some (state.moveTo session (.newVersion song request (some previous)))
          else if (request.content (some previous)).differsFrom previous then
            some (state.moveTo session (.checkJobs song request previous))
          else some (state.moveTo session (.rewrite song request previous))
  | .checkJobs song request previous =>
      if state.hasActiveJobForVersion previous.id then
        some (state.moveTo session (.newVersion song request (some previous)))
      else some (state.moveTo session (.checkTakes song request previous))
  | .checkTakes song request previous =>
      if state.hasTake previous.id &&
          (request.content (some previous)).creativeDiffersFrom previous then
        some (state.moveTo session (.newVersion song request (some previous)))
      else some (state.moveTo session (.rewrite song request previous))
  | .lockForJob song version => state.lockSong session song (.jobLocked song version)
  | .jobLocked song version =>
      if state.versions.any fun row => row.id = version && row.songId = song then
        some (state.moveTo session (.newJob song version))
      else some (state.release session)
  | .lockForDelete song version deleteGenerations =>
      state.lockSong session song (.deleteLocked song version deleteGenerations)
  | .deleteLocked song version deleteGenerations =>
      if (state.versions.any fun row => row.id = version) &&
          !state.hasActiveJobForVersion version then
        some (state.moveTo session (.deleteVersion song version deleteGenerations))
      else some (state.release session)
  | .lockJob job =>
      if state.jobLock job = none then
        match state.jobs.find? fun row => row.id = job && row.status ∈ jobActiveStatuses with
        | some row =>
            some ({ state with
              jobLock := Function.update state.jobLock job (some session) }.moveTo session
                (.lockForTake row))
        | none => some (state.release session)
      else none
  | .lockForTake job => state.lockSong session job.songId (.newTake job)
  | _ => none

/-- The versions after the commit of the stage. -/
def commitVersions (state : State Knob) : Stage Knob → List (Version Knob)
  | .rewrite _ request previous =>
      state.versions.map fun version =>
        if version.id = previous.id then
          { version with content := request.content (some previous) }
        else version
  | .newVersion song request previous =>
      state.versions ++
        [{ id := state.nextVersion
           songId := song
           versionNumber := (previous.map (·.versionNumber)).getD 0 + 1
           content := request.content previous }]
  | .deleteVersion _ version _ => state.versions.filter fun row => row.id ≠ version
  | _ => state.versions

/-- The takes after the commit of the stage. -/
def commitTakes (state : State Knob) : Stage Knob → List Take
  | .deleteVersion _ version true =>
      state.takes.filter fun take => take.versionId ≠ some version
  | .deleteVersion _ version false =>
      state.takes.map fun take =>
        if take.versionId = some version then { take with versionId := none } else take
  | .newTake job => state.takes ++ [⟨job.songId, job.versionId⟩]
  | _ => state.takes

/-- The jobs after the commit of the stage. -/
def commitJobs (state : State Knob) : Stage Knob → List Job
  | .newJob song version => state.jobs ++ [⟨state.nextJob, song, some version, .queued⟩]
  | .deleteVersion _ version _ =>
      state.jobs.map fun job =>
        if job.versionId = some version then { job with versionId := none } else job
  | _ => state.jobs

/-- Whether a session has only its commit left. -/
def Stage.ready : Stage Knob → Bool
  | .rewrite .. | .newVersion .. | .newJob .. | .deleteVersion .. | .newTake .. => true
  | _ => false

/-- Whether the foreign key of a new take finds its version. -/
def keysFound (state : State Knob) : Stage Knob → Bool
  | .newTake job =>
      job.versionId.any fun version => state.versions.any fun row => row.id = version
  | _ => true

/-- The session's changes become visible, if the rows that they name are still there. -/
def commit (state : State Knob) (session : Session) : Option (State Knob) :=
  let stage := state.stage session
  if stage.ready && keysFound state stage then
    some ({ state with
      versions := commitVersions state stage
      takes := commitTakes state stage
      jobs := commitJobs state stage
      nextVersion := state.nextVersion + 1
      nextJob := state.nextJob + 1 }.release session)
  else none

/-- A status that an active job takes on; a terminal one keeps its own. -/
def updateJobStatus (state : State Knob) (job : JobId) (status : JobStatus) : State Knob :=
  { state with
    jobs := state.jobs.map fun row =>
      if row.id = job && row.status ∈ jobActiveStatuses then { row with status := status }
      else row }

/-- A session begins a request, goes on or ends, and a job changes its status. -/
inductive Action (Knob : Type) where
  | save (session : Session) (song : SongId) (request : SaveRequest Knob)
  | enqueue (session : Session) (song : SongId) (version : VersionId)
  | delete (session : Session) (version : VersionId) (deleteGenerations : Bool)
  | take (session : Session) (job : JobId)
  | updateJob (job : JobId) (status : JobStatus)
  | advance (session : Session)
  | commit (session : Session)
  | abort (session : Session)
deriving DecidableEq

def act (state : State Knob) : Action Knob → Option (State Knob)
  | .save session song request =>
      if state.stage session = .idle then
        some (state.moveTo session (.lockForSave song request))
      else none
  | .enqueue session song version =>
      if state.stage session = .idle then
        some (state.moveTo session (.lockForJob song version))
      else none
  | .delete session version deleteGenerations =>
      if state.stage session = .idle then
        match state.versions.find? fun row => row.id = version with
        | some row =>
            some (state.moveTo session (.lockForDelete row.songId version deleteGenerations))
        | none => some state
      else none
  | .take session job =>
      if state.stage session = .idle then some (state.moveTo session (.lockJob job)) else none
  | .updateJob job status =>
      -- The update waits for a take of the job to commit.
      if state.jobLock job = none then some (updateJobStatus state job status) else none
  | .advance session => advance state session
  | .commit session => commit state session
  | .abort session => some (state.release session)

end Songmaker.Songs.SongSaves
