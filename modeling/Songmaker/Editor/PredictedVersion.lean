import Songmaker.Editor.EditorDraft
import Songmaker.Songs.VersionNumbers

namespace Songmaker.Editor.PredictedVersion

open Songmaker.Jobs
open Songmaker.Editor.EditorDraft (SongData SongItem VersionItem EditorState ParamValue
  VersionGenerationParams ReferenceResponse songDataFromSong creativeContentEqual
  draftAwaitsSave)
open Songmaker.Songs.SongSaves
open Songmaker.Songs.VersionNumbers

/-! ### The editor -/

/-- A job as the song page knows it. -/
structure ActiveJob where
  status : JobStatus
  versionId : Option String
deriving DecidableEq

def isActiveJobStatus (status : JobStatus) : Bool :=
  status = .queued || status = .running

/-- `generations` holds the version numbers of the takes. -/
def computeDraftVersionNumber (versions : List VersionItem) (generations : List (Option Nat))
    (renderingVersionIds : List String) (savesAsNewVersion changesCreativeContent : Bool) : Nat :=
  match versions.head? with
  | none => 1
  | some latest =>
      let latestHasTakes := generations.any fun number => number = some latest.versionNumber
      let makesNextVersion := savesAsNewVersion || latest.id ∈ renderingVersionIds ||
        latestHasTakes && changesCreativeContent
      if makesNextVersion then latest.versionNumber + 1 else latest.versionNumber

/-- The number that the editor shows as the one a save would make. -/
def draftVersionNumber (state : Option EditorState) (versions : List VersionItem)
    (generations : List (Option Nat)) (activeJobs : List ActiveJob) : Nat :=
  computeDraftVersionNumber versions generations
    ((activeJobs.filter fun job => isActiveJobStatus job.status &&
      job.versionId.any fun id => id ≠ "").filterMap ActiveJob.versionId)
    (state.any fun s => s.provenance.isSome)
    (state.any fun s => !creativeContentEqual s.draft.data s.saved.data)

/-- The body of the request that updates a song. -/
structure SongUpdateRequest where
  lyrics : String
  prompt : String
  bpm : ℚ
  audioDuration : ℚ
  keyScale : String
  generationParams : Option VersionGenerationParams
  referenceRecordingId : Option String
  newVersion : Bool
deriving DecidableEq

/-- What `handleSave` sends. -/
def saveRequest (s : EditorState) : SongUpdateRequest where
  lyrics := s.draft.data.lyrics
  prompt := s.draft.data.prompt
  bpm := s.draft.data.bpm
  audioDuration := s.draft.data.audioDuration
  keyScale := s.draft.data.keyScale
  generationParams := s.draft.data.genParams
  referenceRecordingId := s.draft.data.reference.map ReferenceResponse.id
  newVersion := s.provenance.isSome

/-! ### The server -/

/-- The type of a field of `BaseGenerationParams`, with its bounds. -/
inductive ParamField where
  | int (ge le : ℤ)
  | float (ge le : Option ℚ)
  | bool
  | text (maxLength : Nat)
  | literal (values : List String)

/-- The browser sends no value of another type than its field's. -/
def ParamField.accepts : ParamField → ParamValue → Bool
  | _, .null => true
  | .int ge le, .number value => value.den = 1 && ge ≤ value.num && value.num ≤ le
  | .float ge le, .number value => (ge.all fun ge => ge ≤ value) && le.all fun le => value ≤ le
  | .bool, .flag _ => true
  | .text maxLength, .text value => value.length ≤ maxLength
  | .literal values, .text value => value ∈ values
  | _, _ => false

/-- The fields of `BaseGenerationParams`. -/
def baseGenerationParams : List (String × ParamField) :=
  [("inference_steps", .int 1 200), ("guidance_scale", .float (some 0) (some 50)),
    ("shift", .float (some 0) (some 100)), ("thinking", .bool),
    ("lm_temperature", .float (some 0) (some 5)), ("lm_top_k", .int 0 1000),
    ("lm_top_p", .float (some 0) (some 1)), ("lm_cfg_scale", .float (some 0) (some 50)),
    ("lm_negative_prompt", .text 2000), ("infer_method", .literal ["ode", "sde"]),
    ("batch_size", .int 1 8),
    ("repaint_mode", .literal ["conservative", "balanced", "aggressive"]),
    ("repaint_strength", .float (some 0) (some 1)),
    ("lm_repetition_penalty", .float (some (1 / 2)) (some 5)), ("use_cot_caption", .bool),
    ("use_cot_language", .bool), ("use_adg", .bool),
    ("cfg_interval_start", .float (some 0) (some 1)),
    ("cfg_interval_end", .float (some 0) (some 1)),
    ("sampler_mode", .literal ["euler", "heun"]),
    ("velocity_norm_threshold", .float (some 0) none),
    ("velocity_ema_factor", .float (some 0) none), ("latent_shift", .float none none),
    ("latent_rescale", .float (some (1 / 10)) none),
    ("audio_cover_strength", .float (some 0) (some 1)), ("user_lora_id", .text 36)]

/-- The parameters that the API accepts. -/
def validParams (params : VersionGenerationParams) : Bool :=
  params.all fun (name, value) => (baseGenerationParams.lookup name).any (·.accepts value)

abbrev Knob := String × ParamValue

/-- The fields that are set, in the order of the model. -/
def dumped (params : VersionGenerationParams) : List Knob :=
  (baseGenerationParams.map Prod.fst).filterMap fun name =>
    ((params.lookup name).filter (· ≠ .null)).map (name, ·)

/-- The parameters as a version stores them. -/
def genParamsToJson (params : Option VersionGenerationParams) : Option (List Knob) :=
  params.bind fun params => if dumped params = [] then none else some (dumped params)

/-- The arguments that the route passes on; `none` where it answers 404 or 422.
`recordings` are the user's reference recordings. -/
def SongUpdateRequest.received (recordings : List Nat) (req : SongUpdateRequest) :
    Option (SaveRequest Knob) :=
  if req.lyrics.length ≤ 50000 ∧ req.prompt.length ≤ 5000 ∧
      req.bpm.den = 1 ∧ 0 ≤ req.bpm.num ∧ req.bpm.num ≤ 999 ∧
      req.audioDuration.den = 1 ∧ 0 ≤ req.audioDuration.num ∧ req.audioDuration.num ≤ 600 ∧
      req.keyScale.length ≤ 10 ∧ (req.generationParams.all validParams) = true ∧
      ∀ id ∈ req.referenceRecordingId, id.length ≤ 36 ∧ ∃ n ∈ recordings, n.repr = id then
    some {
      lyrics := some req.lyrics.toList
      prompt := some req.prompt.toList
      bpm := some req.bpm.num
      audioDuration := some req.audioDuration.num
      keyScale := some req.keyScale.toList
      generationParams := some (genParamsToJson req.generationParams)
      referenceRecordingId :=
        some (req.referenceRecordingId.bind fun id => recordings.find? fun n => n.repr = id)
      forceNewVersion := req.newVersion }
  else none

variable (filename : Nat → String)

def referenceOf (referenceRecordingId : Option Nat) : Option ReferenceResponse :=
  referenceRecordingId.map fun n => ⟨n.repr, filename n⟩

/-- A version as the API answers it. -/
def versionResponse (version : Version Knob) : VersionItem where
  id := version.id.repr
  versionNumber := version.versionNumber
  lyrics := String.ofList version.content.lyrics
  prompt := String.ofList version.content.prompt
  bpm := version.content.bpm
  audioDuration := version.content.audioDuration
  keyScale := String.ofList version.content.keyScale
  generationParams := version.content.generationParams
  reference := referenceOf filename version.content.referenceRecordingId

/-- `GET /songs/{song_id}/versions`. -/
def versionsResponse (state : State Knob) (song : SongId) : List VersionItem :=
  (versionsOf state.versions song).reverse.map (versionResponse filename)

/-- A song as the API answers it, with the content of its latest version. -/
def songResponse (state : State Knob) (song : SongId) : SongItem :=
  let version := state.latestVersion song
  { id := song.repr
    lyrics := (version.map fun version => String.ofList version.content.lyrics).getD ""
    prompt := (version.map fun version => String.ofList version.content.prompt).getD ""
    bpm := version.map fun version => (version.content.bpm : ℚ)
    audioDuration := version.map fun version => (version.content.audioDuration : ℚ)
    keyScale := version.map fun version => String.ofList version.content.keyScale
    generationParams := version.bind fun version => version.content.generationParams
    reference := referenceOf filename (version.bind fun version =>
      version.content.referenceRecordingId) }

/-- The `version_number` of each take of a song. -/
def takeVersionNumbers (state : State Knob) (song : SongId) : List (Option Nat) :=
  (state.takes.filter fun take => take.songId = song).map fun take =>
    take.versionId.bind fun id =>
      (state.versions.find? fun version => version.id = id).map (·.versionNumber)

/-- The jobs as the page follows them. -/
def jobsResponse (state : State Knob) : List ActiveJob :=
  state.jobs.map fun job => ⟨job.status, job.versionId.map Nat.repr⟩

end Songmaker.Editor.PredictedVersion
