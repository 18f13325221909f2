import Mathlib.Algebra.Order.Field.Rat

namespace Songmaker.Engine.AceStepConfig

/-- The fields that `BaseGenerationParams` and `AceStepConfig` share. -/
inductive Knob where
  | inferenceSteps
  | guidanceScale
  | shift
  | thinking
  | lmTemperature
  | lmTopK
  | lmTopP
  | lmCfgScale
  | lmNegativePrompt
  | inferMethod
  | batchSize
  | repaintMode
  | repaintStrength
  | lmRepetitionPenalty
  | useCotCaption
  | useCotLanguage
  | useAdg
  | cfgIntervalStart
  | cfgIntervalEnd
  | samplerMode
  | velocityNormThreshold
  | velocityEmaFactor
  | latentShift
  | latentRescale
  | audioCoverStrength
deriving DecidableEq

namespace Knob

/-- The values that a knob takes. -/
@[reducible] def Value : Knob → Type
  | .inferenceSteps | .lmTopK | .batchSize => ℤ
  | .thinking | .useCotCaption | .useCotLanguage | .useAdg => Bool
  | .lmNegativePrompt | .inferMethod | .repaintMode | .samplerMode => String
  | .guidanceScale | .shift | .lmTemperature | .lmTopP | .lmCfgScale | .repaintStrength
  | .lmRepetitionPenalty | .cfgIntervalStart | .cfgIntervalEnd | .velocityNormThreshold
  | .velocityEmaFactor | .latentShift | .latentRescale | .audioCoverStrength => ℚ

/-- What `BaseGenerationParams` takes for a field. -/
def accepts : (k : Knob) → k.Value → Bool
  | .inferenceSteps, v => decide (1 ≤ v ∧ v ≤ 200)
  | .guidanceScale, v => decide (0 ≤ v ∧ v ≤ 50)
  | .shift, v => decide (0 ≤ v ∧ v ≤ 100)
  | .thinking, _ => true
  | .lmTemperature, v => decide (0 ≤ v ∧ v ≤ 5)
  | .lmTopK, v => decide (0 ≤ v ∧ v ≤ 1000)
  | .lmTopP, v => decide (0 ≤ v ∧ v ≤ 1)
  | .lmCfgScale, v => decide (0 ≤ v ∧ v ≤ 50)
  | .lmNegativePrompt, v => decide (v.length ≤ 2000)
  | .inferMethod, v => decide (v = "ode" ∨ v = "sde")
  | .batchSize, v => decide (1 ≤ v ∧ v ≤ 8)
  | .repaintMode, v => decide (v = "conservative" ∨ v = "balanced" ∨ v = "aggressive")
  | .repaintStrength, v => decide (0 ≤ v ∧ v ≤ 1)
  | .lmRepetitionPenalty, v => decide (1 / 2 ≤ v ∧ v ≤ 5)
  | .useCotCaption, _ => true
  | .useCotLanguage, _ => true
  | .useAdg, _ => true
  | .cfgIntervalStart, v => decide (0 ≤ v ∧ v ≤ 1)
  | .cfgIntervalEnd, v => decide (0 ≤ v ∧ v ≤ 1)
  | .samplerMode, v => decide (v = "euler" ∨ v = "heun")
  | .velocityNormThreshold, v => decide (0 ≤ v)
  | .velocityEmaFactor, v => decide (0 ≤ v)
  | .latentShift, _ => true
  | .latentRescale, v => decide (1 / 10 ≤ v)
  | .audioCoverStrength, v => decide (0 ≤ v ∧ v ≤ 1)

/-- The default of the field of `AceStepConfig`. -/
def default : (k : Knob) → k.Value
  | .inferenceSteps => 8
  | .guidanceScale => 0
  | .shift => 3
  | .thinking => true
  | .lmTemperature => 17 / 20
  | .lmTopK => 0
  | .lmTopP => 9 / 10
  | .lmCfgScale => 2
  | .lmNegativePrompt => ""
  | .inferMethod => "ode"
  | .batchSize => 1
  | .repaintMode => ""
  | .repaintStrength => 1 / 2
  | .lmRepetitionPenalty => 1
  | .useCotCaption => true
  | .useCotLanguage => true
  | .useAdg => false
  | .cfgIntervalStart => 0
  | .cfgIntervalEnd => 1
  | .samplerMode => "euler"
  | .velocityNormThreshold => 0
  | .velocityEmaFactor => 0
  | .latentShift => 0
  | .latentRescale => 1
  | .audioCoverStrength => 1

end Knob

/-! ### The layers -/

/-- A layer of parameters; an absent field falls back to the layer below. -/
structure BaseGenerationParams where
  value : (k : Knob) → Option k.Value
  userLoraId : Option String
  valid : ∀ k, ∀ v ∈ value k, k.accepts v = true

inductive Mode where
  | turbo
  | sft
  | xlTurbo
  | xlSft
  | xlBase
deriving DecidableEq

def Mode.inferenceSteps : Mode → ℤ
  | .turbo => 8
  | .sft => 50
  | .xlTurbo => 8
  | .xlSft => 50
  | .xlBase => 50

/-- `_SHARED_DEFAULTS`. -/
def sharedDefaults : (k : Knob) → Option k.Value
  | .inferenceSteps => none
  | .guidanceScale => none
  | .shift => some 3
  | .thinking => some true
  | .lmTemperature => some (17 / 20)
  | .lmTopK => some 0
  | .lmTopP => some (9 / 10)
  | .lmCfgScale => some 2
  | .lmNegativePrompt => some ""
  | .inferMethod => some "ode"
  | .batchSize => some 1
  | .repaintMode => none
  | .repaintStrength => none
  | .lmRepetitionPenalty => some 1
  | .useCotCaption => some true
  | .useCotLanguage => some true
  | .useAdg => some false
  | .cfgIntervalStart => some 0
  | .cfgIntervalEnd => some 1
  | .samplerMode => some "euler"
  | .velocityNormThreshold => some 0
  | .velocityEmaFactor => some 0
  | .latentShift => some 0
  | .latentRescale => some 1
  | .audioCoverStrength => some 1

/-- The engine's own defaults for a mode. -/
def builtinValue (mode : Mode) : (k : Knob) → Option k.Value
  | .inferenceSteps => some mode.inferenceSteps
  | .guidanceScale => some 0
  | k => sharedDefaults k

theorem builtinValue_valid (mode : Mode) :
    ∀ k, ∀ v ∈ builtinValue mode k, k.accepts v = true := by
  have hsteps : Knob.inferenceSteps.accepts mode.inferenceSteps = true := by
    cases mode <;> rfl
  intro k v hv
  cases k with
  | inferenceSteps =>
      obtain rfl := Option.some.inj hv
      exact hsteps
  | repaintMode => exact absurd hv (Option.not_mem_none v)
  | repaintStrength => exact absurd hv (Option.not_mem_none v)
  | _ =>
      obtain rfl := Option.some.inj hv
      decide +kernel

/-- The entry of `_BUILTIN_DEFAULTS`. -/
def builtinDefaults (mode : Mode) : BaseGenerationParams where
  value := builtinValue mode
  userLoraId := none
  valid := builtinValue_valid mode

/-- A field that is set in a later layer wins. -/
def mergeLayers (layers : List (Option BaseGenerationParams)) (k : Knob) : Option k.Value :=
  layers.foldl (fun merged layer => (layer.bind fun params => params.value k).or merged) none

/-! ### The configuration -/

inductive TaskType where
  | text2music
  | repaint
  | cover
deriving DecidableEq

set_option linter.dupNamespace false in
/-- The configuration of one run of the engine. -/
structure AceStepConfig where
  prompt : String
  lyrics : String
  bpm : Option ℤ
  audioDuration : ℤ
  keyScale : String
  vocalLanguage : String
  seed : ℤ
  taskType : TaskType
  srcAudioPath : String
  repaintingStart : ℚ
  repaintingEnd : ℚ
  repaintLatentCrossfadeFrames : ℤ
  repaintWavCrossfadeSec : ℚ
  coverNoiseStrength : ℚ
  timesteps : String
  constrainedDecoding : Bool
  knob : (k : Knob) → k.Value

/-- What a version contributes to the configuration. -/
structure SongMeta where
  prompt : String
  lyrics : String
  bpm : ℤ
  audioDuration : ℤ
  keyScale : String
  vocalLanguage : String
  generationParams : BaseGenerationParams

/-- The configuration of a run before the overrides of its task. -/
def buildAceConfig (songMeta : SongMeta) (mode : Mode)
    (userDefaults presetParams : Option BaseGenerationParams) (seed : Option ℤ) :
    AceStepConfig where
  prompt := songMeta.prompt
  lyrics := songMeta.lyrics
  bpm := if songMeta.bpm ≠ 0 then some songMeta.bpm else none
  audioDuration := songMeta.audioDuration
  keyScale := songMeta.keyScale
  vocalLanguage := if songMeta.vocalLanguage ≠ "" then songMeta.vocalLanguage else "en"
  seed := ((seed.filter fun seed => 0 ≤ seed).getD (-1))
  taskType := .text2music
  srcAudioPath := ""
  repaintingStart := 0
  repaintingEnd := -1
  repaintLatentCrossfadeFrames := 0
  repaintWavCrossfadeSec := 0
  coverNoiseStrength := 0
  timesteps := ""
  constrainedDecoding := true
  knob k := (mergeLayers [some (builtinDefaults mode), userDefaults, presetParams,
    some songMeta.generationParams] k).getD k.default

/-- What a repaint request adds. -/
structure RepaintTaskParams where
  repaintingStart : ℚ
  repaintingEnd : ℚ
  lyrics : String
  prompt : String
  repaintMode : Option String
  repaintStrength : Option ℚ
  repaintLatentCrossfadeFrames : Option ℤ
  repaintWavCrossfadeSec : Option ℚ
  start_mem : 0 ≤ repaintingStart ∧ repaintingStart ≤ 1
  end_mem : 0 ≤ repaintingEnd ∧ repaintingEnd ≤ 1
  mode_mem : ∀ mode ∈ repaintMode, Knob.repaintMode.accepts mode = true
  strength_mem : ∀ strength ∈ repaintStrength, Knob.repaintStrength.accepts strength = true
  frames_nonneg : ∀ frames ∈ repaintLatentCrossfadeFrames, 0 ≤ frames
  crossfade_nonneg : ∀ seconds ∈ repaintWavCrossfadeSec, 0 ≤ seconds

/-- What a cover request adds. -/
structure CoverTaskParams where
  audioCoverStrength : ℚ
  lyrics : String
  prompt : String
  coverNoiseStrength : Option ℚ
  strength_mem : Knob.audioCoverStrength.accepts audioCoverStrength = true
  noise_mem : ∀ noise ∈ coverNoiseStrength, 0 ≤ noise ∧ noise ≤ 1

/-- A text that is set, or the one that stands. -/
def orText (text standing : String) : String :=
  if text ≠ "" then text else standing

/-- `source_duration` is the length of the take that is repainted. -/
def applyRepaintOverrides (config : AceStepConfig) (params : RepaintTaskParams)
    (srcAudioPath : String) (sourceDuration : ℚ) : AceStepConfig :=
  { config with
    taskType := .repaint
    srcAudioPath := srcAudioPath
    prompt := orText params.prompt config.prompt
    lyrics := orText params.lyrics config.lyrics
    repaintingStart := params.repaintingStart * sourceDuration
    repaintingEnd := params.repaintingEnd * sourceDuration
    repaintLatentCrossfadeFrames :=
      params.repaintLatentCrossfadeFrames.getD config.repaintLatentCrossfadeFrames
    repaintWavCrossfadeSec := params.repaintWavCrossfadeSec.getD config.repaintWavCrossfadeSec
    knob := Function.update
      (Function.update config.knob .repaintMode
        (params.repaintMode.getD (config.knob .repaintMode)))
      .repaintStrength (params.repaintStrength.getD (config.knob .repaintStrength)) }

/-- What a cover changes in the configuration. -/
def applyCoverOverrides (config : AceStepConfig) (params : CoverTaskParams)
    (srcAudioPath : String) : AceStepConfig :=
  { config with
    taskType := .cover
    srcAudioPath := srcAudioPath
    prompt := orText params.prompt config.prompt
    lyrics := orText params.lyrics config.lyrics
    coverNoiseStrength := params.coverNoiseStrength.getD config.coverNoiseStrength
    knob := Function.update config.knob .audioCoverStrength params.audioCoverStrength }

/-- The kind of job, with what it adds to the configuration. -/
inductive TaskParams where
  | text2music
  | repaint (params : RepaintTaskParams) (srcAudioPath : String) (sourceDuration : ℚ)
  | cover (params : CoverTaskParams) (srcAudioPath : String)

/-- All that the configuration of a take is built from. -/
structure GenerationRun where
  songMeta : SongMeta
  mode : Mode
  userDefaults : Option BaseGenerationParams
  presetParams : Option BaseGenerationParams
  seed : Option ℤ
  task : TaskParams

/-- The configuration that the run hands to the engine. -/
def GenerationRun.config (run : GenerationRun) : AceStepConfig :=
  let config := buildAceConfig run.songMeta run.mode run.userDefaults run.presetParams run.seed
  match run.task with
  | .text2music => config
  | .repaint params srcAudioPath sourceDuration =>
      applyRepaintOverrides config params srcAudioPath sourceDuration
  | .cover params srcAudioPath => applyCoverOverrides config params srcAudioPath

/-! ### What a request sends -/

/-- The knobs of `_build_submit_payload`. -/
def submitPayload (config : AceStepConfig) : (k : Knob) → Option k.Value
  | .lmNegativePrompt =>
      if config.knob .lmNegativePrompt ≠ "" then some (config.knob .lmNegativePrompt) else none
  | .repaintMode =>
      if config.taskType = .repaint ∧ config.knob .repaintMode ≠ "" then
        some (config.knob .repaintMode)
      else none
  | .repaintStrength =>
      if config.taskType = .repaint ∧ config.knob .repaintStrength ≠ 1 / 2 then
        some (config.knob .repaintStrength)
      else none
  | .audioCoverStrength =>
      if config.taskType = .cover then some (config.knob .audioCoverStrength) else none
  | .useCotCaption => if config.knob .useCotCaption then none else some false
  | .useCotLanguage => if config.knob .useCotLanguage then none else some false
  | .lmRepetitionPenalty =>
      if config.knob .lmRepetitionPenalty ≠ 1 then some (config.knob .lmRepetitionPenalty)
      else none
  | .useAdg => if config.knob .useAdg then some true else none
  | .cfgIntervalStart =>
      if 0 < config.knob .cfgIntervalStart then some (config.knob .cfgIntervalStart) else none
  | .cfgIntervalEnd =>
      if config.knob .cfgIntervalEnd < 1 then some (config.knob .cfgIntervalEnd) else none
  | k => some (config.knob k)

/-- Whether a request of a task sends a knob. -/
def TaskType.uses : TaskType → Knob → Bool
  | task, .repaintMode => task = .repaint
  | task, .repaintStrength => task = .repaint
  | task, .audioCoverStrength => task = .cover
  | _, _ => true

/-! ### What is stored -/

/-- `math.isclose`. -/
def isClose (a b : ℚ) : Bool :=
  decide (|a - b| ≤ 1 / 1000000000 * max |a| |b|)

/-- The value, unless it is the standard one. -/
def unlessClose (value standard : ℚ) : Option ℚ :=
  if isClose value standard then none else some value

/-- The knobs of `_generation_options`. -/
def generationOptions (config : AceStepConfig) : (k : Knob) → Option k.Value
  | .lmRepetitionPenalty => unlessClose (config.knob .lmRepetitionPenalty) 1
  | .useCotCaption => if config.knob .useCotCaption then none else some false
  | .useCotLanguage => if config.knob .useCotLanguage then none else some false
  | .useAdg => if config.knob .useAdg then some true else none
  | .cfgIntervalStart =>
      if 0 < config.knob .cfgIntervalStart then some (config.knob .cfgIntervalStart) else none
  | .cfgIntervalEnd =>
      if config.knob .cfgIntervalEnd < 1 then some (config.knob .cfgIntervalEnd) else none
  | .samplerMode =>
      if config.knob .samplerMode ≠ "euler" then some (config.knob .samplerMode) else none
  | .velocityNormThreshold =>
      if 0 < config.knob .velocityNormThreshold then some (config.knob .velocityNormThreshold)
      else none
  | .velocityEmaFactor =>
      if 0 < config.knob .velocityEmaFactor then some (config.knob .velocityEmaFactor) else none
  | .latentShift =>
      if config.knob .latentShift ≠ 0 then some (config.knob .latentShift) else none
  | .latentRescale => unlessClose (config.knob .latentRescale) 1
  | .audioCoverStrength => unlessClose (config.knob .audioCoverStrength) 1
  | _ => none

/-- The knobs of `_task_options`. -/
def taskOptions (config : AceStepConfig) : (k : Knob) → Option k.Value
  | .repaintMode =>
      if config.taskType = .repaint ∧ config.knob .repaintMode ≠ "" then
        some (config.knob .repaintMode)
      else none
  | .repaintStrength =>
      if config.taskType = .repaint ∧ config.knob .repaintMode ≠ "" then
        some (config.knob .repaintStrength)
      else none
  | _ => none

/-- The knob of `_batch_options`. -/
def batchOptions (config : AceStepConfig) : (k : Knob) → Option k.Value
  | .batchSize =>
      if config.knob .batchSize ≠ 1 then some (config.knob .batchSize) else none
  | _ => none

/-- What of the configuration is kept with the take. -/
def storedConfigOptions (config : AceStepConfig) (k : Knob) : Option k.Value :=
  (batchOptions config k).or ((taskOptions config k).or (generationOptions config k))

/-- The knobs that `_stored_generation_params` stores whatever their values are. -/
def alwaysStored (config : AceStepConfig) : (k : Knob) → Option k.Value
  | .guidanceScale => some (config.knob .guidanceScale)
  | .inferenceSteps => some (config.knob .inferenceSteps)
  | .shift => some (config.knob .shift)
  | .lmTemperature => some (config.knob .lmTemperature)
  | .inferMethod => some (config.knob .inferMethod)
  | .thinking => some (config.knob .thinking)
  | _ => none

/-- The record of a run that is kept with its take. -/
structure StoredGenerationParams where
  acestepModel : Mode
  bpm : Option ℤ
  audioDuration : ℤ
  keyScale : String
  taskType : Option TaskType
  repaintingStart : Option ℚ
  repaintingEnd : Option ℚ
  repaintLatentCrossfadeFrames : Option ℤ
  repaintWavCrossfadeSec : Option ℚ
  coverNoiseStrength : Option ℚ
  timesteps : Option String
  constrainedDecoding : Option Bool
  cotCaption : Option String
  cotLyrics : Option String
  deliveredBatchSize : Option ℤ
  userLoraId : Option String
  knob : (k : Knob) → Option k.Value

def someIf {α : Type} (condition : Bool) (value : α) : Option α :=
  if condition then some value else none

/-- `deliveredBatchSize` is what the engine answers. -/
def storedGenerationParams (run : GenerationRun) (cotCaption cotLyrics : String)
    (deliveredBatchSize : Option ℤ) : StoredGenerationParams :=
  let config := run.config
  let repaints := decide (config.taskType = .repaint)
  { acestepModel := run.mode
    bpm := config.bpm
    audioDuration := config.audioDuration
    keyScale := run.songMeta.keyScale
    taskType := someIf (config.taskType ≠ .text2music) config.taskType
    repaintingStart := someIf repaints config.repaintingStart
    repaintingEnd := someIf repaints config.repaintingEnd
    repaintLatentCrossfadeFrames :=
      someIf (repaints && decide (0 < config.repaintLatentCrossfadeFrames))
        config.repaintLatentCrossfadeFrames
    repaintWavCrossfadeSec :=
      someIf (repaints && decide (0 < config.repaintWavCrossfadeSec))
        config.repaintWavCrossfadeSec
    coverNoiseStrength :=
      someIf (config.taskType = .cover ∧ 0 < config.coverNoiseStrength) config.coverNoiseStrength
    timesteps := someIf (config.timesteps ≠ "") config.timesteps
    constrainedDecoding := someIf config.constrainedDecoding true
    cotCaption := someIf (cotCaption ≠ "") cotCaption
    cotLyrics := someIf (cotLyrics ≠ "") cotLyrics
    deliveredBatchSize :=
      deliveredBatchSize.filter fun size => size ≠ config.knob .batchSize
    userLoraId := run.songMeta.generationParams.userLoraId
    knob := fun k => (alwaysStored config k).or (storedConfigOptions config k) }

/-- A knob as the stored parameters tell it. -/
def StoredGenerationParams.readBack (stored : StoredGenerationParams) (k : Knob) : k.Value :=
  (stored.knob k).getD k.default

end Songmaker.Engine.AceStepConfig
