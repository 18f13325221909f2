import Mathlib.Data.Finset.Image
import Songmaker.Editor.EditorDraft
import Songmaker.Foundation.KeyedRecords

namespace Songmaker.Editor.RecipeStandard

open Songmaker.Editor.EditorDraft (ParamValue ReferenceResponse)
open Songmaker.Foundation.KeyedRecords

inductive RecipeTab where
  | song
  | generate
  | engine
deriving DecidableEq

/-- `ENGINE_PARAM_KEYS`. -/
inductive EngineParamKey where
  | inferenceSteps
  | guidanceScale
  | shift
  | cfgIntervalStart
  | cfgIntervalEnd
  | velocityNormThreshold
  | velocityEmaFactor
  | latentShift
  | latentRescale
  | audioCoverStrength
  | inferMethod
  | samplerMode
  | useAdg
  | lmTemperature
  | lmTopK
  | lmTopP
  | lmCfgScale
  | lmRepetitionPenalty
  | batchSize
  | thinking
  | useCotCaption
  | useCotLanguage
  | lmNegativePrompt
deriving DecidableEq

def EngineParamKey.name : EngineParamKey → String
  | .inferenceSteps => "inference_steps"
  | .guidanceScale => "guidance_scale"
  | .shift => "shift"
  | .cfgIntervalStart => "cfg_interval_start"
  | .cfgIntervalEnd => "cfg_interval_end"
  | .velocityNormThreshold => "velocity_norm_threshold"
  | .velocityEmaFactor => "velocity_ema_factor"
  | .latentShift => "latent_shift"
  | .latentRescale => "latent_rescale"
  | .audioCoverStrength => "audio_cover_strength"
  | .inferMethod => "infer_method"
  | .samplerMode => "sampler_mode"
  | .useAdg => "use_adg"
  | .lmTemperature => "lm_temperature"
  | .lmTopK => "lm_top_k"
  | .lmTopP => "lm_top_p"
  | .lmCfgScale => "lm_cfg_scale"
  | .lmRepetitionPenalty => "lm_repetition_penalty"
  | .batchSize => "batch_size"
  | .thinking => "thinking"
  | .useCotCaption => "use_cot_caption"
  | .useCotLanguage => "use_cot_language"
  | .lmNegativePrompt => "lm_negative_prompt"

def engineParamKeys : List EngineParamKey :=
  [.inferenceSteps, .guidanceScale, .shift, .cfgIntervalStart, .cfgIntervalEnd,
    .velocityNormThreshold, .velocityEmaFactor, .latentShift, .latentRescale,
    .audioCoverStrength, .inferMethod, .samplerMode, .useAdg, .lmTemperature, .lmTopK, .lmTopP,
    .lmCfgScale, .lmRepetitionPenalty, .batchSize, .thinking, .useCotCaption, .useCotLanguage,
    .lmNegativePrompt]

def engineParamNames : List String :=
  engineParamKeys.map EngineParamKey.name

def isEngineParamKey (name : String) : Bool :=
  name ∈ engineParamNames

/-- The fields that carry a mark of their own. -/
inductive RecipeField where
  | bpm
  | duration
  | key
  | voice
  | reference
  | model
  | takes
  | preset
  | engine (key : EngineParamKey)
deriving DecidableEq

def songFields : List RecipeField :=
  [.bpm, .duration, .key, .voice, .reference]

def generateFields : List RecipeField :=
  [.model, .takes]

/-- The value of a property. An array or an object counts as the one it is. -/
inductive PropertyValue where
  | undefined
  | plain (value : ParamValue)
  | object (identity : Nat)
deriving DecidableEq

namespace PropertyValue

/-- `value != null` -/
def isSet : PropertyValue → Bool
  | .undefined | .plain .null => false
  | _ => true

/-- Whether JavaScript takes the value for true. -/
def truthy : PropertyValue → Bool
  | .undefined | .plain .null => false
  | .plain (.flag value) => value
  | .plain (.number value) => value ≠ 0
  | .plain (.text value) => value ≠ ""
  | .object _ => true

end PropertyValue

abbrev VersionGenerationParams := Record String PropertyValue

/-- A property that the record does not have reads as `undefined`. -/
def property (params : VersionGenerationParams) (name : String) : PropertyValue :=
  (params.lookup name).getD .undefined

/-- `params?.[name]` -/
def propertyOf (params : Option VersionGenerationParams) (name : String) : PropertyValue :=
  (params.map fun params => property params name).getD .undefined

/-- The values that the recipe's tabs show. -/
structure RecipeValues where
  bpm : ℚ
  audioDuration : ℚ
  keyScale : String
  genParams : Option VersionGenerationParams
  reference : Option ReferenceResponse
  model : Option String
  takes : ℚ

set_option linter.dupNamespace false in
/-- The standard that the values are measured against. -/
structure RecipeStandard where
  model : Option String
  engineDefaults : VersionGenerationParams

def recipeTakesStandard : ℚ := 1

/-! ### Marks -/

/-- Whether the mark of an engine parameter is lit. -/
def isEngineParamChanged (params : Option VersionGenerationParams) (key : EngineParamKey)
    (standard : RecipeStandard) : Bool :=
  (propertyOf params key.name).isSet &&
    propertyOf params key.name ≠ property standard.engineDefaults key.name

/-- The marks of everything but the engine. -/
def changedNamedFields (values : RecipeValues) (standard : RecipeStandard) :
    List RecipeField :=
  (if values.bpm ≠ 0 then [.bpm] else []) ++
    (if values.audioDuration ≠ 0 then [.duration] else []) ++
    (if values.keyScale ≠ "" then [.key] else []) ++
    (if (propertyOf values.genParams "user_lora_id").truthy then [.voice] else []) ++
    (if values.reference.isSome then [.reference] else []) ++
    (if values.model.isSome ∧ values.model ≠ standard.model then [.model] else []) ++
    (if values.takes ≠ recipeTakesStandard then [.takes] else [])

def changedEngineFields (values : RecipeValues) (standard : RecipeStandard) :
    List RecipeField :=
  (engineParamKeys.filter fun key =>
    isEngineParamChanged values.genParams key standard).map .engine

/-- The fields whose values differ from the standard. -/
def changedRecipeFields (values : RecipeValues) (standard : RecipeStandard) :
    Finset RecipeField :=
  let changed :=
    (changedNamedFields values standard ++ changedEngineFields values standard).toFinset
  if engineParamKeys.any fun key => .engine key ∈ changed then insert .preset changed
  else changed

/-- The tab that shows a field. -/
def tabOfField (field : RecipeField) : RecipeTab :=
  if field ∈ songFields then .song
  else if field ∈ generateFields then .generate
  else .engine

/-- The tabs that show a changed field. -/
def changedRecipeTabs (values : RecipeValues) (standard : RecipeStandard) : Finset RecipeTab :=
  (changedRecipeFields values standard).image tabOfField

/-! ### Resets -/

def withParams (values : RecipeValues)
    (change : VersionGenerationParams → VersionGenerationParams) : RecipeValues :=
  let params := change (values.genParams.getD .empty)
  { values with genParams := if 0 < params.entries.length then some params else none }

def withoutKeys (params : VersionGenerationParams) (names : List String) :
    VersionGenerationParams :=
  params.filter fun name _ => name ∉ names

def withoutEngineFields (values : RecipeValues) : RecipeValues :=
  withParams values fun params => withoutKeys params engineParamNames

/-- The field's value goes back to the standard. -/
def resetRecipeField (values : RecipeValues) (field : RecipeField) (standard : RecipeStandard) :
    RecipeValues :=
  match field with
  | .bpm => { values with bpm := 0 }
  | .duration => { values with audioDuration := 0 }
  | .key => { values with keyScale := "" }
  | .model => { values with model := standard.model }
  | .takes => { values with takes := recipeTakesStandard }
  | .voice => withParams values fun params => withoutKeys params ["user_lora_id"]
  | .reference => { values with reference := none }
  | .preset => withoutEngineFields values
  | .engine key => withParams values fun params => withoutKeys params [key.name]

def tabFields : RecipeTab → List RecipeField
  | .song => songFields
  | .generate => generateFields
  | .engine => [.preset]

/-- The values of the tab's fields go back to the standard. -/
def resetRecipeTab (values : RecipeValues) (tab : RecipeTab) (standard : RecipeStandard) :
    RecipeValues :=
  (tabFields tab).foldl (fun reset field => resetRecipeField reset field standard) values

/-! ### Presets -/

/-- One round of the loop that takes the set engine fields of a preset. -/
def assignSet (presetParams : Option VersionGenerationParams)
    (params : VersionGenerationParams) (key : EngineParamKey) : VersionGenerationParams :=
  if (propertyOf presetParams key.name).isSet then
    params.assign key.name (propertyOf presetParams key.name)
  else params

/-- The preset's parameters in place of all engine parameters. -/
def chooseEnginePreset (values : RecipeValues) (presetParams : Option VersionGenerationParams) :
    RecipeValues :=
  withParams (withoutEngineFields values) fun params =>
    engineParamKeys.foldl (assignSet presetParams) params

/-- The engine parameters that are set. -/
def engineFields (params : Option VersionGenerationParams) : VersionGenerationParams :=
  (params.getD .empty).filter fun name value => value.isSet && isEngineParamKey name

def engineParams (values : RecipeValues) : VersionGenerationParams :=
  engineFields values.genParams

/-- A preset has the mode of its model and its parameters. -/
structure PresetShape (Preset : Type*) where
  modelMode : Preset → String
  params : Preset → VersionGenerationParams

/-- The first preset whose parameters are those of the recipe. -/
def matchingEnginePreset {Preset : Type*} (shape : PresetShape Preset) (values : RecipeValues)
    (presets : List Preset) : Option Preset :=
  let current := (engineParams values).entries
  if current.length = 0 then none
  else
    presets.find? fun preset =>
      if some (shape.modelMode preset) ≠ values.model then false
      else
        let stored := engineFields (some (shape.params preset))
        stored.entries.length = current.length &&
          current.all fun entry => property stored entry.1 = entry.2

end Songmaker.Editor.RecipeStandard
