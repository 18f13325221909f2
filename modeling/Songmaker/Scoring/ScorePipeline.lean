import Mathlib.Data.List.Perm.Basic
import Songmaker.QueueStreams.StreamSnapshots

namespace Songmaker.Scoring.ScorePipeline

open Songmaker.QueueStreams.StreamSnapshots (roundHalfEven)

/-! ### The registry -/

inductive ScorerName where
  | textAccuracy
  | emotionalDynamics
  | audiobox
  | bpmAccuracy
  | silence
  | spectralQuality
deriving DecidableEq

def ScorerName.text : ScorerName → String
  | .textAccuracy => "text_accuracy"
  | .emotionalDynamics => "emotional_dynamics"
  | .audiobox => "audiobox"
  | .bpmAccuracy => "bpm_accuracy"
  | .silence => "silence"
  | .spectralQuality => "spectral_quality"

inductive Device where
  | cpu
  | gpu
deriving DecidableEq

/-- What the pipeline knows of a scorer before it runs. -/
structure ScorerSpec where
  outputKeys : List String
  needsAudio : Bool
  device : Device

/-- The table of the scorers. -/
def scorers : ScorerName → ScorerSpec
  | .textAccuracy => ⟨["text_accuracy", "detected_language"], false, .cpu⟩
  | .emotionalDynamics =>
      ⟨["dynamics", "dynamics_pitch_cv", "dynamics_rms_contrast", "dynamics_onset_cv"], true, .cpu⟩
  | .audiobox =>
      ⟨["audiobox_enjoyment", "audiobox_understanding", "audiobox_complexity",
        "audiobox_quality"], false, .gpu⟩
  | .bpmAccuracy => ⟨["bpm_detected", "bpm_deviation"], true, .cpu⟩
  | .silence => ⟨["silence_gaps", "silence_longest"], true, .cpu⟩
  | .spectralQuality => ⟨["spectral_artifacts"], true, .cpu⟩

def toDictOrder : List ScorerName :=
  [.emotionalDynamics, .textAccuracy, .audiobox, .bpmAccuracy, .silence, .spectralQuality]

/-- The scorer of a name, if the name is one of `SCORERS`. -/
def scorerOf (text : String) : Option ScorerName :=
  toDictOrder.find? fun name => name.text = text

/-! ### Scores -/

structure WhisperWordCue where
  start : ℚ
  endTime : ℚ
  text : String
deriving DecidableEq

structure WhisperCue where
  start : ℚ
  endTime : ℚ
  text : String
  words : Option (List WhisperWordCue)
deriving DecidableEq

structure TextAccuracyScore where
  similarityRatio : ℚ
  transcribedLineTexts : List String
  whisperCues : List WhisperCue
  detectedLanguage : Option String
deriving DecidableEq

structure EmotionalDynamicsScore where
  pitchCv : ℚ
  rmsContrast : ℚ
  onsetRateCv : ℚ
  overallExpressiveness : ℚ
deriving DecidableEq

structure AudioBoxScore where
  contentEnjoyment : ℚ
  contentUnderstanding : ℚ
  productionComplexity : ℚ
  productionQuality : ℚ
deriving DecidableEq

structure BpmAccuracyScore where
  detectedBpm : ℚ
  deviationPercent : ℚ
deriving DecidableEq

structure SilenceScore where
  longestGapSeconds : ℚ
  gapCount : Int
deriving DecidableEq

structure SpectralQualityScore where
  artifactCount : Int
deriving DecidableEq

/-- `SCORE_TYPES` -/
def ScoreType : ScorerName → Type
  | .textAccuracy => TextAccuracyScore
  | .emotionalDynamics => EmotionalDynamicsScore
  | .audiobox => AudioBoxScore
  | .bpmAccuracy => BpmAccuracyScore
  | .silence => SilenceScore
  | .spectralQuality => SpectralQualityScore

def scoreTypeName : ScorerName → String
  | .textAccuracy => "TextAccuracyScore"
  | .emotionalDynamics => "EmotionalDynamicsScore"
  | .audiobox => "AudioBoxScore"
  | .bpmAccuracy => "BpmAccuracyScore"
  | .silence => "SilenceScore"
  | .spectralQuality => "SpectralQualityScore"

inductive ScoreValue where
  | number (value : ℚ)
  | count (value : Int)
  | text (value : String)
deriving DecidableEq

/-- `round(q, 1)` -/
def round1 (q : ℚ) : ℚ :=
  roundHalfEven (q * 10) / 10

def TextAccuracyScore.transcript (score : TextAccuracyScore) : String :=
  "\n".intercalate score.transcribedLineTexts

/-- `to_dict` of a scorer's score. -/
def scoreToDict : (name : ScorerName) → ScoreType name → List (String × ScoreValue)
  | .textAccuracy, (score : TextAccuracyScore) =>
      ("text_accuracy", .number (round1 (score.similarityRatio * 100))) ::
        ((score.detectedLanguage.filter (· ≠ "")).map fun language =>
          ("detected_language", .text language)).toList
  | .emotionalDynamics, (score : EmotionalDynamicsScore) =>
      [("dynamics", .number (round1 (min (score.overallExpressiveness * 100) 100))),
        ("dynamics_pitch_cv", .number score.pitchCv),
        ("dynamics_rms_contrast", .number score.rmsContrast),
        ("dynamics_onset_cv", .number score.onsetRateCv)]
  | .audiobox, (score : AudioBoxScore) =>
      [("audiobox_enjoyment", .number score.contentEnjoyment),
        ("audiobox_understanding", .number score.contentUnderstanding),
        ("audiobox_complexity", .number score.productionComplexity),
        ("audiobox_quality", .number score.productionQuality)]
  | .bpmAccuracy, (score : BpmAccuracyScore) =>
      [("bpm_detected", .number score.detectedBpm),
        ("bpm_deviation", .number score.deviationPercent)]
  | .silence, (score : SilenceScore) =>
      [("silence_gaps", .count score.gapCount),
        ("silence_longest", .number score.longestGapSeconds)]
  | .spectralQuality, (score : SpectralQualityScore) =>
      [("spectral_artifacts", .count score.artifactCount)]

/-! ### How a scorer ends -/

/-- How the run of a scorer ended. -/
inductive ScorerOutcome where
  | ok
  | failed
  | skipped
  | timedOut
deriving DecidableEq

structure ScorerRun where
  scorer : ScorerName
  outcome : ScorerOutcome
  detail : String
deriving DecidableEq

/-- The run has given a value. -/
def ScorerRun.producedValue (run : ScorerRun) : Bool :=
  run.outcome = .ok

/-- What one scorer produced and how its run ended: with a value only if it ended well. -/
inductive ScorerExecution (name : ScorerName) where
  | ok (value : ScoreType name)
  | failed (detail : String)
  | skipped (detail : String)
  | timedOut (detail : String)

/-- The value that the run has given. -/
def ScorerExecution.value {name : ScorerName} : ScorerExecution name → Option (ScoreType name)
  | .ok value => some value
  | .failed _ | .skipped _ | .timedOut _ => none

/-- What the execution leaves in the list of runs. -/
def ScorerExecution.run {name : ScorerName} : ScorerExecution name → ScorerRun
  | .ok _ => ⟨name, .ok, ""⟩
  | .failed detail => ⟨name, .failed, detail⟩
  | .skipped detail => ⟨name, .skipped, detail⟩
  | .timedOut detail => ⟨name, .timedOut, detail⟩

/-- What a scorer's function gives back: a score of some scorer, or another object. -/
inductive Returned where
  | score (name : ScorerName) (value : ScoreType name)
  | other (typeName : String)

def Returned.typeName : Returned → String
  | .score name _ => scoreTypeName name
  | .other typeName => typeName

/-- What becomes of a call under its time budget. -/
inductive CallEnding where
  | returned (value : Returned)
  | raised (detail : String)
  | overran (timeout : Nat)

/-- A scorer that returns something else has failed. -/
def wrongType (name : ScorerName) (value : Returned) : ScorerExecution name :=
  .failed ("returned " ++ value.typeName ++ ", expected " ++ scoreTypeName name)

/-- The execution of a scorer, by how its call has ended. -/
def runScorer (name : ScorerName) : CallEnding → ScorerExecution name
  | .overran timeout =>
      .timedOut ("Scorer '" ++ name.text ++ "' timed out after " ++ toString timeout ++ "s")
  | .raised detail => .failed detail
  | .returned (.score other value) =>
      if h : other = name then .ok (h ▸ value) else wrongType name (.score other value)
  | .returned (.other typeName) => wrongType name (.other typeName)

/-- An execution, of any scorer. -/
abbrev AnyExecution := Σ name : ScorerName, ScorerExecution name

/-! ### A run -/

/-- The scores by name, and the runs that they come from. -/
structure SongScores where
  values : (name : ScorerName) → Option (ScoreType name)
  runs : List ScorerRun

/-- Executions by the name of their scorer. -/
abbrev ByScorer := (name : ScorerName) → Option (ScorerExecution name)

/-- A later execution of a scorer takes the place of an earlier one. -/
def ByScorer.record (found : ByScorer) (execution : AnyExecution) : ByScorer :=
  Function.update found execution.1 (some execution.2)

/-- The last execution of each scorer. -/
def byScorer (executions : List AnyExecution) : ByScorer :=
  executions.foldl ByScorer.record fun _ => none

/-- The values by scorer, and the runs in the order of the request. -/
def aggregate (executions : List AnyExecution) (requestedOrder : List String) : SongScores where
  values name := (byScorer executions name).bind ScorerExecution.value
  runs := requestedOrder.filterMap fun text =>
    (scorerOf text).bind fun name => (byScorer executions name).map ScorerExecution.run

/-- The calls of names that are registered, in the order in which they were asked for. -/
def runnableCalls (registered : List ScorerName) (calls : List (String × CallEnding)) :
    List (ScorerName × CallEnding) :=
  calls.filterMap fun call => ((scorerOf call.1).filter (· ∈ registered)).map (·, call.2)

/-- A request for scores: the scorers this process has registered, the names that were asked
for with what each call of them comes to, and the order in which the CPU scorers were done. -/
structure ScoringRequest where
  registered : List ScorerName
  scorers : Option (List String)
  calls : List (String × CallEnding)
  finished : List (ScorerName × CallEnding)
  /-- No list of names asks for all that are registered. -/
  named : calls.map Prod.fst = scorers.getD (registered.map ScorerName.text)
  done : finished.Perm ((runnableCalls registered calls).filter fun call =>
    (ScorePipeline.scorers call.1).device = .cpu)

namespace ScoringRequest

variable (request : ScoringRequest)

/-- A name that is no scorer's is left out. -/
def unrunnable : List AnyExecution :=
  request.calls.filterMap fun call =>
    ((scorerOf call.1).filter (· ∉ request.registered)).map fun name =>
      ⟨name, .skipped "scorer not registered"⟩

def gpuCalls : List (ScorerName × CallEnding) :=
  (runnableCalls request.registered request.calls).filter fun call =>
    (ScorePipeline.scorers call.1).device = .gpu

def executions : List AnyExecution :=
  request.unrunnable ++
    (request.gpuCalls ++ request.finished).map fun call => ⟨call.1, runScorer call.1 call.2⟩

/-- `run_scoring_pipeline`, for a take whose audio is there and can be loaded. -/
def songScores : SongScores :=
  aggregate request.executions (request.calls.map Prod.fst)

end ScoringRequest

/-! ### What is stored of a run -/

abbrev Values := String → Option ScoreValue

/-- The scores as they are stored. -/
def SongScores.toDict (scores : SongScores) : Values :=
  toDictOrder.foldl (fun result name =>
    match scores.values name with
    | none => result
    | some score => fun key => ((scoreToDict name score).lookup key).or (result key)) fun _ => none

/-- The keys that the scoring has values for. -/
def SongScores.refreshedOutputKeys (scores : SongScores) : List String :=
  (scores.runs.filter ScorerRun.producedValue).flatMap fun run => (scorers run.scorer).outputKeys

def SongScores.textAccuracy (scores : SongScores) : Option TextAccuracyScore :=
  scores.values .textAccuracy

end Songmaker.Scoring.ScorePipeline
