import Songmaker.Engine.AceStepConfig

namespace Songmaker.Engine.AceStepConfig

/-! ### The values of a configuration -/

theorem exists_layer {layers : List (Option BaseGenerationParams)} {k : Knob} {v : k.Value}
    (hmerged : v ∈ mergeLayers layers k) :
    ∃ params, some params ∈ layers ∧ v ∈ params.value k := by
  have hfold : ∀ (layers : List (Option BaseGenerationParams)) (merged : Option k.Value),
      v ∈ layers.foldl (fun merged layer =>
        (layer.bind fun params => params.value k).or merged) merged →
      v ∈ merged ∨ ∃ params, some params ∈ layers ∧ v ∈ params.value k := by
    intro layers
    induction layers with
    | nil => exact fun merged hmem => Or.inl hmem
    | cons layer layers ih =>
        intro merged hmem
        rcases ih _ hmem with hfirst | ⟨params, hparams, hvalue⟩
        · rcases Option.or_eq_some_iff.mp hfirst with hlayer | ⟨-, hmerged⟩
          · obtain ⟨params, hparams, hvalue⟩ := Option.bind_eq_some_iff.mp hlayer
            exact Or.inr ⟨params, by rw [hparams]; exact List.mem_cons_self, hvalue⟩
          · exact Or.inl hmerged
        · exact Or.inr ⟨params, List.mem_cons_of_mem _ hparams, hvalue⟩
  rcases hfold layers none hmerged with hnone | hlayer
  · exact absurd hnone (Option.not_mem_none v)
  · exact hlayer

/-- A value that the parameters take, or the default. -/
def Sound (k : Knob) (v : k.Value) : Prop :=
  k.accepts v = true ∨ v = k.default

theorem sound_buildAceConfig (songMeta : SongMeta) (mode : Mode)
    (userDefaults presetParams : Option BaseGenerationParams) (seed : Option ℤ) (k : Knob) :
    Sound k ((buildAceConfig songMeta mode userDefaults presetParams seed).knob k) := by
  change Sound k ((mergeLayers [some (builtinDefaults mode), userDefaults, presetParams,
    some songMeta.generationParams] k).getD k.default)
  rcases hmerged : mergeLayers [some (builtinDefaults mode), userDefaults, presetParams,
    some songMeta.generationParams] k with _ | v
  · exact Or.inr rfl
  · obtain ⟨params, -, hvalue⟩ := exists_layer hmerged
    exact Or.inl (params.valid k v hvalue)

theorem sound_update {knob : (k : Knob) → k.Value} (hknob : ∀ k, Sound k (knob k)) {changed : Knob}
    {v : changed.Value} (hv : Sound changed v) (k : Knob) :
    Sound k (Function.update knob changed v k) := by
  by_cases hk : k = changed
  · subst hk
    rw [Function.update_self]
    exact hv
  · rw [Function.update_of_ne hk]
    exact hknob k

theorem sound_getD {k : Knob} {value : Option k.Value} {standing : k.Value}
    (hvalue : ∀ v ∈ value, k.accepts v = true) (hstanding : Sound k standing) :
    Sound k (value.getD standing) := by
  cases value with
  | none => exact hstanding
  | some v => exact Or.inl (hvalue v rfl)

theorem GenerationRun.sound (run : GenerationRun) (k : Knob) : Sound k (run.config.knob k) := by
  have hbuilt := sound_buildAceConfig run.songMeta run.mode run.userDefaults run.presetParams
    run.seed
  rw [GenerationRun.config]
  cases run.task with
  | text2music => exact hbuilt k
  | repaint params srcAudioPath sourceDuration =>
      apply sound_update (sound_update hbuilt _)
      · exact sound_getD params.strength_mem (hbuilt _)
      · exact sound_getD params.mode_mem (hbuilt _)
  | cover params srcAudioPath =>
      exact sound_update hbuilt (Or.inl params.strength_mem) k

/-! ### What a task uses -/

/-- Values that a request sends wherever its task uses the knob. -/
def toldKnob : (k : Knob) → k.Value
  | .lmNegativePrompt => "drums"
  | .repaintMode => "balanced"
  | .repaintStrength => 1
  | .lmRepetitionPenalty => 2
  | .useCotCaption => false
  | .useCotLanguage => false
  | .useAdg => true
  | .cfgIntervalStart => 1 / 2
  | .cfgIntervalEnd => 1 / 2
  | k => k.default

def toldConfig (task : TaskType) : AceStepConfig where
  prompt := ""
  lyrics := ""
  bpm := none
  audioDuration := 60
  keyScale := ""
  vocalLanguage := "en"
  seed := -1
  taskType := task
  srcAudioPath := ""
  repaintingStart := 0
  repaintingEnd := -1
  repaintLatentCrossfadeFrames := 0
  repaintWavCrossfadeSec := 0
  coverNoiseStrength := 0
  timesteps := ""
  constrainedDecoding := true
  knob := toldKnob

theorem uses_iff (task : TaskType) (k : Knob) : task.uses k = true ↔
    ∃ config : AceStepConfig, config.taskType = task ∧ (submitPayload config k).isSome = true := by
  constructor
  · intro huses
    refine ⟨toldConfig task, rfl, ?_⟩
    revert huses
    cases task <;> cases k <;> decide +kernel
  · rintro ⟨config, rfl, hsome⟩
    cases k with
    | repaintMode =>
        rw [submitPayload] at hsome
        split at hsome
        · rename_i hsent
          exact decide_eq_true hsent.1
        · exact absurd hsome Bool.false_ne_true
    | repaintStrength =>
        rw [submitPayload] at hsome
        split at hsome
        · rename_i hsent
          exact decide_eq_true hsent.1
        · exact absurd hsome Bool.false_ne_true
    | audioCoverStrength =>
        rw [submitPayload] at hsome
        split at hsome
        · rename_i hsent
          exact decide_eq_true hsent
        · exact absurd hsome Bool.false_ne_true
    | _ => rfl

/-! ### Reading back -/

/-- Whether a value counts as the default of its field. -/
def Knob.withinTolerance : (k : Knob) → k.Value → Bool
  | .lmRepetitionPenalty, v => isClose v 1
  | .latentRescale, v => isClose v 1
  | .audioCoverStrength, v => isClose v 1
  | _, _ => false

/-- What is read is the value that was used, but for the tolerance of the comparison with
the default. -/
def Recovers (k : Knob) (used read : k.Value) : Prop :=
  read = used ∨ k.withinTolerance used = true ∧ read = k.default

/-- The knobs that are not stored have their defaults. -/
structure StandardSampling (config : AceStepConfig) : Prop where
  lmTopK : config.knob .lmTopK = 0
  lmTopP : config.knob .lmTopP = 9 / 10
  lmCfgScale : config.knob .lmCfgScale = 2
  lmNegativePrompt : config.knob .lmNegativePrompt = ""
  repaintStrength : config.taskType = .repaint → config.knob .repaintMode = "" →
    config.knob .repaintStrength = 1 / 2

/-- The knobs of the stored parameters, read back. -/
def readBackOf (config : AceStepConfig) (k : Knob) : k.Value :=
  ((alwaysStored config k).or (storedConfigOptions config k)).getD k.default

theorem getD_unlessClose (used standard : ℚ) :
    (unlessClose used standard).getD standard = used ∨
      isClose used standard = true ∧ (unlessClose used standard).getD standard = standard := by
  rw [unlessClose]
  split
  · rename_i hclose
    exact Or.inr ⟨hclose, rfl⟩
  · exact Or.inl rfl

theorem getD_ite {α : Type} {condition : Prop} [Decidable condition] {value standard : α}
    (hdefault : ¬condition → value = standard) :
    (if condition then some value else none).getD standard = value := by
  split
  · rfl
  · rename_i hleft
    exact (hdefault hleft).symm

theorem GenerationRun.cfgIntervalStart_nonneg (run : GenerationRun) :
    0 ≤ run.config.knob .cfgIntervalStart := by
  rcases run.sound .cfgIntervalStart with haccepts | hdefault
  · exact (of_decide_eq_true haccepts).1
  · exact hdefault.ge

theorem GenerationRun.cfgIntervalEnd_le (run : GenerationRun) :
    run.config.knob .cfgIntervalEnd ≤ 1 := by
  rcases run.sound .cfgIntervalEnd with haccepts | hdefault
  · exact (of_decide_eq_true haccepts).2
  · exact hdefault.le

theorem GenerationRun.velocityNormThreshold_nonneg (run : GenerationRun) :
    0 ≤ run.config.knob .velocityNormThreshold := by
  rcases run.sound .velocityNormThreshold with haccepts | hdefault
  · exact of_decide_eq_true haccepts
  · exact hdefault.ge

theorem GenerationRun.velocityEmaFactor_nonneg (run : GenerationRun) :
    0 ≤ run.config.knob .velocityEmaFactor := by
  rcases run.sound .velocityEmaFactor with haccepts | hdefault
  · exact of_decide_eq_true haccepts
  · exact hdefault.ge

theorem GenerationRun.recovers (run : GenerationRun) (hstandard : StandardSampling run.config)
    (k : Knob) (huses : run.config.taskType.uses k = true) :
    Recovers k (run.config.knob k) (readBackOf run.config k) := by
  cases k with
  | lmTopK => exact Or.inl hstandard.lmTopK.symm
  | lmTopP => exact Or.inl hstandard.lmTopP.symm
  | lmCfgScale => exact Or.inl hstandard.lmCfgScale.symm
  | lmNegativePrompt => exact Or.inl hstandard.lmNegativePrompt.symm
  | lmRepetitionPenalty => exact getD_unlessClose _ _
  | latentRescale => exact getD_unlessClose _ _
  | audioCoverStrength => exact getD_unlessClose _ _
  | cfgIntervalStart =>
      left
      exact getD_ite fun hnot => le_antisymm (not_lt.mp hnot) run.cfgIntervalStart_nonneg
  | cfgIntervalEnd =>
      left
      exact getD_ite fun hnot => le_antisymm run.cfgIntervalEnd_le (not_lt.mp hnot)
  | velocityNormThreshold =>
      left
      exact getD_ite fun hnot => le_antisymm (not_lt.mp hnot) run.velocityNormThreshold_nonneg
  | velocityEmaFactor =>
      left
      exact getD_ite fun hnot => le_antisymm (not_lt.mp hnot) run.velocityEmaFactor_nonneg
  | samplerMode =>
      left
      exact getD_ite fun hnot => not_not.mp hnot
  | latentShift =>
      left
      exact getD_ite fun hnot => not_not.mp hnot
  | batchSize =>
      left
      change ((if run.config.knob .batchSize ≠ 1 then some (run.config.knob .batchSize)
        else none).or none).getD 1 = run.config.knob .batchSize
      rw [Option.or_none]
      exact getD_ite fun hnot => not_not.mp hnot
  | repaintMode =>
      left
      change ((if run.config.taskType = .repaint ∧ run.config.knob .repaintMode ≠ "" then
        some (run.config.knob .repaintMode) else none).or none).getD "" =
          run.config.knob .repaintMode
      rw [Option.or_none]
      apply getD_ite
      intro hnot
      by_contra hset
      exact hnot ⟨of_decide_eq_true huses, hset⟩
  | repaintStrength =>
      left
      change ((if run.config.taskType = .repaint ∧ run.config.knob .repaintMode ≠ "" then
        some (run.config.knob .repaintStrength) else none).or none).getD (1 / 2) =
          run.config.knob .repaintStrength
      rw [Option.or_none]
      apply getD_ite
      intro hnot
      have hrepaints : run.config.taskType = .repaint := of_decide_eq_true huses
      apply hstandard.repaintStrength hrepaints
      by_contra hset
      exact hnot ⟨hrepaints, hset⟩
  | useCotCaption =>
      left
      change ((if run.config.knob .useCotCaption then none else some false).getD true) =
        run.config.knob .useCotCaption
      cases run.config.knob .useCotCaption <;> rfl
  | useCotLanguage =>
      left
      change ((if run.config.knob .useCotLanguage then none else some false).getD true) =
        run.config.knob .useCotLanguage
      cases run.config.knob .useCotLanguage <;> rfl
  | useAdg =>
      left
      change ((if run.config.knob .useAdg then some true else none).getD false) =
        run.config.knob .useAdg
      cases run.config.knob .useAdg <;> rfl
  | _ => exact Or.inl rfl

theorem Recovers.eq {k : Knob} {used read : k.Value} (hrecovers : Recovers k used read)
    (hexact : k.withinTolerance used = false) : used = read := by
  rcases hrecovers with heq | ⟨hclose, -⟩
  · exact heq.symm
  · rw [hexact] at hclose
    exact absurd hclose Bool.false_ne_true

theorem standardSampling_of_recovers {config : AceStepConfig}
    (hrecovers : ∀ k, config.taskType.uses k = true →
      Recovers k (config.knob k) (readBackOf config k)) : StandardSampling config where
  lmTopK := (hrecovers .lmTopK rfl).eq rfl
  lmTopP := (hrecovers .lmTopP rfl).eq rfl
  lmCfgScale := (hrecovers .lmCfgScale rfl).eq rfl
  lmNegativePrompt := (hrecovers .lmNegativePrompt rfl).eq rfl
  repaintStrength := by
    intro hrepaints hmode
    have hread := (hrecovers .repaintStrength (decide_eq_true hrepaints)).eq rfl
    rw [hread]
    change ((if config.taskType = .repaint ∧ config.knob .repaintMode ≠ "" then
      some (config.knob .repaintStrength) else none).or none).getD (1 / 2) = 1 / 2
    rw [if_neg fun hset => hset.2 hmode]
    rfl

/-- Two values that differ by more than the tolerance of the comparison with the default. -/
def Differ (k : Knob) (first second : k.Value) : Prop :=
  first ≠ second ∧ ¬(k.withinTolerance first = true ∧ k.withinTolerance second = true)

theorem Recovers.not_differ {k : Knob} {first second read : k.Value}
    (hdefault : k.withinTolerance k.default = true ∨ ∀ v, k.withinTolerance v = false)
    (hfirst : Recovers k first read) (hsecond : Recovers k second read) :
    ¬Differ k first second := by
  rintro ⟨hne, hclose⟩
  rcases hfirst with rfl | ⟨hfirst, hread⟩
  · rcases hsecond with rfl | ⟨hsecond, hread⟩
    · exact hne rfl
    · rcases hdefault with hdefault | hexact
      · rw [← hread] at hdefault
        exact hclose ⟨hdefault, hsecond⟩
      · rw [hexact] at hsecond
        exact absurd hsecond Bool.false_ne_true
  · rcases hsecond with rfl | ⟨hsecond, -⟩
    · rcases hdefault with hdefault | hexact
      · rw [← hread] at hdefault
        exact hclose ⟨hfirst, hdefault⟩
      · rw [hexact] at hfirst
        exact absurd hfirst Bool.false_ne_true
    · exact hclose ⟨hfirst, hsecond⟩

theorem withinTolerance_default (k : Knob) :
    k.withinTolerance k.default = true ∨ ∀ v, k.withinTolerance v = false := by
  cases k with
  | lmRepetitionPenalty => exact Or.inl (by decide +kernel)
  | latentRescale => exact Or.inl (by decide +kernel)
  | audioCoverStrength => exact Or.inl (by decide +kernel)
  | _ => exact Or.inr fun _ => rfl

/-- Every used knob of a take is read back from its stored parameters exactly where the
knobs that are never stored have their defaults, and takes made so with different knobs
store different parameters. -/
theorem readsBack_iff (run : GenerationRun) (cotCaption cotLyrics : String)
    (deliveredBatchSize : Option ℤ) :
    ((∀ k, run.config.taskType.uses k = true →
      Recovers k (run.config.knob k)
        ((storedGenerationParams run cotCaption cotLyrics deliveredBatchSize).readBack k)) ↔
      StandardSampling run.config) ∧
    ∀ (other : GenerationRun) (cotCaption' cotLyrics' : String) (deliveredBatchSize' : Option ℤ),
      other.mode = run.mode → other.config.taskType = run.config.taskType →
      StandardSampling run.config → StandardSampling other.config →
      (∃ k, run.config.taskType.uses k = true ∧
        Differ k (run.config.knob k) (other.config.knob k)) →
      storedGenerationParams run cotCaption cotLyrics deliveredBatchSize ≠
        storedGenerationParams other cotCaption' cotLyrics' deliveredBatchSize' := by
  refine ⟨⟨standardSampling_of_recovers, run.recovers⟩, ?_⟩
  intro other cotCaption' cotLyrics' deliveredBatchSize' hmode htask hrun hother hdiffer hsame
  obtain ⟨k, huses, hdiffer⟩ := hdiffer
  have hread : readBackOf run.config k = readBackOf other.config k :=
    congrArg (fun stored => StoredGenerationParams.readBack stored k) hsame
  have hfirst := run.recovers hrun k huses
  have hsecond := other.recovers hother k (by rw [htask]; exact huses)
  rw [← hread] at hsecond
  exact hfirst.not_differ (withinTolerance_default k) hsecond hdiffer

/-! ### Takes that differ in one knob -/

def noParams : BaseGenerationParams where
  value _ := none
  userLoraId := none
  valid := fun _ v hv => absurd hv (Option.not_mem_none v)

/-- A song that sets one knob. -/
def onlyParam (k : Knob) (v : k.Value) (hv : k.accepts v = true) : BaseGenerationParams where
  value := Function.update (fun _ => none) k (some v)
  userLoraId := none
  valid := by
    intro other w hw
    by_cases hk : other = k
    · subst hk
      rw [Function.update_self] at hw
      obtain rfl := Option.some.inj hw
      exact hv
    · rw [Function.update_of_ne hk] at hw
      exact absurd hw (Option.not_mem_none w)

def topKParams : BaseGenerationParams := onlyParam .lmTopK 40 rfl

def songRun (generationParams : BaseGenerationParams) : GenerationRun where
  songMeta := ⟨"rock", "hello", 0, 60, "", "", generationParams⟩
  mode := .turbo
  userDefaults := none
  presetParams := none
  seed := none
  task := .text2music

theorem readsBack_iff_latentShift :
    storedGenerationParams (songRun (onlyParam .latentShift (1 / 2) rfl)) "" "" none ≠
      storedGenerationParams (songRun noParams) "" "" none := by
  refine (readsBack_iff _ "" "" none).2 _ "" "" none rfl rfl ⟨rfl, rfl, rfl, rfl, ?_⟩
    ⟨rfl, rfl, rfl, rfl, ?_⟩ ⟨.latentShift, rfl, ?_, ?_⟩
  · exact fun htask => absurd htask (by decide)
  · exact fun htask => absurd htask (by decide)
  · change (1 / 2 : ℚ) ≠ 0
    decide +kernel
  · exact fun hclose => absurd hclose.1 Bool.false_ne_true

theorem topK_forgotten : TaskType.text2music.uses .lmTopK = true ∧
    (songRun topKParams).config.knob .lmTopK = 40 ∧
    (songRun noParams).config.knob .lmTopK = 0 ∧
    storedGenerationParams (songRun topKParams) "" "" none =
      storedGenerationParams (songRun noParams) "" "" none := by
  refine ⟨rfl, rfl, rfl, ?_⟩
  have hknob : ∀ k, (storedGenerationParams (songRun topKParams) "" "" none).knob k =
      (storedGenerationParams (songRun noParams) "" "" none).knob k := by
    intro k
    cases k <;> rfl
  calc
    storedGenerationParams (songRun topKParams) "" "" none =
      { storedGenerationParams (songRun noParams) "" "" none with
        knob := (storedGenerationParams (songRun topKParams) "" "" none).knob } := rfl
    _ = storedGenerationParams (songRun noParams) "" "" none := by rw [funext hknob]

end Songmaker.Engine.AceStepConfig
