import Songmaker.Editor.RecipeStandard

namespace Songmaker.Editor.RecipeStandard

open Songmaker.Editor.EditorDraft (ParamValue ReferenceResponse)
open Songmaker.Foundation.KeyedRecords

variable {values : RecipeValues} {standard : RecipeStandard}

namespace RecipeValues

/-- The own property of the recipe's parameters. -/
def param (values : RecipeValues) (name : String) : Option PropertyValue :=
  values.genParams.bind fun params => params.lookup name

/-- An engine parameter is set and differs from the standard. -/
def engineChanged (values : RecipeValues) (standard : RecipeStandard) (key : EngineParamKey) :
    Prop :=
  ((values.param key.name).getD .undefined).isSet = true ∧
    (values.param key.name).getD .undefined ≠ property standard.engineDefaults key.name

/-- When a field is marked. -/
def Changed (values : RecipeValues) (standard : RecipeStandard) : RecipeField → Prop
  | .bpm => values.bpm ≠ 0
  | .duration => values.audioDuration ≠ 0
  | .key => values.keyScale ≠ ""
  | .voice => ((values.param "user_lora_id").getD .undefined).truthy = true
  | .reference => values.reference.isSome = true
  | .model => values.model.isSome = true ∧ values.model ≠ standard.model
  | .takes => values.takes ≠ recipeTakesStandard
  | .preset => ∃ key, values.engineChanged standard key
  | .engine key => values.engineChanged standard key

end RecipeValues

/-- The properties that belong to a field. -/
def RecipeField.names : RecipeField → List String
  | .voice => ["user_lora_id"]
  | .preset => engineParamNames
  | .engine param => [param.name]
  | _ => []

/-- Everything that does not belong to one of the fields has the same value. -/
structure SameOutside (fields : List RecipeField) (values others : RecipeValues) : Prop where
  bpm : .bpm ∉ fields → others.bpm = values.bpm
  audioDuration : .duration ∉ fields → others.audioDuration = values.audioDuration
  keyScale : .key ∉ fields → others.keyScale = values.keyScale
  reference : .reference ∉ fields → others.reference = values.reference
  model : .model ∉ fields → others.model = values.model
  takes : .takes ∉ fields → others.takes = values.takes
  param : ∀ name, (∀ field ∈ fields, name ∉ field.names) → others.param name = values.param name

/-- The marks that a reset takes away: the field's own, with the preset row all of the
engine's, and the preset row with the only changed engine field. -/
def clearedMarks (values : RecipeValues) (standard : RecipeStandard) (field : RecipeField) :
    Finset RecipeField :=
  match field with
  | .preset => insert .preset (engineParamKeys.map RecipeField.engine).toFinset
  | .engine key =>
      if engineParamKeys.filter (fun other => .engine other ∈ changedRecipeFields values standard)
          = [key] then
        {.engine key, .preset}
      else {.engine key}
  | _ => {field}

section Keys

theorem mem_engineParamKeys (key : EngineParamKey) : key ∈ engineParamKeys := by
  cases key <;> decide

theorem mem_engineParamNames (key : EngineParamKey) : key.name ∈ engineParamNames :=
  List.mem_map_of_mem (mem_engineParamKeys key)

theorem nodup_engineParamNames : engineParamNames.Nodup := by
  decide

theorem name_injective : Function.Injective EngineParamKey.name := by
  intro key other hname
  exact List.inj_on_of_nodup_map nodup_engineParamNames (mem_engineParamKeys key)
    (mem_engineParamKeys other) hname

theorem name_ne_userLoraId (key : EngineParamKey) : key.name ≠ "user_lora_id" := by
  intro hname
  have hmem := mem_engineParamNames key
  rw [hname] at hmem
  exact absurd hmem (by decide)

end Keys

section Params

theorem param_eq (values : RecipeValues) (name : String) :
    values.param name = (values.genParams.getD .empty).lookup name := by
  rw [RecipeValues.param]
  cases values.genParams with
  | none => rfl
  | some params => rfl

theorem propertyOf_eq (values : RecipeValues) (name : String) :
    propertyOf values.genParams name = (values.param name).getD .undefined := by
  rw [RecipeValues.param]
  cases values.genParams with
  | none => rfl
  | some params => rfl

theorem getD_withParams (values : RecipeValues)
    (change : VersionGenerationParams → VersionGenerationParams) :
    (withParams values change).genParams.getD .empty =
      change (values.genParams.getD .empty) := by
  rw [withParams]
  dsimp only
  split
  · rfl
  · rename_i hempty
    have hnil := List.eq_nil_of_length_eq_zero (Nat.eq_zero_of_not_pos hempty)
    exact Record.ext hnil.symm

theorem param_withParams (values : RecipeValues)
    (change : VersionGenerationParams → VersionGenerationParams) (name : String) :
    (withParams values change).param name =
      (change (values.genParams.getD .empty)).lookup name := by
  rw [param_eq, getD_withParams]

theorem withParams_withParams (values : RecipeValues)
    {change : VersionGenerationParams → VersionGenerationParams}
    (hchange : ∀ params, change (change params) = change params) :
    withParams (withParams values change) change = withParams values change := by
  have hagain : change ((withParams values change).genParams.getD .empty) =
      change (values.genParams.getD .empty) := by
    rw [getD_withParams, hchange]
  rw [withParams, hagain]
  rfl

theorem withoutKeys_withoutKeys (params : VersionGenerationParams) (names : List String) :
    withoutKeys (withoutKeys params names) names = withoutKeys params names := by
  apply Record.ext
  change (params.entries.filter _).filter _ = params.entries.filter _
  rw [List.filter_filter]
  simp only [Bool.and_self]

theorem lookup_withoutKeys (params : VersionGenerationParams) (names : List String)
    (name : String) :
    (withoutKeys params names).lookup name = if name ∈ names then none else params.lookup name := by
  rw [withoutKeys, Record.lookup_filter]
  by_cases hname : name ∈ names
  · rw [if_pos hname]
    apply Option.filter_eq_none_iff.mpr
    intro value _ hkept
    exact absurd hname (of_decide_eq_true hkept)
  · rw [if_neg hname]
    cases params.lookup name with
    | none => rfl
    | some value => exact Option.filter_some_pos (decide_eq_true hname)

theorem param_withoutKeys (values : RecipeValues) (names : List String) (name : String) :
    (withParams values fun params => withoutKeys params names).param name =
      if name ∈ names then none else values.param name := by
  rw [param_withParams, lookup_withoutKeys, param_eq]

end Params

theorem param_resetRecipeField (values : RecipeValues) (field : RecipeField)
    (standard : RecipeStandard) (name : String) :
    (resetRecipeField values field standard).param name =
      if name ∈ field.names then none else values.param name := by
  cases field with
  | voice => exact param_withoutKeys values _ name
  | preset => exact param_withoutKeys values _ name
  | engine key => exact param_withoutKeys values _ name
  | _ => rfl

theorem sameOutside_resetRecipeField (values : RecipeValues) (field : RecipeField)
    (standard : RecipeStandard) :
    SameOutside [field] values (resetRecipeField values field standard) where
  bpm := by
    intro hfield
    cases field with
    | bpm => exact absurd List.mem_cons_self hfield
    | _ => rfl
  audioDuration := by
    intro hfield
    cases field with
    | duration => exact absurd List.mem_cons_self hfield
    | _ => rfl
  keyScale := by
    intro hfield
    cases field with
    | key => exact absurd List.mem_cons_self hfield
    | _ => rfl
  reference := by
    intro hfield
    cases field with
    | reference => exact absurd List.mem_cons_self hfield
    | _ => rfl
  model := by
    intro hfield
    cases field with
    | model => exact absurd List.mem_cons_self hfield
    | _ => rfl
  takes := by
    intro hfield
    cases field with
    | takes => exact absurd List.mem_cons_self hfield
    | _ => rfl
  param := by
    intro name hname
    rw [param_resetRecipeField, if_neg (hname field List.mem_cons_self)]

theorem SameOutside.cons {first : RecipeField} {rest : List RecipeField}
    {before reset after : RecipeValues} (hfirst : SameOutside [first] before reset)
    (hrest : SameOutside rest reset after) : SameOutside (first :: rest) before after := by
  have hsplit : ∀ {field : RecipeField}, field ∉ first :: rest → field ∉ [first] ∧ field ∉ rest :=
    fun {field} hfield => ⟨fun h => hfield (List.mem_singleton.mp h ▸ List.mem_cons_self),
      fun h => hfield (List.mem_cons_of_mem first h)⟩
  refine ⟨?_, ?_, ?_, ?_, ?_, ?_, ?_⟩
  · exact fun h => (hrest.bpm (hsplit h).2).trans (hfirst.bpm (hsplit h).1)
  · exact fun h => (hrest.audioDuration (hsplit h).2).trans (hfirst.audioDuration (hsplit h).1)
  · exact fun h => (hrest.keyScale (hsplit h).2).trans (hfirst.keyScale (hsplit h).1)
  · exact fun h => (hrest.reference (hsplit h).2).trans (hfirst.reference (hsplit h).1)
  · exact fun h => (hrest.model (hsplit h).2).trans (hfirst.model (hsplit h).1)
  · exact fun h => (hrest.takes (hsplit h).2).trans (hfirst.takes (hsplit h).1)
  · intro name hname
    calc
      after.param name = reset.param name :=
        hrest.param name fun field hfield => hname field (List.mem_cons_of_mem first hfield)
      _ = before.param name := hfirst.param name fun field hfield =>
        hname field (List.mem_singleton.mp hfield ▸ List.mem_cons_self)

theorem sameOutside_resetRecipeTab (values : RecipeValues) (tab : RecipeTab)
    (standard : RecipeStandard) :
    SameOutside (tabFields tab) values (resetRecipeTab values tab standard) := by
  rw [resetRecipeTab]
  generalize tabFields tab = fields
  induction fields generalizing values with
  | nil => exact ⟨fun _ => rfl, fun _ => rfl, fun _ => rfl, fun _ => rfl, fun _ => rfl,
      fun _ => rfl, fun _ _ => rfl⟩
  | cons first rest ih =>
      rw [List.foldl_cons]
      exact (sameOutside_resetRecipeField values first standard).cons (ih _)

section Marks

theorem isEngineParamChanged_iff (values : RecipeValues) (key : EngineParamKey) :
    isEngineParamChanged values.genParams key standard = true ↔
      values.engineChanged standard key := by
  rw [isEngineParamChanged, propertyOf_eq, Bool.and_eq_true, decide_eq_true_iff]
  rfl

theorem mem_ite_singleton {field other : RecipeField} {condition : Prop} [Decidable condition] :
    field ∈ (if condition then [other] else []) ↔ condition ∧ field = other := by
  split
  · rename_i hcondition
    rw [List.mem_singleton]
    exact ⟨fun hsame => ⟨hcondition, hsame⟩, fun h => h.2⟩
  · rename_i hcondition
    exact ⟨fun hmem => absurd hmem List.not_mem_nil, fun h => absurd h.1 hcondition⟩

theorem engine_mem_changedEngineFields (key : EngineParamKey) :
    .engine key ∈ changedEngineFields values standard ↔ values.engineChanged standard key := by
  rw [changedEngineFields, List.mem_map_of_injective fun _ _ => RecipeField.engine.inj,
    List.mem_filter, isEngineParamChanged_iff]
  exact and_iff_right (mem_engineParamKeys key)

theorem notMem_changedEngineFields {field : RecipeField} (hfield : ∀ key, field ≠ .engine key) :
    field ∉ changedEngineFields values standard := by
  intro hmem
  obtain ⟨key, -, hkey⟩ := List.mem_map.mp hmem
  exact hfield key hkey.symm

theorem mem_changedRecipeFields (values : RecipeValues) (standard : RecipeStandard)
    (field : RecipeField) :
    field ∈ changedRecipeFields values standard ↔ values.Changed standard field := by
  have hengine : ∀ key, RecipeField.engine key ∈
      (changedNamedFields values standard ++ changedEngineFields values standard).toFinset ↔
        values.engineChanged standard key := by
    intro key
    rw [List.mem_toFinset, List.mem_append, engine_mem_changedEngineFields]
    refine or_iff_right ?_
    simp only [changedNamedFields, List.mem_append, mem_ite_singleton, reduceCtorEq, and_false,
      or_false, not_false_eq_true]
  have hany : (engineParamKeys.any fun key => decide (RecipeField.engine key ∈
      (changedNamedFields values standard ++ changedEngineFields values standard).toFinset))
        = true ↔ ∃ key, values.engineChanged standard key := by
    simp only [List.any_eq_true, decide_eq_true_eq, hengine, mem_engineParamKeys, true_and]
  have hrow : field ∈ changedRecipeFields values standard ↔
      field = .preset ∧ (∃ key, values.engineChanged standard key) ∨
        field ∈ (changedNamedFields values standard ++
          changedEngineFields values standard).toFinset := by
    rw [changedRecipeFields]
    by_cases hchanged : ∃ key, values.engineChanged standard key
    · rw [if_pos (hany.mpr hchanged), Finset.mem_insert, and_iff_left hchanged]
    · rw [if_neg fun h => hchanged (hany.mp h)]
      exact (or_iff_right fun h => hchanged h.2).symm
  rw [hrow]
  cases field with
  | engine key =>
      rw [hengine]
      exact or_iff_right fun h => absurd h.1 (by simp)
  | preset =>
      rw [List.mem_toFinset, List.mem_append,
        or_iff_left (notMem_changedEngineFields fun _ => by simp)]
      simp [changedNamedFields, RecipeValues.Changed]
  | _ =>
      rw [List.mem_toFinset, List.mem_append,
        or_iff_left (notMem_changedEngineFields fun _ => by simp)]
      simp [changedNamedFields, RecipeValues.Changed, propertyOf_eq]

end Marks

section Resets

theorem resetRecipeField_idempotent (values : RecipeValues) (field : RecipeField)
    (standard : RecipeStandard) :
    resetRecipeField (resetRecipeField values field standard) field standard =
      resetRecipeField values field standard := by
  cases field with
  | voice => exact withParams_withParams values fun params => withoutKeys_withoutKeys params _
  | preset => exact withParams_withParams values fun params => withoutKeys_withoutKeys params _
  | engine key =>
      exact withParams_withParams values fun params => withoutKeys_withoutKeys params _
  | _ => rfl

theorem resetRecipeTab_idempotent (values : RecipeValues) (tab : RecipeTab)
    (standard : RecipeStandard) :
    resetRecipeTab (resetRecipeTab values tab standard) tab standard =
      resetRecipeTab values tab standard := by
  cases tab with
  | song =>
      have hvoice := resetRecipeField_idempotent values .voice standard
      have hparams := congrArg RecipeValues.genParams hvoice
      exact congrArg (fun params =>
        { values with bpm := 0, audioDuration := 0, keyScale := "", genParams := params,
                      reference := none }) hparams
  | generate => rfl
  | engine => exact resetRecipeField_idempotent values .preset standard

theorem name_mem_names (key : EngineParamKey) (field : RecipeField) :
    key.name ∈ field.names ↔ field = .preset ∨ field = .engine key := by
  cases field with
  | preset => exact iff_of_true (mem_engineParamNames key) (Or.inl rfl)
  | engine other =>
      rw [RecipeField.names, List.mem_singleton]
      constructor
      · intro hname
        exact Or.inr (congrArg RecipeField.engine (name_injective hname.symm))
      · rintro (hpreset | hother)
        · exact RecipeField.noConfusion hpreset
        · rw [RecipeField.engine.inj hother]
  | voice =>
      rw [RecipeField.names, List.mem_singleton]
      exact iff_of_false (name_ne_userLoraId key) (by simp)
  | _ => exact iff_of_false List.not_mem_nil (by simp)

theorem userLoraId_mem_names (field : RecipeField) :
    "user_lora_id" ∈ field.names ↔ field = .voice := by
  cases field with
  | voice => exact iff_of_true (List.mem_singleton_self _) rfl
  | preset => exact iff_of_false (by decide) (by simp)
  | engine key =>
      rw [RecipeField.names, List.mem_singleton]
      exact iff_of_false (name_ne_userLoraId key).symm (by simp)
  | _ => exact iff_of_false List.not_mem_nil (by simp)

theorem engineChanged_reset (values : RecipeValues) (field : RecipeField) (key : EngineParamKey) :
    (resetRecipeField values field standard).engineChanged standard key ↔
      ¬(field = .preset ∨ field = .engine key) ∧ values.engineChanged standard key := by
  rw [RecipeValues.engineChanged, param_resetRecipeField, ← name_mem_names]
  by_cases hname : key.name ∈ field.names
  · rw [if_pos hname]
    exact iff_of_false (fun h => absurd h.1 Bool.false_ne_true) fun h => h.1 hname
  · rw [if_neg hname]
    exact (and_iff_right hname).symm

theorem onlyChanged_iff (values : RecipeValues) (standard : RecipeStandard)
    (key : EngineParamKey) :
    engineParamKeys.filter (fun other => .engine other ∈ changedRecipeFields values standard) =
      [key] ↔ ∀ other, values.engineChanged standard other ↔ other = key := by
  have hmem : ∀ other, other ∈ engineParamKeys.filter
      (fun other => .engine other ∈ changedRecipeFields values standard) ↔
        values.engineChanged standard other := by
    intro other
    rw [List.mem_filter, decide_eq_true_iff, mem_changedRecipeFields]
    exact and_iff_right (mem_engineParamKeys other)
  have hnodup : (engineParamKeys.filter
      (fun other => .engine other ∈ changedRecipeFields values standard)).Nodup :=
    (List.Nodup.of_map _ nodup_engineParamNames).filter _
  constructor
  · intro hsingle other
    rw [← hmem, hsingle, List.mem_singleton]
  · intro honly
    apply List.perm_singleton.mp
    apply (List.perm_ext_iff_of_nodup hnodup (List.nodup_singleton key)).mpr
    intro other
    rw [hmem, honly, List.mem_singleton]

theorem mem_clearedMarks (values : RecipeValues) (standard : RecipeStandard)
    (field other : RecipeField) :
    other ∈ clearedMarks values standard field ↔
      other = field ∨ (field = .preset ∧ ∃ key, other = .engine key) ∨
        (other = .preset ∧ ∃ key, field = .engine key ∧
          ∀ changed, values.engineChanged standard changed ↔ changed = key) := by
  cases field with
  | preset =>
      simp only [clearedMarks, Finset.mem_insert, List.mem_toFinset, List.mem_map,
        mem_engineParamKeys, true_and, reduceCtorEq, false_and, exists_false, and_false, or_false]
      simp only [eq_comm]
  | engine key =>
      rw [clearedMarks]
      by_cases honly : ∀ changed, values.engineChanged standard changed ↔ changed = key
      · rw [if_pos ((onlyChanged_iff values standard key).mpr honly)]
        simp [honly]
      · rw [if_neg fun hfilter => honly ((onlyChanged_iff values standard key).mp hfilter)]
        simp [honly]
  | _ => simp [clearedMarks]

theorem changed_resetRecipeField (values : RecipeValues) (standard : RecipeStandard)
    (field other : RecipeField) :
    (resetRecipeField values field standard).Changed standard other ↔
      values.Changed standard other ∧ other ∉ clearedMarks values standard field := by
  have hsame := sameOutside_resetRecipeField values field standard
  have houtside : ∀ {other : RecipeField}, field ≠ other → other ∉ [field] :=
    fun hne hmem => hne (List.mem_singleton.mp hmem).symm
  rw [mem_clearedMarks]
  cases other with
  | bpm =>
      by_cases hfield : field = .bpm
      · subst hfield
        exact iff_of_false (fun h => h rfl) fun h => h.2 (Or.inl rfl)
      · simp [RecipeValues.Changed, hsame.bpm (houtside hfield), Ne.symm hfield]
  | duration =>
      by_cases hfield : field = .duration
      · subst hfield
        exact iff_of_false (fun h => h rfl) fun h => h.2 (Or.inl rfl)
      · simp [RecipeValues.Changed, hsame.audioDuration (houtside hfield), Ne.symm hfield]
  | key =>
      by_cases hfield : field = .key
      · subst hfield
        exact iff_of_false (fun h => h rfl) fun h => h.2 (Or.inl rfl)
      · simp [RecipeValues.Changed, hsame.keyScale (houtside hfield), Ne.symm hfield]
  | reference =>
      by_cases hfield : field = .reference
      · subst hfield
        exact iff_of_false Bool.false_ne_true fun h => h.2 (Or.inl rfl)
      · simp [RecipeValues.Changed, hsame.reference (houtside hfield), Ne.symm hfield]
  | model =>
      by_cases hfield : field = .model
      · subst hfield
        exact iff_of_false (fun h => h.2 rfl) fun h => h.2 (Or.inl rfl)
      · simp [RecipeValues.Changed, hsame.model (houtside hfield), Ne.symm hfield]
  | takes =>
      by_cases hfield : field = .takes
      · subst hfield
        exact iff_of_false (fun h => h rfl) fun h => h.2 (Or.inl rfl)
      · simp [RecipeValues.Changed, hsame.takes (houtside hfield), Ne.symm hfield]
  | voice =>
      rw [RecipeValues.Changed, param_resetRecipeField]
      by_cases hfield : field = .voice
      · rw [if_pos ((userLoraId_mem_names field).mpr hfield)]
        exact iff_of_false Bool.false_ne_true fun h => h.2 (Or.inl hfield.symm)
      · rw [if_neg fun hname => hfield ((userLoraId_mem_names field).mp hname)]
        simp [RecipeValues.Changed, Ne.symm hfield]
  | engine key =>
      rw [RecipeValues.Changed, engineChanged_reset, and_comm]
      refine and_congr_right fun _ => not_congr ?_
      constructor
      · rintro (hpreset | hown)
        · exact Or.inr (Or.inl ⟨hpreset, key, rfl⟩)
        · exact Or.inl hown.symm
      · rintro (hown | ⟨hpreset, -⟩ | ⟨hrow, -⟩)
        · exact Or.inr hown.symm
        · exact Or.inl hpreset
        · exact RecipeField.noConfusion hrow
  | preset =>
      rw [RecipeValues.Changed]
      constructor
      · rintro ⟨key, hkey⟩
        obtain ⟨houtside, hchanged⟩ := (engineChanged_reset values field key).mp hkey
        refine ⟨⟨key, hchanged⟩, ?_⟩
        rintro (hrow | ⟨hrow, -⟩ | ⟨-, only, hfield, honly⟩)
        · exact houtside (Or.inl hrow.symm)
        · exact houtside (Or.inl hrow)
        · obtain rfl := (honly key).mp hchanged
          exact houtside (Or.inr hfield)
      · rintro ⟨⟨key, hchanged⟩, hkept⟩
        by_contra hnone
        have hreset : ∀ other, values.engineChanged standard other →
            field = .preset ∨ field = .engine other := by
          intro other hother
          by_contra houtside
          exact hnone ⟨other, (engineChanged_reset values field other).mpr ⟨houtside, hother⟩⟩
        rcases hreset key hchanged with hrow | hfield
        · exact hkept (Or.inl hrow.symm)
        · refine hkept (Or.inr (Or.inr ⟨rfl, key, hfield, fun other => ?_⟩))
          constructor
          · intro hother
            have hsingle := (hreset other hother).resolve_left (by rw [hfield]; simp)
            exact RecipeField.engine.inj (hsingle.symm.trans hfield)
          · rintro rfl
            exact hchanged

theorem changedRecipeFields_reset (values : RecipeValues) (standard : RecipeStandard)
    (field : RecipeField) :
    changedRecipeFields (resetRecipeField values field standard) standard =
      changedRecipeFields values standard \ clearedMarks values standard field := by
  apply Finset.ext
  intro other
  rw [Finset.mem_sdiff, mem_changedRecipeFields, mem_changedRecipeFields,
    changed_resetRecipeField]

theorem changedRecipeFields_foldl {fields : List RecipeField}
    (hfields : ∀ field ∈ fields, ∀ values : RecipeValues,
      clearedMarks values standard field = {field}) (values : RecipeValues) :
    changedRecipeFields
        (fields.foldl (fun reset field => resetRecipeField reset field standard) values) standard =
      changedRecipeFields values standard \ fields.toFinset := by
  induction fields generalizing values with
  | nil =>
      rw [List.toFinset_nil, Finset.sdiff_empty]
      rfl
  | cons first rest ih =>
      have hrest := ih (fun field hfield => hfields field (List.mem_cons_of_mem first hfield))
        (resetRecipeField values first standard)
      rw [List.foldl_cons, hrest, changedRecipeFields_reset,
        hfields first List.mem_cons_self values, List.toFinset_cons, sdiff_sdiff_left,
        Finset.insert_eq]
      rfl

theorem changedRecipeFields_resetTab (values : RecipeValues) (standard : RecipeStandard)
    (tab : RecipeTab) :
    changedRecipeFields (resetRecipeTab values tab standard) standard =
      (changedRecipeFields values standard).filter fun field => tabOfField field ≠ tab := by
  have hengine : ∀ key, tabOfField (.engine key) = .engine := fun key => rfl
  cases tab with
  | song =>
      rw [resetRecipeTab, changedRecipeFields_foldl (by simp [tabFields, songFields, clearedMarks])]
      apply Finset.ext
      intro field
      rw [Finset.mem_sdiff, Finset.mem_filter, List.mem_toFinset]
      refine and_congr_right fun _ => ?_
      cases field with
      | engine key => exact iff_of_true (by simp [tabFields, songFields]) (by simp [hengine])
      | _ => decide
  | generate =>
      rw [resetRecipeTab,
        changedRecipeFields_foldl (by simp [tabFields, generateFields, clearedMarks])]
      apply Finset.ext
      intro field
      rw [Finset.mem_sdiff, Finset.mem_filter, List.mem_toFinset]
      refine and_congr_right fun _ => ?_
      cases field with
      | engine key => exact iff_of_true (by simp [tabFields, generateFields]) (by simp [hengine])
      | _ => decide
  | engine =>
      have hreset : resetRecipeTab values .engine standard =
        resetRecipeField values .preset standard := rfl
      rw [hreset, changedRecipeFields_reset]
      apply Finset.ext
      intro field
      rw [Finset.mem_sdiff, Finset.mem_filter, mem_clearedMarks]
      refine and_congr_right fun _ => ?_
      cases field with
      | engine key => exact iff_of_false (by simp) (by simp [hengine])
      | _ => simp [tabOfField, songFields, generateFields]

theorem changedRecipeTabs_resetTab (values : RecipeValues) (standard : RecipeStandard)
    (tab : RecipeTab) :
    changedRecipeTabs (resetRecipeTab values tab standard) standard =
      (changedRecipeTabs values standard).erase tab := by
  apply Finset.ext
  intro other
  rw [changedRecipeTabs, changedRecipeFields_resetTab, Finset.mem_erase, Finset.mem_image,
    changedRecipeTabs, Finset.mem_image]
  constructor
  · rintro ⟨field, hfield, rfl⟩
    obtain ⟨hchanged, hother⟩ := Finset.mem_filter.mp hfield
    exact ⟨hother, field, hchanged, rfl⟩
  · rintro ⟨hother, field, hchanged, rfl⟩
    exact ⟨field, Finset.mem_filter.mpr ⟨hchanged, hother⟩, rfl⟩

end Resets

section Presets

variable {presetParams : Option VersionGenerationParams}

theorem lookup_assignSet (params : VersionGenerationParams) (key : EngineParamKey)
    (name : String) :
    (assignSet presetParams params key).lookup name =
      if key.name = name ∧ (propertyOf presetParams name).isSet = true then
        some (propertyOf presetParams name)
      else params.lookup name := by
  by_cases hname : key.name = name
  · subst hname
    by_cases hset : (propertyOf presetParams key.name).isSet = true
    · rw [assignSet, if_pos hset, if_pos ⟨rfl, hset⟩, Record.lookup_assign_self]
    · have hkept : assignSet presetParams params key = params := if_neg hset
      rw [hkept, if_neg fun h => hset h.2]
  · rw [if_neg fun h => hname h.1, assignSet]
    split
    · exact Record.lookup_assign_of_ne params _ (Ne.symm hname)
    · rfl

/-- The loop over the keys takes every set field of the preset and leaves the rest. -/
theorem lookup_foldl_assignSet (keys : List EngineParamKey) (params : VersionGenerationParams)
    (name : String) :
    (keys.foldl (assignSet presetParams) params).lookup name =
      if name ∈ keys.map EngineParamKey.name ∧ (propertyOf presetParams name).isSet = true then
        some (propertyOf presetParams name)
      else params.lookup name := by
  induction keys generalizing params with
  | nil =>
      rw [if_neg fun h => absurd h.1 List.not_mem_nil]
      rfl
  | cons first rest ih =>
      rw [List.foldl_cons, ih, lookup_assignSet, List.map_cons]
      by_cases hset : (propertyOf presetParams name).isSet = true
      · by_cases hrest : name ∈ rest.map EngineParamKey.name
        · rw [if_pos ⟨hrest, hset⟩, if_pos ⟨List.mem_cons_of_mem _ hrest, hset⟩]
        · rw [if_neg fun h => hrest h.1]
          by_cases hfirst : first.name = name
          · rw [if_pos ⟨hfirst, hset⟩, if_pos ⟨hfirst ▸ List.mem_cons_self, hset⟩]
          · rw [if_neg fun h => hfirst h.1, if_neg]
            rintro ⟨hmem, -⟩
            exact (List.mem_cons.mp hmem).elim (fun hsame => hfirst hsame.symm) hrest
      · rw [if_neg fun h => hset h.2, if_neg fun h => hset h.2, if_neg fun h => hset h.2]

theorem param_chooseEnginePreset (values : RecipeValues)
    (presetParams : Option VersionGenerationParams) (name : String) :
    (chooseEnginePreset values presetParams).param name =
      if name ∈ engineParamNames then
        (some (propertyOf presetParams name)).filter PropertyValue.isSet
      else values.param name := by
  rw [chooseEnginePreset, param_withParams, lookup_foldl_assignSet, ← param_eq,
    withoutEngineFields, param_withoutKeys]
  by_cases hname : name ∈ engineParamNames
  · rw [if_pos hname, if_pos hname]
    by_cases hset : (propertyOf presetParams name).isSet = true
    · rw [if_pos ⟨hname, hset⟩, Option.filter_some_pos hset]
    · rw [if_neg fun h => hset h.2, Option.filter_some_neg (eq_false_of_ne_true hset)]
  · have hunnamed : ¬(name ∈ engineParamKeys.map EngineParamKey.name ∧
        (propertyOf presetParams name).isSet = true) := fun h => hname h.1
    rw [if_neg hunnamed, if_neg hname, if_neg hname]

theorem lookup_engineFields (params : Option VersionGenerationParams) (name : String) :
    (engineFields params).lookup name =
      if name ∈ engineParamNames then
        (some (propertyOf params name)).filter PropertyValue.isSet
      else none := by
  have hproperty : propertyOf params name =
      ((params.getD .empty).lookup name).getD .undefined := by
    cases params with
    | none => rfl
    | some record => rfl
  rw [engineFields, Record.lookup_filter, hproperty]
  by_cases hname : name ∈ engineParamNames
  · have hkey : isEngineParamKey name = true := decide_eq_true hname
    simp only [hkey, Bool.and_true, if_pos hname]
    cases (params.getD .empty).lookup name with
    | none => rfl
    | some value => rfl
  · have hkey : isEngineParamKey name = false := decide_eq_false hname
    rw [if_neg hname]
    apply Option.filter_eq_none_iff.mpr
    intro value _ hkept
    rw [hkey, Bool.and_false] at hkept
    exact Bool.false_ne_true hkept

theorem lookup_engineParams_choose (values : RecipeValues)
    (presetParams : Option VersionGenerationParams) (name : String) :
    (engineParams (chooseEnginePreset values presetParams)).lookup name =
      (engineFields presetParams).lookup name := by
  rw [engineParams, lookup_engineFields, lookup_engineFields, propertyOf_eq,
    param_chooseEnginePreset]
  by_cases hname : name ∈ engineParamNames
  · rw [if_pos hname, if_pos hname, if_pos hname]
    by_cases hset : (propertyOf presetParams name).isSet = true
    · rw [Option.filter_some_pos hset, Option.getD_some, Option.filter_some_pos hset]
    · rw [Option.filter_some_neg (eq_false_of_ne_true hset)]
      rfl
  · rw [if_neg hname, if_neg hname]

variable {Preset : Type*} {shape : PresetShape Preset}

theorem isSet_of_mem_engineFields {params : Option VersionGenerationParams}
    {entry : String × PropertyValue} (hentry : entry ∈ (engineFields params).entries) :
    entry.2.isSet = true := by
  have hkept := (List.mem_filter.mp hentry).2
  exact (Bool.and_eq_true_iff.mp hkept).1

theorem sameFields_iff (values : RecipeValues) (params : Option VersionGenerationParams) :
    ((engineFields params).entries.length = (engineParams values).entries.length &&
        (engineParams values).entries.all fun entry =>
          property (engineFields params) entry.1 = entry.2) = true ↔
      ∀ name, (engineFields params).lookup name = (engineParams values).lookup name := by
  rw [Record.lookup_eq_iff, Bool.and_eq_true_iff, decide_eq_true_iff, List.all_eq_true]
  refine and_congr_right fun _ => forall₂_congr fun entry hentry => ?_
  rw [decide_eq_true_iff, property]
  cases hlookup : (engineFields params).lookup entry.1 with
  | none =>
      have hset := isSet_of_mem_engineFields hentry
      refine iff_of_false ?_ (Option.some_ne_none entry.2).symm
      intro hundefined
      rw [← hundefined] at hset
      exact Bool.false_ne_true hset
  | some value => exact Option.some_inj.symm

/-- A preset of the recipe's model that was chosen is found again, or another one with the
same engine fields. -/
theorem matching_of_chosen {values : RecipeValues} {presets : List Preset} {preset : Preset}
    (hmem : preset ∈ presets) (hmode : some (shape.modelMode preset) = values.model)
    {key : EngineParamKey} (hset : (property (shape.params preset) key.name).isSet = true) :
    ∃ found ∈ presets,
      matchingEnginePreset shape (chooseEnginePreset values (some (shape.params preset))) presets =
        some found ∧
      ∀ name, (engineFields (some (shape.params found))).lookup name =
        (engineFields (some (shape.params preset))).lookup name := by
  have hmodel : (chooseEnginePreset values (some (shape.params preset))).model = values.model :=
    rfl
  have hnonempty :
      (engineParams (chooseEnginePreset values (some (shape.params preset)))).entries.length
        ≠ 0 := by
    intro hempty
    have hnone := Record.lookup_of_entries_eq_nil (List.eq_nil_of_length_eq_zero hempty) key.name
    rw [lookup_engineParams_choose, lookup_engineFields, if_pos (mem_engineParamNames key)] at hnone
    exact absurd hset (Option.filter_eq_none_iff.mp hnone _ rfl)
  rw [matchingEnginePreset, if_neg hnonempty]
  cases hfind : presets.find? _ with
  | none =>
      refine absurd (List.find?_eq_none.mp hfind preset hmem) (not_not_intro ?_)
      rw [if_neg (not_not_intro (hmode.trans hmodel.symm))]
      refine (sameFields_iff _ _).mpr fun name => ?_
      exact (lookup_engineParams_choose values _ name).symm
  | some found =>
      refine ⟨found, List.mem_of_find?_eq_some hfind, rfl, fun name => ?_⟩
      have hfound := List.find?_some hfind
      split at hfound
      · exact absurd hfound Bool.false_ne_true
      · exact ((sameFields_iff _ _).mp hfound name).trans (lookup_engineParams_choose values _ name)

end Presets

/-- Marks, resets and presets agree. -/
theorem recipe_laws {Preset : Type*} (shape : PresetShape Preset) (values : RecipeValues)
    (standard : RecipeStandard) :
    (∀ field,
      changedRecipeFields (resetRecipeField values field standard) standard =
        changedRecipeFields values standard \ clearedMarks values standard field ∧
      resetRecipeField (resetRecipeField values field standard) field standard =
        resetRecipeField values field standard ∧
      SameOutside [field] values (resetRecipeField values field standard)) ∧
    (∀ tab,
      changedRecipeFields (resetRecipeTab values tab standard) standard =
        (changedRecipeFields values standard).filter (fun field => tabOfField field ≠ tab) ∧
      changedRecipeTabs (resetRecipeTab values tab standard) standard =
        (changedRecipeTabs values standard).erase tab ∧
      resetRecipeTab (resetRecipeTab values tab standard) tab standard =
        resetRecipeTab values tab standard ∧
      SameOutside (tabFields tab) values (resetRecipeTab values tab standard)) ∧
    ∀ (presets : List Preset), ∀ preset ∈ presets,
      some (shape.modelMode preset) = values.model →
      (∃ key : EngineParamKey, (property (shape.params preset) key.name).isSet = true) →
      (∃ found ∈ presets,
        matchingEnginePreset shape
          (chooseEnginePreset values (some (shape.params preset))) presets = some found ∧
        ∀ name, (engineFields (some (shape.params found))).lookup name =
          (engineFields (some (shape.params preset))).lookup name) ∧
      (chooseEnginePreset values (some (shape.params preset))).param "user_lora_id" =
        values.param "user_lora_id" ∧
      (chooseEnginePreset values (some (shape.params preset))).reference = values.reference := by
  refine ⟨fun field => ?_, fun tab => ?_, ?_⟩
  · exact ⟨changedRecipeFields_reset values standard field,
      resetRecipeField_idempotent values field standard,
      sameOutside_resetRecipeField values field standard⟩
  · exact ⟨changedRecipeFields_resetTab values standard tab,
      changedRecipeTabs_resetTab values standard tab,
      resetRecipeTab_idempotent values tab standard,
      sameOutside_resetRecipeTab values tab standard⟩
  · rintro presets preset hmem hmode ⟨key, hset⟩
    refine ⟨matching_of_chosen hmem hmode hset, ?_, rfl⟩
    rw [param_chooseEnginePreset, if_neg (by decide)]

end Songmaker.Editor.RecipeStandard
