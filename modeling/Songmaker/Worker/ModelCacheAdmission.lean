import Songmaker.Worker.ModelCacheBudget

/-!
Admission of `ModelCache.load`: the test on the eviction plan and the loop that
carries the plan out agree for every mix of pinned, used and evictable modes
and for whatever the VRAM reader answers at each look.
-/

namespace Songmaker.Worker.ModelCache

open Songmaker.Foundation

variable {Mode : Type} [DecidableEq Mode]

/-- The errors the source raises as `CapacityError`. -/
def CacheError.isCapacityError : CacheError Mode → Bool
  | .exceedsBudget _ _ _ | .cannotFit _ _ _ _ | .inUse _ _ => true
  | .unknownMode _ | .modelNotLoaded _ | .keyError _ | .loaderFailed | .unloaderFailed => false

/-- The last call ended with a capacity error. -/
def State.capacityRefused (state : State Mode) : Bool :=
  match state.answer with
  | some (.error error) => error.isCapacityError
  | _ => false

/-- The modes that a load may evict, least recently used first. -/
def evictableModes (cache : Cache Mode) : List Mode :=
  (loadedModes cache).filter fun mode => mode ∉ cache.pinned ∧ cache.inUse mode = 0

/-- The loaded table without the first `count` evictable modes. -/
def loadedAfter (cache : Cache Mode) (count : Nat) : List (Mode × Nat) :=
  cache.loaded.filter fun entry => entry.1 ∉ (evictableModes cache).take count

namespace Config

/-- The target alone exceeds the budget, or evicting every evictable mode would
still not make room for it. -/
def NoRoom (config : Config Mode) (cache : Cache Mode) (targetGb : ℚ)
    (reading : Option VramStats) : Prop :=
  config.budgetGb < targetGb ∨
    config.budgetGb < (config.planningUsedGb cache.loaded reading).1 -
      config.planGb (evictableModes cache) + targetGb

/-- `running_used_gb` of `_evict_to_fit` after `count` victims, where `reader` is
what the VRAM reader answers at each look. -/
def runningUsedGb (config : Config Mode) (cache : Cache Mode)
    (reader : Nat → Option VramStats) : Nat → ℚ
  | 0 => (config.planningUsedGb cache.loaded (reader 0)).1
  | count + 1 =>
      min (config.planningUsedGb (loadedAfter cache (count + 1)) (reader (count + 1))).1
        (config.runningUsedGb cache reader count -
          config.planGb ((evictableModes cache)[count]?).toList)

/-- The state after a call of `load` and `count` unloaders that returned. -/
def loadThenUnload (config : Config Mode) (state : State Mode) (mode : Mode)
    (reader : Nat → Option VramStats) : Nat → Option (State Mode)
  | 0 => state.act config (.load mode (reader 0))
  | count + 1 =>
      (config.loadThenUnload state mode reader count).bind fun later =>
        later.act config (.unloaderReturns (reader (count + 1)))

end Config

/-- `later` follows a call of `load` in `state` by which `count` modes are gone.
These are the first evictable ones, each was unloaded while the target did not
fit, and the loader is called as soon as it fits. -/
structure EvictsPrefix (config : Config Mode) (state : State Mode) (mode : Mode) (targetGb : ℚ)
    (reader : Nat → Option VramStats) (count : Nat) (later : State Mode) : Prop where
  loaded : later.cache.loaded = loadedAfter state.cache count
  pinned : later.cache.pinned = state.cache.pinned
  inUse : later.cache.inUse = state.cache.inUse
  exited : later.exited = state.exited ++
    ((evictableModes state.cache).take count).filterMap (getLoaded state.cache)
  needed : ∀ earlier < count,
    config.budgetGb < config.runningUsedGb state.cache reader earlier + targetGb
  stops : config.runningUsedGb state.cache reader count + targetGb ≤ config.budgetGb →
    later.lock = some (.loading mode ((evictableModes state.cache).take count))
  continues : config.budgetGb < config.runningUsedGb state.cache reader count + targetGb →
    ∃ victim child rest,
      (evictableModes state.cache)[count]? = some victim ∧
        getLoaded state.cache victim = some child ∧
        later.lock = some (.evictingToFit mode targetGb victim child rest
          (config.runningUsedGb state.cache reader count)
          ((evictableModes state.cache).take count))

namespace Config

variable (config : Config Mode)

omit [DecidableEq Mode] in
theorem planGb_nonneg (plan : List Mode) : 0 ≤ config.planGb plan := by
  induction plan with
  | nil => exact le_rfl
  | cons mode plan ih =>
      rw [planGb_cons]
      exact add_nonneg (config.sizeGb_nonneg mode) ih

theorem buildEvictionPlan_prefix (cache : Cache Mode) (incomingGb projectedGb : ℚ)
    (modes : List Mode) :
    (config.buildEvictionPlan cache incomingGb projectedGb modes).1 <+:
      modes.filter fun mode => mode ∉ cache.pinned ∧ cache.inUse mode = 0 := by
  induction modes generalizing projectedGb with
  | nil => exact List.nil_prefix
  | cons mode rest ih =>
      rw [buildEvictionPlan]
      split_ifs with hroom hkept
      · exact List.nil_prefix
      · have hfilter : ¬ (mode ∉ cache.pinned ∧ cache.inUse mode = 0) := by
          rintro ⟨hpin, huse⟩
          rcases hkept with hpinned | hused
          · exact hpin hpinned
          · omega
        rw [List.filter_cons_of_neg (by simpa using hfilter)]
        exact ih projectedGb
      · have hfilter : mode ∉ cache.pinned ∧ cache.inUse mode = 0 := by
          rw [not_or] at hkept
          exact ⟨hkept.1, by omega⟩
        rw [List.filter_cons_of_pos (by simpa using hfilter)]
        exact (List.prefix_cons_inj mode).mpr (ih _)

/-- The test on the projected usage is the test on evicting every evictable mode. -/
theorem buildEvictionPlan_noRoom_iff (cache : Cache Mode) (incomingGb projectedGb : ℚ)
    (modes : List Mode) :
    config.budgetGb <
        (config.buildEvictionPlan cache incomingGb projectedGb modes).2 + incomingGb ↔
      config.budgetGb < projectedGb - config.planGb
        (modes.filter fun mode => mode ∉ cache.pinned ∧ cache.inUse mode = 0) + incomingGb := by
  induction modes generalizing projectedGb with
  | nil => simp [buildEvictionPlan]
  | cons mode rest ih =>
      rw [buildEvictionPlan]
      split_ifs with hroom hkept
      · have hfreed := config.planGb_nonneg
          ((mode :: rest).filter fun mode => mode ∉ cache.pinned ∧ cache.inUse mode = 0)
        constructor
        · intro hlt
          exact absurd hroom (not_le.mpr hlt)
        · intro hlt
          dsimp only
          linarith
      · have hfilter : ¬ (mode ∉ cache.pinned ∧ cache.inUse mode = 0) := by
          rintro ⟨hpin, huse⟩
          rcases hkept with hpinned | hused
          · exact hpin hpinned
          · omega
        rw [List.filter_cons_of_neg (by simpa using hfilter)]
        exact ih projectedGb
      · have hfilter : mode ∉ cache.pinned ∧ cache.inUse mode = 0 := by
          rw [not_or] at hkept
          exact ⟨hkept.1, by omega⟩
        rw [List.filter_cons_of_pos (by simpa using hfilter), planGb_cons, ← sub_sub]
        exact ih _

end Config

section Table

variable {cache : Cache Mode}

theorem evictableModes_sublist (cache : Cache Mode) :
    (evictableModes cache).Sublist (loadedModes cache) :=
  List.filter_sublist

theorem loadedAfter_zero (cache : Cache Mode) : loadedAfter cache 0 = cache.loaded := by
  simp [loadedAfter]

theorem loadedAfter_succ {count : Nat} {victim : Mode}
    (hvictim : (evictableModes cache)[count]? = some victim) :
    loadedAfter cache (count + 1) = remove (loadedAfter cache count) victim := by
  rw [loadedAfter, loadedAfter, remove, List.filter_filter, List.take_add_one, hvictim]
  apply List.filter_congr
  intro entry _
  rw [Option.toList_some, Bool.eq_iff_iff]
  simp only [decide_eq_true_eq, Bool.and_eq_true, List.mem_append, List.mem_singleton, not_or]
  exact and_comm

theorem getLoaded_loadedAfter (hnodup : (loadedModes cache).Nodup) {later : Cache Mode}
    {count : Nat} (hlater : later.loaded = loadedAfter cache count) {mode : Mode} {child : Nat}
    (hmode : getLoaded later mode = some child) : getLoaded cache mode = some child := by
  have hmem : (mode, child) ∈ cache.loaded := by
    have hleft := mem_of_getLoaded hmode
    rw [hlater] at hleft
    exact List.mem_of_mem_filter hleft
  cases hfound : getLoaded cache mode with
  | none => exact absurd (List.mem_map_of_mem hmem) (getLoaded_eq_none hfound)
  | some other =>
      have hother := mem_of_getLoaded hfound
      exact congrArg some
        (congrArg Prod.snd (List.inj_on_of_nodup_map hnodup hother hmem rfl))

theorem getElem?_mem_loadedAfter (hnodup : (loadedModes cache).Nodup) {later : Cache Mode}
    {count : Nat} (hlater : later.loaded = loadedAfter cache count) {victim : Mode}
    (hvictim : (evictableModes cache)[count]? = some victim) :
    getLoaded later victim ≠ none := by
  intro hnone
  apply getLoaded_eq_none hnone
  have hmem : victim ∈ evictableModes cache := List.mem_of_getElem? hvictim
  obtain ⟨entry, hentry, rfl⟩ := List.mem_map.mp ((evictableModes_sublist cache).subset hmem)
  rw [loadedModes, hlater]
  refine List.mem_map_of_mem (List.mem_filter.mpr ⟨hentry, ?_⟩)
  have hevictable : (evictableModes cache).Nodup := hnodup.sublist (evictableModes_sublist cache)
  rw [decide_eq_true_eq, List.mem_take_iff_getElem]
  rintro ⟨index, hindex, heq⟩
  obtain ⟨hlt, hcount⟩ := List.getElem?_eq_some_iff.mp hvictim
  have : index = count := (List.Nodup.getElem_inj_iff hevictable).mp (heq.trans hcount.symm)
  omega

end Table

/-- What the loop of `_evict_to_fit` keeps between two victims of its plan. -/
structure CarriesOut (config : Config Mode) (state : State Mode) (mode : Mode) (targetGb : ℚ)
    (reader : Nat → Option VramStats) (plan : List Mode) (count : Nat) (later : State Mode) :
    Prop where
  cache : later.cache =
    { state.cache with
      loaded := loadedAfter state.cache count
      targetLoading := some mode }
  exited : later.exited = state.exited ++
    ((evictableModes state.cache).take count).filterMap (getLoaded state.cache)
  needed : ∀ earlier < count,
    config.budgetGb < config.runningUsedGb state.cache reader earlier + targetGb
  room : config.runningUsedGb state.cache reader count - config.planGb (plan.drop count) +
    targetGb ≤ config.budgetGb
  lock : ∃ part, later.lock = some part ∧
    config.evictNext later.cache mode targetGb (config.runningUsedGb state.cache reader count)
      ((evictableModes state.cache).take count) (plan.drop count) = .suspended part
  answer : later.answer = none

section Loop

variable {config : Config Mode} {state later : State Mode} {mode : Mode} {targetGb : ℚ}
  {reader : Nat → Option VramStats} {plan : List Mode} {count : Nat}

theorem getElem?_of_drop_eq (hplan : plan <+: evictableModes state.cache) {victim : Mode}
    {rest : List Mode} (hdrop : plan.drop count = victim :: rest) :
    (evictableModes state.cache)[count]? = some victim := by
  have hlt : count < plan.length := by
    by_contra hge
    rw [List.drop_eq_nil_of_le (not_lt.mp hge)] at hdrop
    simp at hdrop
  rw [List.drop_eq_getElem_cons hlt, List.cons.injEq] at hdrop
  obtain ⟨others, hothers⟩ := hplan
  rw [← hothers, List.getElem?_append_left hlt, List.getElem?_eq_getElem hlt, hdrop.1]

theorem evictNext_suspended {cache : Cache Mode} {victims : List Mode} (config : Config Mode)
    (mode : Mode) (incomingGb runningGb : ℚ) (evicted : List Mode)
    (hloaded : ∀ victim ∈ victims.head?, getLoaded cache victim ≠ none) :
    ∃ part, config.evictNext cache mode incomingGb runningGb evicted victims =
      .suspended part := by
  cases victims with
  | nil => exact ⟨_, rfl⟩
  | cons victim rest =>
      rw [Config.evictNext]
      split_ifs
      · exact ⟨_, rfl⟩
      · obtain ⟨child, hchild⟩ := Option.ne_none_iff_exists'.mp (hloaded victim rfl)
        rw [hchild]
        exact ⟨_, rfl⟩

theorem evictNext_of_fits {cache : Cache Mode} {incomingGb runningGb : ℚ}
    {evicted victims : List Mode} (hfits : runningGb + incomingGb ≤ config.budgetGb) :
    config.evictNext cache mode incomingGb runningGb evicted victims =
      .suspended (.loading mode evicted) := by
  cases victims with
  | nil => rfl
  | cons victim rest => rw [Config.evictNext, if_pos hfits]

theorem evictNext_of_short {cache : Cache Mode} {incomingGb runningGb : ℚ}
    {evicted victims : List Mode} (hshort : config.budgetGb < runningGb + incomingGb)
    (hroom : runningGb - config.planGb victims + incomingGb ≤ config.budgetGb)
    {part : Section Mode}
    (hnext : config.evictNext cache mode incomingGb runningGb evicted victims =
      .suspended part) :
    ∃ victim child rest, victims = victim :: rest ∧ getLoaded cache victim = some child ∧
      part = .evictingToFit mode incomingGb victim child rest runningGb evicted := by
  cases victims with
  | nil =>
      rw [Config.planGb_nil] at hroom
      linarith
  | cons victim rest =>
      rw [Config.evictNext, if_neg (not_le.mpr hshort)] at hnext
      cases hchild : getLoaded cache victim with
      | none => simp [hchild] at hnext
      | some child =>
          refine ⟨victim, child, rest, rfl, hchild, ?_⟩
          simp only [hchild, Progress.suspended.injEq] at hnext
          exact hnext.symm

theorem load_of_noRoom {cache : Cache Mode} {reading : Option VramStats}
    (hsize : config.sizes mode = some targetGb) (habsent : mode ∉ loadedModes cache)
    (hnoRoom : config.NoRoom cache targetGb reading) :
    ∃ error, config.load cache mode reading = (cache, .finished (.error error)) ∧
      error.isCapacityError = true := by
  by_cases hbig : config.budgetGb < targetGb
  · refine ⟨.exceedsBudget mode targetGb config.budgetGb, ?_, rfl⟩
    simp only [Config.load, hsize, if_neg habsent, if_pos hbig]
  · have hfull := (config.buildEvictionPlan_noRoom_iff cache targetGb
      (config.planningUsedGb cache.loaded reading).1 (loadedModes cache)).mpr
      (hnoRoom.resolve_left hbig)
    exact ⟨_, by simp only [Config.load, hsize, if_neg habsent, if_neg hbig, if_pos hfull]; rfl,
      rfl⟩

theorem carriesOut_load (hlock : state.lock = none)
    (hsize : config.sizes mode = some targetGb) (habsent : mode ∉ loadedModes state.cache)
    (hroom : ¬ config.NoRoom state.cache targetGb (reader 0))
    (hstep : state.act config (.load mode (reader 0)) = some later) :
    ∃ plan, plan <+: evictableModes state.cache ∧
      CarriesOut config state mode targetGb reader plan 0 later := by
  rw [Config.NoRoom, not_or] at hroom
  have hfirst := config.buildEvictionPlan_prefix state.cache targetGb
    (config.planningUsedGb state.cache.loaded (reader 0)).1 (loadedModes state.cache)
  have hfits := mt (config.buildEvictionPlan_noRoom_iff state.cache targetGb
    (config.planningUsedGb state.cache.loaded (reader 0)).1 (loadedModes state.cache)).mp hroom.2
  have hprojected := config.buildEvictionPlan_projected state.cache targetGb
    (config.planningUsedGb state.cache.loaded (reader 0)).1 (loadedModes state.cache)
  generalize hplan : config.buildEvictionPlan state.cache targetGb
    (config.planningUsedGb state.cache.loaded (reader 0)).1 (loadedModes state.cache) = built
    at hfirst hfits hprojected
  have hhead : ∀ victim ∈ built.1.head?, getLoaded state.cache victim ≠ none := by
    intro victim hvictim hnone
    have hmem := hfirst.subset (List.mem_of_mem_head? hvictim)
    exact getLoaded_eq_none hnone ((evictableModes_sublist state.cache).subset hmem)
  obtain ⟨part, hpart⟩ := evictNext_suspended config mode targetGb
    (config.planningUsedGb state.cache.loaded (reader 0)).1 [] hhead
  have hload : config.load state.cache mode (reader 0) =
      ({ state.cache with targetLoading := some mode }, .suspended part) := by
    simp only [Config.load, hsize, if_neg habsent, if_neg hroom.1, hplan, if_neg hfits, hpart]
  simp only [State.act, hsize, hlock, State.call, hload, reduceCtorEq, if_false,
    Option.isSome_none, Bool.false_eq_true, Option.some.injEq] at hstep
  subst hstep
  refine ⟨built.1, hfirst, ?_, ?_, ?_, ?_, ⟨part, rfl, ?_⟩, rfl⟩
  · rw [loadedAfter_zero]
    rfl
  · show state.exited = _
    simp
  · intro earlier hearlier
    omega
  · rw [List.drop_zero, Config.runningUsedGb, ← hprojected]
    exact not_lt.mp hfits
  · rw [List.drop_zero, List.take_zero, Config.runningUsedGb]
    exact hpart

/-- Every unloader that returns takes the next victim of the plan out of the table. -/
theorem CarriesOut.unloaderReturns (hnodup : (loadedModes state.cache).Nodup)
    (hplan : plan <+: evictableModes state.cache)
    (hlater : CarriesOut config state mode targetGb reader plan count later)
    {next : State Mode}
    (hstep : later.act config (.unloaderReturns (reader (count + 1))) = some next) :
    CarriesOut config state mode targetGb reader plan (count + 1) next := by
  obtain ⟨part, hlock, hnext⟩ := hlater.lock
  have hshort : config.budgetGb < config.runningUsedGb state.cache reader count + targetGb := by
    by_contra hfits
    rw [evictNext_of_fits (not_lt.mp hfits), Progress.suspended.injEq] at hnext
    subst hnext
    simp [State.act, hlock, State.unloaderReturns] at hstep
  obtain ⟨victim, child, rest, hdrop, hchild, rfl⟩ := evictNext_of_short hshort hlater.room hnext
  have hvictim := getElem?_of_drop_eq hplan hdrop
  have hloaded : later.cache.loaded = loadedAfter state.cache count := by rw [hlater.cache]
  have hremoved : remove later.cache.loaded victim = loadedAfter state.cache (count + 1) := by
    rw [hloaded, loadedAfter_succ hvictim]
  have hrest : rest = plan.drop (count + 1) := by
    rw [← List.drop_drop, hdrop, List.drop_one, List.tail_cons]
  have htaken : (evictableModes state.cache).take count ++ [victim] =
      (evictableModes state.cache).take (count + 1) := by
    rw [List.take_add_one, hvictim, Option.toList_some]
  have hrunning : min (config.planningUsedGb (loadedAfter state.cache (count + 1))
      (reader (count + 1))).1 (config.runningUsedGb state.cache reader count -
        config.sizeGb victim) = config.runningUsedGb state.cache reader (count + 1) := by
    rw [Config.runningUsedGb, hvictim, Option.toList_some, Config.planGb_cons, Config.planGb_nil,
      add_zero]
  have hhead : ∀ other ∈ (plan.drop (count + 1)).head?,
      getLoaded { later.cache with loaded := loadedAfter state.cache (count + 1) }
          other ≠ none := by
    intro other hother
    obtain ⟨others, hothers⟩ := List.head?_eq_some_iff.mp (Option.mem_def.mp hother)
    exact getElem?_mem_loadedAfter hnodup rfl (getElem?_of_drop_eq hplan hothers)
  obtain ⟨part, hpart⟩ := evictNext_suspended config mode targetGb
    (config.runningUsedGb state.cache reader (count + 1))
    ((evictableModes state.cache).take (count + 1)) hhead
  simp only [State.act, hlock, Option.bind_some, State.unloaderReturns, hremoved, hrunning, htaken,
    hrest, hpart, Option.some.injEq] at hstep
  subst hstep
  refine ⟨?_, ?_, ?_, ?_, ⟨part, rfl, hpart⟩, rfl⟩
  · show ({ later.cache with loaded := loadedAfter state.cache (count + 1) } : Cache Mode) = _
    rw [hlater.cache]
  · show later.exited ++ [child] = _
    rw [hlater.exited, ← htaken, List.filterMap_append, List.append_assoc]
    have hown := getLoaded_loadedAfter hnodup hloaded hchild
    simp [hown]
  · intro earlier hearlier
    rcases Nat.lt_succ_iff_lt_or_eq.mp hearlier with hlt | rfl
    · exact hlater.needed earlier hlt
    · exact hshort
  · have hroom := hlater.room
    rw [hdrop, Config.planGb_cons, hrest] at hroom
    have hmin := min_le_right (config.planningUsedGb (loadedAfter state.cache (count + 1))
      (reader (count + 1))).1 (config.runningUsedGb state.cache reader count -
        config.sizeGb victim)
    rw [hrunning] at hmin
    linarith

theorem CarriesOut.unloading
    (hlater : CarriesOut config state mode targetGb reader plan count later)
    (hshort : config.budgetGb < config.runningUsedGb state.cache reader count + targetGb) :
    ∃ next, later.act config (.unloaderReturns (reader (count + 1))) = some next := by
  obtain ⟨part, hlock, hnext⟩ := hlater.lock
  obtain ⟨victim, child, rest, hdrop, hchild, rfl⟩ := evictNext_of_short hshort hlater.room hnext
  simp only [State.act, hlock, Option.bind_some, State.unloaderReturns]
  split
  · exact ⟨_, rfl⟩
  · exact ⟨_, rfl⟩

theorem CarriesOut.evictsPrefix (hnodup : (loadedModes state.cache).Nodup)
    (hplan : plan <+: evictableModes state.cache)
    (hlater : CarriesOut config state mode targetGb reader plan count later) :
    EvictsPrefix config state mode targetGb reader count later := by
  obtain ⟨part, hlock, hnext⟩ := hlater.lock
  have hloaded : later.cache.loaded = loadedAfter state.cache count := by rw [hlater.cache]
  refine ⟨hloaded, by rw [hlater.cache], by rw [hlater.cache], hlater.exited, hlater.needed,
    ?_, ?_⟩
  · intro hfits
    rw [evictNext_of_fits hfits, Progress.suspended.injEq] at hnext
    rw [hlock, hnext]
  · intro hshort
    obtain ⟨victim, child, rest, hdrop, hchild, rfl⟩ :=
      evictNext_of_short hshort hlater.room hnext
    exact ⟨victim, child, rest, getElem?_of_drop_eq hplan hdrop,
      getLoaded_loadedAfter hnodup hloaded hchild, hlock⟩

theorem carriesOut_loadThenUnload (hnodup : (loadedModes state.cache).Nodup)
    (hplan : plan <+: evictableModes state.cache) {start : State Mode}
    (hstart : CarriesOut config state mode targetGb reader plan 0 start)
    (hload : state.act config (.load mode (reader 0)) = some start)
    (hrun : config.loadThenUnload state mode reader count = some later) :
    CarriesOut config state mode targetGb reader plan count later := by
  induction count generalizing later with
  | zero =>
      rw [Config.loadThenUnload, hload, Option.some.injEq] at hrun
      exact hrun ▸ hstart
  | succ count ih =>
      obtain ⟨before, hbefore, hstep⟩ := Option.bind_eq_some_iff.mp hrun
      exact (ih hbefore).unloaderReturns hnodup hplan hstep

theorem CarriesOut.reaches_loader (hnodup : (loadedModes state.cache).Nodup)
    (hplan : plan <+: evictableModes state.cache)
    (hlater : CarriesOut config state mode targetGb reader plan count later)
    (hrun : config.loadThenUnload state mode reader count = some later) :
    ∃ total final, config.loadThenUnload state mode reader total = some final ∧
      CarriesOut config state mode targetGb reader plan total final ∧
      config.runningUsedGb state.cache reader total + targetGb ≤ config.budgetGb := by
  induction hleft : plan.drop count generalizing count later with
  | nil =>
      have hroom := hlater.room
      rw [hleft, Config.planGb_nil, sub_zero] at hroom
      exact ⟨count, later, hrun, hlater, hroom⟩
  | cons victim rest ih =>
      by_cases hfits : config.runningUsedGb state.cache reader count + targetGb ≤ config.budgetGb
      · exact ⟨count, later, hrun, hlater, hfits⟩
      · obtain ⟨next, hnext⟩ := hlater.unloading (not_le.mp hfits)
        have hrest : plan.drop (count + 1) = rest := by
          rw [← List.drop_drop, hleft, List.drop_one, List.tail_cons]
        have hrunNext : config.loadThenUnload state mode reader (count + 1) = some next := by
          rw [Config.loadThenUnload, hrun, Option.bind_some]
          exact hnext
        exact ih (hlater.unloaderReturns hnodup hplan hnext) hrunNext hrest

end Loop

/-- For a declared mode that is not loaded, `load` is refused for want of room
exactly when the target exceeds the budget or evicting every evictable mode
would not make it fit, and then nothing has changed. Otherwise it evicts the
first evictable modes, as many as it takes for the target to fit, and calls
the loader. A mode that is unknown or loaded is never refused for want of room
and evicts nothing. -/
theorem load_admission (config : Config Mode) (state : State Mode) (mode : Mode)
    (reader : Nat → Option VramStats) (hnodup : (loadedModes state.cache).Nodup)
    (hlock : state.lock = none) :
    ∃ called, state.act config (.load mode (reader 0)) = some called ∧
      (called.capacityRefused = true ↔ ∃ targetGb, config.sizes mode = some targetGb ∧
        mode ∉ loadedModes state.cache ∧ config.NoRoom state.cache targetGb (reader 0)) ∧
      (called.capacityRefused = true → called.cache = state.cache ∧
        called.exited = state.exited ∧ called.lock = none) ∧
      (∀ targetGb, config.sizes mode = some targetGb → mode ∉ loadedModes state.cache →
        ¬ config.NoRoom state.cache targetGb (reader 0) →
        (∀ count later, config.loadThenUnload state mode reader count = some later →
          EvictsPrefix config state mode targetGb reader count later) ∧
        ∃ total final, config.loadThenUnload state mode reader total = some final ∧
          final.lock = some (.loading mode ((evictableModes state.cache).take total))) ∧
      (config.sizes mode = none ∨ mode ∈ loadedModes state.cache →
        called.cache.loaded.Perm state.cache.loaded ∧ called.cache.pinned = state.cache.pinned ∧
          called.cache.inUse = state.cache.inUse ∧ called.exited = state.exited ∧
          called.lock = none) := by
  cases hsize : config.sizes mode with
  | none =>
      refine ⟨{ state with answer := some (.error (.unknownMode mode)) },
        by simp [State.act, hsize], ?_, ?_, ?_, ?_⟩
      · simp [State.capacityRefused, CacheError.isCapacityError]
      · simp [State.capacityRefused, CacheError.isCapacityError]
      · simp
      · exact fun _ => ⟨List.Perm.refl _, rfl, rfl, rfl, hlock⟩
  | some targetGb =>
      have hcall : state.act config (.load mode (reader 0)) =
          some (state.call (config.load state.cache mode (reader 0))) := by
        simp [State.act, hsize, hlock]
      refine ⟨_, hcall, ?_⟩
      by_cases hloaded : mode ∈ loadedModes state.cache
      · have hload : config.load state.cache mode (reader 0) =
            ({ state.cache with loaded := moveToEnd state.cache.loaded mode },
              .finished (.ok (.loadResult (loadedModes
                { state.cache with loaded := moveToEnd state.cache.loaded mode }) []))) := by
          simp only [Config.load, hsize, if_pos hloaded]
        rw [hload]
        refine ⟨?_, ?_, ?_, ?_⟩
        · simp [State.call, State.proceed, State.capacityRefused, hloaded]
        · simp [State.call, State.proceed, State.capacityRefused]
        · intro _ _ habsent
          exact absurd hloaded habsent
        · exact fun _ => ⟨moveToEnd_perm _ mode, rfl, rfl, rfl, rfl⟩
      · by_cases hnoRoom : config.NoRoom state.cache targetGb (reader 0)
        · obtain ⟨error, hload, herror⟩ := load_of_noRoom hsize hloaded hnoRoom
          rw [hload]
          refine ⟨?_, ?_, ?_, ?_⟩
          · simp [State.call, State.proceed, State.capacityRefused, herror, hloaded, hnoRoom]
          · exact fun _ => ⟨rfl, rfl, rfl⟩
          · intro size hsize' _ hroom
            obtain rfl := Option.some.inj hsize'
            exact absurd hnoRoom hroom
          · simp [hloaded]
        · obtain ⟨plan, hplan, hstart⟩ := carriesOut_load hlock hsize hloaded hnoRoom hcall
          have hadmitted : (state.call (config.load state.cache mode (reader 0))).capacityRefused =
              false := by
            rw [State.capacityRefused, hstart.answer]
          refine ⟨?_, ?_, ?_, ?_⟩
          · simp [hadmitted, hnoRoom]
          · simp [hadmitted]
          · intro size hsize' _ _
            obtain rfl := Option.some.inj hsize'
            refine ⟨fun count later hrun => ?_, ?_⟩
            · exact (carriesOut_loadThenUnload hnodup hplan hstart hcall hrun).evictsPrefix
                hnodup hplan
            · obtain ⟨total, final, hrun, hfinal, hfits⟩ :=
                hstart.reaches_loader hnodup hplan hcall
              exact ⟨total, final, hrun, (hfinal.evictsPrefix hnodup hplan).stops hfits⟩
          · simp [hloaded]

/-- A worker with `turbo` loaded and nothing else. -/
def turboState : State String :=
  TransitionSystem.lastOf (emptyState String)
    (TransitionSystem.follow (State.act defaultConfig) (emptyState String)
      [.load "turbo" none, .loaderReturns])

theorem load_admission_of_xl_turbo :
    ∃ later, defaultConfig.loadThenUnload turboState "xl-turbo" (fun _ => none) 1 = some later ∧
      EvictsPrefix defaultConfig turboState "xl-turbo" 22 (fun _ => none) 1 later := by
  have hnodup : (loadedModes turboState.cache).Nodup := by decide +kernel
  have hroom : ¬ defaultConfig.NoRoom turboState.cache 22 none := by
    rw [Config.NoRoom]
    decide +kernel
  obtain ⟨-, -, -, -, hevicts, -⟩ :=
    load_admission defaultConfig turboState "xl-turbo" (fun _ => none) hnodup (by decide +kernel)
  have hsome : (defaultConfig.loadThenUnload turboState "xl-turbo" (fun _ => none) 1).isSome := by
    decide +kernel
  obtain ⟨later, hlater⟩ := Option.isSome_iff_exists.mp hsome
  exact ⟨later, hlater, (hevicts 22 (by decide +kernel) (by decide +kernel) hroom).1 1 later hlater⟩

/-- A mode that is loaded already is answered even when the reader reports more
than the budget. -/
theorem load_of_loaded_over_budget :
    defaultConfig.NoRoom turboState.cache 16 (some ⟨30, 24⟩) ∧
      ((turboState.act defaultConfig (.load "turbo" (some ⟨30, 24⟩))).map State.capacityRefused) =
        some false := by
  rw [Config.NoRoom]
  exact ⟨by decide +kernel, by decide +kernel⟩

end Songmaker.Worker.ModelCache
