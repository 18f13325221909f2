import Mathlib.Algebra.Order.BigOperators.Group.List
import Mathlib.Tactic.Linarith
import Songmaker.Worker.ModelCache

namespace Songmaker.Worker.ModelCache

open Songmaker.Foundation

variable {Mode : Type}

namespace Config

theorem sizeGb_nonneg (config : Config Mode) (mode : Mode) : 0 ≤ config.sizeGb mode := by
  unfold sizeGb
  cases hsize : config.sizes mode with
  | none => simp
  | some size => simpa using config.sizes_nonneg mode size hsize

theorem declaredUsedGb_perm (config : Config Mode) {loaded loaded' : List (Mode × Nat)}
    (hperm : loaded.Perm loaded') :
    config.declaredUsedGb loaded = config.declaredUsedGb loaded' :=
  (hperm.map _).sum_eq

@[simp] theorem declaredUsedGb_nil (config : Config Mode) : config.declaredUsedGb [] = 0 := rfl

@[simp] theorem declaredUsedGb_cons (config : Config Mode) (entry : Mode × Nat)
    (loaded : List (Mode × Nat)) :
    config.declaredUsedGb (entry :: loaded) =
      config.sizeGb entry.1 + config.declaredUsedGb loaded := by
  simp [declaredUsedGb]

theorem declaredUsedGb_append (config : Config Mode) (loaded loaded' : List (Mode × Nat)) :
    config.declaredUsedGb (loaded ++ loaded') =
      config.declaredUsedGb loaded + config.declaredUsedGb loaded' := by
  simp [declaredUsedGb]

theorem declaredUsedGb_sublist (config : Config Mode) {loaded loaded' : List (Mode × Nat)}
    (hsub : loaded.Sublist loaded') :
    config.declaredUsedGb loaded ≤ config.declaredUsedGb loaded' := by
  induction hsub with
  | slnil => exact le_rfl
  | cons entry _ ih =>
      rw [declaredUsedGb_cons]
      linarith [config.sizeGb_nonneg entry.1]
  | cons_cons entry _ ih =>
      rw [declaredUsedGb_cons, declaredUsedGb_cons]
      linarith

theorem declaredUsedGb_le_planningUsedGb (config : Config Mode) (loaded : List (Mode × Nat))
    (reading : Option VramStats) :
    config.declaredUsedGb loaded ≤ (config.planningUsedGb loaded reading).1 :=
  le_max_right _ _

/-- What evicting all of `plan` frees by the declared sizes. -/
def planGb (config : Config Mode) (plan : List Mode) : ℚ :=
  (plan.map config.sizeGb).sum

@[simp] theorem planGb_nil (config : Config Mode) : config.planGb [] = 0 := rfl

@[simp] theorem planGb_cons (config : Config Mode) (mode : Mode) (plan : List Mode) :
    config.planGb (mode :: plan) = config.sizeGb mode + config.planGb plan := by
  simp [planGb]

end Config

/-- The table lists no mode twice and its declared sizes are within the budget. -/
structure TableFits (config : Config Mode) (loaded : List (Mode × Nat)) : Prop where
  nodup : (loaded.map Prod.fst).Nodup
  declared_le : config.declaredUsedGb loaded ≤ config.budgetGb

/-- The running figure of `_evict_to_fit` is at least what is declared as loaded,
and evicting `plan` from it makes room for the target. -/
structure PlanFits (config : Config Mode) (loaded : List (Mode × Nat)) (mode : Mode)
    (incomingGb runningGb : ℚ) (plan : List Mode) : Prop where
  incoming : incomingGb = config.sizeGb mode
  target_absent : mode ∉ loaded.map Prod.fst
  plan_nodup : plan.Nodup
  plan_loaded : ∀ victim ∈ plan, victim ∈ loaded.map Prod.fst
  declared_le : config.declaredUsedGb loaded ≤ runningGb
  fits : runningGb - config.planGb plan + incomingGb ≤ config.budgetGb

/-- What a suspended `load` has already made sure of. -/
def Section.Fits (config : Config Mode) (loaded : List (Mode × Nat)) : Section Mode → Prop
  | evictingToFit mode incomingGb victim _ rest runningGb _ =>
      PlanFits config loaded mode incomingGb runningGb (victim :: rest)
  | loading mode _ =>
      mode ∉ loaded.map Prod.fst ∧
        config.declaredUsedGb loaded + config.sizeGb mode ≤ config.budgetGb
  | evicting _ _ | evictingAll _ _ _ | stopping _ _ => True

/-- What goes on fits the budget. -/
def Progress.Fits (config : Config Mode) (loaded : List (Mode × Nat)) : Progress Mode → Prop
  | finished _ => True
  | suspended part => part.Fits config loaded

/-- The loaded modes fit the budget, also with what the lock's holder is about to do. -/
structure WithinBudget (config : Config Mode) (state : State Mode) : Prop where
  table : TableFits config state.cache.loaded
  part : ∀ part, state.lock = some part → part.Fits config state.cache.loaded

namespace TableFits

variable {config : Config Mode} {loaded loaded' : List (Mode × Nat)}

theorem empty (config : Config Mode) : TableFits config [] :=
  ⟨List.nodup_nil, config.budget_nonneg⟩

theorem perm (hfits : TableFits config loaded) (hperm : loaded'.Perm loaded) :
    TableFits config loaded' :=
  ⟨(hperm.map _).nodup_iff.mpr hfits.nodup, config.declaredUsedGb_perm hperm ▸ hfits.declared_le⟩

theorem sublist (hfits : TableFits config loaded) (hsub : loaded'.Sublist loaded) :
    TableFits config loaded' :=
  ⟨hfits.nodup.sublist (hsub.map _),
    (config.declaredUsedGb_sublist hsub).trans hfits.declared_le⟩

end TableFits

theorem loading_done {config : Config Mode} {loaded : List (Mode × Nat)} {mode : Mode}
    {evicted : List Mode}
    (hfits : TableFits config loaded)
    (hpart : (Section.loading mode evicted).Fits config loaded) (child : Nat) :
    TableFits config (loaded ++ [(mode, child)]) := by
  obtain ⟨habsent, hroom⟩ := hpart
  constructor
  · rw [List.map_append, List.nodup_append]
    refine ⟨hfits.nodup, by simp, ?_⟩
    rintro other hother _ hmode rfl
    have heq : other = mode := by simpa using hmode
    exact habsent (heq ▸ hother)
  · rw [config.declaredUsedGb_append, Config.declaredUsedGb_cons, Config.declaredUsedGb_nil]
    simpa using hroom

/-- A method leaves a table that fits, and where it suspends, a section that fits it. -/
def ResultFits (config : Config Mode) (result : Cache Mode × Progress Mode) : Prop :=
  TableFits config result.1.loaded ∧ result.2.Fits config result.1.loaded

namespace WithinBudget

variable {config : Config Mode} {state : State Mode}

theorem proceed {cache : Cache Mode} {progress : Progress Mode}
    (htable : TableFits config cache.loaded) (hprogress : progress.Fits config cache.loaded) :
    WithinBudget config (state.proceed cache progress) := by
  cases progress with
  | finished answer => exact ⟨htable, by simp [State.proceed]⟩
  | suspended part =>
      refine ⟨htable, ?_⟩
      intro other hother
      have heq : part = other := by simpa [State.proceed] using hother
      exact heq ▸ hprogress

theorem call {result : Cache Mode × Progress Mode} (hresult : ResultFits config result) :
    WithinBudget config (state.call result) :=
  proceed hresult.1 hresult.2

theorem endLoad {cache : Cache Mode} (hfits : TableFits config cache.loaded)
    (answer : Except (CacheError Mode) (Answer Mode)) :
    WithinBudget config (state.endLoad cache answer) :=
  proceed hfits trivial

end WithinBudget

variable [DecidableEq Mode]

theorem moveToEnd_perm (loaded : List (Mode × Nat)) (mode : Mode) :
    (moveToEnd loaded mode).Perm loaded := by
  have hperm := List.filter_append_perm (fun entry : Mode × Nat => decide (entry.1 ≠ mode)) loaded
  simpa [moveToEnd] using hperm

theorem remove_sublist (loaded : List (Mode × Nat)) (mode : Mode) :
    (remove loaded mode).Sublist loaded :=
  List.filter_sublist

theorem mem_remove {loaded : List (Mode × Nat)} {mode : Mode} {entry : Mode × Nat} :
    entry ∈ remove loaded mode ↔ entry ∈ loaded ∧ entry.1 ≠ mode := by
  simp [remove]

theorem remove_of_notMem {loaded : List (Mode × Nat)} {mode : Mode}
    (hmode : mode ∉ loaded.map Prod.fst) : remove loaded mode = loaded := by
  rw [remove, List.filter_eq_self]
  intro entry hentry
  have hne : entry.1 ≠ mode := by
    rintro rfl
    exact hmode (List.mem_map_of_mem hentry)
  simpa using hne

theorem getLoaded_eq_none {cache : Cache Mode} {mode : Mode}
    (hmode : getLoaded cache mode = none) : mode ∉ loadedModes cache := by
  intro hmem
  obtain ⟨entry, hentry, rfl⟩ := List.mem_map.mp hmem
  have hfind : cache.loaded.find? (·.1 = entry.1) = none := by
    simpa [getLoaded] using hmode
  have := List.find?_eq_none.mp hfind entry hentry
  simp at this

theorem mem_of_getLoaded {cache : Cache Mode} {mode : Mode} {child : Nat}
    (hmode : getLoaded cache mode = some child) : (mode, child) ∈ cache.loaded := by
  obtain ⟨entry, hfind, rfl⟩ := Option.map_eq_some_iff.mp hmode
  have hfst : entry.1 = mode := by simpa using List.find?_some hfind
  have hmem := List.mem_of_find?_eq_some hfind
  rw [← hfst]
  exact hmem

namespace Config

theorem declaredUsedGb_remove (config : Config Mode) {loaded : List (Mode × Nat)} {mode : Mode}
    (hnodup : (loaded.map Prod.fst).Nodup) (hmode : mode ∈ loaded.map Prod.fst) :
    config.declaredUsedGb (remove loaded mode) + config.sizeGb mode =
      config.declaredUsedGb loaded := by
  induction loaded with
  | nil => simp at hmode
  | cons entry rest ih =>
      rw [List.map_cons, List.nodup_cons] at hnodup
      by_cases hentry : entry.1 = mode
      · have hrest : remove (entry :: rest) mode = remove rest mode := by
          simp [remove, hentry]
        rw [hrest, remove_of_notMem (hentry ▸ hnodup.1), declaredUsedGb_cons, hentry]
        exact add_comm _ _
      · have hkeep : remove (entry :: rest) mode = entry :: remove rest mode := by
          simp [remove, hentry]
        have hmem : mode ∈ rest.map Prod.fst := by
          rcases List.mem_cons.mp hmode with heq | hmem
          · exact absurd heq.symm hentry
          · exact hmem
        rw [hkeep, declaredUsedGb_cons, declaredUsedGb_cons, add_assoc, ih hnodup.2 hmem]

theorem buildEvictionPlan_sublist (config : Config Mode) (cache : Cache Mode) (incomingGb : ℚ)
    (projectedGb : ℚ) (modes : List Mode) :
    (config.buildEvictionPlan cache incomingGb projectedGb modes).1.Sublist modes := by
  induction modes generalizing projectedGb with
  | nil => exact List.Sublist.refl _
  | cons mode rest ih =>
      rw [buildEvictionPlan]
      split_ifs
      · exact List.nil_sublist _
      · exact (ih projectedGb).cons mode
      · exact (ih _).cons_cons mode

theorem buildEvictionPlan_projected (config : Config Mode) (cache : Cache Mode) (incomingGb : ℚ)
    (projectedGb : ℚ) (modes : List Mode) :
    (config.buildEvictionPlan cache incomingGb projectedGb modes).2 =
      projectedGb -
          config.planGb (config.buildEvictionPlan cache incomingGb projectedGb modes).1 := by
  induction modes generalizing projectedGb with
  | nil => simp [buildEvictionPlan]
  | cons mode rest ih =>
      rw [buildEvictionPlan]
      split_ifs
      · simp
      · exact ih projectedGb
      · rw [planGb_cons, ih (projectedGb - config.sizeGb mode)]
        exact sub_sub _ _ _

end Config

namespace TableFits

variable {config : Config Mode} {loaded : List (Mode × Nat)}

theorem moveToEnd (hfits : TableFits config loaded) (mode : Mode) :
    TableFits config (ModelCache.moveToEnd loaded mode) :=
  hfits.perm (moveToEnd_perm loaded mode)

theorem remove (hfits : TableFits config loaded) (mode : Mode) :
    TableFits config (ModelCache.remove loaded mode) :=
  hfits.sublist (remove_sublist loaded mode)

end TableFits

section EvictionLoop

variable {config : Config Mode}

theorem evictNext_fits {cache : Cache Mode} {mode : Mode} {incomingGb runningGb : ℚ}
    {evicted plan : List Mode}
    (hplan : PlanFits config cache.loaded mode incomingGb runningGb plan) :
    (config.evictNext cache mode incomingGb runningGb evicted plan).Fits config cache.loaded := by
  obtain ⟨hincoming, habsent, -, -, hdeclared, hfits⟩ := id hplan
  cases plan with
  | nil =>
      refine ⟨habsent, ?_⟩
      rw [Config.planGb_nil] at hfits
      linarith
  | cons victim rest =>
      rw [Config.evictNext]
      split_ifs with hroom
      · refine ⟨habsent, ?_⟩
        linarith
      · cases hvictim : getLoaded cache victim with
        | none => trivial
        | some child => exact hplan

/-- Once the victim's unloader has returned, the rest of the plan still makes room. -/
theorem planFits_remove {loaded : List (Mode × Nat)} {mode victim : Mode}
    {incomingGb runningGb : ℚ} {rest : List Mode}
    (hnodup : (loaded.map Prod.fst).Nodup)
    (hplan : PlanFits config loaded mode incomingGb runningGb (victim :: rest))
    (reading : Option VramStats) :
    PlanFits config (remove loaded victim) mode incomingGb
      (min (config.planningUsedGb (remove loaded victim) reading).1
        (runningGb - config.sizeGb victim)) rest := by
  obtain ⟨hincoming, habsent, hplanNodup, hloaded, hdeclared, hfits⟩ := hplan
  rw [List.nodup_cons] at hplanNodup
  have hfreed := config.declaredUsedGb_remove hnodup (hloaded victim List.mem_cons_self)
  refine ⟨hincoming, ?_, hplanNodup.2, ?_, ?_, ?_⟩
  · intro hmem
    exact habsent (((remove_sublist loaded victim).map Prod.fst).subset hmem)
  · intro other hother
    obtain ⟨entry, hentry, rfl⟩ :=
      List.mem_map.mp (hloaded other (List.mem_cons_of_mem _ hother))
    have hne : entry.1 ≠ victim := by
      rintro rfl
      exact hplanNodup.1 hother
    exact List.mem_map_of_mem (mem_remove.mpr ⟨hentry, hne⟩)
  · refine le_min (config.declaredUsedGb_le_planningUsedGb _ reading) ?_
    linarith
  · have hmin := min_le_right (config.planningUsedGb (remove loaded victim) reading).1
      (runningGb - config.sizeGb victim)
    rw [Config.planGb_cons] at hfits
    linarith

end EvictionLoop

section Methods

variable {config : Config Mode} {cache : Cache Mode}

theorem load_fits (hfits : TableFits config cache.loaded) (mode : Mode)
    (reading : Option VramStats) : ResultFits config (config.load cache mode reading) := by
  unfold Config.load
  cases hsize : config.sizes mode with
  | none => exact ⟨hfits, trivial⟩
  | some targetGb =>
      dsimp only
      split_ifs with hloaded hbig hcannot
      · exact ⟨hfits.moveToEnd mode, trivial⟩
      · exact ⟨hfits, trivial⟩
      · exact ⟨hfits, trivial⟩
      · have hsub := config.buildEvictionPlan_sublist cache targetGb
          (config.planningUsedGb cache.loaded reading).1 (loadedModes cache)
        have hprojected := config.buildEvictionPlan_projected cache targetGb
          (config.planningUsedGb cache.loaded reading).1 (loadedModes cache)
        have hplan : PlanFits config cache.loaded mode targetGb
            (config.planningUsedGb cache.loaded reading).1
            (config.buildEvictionPlan cache targetGb
              (config.planningUsedGb cache.loaded reading).1 (loadedModes cache)).1 := by
          refine ⟨by simp [Config.sizeGb, hsize], hloaded, hfits.nodup.sublist hsub, ?_,
            config.declaredUsedGb_le_planningUsedGb _ reading, ?_⟩
          · intro victim hvictim
            exact hsub.subset hvictim
          · rw [← hprojected]
            exact not_lt.mp hcannot
        have hnext : (config.evictNext cache mode targetGb
            (config.planningUsedGb cache.loaded reading).1 []
            (config.buildEvictionPlan cache targetGb
              (config.planningUsedGb cache.loaded reading).1 (loadedModes cache)).1).Fits
            config cache.loaded := evictNext_fits hplan
        split
        · exact ⟨hfits, trivial⟩
        · rename_i part hpart
          rw [hpart] at hnext
          exact ⟨hfits, hnext⟩

theorem evict_fits (hfits : TableFits config cache.loaded) (mode : Mode) :
    ResultFits config (evict cache mode) := by
  unfold evict
  cases getLoaded cache mode with
  | none => exact ⟨hfits, trivial⟩
  | some child =>
      dsimp only
      split_ifs
      · exact ⟨hfits, trivial⟩
      · exact ⟨hfits, trivial⟩

omit [DecidableEq Mode] in
theorem evictAll_fits (hfits : TableFits config cache.loaded) :
    ResultFits config (evictAll cache) := by
  unfold evictAll
  cases hloaded : cache.loaded with
  | nil => exact ⟨TableFits.empty config, trivial⟩
  | cons entry rest => exact ⟨hfits, trivial⟩

theorem pin_fits (hfits : TableFits config cache.loaded) (mode : Mode) :
    ResultFits config (pin cache mode) := by
  unfold pin
  split_ifs
  · exact ⟨hfits, trivial⟩
  · exact ⟨hfits, trivial⟩

theorem unpin_fits (hfits : TableFits config cache.loaded) (mode : Mode) :
    ResultFits config (unpin cache mode) :=
  ⟨hfits, trivial⟩

theorem acquireForUse_fits (hfits : TableFits config cache.loaded) (mode : Mode) :
    ResultFits config (acquireForUse cache mode) := by
  unfold acquireForUse
  cases getLoaded cache mode with
  | none => exact ⟨hfits, trivial⟩
  | some child => exact ⟨hfits.moveToEnd mode, trivial⟩

theorem release_fits (hfits : TableFits config cache.loaded) (mode : Mode) :
    ResultFits config (release cache mode) :=
  ⟨hfits, trivial⟩

theorem releaseAndStop_fits (hfits : TableFits config cache.loaded) (mode : Mode) :
    ResultFits config (releaseAndStop cache mode) := by
  unfold releaseAndStop
  dsimp only
  split_ifs
  · exact ⟨hfits, trivial⟩
  · exact ⟨hfits, trivial⟩
  · split
    · exact ⟨hfits, trivial⟩
    · exact ⟨hfits.remove mode, trivial⟩

end Methods

namespace WithinBudget

variable {config : Config Mode} {state : State Mode}

theorem unloaderReturns (hstate : WithinBudget config state) {part : Section Mode}
    (hlock : state.lock = some part) {reading : Option VramStats} {next : State Mode}
    (hstep : state.unloaderReturns config reading part = some next) :
    WithinBudget config next := by
  have hpart := hstate.part part hlock
  cases part with
  | loading => simp [State.unloaderReturns] at hstep
  | evictingToFit mode incomingGb victim child rest runningGb evicted =>
      have hremoved := hstate.table.remove victim
      have hplan := planFits_remove hstate.table.nodup hpart reading
      simp only [State.unloaderReturns] at hstep
      split at hstep
      · cases hstep
        exact endLoad (by exact hremoved) _
      · rename_i part hnext
        have hfits := hnext ▸ evictNext_fits hplan
        cases hstep
        exact proceed hremoved hfits
  | evicting mode child =>
      cases hstep
      exact proceed (hstate.table.remove mode) trivial
  | evictingAll child rest evicted =>
      cases rest with
      | nil =>
          cases hstep
          exact proceed (TableFits.empty config) trivial
      | cons entry rest =>
          cases hstep
          exact proceed hstate.table trivial
  | stopping mode child =>
      cases hstep
      exact proceed hstate.table trivial

omit [DecidableEq Mode] in
theorem unloaderRaises (hstate : WithinBudget config state) {part : Section Mode}
    {next : State Mode} (hstep : state.unloaderRaises part = some next) :
    WithinBudget config next := by
  cases part with
  | loading => simp [State.unloaderRaises] at hstep
  | evictingToFit =>
      cases hstep
      exact endLoad hstate.table _
  | evicting | evictingAll | stopping =>
      cases hstep
      exact proceed hstate.table trivial

theorem act (hstate : WithinBudget config state) {action : Action Mode} {next : State Mode}
    (hstep : state.act config action = some next) : WithinBudget config next := by
  have htable := hstate.table
  cases action with
  | load mode reading =>
      simp only [State.act] at hstep
      split_ifs at hstep
      · cases hstep
        exact ⟨htable, hstate.part⟩
      · cases hstep
        exact call (load_fits htable mode reading)
  | evict mode =>
      simp only [State.act, Option.ite_none_left_eq_some, Option.some.injEq] at hstep
      exact hstep.2 ▸ call (evict_fits htable mode)
  | evictAll =>
      simp only [State.act, Option.ite_none_left_eq_some, Option.some.injEq] at hstep
      exact hstep.2 ▸ call (evictAll_fits htable)
  | pin mode =>
      simp only [State.act, Option.ite_none_left_eq_some, Option.some.injEq] at hstep
      exact hstep.2 ▸ call (pin_fits htable mode)
  | unpin mode =>
      simp only [State.act, Option.ite_none_left_eq_some, Option.some.injEq] at hstep
      exact hstep.2 ▸ call (unpin_fits htable mode)
  | acquireForUse mode =>
      simp only [State.act, Option.ite_none_left_eq_some, Option.some.injEq] at hstep
      exact hstep.2 ▸ call (acquireForUse_fits htable mode)
  | release mode =>
      simp only [State.act, Option.ite_none_left_eq_some, Option.some.injEq] at hstep
      exact hstep.2 ▸ call (release_fits htable mode)
  | releaseAndStop mode =>
      simp only [State.act, Option.ite_none_left_eq_some, Option.some.injEq] at hstep
      exact hstep.2 ▸ call (releaseAndStop_fits htable mode)
  | loaderReturns =>
      simp only [State.act] at hstep
      split at hstep
      · rename_i mode evicted hlock
        cases hstep
        exact endLoad (loading_done htable (hstate.part _ hlock) _) _
      · cases hstep
  | loaderRaises =>
      simp only [State.act] at hstep
      split at hstep
      · cases hstep
        exact endLoad htable _
      · cases hstep
  | unloaderReturns reading =>
      obtain ⟨part, hlock, hstep⟩ := Option.bind_eq_some_iff.mp hstep
      exact unloaderReturns hstate hlock hstep
  | unloaderRaises =>
      obtain ⟨part, -, hstep⟩ := Option.bind_eq_some_iff.mp hstep
      exact unloaderRaises hstate hstep

end WithinBudget

theorem withinBudget_invariant (config : Config Mode) :
    (cacheSystem config).Invariant (WithinBudget config) where
  initial := by
    rintro _ rfl
    exact ⟨TableFits.empty config, by simp [emptyState]⟩
  step := fun _ _ _ hstate hstep => hstate.act hstep

/-- In every reachable state the declared sizes of the loaded modes are within the budget. -/
theorem declared_within_budget (config : Config Mode) {state : State Mode}
    (hreach : (cacheSystem config).Reachable state) :
    config.declaredUsedGb state.cache.loaded ≤ config.budgetGb :=
  ((withinBudget_invariant config).of_reachable hreach).table.declared_le

/-- A worker that loads `xl-turbo` in the place of `turbo`. -/
def swappedState : State String :=
  TransitionSystem.lastOf (emptyState String)
    (TransitionSystem.follow (State.act defaultConfig) (emptyState String)
      [.load "turbo" none, .loaderReturns, .load "xl-turbo" (some ⟨17, 24⟩),
        .unloaderReturns (some ⟨1, 24⟩), .loaderReturns])

theorem declared_within_budget_after_swap :
    loadedModes swappedState.cache = ["xl-turbo"] ∧
      defaultConfig.declaredUsedGb swappedState.cache.loaded ≤ 24 := by
  have hstart : (cacheSystem defaultConfig).Reachable (emptyState String) := .initial rfl
  have hreach : (cacheSystem defaultConfig).Reachable swappedState :=
    TransitionSystem.reachable_follow hstart _
  exact ⟨by decide +kernel, declared_within_budget defaultConfig hreach⟩

end Songmaker.Worker.ModelCache
