import Mathlib.Algebra.Order.Field.Rat
import Mathlib.Data.Finset.Card
import Mathlib.Tactic.NormNum.Basic
import Songmaker.Foundation.TransitionSystem

/-!
`ModelCache` of the ACE-Step worker. Every method runs under one asyncio lock,
so a call is a critical section that other calls wait for; inside a section
only the awaits of the loader and the unloader are visible, and the loaded
table is read between them without the lock. Sizes are exact rationals.
-/

namespace Songmaker.Worker.ModelCache

open Songmaker.Foundation

/-- The declared sizes and the budget the worker starts the cache with. -/
structure Config (Mode : Type) where
  sizes : Mode → Option ℚ
  budgetGb : ℚ
  sizes_nonneg : ∀ mode size, sizes mode = some size → 0 ≤ size
  budget_nonneg : 0 ≤ budgetGb

/-- `declared_model_sizes` over the modes of `MODEL_CONFIG_PATHS`. -/
def declaredModelSizes (acestepInitLlm : Bool) (mode : String) : Option ℚ :=
  let lmSizeGb : ℚ := if acestepInitLlm then 10 else 0
  if mode = "turbo" ∨ mode = "sft" then some (6 + lmSizeGb)
  else if mode = "xl-turbo" ∨ mode = "xl-sft" ∨ mode = "xl-base" then some (12 + lmSizeGb)
  else none

theorem declaredModelSizes_nonneg (mode : String) (size : ℚ)
    (hsize : declaredModelSizes true mode = some size) : 0 ≤ size := by
  simp only [declaredModelSizes] at hsize
  split_ifs at hsize
  · cases hsize
    norm_num
  · cases hsize
    norm_num

theorem defaultBudget_nonneg : (0 : ℚ) ≤ 24 := by
  norm_num

/-- The configuration of a worker that keeps every default setting. -/
def defaultConfig : Config String where
  sizes := declaredModelSizes true
  budgetGb := 24
  sizes_nonneg := declaredModelSizes_nonneg
  budget_nonneg := defaultBudget_nonneg

/-- A reading of the card's memory. -/
structure VramStats where
  usedGb : ℚ
  totalGb : ℚ
deriving DecidableEq

/-- How the cache refuses or fails. -/
inductive CacheError (Mode : Type) where
  | unknownMode (mode : Mode)
  | modelNotLoaded (mode : Mode)
  | exceedsBudget (mode : Mode) (requiredGb budgetGb : ℚ)
  | cannotFit (incomingGb planningUsedGb projectedUsedGb : ℚ) (measured : Bool)
  | inUse (mode : Mode) (tasks : Nat)
  | keyError (mode : Mode)
  | loaderFailed
  | unloaderFailed
deriving DecidableEq

/-- What a finished call returns. Children are numbered in the order the loader
started them. -/
inductive Answer (Mode : Type) where
  | loadResult (loaded evicted : List Mode)
  | evicted (modes : List Mode)
  | model (child : Option Nat)
  | done
deriving DecidableEq

/-- The fields of the cache. `loaded` is the `OrderedDict`, least recently used
first; a mode missing from the `_in_use` dict counts 0. -/
structure Cache (Mode : Type) where
  loaded : List (Mode × Nat)
  inUse : Mode → Nat
  pinned : Finset Mode
  targetLoading : Option Mode

/-- The await at which the call that holds the lock is suspended. -/
inductive Section (Mode : Type) where
  | evictingToFit (mode : Mode) (incomingGb : ℚ) (victim : Mode) (child : Nat)
      (rest : List Mode) (runningGb : ℚ) (evicted : List Mode)
  | loading (mode : Mode) (evicted : List Mode)
  | evicting (mode : Mode) (child : Nat)
  | evictingAll (child : Nat) (rest : List (Mode × Nat)) (evicted : List Mode)
  | stopping (mode : Mode) (child : Nat)
deriving DecidableEq

namespace Section

/-- The child whose unloader the section awaits. -/
def unloading {Mode : Type} : Section Mode → Option Nat
  | evictingToFit _ _ _ child _ _ _ | evicting _ child | evictingAll child _ _
  | stopping _ child => some child
  | loading _ _ => none

end Section

/-- How a call runs up to its first await or to its end. -/
inductive Progress (Mode : Type) where
  | finished (answer : Except (CacheError Mode) (Answer Mode))
  | suspended (part : Section Mode)

variable {Mode : Type} [DecidableEq Mode]

def loadedModes (cache : Cache Mode) : List Mode :=
  cache.loaded.map Prod.fst

def getLoaded (cache : Cache Mode) (mode : Mode) : Option Nat :=
  (cache.loaded.find? (·.1 = mode)).map Prod.snd

/-- The mode becomes the last used one. -/
def moveToEnd (loaded : List (Mode × Nat)) (mode : Mode) : List (Mode × Nat) :=
  loaded.filter (·.1 ≠ mode) ++ loaded.filter (·.1 = mode)

def remove (loaded : List (Mode × Nat)) (mode : Mode) : List (Mode × Nat) :=
  loaded.filter (·.1 ≠ mode)

namespace Config

/-- `self._sizes.get(mode, 0.0)`. -/
def sizeGb (config : Config Mode) (mode : Mode) : ℚ :=
  (config.sizes mode).getD 0

/-- What the loaded modes take by their declared sizes. -/
def declaredUsedGb (config : Config Mode) (loaded : List (Mode × Nat)) : ℚ :=
  (loaded.map fun entry => config.sizeGb entry.1).sum

/-- `_current_usage`: used and total VRAM, and whether the reader measured them. -/
def currentUsage (config : Config Mode) (loaded : List (Mode × Nat))
    (reading : Option VramStats) : ℚ × ℚ × Bool :=
  match reading with
  | some measured => (measured.usedGb, measured.totalGb, true)
  | none => (config.declaredUsedGb loaded, config.budgetGb, false)

/-- What counts as used: the larger of the measured and the declared usage. -/
def planningUsedGb (config : Config Mode) (loaded : List (Mode × Nat))
    (reading : Option VramStats) : ℚ × Bool :=
  let (usedGb, _, measured) := config.currentUsage loaded reading
  (max usedGb (config.declaredUsedGb loaded), measured)

/-- The loop of `_build_eviction_plan` over the loaded modes: the modes to evict
and the usage projected after them. -/
def buildEvictionPlan (config : Config Mode) (cache : Cache Mode) (incomingGb : ℚ) :
    ℚ → List Mode → List Mode × ℚ
  | projectedGb, [] => ([], projectedGb)
  | projectedGb, mode :: rest =>
      if projectedGb + incomingGb ≤ config.budgetGb then ([], projectedGb)
      else if mode ∈ cache.pinned ∨ 0 < cache.inUse mode then
        config.buildEvictionPlan cache incomingGb projectedGb rest
      else
        let (plan, finalGb) :=
          config.buildEvictionPlan cache incomingGb (projectedGb - config.sizeGb mode) rest
        (mode :: plan, finalGb)

/-- The head of the eviction loop of `_evict_to_fit`: stop as soon as the target
fits, else hand the next victim to the unloader. -/
def evictNext (config : Config Mode) (cache : Cache Mode) (mode : Mode) (incomingGb : ℚ)
    (runningGb : ℚ) (evicted : List Mode) : List Mode → Progress Mode
  | [] => .suspended (.loading mode evicted)
  | victim :: rest =>
      if runningGb + incomingGb ≤ config.budgetGb then .suspended (.loading mode evicted)
      else
        match getLoaded cache victim with
        | none => .finished (.error (.keyError victim))
        | some child =>
            .suspended (.evictingToFit mode incomingGb victim child rest runningGb evicted)

/-- `load` up to its first await, with what the VRAM reader returns. -/
def load (config : Config Mode) (cache : Cache Mode) (mode : Mode)
    (reading : Option VramStats) : Cache Mode × Progress Mode :=
  match config.sizes mode with
  | none => (cache, .finished (.error (.unknownMode mode)))
  | some targetGb =>
      if mode ∈ loadedModes cache then
        let cache := { cache with loaded := moveToEnd cache.loaded mode }
        (cache, .finished (.ok (.loadResult (loadedModes cache) [])))
      else if config.budgetGb < targetGb then
        (cache, .finished (.error (.exceedsBudget mode targetGb config.budgetGb)))
      else
        let (planningGb, measured) := config.planningUsedGb cache.loaded reading
        let (plan, projectedGb) :=
          config.buildEvictionPlan cache targetGb planningGb (loadedModes cache)
        if config.budgetGb < projectedGb + targetGb then
          (cache, .finished (.error (.cannotFit targetGb planningGb projectedGb measured)))
        else
          match config.evictNext cache mode targetGb planningGb [] plan with
          | .finished answer => (cache, .finished answer)
          | .suspended part => ({ cache with targetLoading := some mode }, .suspended part)

end Config

/-- A mode is to be unloaded, which it may be if nobody uses it. -/
def evict (cache : Cache Mode) (mode : Mode) : Cache Mode × Progress Mode :=
  match getLoaded cache mode with
  | none => (cache, .finished (.ok (.evicted [])))
  | some child =>
      if 0 < cache.inUse mode then
        (cache, .finished (.error (.inUse mode (cache.inUse mode))))
      else (cache, .suspended (.evicting mode child))

def clear (cache : Cache Mode) : Cache Mode :=
  { cache with loaded := [], pinned := ∅, inUse := fun _ => 0 }

/-- Everything is unloaded, at the end of the worker. -/
def evictAll (cache : Cache Mode) : Cache Mode × Progress Mode :=
  match cache.loaded with
  | [] => (clear cache, .finished (.ok (.evicted [])))
  | (_, child) :: rest => (cache, .suspended (.evictingAll child rest (loadedModes cache)))

/-- The mode is not to be evicted. -/
def pin (cache : Cache Mode) (mode : Mode) : Cache Mode × Progress Mode :=
  if mode ∈ loadedModes cache then
    ({ cache with pinned := insert mode cache.pinned }, .finished (.ok .done))
  else (cache, .finished (.error (.modelNotLoaded mode)))

def unpin (cache : Cache Mode) (mode : Mode) : Cache Mode × Progress Mode :=
  ({ cache with pinned := cache.pinned.erase mode }, .finished (.ok .done))

/-- A use of the mode begins, if it is loaded. -/
def acquireForUse (cache : Cache Mode) (mode : Mode) : Cache Mode × Progress Mode :=
  match getLoaded cache mode with
  | none => (cache, .finished (.ok (.model none)))
  | some child =>
      ({ cache with
          loaded := moveToEnd cache.loaded mode
          inUse := Function.update cache.inUse mode (cache.inUse mode + 1) },
        .finished (.ok (.model (some child))))

/-- A use of the mode ends. -/
def release (cache : Cache Mode) (mode : Mode) : Cache Mode × Progress Mode :=
  ({ cache with inUse := Function.update cache.inUse mode (cache.inUse mode - 1) },
    .finished (.ok .done))

/-- A use ends with the child to be stopped. -/
def releaseAndStop (cache : Cache Mode) (mode : Mode) : Cache Mode × Progress Mode :=
  if cache.inUse mode = 0 then (cache, .finished (.ok .done))
  else
    let released : Cache Mode :=
      { cache with inUse := Function.update cache.inUse mode (cache.inUse mode - 1) }
    if 0 < released.inUse mode then (released, .finished (.ok .done))
    else
      match getLoaded released mode with
      | none => (released, .finished (.ok .done))
      | some child =>
          ({ released with loaded := remove released.loaded mode },
            .suspended (.stopping mode child))

/-- The cache, the call inside its lock, and what a reader of the worker would
note down: the last answer, the children whose unloader has returned, the uses
that `acquire_for_use` has given out and, for each mode, how many were given
out, how many ended, and how many release calls there were. -/
structure State (Mode : Type) where
  cache : Cache Mode
  lock : Option (Section Mode)
  answer : Option (Except (CacheError Mode) (Answer Mode))
  nextChild : Nat
  exited : List Nat
  uses : List (Mode × Nat)
  acquired : Mode → Nat
  released : Mode → Nat
  releaseCalls : Mode → Nat

/-- A call of a method, or the end of an await inside the lock. Every look at
the VRAM carries what the reader returns. -/
inductive Action (Mode : Type) where
  | load (mode : Mode) (reading : Option VramStats)
  | evict (mode : Mode)
  | evictAll
  | pin (mode : Mode)
  | unpin (mode : Mode)
  | acquireForUse (mode : Mode)
  | release (mode : Mode)
  | releaseAndStop (mode : Mode)
  | loaderReturns
  | loaderRaises
  | unloaderReturns (reading : Option VramStats)
  | unloaderRaises

namespace State

/-- The section goes on in another place, or ends with its answer. -/
def proceed (state : State Mode) (cache : Cache Mode) : Progress Mode → State Mode
  | .finished answer => { state with cache := cache, lock := none, answer := some answer }
  | .suspended part =>
      { state with
        cache := cache
        lock := some part
        answer := none }

/-- The `finally` of `load`, once the call ends. -/
def endLoad (state : State Mode) (cache : Cache Mode)
    (answer : Except (CacheError Mode) (Answer Mode)) : State Mode :=
  state.proceed { cache with targetLoading := none } (.finished answer)

/-- A release call ends a use of `mode` if there is one. -/
def giveBack (state : State Mode) (mode : Mode) : State Mode :=
  let state : State Mode :=
    { state with
      releaseCalls := Function.update state.releaseCalls mode (state.releaseCalls mode + 1) }
  if state.cache.inUse mode = 0 then state
  else
    { state with
      uses := state.uses.eraseP (·.1 = mode)
      released := Function.update state.released mode (state.released mode + 1) }

/-- The answer of `acquire_for_use` starts a use of the child it returns. -/
def takeUse (state : State Mode) (mode : Mode) : State Mode :=
  match getLoaded state.cache mode with
  | none => state
  | some child =>
      { state with
        uses := (mode, child) :: state.uses
        acquired := Function.update state.acquired mode (state.acquired mode + 1) }

/-- A call that has the lock runs up to its first await. -/
def call (state : State Mode) (result : Cache Mode × Progress Mode) : State Mode :=
  state.proceed result.1 result.2

/-- The loop of `load` after an unloader returned, and the end of the other calls. -/
def unloaderReturns (config : Config Mode) (state : State Mode) (reading : Option VramStats) :
    Section Mode → Option (State Mode)
  | .loading _ _ => none
  | .evictingToFit mode incomingGb victim child rest runningGb evicted =>
      let cache := { state.cache with loaded := remove state.cache.loaded victim }
      let runningGb := min (config.planningUsedGb cache.loaded reading).1
        (runningGb - config.sizeGb victim)
      let state := { state with exited := state.exited ++ [child] }
      match config.evictNext cache mode incomingGb runningGb (evicted ++ [victim]) rest with
      | .finished answer => some (state.endLoad cache answer)
      | .suspended part => some (state.proceed cache (.suspended part))
  | .evicting mode child =>
      some ({ state with exited := state.exited ++ [child] }.proceed
        { state.cache with
          loaded := remove state.cache.loaded mode
          pinned := state.cache.pinned.erase mode }
        (.finished (.ok (.evicted [mode]))))
  | .evictingAll child rest evicted =>
      let state := { state with exited := state.exited ++ [child] }
      match rest with
      | [] => some (state.proceed (clear state.cache) (.finished (.ok (.evicted evicted))))
      | (_, next) :: rest =>
          some (state.proceed state.cache (.suspended (.evictingAll next rest evicted)))
  | .stopping _ child =>
      some ({ state with exited := state.exited ++ [child] }.proceed state.cache
        (.finished (.ok .done)))

/-- The unloader fails, and with it the call. -/
def unloaderRaises (state : State Mode) : Section Mode → Option (State Mode)
  | .loading _ _ => none
  | .evictingToFit _ _ _ _ _ _ _ => some (state.endLoad state.cache (.error .unloaderFailed))
  | .evicting _ _ | .evictingAll _ _ _ | .stopping _ _ =>
      some (state.proceed state.cache (.finished (.error .unloaderFailed)))

/-- One action, `none` where it cannot happen: a call waits while another one
is inside the lock. -/
def act (config : Config Mode) (state : State Mode) : Action Mode → Option (State Mode)
  | .load mode reading =>
      if config.sizes mode = none then
        some { state with answer := some (.error (.unknownMode mode)) }
      else if state.lock.isSome then none
      else some (state.call (config.load state.cache mode reading))
  | .evict mode =>
      if state.lock.isSome then none
      else some (state.call (ModelCache.evict state.cache mode))
  | .evictAll =>
      if state.lock.isSome then none
      else some (state.call (ModelCache.evictAll state.cache))
  | .pin mode =>
      if state.lock.isSome then none
      else some (state.call (ModelCache.pin state.cache mode))
  | .unpin mode =>
      if state.lock.isSome then none
      else some (state.call (ModelCache.unpin state.cache mode))
  | .acquireForUse mode =>
      if state.lock.isSome then none
      else some ((state.takeUse mode).call (ModelCache.acquireForUse state.cache mode))
  | .release mode =>
      if state.lock.isSome then none
      else some ((state.giveBack mode).call (ModelCache.release state.cache mode))
  | .releaseAndStop mode =>
      if state.lock.isSome then none
      else some ((state.giveBack mode).call (ModelCache.releaseAndStop state.cache mode))
  | .loaderReturns =>
      match state.lock with
      | some (.loading mode evicted) =>
          let cache :=
            { state.cache with loaded := state.cache.loaded ++ [(mode, state.nextChild)] }
          some ({ state with nextChild := state.nextChild + 1 }.endLoad cache
            (.ok (.loadResult (loadedModes cache) evicted)))
      | _ => none
  | .loaderRaises =>
      match state.lock with
      | some (.loading _ _) => some (state.endLoad state.cache (.error .loaderFailed))
      | _ => none
  | .unloaderReturns reading => state.lock.bind (state.unloaderReturns config reading)
  | .unloaderRaises => state.lock.bind state.unloaderRaises

end State

/-- A cache that has just been built. -/
def emptyState (Mode : Type) : State Mode where
  cache := ⟨[], fun _ => 0, ∅, none⟩
  lock := none
  answer := none
  nextChild := 0
  exited := []
  uses := []
  acquired := fun _ => 0
  released := fun _ => 0
  releaseCalls := fun _ => 0

/-- The empty cache, and its steps. -/
def cacheSystem (config : Config Mode) : TransitionSystem (State Mode) (Action Mode) :=
  TransitionSystem.ofAct (fun state => state = emptyState Mode) (State.act config)

end Songmaker.Worker.ModelCache
