import Songmaker.Worker.ModelCacheBudget

namespace Songmaker.Worker.ModelCache

open Songmaker.Foundation

variable {Mode : Type}

/-- The children in the table are distinct, already numbered, and still run. -/
structure ChildrenTracked (loaded : List (Mode × Nat)) (nextChild : Nat) (exited : List Nat) :
    Prop where
  nodup : (loaded.map Prod.snd).Nodup
  fresh : ∀ entry ∈ loaded, entry.2 < nextChild
  running : ∀ entry ∈ loaded, entry.2 ∉ exited
  exited_lt : ∀ child ∈ exited, child < nextChild

namespace ChildrenTracked

variable {loaded loaded' : List (Mode × Nat)} {nextChild : Nat} {exited : List Nat}

theorem perm (htracked : ChildrenTracked loaded nextChild exited)
    (hperm : loaded'.Perm loaded) : ChildrenTracked loaded' nextChild exited where
  nodup := (hperm.map _).nodup_iff.mpr htracked.nodup
  fresh := fun entry hentry => htracked.fresh entry (hperm.subset hentry)
  running := fun entry hentry => htracked.running entry (hperm.subset hentry)
  exited_lt := htracked.exited_lt

theorem sublist (htracked : ChildrenTracked loaded nextChild exited)
    (hsub : loaded'.Sublist loaded) : ChildrenTracked loaded' nextChild exited where
  nodup := htracked.nodup.sublist (hsub.map _)
  fresh := fun entry hentry => htracked.fresh entry (hsub.subset hentry)
  running := fun entry hentry => htracked.running entry (hsub.subset hentry)
  exited_lt := htracked.exited_lt

theorem start (htracked : ChildrenTracked loaded nextChild exited) (mode : Mode) :
    ChildrenTracked (loaded ++ [(mode, nextChild)]) (nextChild + 1) exited := by
  constructor
  · rw [List.map_append, List.nodup_append]
    refine ⟨htracked.nodup, by simp, ?_⟩
    rintro child hchild _ hnext rfl
    obtain ⟨entry, hentry, rfl⟩ := List.mem_map.mp hchild
    have heq : entry.2 = nextChild := by simpa using hnext
    exact absurd heq (htracked.fresh entry hentry).ne
  · intro entry hentry
    rcases List.mem_append.mp hentry with hentry | hentry
    · exact (htracked.fresh entry hentry).trans (Nat.lt_succ_self _)
    · obtain rfl : entry = (mode, nextChild) := by simpa using hentry
      exact Nat.lt_succ_self _
  · intro entry hentry
    rcases List.mem_append.mp hentry with hentry | hentry
    · exact htracked.running entry hentry
    · obtain rfl : entry = (mode, nextChild) := by simpa using hentry
      intro hexited
      exact (htracked.exited_lt _ hexited).ne rfl
  · intro child hchild
    exact (htracked.exited_lt child hchild).trans (Nat.lt_succ_self _)

theorem exit (htracked : ChildrenTracked loaded nextChild exited) {child : Nat}
    (hchild : child < nextChild) (hgone : ∀ entry ∈ loaded, entry.2 ≠ child) :
    ChildrenTracked loaded nextChild (exited ++ [child]) := by
  refine ⟨htracked.nodup, htracked.fresh, ?_, ?_⟩
  · intro entry hentry hexited
    rcases List.mem_append.mp hexited with hexited | hexited
    · exact htracked.running entry hentry hexited
    · exact hgone entry hentry (by simpa using hexited)
  · intro other hother
    rcases List.mem_append.mp hother with hother | hother
    · exact htracked.exited_lt other hother
    · have heq : other = child := by simpa using hother
      exact heq ▸ hchild

theorem entry_unique (htracked : ChildrenTracked loaded nextChild exited)
    {entry entry' : Mode × Nat} (hentry : entry ∈ loaded) (hentry' : entry' ∈ loaded)
    (hchild : entry.2 = entry'.2) : entry = entry' :=
  List.inj_on_of_nodup_map htracked.nodup hentry hentry' hchild

end ChildrenTracked

variable [DecidableEq Mode]

theorem ChildrenTracked.ne_of_mem_remove {loaded : List (Mode × Nat)} {nextChild : Nat}
    {exited : List Nat} (htracked : ChildrenTracked loaded nextChild exited) {mode : Mode}
    {child : Nat} (hloaded : (mode, child) ∈ loaded) {entry : Mode × Nat}
    (hentry : entry ∈ remove loaded mode) : entry.2 ≠ child := by
  intro hchild
  obtain ⟨hmem, hne⟩ := mem_remove.mp hentry
  exact hne (congrArg Prod.fst (htracked.entry_unique hmem hloaded hchild))

theorem ChildrenTracked.unload {loaded : List (Mode × Nat)} {nextChild : Nat}
    {exited : List Nat} (htracked : ChildrenTracked loaded nextChild exited) {mode : Mode}
    {child : Nat} (hloaded : (mode, child) ∈ loaded) :
    ChildrenTracked (remove loaded mode) nextChild (exited ++ [child]) :=
  (htracked.sublist (remove_sublist loaded mode)).exit (htracked.fresh _ hloaded)
    fun _ => htracked.ne_of_mem_remove hloaded

/-- The uses in hand are of loaded children, and the counts are the counts of them. -/
structure UsesCounted (cache : Cache Mode) (uses : List (Mode × Nat))
    (acquired released : Mode → Nat) : Prop where
  loaded : ∀ use ∈ uses, use ∈ cache.loaded
  count : ∀ mode, cache.inUse mode = uses.countP (·.1 = mode)
  balance : ∀ mode, cache.inUse mode + released mode = acquired mode

namespace UsesCounted

variable {cache : Cache Mode} {uses : List (Mode × Nat)} {acquired released : Mode → Nat}

theorem notMem_of_inUse_eq_zero (hcounted : UsesCounted cache uses acquired released)
    {mode : Mode} (hmode : cache.inUse mode = 0) {use : Mode × Nat} (huse : use ∈ uses) :
    use.1 ≠ mode := by
  rw [hcounted.count mode] at hmode
  simpa using List.countP_eq_zero.mp hmode use huse

theorem remove (hcounted : UsesCounted cache uses acquired released) {mode : Mode}
    (hmode : cache.inUse mode = 0) :
    UsesCounted { cache with loaded := remove cache.loaded mode } uses acquired released :=
  ⟨fun use huse =>
      mem_remove.mpr ⟨hcounted.loaded use huse, hcounted.notMem_of_inUse_eq_zero hmode huse⟩,
    hcounted.count, hcounted.balance⟩

theorem acquire (hcounted : UsesCounted cache uses acquired released) {mode : Mode} {child : Nat}
    (hloaded : (mode, child) ∈ cache.loaded) :
    UsesCounted
      { cache with
        loaded := moveToEnd cache.loaded mode
        inUse := Function.update cache.inUse mode (cache.inUse mode + 1) }
      ((mode, child) :: uses) (Function.update acquired mode (acquired mode + 1)) released := by
  have hsubset := (moveToEnd_perm cache.loaded mode).symm.subset
  refine ⟨?_, ?_, ?_⟩
  · intro use huse
    rcases List.mem_cons.mp huse with rfl | huse
    · exact hsubset hloaded
    · exact hsubset (hcounted.loaded use huse)
  · intro other
    by_cases hother : other = mode
    · subst hother
      simp [hcounted.count other]
    · simp [hother, Ne.symm hother, hcounted.count other]
  · intro other
    have hbalance := hcounted.balance other
    by_cases hother : other = mode
    · subst hother
      simp only [Function.update_self]
      omega
    · simpa [hother] using hbalance

theorem giveBack (hcounted : UsesCounted cache uses acquired released) {mode : Mode}
    (hmode : cache.inUse mode ≠ 0) :
    UsesCounted
      { cache with inUse := Function.update cache.inUse mode (cache.inUse mode - 1) }
      (uses.eraseP (·.1 = mode)) acquired
      (Function.update released mode (released mode + 1)) := by
  have hpos := hcounted.count mode ▸ Nat.pos_of_ne_zero hmode
  obtain ⟨ended, hended, hfst⟩ := List.countP_pos_iff.mp hpos
  obtain ⟨use', before, after, -, hfst', huses, herase⟩ :=
    List.exists_of_eraseP (p := fun use => use.1 = mode) hended hfst
  have hmode' : use'.1 = mode := by simpa using hfst'
  rw [herase]
  refine ⟨?_, ?_, ?_⟩
  · intro use huse
    refine hcounted.loaded use ?_
    rw [huses]
    exact (List.sublist_cons_self use' after).append_left before |>.subset huse
  · intro other
    have hcount := hcounted.count other
    rw [huses, List.countP_append, List.countP_cons, hmode'] at hcount
    rw [List.countP_append]
    by_cases hother : other = mode
    · subst hother
      simp only [decide_true, if_true] at hcount
      simp only [Function.update_self]
      omega
    · simpa [hother, Ne.symm hother] using hcount
  · intro other
    have hbalance := hcounted.balance other
    by_cases hother : other = mode
    · subst hother
      simp only [Function.update_self]
      omega
    · simpa [hother] using hbalance

theorem giveBack_idle (hcounted : UsesCounted cache uses acquired released) {mode : Mode}
    (hmode : cache.inUse mode = 0) :
    UsesCounted
      { cache with inUse := Function.update cache.inUse mode (cache.inUse mode - 1) }
      uses acquired released := by
  have hsame : Function.update cache.inUse mode (cache.inUse mode - 1) = cache.inUse := by
    rw [hmode]
    exact Function.update_eq_self_iff.mpr hmode.symm
  rw [hsame]
  exact hcounted

end UsesCounted

/-- What an unloader in progress stays away from. -/
def Section.Spares (cache : Cache Mode) (nextChild : Nat) : Section Mode → Prop
  | evictingToFit _ _ victim child rest _ _ =>
      (victim, child) ∈ cache.loaded ∧
        ∀ mode ∈ victim :: rest, mode ∉ cache.pinned ∧ cache.inUse mode = 0
  | loading _ _ => True
  | evicting mode child => (mode, child) ∈ cache.loaded ∧ cache.inUse mode = 0
  | evictingAll _ _ _ => False
  | stopping _ child => child < nextChild ∧ ∀ entry ∈ cache.loaded, entry.2 ≠ child

/-- What goes on unloads nothing that is in use. -/
def Progress.Spares (cache : Cache Mode) (nextChild : Nat) : Progress Mode → Prop
  | finished _ => True
  | suspended part => part.Spares cache nextChild

/-- A mode in use is loaded, and its child has not exited. -/
structure InUseHeld (state : State Mode) : Prop where
  children : ChildrenTracked state.cache.loaded state.nextChild state.exited
  uses : UsesCounted state.cache state.uses state.acquired state.released
  part : ∀ part, state.lock = some part → part.Spares state.cache state.nextChild

section EvictionPlan

variable {config : Config Mode} {cache : Cache Mode}

theorem buildEvictionPlan_spares {incomingGb projectedGb : ℚ} {modes : List Mode} {victim : Mode}
    (hvictim : victim ∈ (config.buildEvictionPlan cache incomingGb projectedGb modes).1) :
    victim ∉ cache.pinned ∧ cache.inUse victim = 0 := by
  induction modes generalizing projectedGb with
  | nil => simp [Config.buildEvictionPlan] at hvictim
  | cons mode rest ih =>
      rw [Config.buildEvictionPlan] at hvictim
      split_ifs at hvictim with hroom hkeep
      · simp at hvictim
      · exact ih hvictim
      · rcases List.mem_cons.mp hvictim with rfl | hvictim
        · rw [not_or, Nat.pos_iff_ne_zero, not_not] at hkeep
          exact hkeep
        · exact ih hvictim

theorem evictNext_spares (cache : Cache Mode) {mode : Mode} {incomingGb runningGb : ℚ}
    {evicted plan : List Mode}
    (hplan : ∀ victim ∈ plan, victim ∉ cache.pinned ∧ cache.inUse victim = 0) (nextChild : Nat) :
    (config.evictNext cache mode incomingGb runningGb evicted plan).Spares cache nextChild := by
  cases plan with
  | nil => trivial
  | cons victim rest =>
      rw [Config.evictNext]
      split_ifs
      · trivial
      · cases hvictim : getLoaded cache victim with
        | none => trivial
        | some child => exact ⟨mem_of_getLoaded hvictim, hplan⟩

end EvictionPlan

namespace InUseHeld

variable {config : Config Mode} {state : State Mode}

theorem proceed {cache : Cache Mode} {progress : Progress Mode}
    (hchildren : ChildrenTracked cache.loaded state.nextChild state.exited)
    (huses : UsesCounted cache state.uses state.acquired state.released)
    (hspares : progress.Spares cache state.nextChild) :
    InUseHeld (state.proceed cache progress) := by
  cases progress with
  | finished answer => exact ⟨hchildren, huses, by simp [State.proceed]⟩
  | suspended part =>
      refine ⟨hchildren, huses, ?_⟩
      intro other hother
      have heq : part = other := by simpa [State.proceed] using hother
      exact heq ▸ hspares

theorem endLoad {cache : Cache Mode}
    (hchildren : ChildrenTracked cache.loaded state.nextChild state.exited)
    (huses : UsesCounted cache state.uses state.acquired state.released)
    (answer : Except (CacheError Mode) (Answer Mode)) : InUseHeld (state.endLoad cache answer) :=
  proceed hchildren ⟨huses.loaded, huses.count, huses.balance⟩ trivial

theorem load (hstate : InUseHeld state) (mode : Mode) (reading : Option VramStats) :
    InUseHeld (state.call (config.load state.cache mode reading)) := by
  obtain ⟨hchildren, huses, -⟩ := hstate
  unfold State.call Config.load
  cases config.sizes mode with
  | none => exact proceed hchildren huses trivial
  | some targetGb =>
      dsimp only
      split_ifs
      · have hperm := moveToEnd_perm state.cache.loaded mode
        refine proceed (hchildren.perm hperm) ⟨?_, huses.count, huses.balance⟩ trivial
        intro use huse
        exact hperm.symm.subset (huses.loaded use huse)
      · exact proceed hchildren huses trivial
      · exact proceed hchildren huses trivial
      · have hnext : (config.evictNext state.cache mode targetGb
            (config.planningUsedGb state.cache.loaded reading).1 []
            (config.buildEvictionPlan state.cache targetGb
              (config.planningUsedGb state.cache.loaded reading).1
              (loadedModes state.cache)).1).Spares state.cache state.nextChild :=
          evictNext_spares _ (fun _ => buildEvictionPlan_spares) _
        split
        · exact proceed hchildren huses trivial
        · rename_i part hpart
          rw [hpart] at hnext
          refine proceed hchildren ⟨huses.loaded, huses.count, huses.balance⟩ ?_
          cases part <;> exact hnext

theorem evict (hstate : InUseHeld state) (mode : Mode) :
    InUseHeld (state.call (evict state.cache mode)) := by
  obtain ⟨hchildren, huses, -⟩ := hstate
  unfold State.call ModelCache.evict
  cases hmode : getLoaded state.cache mode with
  | none => exact proceed hchildren huses trivial
  | some child =>
      dsimp only
      split_ifs with hused
      · exact proceed hchildren huses trivial
      · exact proceed hchildren huses ⟨mem_of_getLoaded hmode, Nat.eq_zero_of_not_pos hused⟩

theorem pin (hstate : InUseHeld state) (mode : Mode) :
    InUseHeld (state.call (pin state.cache mode)) := by
  obtain ⟨hchildren, huses, -⟩ := hstate
  unfold State.call ModelCache.pin
  split_ifs
  · exact proceed hchildren ⟨huses.loaded, huses.count, huses.balance⟩ trivial
  · exact proceed hchildren huses trivial

theorem unpin (hstate : InUseHeld state) (mode : Mode) :
    InUseHeld (state.call (unpin state.cache mode)) :=
  proceed hstate.children ⟨hstate.uses.loaded, hstate.uses.count, hstate.uses.balance⟩ trivial

theorem acquireForUse (hstate : InUseHeld state) (mode : Mode) :
    InUseHeld ((state.takeUse mode).call (acquireForUse state.cache mode)) := by
  obtain ⟨hchildren, huses, -⟩ := hstate
  unfold State.call ModelCache.acquireForUse State.takeUse
  cases hmode : getLoaded state.cache mode with
  | none => exact proceed hchildren huses trivial
  | some child =>
      have hperm := moveToEnd_perm state.cache.loaded mode
      exact proceed (hchildren.perm hperm) (huses.acquire (mem_of_getLoaded hmode)) trivial

theorem usesCounted_giveBack
    (huses : UsesCounted state.cache state.uses state.acquired state.released)
    (mode : Mode) :
    UsesCounted
      { state.cache with
        inUse := Function.update state.cache.inUse mode (state.cache.inUse mode - 1) }
      (state.giveBack mode).uses (state.giveBack mode).acquired
      (state.giveBack mode).released := by
  unfold State.giveBack
  by_cases hmode : state.cache.inUse mode = 0
  · simpa [hmode] using huses.giveBack_idle hmode
  · simpa [hmode] using huses.giveBack hmode

@[simp] theorem giveBack_nextChild (state : State Mode) (mode : Mode) :
    (state.giveBack mode).nextChild = state.nextChild := by
  simp only [State.giveBack]
  split_ifs <;> rfl

@[simp] theorem giveBack_exited (state : State Mode) (mode : Mode) :
    (state.giveBack mode).exited = state.exited := by
  simp only [State.giveBack]
  split_ifs <;> rfl

theorem release (hstate : InUseHeld state) (mode : Mode) :
    InUseHeld ((state.giveBack mode).call (release state.cache mode)) :=
  proceed (by simpa [ModelCache.release] using hstate.children)
    (usesCounted_giveBack hstate.uses mode) trivial

theorem releaseAndStop (hstate : InUseHeld state) (mode : Mode) :
    InUseHeld ((state.giveBack mode).call (releaseAndStop state.cache mode)) := by
  have hchildren : ChildrenTracked state.cache.loaded (state.giveBack mode).nextChild
      (state.giveBack mode).exited := by
    simpa using hstate.children
  have huses := usesCounted_giveBack hstate.uses mode
  unfold State.call ModelCache.releaseAndStop
  dsimp only
  split_ifs with hidle hstill
  · have hsame : UsesCounted state.cache (state.giveBack mode).uses
        (state.giveBack mode).acquired (state.giveBack mode).released := by
      simpa [State.giveBack, hidle] using hstate.uses
    exact proceed hchildren hsame trivial
  · exact proceed hchildren huses trivial
  · split
    · exact proceed hchildren huses trivial
    · rename_i child hchild
      have hmem := mem_of_getLoaded hchild
      exact proceed (hchildren.sublist (remove_sublist _ mode))
        (huses.remove (Nat.eq_zero_of_not_pos hstill))
        ⟨hchildren.fresh _ hmem, fun _ => hchildren.ne_of_mem_remove hmem⟩

theorem unloaderReturns (hstate : InUseHeld state) {part : Section Mode}
    (hlock : state.lock = some part) {reading : Option VramStats} {next : State Mode}
    (hstep : state.unloaderReturns config reading part = some next) : InUseHeld next := by
  obtain ⟨hchildren, huses, hpart⟩ := hstate
  have hspares := hpart part hlock
  cases part with
  | loading => simp [State.unloaderReturns] at hstep
  | evictingToFit mode incomingGb victim child rest runningGb evicted =>
      obtain ⟨hloaded, hplan⟩ := hspares
      have hunloaded := hchildren.unload hloaded
      have hremoved := huses.remove (hplan victim List.mem_cons_self).2
      have hrest : ∀ other ∈ rest,
          other ∉ state.cache.pinned ∧ state.cache.inUse other = 0 :=
        fun other hother => hplan other (List.mem_cons_of_mem _ hother)
      simp only [State.unloaderReturns] at hstep
      split at hstep
      · cases hstep
        exact endLoad (by exact hunloaded) (by exact hremoved) _
      · rename_i part hnext
        have hspares := hnext ▸ evictNext_spares
          { state.cache with loaded := remove state.cache.loaded victim } hrest state.nextChild
        cases hstep
        exact proceed hunloaded hremoved hspares
  | evicting mode child =>
      obtain ⟨hloaded, hidle⟩ := hspares
      have hremoved := huses.remove hidle
      cases hstep
      exact proceed (hchildren.unload hloaded)
        ⟨hremoved.loaded, hremoved.count, hremoved.balance⟩ trivial
  | evictingAll => exact hspares.elim
  | stopping mode child =>
      cases hstep
      exact proceed (hchildren.exit hspares.1 hspares.2) huses trivial

theorem unloaderRaises (hstate : InUseHeld state) {part : Section Mode} {next : State Mode}
    (hstep : state.unloaderRaises part = some next) : InUseHeld next := by
  obtain ⟨hchildren, huses, -⟩ := hstate
  cases part with
  | loading => simp [State.unloaderRaises] at hstep
  | evictingToFit =>
      cases hstep
      exact endLoad hchildren huses _
  | evicting | evictingAll | stopping =>
      cases hstep
      exact proceed hchildren huses trivial

theorem act (hstate : InUseHeld state) {action : Action Mode} (hkeeps : action ≠ .evictAll)
    {next : State Mode}
    (hstep : state.act config action = some next) : InUseHeld next := by
  cases action with
  | load mode reading =>
      simp only [State.act] at hstep
      split_ifs at hstep
      · cases hstep
        exact ⟨hstate.children, hstate.uses, hstate.part⟩
      · cases hstep
        exact hstate.load mode reading
  | evict mode =>
      simp only [State.act, Option.ite_none_left_eq_some, Option.some.injEq] at hstep
      exact hstep.2 ▸ hstate.evict mode
  | evictAll => exact absurd rfl hkeeps
  | pin mode =>
      simp only [State.act, Option.ite_none_left_eq_some, Option.some.injEq] at hstep
      exact hstep.2 ▸ hstate.pin mode
  | unpin mode =>
      simp only [State.act, Option.ite_none_left_eq_some, Option.some.injEq] at hstep
      exact hstep.2 ▸ hstate.unpin mode
  | acquireForUse mode =>
      simp only [State.act, Option.ite_none_left_eq_some, Option.some.injEq] at hstep
      exact hstep.2 ▸ hstate.acquireForUse mode
  | release mode =>
      simp only [State.act, Option.ite_none_left_eq_some, Option.some.injEq] at hstep
      exact hstep.2 ▸ hstate.release mode
  | releaseAndStop mode =>
      simp only [State.act, Option.ite_none_left_eq_some, Option.some.injEq] at hstep
      exact hstep.2 ▸ hstate.releaseAndStop mode
  | loaderReturns =>
      simp only [State.act] at hstep
      split at hstep
      · rename_i mode evicted hlock
        cases hstep
        have hgrown : UsesCounted
            { state.cache with loaded := state.cache.loaded ++ [(mode, state.nextChild)] }
            state.uses state.acquired state.released :=
          ⟨fun use huse => List.mem_append_left _ (hstate.uses.loaded use huse),
            hstate.uses.count, hstate.uses.balance⟩
        exact endLoad (by exact hstate.children.start mode) (by exact hgrown) _
      · cases hstep
  | loaderRaises =>
      simp only [State.act] at hstep
      split at hstep
      · cases hstep
        exact endLoad hstate.children hstate.uses _
      · cases hstep
  | unloaderReturns reading =>
      obtain ⟨part, hlock, hstep⟩ := Option.bind_eq_some_iff.mp hstep
      exact unloaderReturns hstate hlock hstep
  | unloaderRaises =>
      obtain ⟨part, -, hstep⟩ := Option.bind_eq_some_iff.mp hstep
      exact unloaderRaises hstate hstep

end InUseHeld

/-- The runs in which `evict_all` is never called. -/
def keepingSystem (config : Config Mode) : TransitionSystem (State Mode) (Action Mode) :=
  (cacheSystem config).restrict fun _ action => action ≠ .evictAll

theorem inUseHeld_invariant (config : Config Mode) :
    (keepingSystem config).Invariant InUseHeld where
  initial := by
    rintro _ rfl
    refine ⟨⟨List.nodup_nil, nofun, nofun, nofun⟩, ⟨nofun, ?_, fun _ => rfl⟩, nofun⟩
    exact fun _ => rfl
  step := fun _ _ _ hstate hstep => hstate.act hstep.1 hstep.2

theorem getLoaded_of_mem {cache : Cache Mode} {mode : Mode} {child : Nat}
    (hnodup : (cache.loaded.map Prod.fst).Nodup) (hmem : (mode, child) ∈ cache.loaded) :
    getLoaded cache mode = some child := by
  cases hfound : getLoaded cache mode with
  | none => exact absurd (List.mem_map_of_mem hmem) (getLoaded_eq_none hfound)
  | some other =>
      have heq := List.inj_on_of_nodup_map hnodup (mem_of_getLoaded hfound) hmem rfl
      exact congrArg (fun entry : Mode × Nat => some entry.2) heq

/-- The uses in hand are safe: the mode is loaded with the child that was handed
out, that child's unloader neither returned nor runs, the in-use counts are
right, and a load evicts only what is neither pinned nor in use. -/
structure UseSafe (state : State Mode) : Prop where
  loaded : ∀ use ∈ state.uses, getLoaded state.cache use.1 = some use.2
  not_exited : ∀ use ∈ state.uses, use.2 ∉ state.exited
  not_unloading : ∀ use ∈ state.uses, ∀ part, state.lock = some part → part.unloading ≠ some use.2
  outstanding : ∀ mode, state.cache.inUse mode = state.uses.countP (·.1 = mode)
  balance : ∀ mode, state.cache.inUse mode + state.released mode = state.acquired mode
  victim : ∀ mode incomingGb victim child rest runningGb evicted,
    state.lock = some (.evictingToFit mode incomingGb victim child rest runningGb evicted) →
      victim ∉ state.cache.pinned ∧ state.cache.inUse victim = 0

theorem InUseHeld.not_unloading {state : State Mode} (hstate : InUseHeld state)
    {use : Mode × Nat} (huse : use ∈ state.uses) {part : Section Mode}
    (hlock : state.lock = some part) : part.unloading ≠ some use.2 := by
  obtain ⟨hchildren, huses, hpart⟩ := hstate
  have hspares := hpart part hlock
  have hloaded := huses.loaded use huse
  intro hunloading
  cases part with
  | loading => cases hunloading
  | evictingToFit mode incomingGb victim child rest runningGb evicted =>
      cases hunloading
      have hentry := hchildren.entry_unique hloaded hspares.1 rfl
      have hidle := (hspares.2 victim List.mem_cons_self).2
      exact huses.notMem_of_inUse_eq_zero hidle huse (congrArg Prod.fst hentry)
  | evicting mode child =>
      cases hunloading
      have hentry := hchildren.entry_unique hloaded hspares.1 rfl
      exact huses.notMem_of_inUse_eq_zero hspares.2 huse (congrArg Prod.fst hentry)
  | evictingAll => exact hspares
  | stopping mode child =>
      cases hunloading
      exact hspares.2 use hloaded rfl

/-- As long as `evict_all` is not called, every use in hand is safe. -/
theorem uses_kept (config : Config Mode) {state : State Mode}
    (hreach : (keepingSystem config).Reachable state) : UseSafe state := by
  have hstate := (inUseHeld_invariant config).of_reachable hreach
  have hnodup := ((withinBudget_invariant config).of_reachable hreach.of_restrict).table.nodup
  refine ⟨?_, ?_, ?_, hstate.uses.count, hstate.uses.balance, ?_⟩
  · intro use huse
    exact getLoaded_of_mem hnodup (hstate.uses.loaded use huse)
  · intro use huse
    exact hstate.children.running use (hstate.uses.loaded use huse)
  · intro use huse part hlock
    exact hstate.not_unloading huse hlock
  · intro mode incomingGb victim child rest runningGb evicted hlock
    exact (hstate.part _ hlock).2 victim List.mem_cons_self

/-- A worker that releases `turbo` before it loads and acquires it. -/
def earlyReleaseState : State String :=
  TransitionSystem.lastOf (emptyState String)
    (TransitionSystem.follow (State.act defaultConfig) (emptyState String)
      [.release "turbo", .load "turbo" none, .loaderReturns, .acquireForUse "turbo"])

theorem reachable_earlyReleaseState : (keepingSystem defaultConfig).Reachable earlyReleaseState :=
  TransitionSystem.reachable_lastOf (.initial rfl)
    (TransitionSystem.isRun_restrict (TransitionSystem.isRun_follow _ _ _ _)
      (TransitionSystem.stepsMeet_follow (by simp) _))

theorem uses_kept_after_acquire :
    earlyReleaseState.uses = [("turbo", 0)] ∧ UseSafe earlyReleaseState :=
  ⟨by decide +kernel, uses_kept defaultConfig reachable_earlyReleaseState⟩

/-- A release of a mode that is not in use is ignored, so the count is not
acquisitions minus release calls. -/
theorem idle_release_not_counted :
    ¬ ∀ state : State String, (keepingSystem defaultConfig).Reachable state →
      ∀ mode, (state.cache.inUse mode : ℤ) = state.acquired mode - state.releaseCalls mode := by
  intro hcount
  have hturbo := hcount earlyReleaseState reachable_earlyReleaseState "turbo"
  exact absurd hturbo (by decide +kernel)

end Songmaker.Worker.ModelCache
