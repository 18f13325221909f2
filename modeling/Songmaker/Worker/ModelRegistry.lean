import Songmaker.Worker.ModelCacheBudget

/-!
The loaded table against the children that run: which child each mode was
started as, and the two ways in which a failing unloader parts the table from
the children.
-/

namespace Songmaker.Worker.ModelCache

open Songmaker.Foundation

variable {Mode : Type}

/-- The cache with what an observer of its children notes down: each child that
was started with its mode, the children dropped by a `release_and_stop` whose
unloader failed, and the children unloaded by an `evict_all` that failed later. -/
structure Registry (Mode : Type) where
  state : State Mode
  started : List (Mode × Nat)
  dropped : List Nat
  leftListed : List Nat

/-- The children that the `evict_all` inside the lock has unloaded so far. -/
def Section.unloadedSoFar (loaded : List (Mode × Nat)) : Section Mode → List Nat
  | .evictingAll _ rest _ =>
      (loaded.take (loaded.length - (rest.length + 1))).map Prod.snd
  | .evictingToFit _ _ _ _ _ _ _ | .loading _ _ | .evicting _ _ | .stopping _ _ => []

/-- The child that a `release_and_stop` inside the lock has taken off the table. -/
def Section.takenOff : Section Mode → List Nat
  | .stopping _ child => [child]
  | .evictingToFit _ _ _ _ _ _ _ | .loading _ _ | .evicting _ _ | .evictingAll _ _ _ => []

namespace Registry

variable [DecidableEq Mode]

/-- The child that the step has started. -/
def startedBy (state : State Mode) : Action Mode → List (Mode × Nat)
  | .loaderReturns =>
      match state.lock with
      | some (.loading mode _) => [(mode, state.nextChild)]
      | _ => []
  | _ => []

/-- The children that a failed unload has taken off the table. -/
def droppedBy (state : State Mode) : Action Mode → List Nat
  | .unloaderRaises => state.lock.elim [] Section.takenOff
  | _ => []

/-- The children that a failed unload has ended and left on the table. -/
def leftListedBy (state : State Mode) : Action Mode → List Nat
  | .unloaderRaises => state.lock.elim [] (Section.unloadedSoFar state.cache.loaded)
  | _ => []

/-- A step of the cache, noted in the registry. -/
def act (config : Config Mode) (registry : Registry Mode) (action : Action Mode) :
    Option (Registry Mode) :=
  (registry.state.act config action).map fun next =>
    { state := next
      started := registry.started ++ startedBy registry.state action
      dropped := registry.dropped ++ droppedBy registry.state action
      leftListed := registry.leftListed ++ leftListedBy registry.state action }

end Registry

def emptyRegistry (Mode : Type) : Registry Mode where
  state := emptyState Mode
  started := []
  dropped := []
  leftListed := []

/-- The empty registry, and its steps. -/
def registrySystem [DecidableEq Mode] (config : Config Mode) :
    TransitionSystem (Registry Mode) (Action Mode) :=
  TransitionSystem.ofAct (fun registry => registry = emptyRegistry Mode) (Registry.act config)

/-- A call that has just reached its first await awaits a child of the table. -/
def Section.StartsFrom (loaded : List (Mode × Nat)) : Section Mode → Prop
  | .evictingToFit _ _ victim child _ _ _ => (victim, child) ∈ loaded
  | .loading _ _ => True
  | .evicting mode child => (mode, child) ∈ loaded
  | .evictingAll child rest _ => ∃ mode, loaded = (mode, child) :: rest
  | .stopping _ _ => False

/-- Where the table stands while a call is inside the lock. -/
def Section.Stands (loaded : List (Mode × Nat)) (exited : List Nat) : Section Mode → Prop
  | .evictingToFit _ _ victim child _ _ _ => (victim, child) ∈ loaded
  | .loading _ _ => True
  | .evicting mode child => (mode, child) ∈ loaded
  | .evictingAll child rest _ =>
      ∃ earlier mode, loaded = earlier ++ (mode, child) :: rest ∧
        ∀ entry ∈ earlier, entry.2 ∈ exited
  | .stopping _ child => ∀ entry ∈ loaded, entry.2 ≠ child

/-- The table lists the children that run, but for those a failed unloader or
the call inside the lock accounts for. -/
structure Registered (registry : Registry Mode) : Prop where
  fresh : ∀ entry ∈ registry.started, entry.2 < registry.state.nextChild
  exitedFresh : ∀ child ∈ registry.state.exited, child < registry.state.nextChild
  takenFresh : ∀ child ∈ registry.state.lock.elim [] Section.takenOff,
    child < registry.state.nextChild
  children : (registry.state.cache.loaded.map Prod.snd).Nodup
  modes : (registry.state.cache.loaded.map Prod.fst).Nodup
  listed : ∀ entry ∈ registry.state.cache.loaded, entry ∈ registry.started
  running : ∀ entry ∈ registry.started, entry.2 ∉ registry.state.exited →
    entry ∈ registry.state.cache.loaded ∨ entry.2 ∈ registry.dropped ∨
      entry.2 ∈ registry.state.lock.elim [] Section.takenOff
  gone : ∀ entry ∈ registry.state.cache.loaded, entry.2 ∈ registry.state.exited →
    entry.2 ∈ registry.leftListed ∨
      entry.2 ∈ registry.state.lock.elim []
        (Section.unloadedSoFar registry.state.cache.loaded)
  stands : ∀ part, registry.state.lock = some part →
    part.Stands registry.state.cache.loaded registry.state.exited

theorem Section.StartsFrom.stands {loaded : List (Mode × Nat)} {part : Section Mode}
    (hstarts : part.StartsFrom loaded) (exited : List Nat) : part.Stands loaded exited := by
  cases part with
  | evictingToFit | evicting => exact hstarts
  | loading => trivial
  | evictingAll child rest evicted =>
      obtain ⟨mode, rfl⟩ := hstarts
      exact ⟨[], mode, rfl, by simp⟩
  | stopping => exact hstarts.elim

theorem Section.unloadedSoFar_evictingAll {loaded earlier rest : List (Mode × Nat)} {mode : Mode}
    {child : Nat} (hloaded : loaded = earlier ++ (mode, child) :: rest) (evicted : List Mode) :
    (Section.evictingAll child rest evicted).unloadedSoFar loaded = earlier.map Prod.snd := by
  subst hloaded
  simp [Section.unloadedSoFar]

theorem Section.StartsFrom.takenOff_eq {loaded : List (Mode × Nat)} {part : Section Mode}
    (hstarts : part.StartsFrom loaded) : part.takenOff = [] := by
  cases part with
  | evictingToFit | evicting | loading | evictingAll => rfl
  | stopping => exact hstarts.elim

variable [DecidableEq Mode]

/-- What a call has done to the table by its first await or its end. -/
inductive CallLeaves (loaded : List (Mode × Nat)) : Cache Mode × Progress Mode → Prop
  | kept {cache : Cache Mode} {progress : Progress Mode} (hloaded : cache.loaded.Perm loaded)
      (hstarts : ∀ part, progress = .suspended part → part.StartsFrom cache.loaded) :
      CallLeaves loaded (cache, progress)
  | takesOff {cache : Cache Mode} {mode : Mode} {child : Nat} (hmem : (mode, child) ∈ loaded)
      (hloaded : cache.loaded = remove loaded mode) :
      CallLeaves loaded (cache, .suspended (.stopping mode child))

namespace CallLeaves

variable {loaded : List (Mode × Nat)} {cache : Cache Mode}

theorem finished (hloaded : cache.loaded.Perm loaded)
    (answer : Except (CacheError Mode) (Answer Mode)) :
    CallLeaves loaded (cache, .finished answer) :=
  .kept hloaded (by simp)

theorem suspended {part : Section Mode} (hloaded : cache.loaded.Perm loaded)
    (hstarts : part.StartsFrom cache.loaded) : CallLeaves loaded (cache, .suspended part) := by
  refine .kept hloaded ?_
  rintro _ hpart
  rw [Progress.suspended.injEq] at hpart
  exact hpart ▸ hstarts

end CallLeaves

section Methods

theorem evictNext_starts {config : Config Mode} {cache : Cache Mode} {mode : Mode}
    {incomingGb runningGb : ℚ} {evicted victims : List Mode} {part : Section Mode}
    (hnext : config.evictNext cache mode incomingGb runningGb evicted victims =
      .suspended part) : part.StartsFrom cache.loaded := by
  cases victims with
  | nil =>
      rw [Config.evictNext, Progress.suspended.injEq] at hnext
      exact hnext ▸ trivial
  | cons victim rest =>
      rw [Config.evictNext] at hnext
      split_ifs at hnext
      · rw [Progress.suspended.injEq] at hnext
        exact hnext ▸ trivial
      · cases hchild : getLoaded cache victim with
        | none => simp [hchild] at hnext
        | some child =>
            simp only [hchild, Progress.suspended.injEq] at hnext
            exact hnext ▸ mem_of_getLoaded hchild

theorem load_leaves (config : Config Mode) (cache : Cache Mode) (mode : Mode)
    (reading : Option VramStats) : CallLeaves cache.loaded (config.load cache mode reading) := by
  rw [Config.load]
  split
  · exact .finished (List.Perm.refl _) _
  · dsimp only
    split_ifs
    · exact .finished (moveToEnd_perm _ mode) _
    · exact .finished (List.Perm.refl _) _
    · exact .finished (List.Perm.refl _) _
    · split
      · exact .finished (List.Perm.refl _) _
      · rename_i part hnext
        exact .suspended (List.Perm.refl _) (evictNext_starts hnext)

theorem evict_leaves (cache : Cache Mode) (mode : Mode) :
    CallLeaves cache.loaded (evict cache mode) := by
  rw [evict]
  split
  · exact .finished (List.Perm.refl _) _
  · rename_i child hchild
    split_ifs
    · exact .finished (List.Perm.refl _) _
    · exact .suspended (List.Perm.refl _) (mem_of_getLoaded hchild)

theorem evictAll_leaves (cache : Cache Mode) : CallLeaves cache.loaded (evictAll cache) := by
  rw [evictAll]
  split
  · rename_i hloaded
    exact .finished (hloaded ▸ List.Perm.refl _) _
  · rename_i mode child rest hloaded
    exact .suspended (List.Perm.refl _) ⟨mode, hloaded⟩

theorem pin_leaves (cache : Cache Mode) (mode : Mode) :
    CallLeaves cache.loaded (pin cache mode) := by
  unfold pin
  split_ifs
  · exact .finished (by exact List.Perm.refl _) _
  · exact .finished (List.Perm.refl _) _

theorem acquireForUse_leaves (cache : Cache Mode) (mode : Mode) :
    CallLeaves cache.loaded (acquireForUse cache mode) := by
  rw [acquireForUse]
  split
  · exact .finished (List.Perm.refl _) _
  · exact .finished (moveToEnd_perm _ mode) _

theorem releaseAndStop_leaves (cache : Cache Mode) (mode : Mode) :
    CallLeaves cache.loaded (releaseAndStop cache mode) := by
  unfold releaseAndStop
  dsimp only
  split_ifs
  · exact .finished (List.Perm.refl _) _
  · exact .finished (by exact List.Perm.refl _) _
  · split
    · exact .finished (by exact List.Perm.refl _) _
    · rename_i child hchild
      exact .takesOff (mem_of_getLoaded hchild) rfl

end Methods

namespace State

variable (state : State Mode) (result : Cache Mode × Progress Mode)

omit [DecidableEq Mode] in
theorem call_cache : (state.call result).cache = result.1 := by
  rcases result with ⟨cache, _ | _⟩
  · rfl
  · rfl

omit [DecidableEq Mode] in
theorem call_nextChild : (state.call result).nextChild = state.nextChild := by
  rcases result with ⟨cache, _ | _⟩
  · rfl
  · rfl

omit [DecidableEq Mode] in
theorem call_exited : (state.call result).exited = state.exited := by
  rcases result with ⟨cache, _ | _⟩
  · rfl
  · rfl

omit [DecidableEq Mode] in
/-- A failing unloader ends the call and changes neither the table nor what has exited. -/
theorem unloaderRaises_kept {state next : State Mode} {part : Section Mode}
    (hraises : state.unloaderRaises part = some next) :
    next.lock = none ∧ next.cache.loaded = state.cache.loaded ∧
      next.nextChild = state.nextChild ∧ next.exited = state.exited := by
  cases part with
  | loading => simp [unloaderRaises] at hraises
  | evictingToFit | evicting | evictingAll | stopping =>
      obtain rfl := Option.some.inj hraises
      exact ⟨rfl, rfl, rfl, rfl⟩

end State

namespace Registered

variable {config : Config Mode} {registry : Registry Mode}

theorem call (hregistry : Registered registry) (hlock : registry.state.lock = none)
    {state : State Mode} (hnextChild : state.nextChild = registry.state.nextChild)
    (hexited : state.exited = registry.state.exited) {result : Cache Mode × Progress Mode}
    (hresult : CallLeaves registry.state.cache.loaded result) :
    Registered { registry with state := state.call result } := by
  have hrunning : ∀ entry ∈ registry.started, entry.2 ∉ registry.state.exited →
      entry ∈ registry.state.cache.loaded ∨ entry.2 ∈ registry.dropped := by
    simpa [hlock] using hregistry.running
  have hgone : ∀ entry ∈ registry.state.cache.loaded, entry.2 ∈ registry.state.exited →
      entry.2 ∈ registry.leftListed := by
    simpa [hlock] using hregistry.gone
  cases hresult with
  | @kept cache progress hloaded hstarts =>
      have hpart : ∀ part, (state.call (cache, progress)).lock = some part →
          part.StartsFrom cache.loaded := by
        intro part hpart
        cases progress with
        | finished answer => contradiction
        | suspended other =>
            exact hstarts part (congrArg Progress.suspended (Option.some.inj hpart))
      refine ⟨?_, ?_, ?_, ?_, ?_, ?_, ?_, ?_, ?_⟩
      · rw [State.call_nextChild, hnextChild]
        exact hregistry.fresh
      · rw [State.call_nextChild, hnextChild, State.call_exited, hexited]
        exact hregistry.exitedFresh
      · intro child hchild
        cases hlocked : (state.call (cache, progress)).lock with
        | none => simp [hlocked] at hchild
        | some part => simp [hlocked, (hpart part hlocked).takenOff_eq] at hchild
      · rw [State.call_cache]
        exact (hloaded.map _).nodup_iff.mpr hregistry.children
      · rw [State.call_cache]
        exact (hloaded.map _).nodup_iff.mpr hregistry.modes
      · intro entry hentry
        rw [State.call_cache] at hentry
        exact hregistry.listed entry (hloaded.mem_iff.mp hentry)
      · intro entry hentry hleft
        rw [State.call_exited, hexited] at hleft
        rw [State.call_cache]
        rcases hrunning entry hentry hleft with hmem | hmem
        · exact .inl (hloaded.mem_iff.mpr hmem)
        · exact .inr (.inl hmem)
      · intro entry hentry hleft
        rw [State.call_exited, hexited] at hleft
        rw [State.call_cache] at hentry
        exact .inl (hgone entry (hloaded.mem_iff.mp hentry) hleft)
      · intro part hlocked
        rw [State.call_cache]
        exact (hpart part hlocked).stands _
  | @takesOff cache mode child hmem hloaded =>
      have hsub : cache.loaded.Sublist registry.state.cache.loaded :=
        hloaded ▸ remove_sublist _ mode
      refine ⟨?_, ?_, ?_, ?_, ?_, ?_, ?_, ?_, ?_⟩
      · exact hnextChild ▸ hregistry.fresh
      · exact hnextChild ▸ hexited ▸ hregistry.exitedFresh
      · intro other hother
        obtain rfl : other = child := List.mem_singleton.mp hother
        exact hnextChild ▸ hregistry.fresh _ (hregistry.listed _ hmem)
      · exact hregistry.children.sublist (hsub.map _)
      · exact hregistry.modes.sublist (hsub.map _)
      · exact fun entry hentry => hregistry.listed entry (hsub.subset hentry)
      · intro entry hentry hleft
        rcases hrunning entry hentry (hexited ▸ hleft) with hold | hold
        · by_cases hmode : entry.1 = mode
          · have heq : entry = (mode, child) :=
              List.inj_on_of_nodup_map hregistry.modes hold hmem hmode
            exact .inr (.inr (by rw [heq]; exact List.mem_singleton_self child))
          · have hkept : entry ∈ cache.loaded := hloaded ▸ mem_remove.mpr ⟨hold, hmode⟩
            exact .inl hkept
        · exact .inr (.inl hold)
      · exact fun entry hentry hleft =>
          .inl (hgone entry (hsub.subset hentry) (hexited ▸ hleft))
      · intro other hother
        obtain rfl := Option.some.inj hother
        intro entry hentry hchild
        have heq : entry = (mode, child) :=
          List.inj_on_of_nodup_map hregistry.children (hsub.subset hentry) hmem hchild
        have hkept : entry ∈ remove registry.state.cache.loaded mode := hloaded ▸ hentry
        exact (mem_remove.mp hkept).2 (congrArg Prod.fst heq)

omit [DecidableEq Mode] in
theorem endOf (hregistry : Registered registry) {next : State Mode} {dropped leftListed : List Nat}
    (hlock : next.lock = none) (hloaded : next.cache.loaded = registry.state.cache.loaded)
    (hnextChild : next.nextChild = registry.state.nextChild)
    (hexited : next.exited = registry.state.exited)
    (hdropped : ∀ child ∈ registry.state.lock.elim [] Section.takenOff, child ∈ dropped)
    (hleftListed : ∀ child ∈ registry.state.lock.elim []
      (Section.unloadedSoFar registry.state.cache.loaded), child ∈ leftListed) :
    Registered
      { state := next
        started := registry.started
        dropped := registry.dropped ++ dropped
        leftListed := registry.leftListed ++ leftListed } := by
  refine ⟨hnextChild ▸ hregistry.fresh, hnextChild ▸ hexited ▸ hregistry.exitedFresh,
    by simp [hlock], hloaded ▸ hregistry.children, hloaded ▸ hregistry.modes,
    hloaded ▸ hregistry.listed, ?_, ?_, ?_⟩
  · intro entry hentry hleft
    show entry ∈ next.cache.loaded ∨ entry.2 ∈ registry.dropped ++ dropped ∨ _
    rw [hloaded, List.mem_append]
    rcases hregistry.running entry hentry (hexited ▸ hleft) with hmem | hmem | hmem
    · exact .inl hmem
    · exact .inr (.inl (.inl hmem))
    · exact .inr (.inl (.inr (hdropped _ hmem)))
  · intro entry hentry hleft
    show entry.2 ∈ registry.leftListed ++ leftListed ∨ _
    rw [List.mem_append]
    rcases hregistry.gone entry (hloaded ▸ hentry) (hexited ▸ hleft) with hmem | hmem
    · exact .inl (.inl hmem)
    · exact .inl (.inr (hleftListed _ hmem))
  · intro part hpart
    rw [hlock] at hpart
    contradiction

theorem unloaded (hregistry : Registered registry) {mode : Mode} {child : Nat}
    (hmem : (mode, child) ∈ registry.state.cache.loaded) {next : State Mode}
    (htakenOff : registry.state.lock.elim [] Section.takenOff = [])
    (hsoFar : registry.state.lock.elim []
      (Section.unloadedSoFar registry.state.cache.loaded) = [])
    (hloaded : next.cache.loaded = remove registry.state.cache.loaded mode)
    (hnextChild : next.nextChild = registry.state.nextChild)
    (hexited : next.exited = registry.state.exited ++ [child])
    (hstarts : ∀ part, next.lock = some part → part.StartsFrom next.cache.loaded) :
    Registered { registry with state := next } := by
  have hsub : next.cache.loaded.Sublist registry.state.cache.loaded :=
    hloaded ▸ remove_sublist _ mode
  refine ⟨hnextChild ▸ hregistry.fresh, ?_, ?_, hregistry.children.sublist (hsub.map _),
    hregistry.modes.sublist (hsub.map _), fun entry hentry =>
      hregistry.listed entry (hsub.subset hentry), ?_, ?_, ?_⟩
  · intro other hother
    rw [show next.nextChild = _ from hnextChild]
    rw [show next.exited = _ from hexited, List.mem_append, List.mem_singleton] at hother
    rcases hother with hother | rfl
    · exact hregistry.exitedFresh other hother
    · exact hregistry.fresh _ (hregistry.listed _ hmem)
  · intro other hother
    cases hlocked : next.lock with
    | none => simp [hlocked] at hother
    | some part => simp [hlocked, (hstarts part hlocked).takenOff_eq] at hother
  · intro entry hentry hleft
    rw [hexited, List.mem_append, not_or] at hleft
    have hold := hregistry.running entry hentry hleft.1
    rw [htakenOff] at hold
    rcases hold with hlisted | hdropped | hnone
    · have hmode : entry.1 ≠ mode := by
        intro hmode
        have heq : entry = (mode, child) :=
          List.inj_on_of_nodup_map hregistry.modes hlisted hmem hmode
        exact hleft.2 (by rw [heq]; exact List.mem_singleton_self child)
      have hkept : entry ∈ next.cache.loaded := hloaded ▸ mem_remove.mpr ⟨hlisted, hmode⟩
      exact .inl hkept
    · exact .inr (.inl hdropped)
    · simp at hnone
  · intro entry hentry hleft
    have hlisted := hsub.subset hentry
    rw [hexited, List.mem_append, List.mem_singleton] at hleft
    rcases hleft with hleft | hchild
    · have hold := hregistry.gone entry hlisted hleft
      rw [hsoFar] at hold
      exact .inl (hold.resolve_right (by simp))
    · have heq : entry = (mode, child) :=
        List.inj_on_of_nodup_map hregistry.children hlisted hmem hchild
      rw [show next.cache.loaded = _ from hloaded, mem_remove] at hentry
      exact absurd (congrArg Prod.fst heq) hentry.2
  · exact fun part hpart => (hstarts part hpart).stands _

/-- The unloaders of `evict_all` return one by one, and the table is cleared by
the last one. -/
theorem evictingAll (hregistry : Registered registry) {child : Nat} {rest : List (Mode × Nat)}
    {evicted : List Mode} (hlock : registry.state.lock = some (.evictingAll child rest evicted))
    {reading : Option VramStats} {next : State Mode}
    (hstep : registry.state.unloaderReturns config reading (.evictingAll child rest evicted) =
      some next) : Registered { registry with state := next } := by
  obtain ⟨earlier, mode, hloaded, hearlier⟩ := hregistry.stands _ hlock
  have hmem : (mode, child) ∈ registry.state.cache.loaded := by simp [hloaded]
  have hchildFresh := hregistry.fresh _ (hregistry.listed _ hmem)
  have hrunning : ∀ entry ∈ registry.started, entry.2 ∉ registry.state.exited →
      entry ∈ registry.state.cache.loaded ∨ entry.2 ∈ registry.dropped := by
    simpa [hlock, Section.takenOff] using hregistry.running
  have hexitedFresh : ∀ other ∈ registry.state.exited ++ [child],
      other < registry.state.nextChild := by
    intro other hother
    rw [List.mem_append, List.mem_singleton] at hother
    rcases hother with hother | rfl
    · exact hregistry.exitedFresh other hother
    · exact hchildFresh
  cases rest with
  | nil =>
      obtain rfl := Option.some.inj hstep
      refine ⟨hregistry.fresh, hexitedFresh, by simp [State.proceed], List.nodup_nil,
        List.nodup_nil, by simp [State.proceed, clear], ?_, by simp [State.proceed, clear],
        by simp [State.proceed]⟩
      intro entry hentry hleft
      have hleft : entry.2 ∉ registry.state.exited ++ [child] := hleft
      rw [List.mem_append, not_or] at hleft
      rcases hrunning entry hentry hleft.1 with hlisted | hdropped
      · rw [hloaded, List.mem_append, List.mem_singleton] at hlisted
        rcases hlisted with hold | rfl
        · exact absurd (hearlier entry hold) hleft.1
        · exact absurd (List.mem_singleton_self child) hleft.2
      · exact .inr (.inl hdropped)
  | cons following rest =>
      obtain ⟨followingMode, followingChild⟩ := following
      obtain rfl := Option.some.inj hstep
      have hloaded' : registry.state.cache.loaded =
          (earlier ++ [(mode, child)]) ++ (followingMode, followingChild) :: rest := by
        simp [hloaded]
      have hsoFar := Section.unloadedSoFar_evictingAll hloaded evicted
      have hsoFar' := Section.unloadedSoFar_evictingAll hloaded' evicted
      refine ⟨hregistry.fresh, hexitedFresh, by simp [State.proceed, Section.takenOff],
        hregistry.children, hregistry.modes, hregistry.listed, ?_, ?_, ?_⟩
      · intro entry hentry hleft
        have hleft : entry.2 ∉ registry.state.exited ++ [child] := hleft
        rw [List.mem_append, not_or] at hleft
        rcases hrunning entry hentry hleft.1 with hlisted | hdropped
        · exact .inl hlisted
        · exact .inr (.inl hdropped)
      · intro entry hentry hleft
        have hleft : entry.2 ∈ registry.state.exited ++ [child] := hleft
        show _ ∨ entry.2 ∈ Section.unloadedSoFar registry.state.cache.loaded
          (.evictingAll followingChild rest evicted)
        rw [hsoFar', List.map_append, List.mem_append]
        rw [List.mem_append, List.mem_singleton] at hleft
        rcases hleft with hleft | hchild
        · have hold := hregistry.gone entry hentry hleft
          rw [hlock, Option.elim_some, hsoFar] at hold
          exact hold.imp_right .inl
        · exact .inr (.inr (by simp [hchild]))
      · intro part hpart
        obtain rfl := Option.some.inj hpart
        refine ⟨_, followingMode, hloaded', ?_⟩
        intro entry hentry
        show entry.2 ∈ registry.state.exited ++ [child]
        rw [List.mem_append, List.mem_singleton]
        rcases List.mem_append.mp hentry with hold | hlast
        · exact .inl (hearlier entry hold)
        · rw [List.mem_singleton.mp hlast]
          exact .inr rfl

theorem stopped (hregistry : Registered registry) {mode : Mode} {child : Nat}
    (hlock : registry.state.lock = some (.stopping mode child)) {reading : Option VramStats}
    {next : State Mode}
    (hstep : registry.state.unloaderReturns config reading (.stopping mode child) = some next) :
    Registered { registry with state := next } := by
  have hoff : ∀ entry ∈ registry.state.cache.loaded, entry.2 ≠ child := hregistry.stands _ hlock
  have htaken : child < registry.state.nextChild :=
    hregistry.takenFresh child (by simp [hlock, Section.takenOff])
  obtain rfl := Option.some.inj hstep
  refine ⟨hregistry.fresh, ?_, by simp [State.proceed], hregistry.children, hregistry.modes,
    hregistry.listed, ?_, ?_, by simp [State.proceed]⟩
  · intro other hother
    rcases List.mem_append.mp hother with hother | hother
    · exact hregistry.exitedFresh other hother
    · rw [List.mem_singleton.mp hother]
      exact htaken
  · intro entry hentry hleft
    have hleft : entry.2 ∉ registry.state.exited ++ [child] := hleft
    rw [List.mem_append, not_or, List.mem_singleton] at hleft
    rcases hregistry.running entry hentry hleft.1 with hlisted | hdropped | htakenOff
    · exact .inl hlisted
    · exact .inr (.inl hdropped)
    · rw [hlock] at htakenOff
      exact absurd (List.mem_singleton.mp htakenOff) hleft.2
  · intro entry hentry hleft
    have hleft : entry.2 ∈ registry.state.exited ++ [child] := hleft
    rw [List.mem_append, List.mem_singleton] at hleft
    have hold := hregistry.gone entry hentry (hleft.resolve_right (hoff entry hentry))
    rw [hlock] at hold
    exact .inl (hold.resolve_right (by simp [Section.unloadedSoFar]))

theorem unloaderReturns (hregistry : Registered registry) {part : Section Mode}
    (hlock : registry.state.lock = some part) {reading : Option VramStats} {next : State Mode}
    (hstep : registry.state.unloaderReturns config reading part = some next) :
    Registered { registry with state := next } := by
  have hstands := hregistry.stands part hlock
  cases part with
  | loading => simp [State.unloaderReturns] at hstep
  | evictingToFit mode incomingGb victim child rest runningGb evicted =>
      simp only [State.unloaderReturns] at hstep
      split at hstep
      · obtain rfl := Option.some.inj hstep
        exact hregistry.unloaded hstands (by simp [hlock, Section.takenOff])
          (by simp [hlock, Section.unloadedSoFar]) rfl rfl rfl
          (by simp [State.endLoad, State.proceed])
      · rename_i part hnext
        have hstarts := evictNext_starts hnext
        obtain rfl := Option.some.inj hstep
        refine hregistry.unloaded hstands (by simp [hlock, Section.takenOff])
          (by simp [hlock, Section.unloadedSoFar]) rfl rfl rfl ?_
        intro other hother
        obtain rfl := Option.some.inj hother
        exact hstarts
  | evicting mode child =>
      obtain rfl := Option.some.inj hstep
      exact hregistry.unloaded hstands (by simp [hlock, Section.takenOff])
        (by simp [hlock, Section.unloadedSoFar]) rfl rfl rfl (by simp [State.proceed])
  | evictingAll => exact hregistry.evictingAll hlock hstep
  | stopping => exact hregistry.stopped hlock hstep

omit [DecidableEq Mode] in
theorem loaderReturns (hregistry : Registered registry) {mode : Mode} {evicted : List Mode}
    (hlock : registry.state.lock = some (.loading mode evicted))
    (habsent : mode ∉ loadedModes registry.state.cache) {next : State Mode}
    (hloaded : next.cache.loaded =
      registry.state.cache.loaded ++ [(mode, registry.state.nextChild)])
    (hnextChild : next.nextChild = registry.state.nextChild + 1)
    (hexited : next.exited = registry.state.exited) (hend : next.lock = none) :
    Registered
      { registry with
        state := next
        started := registry.started ++ [(mode, registry.state.nextChild)] } := by
  have hlistedFresh : ∀ entry ∈ registry.state.cache.loaded,
      entry.2 < registry.state.nextChild :=
    fun entry hentry => hregistry.fresh entry (hregistry.listed entry hentry)
  refine ⟨?_, ?_, by simp [hend], ?_, ?_, ?_, ?_, ?_, by simp [hend]⟩
  · intro entry hentry
    show entry.2 < next.nextChild
    rw [hnextChild]
    rcases List.mem_append.mp hentry with hold | hnew
    · exact Nat.lt_succ_of_lt (hregistry.fresh entry hold)
    · rw [List.mem_singleton.mp hnew]
      exact Nat.lt_succ_self _
  · intro child hchild
    rw [show next.nextChild = _ from hnextChild]
    exact Nat.lt_succ_of_lt (hregistry.exitedFresh child (hexited ▸ hchild))
  · rw [show next.cache.loaded = _ from hloaded, List.map_append, List.nodup_append]
    refine ⟨hregistry.children, by simp, ?_⟩
    intro child hchild other hother
    obtain ⟨entry, hentry, rfl⟩ := List.mem_map.mp hchild
    obtain rfl : other = registry.state.nextChild := by simpa using hother
    exact (hlistedFresh entry hentry).ne
  · rw [show next.cache.loaded = _ from hloaded, List.map_append, List.nodup_append]
    refine ⟨hregistry.modes, by simp, ?_⟩
    intro other hother new hnew
    obtain rfl : new = mode := by simpa using hnew
    rintro rfl
    exact habsent hother
  · intro entry hentry
    rw [show next.cache.loaded = _ from hloaded] at hentry
    rcases List.mem_append.mp hentry with hold | hnew
    · exact List.mem_append_left _ (hregistry.listed entry hold)
    · exact List.mem_append_right _ hnew
  · intro entry hentry hleft
    rw [show next.cache.loaded = _ from hloaded]
    rw [show next.exited = _ from hexited] at hleft
    rcases List.mem_append.mp hentry with hold | hnew
    · have hrunning := hregistry.running entry hold hleft
      rw [hlock] at hrunning
      rcases hrunning with hlisted | hdropped | htaken
      · exact .inl (List.mem_append_left _ hlisted)
      · exact .inr (.inl hdropped)
      · simp [Section.takenOff] at htaken
    · exact .inl (List.mem_append_right _ hnew)
  · intro entry hentry hleft
    rw [show next.cache.loaded = _ from hloaded] at hentry
    rw [show next.exited = _ from hexited] at hleft
    rcases List.mem_append.mp hentry with hold | hnew
    · have hgone := hregistry.gone entry hold hleft
      rw [hlock] at hgone
      exact .inl (hgone.resolve_right (by simp [Section.unloadedSoFar]))
    · have hfresh := hregistry.exitedFresh _ hleft
      rw [List.mem_singleton.mp hnew] at hfresh
      exact absurd hfresh (lt_irrefl _)

omit [DecidableEq Mode] in
theorem noted_nothing (hregistry : Registered registry) :
    Registered
      { registry with
        started := registry.started ++ []
        dropped := registry.dropped ++ []
        leftListed := registry.leftListed ++ [] } := by
  simpa using hregistry

theorem takeUse_call (hregistry : Registered registry) (hlock : registry.state.lock = none)
    (mode : Mode) : Registered { registry with
      state := (registry.state.takeUse mode).call (acquireForUse registry.state.cache mode) } := by
  refine hregistry.call hlock ?_ ?_ (acquireForUse_leaves _ mode)
  · rw [State.takeUse]
    split
    · rfl
    · rfl
  · rw [State.takeUse]
    split
    · rfl
    · rfl

theorem giveBack_call (hregistry : Registered registry) (hlock : registry.state.lock = none)
    (mode : Mode) {result : Cache Mode × Progress Mode}
    (hresult : CallLeaves registry.state.cache.loaded result) :
    Registered { registry with state := (registry.state.giveBack mode).call result } := by
  refine hregistry.call hlock ?_ ?_ hresult
  · rw [State.giveBack]
    dsimp only
    split_ifs
    · rfl
    · rfl
  · rw [State.giveBack]
    dsimp only
    split_ifs
    · rfl
    · rfl

theorem act (hregistry : Registered registry) (hfits : WithinBudget config registry.state)
    {action : Action Mode} {next : Registry Mode}
    (hstep : registry.act config action = some next) : Registered next := by
  obtain ⟨state, hstate, rfl⟩ := Option.map_eq_some_iff.mp hstep
  cases action with
  | load mode reading =>
      simp only [State.act] at hstate
      split_ifs at hstate with hsize hlock
      · obtain rfl := Option.some.inj hstate
        have hanswered : Registered { registry with
            state := { registry.state with answer := some (.error (.unknownMode mode)) } } :=
          ⟨hregistry.fresh, hregistry.exitedFresh, hregistry.takenFresh, hregistry.children,
            hregistry.modes, hregistry.listed, hregistry.running, hregistry.gone,
            hregistry.stands⟩
        exact noted_nothing hanswered
      · obtain rfl := Option.some.inj hstate
        exact noted_nothing (hregistry.call (by simpa using hlock) rfl rfl
          (load_leaves config _ mode reading))
  | evict mode =>
      simp only [State.act, Option.ite_none_left_eq_some, Option.some.injEq] at hstate
      obtain ⟨hlock, rfl⟩ := hstate
      exact noted_nothing (hregistry.call (by simpa using hlock) rfl rfl (evict_leaves _ mode))
  | evictAll =>
      simp only [State.act, Option.ite_none_left_eq_some, Option.some.injEq] at hstate
      obtain ⟨hlock, rfl⟩ := hstate
      exact noted_nothing (hregistry.call (by simpa using hlock) rfl rfl (evictAll_leaves _))
  | pin mode =>
      simp only [State.act, Option.ite_none_left_eq_some, Option.some.injEq] at hstate
      obtain ⟨hlock, rfl⟩ := hstate
      exact noted_nothing (hregistry.call (by simpa using hlock) rfl rfl (pin_leaves _ mode))
  | unpin mode =>
      simp only [State.act, Option.ite_none_left_eq_some, Option.some.injEq] at hstate
      obtain ⟨hlock, rfl⟩ := hstate
      exact noted_nothing (hregistry.call (by simpa using hlock) rfl rfl
        (.finished (by exact List.Perm.refl _) _))
  | acquireForUse mode =>
      simp only [State.act, Option.ite_none_left_eq_some, Option.some.injEq] at hstate
      obtain ⟨hlock, rfl⟩ := hstate
      exact noted_nothing (hregistry.takeUse_call (by simpa using hlock) mode)
  | release mode =>
      simp only [State.act, Option.ite_none_left_eq_some, Option.some.injEq] at hstate
      obtain ⟨hlock, rfl⟩ := hstate
      exact noted_nothing (hregistry.giveBack_call (by simpa using hlock) mode
        (.finished (by exact List.Perm.refl _) _))
  | releaseAndStop mode =>
      simp only [State.act, Option.ite_none_left_eq_some, Option.some.injEq] at hstate
      obtain ⟨hlock, rfl⟩ := hstate
      exact noted_nothing (hregistry.giveBack_call (by simpa using hlock) mode
        (releaseAndStop_leaves _ mode))
  | loaderReturns =>
      simp only [State.act] at hstate
      split at hstate
      · rename_i mode evicted hlock
        obtain rfl := Option.some.inj hstate
        simp only [Registry.startedBy, hlock, Registry.droppedBy, Registry.leftListedBy,
          List.append_nil]
        exact hregistry.loaderReturns hlock (hfits.part _ hlock).1 rfl rfl rfl rfl
      · contradiction
  | loaderRaises =>
      simp only [State.act] at hstate
      split at hstate
      · rename_i mode evicted hlock
        obtain rfl := Option.some.inj hstate
        simp only [Registry.startedBy, List.append_nil]
        exact hregistry.endOf rfl rfl rfl rfl (by simp [hlock, Section.takenOff])
          (by simp [hlock, Section.unloadedSoFar])
      · contradiction
  | unloaderReturns reading =>
      obtain ⟨part, hlock, hreturns⟩ := Option.bind_eq_some_iff.mp hstate
      exact noted_nothing (hregistry.unloaderReturns hlock hreturns)
  | unloaderRaises =>
      obtain ⟨part, hlock, hraises⟩ := Option.bind_eq_some_iff.mp hstate
      obtain ⟨hfree, hloaded, hnextChild, hexited⟩ := State.unloaderRaises_kept hraises
      simp only [Registry.startedBy, List.append_nil]
      exact hregistry.endOf hfree hloaded hnextChild hexited (fun _ hchild => hchild)
        (fun _ hchild => hchild)

end Registered

theorem registered_invariant (config : Config Mode) :
    (registrySystem config).Invariant fun registry =>
      WithinBudget config registry.state ∧ Registered registry where
  initial := by
    rintro _ rfl
    refine ⟨⟨TableFits.empty config, by simp [emptyRegistry, emptyState]⟩, ?_⟩
    constructor
    case children => exact List.nodup_nil
    case modes => exact List.nodup_nil
    all_goals simp [emptyRegistry, emptyState]
  step := by
    rintro registry action next ⟨hfits, hregistry⟩ hstep
    refine ⟨?_, hregistry.act hfits hstep⟩
    obtain ⟨state, hstate, rfl⟩ := Option.map_eq_some_iff.mp hstep
    exact hfits.act hstate

/-- Between two calls a listed mode whose child was unloaded is one that a
failed `evict_all` left, and a child that runs and is not listed is one that a
failed `release_and_stop` dropped. -/
theorem table_matches_children (config : Config Mode) {registry : Registry Mode}
    (hreach : (registrySystem config).Reachable registry)
    (hlock : registry.state.lock = none) :
    (∀ entry ∈ registry.state.cache.loaded, entry.2 ∈ registry.state.exited →
      entry.2 ∈ registry.leftListed) ∧
    ∀ entry ∈ registry.started, entry.2 ∉ registry.state.exited →
      entry ∈ registry.state.cache.loaded ∨ entry.2 ∈ registry.dropped := by
  obtain ⟨-, hregistry⟩ := (registered_invariant config).of_reachable hreach
  constructor
  · intro entry hentry hleft
    have hgone := hregistry.gone entry hentry hleft
    rw [hlock] at hgone
    exact hgone.resolve_right (by simp)
  · intro entry hentry hleft
    have hrunning := hregistry.running entry hentry hleft
    rw [hlock] at hrunning
    exact hrunning.imp_right fun hdropped => hdropped.resolve_right (by simp)

/-- `sft` is evicted for `xl-turbo`, whose loader then fails. -/
def failedSwap : Registry String :=
  TransitionSystem.lastOf (emptyRegistry String)
    (TransitionSystem.follow (Registry.act defaultConfig) (emptyRegistry String)
      [.load "sft" none, .loaderReturns, .load "xl-turbo" none, .unloaderReturns none,
        .loaderRaises])

theorem table_matches_children_after_failed_swap :
    failedSwap.state.exited = [0] ∧ failedSwap.started = [("sft", 0)] ∧
      ∀ entry ∈ failedSwap.state.cache.loaded, entry.2 ∈ failedSwap.state.exited →
        entry.2 ∈ failedSwap.leftListed := by
  have hstart : (registrySystem defaultConfig).Reachable (emptyRegistry String) := .initial rfl
  have hreach : (registrySystem defaultConfig).Reachable failedSwap :=
    TransitionSystem.reachable_follow hstart _
  have hmatches := table_matches_children defaultConfig hreach (by decide +kernel)
  exact ⟨by decide +kernel, by decide +kernel, hmatches.1⟩

/-- Two small modes fit together. -/
def smallConfig : Config String where
  sizes := fun _ => some 1
  budgetGb := 24
  sizes_nonneg := by
    rintro _ size hsize
    obtain rfl := Option.some.inj hsize
    norm_num
  budget_nonneg := defaultBudget_nonneg

/-- `evict_all` fails at its second child, and `release_and_stop` at its only one. -/
theorem table_parts_from_children :
    (∃ registry, (registrySystem smallConfig).Reachable registry ∧ registry.state.lock = none ∧
      ("turbo", 0) ∈ registry.state.cache.loaded ∧ 0 ∈ registry.state.exited) ∧
    ∃ registry, (registrySystem smallConfig).Reachable registry ∧ registry.state.lock = none ∧
      ("turbo", 0) ∈ registry.started ∧ 0 ∉ registry.state.exited ∧
      ("turbo", 0) ∉ registry.state.cache.loaded := by
  have hstart : (registrySystem smallConfig).Reachable (emptyRegistry String) := .initial rfl
  constructor
  · refine ⟨_, TransitionSystem.reachable_follow hstart
      [.load "turbo" none, .loaderReturns, .load "sft" none, .loaderReturns, .evictAll,
        .unloaderReturns none, .unloaderRaises], ?_⟩
    exact ⟨by decide +kernel, by decide +kernel, by decide +kernel⟩
  · refine ⟨_, TransitionSystem.reachable_follow hstart
      [.load "turbo" none, .loaderReturns, .acquireForUse "turbo", .releaseAndStop "turbo",
        .unloaderRaises], ?_⟩
    exact ⟨by decide +kernel, by decide +kernel, by decide +kernel, by decide +kernel⟩

end Songmaker.Worker.ModelCache
