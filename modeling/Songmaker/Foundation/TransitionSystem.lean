import Mathlib.Logic.Relation
import Mathlib.Data.List.Basic

namespace Songmaker.Foundation

universe u v

/-- A labelled transition system. `step s a t` holds when action `a` can take
the state `s` to the state `t`. -/
structure TransitionSystem (State : Type u) (Action : Type v) where
  initial : State → Prop
  step : State → Action → State → Prop

namespace TransitionSystem

variable {State : Type u} {Action : Type v} {M : TransitionSystem State Action}

/-- The states that some finite run from an initial state ends in. -/
inductive Reachable (M : TransitionSystem State Action) : State → Prop
  | initial {s : State} (h : M.initial s) : Reachable M s
  | step {s t : State} {a : Action} (h : Reachable M s) (hstep : M.step s a t) :
      Reachable M t

/-- A predicate that holds initially and that every step preserves. -/
structure Invariant (M : TransitionSystem State Action) (I : State → Prop) : Prop where
  initial : ∀ s, M.initial s → I s
  step : ∀ s a t, I s → M.step s a t → I t

theorem Invariant.of_reachable {I : State → Prop} (hI : M.Invariant I) {s : State}
    (hs : M.Reachable s) : I s := by
  induction hs with
  | initial h => exact hI.initial _ h
  | step _ hstep ih => exact hI.step _ _ _ ih hstep

/-- The steps of `M` that are taken from a state and by an action that meet `ok`. -/
def restrict (M : TransitionSystem State Action) (ok : State → Action → Prop) :
    TransitionSystem State Action where
  initial := M.initial
  step s a t := ok s a ∧ M.step s a t

theorem Reachable.of_restrict {ok : State → Action → Prop} {s : State}
    (hs : (M.restrict ok).Reachable s) : M.Reachable s := by
  induction hs with
  | initial h => exact .initial h
  | step _ hstep ih => exact ih.step hstep.2

/-- `t` is a later state of some run through `s`. -/
def Reaches (M : TransitionSystem State Action) : State → State → Prop :=
  Relation.ReflTransGen fun s t => ∃ a, M.step s a t

theorem Reachable.trans {s t : State} (hs : M.Reachable s) (hst : M.Reaches s t) :
    M.Reachable t := by
  induction hst with
  | refl => exact hs
  | tail _ hstep ih =>
      obtain ⟨_, hstep⟩ := hstep
      exact ih.step hstep

/-- A relation between a state and a later one that holds across every step of
a reachable state holds across every run. -/
theorem Reaches.of_step {R : State → State → Prop} (hrefl : ∀ s, R s s)
    (htrans : ∀ s t u, R s t → R t u → R s u)
    (hstep : ∀ s a t, M.Reachable s → M.step s a t → R s t)
    {s t : State} (hs : M.Reachable s) (hst : M.Reaches s t) : R s t := by
  induction hst with
  | refl => exact hrefl _
  | tail hprefix hlast ih =>
      obtain ⟨a, hlast⟩ := hlast
      exact htrans _ _ _ ih (hstep _ a _ (hs.trans hprefix) hlast)

/-- A run from `s`, written as its actions, each with the state it leads to. -/
def IsRun (M : TransitionSystem State Action) : State → List (Action × State) → Prop
  | _, [] => True
  | s, (a, t) :: rest => M.step s a t ∧ M.IsRun t rest

/-- The states of a run, the one it starts in included. -/
def visited (s : State) (run : List (Action × State)) : List State :=
  s :: run.map Prod.snd

/-- Every step of the run is taken from a state and by an action that meet `ok`. -/
def StepsMeet (ok : State → Action → Prop) : State → List (Action × State) → Prop
  | _, [] => True
  | s, (a, t) :: rest => ok s a ∧ StepsMeet ok t rest

@[simp] theorem isRun_nil (s : State) : M.IsRun s [] := trivial

@[simp] theorem isRun_cons (s t : State) (a : Action) (rest : List (Action × State)) :
    M.IsRun s ((a, t) :: rest) ↔ M.step s a t ∧ M.IsRun t rest := Iff.rfl

@[simp] theorem stepsMeet_nil (ok : State → Action → Prop) (s : State) :
    StepsMeet ok s [] := trivial

@[simp] theorem stepsMeet_cons (ok : State → Action → Prop) (s t : State) (a : Action)
    (rest : List (Action × State)) :
    StepsMeet ok s ((a, t) :: rest) ↔ ok s a ∧ StepsMeet ok t rest := Iff.rfl

theorem visited_cons (s t : State) (a : Action) (rest : List (Action × State)) :
    visited s ((a, t) :: rest) = s :: visited t rest := rfl

theorem reachable_of_mem_visited {s t : State} {run : List (Action × State)}
    (hs : M.Reachable s) (hrun : M.IsRun s run) (ht : t ∈ visited s run) :
    M.Reachable t := by
  induction run generalizing s with
  | nil =>
      have hts : t = s := by simpa [visited] using ht
      exact hts ▸ hs
  | cons edge rest ih =>
      obtain ⟨a, u⟩ := edge
      rw [visited_cons] at ht
      rcases List.mem_cons.mp ht with rfl | ht
      · exact hs
      · exact ih (hs.step hrun.1) hrun.2 ht

/-- What the steps that meet `ok` keep holds in every state of a run of such steps. -/
theorem forall_visited_of_stepsMeet {I : State → Prop} {ok : State → Action → Prop}
    (hkeeps : ∀ s a t, I s → M.step s a t → ok s a → I t) {s : State}
    {run : List (Action × State)} (hs : I s) (hrun : M.IsRun s run) (hmeet : StepsMeet ok s run) :
    ∀ t ∈ visited s run, I t := by
  induction run generalizing s with
  | nil =>
      intro t ht
      obtain rfl : t = s := by simpa [visited] using ht
      exact hs
  | cons edge rest ih =>
      rw [visited_cons, List.forall_mem_cons]
      exact ⟨hs, ih (hkeeps _ _ _ hs hrun.1 hmeet.1) hrun.2 hmeet.2⟩

/-- When the steps that meet `ok` keep the invariant `I` behind a property and
any other step breaks the property at once, the property holds along a run
exactly when all its steps meet `ok`. -/
theorem forall_visited_iff_stepsMeet {I Safe : State → Prop} {ok : State → Action → Prop}
    (hsafe : ∀ s, I s → Safe s)
    (hkeeps : ∀ s a t, I s → M.step s a t → ok s a → I t)
    (hbreaks : ∀ s a t, I s → M.step s a t → ¬ ok s a → ¬ Safe t)
    {s : State} {run : List (Action × State)} (hs : I s) (hrun : M.IsRun s run) :
    (∀ t ∈ visited s run, Safe t) ↔ StepsMeet ok s run := by
  induction run generalizing s with
  | nil => simpa [visited] using hsafe s hs
  | cons edge rest ih =>
      obtain ⟨a, u⟩ := edge
      obtain ⟨hstep, hrest⟩ := hrun
      have hu : u ∈ visited u rest := by simp [visited]
      rw [visited_cons, stepsMeet_cons, List.forall_mem_cons]
      constructor
      · rintro ⟨-, hall⟩
        have hok : ok s a := by
          by_contra hbad
          exact hbreaks s a u hs hstep hbad (hall u hu)
        exact ⟨hok, (ih (hkeeps s a u hs hstep hok) hrest).mp hall⟩
      · rintro ⟨hok, hmeet⟩
        exact ⟨hsafe s hs, (ih (hkeeps s a u hs hstep hok) hrest).mpr hmeet⟩

/-- The system whose steps are the results of a partial function. -/
def ofAct (initial : State → Prop) (act : State → Action → Option State) :
    TransitionSystem State Action where
  initial := initial
  step s a t := act s a = some t

/-- The run that a list of actions takes, up to the first action that cannot be taken. -/
def follow (act : State → Action → Option State) : State → List Action → List (Action × State)
  | _, [] => []
  | s, a :: rest =>
      match act s a with
      | none => []
      | some t => (a, t) :: follow act t rest

theorem isRun_follow (initial : State → Prop) (act : State → Action → Option State)
    (s : State) (actions : List Action) :
    (ofAct initial act).IsRun s (follow act s actions) := by
  induction actions generalizing s with
  | nil => trivial
  | cons a rest ih =>
      cases hact : act s a with
      | none => simp [follow, hact]
      | some t => simpa [follow, hact] using ⟨hact, ih t⟩

/-- The state a run ends in. -/
def lastOf (s : State) : List (Action × State) → State
  | [] => s
  | (_, t) :: rest => lastOf t rest

theorem lastOf_mem_visited (s : State) (run : List (Action × State)) :
    lastOf s run ∈ visited s run := by
  induction run generalizing s with
  | nil => exact List.mem_cons_self
  | cons edge rest ih => exact List.mem_cons_of_mem s (ih edge.2)

theorem reaches_lastOf {s : State} {run : List (Action × State)} (hrun : M.IsRun s run) :
    M.Reaches s (lastOf s run) := by
  induction run generalizing s with
  | nil => exact .refl
  | cons edge rest ih => exact .head ⟨edge.1, hrun.1⟩ (ih hrun.2)

theorem reachable_lastOf {s : State} {run : List (Action × State)} (hs : M.Reachable s)
    (hrun : M.IsRun s run) : M.Reachable (lastOf s run) := by
  induction run generalizing s with
  | nil => exact hs
  | cons edge rest ih => exact ih (hs.step hrun.1) hrun.2

theorem isRun_middle {s t : State} {a : Action} {earlier later : List (Action × State)}
    (hrun : M.IsRun s (earlier ++ (a, t) :: later)) :
    M.step (lastOf s earlier) a t ∧ M.IsRun t later := by
  induction earlier generalizing s with
  | nil => exact hrun
  | cons edge earlier ih => exact ih hrun.2

theorem isRun_concat {s t : State} {run : List (Action × State)} {a : Action}
    (hrun : M.IsRun s run) (hstep : M.step (lastOf s run) a t) : M.IsRun s (run ++ [(a, t)]) := by
  induction run generalizing s with
  | nil => exact ⟨hstep, trivial⟩
  | cons edge rest ih => exact ⟨hrun.1, ih hrun.2 hstep⟩

theorem isRun_first {s : State} {earlier later : List (Action × State)}
    (hrun : M.IsRun s (earlier ++ later)) : M.IsRun s earlier := by
  induction earlier generalizing s with
  | nil => trivial
  | cons edge earlier ih => exact ⟨hrun.1, ih hrun.2⟩

theorem reaches_of_mem_visited {s t : State} {run : List (Action × State)}
    (hrun : M.IsRun s run) (ht : t ∈ visited s run) : M.Reaches s t := by
  induction run generalizing s with
  | nil =>
      obtain rfl : t = s := by simpa [visited] using ht
      exact .refl
  | cons edge rest ih =>
      rcases List.mem_cons.mp ht with rfl | ht
      · exact .refl
      · exact .head ⟨edge.1, hrun.1⟩ (ih hrun.2 ht)

instance decidableStepsMeet {ok : State → Action → Prop} [∀ s a, Decidable (ok s a)] :
    (s : State) → (run : List (Action × State)) → Decidable (StepsMeet ok s run)
  | _, [] => .isTrue trivial
  | s, (a, t) :: rest =>
      have _hrest : Decidable (StepsMeet ok t rest) := decidableStepsMeet t rest
      inferInstanceAs (Decidable (ok s a ∧ StepsMeet ok t rest))

theorem StepsMeet.mono {ok other : State → Action → Prop} (hok : ∀ s a, ok s a → other s a)
    {s : State} {run : List (Action × State)} (hmeet : StepsMeet ok s run) :
    StepsMeet other s run := by
  induction run generalizing s with
  | nil => trivial
  | cons edge rest ih => exact ⟨hok _ _ hmeet.1, ih hmeet.2⟩

theorem isRun_restrict {ok : State → Action → Prop} {s : State} {run : List (Action × State)}
    (hrun : M.IsRun s run) (hmeet : StepsMeet ok s run) : (M.restrict ok).IsRun s run := by
  induction run generalizing s with
  | nil => trivial
  | cons edge rest ih => exact ⟨⟨hmeet.1, hrun.1⟩, ih hrun.2 hmeet.2⟩

theorem stepsMeet_follow {act : State → Action → Option State} {ok : State → Action → Prop}
    {actions : List Action} (hok : ∀ s, ∀ a ∈ actions, ok s a) (s : State) :
    StepsMeet ok s (follow act s actions) := by
  induction actions generalizing s with
  | nil => trivial
  | cons a rest ih =>
      have hrest : ∀ s, ∀ b ∈ rest, ok s b := fun s b hb => hok s b (List.mem_cons_of_mem a hb)
      cases hact : act s a with
      | none => simp [follow, hact]
      | some t => simpa [follow, hact] using ⟨hok s a List.mem_cons_self, ih hrest t⟩

theorem reachable_follow {initial : State → Prop} {act : State → Action → Option State}
    {s : State} (hs : (ofAct initial act).Reachable s) (actions : List Action) :
    (ofAct initial act).Reachable (lastOf s (follow act s actions)) :=
  reachable_lastOf hs (isRun_follow initial act s actions)

end TransitionSystem

end Songmaker.Foundation
