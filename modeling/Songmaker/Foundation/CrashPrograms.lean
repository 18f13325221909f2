import Mathlib.Logic.Function.Basic
import Mathlib.Logic.Relation

/-!
Programs of atomic steps whose process may die between any two of them, or
inside one. A program survives a crash invariant when the invariant holds of
every state in which it may die or raise.
-/

namespace Songmaker.Foundation

/-- A step: its result and the state after it, and the states that a process
dying inside the step may leave behind. -/
structure Atomic (σ β : Type) where
  run : σ → β × σ
  torn : σ → σ → Prop

namespace Atomic

variable {σ β : Type}

/-- An action that changes nothing. -/
def read (f : σ → β) : Atomic σ β where
  run s := (f s, s)
  torn _ _ := False

/-- An action that a crash cannot tear. -/
def update (f : σ → β × σ) : Atomic σ β where
  run := f
  torn _ _ := False

/-- A step on a part of the state. -/
def through {τ : Type} (get : τ → σ) (set : τ → σ → τ) (action : Atomic σ β) : Atomic τ β where
  run t := ((action.run (get t)).1, set t (action.run (get t)).2)
  torn t t' := ∃ s, action.torn (get t) s ∧ t' = set t s

end Atomic

/-- A program of atomic actions, each of which may be the last before a crash. -/
inductive Program (σ α : Type) : Type 1 where
  | pure (result : α)
  | raise (error : String)
  | step {β : Type} (action : Atomic σ β) (rest : β → Program σ α)

/-- How a run ends. -/
inductive Outcome (α : Type) where
  | returned (result : α)
  | raised (error : String)
  | died
deriving DecidableEq

namespace Program

variable {σ α β : Type}

/-- The second program goes on with the result of the first. -/
def bind (program : Program σ α) (next : α → Program σ β) : Program σ β :=
  match program with
  | .pure result => next result
  | .raise error => .raise error
  | .step action rest => .step action fun result => (rest result).bind next

instance : Monad (Program σ) where
  pure := .pure
  bind := .bind

/-- One step on its own. -/
def call (action : Atomic σ α) : Program σ α :=
  .step action .pure

/-- `try` with a handler that only notes the failure. -/
def attempt : Program σ α → Program σ (Option α)
  | .pure result => .pure (some result)
  | .raise _ => .pure none
  | .step action rest => .step action fun result => (rest result).attempt

/-- A program on one member of a family. -/
def within {ι : Type} [DecidableEq ι] (i : ι) : Program σ α → Program (ι → σ) α
  | .pure result => .pure result
  | .raise error => .raise error
  | .step action rest =>
      .step (action.through (fun s => s i) fun s t => Function.update s i t) fun result =>
        (rest result).within i

/-- What an undisturbed run makes of a state. -/
def run : Program σ α → σ → Outcome α × σ
  | .pure result, s => (.returned result, s)
  | .raise error, s => (.raised error, s)
  | .step action rest, s => (rest (action.run s).1).run (action.run s).2

/-- The state in which a process that dies after some steps leaves the system. -/
def crashAfter : Nat → Program σ α → σ → σ
  | steps + 1, .step action rest, s => crashAfter steps (rest (action.run s).1) (action.run s).2
  | _, _, s => s

/-- How a program started in a state may end, and in which state. -/
inductive Ends : Program σ α → σ → Outcome α → σ → Prop where
  | pure (result : α) (s : σ) : Ends (.pure result) s (.returned result) s
  | raise (error : String) (s : σ) : Ends (.raise error) s (.raised error) s
  | died (program : Program σ α) (s : σ) : Ends program s .died s
  | torn {β : Type} {action : Atomic σ β} {rest : β → Program σ α} {s t : σ}
      (htorn : action.torn s t) : Ends (.step action rest) s .died t
  | step {β : Type} {action : Atomic σ β} {rest : β → Program σ α} {s t : σ}
      {outcome : Outcome α} (hrest : Ends (rest (action.run s).1) (action.run s).2 outcome t) :
      Ends (.step action rest) s outcome t

theorem ends_run (program : Program σ α) (s : σ) :
    Ends program s (program.run s).1 (program.run s).2 := by
  induction program generalizing s with
  | pure result => exact .pure result s
  | raise error => exact .raise error s
  | step action rest ih => exact .step (ih _ _)

theorem ends_crashAfter (steps : Nat) (program : Program σ α) (s : σ) :
    Ends program s .died (crashAfter steps program s) := by
  induction steps generalizing program s with
  | zero =>
      rw [crashAfter]
      · exact .died program s
      · rintro _ _ _ _ ⟨⟩
  | succ steps ih =>
      cases program with
      | pure result => exact .died _ s
      | raise error => exact .died _ s
      | step action rest => exact .step (ih _ _)

/-- The crash invariant holds wherever the program may end, and the
postcondition where it returns. -/
def Survives (invariant : σ → Prop) : Program σ α → (α → σ → Prop) → σ → Prop
  | .pure result, post, s => invariant s ∧ post result s
  | .raise _, _, s => invariant s
  | .step action rest, post, s =>
      invariant s ∧ (∀ t, action.torn s t → invariant t) ∧
        (rest (action.run s).1).Survives invariant post (action.run s).2

section Rules

variable {invariant : σ → Prop} {post : α → σ → Prop} {s t : σ}

theorem Survives.start {program : Program σ α} (h : program.Survives invariant post s) :
    invariant s := by
  cases program with
  | pure result => exact h.1
  | raise error => exact h
  | step action rest => exact h.1

theorem Survives.ends {program : Program σ α} {outcome : Outcome α}
    (h : program.Survives invariant post s) (hends : Ends program s outcome t) :
    invariant t ∧ ∀ result, outcome = .returned result → post result t := by
  induction hends with
  | pure result s =>
      refine ⟨h.1, ?_⟩
      rintro other ⟨⟩
      exact h.2
  | raise error s => exact ⟨h, by rintro result ⟨⟩⟩
  | died program s => exact ⟨h.start, by rintro result ⟨⟩⟩
  | torn htorn => exact ⟨h.2.1 _ htorn, by rintro result ⟨⟩⟩
  | step hrest ih => exact ih h.2.2

theorem Survives.mono {program : Program σ α} {post' : α → σ → Prop}
    (h : program.Survives invariant post s)
    (hpost : ∀ result t, invariant t → post result t → post' result t) :
    program.Survives invariant post' s := by
  induction program generalizing s with
  | pure result => exact ⟨h.1, hpost result s h.1 h.2⟩
  | raise error => exact h
  | step action rest ih => exact ⟨h.1, h.2.1, ih _ h.2.2⟩

@[simp] theorem survives_bind {program : Program σ α} {next : α → Program σ β}
    {post : β → σ → Prop} :
    (program >>= next).Survives invariant post s ↔
      program.Survives invariant (fun result => (next result).Survives invariant post) s := by
  induction program generalizing s with
  | pure result =>
      constructor
      · intro h
        exact ⟨h.start, h⟩
      · rintro ⟨-, h⟩
        exact h
  | raise error => exact Iff.rfl
  | step action rest ih => exact and_congr_right fun _ => and_congr_right fun _ => ih _

theorem Survives.attempt {program : Program σ α} {post : Option α → σ → Prop}
    (h : program.Survives invariant (fun result => post (some result)) s)
    (hraised : ∀ t, invariant t → post none t) :
    program.attempt.Survives invariant post s := by
  induction program generalizing s with
  | pure result => exact h
  | raise error => exact ⟨h, hraised s h⟩
  | step action rest ih => exact ⟨h.1, h.2.1, ih _ h.2.2⟩

@[simp] theorem survives_call (action : Atomic σ α) :
    (call action).Survives invariant post s ↔
      invariant s ∧ (∀ t, action.torn s t → invariant t) ∧ invariant (action.run s).2 ∧
        post (action.run s).1 (action.run s).2 :=
  Iff.rfl

theorem survives_within {ι : Type} [DecidableEq ι] {i : ι} {program : Program σ α} {s : ι → σ}
    (h : program.Survives invariant post (s i)) :
    (program.within i).Survives (fun s => invariant (s i)) (fun result s => post result (s i))
      s := by
  induction program generalizing s with
  | pure result => exact h
  | raise error => exact h
  | step action rest ih =>
      refine ⟨h.1, ?_, ?_⟩
      · rintro torn ⟨t, ht, rfl⟩
        simpa using h.2.1 t ht
      · apply ih
        simpa [Atomic.through] using h.2.2

theorem survives_within_of_ne {ι : Type} [DecidableEq ι] {i j : ι} (hne : j ≠ i)
    {program : Program σ α} {s : ι → σ} (hs : invariant (s j)) :
    (program.within i).Survives (fun s => invariant (s j)) (fun _ s => invariant (s j)) s := by
  induction program generalizing s with
  | pure result => exact ⟨hs, hs⟩
  | raise error => exact hs
  | step action rest ih =>
      refine ⟨hs, ?_, ?_⟩
      · rintro torn ⟨t, ht, rfl⟩
        simpa [hne] using hs
      · apply ih
        simpa [Atomic.through, hne] using hs

end Rules

end Program

end Songmaker.Foundation
