import Songmaker.Foundation.CrashPrograms

namespace Songmaker.Foundation

namespace Program

variable {σ α β : Type}

/-- `try` with a handler for whatever is raised. -/
def handle (handler : String → Program σ α) : Program σ α → Program σ α
  | .pure result => .pure result
  | .raise error => handler error
  | .step action rest => .step action fun result => (rest result).handle handler

/-- The run from a state ends as one of two postconditions demands, the first
where it returns and the second where it raises. -/
def Concludes : Program σ α → (α → σ → Prop) → (String → σ → Prop) → σ → Prop
  | .pure result, returned, _, s => returned result s
  | .raise error, _, raised, s => raised error s
  | .step action rest, returned, raised, s =>
      (rest (action.run s).1).Concludes returned raised (action.run s).2

section Rules

variable {returned : α → σ → Prop} {raised : String → σ → Prop} {s : σ}

theorem concludes_iff_run {program : Program σ α} :
    program.Concludes returned raised s ↔
      (∃ result, (program.run s).1 = .returned result ∧ returned result (program.run s).2) ∨
        ∃ error, (program.run s).1 = .raised error ∧ raised error (program.run s).2 := by
  induction program generalizing s with
  | pure result => simp [Concludes, run]
  | raise error => simp [Concludes, run]
  | step action rest ih => exact ih _

theorem Concludes.run {P : σ → Prop} {program : Program σ α}
    (h : program.Concludes (fun _ => P) (fun _ => P) s) : P (program.run s).2 := by
  rcases concludes_iff_run.mp h with ⟨result, -, hP⟩ | ⟨error, -, hP⟩
  · exact hP
  · exact hP

theorem Concludes.mono {program : Program σ α} {returned' : α → σ → Prop}
    {raised' : String → σ → Prop} (h : program.Concludes returned raised s)
    (hreturned : ∀ result t, returned result t → returned' result t)
    (hraised : ∀ error t, raised error t → raised' error t) :
    program.Concludes returned' raised' s := by
  induction program generalizing s with
  | pure result => exact hreturned result s h
  | raise error => exact hraised error s h
  | step action rest ih => exact ih _ h

@[simp] theorem concludes_bind {program : Program σ α} {next : α → Program σ β}
    {returned : β → σ → Prop} :
    (program >>= next).Concludes returned raised s ↔
      program.Concludes (fun result => (next result).Concludes returned raised) raised s := by
  induction program generalizing s with
  | pure result => exact Iff.rfl
  | raise error => exact Iff.rfl
  | step action rest ih => exact ih _

@[simp] theorem concludes_handle {program : Program σ α} {handler : String → Program σ α} :
    (program.handle handler).Concludes returned raised s ↔
      program.Concludes returned (fun error => (handler error).Concludes returned raised) s := by
  induction program generalizing s with
  | pure result => exact Iff.rfl
  | raise error => exact Iff.rfl
  | step action rest ih => exact ih _

@[simp] theorem concludes_pure (result : α) :
    (Pure.pure result : Program σ α).Concludes returned raised s ↔ returned result s :=
  Iff.rfl

@[simp] theorem concludes_call (action : Atomic σ α) :
    (call action).Concludes returned raised s ↔
      returned (action.run s).1 (action.run s).2 :=
  Iff.rfl

end Rules

end Program

end Songmaker.Foundation
