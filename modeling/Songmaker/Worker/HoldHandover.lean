import Mathlib.Data.Finset.Card
import Songmaker.Foundation.TransitionSystem
import Songmaker.Worker.GpuHoldKeys

namespace Songmaker.Worker.HoldHandover

open Songmaker.Foundation
open Songmaker.Foundation.TransitionSystem
open Songmaker.Worker.GpuHold

variable {Req Token : Type}

/-- `gpu_hold_handover_tokens` and `gpu_hold_handover_tasks`. -/
structure HandoverTable (Token : Type) where
  tokens : Finset Token
  tasks : Token → Option Nat

/-- Where one `train_lora` request stands: the await it is suspended at, with the
training task once it owns one. -/
inductive Phase where
  | acquiringModel
  | renewingHold
  | lockingHandover
  | matchingHold
  | creatingTask
  | setupCancellingRenewal
  | setupReleasingModel
  | setupLockingHandover
  | training (task : Nat)
  | cancellingTraining (task : Nat)
  | cancellingRenewal (task : Nat)
  | stoppingModel (task : Nat)
  | releasingHold (task : Nat)
  | lockingHandoverRelease (task : Nat)
  | ended
deriving DecidableEq

namespace Phase

/-- The training task of a request that has claimed its token and not yet
finished its cleanup. -/
def claimedTask : Phase → Option Nat
  | training task | cancellingTraining task | cancellingRenewal task
  | stoppingModel task | releasingHold task | lockingHandoverRelease task => some task
  | _ => none

/-- The two awaits of `_create_gpu_hold_handover_task` inside its lock. -/
def ownsLock : Phase → Bool
  | matchingHold | creatingTask => true
  | _ => false

end Phase

/-- Who holds `gpu_hold_handover_lock` across an await. -/
inductive LockOwner (Req Token : Type) where
  | trainLora (req : Req)
  | releaseHold (token : Token)
deriving DecidableEq

/-- The part of one worker that decides who owns a hold token. -/
structure WorkerDeps (Req Token : Type) where
  keys : WorkerKeys Token
  lock : Option (LockOwner Req Token)
  table : HandoverTable Token
  requests : Req → Option (Token × Phase)
  nextTask : Nat

/-- How an await ends: it returns, it raises (a cancellation included), or it
returns and the synchronous `spawn_background` that follows it raises. -/
inductive Outcome where
  | returns
  | raises
  | spawnFails
deriving DecidableEq

/-- The requests for the hold, their next steps, and the expiry of the key. -/
inductive Action (Req Token : Type) where
  | trainLora (req : Req) (token : Token)
  | resume (req : Req) (outcome : Outcome)
  | releaseHold (token : Token)
  | releaseHoldResumes (token : Token) (outcome : Outcome)
  | reserveHold (token : Token)
  | holdExpires

variable [DecidableEq Req] [DecidableEq Token]

namespace HandoverTable

/-- The hold of the token is handed over to a task. -/
def claim (table : HandoverTable Token) (token : Token) (task : Nat) : HandoverTable Token where
  tokens := insert token table.tokens
  tasks := Function.update table.tasks token (some task)

/-- `_release_gpu_hold_handover`, once it has the lock. -/
def release (table : HandoverTable Token) (token : Token) : HandoverTable Token where
  tokens := table.tokens.erase token
  tasks := Function.update table.tasks token none

end HandoverTable

/-- The answer of `hold_handover`: its `claimed` and `task_id`. -/
def holdHandover (worker : WorkerDeps Req Token) (token : Token) : Bool × Option Nat :=
  ((worker.table.tasks token).isSome, worker.table.tasks token)

/-- `release_hold` refuses: the hold is owned by a training task. -/
def releaseHoldRefused (worker : WorkerDeps Req Token) (token : Token) : Bool :=
  token ∈ worker.table.tokens

namespace WorkerDeps

def setPhase (worker : WorkerDeps Req Token) (req : Req) (token : Token) (phase : Phase) :
    WorkerDeps Req Token :=
  { worker with requests := Function.update worker.requests req (some (token, phase)) }

/-- The await a `train_lora` request is suspended at ends, and the request runs
on to its next one. -/
def resume (worker : WorkerDeps Req Token) (req : Req) (outcome : Outcome) :
    Option (WorkerDeps Req Token) :=
  match worker.requests req with
  | none => none
  | some (token, phase) =>
      let goto := worker.setPhase req token
      match phase, outcome with
      | .acquiringModel, .returns => some (goto .renewingHold)
      | .acquiringModel, _ => some (goto .setupLockingHandover)
      | .renewingHold, .returns =>
          if (renewGpuHold token worker.keys).1 then some (goto .lockingHandover)
          else some (goto .setupReleasingModel)
      | .renewingHold, _ => some (goto .setupReleasingModel)
      | .lockingHandover, .returns =>
          if worker.lock.isSome then none
          else if token ∈ worker.table.tokens then some (goto .setupCancellingRenewal)
          else some { goto .matchingHold with lock := some (.trainLora req) }
      | .lockingHandover, _ => some (goto .setupCancellingRenewal)
      | .matchingHold, .returns =>
          if gpuHoldMatches token worker.keys then some (goto .creatingTask)
          else some { goto .setupCancellingRenewal with lock := none }
      | .matchingHold, _ => some { goto .setupCancellingRenewal with lock := none }
      | .creatingTask, .returns =>
          some { goto (.training worker.nextTask) with
            lock := none
            table := worker.table.claim token worker.nextTask
            nextTask := worker.nextTask + 1 }
      | .creatingTask, .spawnFails =>
          some { goto (.cancellingRenewal worker.nextTask) with
            lock := none
            table := worker.table.claim token worker.nextTask
            nextTask := worker.nextTask + 1 }
      | .creatingTask, .raises => some { goto .setupCancellingRenewal with lock := none }
      | .setupCancellingRenewal, _ => some (goto .setupReleasingModel)
      | .setupReleasingModel, _ => some (goto .setupLockingHandover)
      | .setupLockingHandover, .returns =>
          if worker.lock.isSome then none
          else some { goto .ended with table := worker.table.release token }
      | .setupLockingHandover, _ => some (goto .ended)
      | .training task, _ => some (goto (.cancellingTraining task))
      | .cancellingTraining task, _ => some (goto (.cancellingRenewal task))
      | .cancellingRenewal task, _ => some (goto (.stoppingModel task))
      | .stoppingModel task, _ => some (goto (.releasingHold task))
      | .releasingHold task, .returns =>
          some { goto (.lockingHandoverRelease task) with
            keys := (releaseGpuHold token worker.keys).2 }
      | .releasingHold task, _ => some (goto (.lockingHandoverRelease task))
      | .lockingHandoverRelease _, .returns =>
          if worker.lock.isSome then none
          else some { goto .ended with table := worker.table.release token }
      | .lockingHandoverRelease _, _ => some (goto .ended)
      | .ended, _ => none

def act (worker : WorkerDeps Req Token) : Action Req Token → Option (WorkerDeps Req Token)
  | .trainLora req token =>
      if (worker.requests req).isSome then none
      else some (worker.setPhase req token .acquiringModel)
  | .resume req outcome => worker.resume req outcome
  | .releaseHold token =>
      if worker.lock.isSome then none
      else if releaseHoldRefused worker token then some worker
      else some { worker with lock := some (.releaseHold token) }
  | .releaseHoldResumes token outcome =>
      if worker.lock = some (.releaseHold token) then
        some { worker with
          lock := none
          keys := if outcome = .returns then (releaseGpuHold token worker.keys).2
            else worker.keys }
      else none
  | .reserveHold token => some { worker with keys := (reserveGpuHold token worker.keys).2 }
  | .holdExpires => some { worker with keys := expireGpuHold worker.keys }

end WorkerDeps

/-- Every interleaving of requests on one worker that starts with no request,
no claim and a free lock. -/
def handoverSystem (Req Token : Type) [DecidableEq Req] [DecidableEq Token] :
    TransitionSystem (WorkerDeps Req Token) (Action Req Token) :=
  ofAct
    (fun worker => worker.lock = none ∧ worker.table = ⟨∅, fun _ => none⟩ ∧
      worker.requests = fun _ => none)
    WorkerDeps.act

/-- What one resumption of a `train_lora` request can do to the worker. -/
inductive Resumed (worker : WorkerDeps Req Token) (req : Req) (token : Token) (phase : Phase)
    (outcome : Outcome) : WorkerDeps Req Token → Prop
  | moves (phase' : Phase) (keys : WorkerKeys Token) (lock : Option (LockOwner Req Token))
      (howns : phase'.ownsLock = false)
      (hclaim : ∀ task, phase'.claimedTask = some task → phase.claimedTask = some task)
      (hlock : lock = worker.lock ∨ (phase.ownsLock = true ∧ lock = none)) :
      Resumed worker req token phase outcome
        { worker.setPhase req token phase' with keys := keys, lock := lock }
  | locks (hclaim : phase.claimedTask = none) (hfree : worker.lock = none)
      (hnew : token ∉ worker.table.tokens) :
      Resumed worker req token phase outcome
        { worker.setPhase req token .matchingHold with lock := some (.trainLora req) }
  | checks (hphase : phase = .matchingHold) :
      Resumed worker req token phase outcome (worker.setPhase req token .creatingTask)
  | claims (phase' : Phase) (hphase : phase = .creatingTask) (howns : phase'.ownsLock = false)
      (hclaim : phase'.claimedTask = some worker.nextTask) :
      Resumed worker req token phase outcome
        { worker.setPhase req token phase' with
          lock := none
          table := worker.table.claim token worker.nextTask
          nextTask := worker.nextTask + 1 }
  | releases (hreturns : outcome = .returns) (hfree : worker.lock = none)
      (hphase : phase = .setupLockingHandover ∨ ∃ task, phase = .lockingHandoverRelease task) :
      Resumed worker req token phase outcome
        { worker.setPhase req token .ended with table := worker.table.release token }

theorem resume_cases {worker worker' : WorkerDeps Req Token} {req : Req} {outcome : Outcome}
    (h : worker.resume req outcome = some worker') :
    ∃ token phase, worker.requests req = some (token, phase) ∧
      Resumed worker req token phase outcome worker' := by
  unfold WorkerDeps.resume at h
  cases hreq : worker.requests req with
  | none => simp [hreq] at h
  | some entry =>
      obtain ⟨token, phase⟩ := entry
      refine ⟨token, phase, rfl, ?_⟩
      have stays : ∀ phase' : Phase, phase'.ownsLock = false →
          (∀ task, phase'.claimedTask = some task → phase.claimedTask = some task) →
          Resumed worker req token phase outcome (worker.setPhase req token phase') :=
        fun phase' howns hclaim => .moves phase' worker.keys worker.lock howns hclaim (.inl rfl)
      have unclaimed : ∀ {phase' : Phase}, phase'.claimedTask = none → ∀ task,
          phase'.claimedTask = some task → phase.claimedTask = some task :=
        fun hnone task hclaim => absurd (hnone.symm.trans hclaim) (Option.some_ne_none task).symm
      rw [hreq] at h
      have unlocks : phase.ownsLock = true →
          Resumed worker req token phase outcome
            { worker.setPhase req token .setupCancellingRenewal with lock := none } :=
        fun hlocked => .moves _ worker.keys none rfl (unclaimed rfl) (.inr ⟨hlocked, rfl⟩)
      cases phase with
      | acquiringModel => cases outcome <;> cases h <;> exact stays _ rfl (unclaimed rfl)
      | renewingHold =>
          cases outcome
          case returns =>
            simp only at h
            split at h <;> cases h <;> exact stays _ rfl (unclaimed rfl)
          all_goals cases h; exact stays _ rfl (unclaimed rfl)
      | lockingHandover =>
          cases outcome
          case returns =>
            simp only at h
            split at h
            · cases h
            · rename_i hfree
              split at h
              · cases h
                exact stays _ rfl (unclaimed rfl)
              · rename_i hnew
                cases h
                exact .locks rfl (by simpa using hfree) hnew
          all_goals cases h; exact stays _ rfl (unclaimed rfl)
      | matchingHold =>
          cases outcome
          case returns =>
            simp only at h
            split at h <;> cases h
            · exact .checks rfl
            · exact unlocks rfl
          all_goals cases h; exact unlocks rfl
      | creatingTask =>
          cases outcome <;> cases h
          · exact .claims _ rfl rfl rfl
          · exact unlocks rfl
          · exact .claims _ rfl rfl rfl
      | setupCancellingRenewal => cases outcome <;> cases h <;> exact stays _ rfl (unclaimed rfl)
      | setupReleasingModel => cases outcome <;> cases h <;> exact stays _ rfl (unclaimed rfl)
      | setupLockingHandover =>
          cases outcome
          case returns =>
            simp only at h
            split at h <;> cases h
            rename_i hfree
            exact .releases rfl (by simpa using hfree) (.inl rfl)
          all_goals cases h; exact stays _ rfl (unclaimed rfl)
      | training task => cases outcome <;> cases h <;> exact stays _ rfl fun _ hk => hk
      | cancellingTraining task =>
          cases outcome <;> cases h <;> exact stays _ rfl fun _ hk => hk
      | cancellingRenewal task =>
          cases outcome <;> cases h <;> exact stays _ rfl fun _ hk => hk
      | stoppingModel task => cases outcome <;> cases h <;> exact stays _ rfl fun _ hk => hk
      | releasingHold task =>
          cases outcome <;> cases h
          · exact .moves _ _ worker.lock rfl (fun _ hk => hk) (.inl rfl)
          all_goals exact stays _ rfl fun _ hk => hk
      | lockingHandoverRelease task =>
          cases outcome
          case returns =>
            simp only at h
            split at h <;> cases h
            rename_i hfree
            exact .releases rfl (by simpa using hfree) (.inr ⟨task, rfl⟩)
          all_goals cases h; exact stays _ rfl (unclaimed rfl)
      | ended => cases outcome <;> cases h

/-- The request owns the lock of `_create_gpu_hold_handover_task` for its token. -/
def Locks (worker : WorkerDeps Req Token) (req : Req) (token : Token) : Prop :=
  ∃ phase : Phase, worker.requests req = some (token, phase) ∧ phase.ownsLock = true

/-- The request's training task has claimed the token and not finished its cleanup. -/
def Claims (worker : WorkerDeps Req Token) (req : Req) (token : Token) (task : Nat) : Prop :=
  ∃ phase : Phase, worker.requests req = some (token, phase) ∧ phase.claimedTask = some task

/-- Who owns the lock and the entries of the table. -/
structure Consistent (worker : WorkerDeps Req Token) : Prop where
  owns : ∀ req token, Locks worker req token →
    worker.lock = some (.trainLora req) ∧ token ∉ worker.table.tokens
  claims : ∀ req token task, Claims worker req token task →
    token ∈ worker.table.tokens ∧ worker.table.tasks token = some task
  fresh : ∀ req token task, Claims worker req token task → task < worker.nextTask
  unique : ∀ req req' token token' task, Claims worker req token task →
    Claims worker req' token' task → req = req'

/-- Every training task that claimed a token still owns it: `release_hold` is
refused and `hold_handover` names the task. -/
def ClaimsKept (worker : WorkerDeps Req Token) : Prop :=
  ∀ req token task, Claims worker req token task →
    releaseHoldRefused worker token = true ∧
      holdHandover worker token = (true, some task)

/-- A request whose setup failed drops its token from the table only while no
training task that claimed this token is unfinished. -/
def SetupCleanupUnclaimed (worker : WorkerDeps Req Token) (action : Action Req Token) : Prop :=
  ∀ req token, action = .resume req .returns →
    worker.requests req = some (token, .setupLockingHandover) →
    ∀ req' task, ¬ Claims worker req' token task

omit [DecidableEq Req] in
theorem Consistent.claimsKept {worker : WorkerDeps Req Token} (h : Consistent worker) :
    ClaimsKept worker := by
  intro req token task hclaim
  obtain ⟨hmem, htask⟩ := h.claims req token task hclaim
  exact ⟨by simpa [releaseHoldRefused] using hmem, by simp [holdHandover, htask]⟩

section Update

variable {worker worker' : WorkerDeps Req Token} {req : Req} {token : Token} {phase' : Phase}

omit [DecidableEq Token] in
theorem claims_of_update
    (hupdate : worker'.requests = Function.update worker.requests req (some (token, phase')))
    {other : Req} {token' : Token} {task : Nat} (h : Claims worker' other token' task) :
    (other = req ∧ token' = token ∧ phase'.claimedTask = some task) ∨
      (other ≠ req ∧ Claims worker other token' task) := by
  obtain ⟨phase, hreq, htask⟩ := h
  rw [hupdate, Function.update_apply] at hreq
  split at hreq
  · rename_i heq
    cases hreq
    exact .inl ⟨heq, rfl, htask⟩
  · rename_i hne
    exact .inr ⟨hne, phase, hreq, htask⟩

omit [DecidableEq Token] in
theorem locks_of_update
    (hupdate : worker'.requests = Function.update worker.requests req (some (token, phase')))
    {other : Req} {token' : Token} (h : Locks worker' other token') :
    (other = req ∧ token' = token ∧ phase'.ownsLock = true) ∨
      (other ≠ req ∧ Locks worker other token') := by
  obtain ⟨phase, hreq, howns⟩ := h
  rw [hupdate, Function.update_apply] at hreq
  split at hreq
  · rename_i heq
    cases hreq
    exact .inl ⟨heq, rfl, howns⟩
  · rename_i hne
    exact .inr ⟨hne, phase, hreq, howns⟩

omit [DecidableEq Req] [DecidableEq Token] in
theorem Consistent.of_same_table (h : Consistent worker)
    (htable : worker'.table = worker.table) (hnext : worker'.nextTask = worker.nextTask)
    (hclaims : ∀ req token task, Claims worker' req token task → Claims worker req token task)
    (howns : ∀ req token, Locks worker' req token →
      worker'.lock = some (.trainLora req) ∧ token ∉ worker'.table.tokens) :
    Consistent worker' where
  owns := howns
  claims req token task hclaim := htable ▸ h.claims req token task (hclaims _ _ _ hclaim)
  fresh req token task hclaim := hnext ▸ h.fresh req token task (hclaims _ _ _ hclaim)
  unique req req' token token' task hclaim hclaim' :=
    h.unique req req' token token' task (hclaims _ _ _ hclaim) (hclaims _ _ _ hclaim')

omit [DecidableEq Token] in
theorem Consistent.moves (h : Consistent worker) {phase : Phase} {keys : WorkerKeys Token}
    {lock : Option (LockOwner Req Token)} (hreq : worker.requests req = some (token, phase))
    (howns : phase'.ownsLock = false)
    (hclaim : ∀ task, phase'.claimedTask = some task → phase.claimedTask = some task)
    (hlock : lock = worker.lock ∨ (phase.ownsLock = true ∧ lock = none)) :
    Consistent { worker.setPhase req token phase' with keys := keys, lock := lock } := by
  refine h.of_same_table rfl rfl ?_ ?_
  · intro other token' task hother
    rcases claims_of_update rfl hother with ⟨rfl, rfl, htask⟩ | ⟨-, hold⟩
    · exact ⟨phase, hreq, hclaim task htask⟩
    · exact hold
  · intro other token' hother
    rcases locks_of_update rfl hother with ⟨-, -, hcontra⟩ | ⟨hne, hold⟩
    · simp [howns] at hcontra
    · obtain ⟨hotherOwns, hnew⟩ := h.owns other token' hold
      refine ⟨?_, hnew⟩
      rcases hlock with rfl | ⟨hlocked, -⟩
      · exact hotherOwns
      · have hreqOwns := (h.owns req token ⟨phase, hreq, hlocked⟩).1
        rw [hotherOwns] at hreqOwns
        cases hreqOwns
        exact absurd rfl hne

omit [DecidableEq Token] in
theorem Consistent.locks (h : Consistent worker) (hfree : worker.lock = none)
    (hnew : token ∉ worker.table.tokens) :
    Consistent
      { worker.setPhase req token .matchingHold with lock := some (.trainLora req) } := by
  refine h.of_same_table rfl rfl ?_ ?_
  · intro other token' task hother
    rcases claims_of_update rfl hother with ⟨-, -, hcontra⟩ | ⟨-, hold⟩
    · cases hcontra
    · exact hold
  · intro other token' hother
    rcases locks_of_update rfl hother with ⟨rfl, rfl, -⟩ | ⟨-, hold⟩
    · exact ⟨rfl, hnew⟩
    · have hlocked := (h.owns other token' hold).1
      simp [hfree] at hlocked

omit [DecidableEq Token] in
theorem Consistent.checks (h : Consistent worker)
    (hreq : worker.requests req = some (token, .matchingHold)) :
    Consistent (worker.setPhase req token .creatingTask) := by
  refine h.of_same_table rfl rfl ?_ ?_
  · intro other token' task hother
    rcases claims_of_update rfl hother with ⟨-, -, hcontra⟩ | ⟨-, hold⟩
    · cases hcontra
    · exact hold
  · intro other token' hother
    rcases locks_of_update rfl hother with ⟨rfl, rfl, -⟩ | ⟨-, hold⟩
    · exact h.owns other token' ⟨.matchingHold, hreq, rfl⟩
    · exact h.owns other token' hold

theorem Consistent.claim (h : Consistent worker)
    (hreq : worker.requests req = some (token, .creatingTask))
    (howns : phase'.ownsLock = false) (hclaim : phase'.claimedTask = some worker.nextTask) :
    Consistent
      { worker.setPhase req token phase' with
        lock := none
        table := worker.table.claim token worker.nextTask
        nextTask := worker.nextTask + 1 } := by
  obtain ⟨hlocked, hnew⟩ := h.owns req token ⟨.creatingTask, hreq, rfl⟩
  refine ⟨?_, ?_, ?_, ?_⟩
  · intro other token' hother
    rcases locks_of_update rfl hother with ⟨-, -, hcontra⟩ | ⟨hne, hold⟩
    · simp [howns] at hcontra
    · have hotherOwns := (h.owns other token' hold).1
      rw [hlocked] at hotherOwns
      cases hotherOwns
      exact absurd rfl hne
  · intro other token' task hother
    rcases claims_of_update rfl hother with ⟨-, rfl, htask⟩ | ⟨-, hold⟩
    · rw [hclaim] at htask
      simp [HandoverTable.claim, htask]
    · obtain ⟨hmem, htask⟩ := h.claims other token' task hold
      have hne : token' ≠ token := fun heq => hnew (heq ▸ hmem)
      simp [HandoverTable.claim, hmem, htask, hne]
  · intro other token' task hother
    rcases claims_of_update rfl hother with ⟨-, -, htask⟩ | ⟨-, hold⟩
    · rw [hclaim] at htask
      cases htask
      exact Nat.lt_succ_self _
    · exact Nat.lt_succ_of_lt (h.fresh other token' task hold)
  · intro other other' token₁ token₂ task hother hother'
    rcases claims_of_update rfl hother with ⟨rfl, -, htask⟩ | ⟨-, hold⟩ <;>
      rcases claims_of_update rfl hother' with ⟨rfl, -, htask'⟩ | ⟨-, hold'⟩
    · rfl
    · rw [hclaim] at htask
      cases htask
      exact absurd (h.fresh _ _ _ hold') (lt_irrefl _)
    · rw [hclaim] at htask'
      cases htask'
      exact absurd (h.fresh _ _ _ hold) (lt_irrefl _)
    · exact h.unique _ _ _ _ _ hold hold'

theorem Consistent.releases (h : Consistent worker) (hfree : worker.lock = none)
    (hunclaimed : ∀ other task, other ≠ req → ¬ Claims worker other token task) :
    Consistent
      { worker.setPhase req token .ended with table := worker.table.release token } := by
  have hkept : ∀ other token' task,
      Claims { worker.setPhase req token .ended with table := worker.table.release token }
        other token' task → Claims worker other token' task ∧ token' ≠ token := by
    intro other token' task hother
    rcases claims_of_update rfl hother with ⟨-, -, hcontra⟩ | ⟨hne, hold⟩
    · cases hcontra
    · refine ⟨hold, ?_⟩
      rintro rfl
      exact hunclaimed other task hne hold
  refine ⟨?_, ?_, ?_, ?_⟩
  · intro other token' hother
    rcases locks_of_update rfl hother with ⟨-, -, hcontra⟩ | ⟨-, hold⟩
    · cases hcontra
    · have hlocked := (h.owns other token' hold).1
      simp [hfree] at hlocked
  · intro other token' task hother
    obtain ⟨hold, hne⟩ := hkept other token' task hother
    obtain ⟨hmem, htask⟩ := h.claims other token' task hold
    simp [HandoverTable.release, hmem, htask, hne]
  · intro other token' task hother
    exact h.fresh other token' task (hkept other token' task hother).1
  · intro other other' token₁ token₂ task hother hother'
    exact h.unique _ _ _ _ _ (hkept _ _ _ hother).1 (hkept _ _ _ hother').1

end Update

theorem Consistent.resumed {worker worker' : WorkerDeps Req Token} {req : Req} {token : Token}
    {phase : Phase} {outcome : Outcome} (h : Consistent worker)
    (hreq : worker.requests req = some (token, phase))
    (hresumed : Resumed worker req token phase outcome worker')
    (hunclaimed : SetupCleanupUnclaimed worker (.resume req outcome)) :
    Consistent worker' := by
  cases hresumed with
  | moves phase' keys lock howns hclaim hlock => exact h.moves hreq howns hclaim hlock
  | locks hclaim hfree hnew => exact h.locks hfree hnew
  | checks hphase =>
      subst hphase
      exact h.checks hreq
  | claims phase' hphase howns hclaim =>
      subst hphase
      exact h.claim hreq howns hclaim
  | releases hreturns hfree hphase =>
      refine h.releases hfree ?_
      intro other task hne hclaim
      rcases hphase with rfl | ⟨own, rfl⟩
      · subst hreturns
        exact hunclaimed req token rfl hreq other task hclaim
      · have hown : Claims worker req token own := ⟨_, hreq, rfl⟩
        have hsame : some task = some own :=
          (h.claims _ _ _ hclaim).2.symm.trans (h.claims _ _ _ hown).2
        cases hsame
        exact hne (h.unique _ _ _ _ _ hclaim hown)

/-- Every step keeps the table consistent, but for the cleanup of a failed
setup whose token a training task has claimed. -/
theorem Consistent.act {worker worker' : WorkerDeps Req Token} {action : Action Req Token}
    (h : Consistent worker) (hstep : worker.act action = some worker')
    (hunclaimed : SetupCleanupUnclaimed worker action) : Consistent worker' := by
  cases action with
  | trainLora req token =>
      simp only [WorkerDeps.act] at hstep
      split at hstep <;> cases hstep
      rename_i hnew
      refine h.of_same_table rfl rfl ?_ ?_
      · intro other token' task hother
        rcases claims_of_update rfl hother with ⟨-, -, hcontra⟩ | ⟨-, hold⟩
        · cases hcontra
        · exact hold
      · intro other token' hother
        rcases locks_of_update rfl hother with ⟨-, -, hcontra⟩ | ⟨-, hold⟩
        · cases hcontra
        · exact h.owns other token' hold
  | resume req outcome =>
      obtain ⟨token, phase, hreq, hresumed⟩ := resume_cases hstep
      exact h.resumed hreq hresumed hunclaimed
  | releaseHold token =>
      simp only [WorkerDeps.act] at hstep
      split at hstep
      · cases hstep
      · rename_i hfree
        have hunlocked : ∀ req token', ¬ Locks worker req token' := by
          intro req token' hlocks
          simp [(h.owns req token' hlocks).1] at hfree
        split at hstep <;> cases hstep
        · exact h
        · exact h.of_same_table rfl rfl (fun _ _ _ hclaim => hclaim)
            fun req token' hlocks => absurd hlocks (hunlocked req token')
  | releaseHoldResumes token outcome =>
      simp only [WorkerDeps.act] at hstep
      split at hstep <;> cases hstep
      rename_i hlocked
      refine h.of_same_table rfl rfl (fun _ _ _ hclaim => hclaim) ?_
      intro req token' hlocks
      have howns := (h.owns req token' hlocks).1
      rw [hlocked] at howns
      cases howns
  | reserveHold token =>
      cases hstep
      exact h.of_same_table rfl rfl (fun _ _ _ hclaim => hclaim) h.owns
  | holdExpires =>
      cases hstep
      exact h.of_same_table rfl rfl (fun _ _ _ hclaim => hclaim) h.owns

theorem not_claimsKept_act {worker worker' : WorkerDeps Req Token} {action : Action Req Token}
    (hstep : worker.act action = some worker')
    (hclaimed : ¬ SetupCleanupUnclaimed worker action) : ¬ ClaimsKept worker' := by
  simp only [SetupCleanupUnclaimed, not_forall, not_not] at hclaimed
  obtain ⟨req, token, rfl, hreq, other, task, phase, hother, htask⟩ := hclaimed
  simp only [WorkerDeps.act, WorkerDeps.resume, hreq] at hstep
  split at hstep <;> cases hstep
  have hne : other ≠ req := by
    rintro rfl
    rw [hreq] at hother
    cases hother
    cases htask
  intro hkept
  have hclaim : Claims { worker.setPhase req token .ended with table := worker.table.release token }
      other token task := by
    refine ⟨phase, ?_, htask⟩
    simpa [WorkerDeps.setPhase, hne] using hother
  have howned := (hkept other token task hclaim).1
  simp [releaseHoldRefused, HandoverTable.release] at howned

theorem consistent_of_initial {worker : WorkerDeps Req Token}
    (hinit : (handoverSystem Req Token).initial worker) : Consistent worker := by
  obtain ⟨hlock, htable, hrequests⟩ := hinit
  have hnoClaim : ∀ req token task, ¬ Claims worker req token task := by
    rintro req token task ⟨phase, hreq, -⟩
    simp [hrequests] at hreq
  refine ⟨?_, ?_, ?_, ?_⟩
  · rintro req token ⟨phase, hreq, -⟩
    simp [hrequests] at hreq
  · exact fun _ _ _ hclaim => absurd hclaim (hnoClaim _ _ _)
  · exact fun _ _ _ hclaim => absurd hclaim (hnoClaim _ _ _)
  · exact fun _ _ _ _ _ hclaim => absurd hclaim (hnoClaim _ _ _)

/-- Along every run the claimed tokens stay with their tasks exactly when no
failed setup cleans up a token that an unfinished training task has claimed. -/
theorem claims_kept_iff_setup_cleanups_unclaimed {worker : WorkerDeps Req Token}
    {run : List (Action Req Token × WorkerDeps Req Token)}
    (hinit : (handoverSystem Req Token).initial worker)
    (hrun : (handoverSystem Req Token).IsRun worker run) :
    (∀ worker' ∈ visited worker run, ClaimsKept worker') ↔
      StepsMeet SetupCleanupUnclaimed worker run :=
  forall_visited_iff_stepsMeet (fun _ h => h.claimsKept)
    (fun _ _ _ h hstep hunclaimed => h.act hstep hunclaimed)
    (fun _ _ _ _ hstep hclaimed => not_claimsKept_act hstep hclaimed)
    (consistent_of_initial hinit) hrun

/-- A worker on which nothing has happened yet. -/
def idleWorker : WorkerDeps Nat Nat where
  keys := ⟨none, none⟩
  lock := none
  table := ⟨∅, fun _ => none⟩
  requests := fun _ => none
  nextTask := 0

/-- One request takes the hold 7 and its task starts to train. -/
def trainingStarts : List (Action Nat Nat) :=
  [.reserveHold 7, .trainLora 0 7, .resume 0 .returns, .resume 0 .returns, .resume 0 .returns,
    .resume 0 .returns, .resume 0 .returns]

theorem claims_kept_while_training :
    holdHandover (lastOf idleWorker (follow WorkerDeps.act idleWorker trainingStarts)) 7 =
        (true, some 0) ∧
      ∀ worker ∈ visited idleWorker (follow WorkerDeps.act idleWorker trainingStarts),
        ClaimsKept worker := by
  refine ⟨by decide, ?_⟩
  refine (claims_kept_iff_setup_cleanups_unclaimed ⟨rfl, rfl, rfl⟩ (isRun_follow _ _ _ _)).mpr ?_
  refine ⟨?_, ?_, ?_, ?_, ?_, ?_, ?_, trivial⟩ <;> rintro _ _ ⟨⟩ hreq <;> cases hreq

/-- A second `train_lora` with the token of a training task: its claim fails,
its cleanup frees the token, and `release_hold` then takes the hold from under
the task. -/
theorem second_train_lora_drops_claim :
    let run := follow WorkerDeps.act idleWorker (trainingStarts ++
      [.trainLora 1 7, .resume 1 .returns, .resume 1 .returns, .resume 1 .returns,
        .resume 1 .returns, .resume 1 .returns, .resume 1 .returns,
        .releaseHold 7, .releaseHoldResumes 7 .returns])
    (handoverSystem Nat Nat).initial idleWorker ∧
      (handoverSystem Nat Nat).IsRun idleWorker run ∧
      (run.map fun edge => (holdHandover edge.2 7, edge.2.keys.gpuHold)).drop 12 =
        [((true, some 0), some 7), ((false, none), some 7), ((false, none), some 7),
          ((false, none), none)] ∧
      ¬ ∀ worker ∈ visited idleWorker run, ClaimsKept worker := by
  intro run
  refine ⟨⟨rfl, rfl, rfl⟩, isRun_follow _ _ _ _, by decide, ?_⟩
  intro hkept
  have hdropped : ∃ edge ∈ run, holdHandover edge.2 7 = (false, none) ∧
      edge.2.requests 0 = some (7, .training 0) := by decide
  obtain ⟨edge, hedge, hanswer, htraining⟩ := hdropped
  have hvisited : edge.2 ∈ visited idleWorker run :=
    List.mem_cons_of_mem _ (List.mem_map_of_mem hedge)
  have hclaimed := (hkept edge.2 hvisited 0 7 0 ⟨.training 0, htraining, rfl⟩).2
  rw [hanswer] at hclaimed
  cases hclaimed

end Songmaker.Worker.HoldHandover
