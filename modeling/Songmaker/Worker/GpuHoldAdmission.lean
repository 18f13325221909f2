import Mathlib.Data.Finset.Card
import Songmaker.Foundation.TransitionSystem
import Songmaker.Worker.GpuHoldKeys

namespace Songmaker.Worker.GpuHoldAdmission

open Songmaker.Foundation
open Songmaker.Foundation.TransitionSystem
open Songmaker.Worker.GpuHold

variable {Job Token : Type}

/-- One worker's keys beside the generation jobs admitted on it that have not
yet run the decrement of `run_generation_job`'s last `finally`. -/
structure World (Job Token : Type) where
  keys : WorkerKeys Token
  unreleased : Finset Job
deriving DecidableEq

/-- What the API, the scheduler's jobs, the worker, a training and the key's
deadline do to one worker's keys. -/
inductive Action (Job Token : Type) where
  | admitJob (job : Job)
  | finish (job : Job)
  | reserveHold (token : Token)
  | renewHold (token : Token)
  | releaseHold (token : Token)
  | holdExpires
  | restart
deriving DecidableEq

/-- The queue depth accounts for every admitted job that still owns its slot. -/
structure SlotsCovered (world : World Job Token) : Prop where
  covers : (world.unreleased.card : Int) ≤ readQueueDepth world.keys
  nonneg : 0 ≤ readQueueDepth world.keys
  refuses : ∀ token, world.unreleased.Nonempty →
    (reserveGpuHold token world.keys).1 = false

/-- No admitted job is unfinished when the worker process starts again. -/
def RestartIdle (world : World Job Token) (action : Action Job Token) : Prop :=
  action = .restart → world.unreleased = ∅

theorem slotsCovered_iff (world : World Job Token) :
    SlotsCovered world ↔ (world.unreleased.card : Int) ≤ readQueueDepth world.keys := by
  constructor
  · exact SlotsCovered.covers
  · intro hcovers
    refine ⟨hcovers, by omega, ?_⟩
    intro token hbusy
    have hcard : 0 < world.unreleased.card := hbusy.card_pos
    by_contra hgranted
    have hidle := ((reserveGpuHold_spec token world.keys).2 (by simpa using hgranted)).2
    omega

variable [DecidableEq Job] [DecidableEq Token]

/-- One action, `none` where nobody can take it: a job is admitted once and
finishes only after its admission. -/
def World.act (world : World Job Token) : Action Job Token → Option (World Job Token)
  | .admitJob job =>
      if job ∈ world.unreleased then none
      else
        match admitGeneration world.keys with
        | none => some world
        | some (false, keys) => some { world with keys := keys }
        | some (true, keys) => some { keys := keys, unreleased := insert job world.unreleased }
  | .finish job =>
      if job ∈ world.unreleased then
        some { keys := (decrQueueDepth world.keys).getD world.keys
               unreleased := world.unreleased.erase job }
      else none
  | .reserveHold token => some { world with keys := (reserveGpuHold token world.keys).2 }
  | .renewHold token => some { world with keys := (renewGpuHold token world.keys).2 }
  | .releaseHold token => some { world with keys := (releaseGpuHold token world.keys).2 }
  | .holdExpires => some { world with keys := expireGpuHold world.keys }
  | .restart => some { world with keys := clearOrphanedQueue world.keys }

/-- All interleavings on one worker, from any count an earlier process left
behind while no admitted job is unfinished. -/
def holdSystem (Job Token : Type) [DecidableEq Job] [DecidableEq Token] :
    TransitionSystem (World Job Token) (Action Job Token) :=
  ofAct (fun world => world.unreleased = ∅ ∧ 0 ≤ readQueueDepth world.keys) World.act

theorem covers_admit {world world' : World Job Token} {job : Job}
    (hcovers : (world.unreleased.card : Int) ≤ readQueueDepth world.keys)
    (hstep : world.act (.admitJob job) = some world') :
    (world'.unreleased.card : Int) ≤ readQueueDepth world'.keys := by
  simp only [World.act] at hstep
  split at hstep
  · cases hstep
  · rename_i hfresh
    split at hstep
    · cases hstep
      exact hcovers
    · rename_i keys hadmit
      cases hstep
      rcases admitGeneration_cases hadmit with ⟨-, rfl⟩ | ⟨hfalse, -⟩
      · exact hcovers
      · cases hfalse
    · rename_i keys hadmit
      cases hstep
      rcases admitGeneration_cases hadmit with ⟨hfalse, -⟩ | ⟨-, -, hdepth, -⟩
      · cases hfalse
      · rw [Finset.card_insert_of_notMem hfresh, hdepth]
        omega

theorem covers_finish {world world' : World Job Token} {job : Job}
    (hcovers : (world.unreleased.card : Int) ≤ readQueueDepth world.keys)
    (hstep : world.act (.finish job) = some world') :
    (world'.unreleased.card : Int) ≤ readQueueDepth world'.keys := by
  simp only [World.act] at hstep
  split at hstep
  · rename_i hjob
    cases hstep
    have hcard := Finset.card_erase_add_one hjob
    cases hdecr : decrQueueDepth world.keys with
    | none =>
        simp only [Option.getD_none]
        omega
    | some keys =>
        have hdepth := (decrQueueDepth_eq_some hdecr).1
        simp only [Option.getD_some, hdepth]
        omega
  · cases hstep

theorem slotsCovered_act {world world' : World Job Token} {action : Action Job Token}
    (hsafe : SlotsCovered world) (hstep : world.act action = some world')
    (hidle : RestartIdle world action) : SlotsCovered world' := by
  rw [slotsCovered_iff] at hsafe ⊢
  cases action with
  | admitJob job => exact covers_admit hsafe hstep
  | finish job => exact covers_finish hsafe hstep
  | reserveHold token =>
      cases hstep
      simpa [readQueueDepth, (reserveGpuHold_spec token world.keys).1] using hsafe
  | renewHold token =>
      cases hstep
      simpa using hsafe
  | releaseHold token =>
      cases hstep
      simpa [readQueueDepth] using hsafe
  | holdExpires =>
      cases hstep
      simpa [readQueueDepth] using hsafe
  | restart =>
      cases hstep
      simp [hidle rfl]

theorem not_slotsCovered_act {world world' : World Job Token} {action : Action Job Token}
    (hstep : world.act action = some world') (hbusy : ¬ RestartIdle world action) :
    ¬ SlotsCovered world' := by
  obtain ⟨rfl, hjobs⟩ : action = .restart ∧ world.unreleased ≠ ∅ := by
    simpa [RestartIdle] using hbusy
  cases hstep
  intro hsafe
  have hcard : 0 < world.unreleased.card :=
    (Finset.nonempty_iff_ne_empty.mpr hjobs).card_pos
  have hcovers := hsafe.covers
  simp only [readQueueDepth_clearOrphanedQueue] at hcovers
  omega

/-- The depth covers the unreleased jobs along a whole run exactly when the
worker process never starts again in the middle of an admitted job. -/
theorem slots_covered_iff_restarts_idle {world : World Job Token}
    {run : List (Action Job Token × World Job Token)}
    (hinit : (holdSystem Job Token).initial world)
    (hrun : (holdSystem Job Token).IsRun world run) :
    (∀ world' ∈ visited world run, SlotsCovered world') ↔
      StepsMeet RestartIdle world run := by
  have hstart : SlotsCovered world := by
    rw [slotsCovered_iff, hinit.1]
    simpa using hinit.2
  exact forall_visited_iff_stepsMeet (fun _ hsafe => hsafe)
    (fun _ _ _ hsafe hstep hidle => slotsCovered_act hsafe hstep hidle)
    (fun _ _ _ _ hstep hbusy => not_slotsCovered_act hstep hbusy) hstart hrun

/-- A job is admitted and finishes, then the worker starts again and a training
takes the hold. -/
theorem slots_covered_on_idle_restart :
    let start : World Nat Nat := ⟨⟨none, none⟩, ∅⟩
    ∀ world ∈ visited start (follow World.act start
      [.admitJob 1, .finish 1, .restart, .reserveHold 7]), SlotsCovered world :=
  (slots_covered_iff_restarts_idle ⟨rfl, by decide⟩ (isRun_follow _ _ _ _)).mpr
    ⟨nofun, nofun, fun _ => rfl, nofun, trivial⟩

/-- The worker starts again in the middle of job 1: a training takes the hold
while the job still generates, and the job's decrement leaves the depth at -1. -/
theorem restart_in_job_loses_slot :
    let start : World Nat Nat := ⟨⟨none, none⟩, ∅⟩
    let run := follow World.act start [.admitJob 1, .restart, .reserveHold 7, .finish 1]
    (holdSystem Nat Nat).initial start ∧ (holdSystem Nat Nat).IsRun start run ∧
      run.map (fun edge => (readQueueDepth edge.2.keys, edge.2.keys.gpuHold, edge.2.unreleased)) =
        [(1, none, {1}), (0, none, {1}), (0, some 7, {1}), (-1, some 7, ∅)] ∧
      ¬ ∀ world ∈ visited start run, SlotsCovered world := by
  intro start run
  refine ⟨⟨rfl, by decide⟩, isRun_follow _ _ _ _, by decide, ?_⟩
  intro hsafe
  have hheld : (⟨⟨none, some 7⟩, {1}⟩ : World Nat Nat) ∈ visited start run := by decide
  exact absurd (hsafe _ hheld).covers (by decide)

end Songmaker.Worker.GpuHoldAdmission
