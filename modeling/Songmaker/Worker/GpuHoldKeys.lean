import Mathlib.Algebra.Group.Int.Defs
import Mathlib.Data.Option.Basic

/-!
The two Redis keys of one ACE-Step worker that keep a LoRA training and the
generation jobs off the same GPU, and the scripts that move them. Every script
runs atomically in Redis.
-/

namespace Songmaker.Worker.GpuHold

variable {Token : Type}

/-- The values under `queue_depth_key` and `gpu_hold_key` of one worker, `none`
where the key does not exist. The hold key also has a deadline, after which
Redis drops it. -/
structure WorkerKeys (Token : Type) where
  queueDepth : Option Int
  gpuHold : Option Token
deriving DecidableEq

/-- `INCRBY`: a missing key counts as 0, and a result outside the signed 64-bit
range is an error that leaves the key as it was. -/
def incrBy (delta : Int) (value : Option Int) : Option Int :=
  let result := value.getD 0 + delta
  if -2 ^ 63 ≤ result ∧ result < 2 ^ 63 then some result else none

def readQueueDepth (keys : WorkerKeys Token) : Int :=
  keys.queueDepth.getD 0

/-- `admit_generation`; `none` when the increment raises. -/
def admitGeneration (keys : WorkerKeys Token) : Option (Bool × WorkerKeys Token) :=
  if keys.gpuHold.isSome then some (false, keys)
  else (incrBy 1 keys.queueDepth).map fun depth => (true, { keys with queueDepth := some depth })

/-- `decr_queue_depth`; `none` when the decrement raises. -/
def decrQueueDepth (keys : WorkerKeys Token) : Option (WorkerKeys Token) :=
  (incrBy (-1) keys.queueDepth).map fun depth => { keys with queueDepth := some depth }

/-- The script that takes the hold, where nothing has it and nothing is queued. -/
def reserveGpuHold (token : Token) (keys : WorkerKeys Token) : Bool × WorkerKeys Token :=
  if keys.gpuHold.isSome then (false, keys)
  else if keys.queueDepth.any (0 < ·) then (false, keys)
  else (true, { keys with gpuHold := some token })

def gpuHoldMatches [DecidableEq Token] (token : Token) (keys : WorkerKeys Token) : Bool :=
  keys.gpuHold = some token

/-- `renew_gpu_hold`: a matching hold keeps its value and only moves its deadline. -/
def renewGpuHold [DecidableEq Token] (token : Token) (keys : WorkerKeys Token) :
    Bool × WorkerKeys Token :=
  (gpuHoldMatches token keys, keys)

/-- The script that deletes the hold if it is the token's. -/
def releaseGpuHold [DecidableEq Token] (token : Token) (keys : WorkerKeys Token) :
    Bool × WorkerKeys Token :=
  if gpuHoldMatches token keys then (true, { keys with gpuHold := none }) else (false, keys)

/-- The hold key passes its deadline. -/
def expireGpuHold (keys : WorkerKeys Token) : WorkerKeys Token :=
  { keys with gpuHold := none }

/-- `clear_orphaned_queue`, which every start of the worker process runs. -/
def clearOrphanedQueue (_keys : WorkerKeys Token) : WorkerKeys Token :=
  { queueDepth := none, gpuHold := none }

theorem incrBy_eq_some {delta result : Int} {value : Option Int}
    (h : incrBy delta value = some result) : result = value.getD 0 + delta := by
  simp only [incrBy] at h
  split at h
  · simpa using h.symm
  · cases h

theorem admitGeneration_cases {keys keys' : WorkerKeys Token} {admitted : Bool}
    (h : admitGeneration keys = some (admitted, keys')) :
    (admitted = false ∧ keys' = keys) ∨
      (admitted = true ∧ keys.gpuHold = none ∧
        readQueueDepth keys' = readQueueDepth keys + 1 ∧ keys'.gpuHold = none) := by
  unfold admitGeneration at h
  split at h
  · left
    simpa [eq_comm] using h
  · rename_i hfree
    have hnone : keys.gpuHold = none := by simpa using hfree
    obtain ⟨depth, hdepth, heq⟩ := Option.map_eq_some_iff.mp h
    obtain ⟨rfl, rfl⟩ := Prod.mk.inj heq
    right
    refine ⟨rfl, hnone, ?_, hnone⟩
    simpa [readQueueDepth] using incrBy_eq_some hdepth

theorem decrQueueDepth_eq_some {keys keys' : WorkerKeys Token}
    (h : decrQueueDepth keys = some keys') :
    readQueueDepth keys' = readQueueDepth keys - 1 ∧ keys'.gpuHold = keys.gpuHold := by
  obtain ⟨depth, hdepth, rfl⟩ := Option.map_eq_some_iff.mp h
  have hvalue := incrBy_eq_some hdepth
  constructor
  · simp only [readQueueDepth, Option.getD_some, hvalue]
    omega
  · rfl

/-- A reservation moves only the hold key, and succeeds only on an idle, free worker. -/
theorem reserveGpuHold_spec (token : Token) (keys : WorkerKeys Token) :
    (reserveGpuHold token keys).2.queueDepth = keys.queueDepth ∧
      ((reserveGpuHold token keys).1 = true →
        keys.gpuHold = none ∧ readQueueDepth keys ≤ 0) := by
  unfold reserveGpuHold
  split
  · exact ⟨rfl, fun h => by cases h⟩
  · rename_i hfree
    split
    · exact ⟨rfl, fun h => by cases h⟩
    · rename_i hidle
      refine ⟨rfl, fun _ => ⟨by simpa using hfree, ?_⟩⟩
      cases hdepth : keys.queueDepth with
      | none => simp [readQueueDepth, hdepth]
      | some depth => simpa [readQueueDepth, hdepth] using hidle

@[simp] theorem renewGpuHold_keys [DecidableEq Token] (token : Token)
    (keys : WorkerKeys Token) : (renewGpuHold token keys).2 = keys := rfl

@[simp] theorem releaseGpuHold_queueDepth [DecidableEq Token] (token : Token)
    (keys : WorkerKeys Token) :
    (releaseGpuHold token keys).2.queueDepth = keys.queueDepth := by
  unfold releaseGpuHold
  split <;> rfl

@[simp] theorem expireGpuHold_queueDepth (keys : WorkerKeys Token) :
    (expireGpuHold keys).queueDepth = keys.queueDepth := rfl

@[simp] theorem readQueueDepth_clearOrphanedQueue (keys : WorkerKeys Token) :
    readQueueDepth (clearOrphanedQueue keys) = 0 := rfl

end Songmaker.Worker.GpuHold
