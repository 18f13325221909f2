import Songmaker.Lora.LoraSubmission
import Songmaker.Worker.TrainingExclusion

/-!
A LoRA job never drops a hold that a training task has claimed, attempts the
release of one that no task can have claimed, and follows the task that the worker
reports.
-/

namespace Songmaker.Lora.HoldKept

open Songmaker.Foundation
open Songmaker.Foundation.TransitionSystem
open Songmaker.Worker.GpuHold
open Songmaker.Worker.HoldHandover
open Songmaker.Worker.TrainingExclusion (releaseGpuHold_gpuHold releasing_resume resume_hold)
open Songmaker.Lora.LoraSubmission

variable {Job Token : Type}

/-! ### One job -/

/-- What the flags of a job say wherever it stands. -/
structure Accounted (job : Submission Token) : Prop where
  kept : job.handoverComplete = true → job.transmissionStarted = true ∧
    job.releaseAttempted = false ∧ ∀ taskId, job.report ≠ some (false, taskId)
  claimed : ∀ taskId, job.report = some (true, some taskId) → job.handoverComplete = true

/-- The release was attempted, unless the handover is complete. -/
def Released (job : Submission Token) : Prop :=
  job.handoverComplete = false → job.releaseAttempted = true

/-- Nothing is known of the handover, and nothing was done about the hold. -/
def Unreported (job : Submission Token) : Prop :=
  job.handoverComplete = false ∧ job.taskId = none ∧ job.report = none ∧
    job.releaseAttempted = false

/-- The reported task is followed, or the job was cancelled. -/
def Followed (job : Submission Token) : Prop :=
  ∀ taskId, job.report = some (true, some taskId) →
    job.cancelling = true ∨ job.followed = some taskId

/-- What holds of a job at its stage. -/
def Facts (job : Submission Token) : Prop :=
  match job.stage with
  | .startingRenewal | .markingRunning | .materializing | .preprocessing | .loadingModel =>
      job.transmissionStarted = false ∧ Unreported job
  | .submitting => job.transmissionStarted = true ∧ Unreported job
  | .probing => job.handoverComplete = true ∧ job.taskId = none ∧ job.report = none
  | .recoveryReleasing =>
      job.handoverComplete = false ∧ job.releaseAttempted = true ∧ job.taskId = none
  | .stoppingRenewal false =>
      ∃ taskId, job.taskId = some taskId ∧ job.report = some (true, some taskId)
  | .stoppingRenewal true => Released job ∧ ∀ taskId, job.report ≠ some (true, some taskId)
  | .followingEvents =>
      ∃ taskId, job.followed = some taskId ∧ job.report = some (true, some taskId)
  | .finalReleasing | .finalStoppingRenewal | .ended => Released job ∧ Followed job

/-- Every hold has one owner, and the submission has done what its point says. -/
structure Sound (job : Submission Token) : Prop where
  accounted : Accounted job
  facts : Facts job

/-- What no await changes. -/
def Unchanged (job job' : Submission Token) : Prop :=
  job'.holdToken = job.holdToken ∧ job'.cancelling = job.cancelling ∧
    job'.cancelPending = job.cancelPending

theorem sound_start (token : Token) : Sound (.start token) := by
  refine ⟨⟨?_, ?_⟩, ?_⟩
  · rintro ⟨⟩
  · rintro taskId ⟨⟩
  · exact ⟨rfl, rfl, rfl, rfl, rfl⟩

section Job

variable {job job' : Submission Token}

theorem Accounted.unclaimed (haccounted : Accounted job) (hopen : job.handoverComplete = false)
    (taskId : Nat) : job.report ≠ some (true, some taskId) := by
  intro hreport
  rw [haccounted.claimed taskId hreport] at hopen
  cases hopen

theorem accounted_of_unreported (hunreported : Unreported job) : Accounted job := by
  obtain ⟨hopen, -, hreport, -⟩ := hunreported
  constructor
  · intro hcomplete
    simp [hopen] at hcomplete
  · intro taskId hclaimed
    simp [hreport] at hclaimed

theorem followed_of_unclaimed (hreport : ∀ taskId, job.report ≠ some (true, some taskId)) :
    Followed job :=
  fun taskId hclaimed => absurd hclaimed (hreport taskId)

theorem sound_stopRenewal (haccounted : Accounted job) (hreleased : Released job)
    (hfollowed : Followed job) : Sound job.stopRenewal := by
  refine ⟨⟨haccounted.kept, haccounted.claimed⟩, ?_⟩
  unfold Submission.stopRenewal
  split
  · exact ⟨hreleased, hfollowed⟩
  · exact ⟨hreleased, hfollowed⟩

theorem sound_leave (haccounted : Accounted job) (hfollowed : Followed job) :
    Sound job.leave := by
  unfold Submission.leave
  split
  · rename_i hcomplete
    apply sound_stopRenewal haccounted _ hfollowed
    intro hopen
    simp [hcomplete] at hopen
  · rename_i hopen
    have hopen : job.handoverComplete = false := by simpa using hopen
    refine ⟨⟨?_, haccounted.claimed⟩, fun _ => rfl, hfollowed⟩
    intro hcomplete
    exact absurd (hopen.symm.trans hcomplete) (by decide)

theorem sound_recovered (haccounted : Accounted job) (hreleased : Released job)
    (htask : ∀ taskId, job.taskId = some taskId ↔ job.report = some (true, some taskId)) :
    Sound job.recovered := by
  refine ⟨⟨haccounted.kept, haccounted.claimed⟩, ?_⟩
  unfold Submission.recovered
  rcases hid : job.taskId with _ | taskId
  · refine ⟨hreleased, fun taskId hreport => ?_⟩
    exact absurd (hid.symm.trans ((htask taskId).mpr hreport)) (by simp)
  · exact ⟨taskId, hid, (htask taskId).mp hid⟩

theorem sound_releaseUnclaimed (haccounted : Accounted job)
    (htask : ∀ taskId, job.taskId = some taskId ↔ job.report = some (true, some taskId)) :
    Sound job.releaseUnclaimed := by
  unfold Submission.releaseUnclaimed
  split
  · rename_i hcomplete
    apply sound_recovered haccounted _ htask
    intro hopen
    simp [hcomplete] at hopen
  · rename_i hopen
    have hopen : job.handoverComplete = false := by simpa using hopen
    have hnone : job.taskId = none := by
      rcases hid : job.taskId with _ | taskId
      · rfl
      · exact absurd ((htask taskId).mp hid) (haccounted.unclaimed hopen taskId)
    refine ⟨⟨?_, haccounted.claimed⟩, hopen, rfl, hnone⟩
    intro hcomplete
    exact absurd (hopen.symm.trans hcomplete) (by decide)

theorem sound_recover (hunreported : Unreported job) : Sound job.recover := by
  obtain ⟨hopen, htaskId, hreport, hunreleased⟩ := hunreported
  unfold Submission.recover
  split
  · rename_i hstarted
    refine ⟨⟨fun _ => ⟨hstarted, hunreleased, ?_⟩, ?_⟩, rfl, htaskId, hreport⟩
    · intro taskId hclaimed
      exact absurd (hreport.symm.trans hclaimed) (by simp)
    · intro taskId _
      rfl
  · apply sound_releaseUnclaimed (accounted_of_unreported ⟨hopen, htaskId, hreport, hunreleased⟩)
    intro taskId
    simp [htaskId, hreport]

theorem sound_probed {claimed : Bool} {taskId : Option Nat} (haccounted : Accounted job)
    (hcomplete : job.handoverComplete = true) (hnone : job.taskId = none) :
    Sound (job.probed claimed taskId) := by
  obtain ⟨hstarted, hunreleased, -⟩ := haccounted.kept hcomplete
  unfold Submission.probed
  rcases claimed with _ | _
  · apply sound_releaseUnclaimed
    · constructor
      · rintro ⟨⟩
      · rintro claimed ⟨⟩
    · intro claimed
      simp [hnone]
  · rcases taskId with _ | taskId
    · apply sound_releaseUnclaimed
      · exact ⟨fun _ => ⟨hstarted, hunreleased, fun _ => by simp⟩, fun _ _ => hcomplete⟩
      · intro claimed
        simp [hnone]
    · apply sound_releaseUnclaimed
      · exact ⟨fun _ => ⟨hstarted, hunreleased, fun _ => by simp⟩, fun _ _ => hcomplete⟩
      · intro claimed
        simp

theorem sound_submitted (hstarted : job.transmissionStarted = true)
    (hunreported : Unreported job) (taskId : Nat) : Sound (job.submitted taskId) := by
  refine ⟨⟨fun _ => ⟨hstarted, hunreported.2.2.2, fun _ => ?_⟩, fun _ _ => rfl⟩, taskId, rfl, rfl⟩
  simp [Submission.submitted]

theorem sound_renewalStopped {raising : Bool} {ending : Ending} (hsound : Sound job)
    (hstage : job.stage = .stoppingRenewal raising) (hcancelled : ending = .cancelled →
      job.cancelling = true) : Sound (job.renewalStopped raising ending) := by
  obtain ⟨haccounted, hfacts⟩ := hsound
  unfold Facts at hfacts
  rw [hstage] at hfacts
  unfold Submission.renewalStopped
  rcases raising with _ | _
  · obtain ⟨taskId, htaskId, hreport⟩ := hfacts
    have hcomplete := haccounted.claimed taskId hreport
    split
    · exact ⟨⟨haccounted.kept, haccounted.claimed⟩, taskId, htaskId, hreport⟩
    · rename_i hpasses
      apply sound_leave haccounted
      intro other _
      apply Or.inl
      rcases ending with _ | _ | _ | _ | _
      · simpa [Submission.renewalPasses] using hpasses
      · simp [Submission.renewalPasses, hcomplete] at hpasses
      · simp [Submission.renewalPasses, hcomplete] at hpasses
      · simp [Submission.renewalPasses, hcomplete] at hpasses
      · exact hcancelled rfl
  · rw [if_neg (by simp)]
    exact sound_leave haccounted (followed_of_unclaimed hfacts.2)

theorem Sound.runOn {ending : Ending} (hsound : Sound job)
    (hcancelled : ending = .cancelled → job.cancelling = true)
    (hstep : job.runOn ending = some job') : Sound job' := by
  have hfacts := hsound.facts
  have haccounted := hsound.accounted
  unfold Submission.runOn at hstep
  unfold Facts at hfacts
  rcases hstage : job.stage with _ | _ | _ | _ | _ | _ | _ | _ | raising | _ | _ | _ | _
  all_goals rw [hstage] at hstep hfacts
  case startingRenewal | markingRunning | materializing | preprocessing =>
    rcases ending <;> obtain rfl := Option.some.inj hstep
    · exact ⟨⟨haccounted.kept, haccounted.claimed⟩, hfacts⟩
    all_goals
      exact sound_leave haccounted (followed_of_unclaimed (haccounted.unclaimed hfacts.2.1))
  case loadingModel =>
    rcases ending <;> obtain rfl := Option.some.inj hstep
    · exact ⟨accounted_of_unreported hfacts.2, rfl, hfacts.2⟩
    all_goals exact sound_recover hfacts.2
  case submitting =>
    rcases ending
    · obtain ⟨taskId, -, rfl⟩ := Option.map_eq_some_iff.mp hstep
      exact sound_submitted hfacts.1 hfacts.2 taskId
    all_goals
      obtain rfl := Option.some.inj hstep
      exact sound_recover hfacts.2
  case probing =>
    obtain ⟨hcomplete, htaskId, hreport⟩ := hfacts
    have hreleased : Released job := by
      intro hopen
      simp [hcomplete] at hopen
    have hraises : Sound (job.goTo (.stoppingRenewal true)) :=
      ⟨⟨haccounted.kept, haccounted.claimed⟩, hreleased, fun taskId => by
        simp [Submission.goTo, hreport]⟩
    rcases ending
    · obtain ⟨answer, -, rfl⟩ := Option.map_eq_some_iff.mp hstep
      exact sound_probed haccounted hcomplete htaskId
    · exact Option.some.inj hstep ▸ hraises
    · obtain rfl := Option.some.inj hstep
      apply sound_recovered haccounted hreleased
      intro taskId
      simp [htaskId, hreport]
    · exact Option.some.inj hstep ▸ hraises
    · exact Option.some.inj hstep ▸ hraises
  case recoveryReleasing =>
    obtain ⟨hopen, hattempted, htaskId⟩ := hfacts
    have hreleased : Released job := fun _ => hattempted
    have hunclaimed := haccounted.unclaimed hopen
    have hraises : Sound (job.goTo (.stoppingRenewal true)) :=
      ⟨⟨haccounted.kept, haccounted.claimed⟩, hreleased, hunclaimed⟩
    have hrecovered : Sound job.recovered := by
      apply sound_recovered haccounted hreleased
      intro taskId
      simp [htaskId, hunclaimed taskId]
    rcases ending
    · exact Option.some.inj hstep ▸ hrecovered
    · exact Option.some.inj hstep ▸ hraises
    · exact Option.some.inj hstep ▸ hrecovered
    · exact Option.some.inj hstep ▸ hraises
    · exact Option.some.inj hstep ▸ hraises
  case stoppingRenewal =>
    obtain rfl := Option.some.inj hstep
    exact sound_renewalStopped hsound hstage hcancelled
  case followingEvents =>
    obtain rfl := Option.some.inj hstep
    obtain ⟨taskId, hfollowed, hreport⟩ := hfacts
    apply sound_leave haccounted
    intro other hother
    obtain rfl : taskId = other := by simpa [hreport] using hother
    exact Or.inr hfollowed
  case finalReleasing =>
    have hended : Sound (job.goTo .ended) := ⟨⟨haccounted.kept, haccounted.claimed⟩, hfacts⟩
    have hstopped := sound_stopRenewal haccounted hfacts.1 hfacts.2
    rcases ending
    · exact Option.some.inj hstep ▸ hstopped
    · exact Option.some.inj hstep ▸ hended
    · exact Option.some.inj hstep ▸ hstopped
    · exact Option.some.inj hstep ▸ hended
    · exact Option.some.inj hstep ▸ hended
  case finalStoppingRenewal =>
    obtain rfl := Option.some.inj hstep
    exact ⟨⟨haccounted.kept, haccounted.claimed⟩, hfacts⟩
  case ended => cases hstep

theorem unchanged_leave (job : Submission Token) : Unchanged job job.leave := by
  unfold Submission.leave
  split
  · exact ⟨rfl, rfl, rfl⟩
  · exact ⟨rfl, rfl, rfl⟩

theorem unchanged_releaseUnclaimed (job : Submission Token) :
    Unchanged job job.releaseUnclaimed := by
  unfold Submission.releaseUnclaimed
  split
  · exact ⟨rfl, rfl, rfl⟩
  · exact ⟨rfl, rfl, rfl⟩

theorem unchanged_recover (job : Submission Token) : Unchanged job job.recover := by
  unfold Submission.recover
  split
  · exact ⟨rfl, rfl, rfl⟩
  · exact unchanged_releaseUnclaimed job

theorem unchanged_probed (job : Submission Token) (claimed : Bool) (taskId : Option Nat) :
    Unchanged job (job.probed claimed taskId) := by
  rcases claimed with _ | _
  · exact unchanged_releaseUnclaimed _
  · rcases taskId with _ | taskId
    · exact unchanged_releaseUnclaimed _
    · exact unchanged_releaseUnclaimed _

theorem unchanged_renewalStopped (job : Submission Token) (raising : Bool) (ending : Ending) :
    Unchanged job (job.renewalStopped raising ending) := by
  unfold Submission.renewalStopped
  split
  · exact ⟨rfl, rfl, rfl⟩
  · exact unchanged_leave job

theorem unchanged_runOn {ending : Ending} (hstep : job.runOn ending = some job') :
    Unchanged job job' := by
  unfold Submission.runOn at hstep
  split at hstep
  case h_11 =>
    obtain ⟨taskId, -, rfl⟩ := Option.map_eq_some_iff.mp hstep
    exact ⟨rfl, rfl, rfl⟩
  case h_13 =>
    obtain ⟨answer, -, rfl⟩ := Option.map_eq_some_iff.mp hstep
    exact unchanged_probed job answer.1 answer.2
  case h_25 => cases hstep
  all_goals obtain rfl := Option.some.inj hstep
  all_goals first
    | exact ⟨rfl, rfl, rfl⟩
    | exact unchanged_leave job
    | exact unchanged_recover job
    | exact unchanged_renewalStopped job _ _

/-- A cancellation that is still to be raised was asked for. -/
def Cancels (job : Submission Token) : Prop :=
  job.cancelPending = true → job.cancelling = true

theorem Sound.resume {ending : Ending} (hsound : Sound job) (hcancels : Cancels job)
    (hstep : job.resume ending = some job') :
    Sound job' ∧ Cancels job' ∧ job'.holdToken = job.holdToken := by
  unfold Submission.resume at hstep
  split_ifs at hstep with hcancelled hpending
  · have hcancelling := hcancels hpending
    have hraised : Sound { job with cancelPending := false } :=
      ⟨⟨hsound.accounted.kept, hsound.accounted.claimed⟩, hsound.facts⟩
    obtain ⟨htoken, -, hnone⟩ := unchanged_runOn hstep
    refine ⟨hraised.runOn (fun _ => hcancelling) hstep, ?_, htoken⟩
    intro hpending'
    simp [hnone] at hpending'
  · obtain ⟨htoken, hcancelling, hpending⟩ := unchanged_runOn hstep
    refine ⟨hsound.runOn (fun heq => absurd heq hcancelled) hstep, ?_, htoken⟩
    intro hpending'
    rw [hcancelling]
    exact hcancels (hpending ▸ hpending')

theorem Sound.cancel (hsound : Sound job) : Sound job.cancel := by
  obtain ⟨haccounted, hfacts⟩ := hsound
  refine ⟨⟨haccounted.kept, haccounted.claimed⟩, ?_⟩
  unfold Facts at hfacts ⊢
  rcases hstage : job.stage with _ | _ | _ | _ | _ | _ | _ | _ | raising | _ | _ | _ | _
  all_goals rw [hstage] at hfacts
  all_goals simp only [Submission.cancel, hstage]
  case finalReleasing | finalStoppingRenewal | ended =>
    exact ⟨hfacts.1, fun _ _ => Or.inl rfl⟩
  case stoppingRenewal =>
    rcases raising with _ | _
    · exact hfacts
    · exact hfacts
  all_goals exact hfacts

end Job

/-! ### Jobs and worker -/

/-- Every token is issued once and taken by one job, and every `train_lora` request
carries the token of its own job. -/
structure Invariant [DecidableEq Token] (deployment : Deployment Job Token) : Prop where
  sound : ∀ id job, deployment.jobs id = some job → Sound job ∧ Cancels job
  distinct : ∀ id id' job job', deployment.jobs id = some job → deployment.jobs id' = some job' →
    job.holdToken = job'.holdToken → id = id'
  taken : ∀ id job, deployment.jobs id = some job →
    job.holdToken ∈ deployment.issued ∧ job.holdToken ∉ deployment.granted
  granted : deployment.granted ⊆ deployment.issued
  owner : ∀ id token phase, deployment.worker.requests id = some (token, phase) →
    ∃ job, deployment.jobs id = some job ∧ job.holdToken = token
  consistent : Worker.HoldHandover.Consistent deployment.worker
  releasing : ∀ token, deployment.worker.lock = some (.releaseHold token) →
    token ∉ deployment.worker.table.tokens

variable [DecidableEq Job] [DecidableEq Token] {deployment next : Deployment Job Token}

omit [DecidableEq Job] in
theorem Invariant.sameJob (hinv : Invariant deployment) {id id' : Job} {token : Token}
    {phase phase' : Phase} (hreq : deployment.worker.requests id = some (token, phase))
    (hreq' : deployment.worker.requests id' = some (token, phase')) : id = id' := by
  obtain ⟨job, hjob, htoken⟩ := hinv.owner id token phase hreq
  obtain ⟨job', hjob', htoken'⟩ := hinv.owner id' token phase' hreq'
  exact hinv.distinct id id' job job' hjob hjob' (htoken.trans htoken'.symm)

theorem Invariant.setJob (hinv : Invariant deployment) {id : Job} {job job' : Submission Token}
    (hjob : deployment.jobs id = some job) (hsound : Sound job') (hcancels : Cancels job')
    (htoken : job'.holdToken = job.holdToken) : Invariant (deployment.setJob id job') := by
  have hjobs : ∀ other found, (deployment.setJob id job').jobs other = some found →
      ∃ old, deployment.jobs other = some old ∧ found.holdToken = old.holdToken ∧
        (Sound found ∧ Cancels found) := by
    intro other found hfound
    change Function.update deployment.jobs id (some job') other = some found at hfound
    rw [Function.update_apply] at hfound
    split at hfound
    · rename_i heq
      obtain rfl := Option.some.inj hfound
      exact ⟨job, heq ▸ hjob, htoken, hsound, hcancels⟩
    · exact ⟨found, hfound, rfl, hinv.sound other found hfound⟩
  refine ⟨?_, ?_, ?_, hinv.granted, ?_, hinv.consistent, hinv.releasing⟩
  · intro other found hfound
    obtain ⟨-, -, -, hfound⟩ := hjobs other found hfound
    exact hfound
  · intro first second found₁ found₂ hfirst hsecond hsame
    obtain ⟨old₁, hold₁, htoken₁, -⟩ := hjobs first found₁ hfirst
    obtain ⟨old₂, hold₂, htoken₂, -⟩ := hjobs second found₂ hsecond
    exact hinv.distinct first second old₁ old₂ hold₁ hold₂ (htoken₁ ▸ htoken₂ ▸ hsame)
  · intro other found hfound
    obtain ⟨old, hold, heq, -⟩ := hjobs other found hfound
    exact heq ▸ hinv.taken other old hold
  · intro other token phase hreq
    obtain ⟨old, hold, hold'⟩ := hinv.owner other token phase hreq
    change ∃ found, Function.update deployment.jobs id (some job') other = some found ∧ _
    rw [Function.update_apply]
    split
    · rename_i heq
      subst heq
      obtain rfl : old = job := Option.some.inj (hold.symm.trans hjob)
      exact ⟨job', rfl, htoken.trans hold'⟩
    · exact ⟨old, hold, hold'⟩

omit [DecidableEq Job] in
theorem Invariant.setWorker (hinv : Invariant deployment) {worker : WorkerDeps Job Token}
    (hconsistent : Worker.HoldHandover.Consistent worker)
    (hrequests : ∀ id token phase, worker.requests id = some (token, phase) →
      ∃ phase', deployment.worker.requests id = some (token, phase'))
    (hreleasing : ∀ token, worker.lock = some (.releaseHold token) →
      token ∉ worker.table.tokens) :
    Invariant { deployment with worker := worker } where
  sound := hinv.sound
  distinct := hinv.distinct
  taken := hinv.taken
  granted := hinv.granted
  owner id token phase hreq := by
    obtain ⟨phase', hreq⟩ := hrequests id token phase hreq
    exact hinv.owner id token phase' hreq
  consistent := hconsistent
  releasing := hreleasing

omit [DecidableEq Job] in
theorem Invariant.setupCleanupUnclaimed (hinv : Invariant deployment)
    (action : Worker.HoldHandover.Action Job Token) :
    SetupCleanupUnclaimed deployment.worker action := by
  rintro id token - hreq id' task ⟨phase, hreq', htask⟩
  obtain rfl := hinv.sameJob hreq hreq'
  rw [hreq] at hreq'
  cases hreq'
  cases htask

theorem Invariant.resumeTraining (hinv : Invariant deployment) {id : Job} {outcome : Outcome}
    (hstep : deployment.onWorker (.resume id outcome) = some next) : Invariant next := by
  obtain ⟨worker, hresume, rfl⟩ := Option.map_eq_some_iff.mp hstep
  have hconsistent := hinv.consistent.act hresume (hinv.setupCleanupUnclaimed _)
  apply hinv.setWorker hconsistent _ (releasing_resume hinv.releasing hresume)
  obtain ⟨token, phase, phase', hreq, hrequests, -⟩ := resume_hold hresume
  intro other token' found hfound
  rw [hrequests, Function.update_apply] at hfound
  split at hfound
  · rename_i heq
    cases hfound
    exact ⟨phase, heq ▸ hreq⟩
  · exact ⟨found, hfound⟩

theorem Invariant.answerTrainLora (hinv : Invariant deployment) (id : Job) :
    Invariant (deployment.answerTrainLora id) := by
  unfold Deployment.answerTrainLora
  split
  · rename_i job _ hjob
    obtain ⟨⟨haccounted, hfacts⟩, hcancels⟩ := hinv.sound id job hjob
    exact hinv.setJob hjob ⟨⟨haccounted.kept, haccounted.claimed⟩, hfacts⟩ hcancels rfl
  · exact hinv

theorem Invariant.trainLora (hinv : Invariant deployment) {id : Job} {job : Submission Token}
    (hjob : deployment.jobs id = some job)
    (hstep : deployment.onWorker (.trainLora id job.holdToken) = some next) :
    Invariant next := by
  obtain ⟨worker, hact, rfl⟩ := Option.map_eq_some_iff.mp hstep
  have hconsistent := hinv.consistent.act hact (hinv.setupCleanupUnclaimed _)
  simp only [WorkerDeps.act] at hact
  split at hact
  · simp at hact
  · obtain rfl := Option.some.inj hact
    refine ⟨hinv.sound, hinv.distinct, hinv.taken, hinv.granted, ?_, hconsistent, hinv.releasing⟩
    intro other token phase hreq
    simp only [WorkerDeps.setPhase, Function.update_apply] at hreq
    split at hreq
    · rename_i heq
      cases hreq
      exact ⟨job, heq ▸ hjob, rfl⟩
    · exact hinv.owner other token phase hreq

theorem Invariant.releaseHold (hinv : Invariant deployment) {token : Token}
    (hstep : deployment.onWorker (.releaseHold token) = some next) : Invariant next := by
  obtain ⟨worker, hact, rfl⟩ := Option.map_eq_some_iff.mp hstep
  have hconsistent := hinv.consistent.act hact (hinv.setupCleanupUnclaimed _)
  simp only [WorkerDeps.act] at hact
  split at hact
  · simp at hact
  · split at hact
    · obtain rfl := Option.some.inj hact
      exact hinv
    · rename_i hrefused
      obtain rfl := Option.some.inj hact
      apply hinv.setWorker hconsistent (fun _ _ phase hreq => ⟨phase, hreq⟩)
      rintro other ⟨⟩
      simpa [releaseHoldRefused] using hrefused

theorem Invariant.releaseHoldResumes (hinv : Invariant deployment) {token : Token}
    {outcome : Outcome}
    (hstep : deployment.onWorker (.releaseHoldResumes token outcome) = some next) :
    Invariant next := by
  obtain ⟨worker, hact, rfl⟩ := Option.map_eq_some_iff.mp hstep
  have hconsistent := hinv.consistent.act hact (hinv.setupCleanupUnclaimed _)
  simp only [WorkerDeps.act] at hact
  split at hact
  · obtain rfl := Option.some.inj hact
    exact hinv.setWorker hconsistent (fun _ _ phase hreq => ⟨phase, hreq⟩) (by simp)
  · simp at hact

omit [DecidableEq Job] in
theorem Invariant.moveKeys (hinv : Invariant deployment) (keys : WorkerKeys Token) :
    Invariant { deployment with worker := { deployment.worker with keys := keys } } := by
  have hconsistent : Worker.HoldHandover.Consistent { deployment.worker with keys := keys } :=
    hinv.consistent.of_same_table rfl rfl (fun _ _ _ hclaim => hclaim) hinv.consistent.owns
  exact hinv.setWorker hconsistent (fun _ _ phase hreq => ⟨phase, hreq⟩) hinv.releasing

theorem Invariant.reserve (hinv : Invariant deployment) {token : Token}
    (hstep : deployment.act (.reserve token) = some next) : Invariant next := by
  simp only [Deployment.act] at hstep
  split at hstep
  · simp at hstep
  · rename_i hfresh
    obtain ⟨reserved, hreserved, rfl⟩ := Option.map_eq_some_iff.mp hstep
    obtain ⟨worker, hact, rfl⟩ := Option.map_eq_some_iff.mp hreserved
    obtain rfl := Option.some.inj hact
    have hmoved := hinv.moveKeys (reserveGpuHold token deployment.worker.keys).2
    refine ⟨hmoved.sound, hmoved.distinct, ?_, ?_, hmoved.owner, hmoved.consistent,
      hmoved.releasing⟩
    · intro id job hjob
      obtain ⟨hissued, hungranted⟩ := hinv.taken id job hjob
      refine ⟨Finset.mem_insert_of_mem hissued, ?_⟩
      show job.holdToken ∉ if _ then insert token deployment.granted else deployment.granted
      split
      · rw [Finset.mem_insert, not_or]
        exact ⟨fun heq => hfresh (heq ▸ hissued), hungranted⟩
      · exact hungranted
    · show (if _ then insert token deployment.granted else deployment.granted) ⊆
        insert token deployment.issued
      split
      · exact Finset.insert_subset_insert token hinv.granted
      · exact hinv.granted.trans (Finset.subset_insert token deployment.issued)

theorem Invariant.prepare (hinv : Invariant deployment) {id : Job} {token : Token}
    (hstep : deployment.act (.prepare id token) = some next) : Invariant next := by
  simp only [Deployment.act] at hstep
  split_ifs at hstep with hfree
  obtain ⟨hgranted, hnone⟩ := hfree
  obtain rfl := Option.some.inj hstep
  have hjobs : ∀ other found,
      Function.update deployment.jobs id (some (.start token)) other = some found →
        (other = id ∧ found = .start token) ∨ deployment.jobs other = some found := by
    intro other found hfound
    rw [Function.update_apply] at hfound
    split at hfound
    · rename_i heq
      exact Or.inl ⟨heq, (Option.some.inj hfound).symm⟩
    · exact Or.inr hfound
  have hother : ∀ other found, deployment.jobs other = some found → found.holdToken ≠ token :=
    fun other found hfound heq => (hinv.taken other found hfound).2 (heq ▸ hgranted)
  refine ⟨?_, ?_, ?_, ?_, ?_, hinv.consistent, hinv.releasing⟩
  · intro other found hfound
    rcases hjobs other found hfound with ⟨-, rfl⟩ | hold
    · exact ⟨sound_start token, by rintro ⟨⟩⟩
    · exact hinv.sound other found hold
  · intro first second found₁ found₂ hfirst hsecond hsame
    rcases hjobs first found₁ hfirst with ⟨rfl, rfl⟩ | hold₁
    · rcases hjobs second found₂ hsecond with ⟨rfl, -⟩ | hold₂
      · rfl
      · exact absurd hsame.symm (hother second found₂ hold₂)
    · rcases hjobs second found₂ hsecond with ⟨rfl, rfl⟩ | hold₂
      · exact absurd hsame (hother first found₁ hold₁)
      · exact hinv.distinct first second found₁ found₂ hold₁ hold₂ hsame
  · intro other found hfound
    rcases hjobs other found hfound with ⟨-, rfl⟩ | hold
    · exact ⟨hinv.granted hgranted, Finset.notMem_erase token deployment.granted⟩
    · obtain ⟨hissued, hungranted⟩ := hinv.taken other found hold
      exact ⟨hissued, fun hmem => hungranted (Finset.mem_of_mem_erase hmem)⟩
  · exact (Finset.erase_subset token deployment.granted).trans hinv.granted
  · intro other claimed phase hreq
    obtain ⟨job, hjob, htoken⟩ := hinv.owner other claimed phase hreq
    refine ⟨job, ?_, htoken⟩
    show Function.update deployment.jobs id (some (.start token)) other = some job
    rw [Function.update_of_ne _ _ _, hjob]
    rintro rfl
    simp [hnone] at hjob

theorem Invariant.deliver (hinv : Invariant deployment) {id : Job} {request : Request}
    (hstep : deployment.act (.deliver id request) = some next) : Invariant next := by
  simp only [Deployment.act] at hstep
  obtain ⟨job, hjob, hstep⟩ := Option.bind_eq_some_iff.mp hstep
  split_ifs at hstep
  obtain ⟨⟨haccounted, hfacts⟩, hcancels⟩ := hinv.sound id job hjob
  have hreceived : Invariant
      (deployment.setJob id { job with inFlight := job.inFlight.erase request }) :=
    hinv.setJob hjob ⟨⟨haccounted.kept, haccounted.claimed⟩, hfacts⟩ hcancels rfl
  have hthere : ∀ found, (deployment.setJob id found).jobs id = some found := by
    intro found
    simp [Deployment.setJob]
  rcases request with _ | _ | _
  · exact hreceived.trainLora (hthere _) hstep
  · simp only [Deployment.handle] at hstep
    split_ifs at hstep
    obtain rfl := Option.some.inj hstep
    exact hreceived.setJob (hthere _) ⟨⟨haccounted.kept, haccounted.claimed⟩, hfacts⟩ hcancels rfl
  · exact hreceived.releaseHold hstep

theorem Invariant.act (hinv : Invariant deployment) {action : LoraSubmission.Action Job Token}
    (hstep : deployment.act action = some next) : Invariant next := by
  rcases action with token | ⟨id, token⟩ | ⟨id, ending⟩ | id | ⟨id, request⟩ | ⟨id, request⟩ |
    ⟨id, outcome⟩ | ⟨token, outcome⟩ | _
  · exact hinv.reserve hstep
  · exact hinv.prepare hstep
  · obtain ⟨job, hjob, hstep⟩ := Option.bind_eq_some_iff.mp hstep
    obtain ⟨job', hresume, hstep⟩ := Option.bind_eq_some_iff.mp hstep
    obtain rfl := Option.some.inj hstep
    obtain ⟨hsound, hcancels⟩ := hinv.sound id job hjob
    obtain ⟨hsound', hcancels', htoken⟩ := hsound.resume hcancels hresume
    exact hinv.setJob hjob hsound' hcancels' htoken
  · obtain ⟨job, hjob, hstep⟩ := Option.bind_eq_some_iff.mp hstep
    obtain rfl := Option.some.inj hstep
    exact hinv.setJob hjob (hinv.sound id job hjob).1.cancel (fun _ => rfl) rfl
  · exact hinv.deliver hstep
  · obtain ⟨job, hjob, hstep⟩ := Option.bind_eq_some_iff.mp hstep
    obtain rfl := Option.some.inj hstep
    obtain ⟨⟨haccounted, hfacts⟩, hcancels⟩ := hinv.sound id job hjob
    exact hinv.setJob hjob ⟨⟨haccounted.kept, haccounted.claimed⟩, hfacts⟩ hcancels rfl
  · obtain ⟨resumed, hresume, rfl⟩ := Option.map_eq_some_iff.mp hstep
    exact (hinv.resumeTraining hresume).answerTrainLora id
  · exact hinv.releaseHoldResumes hstep
  · have hexpires : deployment.onWorker .holdExpires = some next := hstep
    obtain ⟨worker, hact, rfl⟩ := Option.map_eq_some_iff.mp hexpires
    obtain rfl := Option.some.inj hact
    exact hinv.moveKeys _

theorem invariant_of_initial (hinitial : (submissionSystem Job Token).initial deployment) :
    Invariant deployment := by
  obtain ⟨hjobs, hissued, hgranted, hworker⟩ := hinitial
  have hrequests := hworker.2.2
  refine ⟨?_, ?_, ?_, ?_, ?_, consistent_of_initial hworker, ?_⟩
  · intro id job hjob
    simp [hjobs] at hjob
  · intro id id' job job' hjob
    simp [hjobs] at hjob
  · intro id job hjob
    simp [hjobs] at hjob
  · rw [hgranted]
    exact Finset.empty_subset _
  · intro id token phase hreq
    simp [hrequests] at hreq
  · intro token hlock
    simp [hworker.1] at hlock

theorem invariant_of_reachable (hreach : (submissionSystem Job Token).Reachable deployment) :
    Invariant deployment := by
  have hinvariant : (submissionSystem Job Token).Invariant Invariant :=
    ⟨fun _ hinitial => invariant_of_initial hinitial, fun _ _ _ hinv hstep => hinv.act hstep⟩
  exact hinvariant.of_reachable hreach

/-! ### The hold -/

/-- A hold that a training task has claimed outlasts the step, unless it expires or
the task's own cleanup releases it. -/
def HoldOutlasts (deployment next : Deployment Job Token)
    (action : LoraSubmission.Action Job Token) : Prop :=
  ∀ id token task, Claims deployment.worker id token task →
    deployment.worker.keys.gpuHold = some token →
      next.worker.keys.gpuHold = some token ∨ action = .holdExpires ∨
        (action = .resumeTraining id .returns ∧
          deployment.worker.requests id = some (token, .releasingHold task))

omit [DecidableEq Token] in
@[simp] theorem answerTrainLora_worker (deployment : Deployment Job Token) (id : Job) :
    (deployment.answerTrainLora id).worker = deployment.worker := by
  unfold Deployment.answerTrainLora
  split
  · rfl
  · rfl

theorem handle_keys {id : Job} {job : Submission Token} {request : Request}
    (hstep : deployment.handle id job request = some next) :
    next.worker.keys = deployment.worker.keys := by
  rcases request with _ | _ | _
  · obtain ⟨worker, hact, rfl⟩ := Option.map_eq_some_iff.mp hstep
    simp only [WorkerDeps.act] at hact
    split_ifs at hact
    obtain rfl := Option.some.inj hact
    rfl
  · simp only [Deployment.handle] at hstep
    split_ifs at hstep
    obtain rfl := Option.some.inj hstep
    rfl
  · obtain ⟨worker, hact, rfl⟩ := Option.map_eq_some_iff.mp hstep
    simp only [WorkerDeps.act] at hact
    split_ifs at hact
    · obtain rfl := Option.some.inj hact
      rfl
    · obtain rfl := Option.some.inj hact
      rfl

theorem Invariant.holdOutlasts (hinv : Invariant deployment)
    {action : LoraSubmission.Action Job Token} (hstep : deployment.act action = some next) :
    HoldOutlasts deployment next action := by
  intro id token task hclaims hheld
  have hkept : next.worker.keys = deployment.worker.keys →
      next.worker.keys.gpuHold = some token := fun hkeys => hkeys ▸ hheld
  rcases action with fresh | ⟨other, fresh⟩ | ⟨other, ending⟩ | other | ⟨other, request⟩ |
    ⟨other, request⟩ | ⟨other, outcome⟩ | ⟨released, outcome⟩ | _
  · simp only [Deployment.act] at hstep
    split at hstep
    · simp at hstep
    · obtain ⟨reserved, hreserved, rfl⟩ := Option.map_eq_some_iff.mp hstep
      obtain ⟨worker, hact, rfl⟩ := Option.map_eq_some_iff.mp hreserved
      obtain rfl := Option.some.inj hact
      apply Or.inl
      show (reserveGpuHold fresh deployment.worker.keys).2.gpuHold = some token
      simp [reserveGpuHold, hheld]
  · simp only [Deployment.act] at hstep
    split_ifs at hstep
    obtain rfl := Option.some.inj hstep
    exact Or.inl hheld
  · obtain ⟨job, hjob, hstep⟩ := Option.bind_eq_some_iff.mp hstep
    obtain ⟨job', hresume, hstep⟩ := Option.bind_eq_some_iff.mp hstep
    obtain rfl := Option.some.inj hstep
    exact Or.inl hheld
  · obtain ⟨job, hjob, hstep⟩ := Option.bind_eq_some_iff.mp hstep
    obtain rfl := Option.some.inj hstep
    exact Or.inl hheld
  · simp only [Deployment.act] at hstep
    obtain ⟨job, hjob, hstep⟩ := Option.bind_eq_some_iff.mp hstep
    split_ifs at hstep
    have hkeys := handle_keys hstep
    exact Or.inl (hkept hkeys)
  · obtain ⟨job, hjob, hstep⟩ := Option.bind_eq_some_iff.mp hstep
    obtain rfl := Option.some.inj hstep
    exact Or.inl hheld
  · obtain ⟨resumed, hresumed, rfl⟩ := Option.map_eq_some_iff.mp hstep
    obtain ⟨worker, hresume, rfl⟩ := Option.map_eq_some_iff.mp hresumed
    simp only [answerTrainLora_worker] at hkept ⊢
    obtain ⟨own, phase, phase', hreq, -, ⟨hkeys, -⟩ | ⟨hkeys, -, rfl, task', rfl⟩⟩ :=
      resume_hold hresume
    · exact Or.inl (hkept hkeys)
    · by_cases hown : own = token
      · subst hown
        obtain ⟨phase, hclaimed, htask⟩ := hclaims
        obtain rfl := hinv.sameJob hreq hclaimed
        obtain rfl : phase = .releasingHold task' := by simpa [hreq, eq_comm] using hclaimed
        cases htask
        exact Or.inr (Or.inr ⟨rfl, hreq⟩)
      · apply Or.inl
        have hother : deployment.worker.keys.gpuHold ≠ some own :=
          fun hsame => hown (Option.some.inj (hsame.symm.trans hheld))
        rw [hkeys, (releaseGpuHold_gpuHold own _).2 hother, hheld]
  · obtain ⟨worker, hact, rfl⟩ := Option.map_eq_some_iff.mp hstep
    simp only [WorkerDeps.act] at hact
    split at hact
    · rename_i hlock
      have hclaimed := (hinv.consistent.claims id token task hclaims).1
      have hne : released ≠ token := fun heq => hinv.releasing released hlock (heq ▸ hclaimed)
      apply Or.inl
      obtain rfl := Option.some.inj hact
      show (if outcome = .returns then _ else deployment.worker.keys).gpuHold = some token
      split
      · rw [(releaseGpuHold_gpuHold released _).2 (by simp [hheld, hne.symm]), hheld]
      · exact hheld
    · simp at hact
  · exact Or.inr (Or.inl rfl)

/-- How a job settles its hold. -/
structure Settles (job : Submission Token) : Prop where
  released : job.stage = .ended →
    (job.transmissionStarted = false ∨ ∃ taskId, job.report = some (false, taskId)) →
      job.releaseAttempted = true
  kept : ∀ taskId, job.report = some (true, some taskId) → job.releaseAttempted = false
  followed : ∀ taskId, job.report = some (true, some taskId) → job.cancelling = false →
    (job.stage = .stoppingRenewal false ∧ job.taskId = some taskId) ∨ job.followed = some taskId

omit [DecidableEq Token] in
theorem Sound.settles {job : Submission Token} (hsound : Sound job) : Settles job := by
  obtain ⟨⟨hkept, hclaimed⟩, hfacts⟩ := hsound
  refine ⟨?_, ?_, ?_⟩
  · intro hended hunclaimed
    unfold Facts at hfacts
    rw [hended] at hfacts
    apply hfacts.1
    by_contra hcomplete
    obtain ⟨hstarted, -, hreport⟩ := hkept (by simpa using hcomplete)
    rcases hunclaimed with hunstarted | ⟨taskId, hunclaimed⟩
    · simp [hstarted] at hunstarted
    · exact hreport taskId hunclaimed
  · intro taskId hreport
    exact (hkept (hclaimed taskId hreport)).2.1
  · intro taskId hreport hcancelling
    unfold Facts at hfacts
    rcases hstage : job.stage with _ | _ | _ | _ | _ | _ | _ | _ | raising | _ | _ | _ | _
    all_goals rw [hstage] at hfacts
    case startingRenewal | markingRunning | materializing | preprocessing | loadingModel |
        submitting =>
      exact absurd (hfacts.2.2.2.1.symm.trans hreport) (by simp)
    case probing => exact absurd (hfacts.2.2.symm.trans hreport) (by simp)
    case recoveryReleasing =>
      exact absurd (hfacts.1.symm.trans (hclaimed taskId hreport)) (by decide)
    case stoppingRenewal =>
      rcases raising with _ | _
      · obtain ⟨other, htaskId, hother⟩ := hfacts
        obtain rfl : taskId = other := by simpa [hreport] using hother
        exact Or.inl ⟨rfl, htaskId⟩
      · exact absurd hreport (hfacts.2 taskId)
    case followingEvents =>
      obtain ⟨other, hfollowed, hother⟩ := hfacts
      obtain rfl : taskId = other := by simpa [hreport] using hother
      exact Or.inr hfollowed
    all_goals
      rcases hfacts.2 taskId hreport with hcancelled | hfollowed
      · simp [hcancelling] at hcancelled
      · exact Or.inr hfollowed

/-- In every reachable state the worker refuses to release what a training task has
claimed and names the task, no step takes such a hold from it, and every job settles
its own hold. -/
theorem submission_keeps_hold (hreach : (submissionSystem Job Token).Reachable deployment) :
    ClaimsKept deployment.worker ∧
      (∀ action next, (submissionSystem Job Token).step deployment action next →
        HoldOutlasts deployment next action) ∧
      ∀ id job, deployment.jobs id = some job → Settles job := by
  have hinv := invariant_of_reachable hreach
  refine ⟨hinv.consistent.claimsKept, ?_, ?_⟩
  · intro action next hstep
    exact hinv.holdOutlasts hstep
  · intro id job hjob
    exact (hinv.sound id job hjob).1.settles

section Runs

/-- No job, and an idle worker. -/
def idleDeployment : Deployment Nat Nat where
  jobs := fun _ => none
  worker :=
    { keys := ⟨none, none⟩
      lock := none
      table := ⟨∅, fun _ => none⟩
      requests := fun _ => none
      nextTask := 0 }
  issued := ∅
  granted := ∅

theorem idleDeployment_initial : (submissionSystem Nat Nat).initial idleDeployment :=
  ⟨fun _ => rfl, rfl, rfl, rfl, rfl, rfl⟩

/-- A job up to the await of its training request. -/
def upToSubmission : List (LoraSubmission.Action Nat Nat) :=
  [.reserve 7, .prepare 0 7, .resume 0 .returns, .resume 0 .returns, .resume 0 .returns,
    .resume 0 .returns, .resume 0 .returns]

/-- The worker receives the training request and starts the training. -/
def training : List (LoraSubmission.Action Nat Nat) :=
  [.deliver 0 .trainLora, .resumeTraining 0 .returns, .resumeTraining 0 .returns,
    .resumeTraining 0 .returns, .resumeTraining 0 .returns, .resumeTraining 0 .returns]

/-- The answer to the training request is lost, and the probe finds the task. -/
def answerLost : List (LoraSubmission.Action Nat Nat) :=
  upToSubmission ++ training ++
    [.resume 0 .httpError, .deliver 0 .handover, .resume 0 .returns, .resume 0 .returns]

theorem submission_keeps_hold_of_lost_answer :
    (ClaimsKept (lastOf idleDeployment (follow Deployment.act idleDeployment answerLost)).worker ∧
      ∀ id job, (lastOf idleDeployment (follow Deployment.act idleDeployment answerLost)).jobs id =
        some job → Settles job) ∧
    ((lastOf idleDeployment (follow Deployment.act idleDeployment answerLost)).jobs 0).map
      (fun job => (job.stage, job.followed)) = some (.followingEvents, some 0) := by
  have hkeeps := submission_keeps_hold
    (reachable_follow (.initial idleDeployment_initial) answerLost)
  exact ⟨⟨hkeeps.1, hkeeps.2.2⟩, by decide⟩

/-- The job is cancelled while it waits for the answer, and the probe finds the task. -/
def cancelledAfterHandover : List (LoraSubmission.Action Nat Nat) :=
  upToSubmission ++ training ++
    [.cancel 0, .resume 0 .cancelled, .deliver 0 .handover, .resume 0 .returns,
      .resume 0 .returns, .resume 0 .returns]

/-- The training request never leaves, and neither does the probe. -/
def requestLost : List (LoraSubmission.Action Nat Nat) :=
  upToSubmission ++
    [.lose 0 .trainLora, .resume 0 .httpError, .lose 0 .handover, .resume 0 .httpError,
      .resume 0 .returns, .resume 0 .returns]

/-- A job that was cancelled ends without following the task that the worker reported,
and one whose request and probe were lost ends without attempting a release. -/
theorem cancelled_job_leaves_task :
    ((lastOf idleDeployment
        (follow Deployment.act idleDeployment cancelledAfterHandover)).jobs 0).map
      (fun job => (job.stage, job.report, job.followed)) =
        some (.ended, some (true, some 0), none) ∧
    ((lastOf idleDeployment (follow Deployment.act idleDeployment requestLost)).jobs 0).map
      (fun job => (job.stage, job.inFlight, job.releaseAttempted)) = some (.ended, [], false) ∧
    (lastOf idleDeployment (follow Deployment.act idleDeployment requestLost)).worker.requests 0 =
      none := by
  refine ⟨?_, ?_, ?_⟩
  · decide
  · decide
  · decide

end Runs

end Songmaker.Lora.HoldKept
