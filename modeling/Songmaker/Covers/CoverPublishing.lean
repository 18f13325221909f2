import Songmaker.Covers.CoverRuns

/-!
A cover job is completed exactly when its suggestion is there, and its run leaves
no staging directory behind, as long as recoveries do not cross the commit of a
run and nothing interrupts the thread that makes or removes the directory.
-/

namespace Songmaker.Covers.CoverPublishing

open Songmaker.Foundation
open Songmaker.Jobs
open Songmaker.Covers.CoverRuns

/-- The steps after which the claim may fail are left out: a cancellation while
the staging directory is being made or cleaned up, a cleanup that fails although
`shutil.rmtree` has raised nothing, and a recovery whose job ends between its
reads and its writes. -/
def Orderly (s : State) : Action → Prop
  | .cancelTask => s.run ≠ .creating ∧ ∀ cancelled, s.run ≠ .cleaning true cancelled
  | .run fate _ => ∀ cancelled, s.run = .cleaning true cancelled → fate ≠ .done →
      s.reported = true
  | .recover recovery .done _ =>
      (s.recoveries recovery = some (.listed true) → s.job.status = .running) ∧
        ∀ seen rows stale, s.recoveries recovery = some (.loaded seen rows (some stale)) →
          s.job.status ∉ jobTerminalStatuses
  | _ => True

/-- The job is completed iff its suggestion row is there, a job that failed or was
cancelled has none, its suggestion has its picture, and a run that is over left no
staging directory that no exception reported. -/
structure Published (s : State) : Prop where
  completed : s.job.status = .completed ↔ s.suggestion = true
  pictured : s.suggestion = true → s.picture = true
  unpublished : s.job.status = .failed ∨ s.job.status = .cancelled → s.suggestion = false
  staging : s.Returned → s.staging = none ∨ s.reported = true

/-- A recovery that deletes no suggestion. -/
def Spares : Recovery → Prop
  | .listed _ | .stagings _ => True
  | .deleted _ rows | .files _ rows => rows = false
  | .loaded _ rows stale => rows = false ∧ ∀ old ∈ stale, old.status = .running

/-- What the transaction of a publication knows of the row it is about to commit. -/
def Pending (s : State) (pending : JobRow) : Prop :=
  s.job.status ∉ jobTerminalStatuses ∧ pending.status = .completed

/-- What is known at each point of the publishing. -/
def PublishFacts (s : State) : PublishPoint → Prop
  | .locking | .withdrawing => True
  | .makingParent pending | .moving pending => Pending s pending
  | .committing pending => Pending s pending ∧ s.picture = true

/-- What holds where a run stands. -/
def Facts (s : State) : RunPoint → Prop
  | .beating | .loading | .checking | .picturing | .ending _ _ | .creating | .cleaning false _ =>
      s.suggestion = false ∧ s.staging = none
  | .writing | .beatingAgain => s.suggestion = false
  | .publishing point _ => s.suggestion = false ∧ PublishFacts s point
  | .removing | .cleaning true _ | .crashed => True
  | .failing _ | .returned | .raised => s.staging = none ∨ s.reported = true

/-- A job is completed exactly when its suggestion is there, and a suggestion has its picture. -/
structure Invariant (s : State) : Prop where
  completed : s.job.status = .completed ↔ s.suggestion = true
  pictured : s.suggestion = true → s.picture = true
  recoveries : ∀ recovery point, s.recoveries recovery = some point → Spares point
  facts : Facts s s.run
  adrift : ∀ thread ∈ s.adrift, thread ≠ .creating ∧ thread ≠ .cleaning

variable {s t : State}

theorem Invariant.published (hinv : Invariant s) : Published s where
  completed := hinv.completed
  pictured := hinv.pictured
  unpublished := by
    intro hstatus
    rw [← Bool.not_eq_true, ← hinv.completed]
    rcases hstatus with hstatus | hstatus
    · simp [hstatus]
    · simp [hstatus]
  staging := by
    have hfacts := hinv.facts
    rintro (hrun | hrun)
    · rw [hrun] at hfacts
      exact hfacts
    · rw [hrun] at hfacts
      exact hfacts

theorem Invariant.unsuggested (hinv : Invariant s) (hactive : s.job.status ∉ jobTerminalStatuses) :
    s.suggestion = false := by
  rw [← Bool.not_eq_true, ← hinv.completed]
  intro hcompleted
  exact hactive (by rw [hcompleted]; decide)

/-! ### The job row -/

/-- A write that leaves ended jobs alone and completes none. -/
def Guarded (change : JobRow → Option JobRow) : Prop :=
  ∀ job job', change job = some job' →
    job.status ∉ jobTerminalStatuses ∧ job'.status ≠ .completed

theorem guarded_updateStatus {update : JobStatusUpdate} {now : Nat}
    (hupdate : update.status ≠ .completed) :
    Guarded (JobRow.updateStatus update now) := by
  intro job job' hjob
  rw [JobRow.updateStatus, Option.ite_none_left_eq_some] at hjob
  obtain ⟨hactive, hjob⟩ := hjob
  refine ⟨hactive, ?_⟩
  rw [← Option.some.inj hjob]
  exact hupdate

theorem guarded_endUpdate (problem : TurnProblem) (now : Nat) :
    Guarded (JobRow.updateStatus (endUpdate problem) now) :=
  guarded_updateStatus (by simp [endUpdate])

theorem guarded_updateHeartbeat {now : Nat} : Guarded (JobRow.updateHeartbeat now) := by
  intro job job' hjob
  rw [JobRow.updateHeartbeat, Option.ite_none_left_eq_some] at hjob
  obtain ⟨hactive, hjob⟩ := hjob
  refine ⟨hactive, ?_⟩
  rw [← Option.some.inj hjob]
  intro hcompleted
  exact hactive (by rw [show job.status = .completed from hcompleted]; decide)

theorem guarded_recoverStale {status : JobStatus} {heartbeatAt completedAt : Nat}
    {error errorType : String} (hactive : status ∈ jobActiveStatuses) :
    Guarded (JobRow.recoverStaleIfUnchanged status heartbeatAt error errorType completedAt) := by
  intro job job' hjob
  unfold JobRow.recoverStaleIfUnchanged at hjob
  split at hjob
  · rename_i hsame
    refine ⟨?_, ?_⟩
    · rw [hsame.1]
      exact (mem_active_iff_notMem_terminal status).mp hactive
    · rw [← Option.some.inj hjob]
      simp
  · simp at hjob

theorem Facts.of_same {point : RunPoint} (hfacts : Facts s point)
    (hlocks : point.locks = true → t.job = s.job) (hsuggestion : t.suggestion = s.suggestion)
    (hpicture : t.picture = s.picture) (hstaging : s.staging = none → t.staging = none)
    (hreported : t.reported = s.reported) :
    Facts t point := by
  rcases point with _ | _ | _ | _ | _ | _ | _ | _ | ⟨point, cancelled⟩ | _ | ⟨staged, cancelled⟩
  case publishing =>
    refine ⟨hsuggestion.trans hfacts.1, ?_⟩
    have hpublish := hfacts.2
    rcases point with _ | pending | pending | pending | _
    · trivial
    · exact ⟨hlocks rfl ▸ hpublish.1, hpublish.2⟩
    · exact ⟨hlocks rfl ▸ hpublish.1, hpublish.2⟩
    · exact ⟨⟨hlocks rfl ▸ hpublish.1.1, hpublish.1.2⟩, hpicture.trans hpublish.2⟩
    · trivial
  case cleaning =>
    rcases staged with _ | _
    · exact ⟨hsuggestion.trans hfacts.1, hstaging hfacts.2⟩
    · trivial
  case writing | beatingAgain => exact hsuggestion.trans hfacts
  case removing | crashed => trivial
  case failing | returned | raised => exact hfacts.imp hstaging hreported.trans
  all_goals exact ⟨hsuggestion.trans hfacts.1, hstaging hfacts.2⟩

theorem Invariant.writeJob {change : JobRow → Option JobRow} (hinv : Invariant s)
    (hunlocked : s.run.locks = false) (hguarded : Guarded change) :
    Invariant (s.writeJob change) := by
  refine ⟨?_, hinv.pictured, hinv.recoveries, ?_, hinv.adrift⟩
  · show ((change s.job).getD s.job).status = .completed ↔ s.suggestion = true
    rcases hchange : change s.job with _ | job'
    · exact hinv.completed
    · obtain ⟨hactive, hjob'⟩ := hguarded s.job job' hchange
      simp [hinv.unsuggested hactive, hjob']
  · refine hinv.facts.of_same ?_ rfl rfl id rfl
    intro hlocks
    rw [hunlocked] at hlocks
    simp at hlocks

theorem Invariant.goTo {point : RunPoint} (hinv : Invariant s) (hfacts : Facts s point) :
    Invariant (s.goTo point) :=
  ⟨hinv.completed, hinv.pictured, hinv.recoveries,
    hfacts.of_same (fun _ => rfl) rfl rfl id rfl, hinv.adrift⟩

/-! ### The run -/

theorem endWithProblem_keeps {problem : TurnProblem} {attempt : Nat} {again : Nat → RunPoint}
    {finished failed : RunPoint} {fate : Fate} {now : Nat} (hinv : Invariant s)
    (hstep : s.endWithProblem problem attempt again finished failed fate now = some t)
    (hunlocked : s.run.locks = false) (hagain : ∀ attempt, Facts s (again attempt))
    (hover : Facts s finished) (hlocks : finished.locks = false) (hfailed : Facts s failed) :
    Invariant t := by
  rcases fate with _ | _ | _ | _ | _
  · obtain rfl := Option.some.inj hstep
    have hwritten := hinv.writeJob hunlocked
      (guarded_endUpdate problem now)
    apply hwritten.goTo
    refine hover.of_same ?_ rfl rfl id rfl
    simp [hlocks]
  · obtain rfl := Option.some.inj hstep
    apply hinv.goTo
    split
    · exact hagain 1
    · exact hfailed
  · simp [State.endWithProblem] at hstep
  · simp [State.endWithProblem] at hstep
  · simp [State.endWithProblem] at hstep

theorem completed_of_updateStatus {job pending : JobRow} {now : Nat}
    (hupdate : job.updateStatus publishUpdate now = some pending) :
    job.status ∉ jobTerminalStatuses ∧ pending.status = .completed := by
  rw [JobRow.updateStatus, Option.ite_none_left_eq_some] at hupdate
  exact ⟨hupdate.1, by rw [← Option.some.inj hupdate.2]; rfl⟩

/-- The commit of a publication completes the job and adds its suggestion at once. -/
theorem Invariant.commit {pending : JobRow} {cancelled : Bool} (hinv : Invariant s)
    (hpublish : PublishFacts s (.committing pending)) :
    Invariant { s with
      job := pending
      suggestion := true
      run := if cancelled then .cleaning true true else .removing } := by
  refine ⟨by simp [hpublish.1.2], fun _ => hpublish.2, hinv.recoveries, ?_, hinv.adrift⟩
  rcases cancelled with _ | _
  · trivial
  · trivial

theorem publish_keeps {point : PublishPoint} {cancelled : Bool} {fate : Fate} {now : Nat}
    (hinv : Invariant s) (hrun : s.run = .publishing point cancelled)
    (hstep : s.publish point cancelled fate now = some t) :
    Invariant t := by
  obtain ⟨hsuggestion, hpublish⟩ : s.suggestion = false ∧ PublishFacts s point := by
    have hfacts := hinv.facts
    rw [hrun] at hfacts
    exact hfacts
  have hraise : Invariant (s.goTo (.cleaning true cancelled)) := hinv.goTo trivial
  rcases point with _ | pending | pending | pending | _
  · rcases fate with _ | _ | _ | _ | _
    · simp only [State.publish] at hstep
      split at hstep
      · exact Option.some.inj hstep ▸ hraise
      · rename_i pending hpending
        obtain rfl := Option.some.inj hstep
        exact hinv.goTo ⟨hsuggestion, completed_of_updateStatus hpending⟩
    · exact Option.some.inj hstep ▸ hraise
    all_goals simp [State.publish] at hstep
  · rcases fate with _ | _ | _ | _ | _
    · exact Option.some.inj hstep ▸ hinv.goTo ⟨hsuggestion, hpublish⟩
    · exact Option.some.inj hstep ▸ hraise
    all_goals simp [State.publish] at hstep
  · rcases fate with _ | _ | _ | _ | _
    · simp only [State.publish] at hstep
      split at hstep
      · obtain rfl := Option.some.inj hstep
        exact ⟨hinv.completed, fun _ => rfl, hinv.recoveries, ⟨hsuggestion, hpublish, rfl⟩,
          hinv.adrift⟩
      · exact Option.some.inj hstep ▸ hraise
    · exact Option.some.inj hstep ▸ hraise
    all_goals simp [State.publish] at hstep
  · rcases fate with _ | _ | _ | _ | _
    · exact Option.some.inj hstep ▸ hinv.commit hpublish
    · exact Option.some.inj hstep ▸ hinv.goTo ⟨hsuggestion, trivial⟩
    all_goals simp [State.publish] at hstep
  · rcases fate with _ | _ | _ | _ | _
    · obtain rfl := Option.some.inj hstep
      refine ⟨hinv.completed, ?_, hinv.recoveries, trivial, hinv.adrift⟩
      intro hsuggested
      rw [show s.suggestion = true from hsuggested] at hsuggestion
      simp at hsuggestion
    · exact Option.some.inj hstep ▸ hraise
    all_goals simp [State.publish] at hstep

theorem Invariant.setStaging {staging : Option Bool} {reported : Bool} {point : RunPoint}
    (hinv : Invariant s)
    (hfacts : Facts { s with staging := staging, reported := reported, run := point } point) :
    Invariant { s with staging := staging, reported := reported, run := point } :=
  ⟨hinv.completed, hinv.pictured, hinv.recoveries, hfacts, hinv.adrift⟩

theorem early_keeps {fate : Fate} {now : Nat} (hinv : Invariant s)
    (hpoint : s.run ∈ [.beating, .loading, .checking, .picturing, .creating])
    (hstep : s.runStep s.run fate now = some t) :
    Invariant t := by
  have hfacts := hinv.facts
  have hbeat : s.run.locks = false →
      Invariant (s.writeJob (JobRow.updateHeartbeat now)) := fun hunlocked =>
    hinv.writeJob hunlocked guarded_updateHeartbeat
  simp only [List.mem_cons, List.not_mem_nil, or_false] at hpoint
  rcases hpoint with hrun | hrun | hrun | hrun | hrun
  all_goals rw [hrun] at hstep hfacts hbeat
  all_goals obtain ⟨hsuggestion, hstaging⟩ : s.suggestion = false ∧ s.staging = none := hfacts
  · rcases fate with _ | _ | _ | _ | _
    · exact Option.some.inj hstep ▸ (hbeat rfl).goTo ⟨hsuggestion, hstaging⟩
    · exact Option.some.inj hstep ▸ hinv.goTo ⟨hsuggestion, hstaging⟩
    all_goals simp [State.runStep] at hstep
  · rcases fate with _ | _ | _ | problem | _
    · obtain rfl := Option.some.inj hstep
      apply hinv.goTo
      split
      · exact ⟨hsuggestion, hstaging⟩
      · exact ⟨hsuggestion, hstaging⟩
    · exact Option.some.inj hstep ▸ hinv.goTo ⟨hsuggestion, hstaging⟩
    · simp [State.runStep] at hstep
    · simp only [State.runStep] at hstep
      split at hstep
      · exact Option.some.inj hstep ▸ hinv.goTo ⟨hsuggestion, hstaging⟩
      · simp at hstep
    · simp [State.runStep] at hstep
  · rcases fate with _ | _ | _ | _ | _
    · obtain rfl := Option.some.inj hstep
      apply hinv.goTo
      split
      · exact ⟨hsuggestion, hstaging⟩
      · exact Or.inl hstaging
    · exact Option.some.inj hstep ▸ hinv.goTo ⟨hsuggestion, hstaging⟩
    · simp [State.runStep] at hstep
    · simp [State.runStep] at hstep
    · simp only [State.runStep] at hstep
      split at hstep
      · exact Option.some.inj hstep ▸ hinv.goTo (Or.inl hstaging)
      · simp at hstep
  · rcases fate with _ | _ | _ | problem | _
    · exact Option.some.inj hstep ▸ hinv.goTo ⟨hsuggestion, hstaging⟩
    · exact Option.some.inj hstep ▸ hinv.goTo ⟨hsuggestion, hstaging⟩
    · simp [State.runStep] at hstep
    · exact Option.some.inj hstep ▸ hinv.goTo ⟨hsuggestion, hstaging⟩
    · simp only [State.runStep] at hstep
      split at hstep
      · exact Option.some.inj hstep ▸ hinv.goTo (Or.inl hstaging)
      · simp at hstep
  · rcases fate with _ | _ | _ | _ | _
    · simp only [State.runStep, hstaging] at hstep
      exact Option.some.inj hstep ▸ hinv.setStaging hsuggestion
    · exact Option.some.inj hstep ▸ hinv.goTo ⟨hsuggestion, hstaging⟩
    all_goals simp [State.runStep] at hstep

theorem staged_keeps {fate : Fate} {now : Nat} (hinv : Invariant s)
    (hpoint : s.run ∈ [.writing, .beatingAgain, .removing])
    (hstep : s.runStep s.run fate now = some t) :
    Invariant t := by
  have hfacts := hinv.facts
  have hbeat : s.run.locks = false →
      Invariant (s.writeJob (JobRow.updateHeartbeat now)) := fun hunlocked =>
    hinv.writeJob hunlocked guarded_updateHeartbeat
  simp only [List.mem_cons, List.not_mem_nil, or_false] at hpoint
  rcases hpoint with hrun | hrun | hrun
  all_goals rw [hrun] at hstep hfacts hbeat
  · rcases fate with _ | _ | _ | _ | _
    · simp only [State.runStep] at hstep
      split at hstep
      · exact Option.some.inj hstep ▸ hinv.setStaging hfacts
      · exact Option.some.inj hstep ▸ hinv.goTo trivial
    · exact Option.some.inj hstep ▸ hinv.goTo trivial
    all_goals simp [State.runStep] at hstep
  · rcases fate with _ | _ | _ | _ | _
    · exact Option.some.inj hstep ▸ (hbeat rfl).goTo ⟨hfacts, trivial⟩
    · exact Option.some.inj hstep ▸ hinv.goTo ⟨hfacts, trivial⟩
    all_goals simp [State.runStep] at hstep
  · rcases fate with _ | _ | _ | _ | _
    · simp only [State.runStep] at hstep
      split at hstep
      · exact Option.some.inj hstep ▸ hinv.setStaging (Or.inl rfl)
      · exact Option.some.inj hstep ▸ hinv.setStaging trivial
    · exact Option.some.inj hstep ▸ hinv.setStaging trivial
    · exact Option.some.inj hstep ▸ hinv.setStaging trivial
    all_goals simp [State.runStep] at hstep

theorem cleaning_keeps {staged cancelled : Bool} {fate : Fate} {now : Nat} (hinv : Invariant s)
    (hrun : s.run = .cleaning staged cancelled) (horderly : Orderly s (.run fate now))
    (hstep : s.runStep s.run fate now = some t) :
    Invariant t := by
  have hfacts := hinv.facts
  rw [hrun] at hstep hfacts
  simp only [State.runStep] at hstep
  split at hstep
  · obtain rfl := Option.some.inj hstep
    have hgone : (if staged then if fate = .done then none else s.stagingLeft fate else s.staging) =
        none ∨ s.reported = true := by
      rcases staged with _ | _
      · exact Or.inl hfacts.2
      · by_cases hdone : fate = .done
        · simp [hdone]
        · exact Or.inr (horderly cancelled hrun hdone)
    apply hinv.setStaging
    rcases cancelled with _ | _
    · exact hgone
    · exact hgone
  · simp at hstep

theorem runStep_keeps {fate : Fate} {now : Nat} (hinv : Invariant s)
    (horderly : Orderly s (.run fate now)) (hstep : s.runStep s.run fate now = some t) :
    Invariant t := by
  have hfacts := hinv.facts
  rcases hrun : s.run with _ | _ | _ | _ | ⟨problem, attempt⟩ | _ | _ | _ | ⟨point, cancelled⟩ |
    _ | ⟨staged, cancelled⟩ | attempt
  case ending =>
    rw [hrun] at hstep hfacts
    exact endWithProblem_keeps hinv hstep (by rw [hrun]; rfl) (fun _ => hfacts)
      (Or.inl hfacts.2) rfl hfacts
  case failing =>
    rw [hrun] at hstep hfacts
    exact endWithProblem_keeps hinv hstep (by rw [hrun]; rfl) (fun _ => hfacts) hfacts rfl hfacts
  case publishing =>
    rw [hrun] at hstep
    exact publish_keeps hinv hrun hstep
  case cleaning => exact cleaning_keeps hinv hrun horderly hstep
  case beating | loading | checking | picturing | creating =>
    exact early_keeps hinv (by simp [hrun]) hstep
  case writing | beatingAgain | removing => exact staged_keeps hinv (by simp [hrun]) hstep
  case returned | raised | crashed =>
    rw [hrun] at hstep
    simp [State.runStep] at hstep

theorem cancelTask_keeps {point : RunPoint} {threads : List Thread} (hinv : Invariant s)
    (horderly : Orderly s .cancelTask)
    (hcancelled : State.cancelled s.run = some (point, threads)) :
    Invariant { s with run := point, adrift := threads ++ s.adrift } := by
  have hfacts := hinv.facts
  suffices h : Facts s point ∧ ∀ thread ∈ threads, thread ≠ .creating ∧ thread ≠ .cleaning by
    refine ⟨hinv.completed, hinv.pictured, hinv.recoveries, ?_, ?_⟩
    · exact h.1.of_same (fun _ => rfl) rfl rfl id rfl
    · intro thread hthread
      rcases List.mem_append.mp hthread with hthread | hthread
      · exact h.2 thread hthread
      · exact hinv.adrift thread hthread
  rcases hrun : s.run with _ | _ | _ | _ | ⟨problem, attempt⟩ | _ | _ | _ |
    ⟨publish, cancelled⟩ | _ | ⟨staged, cancelled⟩ | attempt
  all_goals rw [hrun] at hfacts hcancelled
  case creating => exact absurd hrun horderly.1
  case cleaning =>
    rcases staged with _ | _
    · cases hcancelled
      exact ⟨Or.inl hfacts.2, by simp⟩
    · exact absurd hrun (horderly.2 cancelled)
  case beating =>
    cases hcancelled
    exact ⟨Or.inl hfacts.2, by simp⟩
  case loading | checking | picturing | ending =>
    cases hcancelled
    exact ⟨hfacts, by simp⟩
  case writing | beatingAgain | removing =>
    cases hcancelled
    exact ⟨trivial, by simp⟩
  case publishing | failing =>
    cases hcancelled
    exact ⟨hfacts, by simp⟩
  case returned | raised | crashed => simp [State.cancelled] at hcancelled

theorem crash_keeps (hinv : Invariant s) :
    Invariant { s with run := .crashed, adrift := [] } :=
  ⟨hinv.completed, hinv.pictured, hinv.recoveries, trivial, by simp⟩

/-- A thread adrift that writes no job row only takes from the staging directory. -/
theorem Invariant.drift {staging : Option Bool} {adrift : List Thread} (hinv : Invariant s)
    (hstaging : s.staging = none → staging = none)
    (hadrift : ∀ thread ∈ adrift, thread ≠ .creating ∧ thread ≠ .cleaning) :
    Invariant { s with staging := staging, adrift := adrift } :=
  ⟨hinv.completed, hinv.pictured, hinv.recoveries,
    hinv.facts.of_same (fun _ => rfl) rfl rfl hstaging rfl, hadrift⟩

theorem drift_keeps {thread : Thread} {fate : Fate} {now : Nat} (hinv : Invariant s)
    (hthread : thread ∈ s.adrift) (hstep : s.driftStep thread fate now = some t) :
    Invariant t := by
  have hrest : ∀ other ∈ s.adrift.erase thread, other ≠ .creating ∧ other ≠ .cleaning :=
    fun other hother => hinv.adrift other (List.mem_of_mem_erase hother)
  have hleft : s.staging = none → s.stagingLeft .part = none := by
    intro hnone
    simp [State.stagingLeft, hnone]
  obtain ⟨hcreating, hcleaning⟩ := hinv.adrift thread hthread
  rcases thread with ⟨problem, attempt⟩ | _ | _ | _ | _
  · rcases fate with _ | _ | _ | _ | _
    · simp only [State.driftStep] at hstep
      split at hstep
      · rename_i hunlocked
        obtain rfl := Option.some.inj hstep
        exact (hinv.drift id hrest).writeJob hunlocked (guarded_endUpdate problem now)
      · simp at hstep
    · obtain rfl := Option.some.inj hstep
      apply hinv.drift id
      intro other hother
      split at hother
      · rcases List.mem_cons.mp hother with rfl | hother
        · simp
        · exact hrest other hother
      · exact hrest other hother
    all_goals simp [State.driftStep] at hstep
  · exact absurd rfl hcreating
  · rcases fate with _ | _ | _ | _ | _
    · obtain rfl := Option.some.inj hstep
      exact hinv.drift (by simp +contextual) hrest
    · exact Option.some.inj hstep ▸ hinv.drift id hrest
    all_goals simp [State.driftStep] at hstep
  · rcases fate with _ | _ | _ | _ | _
    · exact Option.some.inj hstep ▸ hinv.drift (fun _ => rfl) hrest
    · exact Option.some.inj hstep ▸ hinv.drift id hrest
    · exact Option.some.inj hstep ▸ hinv.drift hleft hrest
    all_goals simp [State.driftStep] at hstep
  · exact absurd rfl hcleaning

/-! ### The recoveries -/

theorem Invariant.setRecovery {recovery : Nat} {point : Option Recovery} (hinv : Invariant s)
    (hpoint : ∀ next, point = some next → Spares next) :
    Invariant (s.setRecovery recovery point) := by
  refine ⟨hinv.completed, hinv.pictured, ?_, ?_, hinv.adrift⟩
  · intro other next hnext
    by_cases hne : other = recovery
    · subst hne
      exact hpoint next (by simpa [State.setRecovery] using hnext)
    · exact hinv.recoveries other next (by simpa [State.setRecovery, hne] using hnext)
  · exact hinv.facts.of_same (fun _ => rfl) rfl rfl id rfl

theorem recoverByType_status {loaded job : JobRow} {now : Nat}
    (hloaded : loaded.status = .running) :
    (JobRow.recoverByType loaded now job).status = .failed := by
  simp [JobRow.recoverByType, JobRow.flushColumn, hloaded]

theorem commitRecovery_keeps {seen : Bool} {stale : Option JobRow} {recovery now : Nat}
    (hinv : Invariant s) (hstale : ∀ old ∈ stale, old.status = .running)
    (hactive : stale ≠ none → s.job.status ∉ jobTerminalStatuses)
    (hstep : s.commitRecovery seen false stale recovery now = some t) :
    Invariant t := by
  have hsuggestion : (s.suggestion && !false) = s.suggestion := by simp
  rcases stale with _ | loaded
  · simp only [State.commitRecovery, hsuggestion] at hstep
    exact Option.some.inj hstep ▸ hinv.setRecovery (by rintro _ ⟨⟩; rfl)
  · simp only [State.commitRecovery, hsuggestion] at hstep
    split at hstep
    · rename_i hunlocked
      obtain rfl := Option.some.inj hstep
      have hwritten : Invariant { s with job := JobRow.recoverByType loaded now s.job } := by
        refine ⟨?_, hinv.pictured, hinv.recoveries, ?_, hinv.adrift⟩
        · simp [recoverByType_status (hstale loaded rfl), hinv.unsuggested (hactive (by simp))]
        · refine hinv.facts.of_same ?_ rfl rfl id rfl
          intro hlocks
          rw [hunlocked] at hlocks
          simp at hlocks
      exact hwritten.setRecovery (by rintro _ ⟨⟩; rfl)
    · simp at hstep

theorem recoverStep_keeps {recovery now : Nat} {fate : Fate} (hinv : Invariant s)
    (horderly : Orderly s (.recover recovery fate now))
    (hstep : s.recoverStep recovery now (s.recoveries recovery) fate = some t) :
    Invariant t := by
  have hleft : s.staging = none → s.stagingLeft .part = none := by
    intro hnone
    simp [State.stagingLeft, hnone]
  rcases hpoint : s.recoveries recovery with _ | point
  · rw [hpoint] at hstep
    rcases fate with _ | _ | _ | _ | _
    · exact Option.some.inj hstep ▸ hinv.setRecovery (by rintro _ ⟨⟩; trivial)
    all_goals simp [State.recoverStep] at hstep
  · rw [hpoint] at hstep
    have hspares := hinv.recoveries recovery point hpoint
    by_cases hfate : fate = .failed
    · subst hfate
      obtain rfl : s.setRecovery recovery none = t := by
        rcases point <;> exact Option.some.inj hstep
      exact hinv.setRecovery (by simp)
    · rcases point with seen | ⟨seen, rows⟩ | ⟨seen, rows, stale⟩ | ⟨seen, rows⟩ | seen
      · rcases fate with _ | _ | _ | _ | _
        · obtain rfl := Option.some.inj hstep
          apply hinv.setRecovery
          rintro _ ⟨⟩
          rcases seen with _ | _
          · rfl
          · have hrunning := horderly.1 hpoint
            show (true && s.suggestion) = false
            rw [Bool.true_and]
            exact hinv.unsuggested (by rw [hrunning]; decide)
        · exact absurd rfl hfate
        all_goals simp [State.recoverStep] at hstep
      · rcases fate with _ | _ | _ | _ | _
        · obtain rfl := Option.some.inj hstep
          apply hinv.setRecovery
          rintro _ ⟨⟩
          refine ⟨hspares, ?_⟩
          intro old hold
          split at hold
          · rename_i hrunning
            obtain rfl := Option.some.inj hold
            exact hrunning
          · simp at hold
        · exact absurd rfl hfate
        all_goals simp [State.recoverStep] at hstep
      · rcases fate with _ | _ | _ | _ | _
        · obtain ⟨hrows, hstale⟩ := hspares
          change rows = false at hrows
          subst hrows
          refine commitRecovery_keeps hinv hstale ?_ hstep
          intro hsome
          obtain ⟨loaded, rfl⟩ := Option.ne_none_iff_exists'.mp hsome
          exact horderly.2 seen false loaded hpoint
        · exact absurd rfl hfate
        all_goals simp [State.recoverStep] at hstep
      · rcases fate with _ | _ | _ | _ | _
        · change rows = false at hspares
          subst hspares
          simp only [State.recoverStep, Bool.not_false, Bool.and_true] at hstep
          exact Option.some.inj hstep ▸ hinv.setRecovery (by rintro _ ⟨⟩; trivial)
        · exact absurd rfl hfate
        all_goals simp [State.recoverStep] at hstep
      · rcases fate with _ | _ | _ | _ | _
        · obtain rfl := Option.some.inj hstep
          refine (hinv.drift ?_ hinv.adrift).setRecovery (by simp)
          intro hnone
          simp [hnone]
        · exact absurd rfl hfate
        · obtain rfl := Option.some.inj hstep
          refine (hinv.drift ?_ hinv.adrift).setRecovery (by simp)
          intro hnone
          simp [hnone, hleft hnone]
        all_goals simp [State.recoverStep] at hstep

/-! ### Every step -/

theorem act_keeps {a : Action} (hinv : Invariant s) (horderly : Orderly s a)
    (hstep : s.act a = some t) :
    Invariant t := by
  rcases a with now | ⟨status, heartbeatAt, error, errorType, now⟩ | now | _ | _ |
    ⟨fate, now⟩ | ⟨thread, fate, now⟩ | ⟨recovery, fate, now⟩
  · simp only [State.act] at hstep
    split at hstep
    · rename_i hguard
      obtain rfl := Option.some.inj hstep
      have hguarded : Guarded (JobRow.updateStatus cancelUpdate now) :=
        guarded_updateStatus (by simp [cancelUpdate])
      have hwritten := hinv.writeJob hguard.1 hguarded
      exact ⟨hwritten.completed, hwritten.pictured, hwritten.recoveries,
        hwritten.facts.of_same (fun _ => rfl) rfl rfl id rfl, hwritten.adrift⟩
    · simp at hstep
  · simp only [State.act] at hstep
    split at hstep
    · rename_i hguard
      exact Option.some.inj hstep ▸ hinv.writeJob hguard.1 (guarded_recoverStale hguard.2)
    · simp at hstep
  · simp only [State.act] at hstep
    split at hstep
    · rename_i hunlocked
      exact Option.some.inj hstep ▸ hinv.writeJob hunlocked guarded_updateHeartbeat
    · simp at hstep
  · obtain ⟨⟨point, threads⟩, hcancelled, rfl⟩ := Option.map_eq_some_iff.mp hstep
    exact cancelTask_keeps hinv horderly hcancelled
  · simp only [State.act] at hstep
    split at hstep
    · simp at hstep
    · exact Option.some.inj hstep ▸ crash_keeps hinv
  · exact runStep_keeps hinv horderly hstep
  · simp only [State.act] at hstep
    split at hstep
    · rename_i hthread
      exact drift_keeps hinv hthread hstep
    · simp at hstep
  · exact recoverStep_keeps hinv horderly hstep

theorem invariant_of_claimed (hclaimed : claimed s) : Invariant s := by
  obtain ⟨hrunning, hsuggestion, -, hstaging, hrun, hadrift, -, -, hrecoveries⟩ := hclaimed
  constructor
  · simp [hrunning, hsuggestion]
  · simp [hsuggestion]
  · intro recovery point hpoint
    simp [hrecoveries recovery] at hpoint
  · rw [hrun]
    exact ⟨hsuggestion, hstaging⟩
  · simp [hadrift]

open TransitionSystem

/-- In every orderly run a cover job is completed exactly when its suggestion is
published, and no staging directory is left behind unreported. -/
theorem cover_job_published (s : State) (run : List (Action × State))
    (hinitial : coverRunSystem.initial s) (hrun : coverRunSystem.IsRun s run)
    (hmeet : StepsMeet Orderly s run) :
    ∀ t ∈ visited s run, Published t := by
  intro t ht
  apply Invariant.published
  refine forall_visited_of_stepsMeet ?_ (invariant_of_claimed hinitial) hrun hmeet t ht
  exact fun s a t hinv hstep horderly => act_keeps hinv horderly hstep

def claimedJob : JobRow :=
  { createJob .cover (some "user") (some "session") 0 with status := .running }

def freshlyClaimed : State where
  job := claimedJob
  suggestion := false
  picture := false
  staging := none
  run := .beating
  adrift := []
  aborted := false
  reported := false
  recoveries _ := none

theorem freshlyClaimed_initial : coverRunSystem.initial freshlyClaimed :=
  ⟨rfl, rfl, rfl, rfl, rfl, rfl, rfl, rfl, fun _ => rfl⟩

/-- The steps of a run up to its publication. -/
def drawing : List Action := List.replicate 7 (.run .done 1)

/-- The steps of its publication. -/
def publishing : List Action := List.replicate 4 (.run .done 2)

theorem cover_job_published_undisturbed :
    (lastOf freshlyClaimed (follow State.act freshlyClaimed
        (drawing ++ publishing ++ [.run .done 3]))).run = .returned ∧
      Published (lastOf freshlyClaimed (follow State.act freshlyClaimed
        (drawing ++ publishing ++ [.run .done 3]))) := by
  refine ⟨by decide +kernel, ?_⟩
  apply cover_job_published freshlyClaimed _ freshlyClaimed_initial
    (isRun_follow _ State.act freshlyClaimed _) _ _ (lastOf_mem_visited _ _)
  apply stepsMeet_follow
  intro s a ha
  have hdone : ∃ now, a = .run .done now := by
    simp only [drawing, publishing, List.mem_append, List.mem_replicate, List.mem_singleton] at ha
    rcases ha with (⟨-, rfl⟩ | ⟨-, rfl⟩) | rfl
    · exact ⟨1, rfl⟩
    · exact ⟨2, rfl⟩
    · exact ⟨3, rfl⟩
  obtain ⟨now, rfl⟩ := hdone
  exact fun _ _ hdone => absurd rfl hdone

/-- The recovery of a restarted process loads the job as running before the run
publishes, and flushes after. -/
def crossedPublication : List Action :=
  drawing ++ List.replicate 3 (.recover 0 .done 1) ++ publishing ++ [.recover 0 .done 3]

theorem recovery_fails_published_job :
    ¬ ∀ (s : State) (run : List (Action × State)), coverRunSystem.initial s →
      coverRunSystem.IsRun s run → ∀ t ∈ visited s run, Published t := by
  intro hpublished
  have hlast := hpublished freshlyClaimed (follow State.act freshlyClaimed crossedPublication)
    freshlyClaimed_initial (isRun_follow _ State.act freshlyClaimed crossedPublication) _
    (lastOf_mem_visited _ _)
  exact absurd (hlast.unpublished (Or.inl (by decide +kernel))) (by decide +kernel)

end Songmaker.Covers.CoverPublishing
