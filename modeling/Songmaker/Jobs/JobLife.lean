import Songmaker.Foundation.RowCounts
import Songmaker.Jobs.JobTransactions

namespace Songmaker.Jobs

open Songmaker.Foundation.RowLocks

namespace JobRow

/-- The change keeps what a quota counts by, and revives no job that is over. -/
structure NotRevived (job job' : JobRow) : Prop where
  jobType : job'.jobType = job.jobType
  userId : job'.userId = job.userId
  startedAt : job'.startedAt = job.startedAt
  active : job'.status ∈ jobActiveStatuses → job.status ∈ jobActiveStatuses

instance : IsPreorder JobRow NotRevived where
  refl _ := ⟨rfl, rfl, rfl, id⟩
  trans _ _ _ hfirst hsecond :=
    ⟨hsecond.jobType.trans hfirst.jobType, hsecond.userId.trans hfirst.userId,
      hsecond.startedAt.trans hfirst.startedAt,
        fun hactive => hfirst.active (hsecond.active hactive)⟩

theorem failed_notMem_active : JobStatus.failed ∉ jobActiveStatuses := by decide

theorem notRevived_updateStatus {update : JobStatusUpdate} {now : Nat} {job job' : JobRow}
    (hupdate : job.updateStatus update now = some job') : NotRevived job job' := by
  rw [updateStatus, Option.ite_none_left_eq_some] at hupdate
  obtain ⟨hactive, rfl⟩ := hupdate.imp_right Option.some.inj
  exact ⟨rfl, rfl, rfl, fun _ => (mem_active_iff_notMem_terminal job.status).mpr hactive⟩

theorem notRevived_updateHeartbeat {now : Nat} {job job' : JobRow}
    (hupdate : job.updateHeartbeat now = some job') : NotRevived job job' := by
  rw [updateHeartbeat, Option.ite_none_left_eq_some] at hupdate
  obtain ⟨-, rfl⟩ := hupdate.imp_right Option.some.inj
  exact ⟨rfl, rfl, rfl, id⟩

theorem notRevived_claimCover {now : Nat} {job job' : JobRow}
    (hclaim : job.claimCover now = some job') : NotRevived job job' := by
  rw [claimCover, Option.ite_none_right_eq_some] at hclaim
  obtain ⟨hqueued, rfl⟩ := hclaim.imp_right Option.some.inj
  refine ⟨rfl, rfl, rfl, fun _ => ?_⟩
  rw [hqueued.2]
  decide

theorem notRevived_recoverStaleIfUnchanged {status : JobStatus} {heartbeatAt completedAt : Nat}
    {error errorType : String} {job job' : JobRow}
    (hrecover : job.recoverStaleIfUnchanged status heartbeatAt error errorType completedAt =
      some job') : NotRevived job job' := by
  rw [recoverStaleIfUnchanged, Option.ite_none_right_eq_some] at hrecover
  obtain ⟨-, rfl⟩ := hrecover.imp_right Option.some.inj
  exact ⟨rfl, rfl, rfl, fun hactive => absurd hactive failed_notMem_active⟩

theorem notRevived_recoverByType (loaded : JobRow) (now : Nat) (job : JobRow) :
    NotRevived job (recoverByType loaded now job) := by
  refine ⟨rfl, rfl, rfl, fun hactive => ?_⟩
  rw [recoverByType, flushColumn] at hactive
  split_ifs at hactive
  · exact hactive
  · exact absurd hactive failed_notMem_active

end JobRow

namespace JobTransactions

open Songmaker.Jobs.JobRow

variable {Id Tx : Type} [DecidableEq Id] [DecidableEq Tx]

/-- The transaction that a statement belongs to; an insert is one of its own. -/
def Action.tx : Action Id Tx → Option Tx
  | .createJob .. => none
  | .cancelJob tx _ | .updateJobStatus tx _ _ | .writeStatus tx _ | .updateJobHeartbeat tx _
  | .writeHeartbeat tx _ | .selectCoverJob tx _ | .claimCoverJob tx _ | .selectStaleJobs tx _ _ _
  | .recoverStaleJob tx _ | .recoverStaleJobsByType tx _ _ | .selectRecoverable tx _
  | .flushRecovered tx | .commit tx | .rollback tx => some tx

/-- What the statement `action` made of the table. -/
inductive Writes (jobs : Table Id JobRow Tx) : Action Id Tx → Table Id JobRow Tx → Prop
  | same {action : Action Id Tx} : Writes jobs action jobs
  | row {action : Action Id Tx} {tx : Tx} {id : Id} {change : JobRow → Option JobRow}
      {jobs' : Table Id JobRow Tx} (htx : action.tx = some tx)
      (hchange : ∀ job job', change job = some job' → NotRevived job job')
      (hwrite : jobs.write tx id change = some jobs') : Writes jobs action jobs'
  | insert {id : Id} {jobType : JobType} {userId sessionId : Option String} {now : Nat}
      {jobs' : Table Id JobRow Tx}
      (hinsert : jobs.insert id (createJob jobType userId sessionId now) = some jobs') :
      Writes jobs (.createJob id jobType userId sessionId now) jobs'
  | commit (tx : Tx) : Writes jobs (.commit tx) (jobs.commit tx)
  | rollback (tx : Tx) : Writes jobs (.rollback tx) (jobs.rollback tx)

theorem writes_writeRow {state next : State Id Tx} {action : Action Id Tx} {tx : Tx} {id : Id}
    {change : JobRow → Option JobRow} {call : Call Id} (htx : action.tx = some tx)
    (hchange : ∀ job job', change job = some job' → NotRevived job job')
    (hwrite : state.writeRow tx id change call = some next) :
    Writes state.jobs action next.jobs := by
  obtain ⟨jobs, hjobs, rfl⟩ := Option.map_eq_some_iff.mp hwrite
  exact .row htx hchange hjobs

theorem notRevived_some (job job' : JobRow) (hsame : some job = some job') : NotRevived job job' :=
  Option.some.inj hsame ▸ refl_of NotRevived job

theorem writes_act {state next : State Id Tx} {action : Action Id Tx}
    (hstep : state.act action = some next) : Writes state.jobs action next.jobs := by
  cases action with
  | createJob id jobType userId sessionId now =>
      obtain ⟨jobs, hjobs, rfl⟩ := Option.map_eq_some_iff.mp hstep
      exact .insert hjobs
  | cancelJob tx id =>
      simp only [State.act] at hstep
      split at hstep
      · split_ifs at hstep
        · exact Option.some.inj hstep ▸ .same
        · exact Option.some.inj hstep ▸ .same
      · exact Option.some.inj hstep ▸ .same
      · contradiction
  | updateJobStatus tx id update =>
      simp only [State.act] at hstep
      split at hstep
      · exact writes_writeRow rfl notRevived_some hstep
      · split_ifs at hstep
        exact writes_writeRow rfl notRevived_some hstep
      · contradiction
  | writeStatus tx now =>
      simp only [State.act] at hstep
      split at hstep
      · exact writes_writeRow rfl (fun _ _ => notRevived_updateStatus) hstep
      · contradiction
  | updateJobHeartbeat tx id =>
      simp only [State.act] at hstep
      split at hstep
      · exact writes_writeRow rfl notRevived_some hstep
      · contradiction
  | writeHeartbeat tx now =>
      simp only [State.act] at hstep
      split at hstep
      · exact writes_writeRow rfl (fun _ _ => notRevived_updateHeartbeat) hstep
      · contradiction
  | selectCoverJob tx ids =>
      simp only [State.act] at hstep
      split at hstep
      · split_ifs at hstep
        split at hstep
        · exact Option.some.inj hstep ▸ .same
        · exact Option.some.inj hstep ▸ .same
      · contradiction
  | claimCoverJob tx now =>
      simp only [State.act] at hstep
      split at hstep
      · exact writes_writeRow rfl (fun _ _ => notRevived_claimCover) hstep
      · contradiction
  | selectStaleJobs tx userId ids now =>
      simp only [State.act] at hstep
      split at hstep
      · split_ifs at hstep
        exact Option.some.inj hstep ▸ .same
      · contradiction
  | recoverStaleJob tx verdict =>
      simp only [State.act] at hstep
      split at hstep
      · split at hstep
        · exact Option.some.inj hstep ▸ .same
        · exact writes_writeRow rfl (fun _ _ => notRevived_recoverStaleIfUnchanged) hstep
      · contradiction
  | recoverStaleJobsByType tx statuses now =>
      simp only [State.act] at hstep
      split at hstep
      · exact Option.some.inj hstep ▸ .same
      · contradiction
  | selectRecoverable tx ids =>
      simp only [State.act] at hstep
      split at hstep
      · split_ifs at hstep
        exact Option.some.inj hstep ▸ .same
      · contradiction
  | flushRecovered tx =>
      simp only [State.act] at hstep
      split at hstep
      · refine writes_writeRow rfl ?_ hstep
        rintro job job' hflush
        exact Option.some.inj hflush ▸ notRevived_recoverByType _ _ job
      · contradiction
  | commit tx =>
      simp only [State.act] at hstep
      split at hstep
      · exact Option.some.inj hstep ▸ .commit tx
      · contradiction
  | rollback tx => exact Option.some.inj hstep ▸ .rollback tx

section Writes

variable {jobs jobs' : Table Id JobRow Tx} {action : Action Id Tx} {tx : Tx}
  {matching : JobRow → Bool}

theorem follows_of_writes (hfollows : jobs.Follows NotRevived)
    (hwrites : Writes jobs action jobs') : jobs'.Follows NotRevived := by
  cases hwrites with
  | same => exact hfollows
  | row _ hchange hwrite =>
      exact (Table.write_spec hfollows (fun job job' _ => hchange job job') hwrite).1
  | insert hinsert => exact (Table.insert_spec hfollows hinsert).1
  | commit tx => exact (Table.commit_spec hfollows tx).1
  | rollback tx => exact (Table.rollback_spec hfollows tx).1

theorem countCommitted_le_of_writes (hfollows : jobs.Follows NotRevived)
    (hfalling : Falling NotRevived matching) (hwrites : Writes jobs action jobs')
    (hcreates : ∀ id jobType userId sessionId now,
      action = .createJob id jobType userId sessionId now →
        matching (createJob jobType userId sessionId now) = false) :
    jobs'.countCommitted matching ≤ jobs.countCommitted matching := by
  cases hwrites with
  | same => exact le_rfl
  | row _ hchange hwrite =>
      have hsame := (Table.write_spec hfollows (fun job job' _ => hchange job job') hwrite).2
      rw [Table.countCommitted, hsame, Table.ids_write hwrite]
      exact le_rfl
  | insert hinsert =>
      rw [Table.countCommitted_insert hinsert, hcreates _ _ _ _ _ rfl]
      exact le_rfl
  | commit tx =>
      rw [Table.countCommitted_commit]
      exact Table.countVisible_le hfollows hfalling tx
  | rollback tx =>
      rw [Table.countCommitted, (Table.rollback_spec hfollows tx).2]
      exact le_rfl

theorem countVisible_le_of_writes (hfollows : jobs.Follows NotRevived)
    (hfalling : Falling NotRevived matching) (hwrites : Writes jobs action jobs')
    (hcreates : ∀ id jobType userId sessionId now,
      action = .createJob id jobType userId sessionId now →
        matching (createJob jobType userId sessionId now) = false)
    (hrollback : action ≠ .rollback tx) :
    jobs'.countVisible tx matching ≤ jobs.countVisible tx matching := by
  cases hwrites with
  | same => exact le_rfl
  | row _ hchange hwrite =>
      rw [Table.countVisible, Table.ids_write hwrite]
      exact Table.countP_le_of_fallen hfalling (Table.fallen_write hchange hwrite tx) jobs.ids
  | insert hinsert =>
      rw [Table.countVisible_insert hinsert, hcreates _ _ _ _ _ rfl]
      exact le_rfl
  | commit other =>
      exact Table.countP_le_of_fallen hfalling (Table.fallen_commit hfollows other tx) jobs.ids
  | rollback other =>
      have hother : tx ≠ other := by
        rintro rfl
        exact hrollback rfl
      rw [Table.countVisible, Table.visible_rollback hother]
      exact le_rfl

end Writes

end JobTransactions

end Songmaker.Jobs
