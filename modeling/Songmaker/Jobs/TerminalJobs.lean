import Songmaker.Jobs.JobTransactions

namespace Songmaker.Jobs.JobTransactions

open Songmaker.Foundation
open Songmaker.Foundation.RowLocks
open Songmaker.Jobs.JobRow

variable {Id Tx : Type} [DecidableEq Id] [DecidableEq Tx]

/-- The latest version of the row that the next flush of `recover_stale_jobs_by_type`
overwrites. -/
def State.flushedRow (state : State Id Tx) : Action Id Tx → Option JobRow
  | .flushRecovered tx =>
      match state.call tx with
      | .recovering _ _ ((id, _) :: _) => state.jobs.visible tx id
      | _ => none
  | _ => none

/-- The row that is flushed has not ended since it was read. -/
def FlushFresh (state : State Id Tx) (action : Action Id Tx) : Prop :=
  ∀ job ∈ state.flushedRow action, job.status ∈ jobActiveStatuses

instance (state : State Id Tx) (action : Action Id Tx) : Decidable (FlushFresh state action) :=
  inferInstanceAs (Decidable (∀ job ∈ state.flushedRow action, job.status ∈ jobActiveStatuses))

/-- The reaper compares with statuses that were active when it read them. -/
def Call.ReadActive : Call Id → Prop
  | .reaping _ stale => ∀ entry ∈ stale, entry.2.status ∈ jobActiveStatuses
  | _ => True

/-- No terminal row changes, and no call goes on with a row that it has not read active. -/
structure TerminalSafe (state : State Id Tx) : Prop where
  follows : state.jobs.Follows TerminalKept
  readActive : ∀ tx, (state.call tx).ReadActive

/-- What a step makes of a safe state. -/
def KeepsTerminal (state next : State Id Tx) : Prop :=
  TerminalSafe next ∧ state.jobs.CommittedFollow TerminalKept next.jobs

omit [DecidableEq Id] [DecidableEq Tx] in
theorem Call.readActive_orNone {call : Call Id} (hactive : call.ReadActive) :
    call.orNone.ReadActive := by
  unfold Call.orNone
  split
  · trivial
  · trivial
  · exact hactive

omit [DecidableEq Id] in
theorem readActive_update {calls : Tx → Call Id} (hcalls : ∀ tx, (calls tx).ReadActive) (tx : Tx)
    {call : Call Id} (hactive : call.ReadActive) (other : Tx) :
    (Function.update calls tx call.orNone other).ReadActive := by
  by_cases hother : other = tx
  · subst hother
    simpa using Call.readActive_orNone hactive
  · simpa [hother] using hcalls other

omit [DecidableEq Id] in
theorem keepsTerminal_setCall {state : State Id Tx} (hsafe : TerminalSafe state) (tx : Tx)
    {call : Call Id} (hactive : call.ReadActive) :
    KeepsTerminal state (state.setCall tx call) :=
  ⟨⟨hsafe.follows, readActive_update hsafe.readActive tx hactive⟩, Table.committedFollow_refl _⟩

omit [DecidableEq Id] [DecidableEq Tx] in
theorem keepsTerminal_refl {state : State Id Tx} (hsafe : TerminalSafe state) :
    KeepsTerminal state state :=
  ⟨hsafe, Table.committedFollow_refl _⟩

theorem keepsTerminal_writeRow {state next : State Id Tx} (hsafe : TerminalSafe state) {tx : Tx}
    {id : Id} {change : JobRow → Option JobRow} {call : Call Id}
    (hchange : ∀ job job', state.jobs.visible tx id = some job → change job = some job' →
      TerminalKept job job')
    (hwrite : state.writeRow tx id change call = some next) (hactive : call.ReadActive) :
    KeepsTerminal state next := by
  obtain ⟨jobs, hjobs, rfl⟩ := Option.map_eq_some_iff.mp hwrite
  obtain ⟨hfollows, hsame⟩ := Table.write_spec hsafe.follows hchange hjobs
  exact ⟨⟨hfollows, readActive_update hsafe.readActive tx hactive⟩,
    Table.committedFollow_of_eq hsame⟩

theorem keepsTerminal_lockRow {state next : State Id Tx} (hsafe : TerminalSafe state) {tx : Tx}
    {id : Id} {call : Call Id} (hlock : state.writeRow tx id some call = some next)
    (hactive : call.ReadActive) : KeepsTerminal state next := by
  refine keepsTerminal_writeRow hsafe ?_ hlock hactive
  rintro job job' - hsame
  cases hsame
  exact refl_of TerminalKept job

omit [DecidableEq Id] in
theorem mem_select {jobs : Table Id JobRow Tx} {tx : Tx} {ids : List Id} {matching : JobRow → Bool}
    {entry : Id × JobRow} (hentry : entry ∈ jobs.select tx ids matching) :
    matching entry.2 = true := by
  obtain ⟨id, -, hsome⟩ := List.mem_filterMap.mp hentry
  obtain ⟨job, hjob, rfl⟩ := Option.map_eq_some_iff.mp hsome
  exact (Option.filter_eq_some_iff.mp hjob).2

theorem keepsTerminal_act {state next : State Id Tx} (hsafe : TerminalSafe state)
    {action : Action Id Tx} (hfresh : FlushFresh state action)
    (hstep : state.act action = some next) : KeepsTerminal state next := by
  cases action with
  | createJob id jobType userId sessionId now =>
      obtain ⟨jobs, hjobs, rfl⟩ := Option.map_eq_some_iff.mp hstep
      obtain ⟨hfollows, hcommitted⟩ := Table.insert_spec hsafe.follows hjobs
      exact ⟨⟨hfollows, hsafe.readActive⟩, hcommitted⟩
  | cancelJob tx id =>
      simp only [State.act] at hstep
      split at hstep
      · split_ifs at hstep
        · cases hstep
          exact keepsTerminal_setCall hsafe tx trivial
        · cases hstep
          exact keepsTerminal_refl hsafe
      · cases hstep
        exact keepsTerminal_refl hsafe
      · cases hstep
  | updateJobStatus tx id update =>
      simp only [State.act] at hstep
      split at hstep
      · exact keepsTerminal_lockRow hsafe hstep trivial
      · split_ifs at hstep
        exact keepsTerminal_lockRow hsafe hstep trivial
      · cases hstep
  | writeStatus tx now =>
      simp only [State.act] at hstep
      split at hstep
      · exact keepsTerminal_writeRow hsafe (fun _ _ _ => terminalKept_updateStatus) hstep trivial
      · cases hstep
  | updateJobHeartbeat tx id =>
      simp only [State.act] at hstep
      split at hstep
      · exact keepsTerminal_lockRow hsafe hstep trivial
      · cases hstep
  | writeHeartbeat tx now =>
      simp only [State.act] at hstep
      split at hstep
      · exact keepsTerminal_writeRow hsafe (fun _ _ _ => terminalKept_updateHeartbeat) hstep trivial
      · cases hstep
  | selectCoverJob tx ids =>
      simp only [State.act] at hstep
      split at hstep
      · split_ifs at hstep
        split at hstep
        · cases hstep
          exact keepsTerminal_refl hsafe
        · cases hstep
          exact keepsTerminal_setCall hsafe tx trivial
      · cases hstep
  | claimCoverJob tx now =>
      simp only [State.act] at hstep
      split at hstep
      · exact keepsTerminal_writeRow hsafe (fun _ _ _ => terminalKept_claimCover) hstep trivial
      · cases hstep
  | selectStaleJobs tx userId ids now =>
      simp only [State.act] at hstep
      split at hstep
      · split_ifs at hstep
        cases hstep
        refine keepsTerminal_setCall hsafe tx ?_
        intro entry hentry
        have hmatch := mem_select hentry
        rw [decide_eq_true_eq] at hmatch
        exact hmatch.1
      · cases hstep
  | recoverStaleJob tx verdict =>
      simp only [State.act] at hstep
      split at hstep
      · rename_i now id job rest hcall
        have hstale : ∀ entry ∈ (id, job) :: rest, entry.2.status ∈ jobActiveStatuses := by
          simpa [Call.ReadActive, hcall] using hsafe.readActive tx
        have hrest : (Call.reaping now rest).ReadActive :=
          fun entry hentry => hstale entry (List.mem_cons_of_mem _ hentry)
        split at hstep
        · cases hstep
          exact keepsTerminal_setCall hsafe tx hrest
        · exact keepsTerminal_writeRow hsafe
            (fun _ _ _ => terminalKept_recoverStaleIfUnchanged (hstale _ List.mem_cons_self))
            hstep hrest
      · cases hstep
  | recoverStaleJobsByType tx statuses now =>
      simp only [State.act] at hstep
      split at hstep
      · cases hstep
        exact keepsTerminal_setCall hsafe tx trivial
      · cases hstep
  | selectRecoverable tx ids =>
      simp only [State.act] at hstep
      split at hstep
      · split_ifs at hstep
        cases hstep
        exact keepsTerminal_setCall hsafe tx trivial
      · cases hstep
  | flushRecovered tx =>
      simp only [State.act] at hstep
      split at hstep
      · rename_i now todo id loaded rest hcall
        refine keepsTerminal_writeRow hsafe ?_ hstep trivial
        intro job job' hjob _
        have hactive := hfresh job (by simpa [State.flushedRow, hcall] using hjob)
        exact terminalKept_of_active ((mem_active_iff_notMem_terminal _).mp hactive)
      · cases hstep
  | commit tx =>
      simp only [State.act] at hstep
      split at hstep
      · cases hstep
        obtain ⟨hfollows, hcommitted⟩ := Table.commit_spec hsafe.follows tx
        exact ⟨⟨hfollows, hsafe.readActive⟩, hcommitted⟩
      · cases hstep
  | rollback tx =>
      cases hstep
      obtain ⟨hfollows, hsame⟩ := Table.rollback_spec hsafe.follows tx
      exact ⟨⟨hfollows, readActive_update hsafe.readActive tx trivial⟩,
        Table.committedFollow_of_eq hsame⟩

/-- The runs in which every flush of `recover_stale_jobs_by_type` is fresh. -/
def freshSystem (Id Tx : Type) [DecidableEq Id] [DecidableEq Tx] :
    TransitionSystem (State Id Tx) (Action Id Tx) :=
  (jobSystem Id Tx).restrict FlushFresh

theorem terminalSafe_invariant : (freshSystem Id Tx).Invariant TerminalSafe where
  initial := by
    rintro state ⟨hunlocked, hidle⟩
    refine ⟨?_, ?_⟩
    · intro id slot hslot held hheld
      rw [hunlocked id slot hslot] at hheld
      cases hheld
    · intro tx
      rw [hidle tx]
      trivial
  step := fun _ _ _ hsafe hstep => (keepsTerminal_act hsafe hstep.1 hstep.2).1

/-- In a run in which every flush of `recover_stale_jobs_by_type` is fresh, a
job committed with a terminal status keeps its status, error and completion time. -/
theorem terminal_jobs_kept {state later : State Id Tx}
    (hreach : (freshSystem Id Tx).Reachable state)
    (hlater : (freshSystem Id Tx).Reaches state later)
    {id : Id} {job : JobRow} (hjob : state.jobs.committed id = some job)
    (hterminal : job.status ∈ jobTerminalStatuses) :
    ∃ job', later.jobs.committed id = some job' ∧
      job'.status = job.status ∧ job'.error = job.error ∧ job'.completedAt = job.completedAt := by
  have hfollow : state.jobs.CommittedFollow TerminalKept later.jobs := by
    refine TransitionSystem.Reaches.of_step
      (R := fun s t => s.jobs.CommittedFollow TerminalKept t.jobs)
      (fun s => Table.committedFollow_refl s.jobs) (fun s t u => Table.CommittedFollow.trans) ?_
      hreach hlater
    intro s action t hs hstep
    exact (keepsTerminal_act (terminalSafe_invariant.of_reachable hs) hstep.1 hstep.2).2
  obtain ⟨job', hjob', hkept⟩ := hfollow id job hjob
  exact ⟨job', hjob', hkept hterminal⟩

/-- No job yet, and no transaction under way. -/
def emptyState : State Nat Nat where
  jobs := ⟨[], fun _ => none, by simp⟩
  call := fun _ => .none

theorem initial_emptyState : initial emptyState := by
  refine ⟨?_, fun _ => rfl⟩
  intro id slot hslot
  cases hslot

/-- Job 0 is created and runs, and transaction 3 reads it as running. -/
def readRunningJob : List (Action Nat Nat) :=
  [.createJob 0 .generate none none 10, .updateJobStatus 1 0 { status := .running },
    .writeStatus 1 11, .commit 1, .recoverStaleJobsByType 3 [(.generate, [.running])] 15,
    .selectRecoverable 3 [0]]

/-- Transaction 2 ends job 0 as completed. -/
def completeJob : List (Action Nat Nat) :=
  [.updateJobStatus 2 0 { status := .completed, progress := 1 }, .writeStatus 2 20, .commit 2]

/-- Transaction 3 fails the job it read. -/
def failReadJob : List (Action Nat Nat) :=
  [.flushRecovered 3, .commit 3]

abbrev runOf (state : State Nat Nat) (actions : List (Action Nat Nat)) :
    List (Action Nat Nat × State Nat Nat) :=
  TransitionSystem.follow State.act state actions

def stateAfter (actions : List (Action Nat Nat)) : State Nat Nat :=
  TransitionSystem.lastOf emptyState (runOf emptyState actions)

theorem terminal_jobs_kept_after_recovery :
    let state := stateAfter (readRunningJob ++ failReadJob)
    let later := TransitionSystem.lastOf state (runOf state completeJob)
    ∃ job job', state.jobs.committed 0 = some job ∧ later.jobs.committed 0 = some job' ∧
      job.status = .failed ∧ job'.status = job.status ∧ job'.error = job.error ∧
      job'.completedAt = job.completedAt := by
  intro state later
  have hreach : (freshSystem Nat Nat).Reachable state :=
    TransitionSystem.reachable_lastOf (.initial initial_emptyState)
      (TransitionSystem.isRun_restrict (TransitionSystem.isRun_follow _ _ _ _) (by decide +kernel))
  have hlater : (freshSystem Nat Nat).Reaches state later :=
    TransitionSystem.reaches_lastOf
      (TransitionSystem.isRun_restrict (TransitionSystem.isRun_follow _ _ _ _) (by decide +kernel))
  have hstatus : (state.jobs.committed 0).map JobRow.status = some .failed := by decide +kernel
  obtain ⟨job, hjob, hfailed⟩ := Option.map_eq_some_iff.mp hstatus
  obtain ⟨job', hjob', hsame⟩ :=
    terminal_jobs_kept hreach hlater hjob (by rw [hfailed]; decide)
  exact ⟨job, job', hjob, hjob', hfailed, hsame⟩

/-- The job ends between the read and the flush: the recovery writes over it. -/
theorem recovery_overwrites_completed_job :
    ¬ ∀ (state later : State Nat Nat) (id : Nat) (job : JobRow),
      (jobSystem Nat Nat).Reachable state → (jobSystem Nat Nat).Reaches state later →
      state.jobs.committed id = some job → job.status ∈ jobTerminalStatuses →
      ∃ job', later.jobs.committed id = some job' ∧
        job'.status = job.status ∧ job'.error = job.error ∧ job'.completedAt = job.completedAt := by
  intro habsorbing
  let state := stateAfter (readRunningJob ++ completeJob)
  let later := TransitionSystem.lastOf state (runOf state failReadJob)
  have hstart : (jobSystem Nat Nat).Reachable emptyState := .initial initial_emptyState
  have hreach : (jobSystem Nat Nat).Reachable state := TransitionSystem.reachable_follow hstart _
  have hlater : (jobSystem Nat Nat).Reaches state later :=
    TransitionSystem.reaches_lastOf (TransitionSystem.isRun_follow _ _ _ _)
  have hstatus : (state.jobs.committed 0).map JobRow.status = some .completed := by
    decide +kernel
  have hstatus' : (later.jobs.committed 0).map JobRow.status = some .failed := by
    decide +kernel
  obtain ⟨job, hjob, hcompleted⟩ := Option.map_eq_some_iff.mp hstatus
  obtain ⟨job', hjob', hkept, -⟩ :=
    habsorbing state later 0 job hreach hlater hjob (by rw [hcompleted]; decide)
  rw [hjob', Option.map_some, hkept, hcompleted] at hstatus'
  exact absurd hstatus' (by decide)

end Songmaker.Jobs.JobTransactions
