import Songmaker.Jobs.JobAdmission
import Songmaker.Jobs.TerminalJobs

/-!
A user never has more active jobs of a queued type, nor more jobs created within
one window, than the limits allow. What the holder of the advisory lock has
counted stays an upper bound until its transaction ends.
-/

namespace Songmaker.Jobs.JobAdmission

open Songmaker.Foundation
open Songmaker.Foundation.RowLocks
open Songmaker.Jobs.JobRow
open Songmaker.Jobs.JobTransactions

variable {Id Tx : Type}

/-- What is counted against a limit: jobs that a user created, of a limited type. -/
structure Quota (matching : JobRow → Bool) : Prop where
  falling : Falling NotRevived matching
  owned : ∀ job, matching job = true → job.userId ≠ none
  limited : ∀ job, matching job = true → jobTypeRateLimit job.jobType ≠ none

theorem limited_of_queueable {jobType : JobType} (hqueueable : jobType ∈ queueableJobTypes) :
    jobTypeRateLimit jobType ≠ none := by
  cases jobType <;> revert hqueueable <;> decide

theorem quota_activeJobOf (userId : String) {jobType : JobType}
    (hqueueable : jobType ∈ queueableJobTypes) : Quota (activeJobOf userId jobType) where
  falling job job' hlife hcounted := by
    simp only [activeJobOf, decide_eq_true_eq] at hcounted ⊢
    exact ⟨hlife.userId ▸ hcounted.1, hlife.jobType ▸ hcounted.2.1, hlife.active hcounted.2.2⟩
  owned job hcounted := by
    simp only [activeJobOf, decide_eq_true_eq] at hcounted
    simp [hcounted.1]
  limited job hcounted := by
    simp only [activeJobOf, decide_eq_true_eq] at hcounted
    rw [hcounted.2.1]
    exact limited_of_queueable hqueueable

theorem quota_createdBetween (userId : String) {jobType : JobType}
    (hlimited : jobTypeRateLimit jobType ≠ none) (first last : Nat) :
    Quota (createdBetween userId jobType first last) where
  falling job job' hlife hcounted := by
    simp only [createdBetween, decide_eq_true_eq] at hcounted ⊢
    rw [← hlife.userId, ← hlife.jobType, ← hlife.startedAt]
    exact hcounted
  owned job hcounted := by
    simp only [createdBetween, decide_eq_true_eq] at hcounted
    simp [hcounted.1]
  limited job hcounted := by
    simp only [createdBetween, decide_eq_true_eq] at hcounted
    rw [hcounted.2.1]
    exact hlimited

theorem quota_createdInWindow (userId : String) {jobType : JobType}
    (hlimited : jobTypeRateLimit jobType ≠ none) (now : Nat) :
    Quota (createdInWindow userId jobType now) where
  falling job job' hlife hcounted := by
    simp only [createdInWindow, decide_eq_true_eq] at hcounted ⊢
    rw [← hlife.userId, ← hlife.jobType, ← hlife.startedAt]
    exact hcounted
  owned job hcounted := by
    simp only [createdInWindow, decide_eq_true_eq] at hcounted
    simp [hcounted.1]
  limited job hcounted := by
    simp only [createdInWindow, decide_eq_true_eq] at hcounted
    rw [hcounted.2.1]
    exact hlimited

theorem Quota.createdElsewhere {matching : JobRow → Bool} (hquota : Quota matching) {id : Id}
    {jobType : JobType} {userId sessionId : Option String} {now : Nat}
    (helsewhere :
      CreatedElsewhere (.createJob id jobType userId sessionId now :
        JobTransactions.Action Id Tx)) :
    matching (createJob jobType userId sessionId now) = false := by
  rw [Bool.eq_false_iff]
  intro hcounted
  rcases helsewhere with howner | htype
  · exact hquota.owned _ hcounted howner
  · exact hquota.limited _ hcounted htype

/-- The stages of the holder of the advisory lock. -/
def Stage.Holds : Stage Id → Prop
  | .none | .waiting _ => False
  | _ => True

variable [DecidableEq Tx] {limits : RateLimits}

/-- The transaction counts fewer active jobs than a user may have. -/
def ActiveBelow (limits : RateLimits) (jobs : Table Id JobRow Tx) (tx : Tx) (userId : String)
    (jobType : JobType) : Prop :=
  jobType ∈ queueableJobTypes →
    jobs.countVisible tx (activeJobOf userId jobType) <
      limits.resolveRateLimit userId .maxUserActiveJobs

/-- The transaction counts fewer jobs within the window than a user may create. -/
def CreatedBelow (limits : RateLimits) (jobs : Table Id JobRow Tx) (tx : Tx) (userId : String)
    (jobType : JobType) (matching : JobRow → Bool) : Prop :=
  ∀ key ∈ jobTypeRateLimit jobType,
    jobs.countVisible tx matching < limits.resolveRateLimit userId key

/-- What a session has checked when it is at this stage. -/
def Stage.Known (limits : RateLimits) (clock : Nat) (jobs : Table Id JobRow Tx) (tx : Tx) :
    Stage Id → Prop
  | .countingWindow request => ActiveBelow limits jobs tx request.userId request.jobType
  | .lockingVersion request countedAt | .creating request countedAt =>
      ActiveBelow limits jobs tx request.userId request.jobType ∧ countedAt ≤ clock ∧
        CreatedBelow limits jobs tx request.userId request.jobType
          (createdInWindow request.userId request.jobType countedAt)
  | .created _ job => ∀ userId, job.userId = some userId →
      ActiveBelow limits jobs tx userId job.jobType ∧
        ∀ first ≤ job.startedAt, job.startedAt ≤ first + rateLimitWindow →
          CreatedBelow limits jobs tx userId job.jobType
            (createdBetween userId job.jobType first (first + rateLimitWindow))
  | _ => True

/-- No quota counts more rows for `tx` than it did. -/
def SeesNoMore (tx : Tx) (jobs jobs' : Table Id JobRow Tx) : Prop :=
  ∀ matching, Quota matching → jobs'.countVisible tx matching ≤ jobs.countVisible tx matching

section Known

variable {jobs jobs' : Table Id JobRow Tx} {tx : Tx} {clock clock' : Nat}

theorem activeBelow_of_seesNoMore (hsees : SeesNoMore tx jobs jobs') {userId : String}
    {jobType : JobType} (hbelow : ActiveBelow limits jobs tx userId jobType) :
    ActiveBelow limits jobs' tx userId jobType :=
  fun hqueueable => (hsees _ (quota_activeJobOf userId hqueueable)).trans_lt (hbelow hqueueable)

theorem createdBelow_of_seesNoMore (hsees : SeesNoMore tx jobs jobs') {userId : String}
    {jobType : JobType} {matching : JobRow → Bool}
    (hquota : jobTypeRateLimit jobType ≠ none → Quota matching)
    (hbelow : CreatedBelow limits jobs tx userId jobType matching) :
    CreatedBelow limits jobs' tx userId jobType matching := by
  intro key hkey
  have hlimited : jobTypeRateLimit jobType ≠ none := by simp [Option.mem_def.mp hkey]
  exact (hsees _ (hquota hlimited)).trans_lt (hbelow key hkey)

theorem Stage.known_of_seesNoMore (hsees : SeesNoMore tx jobs jobs') (hclock : clock ≤ clock')
    {stage : Stage Id} (hknown : stage.Known limits clock jobs tx) :
    stage.Known limits clock' jobs' tx := by
  cases stage with
  | none | waiting | enforcing | recovering | countingActive => trivial
  | countingWindow request => exact activeBelow_of_seesNoMore hsees hknown
  | lockingVersion request countedAt | creating request countedAt =>
      obtain ⟨hactive, hcounted, hcreated⟩ := hknown
      exact ⟨activeBelow_of_seesNoMore hsees hactive, hcounted.trans hclock,
        createdBelow_of_seesNoMore hsees
          (fun hlimited => quota_createdInWindow _ hlimited countedAt) hcreated⟩
  | created id job =>
      intro userId howner
      obtain ⟨hactive, hcreated⟩ := hknown userId howner
      refine ⟨activeBelow_of_seesNoMore hsees hactive, fun first hfirst hlast => ?_⟩
      exact createdBelow_of_seesNoMore hsees
        (fun hlimited => quota_createdBetween _ hlimited first _) (hcreated first hfirst hlast)

theorem Stage.known_of_not_holds {stage : Stage Id} (hfree : ¬ stage.Holds) :
    stage.Known limits clock jobs tx := by
  cases stage with
  | none | waiting => trivial
  | _ => exact absurd trivial hfree

end Known

variable [DecidableEq Id]

/-- The limits hold, and what each session has checked does. -/
structure Admitted (limits : RateLimits) (state : State Id Tx) : Prop where
  follows : state.work.jobs.Follows NotRevived
  holder : ∀ tx, (state.stage tx).Holds → state.exclusive = some tx
  known : ∀ tx, (state.stage tx).Known limits state.clock state.work.jobs tx
  active : ∀ userId, ∀ jobType ∈ queueableJobTypes,
    state.activeJobs userId jobType ≤ limits.resolveRateLimit userId .maxUserActiveJobs
  created : ∀ userId jobType, ∀ key ∈ jobTypeRateLimit jobType, ∀ first,
    state.jobsCreated userId jobType first ≤ limits.resolveRateLimit userId key

section Steps

variable {state : State Id Tx}

omit [DecidableEq Id] in
theorem admitted_setStage (hstate : Admitted limits state) {tx : Tx} {stage : Stage Id}
    (hholds : stage.Holds → state.exclusive = some tx)
    (hknown : stage.Known limits state.clock state.work.jobs tx) :
    Admitted limits (state.setStage tx stage) where
  follows := hstate.follows
  holder other hother := by
    by_cases hsame : other = tx
    · subst hsame
      exact hholds (by simpa [State.setStage] using hother)
    · exact hstate.holder other (by simpa [State.setStage, hsame] using hother)
  known other := by
    by_cases hsame : other = tx
    · subst hsame
      simpa [State.setStage] using hknown
    · simpa [State.setStage, hsame] using hstate.known other
  active := hstate.active
  created := hstate.created

/-- A statement that inserts no row of a quota, by a session that holds no lock
if it ends its transaction. -/
theorem admitted_work (hstate : Admitted limits state) {action : JobTransactions.Action Id Tx}
    {work : JobTransactions.State Id Tx} (hact : state.work.act action = some work)
    (helsewhere : CreatedElsewhere action)
    (hfree : ∀ tx, action = .rollback tx → ¬ (state.stage tx).Holds) :
    Admitted limits { state with work := work } := by
  have hwrites := writes_act hact
  have hcreates : ∀ matching, Quota matching → ∀ id jobType userId sessionId now,
      action = .createJob id jobType userId sessionId now →
        matching (createJob jobType userId sessionId now) = false := by
    rintro matching hquota id jobType userId sessionId now rfl
    exact hquota.createdElsewhere helsewhere
  have hcommitted : ∀ matching, Quota matching →
      work.jobs.countCommitted matching ≤ state.work.jobs.countCommitted matching :=
    fun matching hquota => countCommitted_le_of_writes hstate.follows hquota.falling hwrites
      (hcreates matching hquota)
  constructor
  · exact follows_of_writes hstate.follows hwrites
  · exact hstate.holder
  · intro tx
    by_cases hrollback : action = .rollback tx
    · exact Stage.known_of_not_holds (hfree tx hrollback)
    · have hsees : SeesNoMore tx state.work.jobs work.jobs :=
        fun matching hquota => countVisible_le_of_writes hstate.follows hquota.falling hwrites
          (hcreates matching hquota) hrollback
      exact Stage.known_of_seesNoMore hsees le_rfl (hstate.known tx)
  · intro userId jobType hqueueable
    exact (hcommitted _ (quota_activeJobOf userId hqueueable)).trans
      (hstate.active userId jobType hqueueable)
  · intro userId jobType key hkey first
    have hlimited : jobTypeRateLimit jobType ≠ none := by simp [Option.mem_def.mp hkey]
    exact (hcommitted _ (quota_createdBetween userId hlimited first _)).trans
      (hstate.created userId jobType key hkey first)

omit [DecidableEq Id] in
theorem admitted_release (hstate : Admitted limits state) {tx : Tx}
    (hstage : state.stage tx = .none) :
    Admitted limits
      { state with exclusive := if state.exclusive = some tx then none else state.exclusive } where
  follows := hstate.follows
  holder other hother := by
    have hholder := hstate.holder other hother
    show (if state.exclusive = some tx then none else state.exclusive) = some other
    rw [if_neg, hholder]
    rintro hexclusive
    obtain rfl : other = tx := Option.some.inj (hholder.symm.trans hexclusive)
    rw [hstage] at hother
    exact hother
  known := hstate.known
  active := hstate.active
  created := hstate.created

theorem admitted_rolledBack (hstate : Admitted limits state) (tx : Tx) :
    Admitted limits (state.rolledBack tx) := by
  have hleft : Admitted limits (state.setStage tx .none) :=
    admitted_setStage hstate (fun hholds => hholds.elim) trivial
  have hstage : (state.setStage tx .none).stage tx = .none := Function.update_self ..
  have hact : (state.setStage tx .none).work.act (.rollback tx) = some (state.rolledBack tx).work :=
    rfl
  have hback := admitted_work hleft hact trivial ?_
  · exact admitted_release hback hstage
  · rintro other hother
    obtain rfl : tx = other := by simpa using hother
    rw [hstage]
    exact id

theorem admitted_refuse (hstate : Admitted limits state) (tx : Tx) (refusal : Refusal) :
    Admitted limits (state.refuse tx refusal) := by
  obtain ⟨hfollows, hholder, hknown, hactive, hcreated⟩ := admitted_rolledBack hstate tx
  exact ⟨hfollows, hholder, hknown, hactive, hcreated⟩

omit [DecidableEq Id] in
theorem count_eq_countVisible {tx : Tx} (hstage : ∀ id job, state.stage tx ≠ .created id job)
    (matching : JobRow → Bool) :
    state.count tx matching = state.work.jobs.countVisible tx matching := by
  unfold State.count
  split
  · rename_i id job hcreated
    exact absurd hcreated (hstage id job)
  · rfl

theorem admitted_enforceWindow (hstate : Admitted limits state) {tx : Tx} {request : Request}
    (hholder : state.exclusive = some tx) (hstage : ∀ id job, state.stage tx ≠ .created id job)
    (hactive : ActiveBelow limits state.work.jobs tx request.userId request.jobType) :
    Admitted limits (state.enforceWindow limits tx request) := by
  unfold State.enforceWindow
  split
  · exact admitted_refuse hstate tx _
  · rename_i key hkey
    split_ifs with hreached
    · exact admitted_refuse hstate tx _
    · have hcreated : CreatedBelow limits state.work.jobs tx request.userId request.jobType
          (createdInWindow request.userId request.jobType state.clock) := by
        intro other hother
        obtain rfl : key = other := Option.some.inj (hkey.symm.trans hother)
        rw [State.countUserJobsInWindow, count_eq_countVisible hstage] at hreached
        exact Nat.lt_of_not_le hreached
      refine admitted_setStage hstate (fun _ => hholder) ?_
      unfold Request.checked
      split_ifs
      · exact ⟨hactive, le_rfl, hcreated⟩
      · exact ⟨hactive, le_rfl, hcreated⟩

omit [DecidableEq Id] in
/-- The new row starts after the window was counted, so every window around its
start holds no more jobs than were counted. -/
theorem known_created {tx : Tx} {request : Request} {countedAt : Nat} (id : Id)
    (hknown : (Stage.creating request countedAt : Stage Id).Known limits state.clock
      state.work.jobs tx) :
    (Stage.created id
      (createJob request.jobType (some request.userId) none state.clock)).Known limits state.clock
        state.work.jobs tx := by
  obtain ⟨hactive, hcounted, hcreated⟩ := hknown
  rintro userId howner
  obtain rfl : request.userId = userId := Option.some.inj howner
  refine ⟨hactive, fun first hfirst hlast key hkey => ?_⟩
  refine lt_of_le_of_lt (Table.countVisible_mono ?_ _ tx) (hcreated key hkey)
  intro job hmatching
  simp only [createdBetween, createdInWindow, decide_eq_true_eq] at hmatching ⊢
  have hstarted : state.clock ≤ first + rateLimitWindow := hlast
  exact ⟨hmatching.1, hmatching.2.1, by omega⟩

omit [DecidableEq Id] in
theorem known_updateCreated {tx : Tx} {id : Id} {job job' : JobRow} (hlife : NotRevived job job')
    (hknown : (Stage.created id job).Known limits state.clock state.work.jobs tx) :
    (Stage.created id job').Known limits state.clock state.work.jobs tx := by
  intro userId howner
  show ActiveBelow limits state.work.jobs tx userId job'.jobType ∧ _
  rw [hlife.jobType, hlife.startedAt]
  exact hknown userId (hlife.userId ▸ howner)

theorem countCommitted_commit_insert {tx : Tx} {id : Id} {job : JobRow}
    {jobs : Table Id JobRow Tx}
    (hinsert : (state.work.jobs.commit tx).insert id job = some jobs) (matching : JobRow → Bool) :
    jobs.countCommitted matching =
      state.work.jobs.countVisible tx matching + if matching job then 1 else 0 := by
  rw [Table.countCommitted_insert hinsert, Table.countCommitted_commit]

theorem admitted_commitCreated (hstate : Admitted limits state) {tx : Tx} {id : Id} {job : JobRow}
    (hstage : state.stage tx = .created id job) {jobs : Table Id JobRow Tx}
    (hinsert : (state.work.jobs.commit tx).insert id job = some jobs) :
    Admitted limits
      { work := { state.work with jobs := jobs }
        stage := Function.update state.stage tx .none
        exclusive := if state.exclusive = some tx then none else state.exclusive
        clock := state.clock
        refusal := state.refusal } := by
  have hknown := hstate.known tx
  rw [hstage] at hknown
  have hholder : state.exclusive = some tx := by
    apply hstate.holder
    rw [hstage]
    trivial
  have hothers : ∀ other, ¬ (Function.update state.stage tx .none other).Holds := by
    intro other hother
    by_cases hsame : other = tx
    · subst hsame
      rw [Function.update_self] at hother
      exact hother
    · rw [Function.update_of_ne hsame] at hother
      exact hsame (Option.some.inj ((hstate.holder other hother).symm.trans hholder))
  constructor
  · exact (Table.insert_spec (Table.commit_spec hstate.follows tx).1 hinsert).1
  · exact fun other hother => absurd hother (hothers other)
  · exact fun other => Stage.known_of_not_holds (hothers other)
  · intro userId jobType hqueueable
    show jobs.countCommitted _ ≤ _
    rw [countCommitted_commit_insert hinsert]
    split_ifs with hcounted
    · simp only [activeJobOf, decide_eq_true_eq] at hcounted
      obtain ⟨howner, rfl, -⟩ := hcounted
      exact (hknown userId howner).1 hqueueable
    · exact (Table.countVisible_le hstate.follows (quota_activeJobOf userId hqueueable).falling
        tx).trans (hstate.active userId jobType hqueueable)
  · intro userId jobType key hkey first
    show jobs.countCommitted _ ≤ _
    rw [countCommitted_commit_insert hinsert]
    split_ifs with hcounted
    · simp only [createdBetween, decide_eq_true_eq] at hcounted
      obtain ⟨howner, rfl, hfirst, hlast⟩ := hcounted
      exact (hknown userId howner).2 first hfirst hlast key hkey
    · have hlimited : jobTypeRateLimit jobType ≠ none := by simp [Option.mem_def.mp hkey]
      exact (Table.countVisible_le hstate.follows
        (quota_createdBetween userId hlimited first _).falling tx).trans
          (hstate.created userId jobType key hkey first)

omit [DecidableEq Id] in
theorem Admitted.locked (hstate : Admitted limits state) {tx : Tx} {stage : Stage Id}
    (hstage : state.stage tx = stage) (hholds : stage.Holds) : state.exclusive = some tx := by
  subst hstage
  exact hstate.holder tx hholds

variable {next : State Id Tx}

theorem admitted_tick {now : Nat} (hstate : Admitted limits state)
    (hstep : state.act limits (.tick now) = some next) : Admitted limits next := by
  simp only [State.act] at hstep
  split_ifs at hstep with hlater
  obtain rfl := Option.some.inj hstep
  exact ⟨hstate.follows, hstate.holder,
    fun tx => Stage.known_of_seesNoMore (fun _ _ => le_rfl) hlater (hstate.known tx),
    hstate.active, hstate.created⟩

theorem admitted_request {tx : Tx} {request : Request} (hstate : Admitted limits state)
    (hstep : state.act limits (.request tx request) = some next) : Admitted limits next := by
  simp only [State.act] at hstep
  split at hstep
  · split_ifs at hstep
    · exact Option.some.inj hstep ▸ admitted_refuse hstate tx _
    · obtain rfl := Option.some.inj hstep
      refine admitted_setStage ?_ (fun hholds => hholds.elim) trivial
      exact ⟨hstate.follows, hstate.holder, hstate.known, hstate.active, hstate.created⟩
  · contradiction

theorem admitted_beginExclusive {tx : Tx} (hstate : Admitted limits state)
    (hstep : state.act limits (.beginExclusive tx) = some next) : Admitted limits next := by
  simp only [State.act] at hstep
  split at hstep
  · split_ifs at hstep with hfree
    obtain rfl := Option.some.inj hstep
    refine admitted_setStage ?_ (fun _ => rfl) trivial
    refine ⟨hstate.follows, fun other hother => ?_, hstate.known, hstate.active, hstate.created⟩
    have hholder := hstate.holder other hother
    rw [hfree] at hholder
    contradiction
  · contradiction

theorem admitted_selectStaleJobs {tx : Tx} {ids : List Id} (hstate : Admitted limits state)
    (hstep : state.act limits (.selectStaleJobs tx ids) = some next) : Admitted limits next := by
  simp only [State.act] at hstep
  split at hstep
  · rename_i request hstage
    obtain ⟨work, hwork, rfl⟩ := Option.map_eq_some_iff.mp hstep
    refine admitted_setStage ?_ (fun _ => hstate.locked hstage trivial) trivial
    exact admitted_work hstate hwork trivial nofun
  · contradiction

theorem admitted_recoverStaleJob {tx : Tx} {verdict : Option (String × String)}
    (hstate : Admitted limits state)
    (hstep : state.act limits (.recoverStaleJob tx verdict) = some next) :
    Admitted limits next := by
  simp only [State.act] at hstep
  split at hstep
  · obtain ⟨work, hwork, rfl⟩ := Option.map_eq_some_iff.mp hstep
    exact admitted_work hstate hwork trivial nofun
  · contradiction

theorem admitted_countQueued {tx : Tx} (hstate : Admitted limits state)
    (hstep : state.act limits (.countQueued tx) = some next) : Admitted limits next := by
  simp only [State.act] at hstep
  split at hstep
  · rename_i request hstage _
    split_ifs at hstep
    · exact Option.some.inj hstep ▸ admitted_refuse hstate tx _
    · obtain rfl := Option.some.inj hstep
      exact admitted_setStage hstate (fun _ => hstate.locked hstage trivial) trivial
  · contradiction

theorem admitted_countActive {tx : Tx} (hstate : Admitted limits state)
    (hstep : state.act limits (.countActive tx) = some next) : Admitted limits next := by
  simp only [State.act] at hstep
  split at hstep
  · rename_i request hstage
    have hpending : ∀ id job, state.stage tx ≠ .created id job := by simp [hstage]
    split_ifs at hstep with hreached
    · exact Option.some.inj hstep ▸ admitted_refuse hstate tx _
    · obtain rfl := Option.some.inj hstep
      rw [State.countUserActiveJobs, count_eq_countVisible hpending] at hreached
      exact admitted_setStage hstate (fun _ => hstate.locked hstage trivial)
        fun _ => Nat.lt_of_not_le hreached
  · contradiction

theorem admitted_countWindow {tx : Tx} (hstate : Admitted limits state)
    (hstep : state.act limits (.countWindow tx) = some next) : Admitted limits next := by
  simp only [State.act] at hstep
  split at hstep
  · rename_i request hstage _
    split_ifs at hstep with hqueueable
    obtain rfl := Option.some.inj hstep
    exact admitted_enforceWindow hstate (hstate.locked hstage trivial) (by simp [hstage])
      fun hmem => absurd hmem hqueueable
  · rename_i request hstage
    obtain rfl := Option.some.inj hstep
    have hknown := hstate.known tx
    rw [hstage] at hknown
    exact admitted_enforceWindow hstate (hstate.locked hstage trivial) (by simp [hstage]) hknown
  · contradiction

theorem admitted_lockVersion {tx : Tx} {found : Bool} (hstate : Admitted limits state)
    (hstep : state.act limits (.lockVersion tx found) = some next) : Admitted limits next := by
  simp only [State.act] at hstep
  split at hstep
  · rename_i request countedAt hstage
    split_ifs at hstep
    · exact Option.some.inj hstep ▸ admitted_refuse hstate tx _
    · obtain rfl := Option.some.inj hstep
      have hknown := hstate.known tx
      rw [hstage] at hknown
      exact admitted_setStage hstate (fun _ => hstate.locked hstage trivial) hknown
    · exact Option.some.inj hstep ▸ admitted_refuse hstate tx _
  · contradiction

theorem admitted_createJob {tx : Tx} {id : Id} (hstate : Admitted limits state)
    (hstep : state.act limits (.createJob tx id) = some next) : Admitted limits next := by
  simp only [State.act] at hstep
  split at hstep
  · rename_i request countedAt hstage
    split_ifs at hstep
    obtain rfl := Option.some.inj hstep
    have hknown := hstate.known tx
    rw [hstage] at hknown
    exact admitted_setStage hstate (fun _ => hstate.locked hstage trivial) (known_created id hknown)
  · contradiction

theorem admitted_updateCreated {tx : Tx} {update : JobStatusUpdate} (hstate : Admitted limits state)
    (hstep : state.act limits (.updateCreated tx update) = some next) : Admitted limits next := by
  simp only [State.act] at hstep
  split at hstep
  · rename_i id job hstage
    split at hstep
    · exact Option.some.inj hstep ▸ hstate
    · rename_i job' hjob'
      obtain rfl := Option.some.inj hstep
      have hknown := hstate.known tx
      rw [hstage] at hknown
      exact admitted_setStage hstate (fun _ => hstate.locked hstage trivial)
        (known_updateCreated (notRevived_updateStatus hjob') hknown)
  · contradiction

theorem admitted_commit {tx : Tx} (hstate : Admitted limits state)
    (hstep : state.act limits (.commit tx) = some next) : Admitted limits next := by
  simp only [State.act] at hstep
  split at hstep
  · rename_i id job hstage
    obtain ⟨jobs, hjobs, rfl⟩ := Option.map_eq_some_iff.mp hstep
    exact admitted_commitCreated hstate hstage hjobs
  · contradiction

theorem admitted_other {action : JobTransactions.Action Id Tx} (hstate : Admitted limits state)
    (hstep : state.act limits (.other action) = some next) : Admitted limits next := by
  simp only [State.act] at hstep
  split_ifs at hstep with hother
  obtain ⟨work, hwork, rfl⟩ := Option.map_eq_some_iff.mp hstep
  refine admitted_work hstate hwork hother.2 ?_
  rintro tx rfl
  rw [hother.1 tx rfl]
  exact id

theorem admitted_act (hstate : Admitted limits state) {action : Action Id Tx}
    (hstep : state.act limits action = some next) : Admitted limits next := by
  cases action with
  | tick now => exact admitted_tick hstate hstep
  | request tx request => exact admitted_request hstate hstep
  | beginExclusive tx => exact admitted_beginExclusive hstate hstep
  | selectStaleJobs tx ids => exact admitted_selectStaleJobs hstate hstep
  | recoverStaleJob tx verdict => exact admitted_recoverStaleJob hstate hstep
  | countQueued tx => exact admitted_countQueued hstate hstep
  | countActive tx => exact admitted_countActive hstate hstep
  | countWindow tx => exact admitted_countWindow hstate hstep
  | lockVersion tx found => exact admitted_lockVersion hstate hstep
  | createJob tx id => exact admitted_createJob hstate hstep
  | updateCreated tx update => exact admitted_updateCreated hstate hstep
  | commit tx => exact admitted_commit hstate hstep
  | rollback tx => exact Option.some.inj hstep ▸ admitted_rolledBack hstate tx
  | other action => exact admitted_other hstate hstep

end Steps

theorem admitted_invariant (limits : RateLimits) :
    (admissionSystem Id Tx limits).Invariant (Admitted limits) where
  initial := by
    rintro state ⟨hempty, -, hstage, -⟩
    have hslot : ∀ id, state.work.jobs.slot id = none := by
      intro id
      rw [← Option.not_isSome_iff_eq_none, state.work.jobs.slot_isSome, hempty]
      exact List.not_mem_nil
    have hcount : ∀ matching, state.work.jobs.countCommitted matching = 0 := by
      intro matching
      rw [Table.countCommitted, hempty]
      rfl
    constructor
    · intro id slot hsome
      rw [hslot] at hsome
      contradiction
    · intro tx hholds
      rw [hstage] at hholds
      exact hholds.elim
    · intro tx
      rw [hstage]
      trivial
    · intro userId jobType _
      rw [State.activeJobs, hcount]
      exact Nat.zero_le _
    · intro userId jobType key _ first
      rw [State.jobsCreated, hcount]
      exact Nat.zero_le _
  step := fun _ _ _ hstate hstep => admitted_act hstate hstep

/-- In every state that admissions, completions, recoveries and rollbacks reach
in any order, a user has at most the allowed number of active jobs of a queued type,
and created at most the allowed number of jobs within any one window. -/
theorem admission_keeps_limits {limits : RateLimits} {state : State Id Tx}
    (hreach : (admissionSystem Id Tx limits).Reachable state) (userId : String)
    (jobType : JobType) :
    (jobType ∈ queueableJobTypes →
      state.activeJobs userId jobType ≤ limits.resolveRateLimit userId .maxUserActiveJobs) ∧
    ∀ key ∈ jobTypeRateLimit jobType, ∀ first,
      state.jobsCreated userId jobType first ≤ limits.resolveRateLimit userId key :=
  have hadmitted := (admitted_invariant limits).of_reachable hreach
  ⟨hadmitted.active userId jobType, hadmitted.created userId jobType⟩

/-- One active job, and ten of anything else. -/
def oneActiveJob : RateLimits where
  rateLimitSetting key userId := if key = .maxUserActiveJobs ∧ userId = none then some 1 else none
  envFallback _ := 10

def emptyTable : State Nat Nat where
  work := JobTransactions.emptyState
  stage _ := .none
  exclusive := none
  clock := 0
  refusal _ := none

/-- Sessions 1 and 2 of one user ask for a generation at once; session 1 gets the
lock first, and session 2 counts its committed job. -/
def twoRequests : List (Action Nat Nat) :=
  [.request 1 ⟨"user", .generate, none, none⟩, .request 2 ⟨"user", .generate, none, none⟩,
    .beginExclusive 1, .selectStaleJobs 1 [], .countQueued 1, .countActive 1, .countWindow 1,
    .createJob 1 0, .commit 1, .beginExclusive 2, .selectStaleJobs 2 [0], .recoverStaleJob 2 none,
    .countQueued 2, .countActive 2]

def afterTwoRequests : State Nat Nat :=
  TransitionSystem.lastOf emptyTable
    (TransitionSystem.follow (State.act oneActiveJob) emptyTable twoRequests)

theorem admission_keeps_limits_of_two_requests :
    afterTwoRequests.activeJobs "user" .generate = 1 ∧
      afterTwoRequests.refusal 2 = some activeJobRefused ∧
      afterTwoRequests.activeJobs "user" .generate ≤
        oneActiveJob.resolveRateLimit "user" .maxUserActiveJobs := by
  have hstart : (admissionSystem Nat Nat oneActiveJob).Reachable emptyTable :=
    .initial ⟨rfl, fun _ => rfl, fun _ => rfl, rfl⟩
  refine ⟨by decide +kernel, by decide +kernel, ?_⟩
  exact (admission_keeps_limits (TransitionSystem.reachable_follow hstart twoRequests) "user"
    .generate).1 (by decide)

end Songmaker.Jobs.JobAdmission
