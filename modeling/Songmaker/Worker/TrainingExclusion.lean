import Songmaker.Worker.WrapperRoutes

namespace Songmaker.Worker.TrainingExclusion

open Songmaker.Foundation
open Songmaker.Foundation.TransitionSystem
open Songmaker.Worker.GpuHold
open Songmaker.Worker.HoldHandover
open Songmaker.Worker.WrapperRoutes

variable {Req Gen Token : Type}

/-- The training task has claimed its hold, and its cleanup has not yet released it. -/
def holding : Phase → Bool
  | .training _ | .cancellingTraining _ | .cancellingRenewal _ | .stoppingModel _
  | .releasingHold _ => true
  | _ => false

/-- The request trains, and has its hold. -/
def Training (wrapper : Wrapper Req Gen Token) (req : Req) (token : Token) : Prop :=
  ∃ phase, wrapper.worker.requests req = some (token, phase) ∧ holding phase = true

theorem claimedTask_of_holding {phase : Phase} (hholding : holding phase = true) :
    ∃ task, phase.claimedTask = some task := by
  rcases phase with _ | _ | _ | _ | _ | _ | _ | _ | task | task | task | task | task | task | _
  all_goals first
    | exact ⟨_, rfl⟩
    | simp [holding] at hholding

variable [DecidableEq Req] [DecidableEq Gen] [DecidableEq Token]

/-- A claimed hold is renewed before it expires: none is claimed after it expired,
and none expires while its training task owns it. No two `train_lora` requests
carry one token. -/
def Renewed (wrapper : Wrapper Req Gen Token) : WrapperRoutes.Action Req Gen Token → Prop
  | .holdExpires => ∀ req token, Training wrapper req token →
      wrapper.worker.keys.gpuHold ≠ some token
  | .resumeTraining req outcome => ∀ token,
      wrapper.worker.requests req = some (token, .creatingTask) → outcome ≠ .raises →
        wrapper.worker.keys.gpuHold = some token
  | .trainLora _ token => ∀ other phase, wrapper.worker.requests other ≠ some (token, phase)
  | _ => True

theorem resume_hold {worker worker' : WorkerDeps Req Token} {req : Req} {outcome : Outcome}
    (hresume : worker.resume req outcome = some worker') :
    ∃ token phase phase', worker.requests req = some (token, phase) ∧
      worker'.requests = Function.update worker.requests req (some (token, phase')) ∧
        ((worker'.keys = worker.keys ∧ (holding phase' = true →
            holding phase = true ∨ (phase = .creatingTask ∧ outcome ≠ .raises))) ∨
          (worker'.keys = (releaseGpuHold token worker.keys).2 ∧ holding phase' = false ∧
            outcome = .returns ∧ ∃ task, phase = .releasingHold task)) := by
  unfold WorkerDeps.resume at hresume
  rcases hreq : worker.requests req with _ | ⟨token, phase⟩
  · simp [hreq] at hresume
  · rw [hreq] at hresume
    refine ⟨token, phase, ?_⟩
    rcases phase with _ | _ | _ | _ | _ | _ | _ | _ | task | task | task | task | task | task | _
    case training | cancellingTraining | cancellingRenewal | stoppingModel =>
      rcases outcome with _ | _ | _ <;> cases hresume <;>
        exact ⟨_, rfl, rfl, Or.inl ⟨rfl, fun _ => Or.inl rfl⟩⟩
    case releasingHold =>
      rcases outcome with _ | _ | _
      · cases hresume
        exact ⟨_, rfl, rfl, Or.inr ⟨rfl, rfl, rfl, task, rfl⟩⟩
      · cases hresume
        exact ⟨_, rfl, rfl, Or.inl ⟨rfl, fun _ => Or.inl rfl⟩⟩
      · cases hresume
        exact ⟨_, rfl, rfl, Or.inl ⟨rfl, fun _ => Or.inl rfl⟩⟩
    case creatingTask =>
      rcases outcome with _ | _ | _
      · cases hresume
        exact ⟨_, rfl, rfl, Or.inl ⟨rfl, fun _ => Or.inr ⟨rfl, by simp⟩⟩⟩
      · cases hresume
        exact ⟨_, rfl, rfl, Or.inl ⟨rfl, by simp [holding]⟩⟩
      · cases hresume
        exact ⟨_, rfl, rfl, Or.inl ⟨rfl, fun _ => Or.inr ⟨rfl, by simp⟩⟩⟩
    case ended => rcases outcome with _ | _ | _ <;> cases hresume
    case acquiringModel | setupCancellingRenewal | setupReleasingModel =>
      rcases outcome with _ | _ | _ <;> cases hresume <;>
        exact ⟨_, rfl, rfl, Or.inl ⟨rfl, by simp [holding]⟩⟩
    all_goals
      rcases outcome with _ | _ | _
      · simp only at hresume
        split at hresume
        · first
            | cases hresume
              done
            | cases hresume
              exact ⟨_, rfl, rfl, Or.inl ⟨rfl, by simp [holding]⟩⟩
        · first
            | cases hresume
              exact ⟨_, rfl, rfl, Or.inl ⟨rfl, by simp [holding]⟩⟩
            | split at hresume
              · cases hresume
                exact ⟨_, rfl, rfl, Or.inl ⟨rfl, by simp [holding]⟩⟩
              · cases hresume
                exact ⟨_, rfl, rfl, Or.inl ⟨rfl, by simp [holding]⟩⟩
      · cases hresume
        exact ⟨_, rfl, rfl, Or.inl ⟨rfl, by simp [holding]⟩⟩
      · cases hresume
        exact ⟨_, rfl, rfl, Or.inl ⟨rfl, by simp [holding]⟩⟩

/-- A training that runs has the hold, and a generation that sets up has the lock. -/
structure Invariant (wrapper : Wrapper Req Gen Token) : Prop where
  consistent : Consistent wrapper.worker
  distinct : ∀ req req' token phase phase', wrapper.worker.requests req = some (token, phase) →
    wrapper.worker.requests req' = some (token, phase') → req = req'
  releasing : ∀ token, wrapper.worker.lock = some (.releaseHold token) →
    token ∉ wrapper.worker.table.tokens
  held : ∀ req token, Training wrapper req token → wrapper.worker.keys.gpuHold = some token
  owns : ∀ gen phase, wrapper.generations gen = some phase → phase.ownsLock = true →
    wrapper.admissionLock = some (.generation gen)
  reserves : ∀ token, wrapper.reservations token = some .reserving →
    wrapper.admissionLock = some (.reservation token) ∧ wrapper.generationTasks = ∅
  unheld : ∀ gen phase, wrapper.generations gen = some phase → phase.foundNoHold = true →
    wrapper.worker.keys.gpuHold = none
  excluded : wrapper.generationTasks.Nonempty → wrapper.worker.keys.gpuHold = none

variable {wrapper wrapper' : Wrapper Req Gen Token}

omit [DecidableEq Req] [DecidableEq Gen] [DecidableEq Token] in
theorem Invariant.noGeneration (hinv : Invariant wrapper) {req : Req} {token : Token}
    (htraining : Training wrapper req token) :
    wrapper.generationTasks = ∅ := by
  by_contra htasks
  have hnone := hinv.excluded (Finset.nonempty_iff_ne_empty.mpr htasks)
  rw [hinv.held req token htraining] at hnone
  simp at hnone

/-! ### The training requests -/

omit [DecidableEq Req] [DecidableEq Gen] [DecidableEq Token] in
theorem Invariant.onWorker {worker : WorkerDeps Req Token} (hinv : Invariant wrapper)
    (hconsistent : Consistent worker)
    (hdistinct : ∀ req req' token phase phase', worker.requests req = some (token, phase) →
      worker.requests req' = some (token, phase') → req = req')
    (hreleasing : ∀ token, worker.lock = some (.releaseHold token) →
      token ∉ worker.table.tokens)
    (hheld : ∀ req token, Training { wrapper with worker := worker } req token →
      worker.keys.gpuHold = some token)
    (hkeys : worker.keys.gpuHold = wrapper.worker.keys.gpuHold ∨ worker.keys.gpuHold = none) :
    Invariant { wrapper with worker := worker } := by
  have hnone : wrapper.worker.keys.gpuHold = none → worker.keys.gpuHold = none := by
    intro hnone
    rcases hkeys with hkeys | hkeys
    · rw [hkeys, hnone]
    · exact hkeys
  exact ⟨hconsistent, hdistinct, hreleasing, hheld, hinv.owns, hinv.reserves,
    fun gen phase hgen hfound => hnone (hinv.unheld gen phase hgen hfound),
    fun htasks => hnone (hinv.excluded htasks)⟩

omit [DecidableEq Req] in
theorem releaseGpuHold_gpuHold (token : Token) (keys : WorkerKeys Token) :
    ((releaseGpuHold token keys).2.gpuHold = keys.gpuHold ∨
        (releaseGpuHold token keys).2.gpuHold = none) ∧
      (keys.gpuHold ≠ some token → (releaseGpuHold token keys).2.gpuHold = keys.gpuHold) := by
  unfold releaseGpuHold gpuHoldMatches
  split
  · rename_i hmatches
    exact ⟨Or.inr rfl, fun hne => absurd (by simpa using hmatches) hne⟩
  · exact ⟨Or.inl rfl, fun _ => rfl⟩

theorem releasing_resume {worker worker' : WorkerDeps Req Token} {req : Req} {outcome : Outcome}
    (hreleasing : ∀ token, worker.lock = some (.releaseHold token) →
      token ∉ worker.table.tokens)
    (hresume : worker.resume req outcome = some worker') :
    ∀ token, worker'.lock = some (.releaseHold token) → token ∉ worker'.table.tokens := by
  obtain ⟨own, phase, hreq, hresumed⟩ := resume_cases hresume
  intro token hlock
  rcases hresumed with ⟨phase', keys, lock, howns, hclaim, hkept⟩ | ⟨hclaim, hfree, hnew⟩ |
    hphase | ⟨phase', hphase, howns, hclaim⟩ | ⟨hreturns, hfree, hphase⟩
  · rcases hkept with hkept | ⟨-, hnone⟩
    · exact hreleasing token (hkept ▸ hlock)
    · change lock = some (.releaseHold token) at hlock
      simp [hnone] at hlock
  · simp at hlock
  · exact hreleasing token hlock
  · simp at hlock
  · change worker.lock = some (.releaseHold token) at hlock
    simp [hfree] at hlock

omit [DecidableEq Gen] in
theorem resumeTraining_keeps {req : Req} {outcome : Outcome} (hinv : Invariant wrapper)
    (hrenewed : Renewed wrapper (.resumeTraining req outcome))
    (hstep : wrapper.onWorker (.resume req outcome) = some wrapper') :
    Invariant wrapper' := by
  obtain ⟨worker, hresume, rfl⟩ := Option.map_eq_some_iff.mp hstep
  have hunclaimed : SetupCleanupUnclaimed wrapper.worker (.resume req outcome) := by
    rintro _ token ⟨⟩ hreq other task ⟨phase, hother, htask⟩
    obtain rfl := hinv.distinct _ _ _ _ _ hreq hother
    rw [hreq] at hother
    cases hother
    cases htask
  obtain ⟨token, phase, phase', hreq, hrequests, hkeys⟩ := resume_hold hresume
  have hgpuHold : worker.keys.gpuHold = wrapper.worker.keys.gpuHold ∨
      worker.keys.gpuHold = none := by
    rcases hkeys with ⟨hkeys, -⟩ | ⟨hkeys, -⟩
    · exact Or.inl (by rw [hkeys])
    · rw [hkeys]
      exact (releaseGpuHold_gpuHold token _).1
  apply hinv.onWorker (hinv.consistent.act hresume hunclaimed) _
    (releasing_resume hinv.releasing hresume) _ hgpuHold
  · intro first second shared phase₁ phase₂ hfirst hsecond
    have hold : ∀ other phase, worker.requests other = some (shared, phase) →
        ∃ phase, wrapper.worker.requests other = some (shared, phase) := by
      intro other phase hother
      rw [hrequests, Function.update_apply] at hother
      split at hother
      · rename_i heq
        cases hother
        exact ⟨_, heq ▸ hreq⟩
      · exact ⟨phase, hother⟩
    obtain ⟨_, hfirst⟩ := hold first phase₁ hfirst
    obtain ⟨_, hsecond⟩ := hold second phase₂ hsecond
    exact hinv.distinct _ _ _ _ _ hfirst hsecond
  · rintro other claimed ⟨other', hother, hholding⟩
    change worker.requests other = some (claimed, other') at hother
    rw [hrequests, Function.update_apply] at hother
    split at hother
    · cases hother
      rcases hkeys with ⟨hkeys, hphase⟩ | ⟨-, hended, -⟩
      · rw [hkeys]
        rcases hphase hholding with hholds | ⟨rfl, hclaims⟩
        · exact hinv.held req token ⟨phase, hreq, hholds⟩
        · exact hrenewed token hreq hclaims
      · simp [hended] at hholding
    · rename_i hne
      have hheld := hinv.held other claimed ⟨other', hother, hholding⟩
      rcases hkeys with ⟨hkeys, -⟩ | ⟨hkeys, -⟩
      · rw [hkeys, hheld]
      · rw [hkeys, (releaseGpuHold_gpuHold token _).2, hheld]
        rw [hheld]
        rintro ⟨⟩
        exact hne (hinv.distinct _ _ _ _ _ hother hreq)

omit [DecidableEq Gen] in
theorem trainLora_keeps {req : Req} {token : Token} (hinv : Invariant wrapper)
    (hrenewed : Renewed wrapper (.trainLora req token))
    (hstep : wrapper.onWorker (.trainLora req token) = some wrapper') :
    Invariant wrapper' := by
  obtain ⟨worker, hact, rfl⟩ := Option.map_eq_some_iff.mp hstep
  have hconsistent := hinv.consistent.act hact (by rintro _ _ ⟨⟩)
  simp only [WorkerDeps.act] at hact
  split at hact
  · simp at hact
  · rename_i hfresh
    obtain rfl := Option.some.inj hact
    apply hinv.onWorker hconsistent _ hinv.releasing _ (Or.inl rfl)
    · intro first second shared phase₁ phase₂ hfirst hsecond
      simp only [WorkerDeps.setPhase, Function.update_apply] at hfirst hsecond
      split at hfirst
      · rename_i hfirstIs
        cases hfirst
        split at hsecond
        · rename_i hsecondIs
          rw [hfirstIs, hsecondIs]
        · exact absurd hsecond (hrenewed second phase₂)
      · split at hsecond
        · cases hsecond
          exact absurd hfirst (hrenewed first phase₁)
        · exact hinv.distinct _ _ _ _ _ hfirst hsecond
    · rintro other claimed ⟨phase, hother, hholding⟩
      simp only [WorkerDeps.setPhase, Function.update_apply] at hother
      split at hother
      · cases hother
        simp [holding] at hholding
      · exact hinv.held other claimed ⟨phase, hother, hholding⟩

omit [DecidableEq Gen] in
theorem releaseHold_keeps {token : Token} (hinv : Invariant wrapper)
    (hstep : wrapper.onWorker (.releaseHold token) = some wrapper') :
    Invariant wrapper' := by
  obtain ⟨worker, hact, rfl⟩ := Option.map_eq_some_iff.mp hstep
  have hconsistent := hinv.consistent.act hact (by rintro _ _ ⟨⟩)
  simp only [WorkerDeps.act] at hact
  split at hact
  · simp at hact
  · split at hact
    · obtain rfl := Option.some.inj hact
      exact hinv
    · rename_i hrefused
      obtain rfl := Option.some.inj hact
      apply hinv.onWorker hconsistent hinv.distinct _ hinv.held (Or.inl rfl)
      rintro other ⟨⟩
      simpa [releaseHoldRefused] using hrefused

omit [DecidableEq Gen] in
theorem releaseHoldResumes_keeps {token : Token} {outcome : Outcome} (hinv : Invariant wrapper)
    (hstep : wrapper.onWorker (.releaseHoldResumes token outcome) = some wrapper') :
    Invariant wrapper' := by
  obtain ⟨worker, hact, rfl⟩ := Option.map_eq_some_iff.mp hstep
  have hconsistent := hinv.consistent.act hact (by rintro _ _ ⟨⟩)
  simp only [WorkerDeps.act] at hact
  split at hact
  · rename_i hlock
    obtain rfl := Option.some.inj hact
    apply hinv.onWorker hconsistent hinv.distinct (by simp)
    · rintro other claimed ⟨phase, hother, hholding⟩
      have hheld := hinv.held other claimed ⟨phase, hother, hholding⟩
      obtain ⟨task, htask⟩ := claimedTask_of_holding hholding
      have hclaimed := (hinv.consistent.claims other claimed task ⟨phase, hother, htask⟩).1
      have hne : token ≠ claimed := fun heq => hinv.releasing token hlock (heq ▸ hclaimed)
      show (if outcome = .returns then _ else wrapper.worker.keys).gpuHold = some claimed
      split
      · rw [(releaseGpuHold_gpuHold token _).2, hheld]
        rw [hheld]
        rintro ⟨⟩
        exact hne rfl
      · exact hheld
    · show (if outcome = .returns then _ else wrapper.worker.keys).gpuHold = _ ∨
        (if outcome = .returns then _ else wrapper.worker.keys).gpuHold = none
      split
      · exact (releaseGpuHold_gpuHold token _).1
      · exact Or.inl rfl
  · simp at hact

omit [DecidableEq Gen] in
theorem holdExpires_keeps (hinv : Invariant wrapper) (hrenewed : Renewed wrapper .holdExpires)
    (hstep : wrapper.onWorker .holdExpires = some wrapper') :
    Invariant wrapper' := by
  obtain ⟨worker, hact, rfl⟩ := Option.map_eq_some_iff.mp hstep
  have hconsistent := hinv.consistent.act hact (by rintro _ _ ⟨⟩)
  obtain rfl := Option.some.inj hact
  apply hinv.onWorker hconsistent hinv.distinct hinv.releasing _ (Or.inr rfl)
  rintro other claimed ⟨phase, hother, hholding⟩
  have htraining : Training wrapper other claimed := ⟨phase, hother, hholding⟩
  exact absurd (hinv.held other claimed htraining) (hrenewed other claimed htraining)

/-! ### The admission lock -/

theorem ownsLock_of_foundNoHold {phase : GenerationPhase} (hfound : phase.foundNoHold = true) :
    phase.ownsLock = true := by
  rcases phase <;> first | rfl | simp [GenerationPhase.foundNoHold] at hfound

omit [DecidableEq Req] [DecidableEq Gen] [DecidableEq Token] in
theorem Invariant.owner_unique {gen : Gen} {phase : GenerationPhase} (hinv : Invariant wrapper)
    (hgen : wrapper.generations gen = some phase) (howns : phase.ownsLock = true) :
    (∀ other phase, wrapper.generations other = some phase → phase.ownsLock = true →
        other = gen) ∧
      ∀ token, wrapper.reservations token ≠ some .reserving := by
  have hlock := hinv.owns gen phase hgen howns
  constructor
  · intro other phase' hother howns'
    have hother := hinv.owns other phase' hother howns'
    rw [hlock] at hother
    simpa [eq_comm] using hother
  · intro token htoken
    have hother := (hinv.reserves token htoken).1
    rw [hlock] at hother
    simp at hother

omit [DecidableEq Req] [DecidableEq Gen] [DecidableEq Token] in
theorem Invariant.reservation_unique {token : Token} (hinv : Invariant wrapper)
    (hreserving : wrapper.reservations token = some .reserving) :
    (∀ gen phase, wrapper.generations gen = some phase → phase.ownsLock = false) ∧
      ∀ other, wrapper.reservations other = some .reserving → other = token := by
  have hlock := (hinv.reserves token hreserving).1
  constructor
  · intro gen phase hgen
    by_contra howns
    have hother := hinv.owns gen phase hgen (by simpa using howns)
    rw [hlock] at hother
    simp at hother
  · intro other hother
    have hother := (hinv.reserves other hother).1
    rw [hlock] at hother
    simpa [eq_comm] using hother

omit [DecidableEq Req] [DecidableEq Gen] [DecidableEq Token] in
theorem Invariant.nobody_owns (hinv : Invariant wrapper) (hfree : wrapper.admissionLock = none) :
    (∀ gen phase, wrapper.generations gen = some phase → phase.ownsLock = false) ∧
      ∀ token, wrapper.reservations token ≠ some .reserving := by
  constructor
  · intro gen phase hgen
    by_contra howns
    have hlock := hinv.owns gen phase hgen (by simpa using howns)
    simp [hfree] at hlock
  · intro token htoken
    have hlock := (hinv.reserves token htoken).1
    simp [hfree] at hlock

omit [DecidableEq Req] [DecidableEq Gen] [DecidableEq Token] in
theorem Invariant.admit {keys : WorkerKeys Token} {lock : Option (AdmissionOwner Gen Token)}
    {tasks : Finset Gen} {generations : Gen → Option GenerationPhase}
    {reservations : Token → Option ReservationPhase} (hinv : Invariant wrapper)
    (hheld : ∀ token, wrapper.worker.keys.gpuHold = some token → keys.gpuHold = some token)
    (howns : ∀ gen phase, generations gen = some phase → phase.ownsLock = true →
      lock = some (.generation gen))
    (hreserves : ∀ token, reservations token = some .reserving →
      lock = some (.reservation token) ∧ tasks = ∅)
    (hunheld : ∀ gen phase, generations gen = some phase → phase.foundNoHold = true →
      keys.gpuHold = none)
    (hexcluded : tasks.Nonempty → keys.gpuHold = none) :
    Invariant
      { worker := { wrapper.worker with keys := keys }
        admissionLock := lock
        generationTasks := tasks
        generations := generations
        reservations := reservations } :=
  ⟨hinv.consistent.of_same_table rfl rfl (fun _ _ _ hclaim => hclaim) hinv.consistent.owns,
    hinv.distinct, hinv.releasing,
    fun req token htraining => hheld token (hinv.held req token htraining),
    howns, hreserves, hunheld, hexcluded⟩

omit [DecidableEq Req] [DecidableEq Gen] in
theorem Invariant.endReservation {token : Token} {keys : WorkerKeys Token}
    (hinv : Invariant wrapper) (hreserving : wrapper.reservations token = some .reserving)
    (hheld : ∀ token, wrapper.worker.keys.gpuHold = some token → keys.gpuHold = some token) :
    Invariant
      { worker := { wrapper.worker with keys := keys }
        admissionLock := none
        generationTasks := wrapper.generationTasks
        generations := wrapper.generations
        reservations := Function.update wrapper.reservations token (some .ended) } := by
  obtain ⟨hnoOwner, honly⟩ := hinv.reservation_unique hreserving
  have htasks := (hinv.reserves token hreserving).2
  apply hinv.admit hheld
  · intro gen phase hgen howns
    simp [hnoOwner gen phase hgen] at howns
  · intro other hother
    rw [Function.update_apply] at hother
    split at hother
    · simp at hother
    · rename_i hne
      exact absurd (honly other hother) hne
  · intro gen phase hgen hfound
    have howns := ownsLock_of_foundNoHold hfound
    simp [hnoOwner gen phase hgen] at howns
  · intro hnonempty
    simp [htasks] at hnonempty

omit [DecidableEq Req] [DecidableEq Gen] in
theorem resumeReservation_keeps {token : Token} {outcome : Outcome} (hinv : Invariant wrapper)
    (hstep : wrapper.resumeReservation token outcome = some wrapper') :
    Invariant wrapper' := by
  have hpass : ∀ {phase}, phase ≠ ReservationPhase.reserving →
      Invariant (wrapper.setReservation token phase) := by
    intro phase hphase
    refine hinv.admit (fun _ hheld => hheld) hinv.owns ?_ hinv.unheld hinv.excluded
    intro other hother
    rw [Function.update_apply] at hother
    split at hother
    · exact absurd (Option.some.inj hother) hphase
    · exact hinv.reserves other hother
  unfold Wrapper.resumeReservation at hstep
  split at hstep
  · split at hstep
    · simp at hstep
    · rename_i hfree
      obtain ⟨hnoOwner, hnoReserving⟩ := hinv.nobody_owns (by simpa using hfree)
      split at hstep
      · exact Option.some.inj hstep ▸ hpass (by simp)
      · rename_i htasks
        obtain rfl := Option.some.inj hstep
        refine hinv.admit (fun _ hheld => hheld) ?_ ?_ hinv.unheld hinv.excluded
        · intro gen phase hgen howns
          simp [hnoOwner gen phase hgen] at howns
        · intro other hother
          simp only [Wrapper.setReservation, Function.update_apply] at hother
          split at hother
          · rename_i heq
            exact ⟨by rw [heq], Finset.not_nonempty_iff_eq_empty.mp htasks⟩
          · exact absurd hother (hnoReserving other)
  · exact Option.some.inj hstep ▸ hpass (by simp)
  · rename_i hreserving
    obtain rfl := Option.some.inj hstep
    apply hinv.endReservation hreserving
    intro held hheld
    simp [reserveGpuHold, hheld]
  · rename_i hreserving _
    obtain rfl := Option.some.inj hstep
    exact hinv.endReservation hreserving fun _ hheld => hheld
  · simp at hstep

omit [DecidableEq Req] [DecidableEq Token] in
theorem Invariant.moveGeneration {gen : Gen} {phase : GenerationPhase} (hinv : Invariant wrapper)
    (howns : phase.ownsLock = true → wrapper.admissionLock = some (.generation gen))
    (hfound : phase.foundNoHold = true → wrapper.worker.keys.gpuHold = none) :
    Invariant (wrapper.setGeneration gen phase) := by
  refine hinv.admit (fun _ hheld => hheld) ?_ hinv.reserves ?_ hinv.excluded
  · intro other phase' hother howns'
    rw [Function.update_apply] at hother
    split at hother
    · rename_i heq
      cases hother
      exact heq ▸ howns howns'
    · exact hinv.owns other phase' hother howns'
  · intro other phase' hother hfound'
    rw [Function.update_apply] at hother
    split at hother
    · cases hother
      exact hfound hfound'
    · exact hinv.unheld other phase' hother hfound'

omit [DecidableEq Req] [DecidableEq Token] in
theorem Invariant.leaveLock {gen : Gen} {phase phase' : GenerationPhase} {tasks : Finset Gen}
    (hinv : Invariant wrapper) (hgen : wrapper.generations gen = some phase)
    (howns : phase.ownsLock = true) (hphase' : phase'.ownsLock = false)
    (hexcluded : tasks.Nonempty → wrapper.worker.keys.gpuHold = none) :
    Invariant { wrapper.setGeneration gen phase' with
      admissionLock := none
      generationTasks := tasks } := by
  obtain ⟨honly, hnoReserving⟩ := hinv.owner_unique hgen howns
  have hnoOwner : ∀ other phase,
      (wrapper.setGeneration gen phase').generations other = some phase →
        phase.ownsLock = false := by
    intro other phase hother
    simp only [Wrapper.setGeneration, Function.update_apply] at hother
    split at hother
    · cases hother
      exact hphase'
    · rename_i hne
      by_contra hother'
      exact hne (honly other phase hother (by simpa using hother'))
  refine hinv.admit (fun _ hheld => hheld) ?_ ?_ ?_ hexcluded
  · intro other phase hother howns'
    simp [hnoOwner other phase hother] at howns'
  · exact fun token htoken => absurd htoken (hnoReserving token)
  · intro other phase hother hfound
    have howns' := ownsLock_of_foundNoHold hfound
    simp [hnoOwner other phase hother] at howns'

omit [DecidableEq Req] [DecidableEq Token] in
theorem resumeGeneration_keeps {gen : Gen} {outcome : GenerationOutcome}
    (hinv : Invariant wrapper) (hstep : wrapper.resumeGeneration gen outcome = some wrapper') :
    Invariant wrapper' := by
  have hleave : ∀ {phase}, wrapper.generations gen = some phase → phase.ownsLock = true →
      Invariant { wrapper.setGeneration gen .ended with admissionLock := none } :=
    fun hgen howns => hinv.leaveLock hgen howns rfl hinv.excluded
  unfold Wrapper.resumeGeneration at hstep
  split at hstep
  · split at hstep
    · simp at hstep
    · rename_i hfree
      obtain ⟨hnoOwner, hnoReserving⟩ := hinv.nobody_owns (by simpa using hfree)
      obtain rfl := Option.some.inj hstep
      refine hinv.admit (fun _ hheld => hheld) ?_ ?_ ?_ hinv.excluded
      · intro other phase hother howns
        simp only [Wrapper.setGeneration, Function.update_apply] at hother
        split at hother
        · rename_i heq
          rw [heq]
        · simp [hnoOwner other phase hother] at howns
      · exact fun token htoken => absurd htoken (hnoReserving token)
      · intro other phase hother hfound
        simp only [Wrapper.setGeneration, Function.update_apply] at hother
        split at hother
        · cases hother
          simp [GenerationPhase.foundNoHold] at hfound
        · exact hinv.unheld other phase hother hfound
  · exact Option.some.inj hstep ▸ hinv.moveGeneration (by rintro ⟨⟩) (by rintro ⟨⟩)
  · rename_i hgen
    split at hstep
    · exact Option.some.inj hstep ▸ hleave hgen rfl
    · rename_i hnone
      refine Option.some.inj hstep ▸ hinv.moveGeneration (fun _ => hinv.owns gen _ hgen rfl) ?_
      exact fun _ => by simpa using hnone
  · rename_i hgen _
    exact Option.some.inj hstep ▸ hleave hgen rfl
  · rename_i hgen
    exact Option.some.inj hstep ▸ hinv.moveGeneration (fun _ => hinv.owns gen _ hgen rfl)
      fun _ => hinv.unheld gen _ hgen rfl
  · rename_i hgen _
    exact Option.some.inj hstep ▸ hleave hgen rfl
  · rename_i hgen
    obtain rfl := Option.some.inj hstep
    exact hinv.leaveLock hgen rfl rfl fun _ => hinv.unheld gen _ hgen rfl
  · rename_i hgen
    exact Option.some.inj hstep ▸ hinv.moveGeneration (fun _ => hinv.owns gen _ hgen rfl)
      fun _ => hinv.unheld gen _ hgen rfl
  · rename_i hgen _ _
    exact Option.some.inj hstep ▸ hleave hgen rfl
  · rename_i hgen
    exact Option.some.inj hstep ▸ hleave hgen rfl
  · exact Option.some.inj hstep ▸ hinv.moveGeneration (by rintro ⟨⟩) (by rintro ⟨⟩)
  · exact Option.some.inj hstep ▸ hinv.moveGeneration (by rintro ⟨⟩) (by rintro ⟨⟩)
  · split at hstep
    · simp at hstep
    · rename_i hfree
      obtain ⟨-, hnoReserving⟩ := hinv.nobody_owns (by simpa using hfree)
      obtain rfl := Option.some.inj hstep
      have hmoved : Invariant (wrapper.setGeneration gen .ended) :=
        hinv.moveGeneration (by rintro ⟨⟩) (by rintro ⟨⟩)
      refine hmoved.admit (fun _ hheld => hheld) hmoved.owns ?_ hmoved.unheld ?_
      · exact fun token htoken => absurd htoken (hnoReserving token)
      · exact fun hnonempty => hinv.excluded (hnonempty.mono (Finset.erase_subset _ _))
  · exact Option.some.inj hstep ▸ hinv.moveGeneration (by rintro ⟨⟩) (by rintro ⟨⟩)
  · simp at hstep

/-! ### Every step -/

theorem act_keeps {action : WrapperRoutes.Action Req Gen Token} (hinv : Invariant wrapper)
    (hrenewed : Renewed wrapper action) (hstep : wrapper.act action = some wrapper') :
    Invariant wrapper' := by
  rcases action with ⟨req, token⟩ | ⟨req, outcome⟩ | token | ⟨token, outcome⟩ | token | _ |
    token | ⟨token, outcome⟩ | gen | ⟨gen, outcome⟩
  · exact trainLora_keeps hinv hrenewed hstep
  · exact resumeTraining_keeps hinv hrenewed hstep
  · exact releaseHold_keeps hinv hstep
  · exact releaseHoldResumes_keeps hinv hstep
  · exact Option.some.inj hstep ▸ hinv
  · exact holdExpires_keeps hinv hrenewed hstep
  · simp only [Wrapper.act] at hstep
    split at hstep
    · simp at hstep
    · obtain rfl := Option.some.inj hstep
      refine hinv.admit (fun _ hheld => hheld) hinv.owns ?_ hinv.unheld hinv.excluded
      intro other hother
      simp only [Function.update_apply] at hother
      split at hother
      · simp at hother
      · exact hinv.reserves other hother
  · exact resumeReservation_keeps hinv hstep
  · simp only [Wrapper.act] at hstep
    split at hstep
    · simp at hstep
    · exact Option.some.inj hstep ▸ hinv.moveGeneration (by rintro ⟨⟩) (by rintro ⟨⟩)
  · exact resumeGeneration_keeps hinv hstep

theorem invariant_of_initial (hinitial : (wrapperSystem Req Gen Token).initial wrapper) :
    Invariant wrapper := by
  obtain ⟨hworker, -, hlock, htasks, hgenerations, hreservations⟩ := hinitial
  obtain ⟨hworkerLock, -, hrequests⟩ := id hworker
  refine ⟨consistent_of_initial hworker, ?_, ?_, ?_, ?_, ?_, ?_, ?_⟩
  · intro req req' token phase phase' hreq
    simp [hrequests] at hreq
  · intro token hreleasing
    simp [hworkerLock] at hreleasing
  · rintro req token ⟨phase, hreq, -⟩
    simp [hrequests] at hreq
  · intro gen phase hgen
    simp [hgenerations] at hgen
  · intro token htoken
    simp [hreservations] at htoken
  · intro gen phase hgen
    simp [hgenerations] at hgen
  · intro hnonempty
    simp [htasks] at hnonempty

/-- While a training task owns the hold that it claimed, the worker has no
unfinished generation task. -/
theorem training_excludes_generation (wrapper : Wrapper Req Gen Token)
    (run : List (WrapperRoutes.Action Req Gen Token × Wrapper Req Gen Token))
    (hinitial : (wrapperSystem Req Gen Token).initial wrapper)
    (hrun : (wrapperSystem Req Gen Token).IsRun wrapper run)
    (hrenewed : StepsMeet Renewed wrapper run) :
    ∀ reached ∈ visited wrapper run, ∀ req token, Training reached req token →
      reached.generationTasks = ∅ := by
  intro reached hreached req token htraining
  refine Invariant.noGeneration ?_ htraining
  refine forall_visited_of_stepsMeet ?_ (invariant_of_initial hinitial) hrun hrenewed reached
    hreached
  exact fun _ _ _ hinv hstep hok => act_keeps hinv hok hstep

def idleWrapper : Wrapper Nat Nat Nat where
  worker := idleWorker
  admissionLock := none
  generationTasks := ∅
  generations _ := none
  reservations _ := none

theorem idleWrapper_initial : (wrapperSystem Nat Nat Nat).initial idleWrapper :=
  ⟨⟨rfl, rfl, rfl⟩, rfl, rfl, rfl, fun _ => rfl, fun _ => rfl⟩

/-- The hold 7 is reserved, a training claims it, and a generation is refused. -/
def refusedGeneration : List (WrapperRoutes.Action Nat Nat Nat) :=
  [.reserveHold 7, .reserveHoldResumes 7 .returns, .reserveHoldResumes 7 .returns,
    .trainLora 0 7, .resumeTraining 0 .returns, .resumeTraining 0 .returns,
    .resumeTraining 0 .returns, .resumeTraining 0 .returns, .resumeTraining 0 .returns,
    .generate 3, .generateResumes 3 .returns, .generateResumes 3 .returns]

theorem training_excludes_refused_generation :
    Training (lastOf idleWrapper (follow Wrapper.act idleWrapper refusedGeneration)) 0 7 ∧
      (lastOf idleWrapper (follow Wrapper.act idleWrapper refusedGeneration)).generations 3 =
        some .ended ∧
      ∀ reached ∈ visited idleWrapper (follow Wrapper.act idleWrapper refusedGeneration),
        ∀ req token, Training reached req token → reached.generationTasks = ∅ := by
  refine ⟨⟨.training 0, by decide +kernel, rfl⟩, by decide +kernel, ?_⟩
  apply training_excludes_generation idleWrapper _ idleWrapper_initial (isRun_follow _ _ _ _)
  refine ⟨trivial, trivial, trivial, ?_, ?_, ?_, ?_, ?_, ?_, trivial, trivial, trivial, trivial⟩
  · rintro other phase ⟨⟩
  · rintro token ⟨⟩
  · rintro token ⟨⟩
  · rintro token ⟨⟩
  · rintro token ⟨⟩
  · rintro token ⟨⟩ -
    rfl

end Songmaker.Worker.TrainingExclusion
