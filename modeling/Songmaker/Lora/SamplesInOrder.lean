import Songmaker.Lora.SampleRequests

namespace Songmaker.Lora.SampleRequests

open Songmaker.Foundation
open Songmaker.Foundation.Renumbering
open Songmaker.Foundation.TransitionSystem
open Songmaker.Jobs

variable {SampleId JobId Req : Type}

section

variable [DecidableEq SampleId]

/-- What a write was made from still holds of the committed samples: no more samples
than were counted and the next position for a new one, the rows read for a new order. -/
def Write.StillAsRead (samples : List (UserLoraSample SampleId)) : Write SampleId → Prop
  | .insert _ counted position => samples.length ≤ counted ∧ position = samples.length
  | .patch _ _ none => True
  | .patch loaded _ (some siblings) =>
      (siblings.map (·.row)).Perm (samples.map (·.row)) ∧ loaded.row ∈ samples.map (·.row)
  | .remove sampleId remaining =>
      (remaining.map (·.row)).Perm
        ((samples.filter fun sample => sample.id ≠ sampleId).map (·.row))
  | .deleteLora => True

/-- A request commits while the LoRA is in training or not, as it has read, and while
what it writes was made from what is committed. A training starts while no training
job is active of a LoRA that is not in training. -/
def StillAsRead (s : State SampleId JobId Req) : Action SampleId JobId Req → Prop
  | .commit req _ => ∀ status write, s.requests req = some (.writing status write) →
      isActive s.status = isActive status ∧ write.StillAsRead s.samples
  | .commitStart req _ => ∀ status, s.requests req = some (.starting status) →
      isActive s.status = isActive status ∧
        (isActive s.status = false → ∀ job ∈ s.jobs, jobActive job = false)
  | _ => True

/-- What the request has written and not committed. -/
def Stage.written : Stage SampleId JobId → Option (LoraStatus × Write SampleId)
  | .writing status write => some (status, write)
  | _ => none

/-- The status that a training request has read. -/
def Stage.started : Stage SampleId JobId → Option LoraStatus
  | .starting status => some status
  | _ => none

omit [DecidableEq SampleId] in
theorem written_eq_some {stage : Option (Stage SampleId JobId)} {status : LoraStatus}
    {write : Write SampleId} :
    stage.bind Stage.written = some (status, write) ↔ stage = some (.writing status write) := by
  rcases stage with _ | stage
  · simp
  · cases stage <;> simp [Stage.written]

omit [DecidableEq SampleId] in
theorem started_eq_some {stage : Option (Stage SampleId JobId)} {status : LoraStatus} :
    stage.bind Stage.started = some status ↔ stage = some (.starting status) := by
  rcases stage with _ | stage
  · simp
  · cases stage <;> simp [Stage.started]

instance (write : Write SampleId) (samples : List (UserLoraSample SampleId)) :
    Decidable (write.StillAsRead samples) :=
  match write with
  | .insert .. => inferInstanceAs (Decidable (_ ∧ _))
  | .patch _ _ none => inferInstanceAs (Decidable True)
  | .patch _ _ (some _) => inferInstanceAs (Decidable (_ ∧ _))
  | .remove .. => inferInstanceAs (Decidable (List.Perm _ _))
  | .deleteLora => inferInstanceAs (Decidable True)

instance (s : State SampleId JobId Req) (action : Action SampleId JobId Req) :
    Decidable (StillAsRead s action) :=
  match action with
  | .commit req _ =>
      decidable_of_iff (∀ pair ∈ (s.requests req).bind Stage.written,
        isActive s.status = isActive pair.1 ∧ pair.2.StillAsRead s.samples)
        ⟨fun h status write hstage => h (status, write) (written_eq_some.mpr hstage),
          fun h pair hpair => h pair.1 pair.2 (written_eq_some.mp hpair)⟩
  | .commitStart req _ =>
      decidable_of_iff (∀ status ∈ (s.requests req).bind Stage.started,
        isActive s.status = isActive status ∧
          (isActive s.status = false → ∀ job ∈ s.jobs, jobActive job = false))
        ⟨fun h status hstage => h status (started_eq_some.mpr hstage),
          fun h status hstatus => h status (started_eq_some.mp hstatus)⟩
  | .openRequest .. | .readLora .. | .countSamples .. | .placeSample .. | .readSamples ..
  | .prepare .. | .lockCapacity .. | .readLocked .. | .enqueue .. | .commitFailure ..
  | .abort .. | .updateLora .. | .updateJob .. => inferInstanceAs (Decidable True)

end

/-- The sample's number is below the limit. -/
def Write.Checked : Write SampleId → Prop
  | .insert _ counted _ => counted < userLoraMaxSamples
  | _ => True

/-- What a request has checked when it comes to this stage. -/
def Stage.Checked : Stage SampleId JobId → Prop
  | .accepted .trainLora _ _ => True
  | .accepted _ status _ => isActive status = false
  | .counted _ status count => isActive status = false ∧ count < userLoraMaxSamples
  | .writing status write => isActive status = false ∧ write.Checked
  | .starting status => isActive status = false
  | _ => True

/-- A training under way excludes every request that would change its samples. -/
structure Inv (s : State SampleId JobId Req) : Prop where
  excluded : Excluded s
  ids : ((s.samples.map (·.row)).map Prod.fst).Nodup
  checked : ∀ req stage, s.requests req = some stage → stage.Checked

theorem inv_created : Inv (created : State SampleId JobId Req) := by
  refine ⟨⟨Nat.zero_le _, .refl _, Nat.zero_le _, ?_⟩, .nil, ?_⟩
  · intro status hstatus
    contradiction
  · intro req stage hstage
    contradiction

section Samples

variable {samples : List (UserLoraSample SampleId)}

theorem ids_eq : (samples.map (·.row)).map Prod.fst = samples.map (·.id) := by
  rw [List.map_map]
  rfl

variable [DecidableEq SampleId]

@[simp] theorem writeAll_nil (rows : List (SampleId × Int)) : writeAll [] rows = rows := by
  rw [writeAll]
  apply List.map_id''
  rintro ⟨key, number⟩
  rfl

/-- The rows of a sample that moves and of its siblings are those that were read. -/
theorem reordered_perm {loaded : UserLoraSample SampleId}
    {siblings : List (UserLoraSample SampleId)} {rows : List (SampleId × Int)}
    (hsiblings : (siblings.map (·.row)).Perm rows) (hids : (rows.map Prod.fst).Nodup)
    (hloaded : loaded.row ∈ rows) (newPosition : Nat) :
    ((reordered loaded siblings newPosition).map (·.row)).Perm rows := by
  have hnodup : ((siblings.map (·.row)).map Prod.fst).Nodup :=
    ((hsiblings.map Prod.fst).nodup_iff).mpr hids
  have hmem : loaded.row ∈ siblings.map (·.row) := hsiblings.mem_iff.mpr hloaded
  obtain ⟨own, hown, hrow⟩ := List.mem_map.mp hmem
  have hid : own.id = loaded.id := congrArg Prod.fst hrow
  rw [ids_eq] at hnodup
  have hothers : (siblings.filter fun other => other.id ≠ loaded.id).Perm (siblings.erase own) := by
    have hpairs : siblings.Nodup := hnodup.of_map _
    rw [hpairs.erase_eq_filter]
    apply List.Perm.of_eq
    apply List.filter_congr
    intro other hother
    have hiff : other.id = loaded.id ↔ other = own := by
      rw [← hid]
      exact ⟨List.inj_on_of_nodup_map hnodup hother hown, congrArg _⟩
    rw [Bool.eq_iff_iff]
    simp [hiff]
  have hinsert : (reordered loaded siblings newPosition).Perm
      (loaded :: siblings.filter fun other => other.id ≠ loaded.id) :=
    List.perm_insertIdx _ _ (Nat.min_le_right _ _)
  have hown' : ((loaded :: siblings.erase own).map (·.row)).Perm (siblings.map (·.row)) := by
    rw [List.map_cons, ← hrow, ← List.map_cons]
    exact (List.perm_cons_erase hown).symm.map _
  exact (((hinsert.trans (hothers.cons _)).map _).trans hown').trans hsiblings

theorem map_row_renumbered (positions : List (SampleId × Int)) :
    (samples.map (·.renumbered positions)).map (·.row) =
      writeAll positions (samples.map (·.row)) := by
  rw [writeAll, List.map_map, List.map_map]
  rfl

theorem map_row_patch (positions : List (SampleId × Int)) (sampleId : SampleId)
    (change : SamplePatch) :
    (samples.map fun sample =>
        (if sample.id = sampleId then sample.edited change else sample).renumbered positions).map
      (·.row) = writeAll positions (samples.map (·.row)) := by
  rw [writeAll, List.map_map, List.map_map]
  apply List.map_congr_left
  intro sample _
  simp only [Function.comp_apply]
  split <;> rfl

theorem map_fst_writeAll (positions rows : List (SampleId × Int)) :
    (writeAll positions rows).map Prod.fst = rows.map Prod.fst := by
  rw [writeAll, List.map_map]
  rfl

theorem positions_patch (loaded : UserLoraSample SampleId) (change : SamplePatch)
    (siblings : Option (List (UserLoraSample SampleId))) :
    (Write.patch loaded change siblings).positions =
      match change.position, siblings with
      | some newPosition, some siblings =>
          renumberFrom 0 ((reordered loaded siblings newPosition).map (·.row))
      | _, _ => [] := rfl

theorem Write.apply_inOrder {write : Write SampleId} {newId : SampleId}
    (hcount : samples.length ≤ userLoraMaxSamples)
    (hpositions : NumbersInOrder (samples.map (·.row)))
    (hids : ((samples.map (·.row)).map Prod.fst).Nodup)
    (hnew : newId ∉ (samples.map (·.row)).map Prod.fst) (hchecked : write.Checked)
    (hread : write.StillAsRead samples) :
    (write.apply newId samples).length ≤ userLoraMaxSamples ∧
      NumbersInOrder ((write.apply newId samples).map (·.row)) ∧
        (((write.apply newId samples).map (·.row)).map Prod.fst).Nodup := by
  cases write with
  | insert sample counted position =>
      obtain ⟨hcounted, rfl⟩ := hread
      have hroom : counted < userLoraMaxSamples := hchecked
      rw [Write.apply, List.length_append, List.map_append, List.map_append]
      refine ⟨by simp only [List.length_singleton]; omega, ?_, ?_⟩
      · exact hpositions.append (by rw [List.length_map]; rfl)
      · refine hids.append (List.nodup_singleton newId) ?_
        intro id hid hsame
        obtain rfl := List.mem_singleton.mp hsame
        exact hnew hid
  | patch loaded change siblings =>
      rw [Write.apply, map_row_patch, map_fst_writeAll, List.length_map]
      refine ⟨hcount, ?_, hids⟩
      rw [positions_patch]
      split
      · rename_i newPosition siblings hposition
        obtain ⟨hsiblings, hloaded⟩ := hread
        exact numbersInOrder_writeAll (reordered_perm hsiblings hids hloaded newPosition) hids
      · rw [writeAll_nil]
        exact hpositions
  | remove sampleId remaining =>
      have hkept : (((samples.filter fun sample => sample.id ≠ sampleId).map (·.row)).map
          Prod.fst).Nodup := by
        rw [ids_eq] at hids ⊢
        exact hids.sublist (List.filter_sublist.map _)
      rw [Write.apply, map_row_renumbered, map_fst_writeAll, List.length_map]
      refine ⟨(List.length_filter_le _ _).trans hcount, ?_, hkept⟩
      exact numbersInOrder_writeAll hread hkept
  | deleteLora => exact ⟨hcount, hpositions, hids⟩

end Samples

section Steps

variable {s t : State SampleId JobId Req}

theorem Inv.keep (hinv : Inv s) (hsamples : t.samples = s.samples) (hjobs : t.jobs = s.jobs)
    (hchanged : t.changedUnder = s.changedUnder)
    (hchecked : ∀ req stage, t.requests req = some stage → stage.Checked) : Inv t := by
  obtain ⟨⟨hcount, hpositions, honeJob, hchanges⟩, hids, -⟩ := hinv
  rw [← hsamples] at hcount hpositions hids
  rw [← hjobs] at honeJob
  rw [← hchanged] at hchanges
  exact ⟨⟨hcount, hpositions, honeJob, hchanges⟩, hids, hchecked⟩

variable [DecidableEq Req]

theorem checked_update {requests : Req → Option (Stage SampleId JobId)} {req : Req}
    {stage : Stage SampleId JobId}
    (hall : ∀ req stage, requests req = some stage → stage.Checked) (hstage : stage.Checked) :
    ∀ other next, Function.update requests req (some stage) other = some next → next.Checked := by
  intro other next hnext
  by_cases hother : other = req
  · subst hother
    rw [Function.update_self] at hnext
    exact Option.some.inj hnext ▸ hstage
  · rw [Function.update_of_ne hother] at hnext
    exact hall other next hnext

theorem Inv.setStage (hinv : Inv s) {req : Req} {stage : Stage SampleId JobId}
    (hstage : stage.Checked) : Inv (s.setStage req stage) :=
  hinv.keep rfl rfl rfl (checked_update hinv.checked hstage)

theorem Inv.finish (hinv : Inv s) (req : Req) : Inv (s.finish req) :=
  hinv.keep rfl rfl rfl (checked_update hinv.checked trivial)

omit [DecidableEq Req] in
theorem Inv.updateJob [DecidableEq JobId] (hinv : Inv s) (job : JobId) (status : JobStatus) :
    Inv (s.updateJob job status) := by
  refine ⟨⟨hinv.excluded.count, hinv.excluded.positions, ?_, hinv.excluded.changes⟩, hinv.ids,
    hinv.checked⟩
  refine le_trans ?_ hinv.excluded.oneJob
  rw [State.updateJob, List.filter_map, List.length_map]
  apply List.Sublist.length_le
  apply List.monotone_filter_right
  intro other hactive
  rw [Function.comp_apply] at hactive
  by_cases hother : other.1 = job ∧ jobActive other = true
  · exact hother.2
  · rwa [if_neg hother] at hactive

omit [DecidableEq Req] in
theorem modifiable_iff : s.modifiable = true ↔ s.deleted = false ∧ isActive s.status = false := by
  simp [State.modifiable]

variable [DecidableEq SampleId]

theorem Inv.readLora (hinv : Inv s) {req : Req} (hstep : s.readLora req = some t) : Inv t := by
  rw [State.readLora] at hstep
  split at hstep
  · split at hstep
    · rename_i hguard
      obtain rfl := Option.some.inj hstep
      exact hinv.setStage (modifiable_iff.mp (Bool.and_eq_true_iff.mp hguard).1).2
    · contradiction
  · split at hstep
    · split at hstep
      · rename_i hguard
        obtain rfl := Option.some.inj hstep
        exact hinv.setStage (modifiable_iff.mp (Bool.and_eq_true_iff.mp hguard).1).2
      · contradiction
    · contradiction
  · split at hstep
    · split at hstep
      · rename_i hguard
        obtain rfl := Option.some.inj hstep
        exact hinv.setStage (modifiable_iff.mp hguard).2
      · contradiction
    · contradiction
  · split at hstep
    · rename_i hguard
      obtain rfl := Option.some.inj hstep
      exact hinv.setStage (modifiable_iff.mp hguard).2
    · contradiction
  · split at hstep
    · contradiction
    · obtain rfl := Option.some.inj hstep
      exact hinv.setStage trivial
  · contradiction

omit [DecidableEq SampleId] in
theorem Inv.countSamples (hinv : Inv s) {req : Req} (hstep : s.countSamples req = some t) :
    Inv t := by
  rw [State.countSamples] at hstep
  split at hstep
  · rename_i hstage
    split at hstep
    · rename_i hroom
      obtain rfl := Option.some.inj hstep
      exact hinv.setStage ⟨hinv.checked _ _ hstage, hroom⟩
    · contradiction
  · contradiction

omit [DecidableEq SampleId] in
theorem Inv.placeSample (hinv : Inv s) {req : Req} (hstep : s.placeSample req = some t) :
    Inv t := by
  rw [State.placeSample] at hstep
  split at hstep
  · rename_i hstage
    obtain rfl := Option.some.inj hstep
    obtain ⟨hinactive, hroom⟩ := hinv.checked _ _ hstage
    exact hinv.setStage ⟨hinactive, hroom⟩
  · contradiction

theorem Inv.readSamples (hinv : Inv s) {req : Req} {rows : List (UserLoraSample SampleId)}
    (hstep : s.readSamples req rows = some t) : Inv t := by
  rw [State.readSamples] at hstep
  split at hstep
  · rename_i hstage
    split at hstep
    · obtain rfl := Option.some.inj hstep
      exact hinv.setStage ⟨hinv.checked _ _ hstage, trivial⟩
    · contradiction
  · rename_i hstage
    split at hstep
    · obtain rfl := Option.some.inj hstep
      exact hinv.setStage ⟨hinv.checked _ _ hstage, trivial⟩
    · contradiction
  · contradiction

theorem Inv.prepare (hinv : Inv s) {req : Req} (hstep : s.prepare req = some t) : Inv t := by
  rw [State.prepare] at hstep
  split at hstep
  · rename_i hstage
    split at hstep
    · obtain rfl := Option.some.inj hstep
      exact hinv.setStage ⟨hinv.checked _ _ hstage, trivial⟩
    · contradiction
  · rename_i hstage
    obtain rfl := Option.some.inj hstep
    exact hinv.setStage ⟨hinv.checked _ _ hstage, trivial⟩
  · contradiction

omit [DecidableEq SampleId] in
theorem Inv.lockCapacity (hinv : Inv s) {req : Req} (hstep : s.lockCapacity req = some t) :
    Inv t := by
  rw [State.lockCapacity] at hstep
  split at hstep
  · obtain rfl := Option.some.inj hstep
    exact hinv.keep rfl rfl rfl (checked_update hinv.checked trivial)
  · contradiction

omit [DecidableEq SampleId] in
theorem Inv.readLocked (hinv : Inv s) {req : Req} (hstep : s.readLocked req = some t) :
    Inv t := by
  rw [State.readLocked] at hstep
  split at hstep
  · split at hstep
    · rename_i hguard
      obtain rfl := Option.some.inj hstep
      have hmodifiable := (Bool.and_eq_true_iff.mp (Bool.and_eq_true_iff.mp hguard).1).1
      exact hinv.setStage (modifiable_iff.mp hmodifiable).2
    · contradiction
  · contradiction

omit [DecidableEq Req] in
theorem not_mem_ids_of_sample_none {sampleId : SampleId}
    (hnone : (s.sample sampleId).isNone = true) :
    sampleId ∉ (s.samples.map (·.row)).map Prod.fst := by
  rw [ids_eq, List.mem_map]
  rintro ⟨sample, hsample, rfl⟩
  rw [Option.isNone_iff_eq_none, State.sample, List.find?_eq_none] at hnone
  exact hnone sample hsample (decide_eq_true rfl)

theorem Inv.commit [DecidableEq JobId] (hinv : Inv s) {req : Req} {newId : SampleId}
    (hstep : s.commit req newId = some t)
    (hread : SampleRequests.StillAsRead s (.commit req newId)) :
    Inv t := by
  rw [State.commit] at hstep
  split at hstep
  · rename_i status write hstage
    split at hstep
    · rename_i hguard
      obtain rfl := Option.some.inj hstep
      obtain ⟨hinactive, hchecked⟩ := hinv.checked _ _ hstage
      obtain ⟨hstatus, hwrite⟩ := hread status write hstage
      obtain ⟨hcount, hpositions, hids⟩ := Write.apply_inOrder hinv.excluded.count
        hinv.excluded.positions hinv.ids (not_mem_ids_of_sample_none hguard.2) hchecked hwrite
      refine ⟨⟨hcount, hpositions, hinv.excluded.oneJob, ?_⟩, hids,
        checked_update hinv.checked trivial⟩
      intro status' hchanged
      rcases List.mem_cons.mp hchanged with rfl | hbefore
      · rw [hstatus, hinactive]
      · exact hinv.excluded.changes status' hbefore
    · contradiction
  · contradiction

theorem Inv.commitStart [DecidableEq JobId] (hinv : Inv s) {req : Req} {job : JobId}
    (hstep : s.commitStart req job = some t)
    (hread : SampleRequests.StillAsRead s (.commitStart req job)) : Inv t := by
  rw [State.commitStart] at hstep
  split at hstep
  · rename_i status hstage
    split at hstep
    · obtain rfl := Option.some.inj hstep
      obtain ⟨hstatus, hended⟩ := hread status hstage
      have hinactive : isActive s.status = false := by
        rw [hstatus]
        exact hinv.checked _ _ hstage
      have hnone : s.jobs.filter jobActive = [] := by
        rw [List.filter_eq_nil_iff]
        intro other hother
        simp [hended hinactive other hother]
      refine ⟨⟨hinv.excluded.count, hinv.excluded.positions, ?_, hinv.excluded.changes⟩,
        hinv.ids, checked_update (checked_update hinv.checked trivial) trivial⟩
      show (List.filter jobActive (s.jobs ++ [(job, .queued)])).length ≤ 1
      rw [List.filter_append, hnone, List.nil_append]
      exact List.length_filter_le _ _
    · contradiction
  · contradiction

omit [DecidableEq SampleId] in
theorem Inv.commitFailure [DecidableEq JobId] (hinv : Inv s) {req : Req}
    (hstep : s.commitFailure req = some t) : Inv t := by
  rw [State.commitFailure] at hstep
  split at hstep
  · rename_i job hstage
    obtain rfl := Option.some.inj hstep
    exact (hinv.updateJob job .failed).keep rfl rfl rfl (checked_update hinv.checked trivial)
  · contradiction

variable [DecidableEq JobId]

theorem Inv.act (hinv : Inv s) {action : Action SampleId JobId Req} (hstep : act s action = some t)
    (hread : SampleRequests.StillAsRead s action) : Inv t := by
  cases action with
  | openRequest req request =>
      rw [SampleRequests.act] at hstep
      split at hstep
      · obtain rfl := Option.some.inj hstep
        exact hinv.setStage trivial
      · contradiction
  | readLora req => exact hinv.readLora hstep
  | countSamples req => exact hinv.countSamples hstep
  | placeSample req => exact hinv.placeSample hstep
  | readSamples req rows => exact hinv.readSamples hstep
  | prepare req => exact hinv.prepare hstep
  | lockCapacity req => exact hinv.lockCapacity hstep
  | readLocked req => exact hinv.readLocked hstep
  | commit req newId => exact hinv.commit hstep hread
  | commitStart req job => exact hinv.commitStart hstep hread
  | enqueue req succeeds =>
      replace hstep : s.enqueue req succeeds = some t := hstep
      rw [State.enqueue] at hstep
      split at hstep
      · obtain rfl := Option.some.inj hstep
        refine hinv.setStage ?_
        split <;> trivial
      · contradiction
  | commitFailure req => exact hinv.commitFailure hstep
  | abort req =>
      obtain ⟨stage, -, rfl⟩ := Option.map_eq_some_iff.mp hstep
      exact hinv.finish req
  | updateLora status =>
      obtain rfl := Option.some.inj hstep
      exact hinv.keep rfl rfl rfl hinv.checked
  | updateJob job status =>
      obtain rfl := Option.some.inj hstep
      exact hinv.updateJob job status

/-- Sample changes and trainings exclude each other in every run in which each
request commits while what it has read is still so. -/
theorem samples_exclude_training {run : List (Action SampleId JobId Req × State SampleId JobId Req)}
    (hrun : system.IsRun created run)
    (hread : StepsMeet SampleRequests.StillAsRead created run) :
    ∀ s ∈ visited created run, Excluded s := by
  have hkeeps : ∀ (s : State SampleId JobId Req) action t, Inv s → system.step s action t →
      SampleRequests.StillAsRead s action → Inv t :=
    fun s action t hs hstep hmeet => hs.act hstep hmeet
  have hall := forall_visited_of_stepsMeet hkeeps inv_created hrun hread
  exact fun s hs => (hall s hs).excluded

end Steps

/-- A sample, uploaded for the position given. -/
def chorus (position : Option Int) : Request Nat :=
  .addSample ⟨"chorus".toList, "la la".toList, position, true⟩

/-- One request that uploads a sample. -/
def upload (position : Option Int) : List (Action Nat Nat Nat) :=
  [.openRequest 0 (chorus position), .readLora 0, .countSamples 0, .placeSample 0, .commit 0 7]

/-- Two uploads overlap, a third follows, and the training starts. -/
def uploadsThenTraining : List (Action Nat Nat Nat) :=
  [.openRequest 0 (chorus none), .openRequest 1 (chorus none), .readLora 0, .readLora 1,
    .countSamples 0, .placeSample 0, .commit 0 7, .countSamples 1, .placeSample 1, .commit 1 8,
    .openRequest 2 (chorus none), .readLora 2, .countSamples 2, .placeSample 2, .commit 2 9,
    .openRequest 3 .trainLora, .readLora 3, .lockCapacity 3, .readLocked 3, .commitStart 3 0]

theorem samples_exclude_training_upload :
    Excluded (lastOf created (follow act created uploadsThenTraining)) ∧
      (lastOf created (follow act created uploadsThenTraining)).status = .queued ∧
      (lastOf created (follow act created uploadsThenTraining)).samples.map (·.row) =
        [(7, 0), (8, 1), (9, 2)] := by
  have hmeet : StepsMeet StillAsRead created (follow act created uploadsThenTraining) := by
    decide +kernel
  refine ⟨?_, by decide +kernel, by decide +kernel⟩
  exact samples_exclude_training (isRun_follow _ _ _ _) hmeet _ (lastOf_mem_visited _ _)

/-- The first sample of a LoRA, uploaded for position 5, is alone at position 5. -/
theorem uploaded_out_of_order :
    (system.IsRun created (follow act created (upload (some 5)))) ∧
      ∃ s ∈ visited created (follow act created (upload (some 5))), ¬ Excluded s := by
  refine ⟨isRun_follow _ _ _ _, lastOf created (follow act created (upload (some 5))),
    lastOf_mem_visited _ _, ?_⟩
  intro hexcluded
  exact absurd hexcluded.positions (by decide +kernel)

end Songmaker.Lora.SampleRequests
