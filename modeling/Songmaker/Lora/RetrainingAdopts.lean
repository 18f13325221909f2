import Songmaker.Lora.LoraRetraining

namespace Songmaker.Lora.RetrainingAdopts

open Songmaker.Foundation
open Songmaker.Foundation.Program (concludes_bind concludes_handle)
open Songmaker.Foundation.TransitionSystem
open Songmaker.Jobs
open Songmaker.Lora

variable {File : Type}

/-- Whether a path is one of the LoRA's directories. -/
def isDirectoryPath : LoraPath → Bool
  | .output | .previous | .trainingTmp | .dataset => true
  | .modeRecord | .modeRecordTmp => false

/-- Directories and files lie where they belong. -/
def Tidy (disk : LoraDisk File) : Prop :=
  ∀ path entry, disk path = some entry → entry.isDirectory = isDirectoryPath path

section Steps

variable {disk : LoraDisk File} {site : LoraSite File}

theorem Tidy.put (h : Tidy disk) (path : LoraPath)
    {entry : Option (Entry File (Option CompletedLoraTrainingModeRecord))}
    (hentry : ∀ put, entry = some put → put.isDirectory = isDirectoryPath path) :
    Tidy (disk.put path entry) := by
  intro other held hheld
  by_cases hother : other = path
  · subst hother
    rw [Disk.put_self] at hheld
    exact hentry held hheld
  · rw [Disk.put_of_ne disk hother] at hheld
    exact h other held hheld

theorem Tidy.isDirectory (h : Tidy disk) (path : LoraPath) :
    disk.isDirectory path = (isDirectoryPath path && (disk path).isSome) := by
  cases hentry : disk path with
  | none => simp [Disk.isDirectory, hentry]
  | some entry => simp [Disk.isDirectory, hentry, h path entry hentry]

theorem Tidy.directory (h : Tidy disk) {path : LoraPath} (hpath : isDirectoryPath path = true)
    (hheld : disk path ≠ none) : ∃ files, disk path = some (.directory files) := by
  obtain ⟨entry, hentry⟩ := Option.ne_none_iff_exists'.mp hheld
  have hdirectory : entry.isDirectory = true := (h path entry hentry).trans hpath
  cases entry with
  | directory files => exact ⟨files, hentry⟩
  | file text => simp [Entry.isDirectory] at hdirectory

theorem Tidy.tryRmtree (h : Tidy disk) (path : LoraPath) (removal : Removal File) :
    Tidy ((Disk.tryRmtree path removal).run disk).2 := by
  cases removal with
  | works =>
      simp only [Disk.tryRmtree, Disk.rmtree]
      split
      · exact h.put path (by simp)
      · exact h
  | fails left hleft =>
      simp only [Disk.tryRmtree, Atomic.update]
      split
      · rename_i files hfiles
        apply h.put path
        rintro put ⟨⟩
        exact h path (.directory files) hfiles
      · exact h

theorem Tidy.tryUnlink (h : Tidy disk) (path : LoraPath) (removal : Removal File) :
    Tidy ((Disk.tryUnlink path removal).run disk).2 := by
  cases removal with
  | works =>
      simp only [Disk.tryUnlink, Disk.unlink, Atomic.update]
      split
      · exact h
      · exact h.put path (by simp)
  | fails left hleft => exact h

/-- What a step leaves alone that has nothing to do with adapters in place. -/
structure Spares (s t : LoraSite File) : Prop where
  tidy : Tidy t.disk
  output : t.disk .output = s.disk .output
  previous : t.disk .previous = s.disk .previous

theorem Spares.trans {s t u : LoraSite File} (hst : Spares s t) (htu : Spares t u) :
    Spares s u where
  tidy := htu.tidy
  output := htu.output.trans hst.output
  previous := htu.previous.trans hst.previous

theorem Spares.put (h : Tidy site.disk) {path : LoraPath}
    {entry : Option (Entry File (Option CompletedLoraTrainingModeRecord))}
    (hentry : ∀ put, entry = some put → put.isDirectory = isDirectoryPath path)
    (houtput : .output ≠ path) (hprevious : .previous ≠ path) :
    Spares site (site.setDisk (site.disk.put path entry)) where
  tidy := h.put path hentry
  output := Disk.put_of_ne site.disk houtput entry
  previous := Disk.put_of_ne site.disk hprevious entry

theorem Spares.tryRmtree (h : Tidy site.disk) (path : LoraPath) (removal : Removal File)
    (houtput : .output ≠ path) (hprevious : .previous ≠ path) :
    Spares site (site.setDisk ((Disk.tryRmtree path removal).run site.disk).2) where
  tidy := h.tryRmtree path removal
  output := Disk.tryRmtree_of_ne removal site.disk houtput
  previous := Disk.tryRmtree_of_ne removal site.disk hprevious

theorem Spares.tryUnlink (h : Tidy site.disk) (path : LoraPath) (removal : Removal File)
    (houtput : .output ≠ path) (hprevious : .previous ≠ path) :
    Spares site (site.setDisk ((Disk.tryUnlink path removal).run site.disk).2) where
  tidy := h.tryUnlink path removal
  output := Disk.tryUnlink_of_ne removal site.disk houtput
  previous := Disk.tryUnlink_of_ne removal site.disk hprevious

@[simp] theorem concludes_onDisk {α : Type} (action : Atomic (LoraDisk File) α)
    {returned : α → LoraSite File → Prop} {raised : String → LoraSite File → Prop} :
    (onDisk action).Concludes returned raised site ↔
      returned (action.run site.disk).1 (site.setDisk (action.run site.disk).2) :=
  Iff.rfl

theorem concludes_commit {α : Type}
    {transaction : LoraSite File → Except String (α × LoraSite File)} {result : α}
    {site' : LoraSite File} (hcommit : transaction site = .ok (result, site'))
    {returned : α → LoraSite File → Prop} {raised : String → LoraSite File → Prop}
    (hreturned : returned result site') :
    (commit transaction).Concludes returned raised site := by
  unfold commit
  rw [concludes_bind, Program.concludes_call]
  simpa [Atomic.update, hcommit] using hreturned

end Steps

section Cleanup

variable {site : LoraSite File}

theorem cleanupFailedLoraPathWith_concludes (h : Tidy site.disk)
    (removals : LoraPath → Removal File) {path : LoraPath} (houtput : .output ≠ path)
    (hprevious : .previous ≠ path) {returned : Unit → LoraSite File → Prop}
    {raised : String → LoraSite File → Prop}
    (hreturned : ∀ t, Spares site t → t.lora = site.lora → returned () t) :
    (cleanupFailedLoraPathWith removals path).Concludes returned raised site := by
  have hsame : Spares site site := ⟨h, rfl, rfl⟩
  unfold cleanupFailedLoraPathWith
  rw [concludes_bind, concludes_onDisk]
  cases hpath : site.disk path with
  | none =>
      simp only [Disk.exists?, Atomic.read, hpath]
      exact hreturned site hsame rfl
  | some entry =>
      simp only [Disk.exists?, Atomic.read, hpath, Option.isSome_some, if_true]
      rw [concludes_bind, concludes_onDisk]
      cases hdirectory : site.disk.isDirectory path with
      | true =>
          simp only [Disk.isDir?, Atomic.read, LoraSite.setDisk, hdirectory, if_true]
          exact hreturned _ (.tryRmtree h path (removals path) houtput hprevious) rfl
      | false =>
          simp only [Disk.isDir?, Atomic.read, LoraSite.setDisk, hdirectory]
          exact hreturned _ (.tryUnlink h path (removals path) houtput hprevious) rfl

theorem cleanupFailedLoraPathsWith_concludes (h : Tidy site.disk)
    (removals : LoraPath → Removal File) {returned : Unit → LoraSite File → Prop}
    {raised : String → LoraSite File → Prop}
    (hreturned : ∀ t, Spares site t → t.lora = site.lora → returned () t) :
    (cleanupFailedLoraPathsWith removals).Concludes returned raised site := by
  unfold cleanupFailedLoraPathsWith
  rw [concludes_bind]
  apply cleanupFailedLoraPathWith_concludes h removals (by simp) (by simp)
  intro dataset hdataset hlora
  rw [concludes_bind]
  apply cleanupFailedLoraPathWith_concludes hdataset.tidy removals (by simp) (by simp)
  intro tmp htmp hlora'
  rw [concludes_bind]
  apply cleanupFailedLoraPathWith_concludes htmp.tidy removals (by simp) (by simp)
  intro record hrecord hlora''
  apply cleanupFailedLoraPathWith_concludes hrecord.tidy removals (by simp) (by simp)
  intro recordTmp hrecordTmp hkept
  have hspares : Spares site recordTmp :=
    ((hdataset.trans htmp).trans hrecord).trans hrecordTmp
  exact hreturned recordTmp hspares (hkept.trans (hlora''.trans (hlora'.trans hlora)))

theorem updateJob_concludes (status : JobStatus) {returned : Bool → LoraSite File → Prop}
    {raised : String → LoraSite File → Prop}
    (hreturned : ∀ job, returned (site.job.any fun old => decide (old ∉ jobTerminalStatuses))
      { site with job := job }) :
    (updateJob status).Concludes returned raised site :=
  concludes_commit rfl (hreturned _)

theorem failLoraTraining_concludes (h : Tidy site.disk) (run : TrainingRun File) (error : String)
    {raised : String → LoraSite File → Prop} :
    (failLoraTraining run error).Concludes
      (fun _ t => Spares site t ∧ t.lora.status = .failed) raised site := by
  unfold failLoraTraining
  have hfailed : Tidy (cleanupFailedLora error site).disk := h
  rw [concludes_bind]
  apply concludes_commit rfl
  rw [concludes_bind]
  apply cleanupFailedLoraPathsWith_concludes hfailed
  intro cleaned hcleaned hlora
  rw [concludes_bind]
  apply updateJob_concludes
  intro job
  refine ⟨⟨hcleaned.tidy, hcleaned.output, hcleaned.previous⟩, ?_⟩
  simp [hlora, cleanupFailedLora]

end Cleanup

section Submission

variable {site : LoraSite File}

theorem rmtreeOrRaise_concludes (h : Tidy site.disk) {path : LoraPath} {error : String}
    (hpath : isDirectoryPath path = true) (hheld : (site.disk path).isSome = true)
    (houtput : .output ≠ path) (hprevious : .previous ≠ path)
    {returned : Unit → LoraSite File → Prop} {raised : String → LoraSite File → Prop}
    (hreturned : ∀ disk, Spares site (site.setDisk disk) → returned () (site.setDisk disk)) :
    (onDiskOrRaise (Disk.rmtree path) error).Concludes returned raised site := by
  have hdirectory : site.disk.isDirectory path = true := by
    rw [h.isDirectory path, hpath, hheld]
    rfl
  have hspares : Spares site (site.setDisk (site.disk.put path none)) :=
    .put h (by simp) houtput hprevious
  unfold onDiskOrRaise
  rw [concludes_bind, concludes_onDisk]
  simp only [Disk.rmtree, hdirectory, if_true]
  exact hreturned _ hspares

theorem writeDataset_concludes (h : Tidy site.disk) (run : TrainingRun File)
    {returned : Unit → LoraSite File → Prop} {raised : String → LoraSite File → Prop}
    (hreturned : ∀ disk, Spares site (site.setDisk disk) → run.missingSample = none →
      returned () (site.setDisk disk))
    (hraised : ∀ error disk, Spares site (site.setDisk disk) → run.missingSample ≠ none →
      raised error (site.setDisk disk)) :
    (writeDataset run).Concludes returned raised site := by
  have hwritten : Spares site
      (site.setDisk (site.disk.put .dataset (some (.directory run.datasetFiles)))) := by
    apply Spares.put h
    · rintro put ⟨⟩
      rfl
    · simp
    · simp
  unfold writeDataset
  rw [concludes_bind, concludes_onDisk]
  cases hmissing : run.missingSample with
  | none => exact hreturned _ hwritten hmissing
  | some audioPath => exact hraised _ _ hwritten (by simp [hmissing])

theorem materializeDataset_concludes (h : Tidy site.disk) (run : TrainingRun File)
    {returned : Unit → LoraSite File → Prop} {raised : String → LoraSite File → Prop}
    (hreturned : ∀ disk, Spares site (site.setDisk disk) → run.missingSample = none →
      returned () (site.setDisk disk))
    (hraised : ∀ error disk, Spares site (site.setDisk disk) → run.missingSample ≠ none →
      raised error (site.setDisk disk)) :
    (materializeDataset run).Concludes returned raised site := by
  unfold materializeDataset
  rw [concludes_bind, concludes_onDisk]
  cases hheld : (site.disk .dataset).isSome with
  | false =>
      simp only [Disk.exists?, Atomic.read, hheld]
      exact writeDataset_concludes h run hreturned hraised
  | true =>
      simp only [Disk.exists?, Atomic.read, hheld, if_true]
      rw [concludes_bind]
      apply rmtreeOrRaise_concludes h rfl hheld (by simp) (by simp)
      intro disk hdisk
      apply writeDataset_concludes hdisk.tidy run
      · intro written hwritten
        exact hreturned written (hdisk.trans hwritten)
      · intro error written hwritten
        exact hraised error written (hdisk.trans hwritten)

/-- What the answer of the worker must be for `_complete_lora_training` to take it. -/
structure Accepted (run : TrainingRun File) (workerResult : TrainLoraTaskResult) : Prop where
  workerMode : workerResult.mode = run.targetMode
  mode : run.targetMode ∈ loraTrainingModelModes
  adapterDir : workerResult.adapterDirIsTmpOutput = true
  handoff : run.handoff ≠ none

/-- The worker has answered. -/
structure Answered (run : TrainingRun File) (site t : LoraSite File)
    (workerResult : TrainLoraTaskResult) : Prop where
  spares : Spares site t
  trainingTmp : t.disk .trainingTmp = run.handoff.map .directory
  valid : run.Valid ↔ Accepted run workerResult

theorem pickAndCallWorker_concludes (h : Tidy site.disk) {run : TrainingRun File}
    (hjob : run.job ∉ jobTerminalStatuses) (hreserved : run.unreserved = none)
    (hsamples : run.missingSample = none) :
    (pickAndCallWorker run).Concludes
      (fun workerResult t => Answered run site t workerResult)
      (fun _ t => Spares site t ∧ ¬ run.Valid) site := by
  have hhanded : Spares site
      (site.setDisk (site.disk.put .trainingTmp (run.handoff.map .directory))) := by
    apply Spares.put h
    · intro put hput
      obtain ⟨files, -, rfl⟩ := Option.map_eq_some_iff.mp hput
      rfl
    · simp
    · simp
  unfold pickAndCallWorker
  rw [concludes_bind, concludes_onDisk]
  cases hanswer : run.answer with
  | error error =>
      refine ⟨hhanded, ?_⟩
      intro hvalid
      obtain ⟨numSamples, hok⟩ := hvalid.answer
      simp [hanswer] at hok
  | ok workerResult =>
      have htmp : (site.disk.put .trainingTmp (run.handoff.map .directory)) .trainingTmp =
          run.handoff.map .directory := Disk.put_self site.disk .trainingTmp _
      refine ⟨hhanded, htmp, ?_⟩
      constructor
      · intro hvalid
        obtain ⟨numSamples, hok⟩ := hvalid.answer
        obtain rfl : workerResult = ⟨run.targetMode, true, numSamples⟩ := by
          simpa [hanswer] using hok
        exact ⟨rfl, hvalid.mode, rfl, hvalid.handoff⟩
      · intro haccepted
        refine ⟨hjob, hreserved, hsamples, haccepted.mode, haccepted.handoff,
          workerResult.numSamples, ?_⟩
        rw [hanswer, ← haccepted.workerMode, ← haccepted.adapterDir]

theorem prepareAndSubmitLora_concludes (h : Tidy site.disk) {run : TrainingRun File}
    (hjob : site.job = some run.job) (hreserved : run.unreserved = none)
    {returned : Option TrainLoraTaskResult → LoraSite File → Prop}
    {raised : String → LoraSite File → Prop}
    (hanswered : ∀ workerResult t, Answered run site t workerResult →
      returned (some workerResult) t)
    (hended : ∀ t, Spares site t → ¬ run.Valid → returned none t)
    (hraised : ∀ error t, Spares site t → ¬ run.Valid → raised error t) :
    (prepareAndSubmitLora run).Concludes returned raised site := by
  have hcall : run.job ∉ jobTerminalStatuses → run.missingSample = none →
      ∀ t, Spares site t → (do
        let workerResult ← pickAndCallWorker run
        return some workerResult : LoraProgram File _).Concludes returned raised t := by
    intro hactive hsamples t ht
    rw [concludes_bind]
    apply (pickAndCallWorker_concludes ht.tidy hactive hreserved hsamples).mono
    · intro workerResult u hu
      exact hanswered workerResult u ⟨ht.trans hu.spares, hu.trainingTmp, hu.valid⟩
    · intro error u hu
      exact hraised error u (ht.trans hu.1) hu.2
  unfold prepareAndSubmitLora
  rw [concludes_bind]
  apply updateJob_concludes
  intro job
  by_cases hactive : run.job ∈ jobTerminalStatuses
  · simp only [hjob, Option.any_some, hactive, not_true_eq_false, decide_false]
    exact hended _ ⟨h, rfl, rfl⟩ fun hvalid => hvalid.job hactive
  · simp only [hjob, Option.any_some, hactive, not_false_eq_true, decide_true, if_true]
    rw [concludes_bind]
    have htidy : Tidy ({ site with job := job } : LoraSite File).disk := h
    apply materializeDataset_concludes htidy run
    · intro disk hdisk hsamples
      rw [concludes_bind]
      apply concludes_commit rfl
      rw [concludes_bind]
      apply updateJob_concludes
      intro job'
      rw [concludes_bind, concludes_onDisk]
      cases hheld : (disk .trainingTmp).isSome with
      | false =>
          simp only [Disk.exists?, Atomic.read, LoraSite.setDisk, hheld]
          exact hcall hactive hsamples _ ⟨hdisk.tidy, hdisk.output, hdisk.previous⟩
      | true =>
          simp only [Disk.exists?, Atomic.read, LoraSite.setDisk, hheld, if_true]
          rw [concludes_bind]
          refine rmtreeOrRaise_concludes ?_ rfl hheld (by simp) (by simp) ?_
          · exact hdisk.tidy
          intro removed hremoved
          exact hcall hactive hsamples _
            ⟨hremoved.tidy, hremoved.output.trans hdisk.output,
              hremoved.previous.trans hdisk.previous⟩
    · intro error disk hdisk hmissing
      exact hraised error _ ⟨hdisk.tidy, hdisk.output, hdisk.previous⟩
        fun hvalid => hmissing hvalid.samples

end Submission

section Completion

variable {site : LoraSite File}

theorem validation_concludes {run : TrainingRun File} {workerResult : TrainLoraTaskResult}
    (htmp : site.disk .trainingTmp = run.handoff.map .directory)
    {returned : Unit → LoraSite File → Prop} {raised : String → LoraSite File → Prop}
    {next : String → LoraProgram File Unit}
    (haccepted : Accepted run workerResult →
      (next run.targetMode).Concludes returned raised site)
    (hrefused : ∀ error, ¬ Accepted run workerResult → raised error site) :
    (validateCompletedTrainingModelMode run.targetMode workerResult.mode >>= fun mode =>
      validatedLoraAdapterHandoff workerResult >>= fun _ => next mode).Concludes
      returned raised site := by
  have hdirectory : site.disk.isDirectory .trainingTmp = run.handoff.isSome := by
    cases hhandoff : run.handoff with
    | none => simp [Disk.isDirectory, htmp, hhandoff]
    | some files => simp [Disk.isDirectory, htmp, hhandoff, Entry.isDirectory]
  rw [concludes_bind]
  unfold validateCompletedTrainingModelMode
  by_cases hmode : workerResult.mode ∈ loraTrainingModelModes
  · by_cases hrequested : workerResult.mode = run.targetMode
    · simp only [hrequested, not_true_eq_false, if_false, ne_eq, hrequested ▸ hmode]
      rw [Program.concludes_pure, concludes_bind]
      unfold validatedLoraAdapterHandoff
      cases hadapter : workerResult.adapterDirIsTmpOutput with
      | false =>
          refine hrefused _ ?_
          intro haccepted
          simp [haccepted.adapterDir] at hadapter
      | true =>
          simp only [Bool.true_eq_false, if_false]
          rw [concludes_bind, concludes_onDisk]
          simp only [Disk.isDir?, Atomic.read, hdirectory]
          cases hhandoff : run.handoff with
          | none =>
              refine hrefused _ ?_
              intro haccepted
              exact haccepted.handoff hhandoff
          | some files =>
              exact haccepted ⟨hrequested, hrequested ▸ hmode, hadapter, by simp [hhandoff]⟩
    · simp only [hmode, not_true_eq_false, if_false, ne_eq, hrequested, not_false_eq_true,
        if_true]
      exact hrefused _ fun haccepted => hrequested haccepted.workerMode
  · simp only [hmode, not_false_eq_true, if_true]
    refine hrefused _ ?_
    intro haccepted
    exact hmode (haccepted.workerMode ▸ haccepted.mode)

theorem recordCompletedTrainingModelMode_concludes (h : Tidy site.disk) (jobId modelMode : String)
    {returned : Unit → LoraSite File → Prop} {raised : String → LoraSite File → Prop}
    (hreturned : ∀ t, Spares site t → t.disk .trainingTmp = site.disk .trainingTmp →
      t.lora = site.lora → returned () t) :
    (recordCompletedTrainingModelMode jobId modelMode).Concludes returned raised site := by
  have hrecordTmp : site.disk.isDirectory .modeRecordTmp = false := h.isDirectory .modeRecordTmp
  have hrecord : Disk.replaceable (.file (some ⟨jobId, modelMode⟩)) (site.disk .modeRecord) =
      true := by
    cases hheld : site.disk .modeRecord with
    | none => rfl
    | some entry =>
        have hentry : entry.isDirectory = false := h .modeRecord entry hheld
        cases entry with
        | directory files => simp [Entry.isDirectory] at hentry
        | file text => rfl
  have hplaced : Spares site (site.setDisk
      ((((site.disk.put .modeRecordTmp (some (.file (some ⟨jobId, modelMode⟩)))).put
        .modeRecordTmp none).put .modeRecord (some (.file (some ⟨jobId, modelMode⟩)))).put
          .modeRecordTmp none)) := by
    constructor
    · have hfile : ∀ put : Entry File (Option CompletedLoraTrainingModeRecord),
          some (.file (some ⟨jobId, modelMode⟩)) = some put → put.isDirectory = false := by
        rintro put ⟨⟩
        rfl
      exact Tidy.put (Tidy.put (Tidy.put (h.put .modeRecordTmp hfile) .modeRecordTmp (by simp))
        .modeRecord hfile) .modeRecordTmp (by simp)
    · simp [LoraSite.setDisk]
    · simp [LoraSite.setDisk]
  unfold recordCompletedTrainingModelMode
  rw [concludes_bind, concludes_onDisk]
  simp only [Disk.writeText, hrecordTmp, Bool.false_eq_true, if_false, if_true]
  rw [concludes_bind, replaceModeRecord, Program.concludes_call]
  simp only [Disk.rename, Atomic.update, LoraSite.setDisk, Disk.put_self, ne_eq, reduceCtorEq,
    not_false_eq_true, Disk.put_of_ne, hrecord, if_true]
  rw [concludes_bind, concludes_onDisk]
  simp only [Disk.unlink, Atomic.update, LoraSite.noteRecord, Disk.isDirectory, Disk.put_self,
    ne_eq, reduceCtorEq, not_false_eq_true, Disk.put_of_ne, Option.any_none, Bool.false_eq_true,
    if_false, Bool.and_self, if_true]
  exact hreturned _ ⟨hplaced.tidy, hplaced.output, hplaced.previous⟩ (by simp [LoraSite.setDisk])
    rfl

theorem replaceLoraAdapter_blocked (hprevious : site.disk .previous ≠ none)
    {returned : Unit → LoraSite File → Prop} {raised : String → LoraSite File → Prop}
    (hraised : ∀ error, raised error site) :
    replaceLoraAdapter.Concludes returned raised site := by
  have hheld : (site.disk .previous).isSome = true := Option.isSome_iff_ne_none.mpr hprevious
  unfold replaceLoraAdapter stageCurrentLoraAdapter
  rw [concludes_bind, concludes_bind, concludes_onDisk]
  simp only [Disk.exists?, Atomic.read, hheld, if_true]
  exact hraised _

theorem moveLoraAdapter_concludes (files : List File)
    (htmp : site.disk .trainingTmp = some (.directory files))
    (houtput : site.disk .output = none)
    {returned : Unit → LoraSite File → Prop} {raised : String → LoraSite File → Prop}
    (hreturned : returned () (site.setDisk
      ((site.disk.put .trainingTmp none).put .output (some (.directory files))))) :
    moveLoraAdapter.Concludes returned raised site := by
  unfold moveLoraAdapter
  rw [concludes_bind, concludes_onDisk]
  simp only [Disk.rename, Atomic.update, htmp, houtput, Disk.replaceable, if_true]
  exact hreturned

theorem replaceLoraAdapter_concludes (h : Tidy site.disk) (files : List File)
    (htmp : site.disk .trainingTmp = some (.directory files))
    (hprevious : site.disk .previous = none)
    {returned : Unit → LoraSite File → Prop} {raised : String → LoraSite File → Prop}
    (hreturned : ∀ disk, Tidy disk → disk .output = some (.directory files) →
      disk .previous = site.disk .output → returned () (site.setDisk disk)) :
    replaceLoraAdapter.Concludes returned raised site := by
  unfold replaceLoraAdapter stageCurrentLoraAdapter
  rw [concludes_bind, concludes_bind, concludes_onDisk]
  simp only [Disk.exists?, Atomic.read, hprevious, Option.isSome_none, Bool.false_eq_true,
    if_false]
  rw [concludes_bind, concludes_onDisk]
  by_cases hheld : site.disk .output = none
  · simp only [LoraSite.setDisk, hheld, Option.isSome_none, Bool.false_eq_true, if_false]
    rw [Program.concludes_pure]
    apply moveLoraAdapter_concludes files htmp hheld
    apply hreturned
    · apply Tidy.put (h.put .trainingTmp (by simp)) .output
      rintro put ⟨⟩
      rfl
    · exact Disk.put_self _ _ _
    · simp [hheld, hprevious]
  · obtain ⟨old, hold⟩ := h.directory rfl hheld
    have hdirectory : site.disk.isDirectory .output = true := by
      rw [h.isDirectory .output, hold]
      rfl
    simp only [LoraSite.setDisk, hold, Option.isSome_some, if_true]
    rw [concludes_bind]
    unfold requireLoraAdapterDirectory
    rw [concludes_bind, concludes_onDisk]
    simp only [Disk.exists?, Atomic.read, LoraSite.setDisk, hold, Option.isSome_some, if_true]
    rw [concludes_bind, concludes_onDisk]
    simp only [Disk.isDir?, Atomic.read, hdirectory, if_true]
    rw [Program.concludes_pure]
    unfold onDiskOrRaise
    rw [concludes_bind, concludes_onDisk]
    simp only [Disk.rename, Atomic.update, LoraSite.setDisk, hold, hprevious, Disk.replaceable,
      if_true]
    rw [Program.concludes_pure]
    apply moveLoraAdapter_concludes files
    · simpa using htmp
    · simp
    · apply hreturned
      · have hfiles : ∀ files : List File,
            ∀ put : Entry File (Option CompletedLoraTrainingModeRecord),
              some (.directory files) = some put → put.isDirectory = true := by
          rintro files put ⟨⟩
          rfl
        exact Tidy.put (Tidy.put (Tidy.put (h.put .output (by simp)) .previous (hfiles old))
          .trainingTmp (by simp)) .output (hfiles files)
      · exact Disk.put_self _ _ _
      · simp [hold]

theorem removeReplacedLoraPathsWith_concludes (h : Tidy site.disk)
    (removals : LoraPath → Removal File)
    {returned : Unit → LoraSite File → Prop} {raised : String → LoraSite File → Prop}
    (hreturned : ∀ disk, Tidy disk → disk .output = site.disk .output →
      (disk .previous = none ↔ site.disk .previous = none ∨ removals .previous = .works) →
        returned () (site.setDisk disk)) :
    (removeReplacedLoraPathsWith removals).Concludes returned raised site := by
  unfold removeReplacedLoraPathsWith
  rw [concludes_bind, concludes_onDisk]
  by_cases hheld : site.disk .previous = none
  · have hdataset : Spares site _ :=
      .tryRmtree h .dataset (removals .dataset) (by simp) (by simp)
    simp only [Disk.exists?, Atomic.read, hheld, Option.isSome_none, Bool.false_eq_true, if_false]
    apply hreturned _ hdataset.tidy hdataset.output
    simpa [hheld] using hdataset.previous.trans hheld
  · obtain ⟨old, hold⟩ := h.directory rfl hheld
    have hdirectory : site.disk.isDirectory .previous = true := by
      rw [h.isDirectory .previous, hold]
      rfl
    have hremoval := Disk.tryRmtree_self (removals .previous) hdirectory
    have htidy := h.tryRmtree .previous (removals .previous)
    have houtput : ((Disk.tryRmtree .previous (removals .previous)).run site.disk).2 .output =
        site.disk .output :=
      Disk.tryRmtree_of_ne (removals .previous) site.disk (by simp)
    have hdataset : Spares (site.setDisk _) _ :=
      .tryRmtree htidy .dataset (removals .dataset) (by simp) (by simp)
    simp only [Disk.exists?, Atomic.read, hold, Option.isSome_some, if_true]
    rw [concludes_bind, concludes_onDisk]
    apply hreturned _ hdataset.tidy (hdataset.output.trans houtput)
    rw [hdataset.previous]
    rcases hremoval with ⟨hworks, hgone⟩ | ⟨hfails, left, hleft⟩
    · exact ⟨fun _ => .inr hworks, fun _ => hgone⟩
    · constructor
      · intro hnone
        cases hleft.symm.trans hnone
      · rintro (hnone | hworks)
        · exact absurd hnone hheld
        · exact absurd hworks hfails

theorem markLoraTrainingComplete_concludes {modelMode : String}
    (hmode : modelMode ∈ loraTrainingModelModes) (sampleCount : Nat)
    {returned : Unit → LoraSite File → Prop} {raised : String → LoraSite File → Prop}
    (hreturned : ∀ t : LoraSite File, t.disk = site.disk → t.lora.status = .ready →
      t.lora.storagePath = some storageRel → t.lora.modelMode = some modelMode → returned () t) :
    (markLoraTrainingComplete modelMode sampleCount).Concludes returned raised site := by
  have hvalidated : validateLoraTrainingModelMode (some modelMode) = .ok () := by
    simp [validateLoraTrainingModelMode, hmode]
  unfold markLoraTrainingComplete
  rw [concludes_bind]
  refine concludes_commit (?_ : _ = Except.ok ((), { site with
      lora := { site.lora with
        status := .ready
        storagePath := some storageRel
        modelMode := some modelMode
        error := none }
      audits := site.audits ++ ["ready: samples=" ++ toString sampleCount] })) ?_
  · rw [hvalidated]
    rfl
  · apply concludes_commit rfl
    exact hreturned _ rfl rfl rfl rfl

end Completion

section Runs

variable {site : LoraSite File}

/-- What one training run makes of the adapters. -/
structure AfterRun (run : TrainingRun File) (s t : LoraSite File) : Prop where
  tidy : Tidy t.disk
  current : run.Valid → s.disk .previous = none →
    MadeCurrent run t ∧
      (t.disk .previous = none ↔ s.disk .output = none ∨ run.replaced .previous = .works)
  spares : ¬ (run.Valid ∧ s.disk .previous = none) → Spares s t
  failed : run.Valid → s.disk .previous ≠ none → t.lora.status = .failed

theorem afterRun_of_failLoraTraining {run : TrainingRun File} {s : LoraSite File} (error : String)
    (hsite : Spares s site) (hblocked : ¬ (run.Valid ∧ s.disk .previous = none)) :
    (failLoraTraining run error).Concludes (fun _ => AfterRun run s) (fun _ => AfterRun run s)
      site := by
  have hfail : (failLoraTraining run error).Concludes
      (fun _ t => Spares site t ∧ t.lora.status = .failed) (fun _ => AfterRun run s) site :=
    failLoraTraining_concludes hsite.tidy run error
  apply hfail.mono
  · rintro - t ⟨hspares, hfailed⟩
    exact ⟨hspares.tidy, fun hvalid hnone => absurd ⟨hvalid, hnone⟩ hblocked,
      fun _ => hsite.trans hspares, fun _ _ => hfailed⟩
  · intro error t ht
    exact ht

theorem completeLoraTrainingWith_concludes {run : TrainingRun File} {s : LoraSite File}
    {workerResult : TrainLoraTaskResult} (h : Answered run s site workerResult) :
    (completeLoraTrainingWith run.replaced run.jobId run.targetMode workerResult).Concludes
      (fun _ => AfterRun run s)
      (fun _ t => Spares s t ∧ ¬ (run.Valid ∧ s.disk .previous = none)) site := by
  unfold completeLoraTrainingWith
  apply validation_concludes h.trainingTmp
  · intro haccepted
    have hvalid : run.Valid := h.valid.mpr haccepted
    obtain ⟨files, hfiles⟩ := Option.ne_none_iff_exists'.mp haccepted.handoff
    have hvalidated : validateLoraTrainingModelMode (some run.targetMode) = .ok () := by
      simp [validateLoraTrainingModelMode, haccepted.mode]
    rw [concludes_bind]
    apply recordCompletedTrainingModelMode_concludes h.spares.tidy
    intro recorded hrecorded htmp hlora
    have hspares : Spares s recorded := h.spares.trans hrecorded
    rw [concludes_bind]
    refine concludes_commit (?_ : _ = Except.ok (recorded.lora.modelMode, { recorded with
      lora := { recorded.lora with modelMode := some run.targetMode } })) ?_
    · rw [hvalidated]
      rfl
    rw [concludes_bind]
    by_cases hprevious : s.disk .previous = none
    · refine replaceLoraAdapter_concludes ?_ files ?_ ?_ ?_
      · exact hspares.tidy
      · exact htmp.trans (h.trainingTmp.trans (by simp [hfiles]))
      · exact hspares.previous.trans hprevious
      intro replaced hreplaced houtput hstaged
      rw [concludes_bind]
      refine removeReplacedLoraPathsWith_concludes ?_ run.replaced ?_
      · exact hreplaced
      intro removed hremoved houtput' hprevious'
      unfold clearCompletedTrainingModelModeWith
      rw [concludes_bind, concludes_bind, concludes_onDisk, Program.concludes_pure]
      have hcleared : Spares (recorded.setDisk removed) _ :=
        .tryUnlink hremoved .modeRecord (run.replaced .modeRecord) (by simp) (by simp)
      apply markLoraTrainingComplete_concludes haccepted.mode
      intro t htdisk hstatus hstorage hmode
      have houtputs : t.disk .output = run.handoff.map .directory := by
        rw [htdisk, hfiles]
        exact hcleared.output.trans (houtput'.trans houtput)
      refine ⟨htdisk ▸ hcleared.tidy, ?_, ?_, ?_⟩
      · intro _ _
        refine ⟨⟨hstatus, houtputs, hstorage, hmode⟩, ?_⟩
        have hend : t.disk .previous = removed .previous := by
          rw [htdisk]
          exact hcleared.previous
        have houtput : replaced .previous = recorded.disk .output := hstaged
        rw [hend, hprevious', ← hspares.output, ← houtput]
        exact Iff.rfl
      · intro hblocked
        exact absurd ⟨hvalid, hprevious⟩ hblocked
      · intro _ hheld
        exact absurd hprevious hheld
    · apply replaceLoraAdapter_blocked
      · rw [show LoraSite.disk _ = recorded.disk from rfl, hspares.previous]
        exact hprevious
      · intro error
        exact ⟨⟨hspares.tidy, hspares.output, hspares.previous⟩, fun hboth => hprevious hboth.2⟩
  · intro error hrefused
    exact ⟨h.spares, fun hboth => hrefused (h.valid.mp hboth.1)⟩

theorem afterRun (h : Tidy site.disk) (run : TrainingRun File) :
    AfterRun run site (site.trained run) := by
  have hconcludes : (runLoraTrainingJob run).Concludes (fun _ => AfterRun run site)
      (fun _ => AfterRun run site) (site.requestTraining run) := by
    have hrequested : Spares site (site.requestTraining run) := ⟨h, rfl, rfl⟩
    unfold runLoraTrainingJob runLoraTraining
    rw [concludes_handle]
    cases hreserved : run.unreserved with
    | some error =>
        have hblocked : ¬ (run.Valid ∧ site.disk .previous = none) := by
          intro hboth
          simp [hboth.1.reserved] at hreserved
        exact afterRun_of_failLoraTraining error hrequested hblocked
    | none =>
        rw [concludes_bind]
        have htidy : Tidy (site.requestTraining run).disk := h
        apply prepareAndSubmitLora_concludes htidy rfl hreserved
        · intro workerResult t ht
          have hanswered : Answered run site t workerResult :=
            ⟨⟨ht.spares.tidy, ht.spares.output, ht.spares.previous⟩, ht.trainingTmp, ht.valid⟩
          apply (completeLoraTrainingWith_concludes hanswered).mono
          · intro _ u hu
            exact hu
          · intro error u hu
            exact afterRun_of_failLoraTraining error hu.1 hu.2
        · intro t ht hinvalid
          exact ⟨ht.tidy, fun hvalid _ => absurd hvalid hinvalid,
            fun _ => ⟨ht.tidy, ht.output, ht.previous⟩, fun hvalid _ => absurd hvalid hinvalid⟩
        · intro error t ht hinvalid
          exact afterRun_of_failLoraTraining error ⟨ht.tidy, ht.output, ht.previous⟩
            fun hboth => hinvalid hboth.1
  exact hconcludes.run

theorem staged_of_isRun {site : LoraSite File}
    {history : List (TrainingRun File × LoraSite File)} (h : Tidy site.disk)
    (hheld : site.disk .previous ≠ none) (hrun : (retraining File).IsRun site history) :
    Tidy (lastOf site history).disk ∧ (lastOf site history).disk .previous ≠ none := by
  induction history generalizing site with
  | nil => exact ⟨h, hheld⟩
  | cons edge rest ih =>
      obtain ⟨run, t⟩ := edge
      obtain ⟨⟨-, -, rfl⟩, hrest⟩ := hrun
      have hafter := afterRun h run
      have hspares : Spares site (site.trained run) := hafter.spares fun hboth => hheld hboth.2
      exact ih hafter.tidy (hspares.previous.symm ▸ hheld) hrest

/-- In a history of runs that all removed what they replaced nothing is left
staged; in any other history something stays staged for good. -/
theorem previous_eq_none_iff {site : LoraSite File}
    {history : List (TrainingRun File × LoraSite File)} (h : Tidy site.disk)
    (hprevious : site.disk .previous = none) (hrun : (retraining File).IsRun site history) :
    Tidy (lastOf site history).disk ∧
      ((lastOf site history).disk .previous = none ↔ StepsMeet RemovesReplaced site history) := by
  induction history generalizing site with
  | nil => exact ⟨h, iff_of_true hprevious trivial⟩
  | cons edge rest ih =>
      obtain ⟨run, t⟩ := edge
      obtain ⟨⟨-, -, rfl⟩, hrest⟩ := hrun
      have hafter := afterRun h run
      rw [stepsMeet_cons]
      by_cases hcleared : (site.trained run).disk .previous = none
      · have hremoves : RemovesReplaced site run := by
          intro hvalid houtput
          exact ((hafter.current hvalid hprevious).2.mp hcleared).resolve_left houtput
        obtain ⟨htidy, hiff⟩ := ih hafter.tidy hcleared hrest
        exact ⟨htidy, hiff.trans (iff_and_self.mpr fun _ => hremoves)⟩
      · obtain ⟨htidy, hheld⟩ := staged_of_isRun hafter.tidy hcleared hrest
        refine ⟨htidy, iff_of_false hheld ?_⟩
        rintro ⟨hremoves, -⟩
        apply hcleared
        by_cases hvalid : run.Valid
        · rw [(hafter.current hvalid hprevious).2]
          by_cases houtput : site.disk .output = none
          · exact .inl houtput
          · exact .inr (hremoves hvalid houtput)
        · rw [(hafter.spares fun hboth => hvalid hboth.1).previous]
          exact hprevious

end Runs

/-- A run with a valid adapter makes it the current one if and only if every
earlier run that replaced an adapter also removed the replaced one. -/
theorem adopts_iff {site t : LoraSite File} {history : List (TrainingRun File × LoraSite File)}
    {run : TrainingRun File} (hfresh : (retraining File).initial site)
    (hrun : (retraining File).IsRun site history)
    (hstep : (retraining File).step (lastOf site history) run t) (hvalid : run.Valid) :
    MadeCurrent run t ↔ StepsMeet RemovesReplaced site history := by
  have htidy : Tidy site.disk := by
    intro path entry hentry
    rw [hfresh.disk path] at hentry
    cases hentry
  obtain ⟨hlast, hiff⟩ := previous_eq_none_iff htidy (hfresh.disk .previous) hrun
  obtain ⟨-, -, rfl⟩ := hstep
  have hafter := afterRun hlast run
  rw [← hiff]
  constructor
  · intro hcurrent
    by_contra hheld
    have hfailed := hafter.failed hvalid hheld
    rw [hcurrent.ready] at hfailed
    cases hfailed
  · intro hnone
    exact (hafter.current hvalid hnone).1

def freshVoice : LoraSite Nat where
  disk _ := none
  lora := ⟨.draft, none, none, none, none, false⟩
  job := none
  audits := []
  recordedMode := none

/-- A training whose worker returns an adapter of one file. -/
def retrain (adapter : Nat) (replaced : LoraPath → Removal Nat) : TrainingRun Nat where
  jobId := "job"
  targetMode := "turbo"
  job := .queued
  unreserved := none
  datasetFiles := []
  missingSample := none
  handoff := some [adapter]
  answer := .ok ⟨"turbo", true, 1⟩
  replaced := replaced
  cleaned _ := .works

def onceTrained : LoraSite Nat := freshVoice.trained (retrain 1 fun _ => .works)

theorem retrain_valid (adapter : Nat) (replaced : LoraPath → Removal Nat) :
    (retrain adapter replaced).Valid where
  job := by simp [retrain, jobTerminalStatuses]
  reserved := rfl
  samples := rfl
  mode := by simp [retrain, loraTrainingModelModes]
  handoff := by simp [retrain]
  answer := ⟨1, rfl⟩

theorem adopts_iff_retrained :
    MadeCurrent (retrain 2 fun _ => .works) (onceTrained.trained (retrain 2 fun _ => .works)) := by
  have hfirst : (retraining Nat).IsRun freshVoice
      [(retrain 1 fun _ => .works, onceTrained)] :=
    ⟨⟨rfl, by decide, rfl⟩, trivial⟩
  have hsecond : (retraining Nat).step
      (lastOf freshVoice [(retrain 1 fun _ => .works, onceTrained)]) (retrain 2 fun _ => .works)
      (onceTrained.trained (retrain 2 fun _ => .works)) :=
    ⟨by decide +kernel, by decide +kernel, rfl⟩
  have hremoves : StepsMeet RemovesReplaced freshVoice
      [(retrain 1 fun _ => .works, onceTrained)] :=
    ⟨fun _ _ => rfl, trivial⟩
  exact (adopts_iff ⟨fun _ => rfl, rfl⟩ hfirst hsecond (retrain_valid 2 _)).mpr hremoves

/-- The training that replaces the first adapter, and does not get it removed. -/
def leavesStaged : TrainingRun Nat := retrain 2 fun _ => .fails id fun _ => .refl _

def staged : LoraSite Nat := onceTrained.trained leavesStaged

/-- The adapter of a third training is lost, though none of its own steps fails. -/
theorem staged_adapter_blocks_retraining :
    ¬ ∀ (site t : LoraSite Nat) (history : List (TrainingRun Nat × LoraSite Nat))
      (run : TrainingRun Nat), (retraining Nat).initial site →
        (retraining Nat).IsRun site history →
          (retraining Nat).step (lastOf site history) run t → run.Valid →
            (∀ path, run.replaced path = .works) → MadeCurrent run t := by
  intro hclaim
  have hhistory : (retraining Nat).IsRun freshVoice
      [(retrain 1 fun _ => .works, onceTrained), (leavesStaged, staged)] :=
    ⟨⟨rfl, by decide, rfl⟩, ⟨by decide +kernel, by decide +kernel, rfl⟩, trivial⟩
  have hstep : (retraining Nat).step staged (retrain 3 fun _ => .works)
      (staged.trained (retrain 3 fun _ => .works)) :=
    ⟨by decide +kernel, by decide +kernel, rfl⟩
  have hcurrent := hclaim freshVoice _ _ _ ⟨fun _ => rfl, rfl⟩ hhistory hstep
    (retrain_valid 3 _) fun _ => rfl
  have hlost : (staged.trained (retrain 3 fun _ => .works)).disk .output =
      some (.directory [2]) := by
    decide +kernel
  rw [hcurrent.output] at hlost
  simp [retrain] at hlost

end Songmaker.Lora.RetrainingAdopts
