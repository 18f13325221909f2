import Songmaker.Lora.LoraSteps

namespace Songmaker.Lora

open Songmaker.Foundation
open Songmaker.Foundation.Program (survives_bind)
open Songmaker.Jobs

variable {File : Type}

abbrev LoraEntry (File : Type) := Entry File (Option CompletedLoraTrainingModeRecord)

/-- The adapter in place before a training run, which a run that stopped between
its two renames has left staged. -/
def LoraSite.adapterEntry (site : LoraSite File) : Option (LoraEntry File) :=
  (site.disk .output).or (site.disk .previous)

section Consistency

variable (newFiles : List File) (oldEntry : Option (LoraEntry File))

/-- What reconciliation promises: the new adapter and its mode where the mode
record had been written, and otherwise what was there before. -/
structure Consistent (site : LoraSite File) : Prop where
  recorded : ∀ mode, site.recordedMode = some mode →
    site.lora.status = .ready ∧ site.disk .output = some (.directory newFiles) ∧
      site.lora.modelMode = some mode
  kept : site.recordedMode = none → ∀ files, oldEntry = some (.directory files) →
    site.lora.status = .ready ∧ site.disk .output = some (.directory files)
  failed : site.recordedMode = none → (∀ files, oldEntry ≠ some (.directory files)) →
    site.lora.status = .failed ∧ site.disk.isDirectory .output = false
  notStaged : site.disk .previous = none

/-- No mode record of the training job has been written. -/
structure Untouched (site : LoraSite File) : Prop where
  active : site.Active
  recordedMode : site.recordedMode = none
  ownRecord : site.ownRecord = none
  adapter : site.adapterEntry = oldEntry

/-- The mode record is in place. -/
structure Recorded (site : LoraSite File) : Prop where
  active : site.Active
  recordedMode : site.recordedMode = site.ownRecord
  ownRecord : site.ownRecord ≠ none
  adapter : site.disk .trainingTmp = some (.directory newFiles) ∨
    site.disk.isDirectory .trainingTmp = false ∧ site.disk .output = some (.directory newFiles)

/-- The new adapter is in place and its mode record has been removed. -/
structure Installed (site : LoraSite File) : Prop where
  active : site.Active
  recordedMode : site.recordedMode ≠ none
  modelMode : site.lora.modelMode = site.recordedMode
  ownRecord : site.ownRecord = none
  output : site.disk .output = some (.directory newFiles)

structure Settled (site : LoraSite File) : Prop where
  settled : ¬ site.Active
  consistent : Consistent newFiles oldEntry site

/-- The worker has handed over the new adapter. -/
structure Trained (site : LoraSite File) : Prop where
  active : site.Active
  recordedMode : site.recordedMode = site.ownRecord
  trainingTmp : site.disk .trainingTmp = some (.directory newFiles)
  adapter : site.adapterEntry = oldEntry

/-- How far a training had come when the process died, for the recovery to go on from. -/
inductive CrashInvariant (site : LoraSite File) : Prop where
  | untouched (h : Untouched oldEntry site)
  | recorded (h : Recorded newFiles site)
  | installed (h : Installed newFiles site)
  | settled (h : Settled newFiles oldEntry site)

variable {newFiles oldEntry}

theorem Consistent.of_recorded {site : LoraSite File} {mode : String}
    (hstatus : site.lora.status = .ready)
    (houtput : site.disk .output = some (.directory newFiles))
    (hrecorded : site.recordedMode = some mode) (hmode : site.lora.modelMode = some mode)
    (hprevious : site.disk .previous = none) : Consistent newFiles oldEntry site where
  recorded other hother := by
    rw [hrecorded] at hother
    cases hother
    exact ⟨hstatus, houtput, hmode⟩
  kept hnone := by
    rw [hrecorded] at hnone
    cases hnone
  failed hnone := by
    rw [hrecorded] at hnone
    cases hnone
  notStaged := hprevious

end Consistency

section Frames

variable {newFiles : List File} {oldEntry : Option (LoraEntry File)} {site : LoraSite File}
  {disk : LoraDisk File}

theorem ownRecord_setDisk (hrecord : disk .modeRecord = site.disk .modeRecord) :
    (site.setDisk disk).ownRecord = site.ownRecord := by
  simp only [LoraSite.ownRecord, LoraSite.setDisk, hrecord]
  rfl

theorem Untouched.setDisk (h : Untouched oldEntry site)
    (hrecord : disk .modeRecord = site.disk .modeRecord)
    (hadapter : (disk .output).or (disk .previous) = site.adapterEntry) :
    Untouched oldEntry (site.setDisk disk) where
  active := h.active
  recordedMode := h.recordedMode
  ownRecord := (ownRecord_setDisk hrecord).trans h.ownRecord
  adapter := hadapter.trans h.adapter

theorem Recorded.setDisk (h : Recorded newFiles site)
    (hrecord : disk .modeRecord = site.disk .modeRecord)
    (hadapter : disk .trainingTmp = some (.directory newFiles) ∨
      disk.isDirectory .trainingTmp = false ∧ disk .output = some (.directory newFiles)) :
    Recorded newFiles (site.setDisk disk) where
  active := h.active
  recordedMode := h.recordedMode.trans (ownRecord_setDisk hrecord).symm
  ownRecord := (ownRecord_setDisk hrecord).symm ▸ h.ownRecord
  adapter := hadapter

theorem Installed.setDisk (h : Installed newFiles site)
    (hrecord : disk .modeRecord = site.disk .modeRecord)
    (houtput : disk .output = site.disk .output) :
    Installed newFiles (site.setDisk disk) where
  active := h.active
  recordedMode := h.recordedMode
  modelMode := h.modelMode
  ownRecord := (ownRecord_setDisk hrecord).trans h.ownRecord
  output := houtput.trans h.output

theorem Settled.setDisk (h : Settled newFiles oldEntry site)
    (houtput : disk .output = site.disk .output)
    (hprevious : disk .previous = site.disk .previous) :
    Settled newFiles oldEntry (site.setDisk disk) where
  settled := h.settled
  consistent :=
    { recorded := fun mode hmode => by
        obtain ⟨hready, hadapter, hmodelMode⟩ := h.consistent.recorded mode hmode
        exact ⟨hready, houtput.trans hadapter, hmodelMode⟩
      kept := fun hnone files hold => by
        obtain ⟨hready, hadapter⟩ := h.consistent.kept hnone files hold
        exact ⟨hready, houtput.trans hadapter⟩
      failed := fun hnone hold => by
        obtain ⟨hfailed, hadapter⟩ := h.consistent.failed hnone hold
        refine ⟨hfailed, ?_⟩
        simpa [Disk.isDirectory, LoraSite.setDisk, houtput] using hadapter
      notStaged := hprevious.trans h.consistent.notStaged }

theorem Trained.setDisk (h : Trained newFiles oldEntry site)
    (hrecord : disk .modeRecord = site.disk .modeRecord)
    (htmp : disk .trainingTmp = site.disk .trainingTmp)
    (hadapter : (disk .output).or (disk .previous) = site.adapterEntry) :
    Trained newFiles oldEntry (site.setDisk disk) where
  active := h.active
  recordedMode := h.recordedMode.trans (ownRecord_setDisk hrecord).symm
  trainingTmp := htmp.trans h.trainingTmp
  adapter := hadapter.trans h.adapter

theorem Trained.crashInvariant (h : Trained newFiles oldEntry site) :
    CrashInvariant newFiles oldEntry site := by
  by_cases hown : site.ownRecord = none
  · exact .untouched ⟨h.active, h.recordedMode.trans hown, hown, h.adapter⟩
  · exact .recorded ⟨h.active, h.recordedMode, hown, .inl h.trainingTmp⟩

end Frames

section Completion

variable {newFiles : List File} {oldEntry : Option (LoraEntry File)} {site : LoraSite File}

theorem replaceModeRecord_survives {jobId mode : String} (h : Trained newFiles oldEntry site)
    (hjob : site.lora.trainingJobId = some jobId)
    (htmp : site.disk .modeRecordTmp = some (.file (some ⟨jobId, mode⟩))) :
    replaceModeRecord.Survives (CrashInvariant newFiles oldEntry)
      (fun replaced t =>
        Trained newFiles oldEntry t ∧ (replaced = true → t.ownRecord = some mode)) site := by
  have hrefused : Trained newFiles oldEntry site.noteRecord :=
    ⟨h.active, rfl, h.trainingTmp, h.adapter⟩
  have hreplaced : Trained newFiles oldEntry
      (site.setDisk ((site.disk.put .modeRecordTmp none).put .modeRecord
        (some (.file (some ⟨jobId, mode⟩))))).noteRecord := by
    refine ⟨h.active, rfl, ?_, ?_⟩
    · simpa [LoraSite.setDisk, LoraSite.noteRecord] using h.trainingTmp
    · simpa [LoraSite.setDisk, LoraSite.noteRecord, LoraSite.adapterEntry] using h.adapter
  have hrecord : (site.setDisk ((site.disk.put .modeRecordTmp none).put .modeRecord
        (some (.file (some ⟨jobId, mode⟩))))).noteRecord.ownRecord = some mode := by
    simp [LoraSite.ownRecord, LoraSite.setDisk, LoraSite.noteRecord, hjob]
  refine ⟨h.crashInvariant, fun _ htorn => htorn.elim, ?_⟩
  by_cases hfree : Disk.replaceable (.file (some ⟨jobId, mode⟩)) (site.disk .modeRecord) = true
  · simp only [Disk.rename, Atomic.update, htmp, hfree, if_true]
    exact ⟨hreplaced.crashInvariant, hreplaced, fun _ => hrecord⟩
  · simp only [Disk.rename, Atomic.update, htmp, hfree]
    exact ⟨hrefused.crashInvariant, hrefused, by rintro ⟨⟩⟩

theorem recordCompletedTrainingModelMode_survives {jobId mode : String}
    (h : Trained newFiles oldEntry site) (hjob : site.lora.trainingJobId = some jobId) :
    (recordCompletedTrainingModelMode jobId mode).Survives (CrashInvariant newFiles oldEntry)
      (fun _ t => Trained newFiles oldEntry t ∧ t.ownRecord = some mode) site := by
  have hput : ∀ {site : LoraSite File}, Trained newFiles oldEntry site → ∀ text,
      Trained newFiles oldEntry (site.setDisk (site.disk.put .modeRecordTmp text)) := by
    intro site h text
    apply h.setDisk <;> simp [LoraSite.adapterEntry]
  have hunlink : ∀ {site : LoraSite File} {replaced : Bool}, Trained newFiles oldEntry site →
      (replaced = true → site.ownRecord = some mode) →
      (do
        let removed ← onDisk (Disk.unlink .modeRecordTmp)
        if replaced && removed then return ()
        else .raise "Failed to record the completed LoRA training mode" :
          LoraProgram File Unit).Survives (CrashInvariant newFiles oldEntry)
        (fun _ t => Trained newFiles oldEntry t ∧ t.ownRecord = some mode) site := by
    intro site replaced h hrecord
    rw [survives_bind]
    apply survives_unlink h.crashInvariant
    · refine ⟨(hput h none).crashInvariant, ?_⟩
      cases replaced with
      | true =>
          refine ⟨(hput h none).crashInvariant, hput h none, ?_⟩
          rw [ownRecord_setDisk (by simp)]
          exact hrecord rfl
      | false => exact (hput h none).crashInvariant
    · cases replaced <;> exact h.crashInvariant
  unfold recordCompletedTrainingModelMode
  rw [survives_bind]
  apply survives_writeText h.crashInvariant
  · intro text
    exact (hput h _).crashInvariant
  · dsimp only
    rw [if_pos rfl, survives_bind]
    refine (replaceModeRecord_survives (hput h _) hjob
      (Disk.put_self site.disk .modeRecordTmp _)).mono ?_
    rintro replaced t - ⟨ht, hrecord⟩
    exact hunlink ht hrecord
  · dsimp only
    rw [if_neg Bool.false_ne_true, survives_bind]
    exact ⟨h.crashInvariant, hunlink h (by rintro ⟨⟩)⟩

/-- The new adapter is in place, and its mode has been saved. -/
structure Adopted (newFiles : List File) (mode : String) (site : LoraSite File) : Prop where
  active : site.Active
  recordedMode : site.recordedMode = some mode
  modelMode : site.lora.modelMode = some mode
  trainingTmp : site.disk .trainingTmp = none
  output : site.disk .output = some (.directory newFiles)

theorem Adopted.setDisk {mode : String} {disk : LoraDisk File} (h : Adopted newFiles mode site)
    (htmp : disk .trainingTmp = site.disk .trainingTmp)
    (houtput : disk .output = site.disk .output) :
    Adopted newFiles mode (site.setDisk disk) where
  active := h.active
  recordedMode := h.recordedMode
  modelMode := h.modelMode
  trainingTmp := htmp.trans h.trainingTmp
  output := houtput.trans h.output

theorem Adopted.crashInvariant {mode : String} (h : Adopted newFiles mode site)
    (hrecord : site.ownRecord = some mode) : CrashInvariant newFiles oldEntry site := by
  refine .recorded ⟨h.active, h.recordedMode.trans hrecord.symm, ?_, .inr ⟨?_, h.output⟩⟩
  · rw [hrecord]
    exact Option.some_ne_none mode
  · simp [Disk.isDirectory, h.trainingTmp]

theorem saveLoraModelMode_survives {mode : String} (h : Trained newFiles oldEntry site)
    (hrecord : site.ownRecord = some mode) :
    (saveLoraModelMode mode).Survives (CrashInvariant newFiles oldEntry)
      (fun _ t => Trained newFiles oldEntry t ∧ t.ownRecord = some mode ∧
        t.lora.modelMode = some mode) site := by
  apply survives_commit h.crashInvariant
  intro previousModelMode t hcommit
  cases hmode : validateLoraTrainingModelMode (some mode) with
  | error error => simp [hmode, bind, Except.bind] at hcommit
  | ok _ =>
      simp only [hmode, bind, Except.bind, pure, Except.pure, Except.ok.injEq,
        Prod.mk.injEq] at hcommit
      obtain ⟨-, rfl⟩ := hcommit
      have ht : Trained newFiles oldEntry
          { site with lora := { site.lora with modelMode := some mode } } :=
        ⟨h.active, h.recordedMode, h.trainingTmp, h.adapter⟩
      exact ⟨ht.crashInvariant, ht, hrecord, rfl⟩

theorem stageCurrentLoraAdapter_survives (h : Trained newFiles oldEntry site) :
    stageCurrentLoraAdapter.Survives (CrashInvariant newFiles oldEntry)
      (fun _ t => Trained newFiles oldEntry t ∧ t.lora = site.lora ∧
        t.ownRecord = site.ownRecord ∧ t.disk .output = none ∧
          (t.disk .previous = none ∨ t.disk.isDirectory .previous = true)) site := by
  have hsite := h.crashInvariant
  unfold stageCurrentLoraAdapter
  rw [survives_bind, survives_exists]
  refine ⟨hsite, ?_⟩
  cases hprevious : site.disk .previous with
  | some entry => exact hsite
  | none =>
      simp only [Option.isSome_none, Bool.false_eq_true, if_false]
      rw [survives_bind, survives_exists]
      refine ⟨hsite, ?_⟩
      cases houtput : site.disk .output with
      | none => exact ⟨hsite, h, rfl, rfl, houtput, .inl hprevious⟩
      | some entry =>
          simp only [Option.isSome_some, if_true]
          rw [survives_bind]
          apply survives_require hsite
          intro hdirectory
          apply survives_renameOrRaise hsite
          intro staged hstaged _
          have hdir : Disk.isDirectory site.disk .output = true := by
            simpa [houtput] using hdirectory
          have ht : Trained newFiles oldEntry (site.setDisk
              ((site.disk.put .output none).put .previous (some staged))) := by
            apply h.setDisk
            · simp
            · simp
            · simp [LoraSite.adapterEntry, hstaged]
          refine ⟨ht.crashInvariant, ht, rfl,
            ownRecord_setDisk (by simp), by simp [LoraSite.setDisk], .inr ?_⟩
          simpa [Disk.isDirectory, LoraSite.setDisk, hstaged] using hdir

theorem moveLoraAdapter_survives {mode : String} (h : Trained newFiles oldEntry site)
    (hrecord : site.ownRecord = some mode) (hmode : site.lora.modelMode = some mode)
    (houtput : site.disk .output = none) :
    moveLoraAdapter.Survives (CrashInvariant newFiles oldEntry)
      (fun _ t => Adopted newFiles mode t ∧ t.ownRecord = some mode ∧
        t.disk .previous = site.disk .previous) site := by
  unfold moveLoraAdapter
  rw [survives_bind]
  apply survives_rename h.crashInvariant
  · intro entry hentry _
    rw [h.trainingTmp] at hentry
    cases hentry
    have hown : (site.setDisk ((site.disk.put .trainingTmp none).put .output
        (some (.directory newFiles)))).ownRecord = some mode :=
      (ownRecord_setDisk (by simp)).trans hrecord
    have ht : Adopted newFiles mode (site.setDisk ((site.disk.put .trainingTmp none).put .output
        (some (.directory newFiles)))) :=
      ⟨h.active, h.recordedMode.trans hrecord, hmode, by simp [LoraSite.setDisk],
        by simp [LoraSite.setDisk]⟩
    have hinvariant : CrashInvariant newFiles oldEntry _ := ht.crashInvariant hown
    exact ⟨hinvariant, hinvariant, ht, hown, by simp [LoraSite.setDisk]⟩
  · intro hrefused
    have hfree := hrefused _ h.trainingTmp
    rw [houtput] at hfree
    cases hfree

theorem replaceLoraAdapter_survives {mode : String} (h : Trained newFiles oldEntry site)
    (hrecord : site.ownRecord = some mode) (hmode : site.lora.modelMode = some mode) :
    replaceLoraAdapter.Survives (CrashInvariant newFiles oldEntry)
      (fun _ t => Adopted newFiles mode t ∧ t.ownRecord = some mode ∧
        (t.disk .previous = none ∨ t.disk.isDirectory .previous = true)) site := by
  unfold replaceLoraAdapter
  rw [survives_bind]
  refine (stageCurrentLoraAdapter_survives h).mono ?_
  rintro _ t - ⟨ht, hlora, hown, houtput, hprevious⟩
  refine (moveLoraAdapter_survives ht (hown.trans hrecord) (hlora ▸ hmode) houtput).mono ?_
  rintro _ t' - ⟨ht', hrecord', hsame⟩
  refine ⟨ht', hrecord', ?_⟩
  simpa [Disk.isDirectory, hsame] using hprevious

theorem removeReplacedLoraPaths_survives {mode : String} (h : Adopted newFiles mode site)
    (hrecord : site.ownRecord = some mode)
    (hprevious : site.disk .previous = none ∨ site.disk.isDirectory .previous = true) :
    removeReplacedLoraPaths.Survives (CrashInvariant newFiles oldEntry)
      (fun _ t => Adopted newFiles mode t ∧ t.ownRecord = some mode ∧
        t.disk .previous = none) site := by
  have hput : ∀ {site : LoraSite File}, Adopted newFiles mode site → site.ownRecord = some mode →
      ∀ path entry, path = .previous ∨ path = .dataset →
        Adopted newFiles mode (site.setDisk (site.disk.put path entry)) ∧
          (site.setDisk (site.disk.put path entry)).ownRecord = some mode := by
    intro site h hrecord path entry hpath
    constructor
    · apply h.setDisk
      · rcases hpath with rfl | rfl <;> simp
      · rcases hpath with rfl | rfl <;> simp
    · rw [ownRecord_setDisk (by rcases hpath with rfl | rfl <;> simp)]
      exact hrecord
  have hdataset : ∀ {site : LoraSite File}, Adopted newFiles mode site →
      site.ownRecord = some mode → site.disk .previous = none →
        (do let _ ← onDisk (Disk.rmtree .dataset) : LoraProgram File Unit).Survives
          (CrashInvariant newFiles oldEntry)
          (fun _ t => Adopted newFiles mode t ∧ t.ownRecord = some mode ∧
            t.disk .previous = none) site := by
    intro site h hrecord hnone
    rw [survives_bind]
    apply survives_rmtree (h.crashInvariant hrecord)
    · intro files
      obtain ⟨ht, hown⟩ := hput h hrecord .dataset (some (.directory files)) (.inr rfl)
      exact ht.crashInvariant hown
    · intro _
      obtain ⟨ht, hown⟩ := hput h hrecord .dataset none (.inr rfl)
      have hinvariant : CrashInvariant newFiles oldEntry _ := ht.crashInvariant hown
      exact ⟨hinvariant, hinvariant, ht, hown, by simpa [LoraSite.setDisk] using hnone⟩
    · intro _
      exact ⟨h.crashInvariant hrecord, h, hrecord, hnone⟩
  unfold removeReplacedLoraPaths
  rw [survives_bind, survives_exists]
  refine ⟨h.crashInvariant hrecord, ?_⟩
  cases hentry : site.disk .previous with
  | none => exact hdataset h hrecord hentry
  | some entry =>
      simp only [Option.isSome_some, if_true]
      rw [survives_bind]
      apply survives_rmtree (h.crashInvariant hrecord)
      · intro files
        obtain ⟨ht, hown⟩ := hput h hrecord .previous (some (.directory files)) (.inl rfl)
        exact ht.crashInvariant hown
      · intro _
        obtain ⟨ht, hown⟩ := hput h hrecord .previous none (.inl rfl)
        exact ⟨ht.crashInvariant hown, hdataset ht hown (by simp [LoraSite.setDisk])⟩
      · intro hrefused
        rcases hprevious with hnone | hdirectory
        · rw [hentry] at hnone
          cases hnone
        · rw [hdirectory] at hrefused
          cases hrefused

theorem clearCompletedTrainingModelMode_survives {mode : String}
    (h : Adopted newFiles mode site) (hrecord : site.ownRecord = some mode)
    (hprevious : site.disk .previous = none) :
    clearCompletedTrainingModelMode.Survives (CrashInvariant newFiles oldEntry)
      (fun _ t => Adopted newFiles mode t ∧ t.disk .previous = none) site := by
  have hinvariant : CrashInvariant newFiles oldEntry site := h.crashInvariant hrecord
  have ht : Adopted newFiles mode (site.setDisk (site.disk.put .modeRecord none)) := by
    apply h.setDisk <;> simp
  have hcleared : CrashInvariant newFiles oldEntry
      (site.setDisk (site.disk.put .modeRecord none)) := by
    refine .installed ⟨ht.active, ?_, ht.modelMode.trans ht.recordedMode.symm, ?_, ht.output⟩
    · rw [ht.recordedMode]
      exact Option.some_ne_none mode
    · simp [LoraSite.ownRecord, LoraSite.setDisk]
  unfold clearCompletedTrainingModelMode
  rw [survives_bind]
  apply survives_unlink hinvariant
  · exact ⟨hcleared, hcleared, ht, by simpa [LoraSite.setDisk] using hprevious⟩
  · exact ⟨hinvariant, h, hprevious⟩

theorem markLoraTrainingComplete_survives {mode : String} (sampleCount : Nat)
    (h : Adopted newFiles mode site) (hinvariant : CrashInvariant newFiles oldEntry site)
    (hprevious : site.disk .previous = none) :
    (markLoraTrainingComplete mode sampleCount).Survives (CrashInvariant newFiles oldEntry)
      (fun _ _ => True) site := by
  unfold markLoraTrainingComplete
  rw [survives_bind]
  apply survives_commit hinvariant
  intro _ t hcommit
  cases hmode : validateLoraTrainingModelMode (some mode) with
  | error error => simp [hmode, bind, Except.bind] at hcommit
  | ok _ =>
      simp only [hmode, bind, Except.bind, pure, Except.pure, Except.ok.injEq,
        Prod.mk.injEq] at hcommit
      obtain ⟨-, rfl⟩ := hcommit
      have hready : ∀ {t : LoraSite File}, t.lora.status = .ready → t.disk = site.disk →
          t.recordedMode = some mode → t.lora.modelMode = some mode →
            CrashInvariant newFiles oldEntry t := by
        intro t hstatus hdisk hrecorded hsaved
        refine .settled ⟨by simp [LoraSite.Active, hstatus, loraActiveStatuses], ?_⟩
        exact Consistent.of_recorded hstatus (hdisk ▸ h.output) hrecorded hsaved
          (hdisk ▸ hprevious)
      refine ⟨hready rfl rfl h.recordedMode rfl, ?_⟩
      apply survives_commit
      · exact hready rfl rfl h.recordedMode rfl
      · rintro _ t ⟨⟩
        exact ⟨hready rfl rfl h.recordedMode rfl, trivial⟩

theorem validatedLoraAdapterHandoff_survives {invariant : LoraSite File → Prop}
    {workerResult : TrainLoraTaskResult} (hsite : invariant site) :
    (validatedLoraAdapterHandoff workerResult).Survives invariant (fun _ t => t = site) site := by
  unfold validatedLoraAdapterHandoff
  split_ifs
  · exact hsite
  · rw [survives_bind, survives_isDir]
    refine ⟨hsite, ?_⟩
    cases site.disk.isDirectory .trainingTmp with
    | true => exact ⟨hsite, rfl⟩
    | false => exact hsite

/-- Wherever the completion of a training run dies, reconciliation can take over. -/
theorem completeLoraTraining_survives {jobId : String} (targetMode : String)
    (workerResult : TrainLoraTaskResult) (h : Trained newFiles oldEntry site)
    (hjob : site.lora.trainingJobId = some jobId) :
    (completeLoraTraining jobId targetMode workerResult).Survives
      (CrashInvariant newFiles oldEntry) (fun _ _ => True) site := by
  have hsite := h.crashInvariant
  unfold completeLoraTraining validateCompletedTrainingModelMode
  rw [survives_bind]
  split_ifs
  · exact hsite
  · refine ⟨hsite, ?_⟩
    dsimp only
    rw [survives_bind]
    refine (validatedLoraAdapterHandoff_survives hsite).mono ?_
    rintro _ t - rfl
    rw [survives_bind]
    refine (recordCompletedTrainingModelMode_survives h hjob).mono ?_
    rintro _ t - ⟨ht, hrecord⟩
    rw [survives_bind]
    refine (saveLoraModelMode_survives ht hrecord).mono ?_
    rintro _ t - ⟨ht, hrecord, hmode⟩
    rw [survives_bind]
    refine (replaceLoraAdapter_survives ht hrecord hmode).mono ?_
    rintro _ t - ⟨ht, hrecord, hprevious⟩
    rw [survives_bind]
    refine (removeReplacedLoraPaths_survives ht hrecord hprevious).mono ?_
    rintro _ t - ⟨ht, hrecord, hnone⟩
    rw [survives_bind]
    refine (clearCompletedTrainingModelMode_survives ht hrecord hnone).mono ?_
    rintro _ t hinvariant ⟨ht, hnone⟩
    exact markLoraTrainingComplete_survives _ ht hinvariant hnone
  · exact hsite

end Completion

end Songmaker.Lora
