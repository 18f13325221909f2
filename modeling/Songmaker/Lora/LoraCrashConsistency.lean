import Songmaker.Lora.LoraCompletion
import Songmaker.Lora.LoraReconciliation

/-!
However often reconciliation dies, and wherever the completion of the training
run had died before it, reconciliation ends with the adapter that the mode record
decides on.
-/

namespace Songmaker.Lora

open Songmaker.Foundation
open Songmaker.Foundation.Program (Ends crashAfter ends_crashAfter ends_run
  survives_bind survives_call survives_within survives_within_of_ne)
open Songmaker.Jobs

variable {File : Type} {newFiles : List File} {oldEntry : Option (LoraEntry File)}
  {site : LoraSite File}

/-- Reading the record changes nothing, and returns the one of the LoRA's own job. -/
theorem completedModelModeForLora_survives {invariant : LoraSite File → Prop}
    (hsite : invariant site) :
    (completedModelModeForLora site.lora.trainingJobId).Survives invariant
      (fun mode t => t = site ∧ mode = site.ownRecord ∧
        ∀ m, mode = some m → m ∈ loraTrainingModelModes) site := by
  unfold completedModelModeForLora readCompletedTrainingModelMode
  rw [survives_bind, survives_bind, survives_exists]
  refine ⟨hsite, ?_⟩
  cases hentry : site.disk .modeRecord with
  | none =>
      refine ⟨hsite, hsite, rfl, ?_, by rintro m ⟨⟩⟩
      simp [LoraSite.ownRecord, hentry]
  | some entry =>
      simp only [Option.isSome_some, if_true]
      rw [survives_bind, survives_readText, hentry]
      refine ⟨hsite, ?_⟩
      cases entry with
      | directory files => exact hsite
      | file text =>
          cases text with
          | none => exact hsite
          | some record =>
              simp only [Option.bind_some, Entry.text?]
              split_ifs with hmode
              · refine ⟨hsite, hsite, rfl, ?_, ?_⟩
                · simp [LoraSite.ownRecord, hentry]
                · intro m hm
                  split_ifs at hm
                  cases hm
                  exact hmode
              · exact hsite

/-- What recovering from a mode record leads to. -/
structure Recovered (newFiles : List File) (site t : LoraSite File) : Prop where
  recorded : Recorded newFiles t
  lora : t.lora = site.lora
  ownRecord : t.ownRecord = site.ownRecord
  output : t.disk .output = some (.directory newFiles)

theorem Recovered.put_previous {t : LoraSite File} (h : Recovered newFiles site t)
    (entry : Option (LoraEntry File)) :
    Recovered newFiles site (t.setDisk (t.disk.put .previous entry)) := by
  have hadapter := h.recorded.adapter
  refine ⟨h.recorded.setDisk (by simp) ?_, h.lora, ?_, ?_⟩
  · simpa [Disk.isDirectory] using hadapter
  · rw [ownRecord_setDisk (by simp)]
    exact h.ownRecord
  · simpa [LoraSite.setDisk] using h.output

theorem removePrevious_survives {t : LoraSite File} (h : Recovered newFiles site t) :
    (do
      if ← onDisk (Disk.exists? .previous) then
        onDiskOrRaise (Disk.rmtree .previous) "Failed to remove the previous LoRA adapter"
      onDisk (Disk.isDir? .output) : LoraProgram File Bool).Survives
        (CrashInvariant newFiles oldEntry)
      (fun recovered t => recovered = true ∧ Recovered newFiles site t ∧
        t.disk .previous = none) t := by
  have hend : ∀ {t : LoraSite File}, Recovered newFiles site t → t.disk .previous = none →
      (onDisk (Disk.isDir? .output)).Survives (CrashInvariant newFiles oldEntry)
        (fun recovered t => recovered = true ∧ Recovered newFiles site t ∧
          t.disk .previous = none) t := by
    intro t h hprevious
    rw [survives_isDir]
    refine ⟨.recorded h.recorded, ?_, h, hprevious⟩
    simp [Disk.isDirectory, h.output, Entry.isDirectory]
  rw [survives_bind, survives_exists]
  refine ⟨.recorded h.recorded, ?_⟩
  cases hprevious : t.disk .previous with
  | none => exact hend h hprevious
  | some entry =>
      simp only [Option.isSome_some, if_true]
      rw [survives_bind]
      apply survives_rmtreeOrRaise (.recorded h.recorded)
      · intro files
        exact .recorded (h.put_previous _).recorded
      · exact ⟨.recorded (h.put_previous none).recorded,
          hend (h.put_previous none) (by simp [LoraSite.setDisk])⟩

theorem moveTmp_survives {t : LoraSite File} (h : Recorded newFiles t)
    (hlora : t.lora = site.lora) (hrecord : t.ownRecord = site.ownRecord)
    (htmp : t.disk .trainingTmp = some (.directory newFiles)) :
    (do
      onDiskOrRaise (Disk.rename .trainingTmp .output) "Failed to move the LoRA adapter"
      if ← onDisk (Disk.exists? .previous) then
        onDiskOrRaise (Disk.rmtree .previous) "Failed to remove the previous LoRA adapter"
      onDisk (Disk.isDir? .output) : LoraProgram File Bool).Survives
        (CrashInvariant newFiles oldEntry)
      (fun recovered t => recovered = true ∧ Recovered newFiles site t ∧
        t.disk .previous = none) t := by
  rw [survives_bind]
  apply survives_renameOrRaise (.recorded h)
  intro entry hentry _
  rw [htmp] at hentry
  cases hentry
  have hmoved : Recovered newFiles site (t.setDisk
      ((t.disk.put .trainingTmp none).put .output (some (.directory newFiles)))) := by
    refine ⟨h.setDisk (by simp) (.inr ?_), hlora, ?_, ?_⟩
    · simp [Disk.isDirectory]
    · rw [ownRecord_setDisk (by simp)]
      exact hrecord
    · simp [LoraSite.setDisk]
  exact ⟨.recorded hmoved.recorded, removePrevious_survives hmoved⟩

theorem recoverRecordedLoraAdapter_survives (h : Recorded newFiles site) :
    recoverRecordedLoraAdapter.Survives (CrashInvariant newFiles oldEntry)
      (fun recovered t => recovered = true ∧ Recovered newFiles site t ∧
        t.disk .previous = none) site := by
  have hsite : CrashInvariant newFiles oldEntry site := .recorded h
  unfold recoverRecordedLoraAdapter
  rw [survives_bind]
  apply survives_require hsite
  intro _
  rw [survives_bind]
  apply survives_require hsite
  intro _
  rw [survives_bind]
  apply survives_require hsite
  intro _
  rw [survives_bind, survives_isDir]
  refine ⟨hsite, ?_⟩
  cases hdirectory : site.disk.isDirectory .trainingTmp with
  | false =>
      rcases h.adapter with htmp | ⟨-, houtput⟩
      · simp [Disk.isDirectory, htmp, Entry.isDirectory] at hdirectory
      · exact removePrevious_survives ⟨h, rfl, rfl, houtput⟩
  | true =>
      rcases h.adapter with htmp | ⟨hnot, -⟩
      · simp only [if_true]
        rw [survives_bind, survives_exists]
        refine ⟨hsite, ?_⟩
        cases houtput : site.disk .output with
        | none => exact moveTmp_survives h rfl rfl htmp
        | some entry =>
            simp only [Option.isSome_some, if_true]
            rw [survives_bind]
            apply survives_renameOrRaise hsite
            intro staged hstaged _
            have ht : Recorded newFiles (site.setDisk
                ((site.disk.put .output none).put .previous (some staged))) := by
              refine h.setDisk (by simp) (.inl ?_)
              simpa using htmp
            refine ⟨.recorded ht, ?_⟩
            exact moveTmp_survives ht (show _ = site.lora from rfl) (ownRecord_setDisk (by simp))
              (by simpa [LoraSite.setDisk] using htmp)
      · rw [hdirectory] at hnot
        cases hnot

theorem restorePreviousLoraAdapter_survives {P : LoraSite File → Prop}
    (hinvariant : ∀ t, P t → CrashInvariant newFiles oldEntry t)
    (hremove : ∀ t entry, P t → (t.disk .output).isSome →
      P (t.setDisk (t.disk.put .previous entry)))
    (hrestore : ∀ t entry, P t → t.disk .output = none → t.disk .previous = some entry →
      P (t.setDisk ((t.disk.put .previous none).put .output (some entry)))) (h : P site) :
    restorePreviousLoraAdapter.Survives (CrashInvariant newFiles oldEntry)
      (fun recovered t => P t ∧ t.lora = site.lora ∧ recovered = t.disk.isDirectory .output ∧
        t.disk .previous = none) site := by
  have hend : ∀ {t : LoraSite File}, P t → t.lora = site.lora → t.disk .previous = none →
      (onDisk (Disk.isDir? .output)).Survives (CrashInvariant newFiles oldEntry)
        (fun recovered t => P t ∧ t.lora = site.lora ∧ recovered = t.disk.isDirectory .output ∧
          t.disk .previous = none) t := by
    intro t ht hlora hnone
    rw [survives_isDir]
    exact ⟨hinvariant t ht, ht, hlora, rfl, hnone⟩
  unfold restorePreviousLoraAdapter
  rw [survives_bind, survives_exists]
  refine ⟨hinvariant site h, ?_⟩
  cases hprevious : site.disk .previous with
  | none => exact hend h rfl hprevious
  | some entry =>
      simp only [Option.isSome_some, if_true]
      rw [survives_bind, survives_exists]
      refine ⟨hinvariant site h, ?_⟩
      cases houtput : site.disk .output with
      | some output =>
          simp only [Option.isSome_some, if_true]
          have hput : ∀ entry, P (site.setDisk (site.disk.put .previous entry)) :=
            fun entry => hremove site entry h (houtput ▸ rfl)
          rw [survives_bind]
          apply survives_require (hinvariant site h)
          intro _
          rw [survives_bind]
          apply survives_rmtreeOrRaise (hinvariant site h)
          · intro files
            exact hinvariant _ (hput _)
          · exact ⟨hinvariant _ (hput none), hend (hput none) rfl (by simp [LoraSite.setDisk])⟩
      | none =>
          simp only [Option.isSome_none, Bool.false_eq_true, if_false]
          rw [survives_bind]
          apply survives_renameOrRaise (hinvariant site h)
          intro staged hstaged _
          have hrestored := hrestore site staged h houtput hstaged
          exact ⟨hinvariant _ hrestored, hend hrestored rfl (by simp [LoraSite.setDisk])⟩

theorem restore_untouched_survives (h : Untouched oldEntry site) :
    restorePreviousLoraAdapter.Survives (CrashInvariant newFiles oldEntry)
      (fun recovered t => Untouched oldEntry t ∧ recovered = t.disk.isDirectory .output ∧
        t.disk .previous = none) site := by
  refine (restorePreviousLoraAdapter_survives (fun _ => .untouched) ?_ ?_ h).mono ?_
  · intro t entry ht houtput
    refine ht.setDisk (by simp) ?_
    obtain ⟨output, houtput⟩ := Option.isSome_iff_exists.mp houtput
    simp [LoraSite.adapterEntry, houtput]
  · intro t entry ht houtput hprevious
    refine ht.setDisk (by simp) ?_
    simp [LoraSite.adapterEntry, houtput, hprevious]
  · rintro recovered t - ⟨ht, -, hrecovered, hnone⟩
    exact ⟨ht, hrecovered, hnone⟩

theorem restore_installed_survives (h : Installed newFiles site) :
    restorePreviousLoraAdapter.Survives (CrashInvariant newFiles oldEntry)
      (fun recovered t => Installed newFiles t ∧ recovered = true ∧ t.disk .previous = none)
      site := by
  refine (restorePreviousLoraAdapter_survives (fun _ => .installed) ?_ ?_ h).mono ?_
  · intro t entry ht _
    exact ht.setDisk (by simp) (by simp)
  · intro t entry ht houtput
    rw [ht.output] at houtput
    cases houtput
  · rintro recovered t - ⟨ht, -, hrecovered, hnone⟩
    refine ⟨ht, ?_, hnone⟩
    rw [hrecovered]
    simp [Disk.isDirectory, ht.output, Entry.isDirectory]

theorem settle_recorded {mode : String} (hready : site.lora.status = .ready)
    (houtput : site.disk .output = some (.directory newFiles))
    (hrecorded : site.recordedMode = some mode) (hmode : site.lora.modelMode = some mode)
    (hprevious : site.disk .previous = none) : Settled newFiles oldEntry site :=
  ⟨by simp [LoraSite.Active, hready, loraActiveStatuses],
    Consistent.of_recorded hready houtput hrecorded hmode hprevious⟩

theorem settle_kept {files : List File} (h : Untouched oldEntry site)
    (houtput : site.disk .output = some (.directory files)) (hprevious : site.disk .previous = none)
    {lora : UserLora} (hready : lora.status = .ready) (audits : List String) :
    Settled newFiles oldEntry { site with lora := lora, audits := audits } := by
  have hold : oldEntry = some (.directory files) := by
    rw [← h.adapter, LoraSite.adapterEntry, houtput]
    rfl
  refine ⟨by simp [LoraSite.Active, hready, loraActiveStatuses], ?_, ?_, ?_, hprevious⟩
  · intro mode hmode
    rw [show _ = none from h.recordedMode] at hmode
    cases hmode
  · intro _ others hothers
    rw [hold] at hothers
    cases hothers
    exact ⟨hready, houtput⟩
  · intro _ hnot
    exact absurd hold (hnot files)

theorem settle_failed (h : Untouched oldEntry site)
    (houtput : site.disk.isDirectory .output = false) (hprevious : site.disk .previous = none)
    (errorMessage : String) :
    Settled newFiles oldEntry (cleanupFailedLora errorMessage site) := by
  have hold : ∀ files, oldEntry ≠ some (.directory files) := by
    intro files hfiles
    rw [← h.adapter, LoraSite.adapterEntry, hprevious, Option.or_none] at hfiles
    simp [Disk.isDirectory, hfiles, Entry.isDirectory] at houtput
  refine ⟨by simp [LoraSite.Active, cleanupFailedLora, loraActiveStatuses], ?_, ?_, ?_,
    hprevious⟩
  · intro mode hmode
    rw [show (cleanupFailedLora errorMessage site).recordedMode = none from h.recordedMode] at hmode
    cases hmode
  · intro _ files hfiles
    exact absurd hfiles (hold files)
  · intro _ _
    exact ⟨rfl, houtput⟩

theorem persist_untouched_survives {errorMessage : String} (h : Untouched oldEntry site)
    (hprevious : site.disk .previous = none) :
    (persistCrashedLoraReconciliation none (site.disk.isDirectory .output) errorMessage).Survives
      (CrashInvariant newFiles oldEntry) (fun _ t => Settled newFiles oldEntry t) site := by
  apply survives_commit (.untouched h)
  intro _ t hcommit
  cases houtput : site.disk .output with
  | none =>
      have hnot : site.disk.isDirectory .output = false := by simp [Disk.isDirectory, houtput]
      rw [hnot] at hcommit
      cases hcommit
      exact ⟨.settled (settle_failed h hnot hprevious _), settle_failed h hnot hprevious _⟩
  | some entry =>
      cases entry with
      | file text =>
          have hnot : site.disk.isDirectory .output = false := by
            simp [Disk.isDirectory, houtput, Entry.isDirectory]
          rw [hnot] at hcommit
          cases hcommit
          exact ⟨.settled (settle_failed h hnot hprevious _), settle_failed h hnot hprevious _⟩
      | directory files =>
          have hdirectory : site.disk.isDirectory .output = true := by
            simp [Disk.isDirectory, houtput, Entry.isDirectory]
          rw [hdirectory] at hcommit
          cases hcommit
          exact ⟨.settled (settle_kept h houtput hprevious rfl _),
            settle_kept h houtput hprevious rfl _⟩

theorem persist_recovered_survives {errorMessage mode : String}
    {completedModelMode : Option String} (hsite : CrashInvariant newFiles oldEntry site)
    (hrecorded : site.recordedMode = some mode)
    (hmode : completedModelMode.or site.lora.modelMode = some mode)
    (houtput : site.disk .output = some (.directory newFiles))
    (hprevious : site.disk .previous = none) :
    (persistCrashedLoraReconciliation completedModelMode true errorMessage).Survives
      (CrashInvariant newFiles oldEntry) (fun _ t => Settled newFiles oldEntry t) site := by
  apply survives_commit hsite
  intro _ t hcommit
  cases hvalid : validateLoraTrainingModelMode completedModelMode with
  | error error => simp [hvalid, bind, Except.bind] at hcommit
  | ok _ =>
      simp only [Bool.true_eq_false, if_false, hvalid, bind, Except.bind, pure, Except.pure,
        Except.ok.injEq, Prod.mk.injEq] at hcommit
      obtain ⟨-, rfl⟩ := hcommit
      exact ⟨.settled (settle_recorded rfl houtput hrecorded hmode hprevious),
        settle_recorded rfl houtput hrecorded hmode hprevious⟩

theorem cleanupFailedLoraPath_survives {path : LoraPath} (h : Settled newFiles oldEntry site)
    (hpath : path ≠ .output ∧ path ≠ .previous) :
    (cleanupFailedLoraPath path).Survives (CrashInvariant newFiles oldEntry)
      (fun _ t => Settled newFiles oldEntry t) site := by
  have hput : ∀ entry, Settled newFiles oldEntry (site.setDisk (site.disk.put path entry)) := by
    intro entry
    apply h.setDisk
    · rw [Disk.put_of_ne _ (Ne.symm hpath.1)]
    · rw [Disk.put_of_ne _ (Ne.symm hpath.2)]
  unfold cleanupFailedLoraPath
  rw [survives_bind, survives_exists]
  refine ⟨.settled h, ?_⟩
  cases hentry : site.disk path with
  | none => exact ⟨.settled h, h⟩
  | some entry =>
      simp only [Option.isSome_some, if_true]
      rw [survives_bind, survives_isDir]
      refine ⟨.settled h, ?_⟩
      cases site.disk.isDirectory path with
      | true =>
          simp only [if_true]
          rw [survives_bind]
          apply survives_rmtree (.settled h)
          · intro files
            exact .settled (hput _)
          · intro _
            exact ⟨.settled (hput none), .settled (hput none), hput none⟩
          · intro _
            exact ⟨.settled h, h⟩
      | false =>
          simp only [Bool.false_eq_true, if_false]
          rw [survives_bind]
          apply survives_unlink (.settled h)
          · exact ⟨.settled (hput none), .settled (hput none), hput none⟩
          · exact ⟨.settled h, h⟩

theorem cleanupFailedLoraPaths_survives (h : Settled newFiles oldEntry site) :
    cleanupFailedLoraPaths.Survives (CrashInvariant newFiles oldEntry)
      (fun _ t => Settled newFiles oldEntry t) site := by
  unfold cleanupFailedLoraPaths
  rw [survives_bind]
  refine (cleanupFailedLoraPath_survives h (by decide)).mono ?_
  intro _ t _ h
  rw [survives_bind]
  refine (cleanupFailedLoraPath_survives h (by decide)).mono ?_
  intro _ t _ h
  rw [survives_bind]
  refine (cleanupFailedLoraPath_survives h (by decide)).mono ?_
  intro _ t _ h
  exact cleanupFailedLoraPath_survives h (by decide)

theorem clear_settled_survives (h : Settled newFiles oldEntry site) :
    clearCompletedTrainingModelMode.Survives (CrashInvariant newFiles oldEntry)
      (fun _ t => Settled newFiles oldEntry t) site := by
  have hput : Settled newFiles oldEntry (site.setDisk (site.disk.put .modeRecord none)) := by
    apply h.setDisk <;> simp
  unfold clearCompletedTrainingModelMode
  rw [survives_bind]
  apply survives_unlink (.settled h)
  · exact ⟨.settled hput, .settled hput, hput⟩
  · exact ⟨.settled h, h⟩

theorem afterCommit_survives (clear : Bool) (h : Settled newFiles oldEntry site) :
    (do
      if clear then clearCompletedTrainingModelMode
      cleanupFailedLoraPaths : LoraProgram File Unit).Survives (CrashInvariant newFiles oldEntry)
      (fun _ t => Settled newFiles oldEntry t) site := by
  cases clear with
  | false => exact cleanupFailedLoraPaths_survives h
  | true =>
      simp only [if_true]
      rw [survives_bind]
      refine (clear_settled_survives h).mono ?_
      intro _ t _ ht
      exact cleanupFailedLoraPaths_survives ht

/-- Reconciling a crashed LoRA settles it, or raises or dies with the crash invariant kept. -/
theorem reconcileCrashedLora_survives (hactive : site.Active)
    (h : CrashInvariant newFiles oldEntry site) :
    (reconcileCrashedLora site.lora.trainingJobId).Survives (CrashInvariant newFiles oldEntry)
      (fun _ t => Settled newFiles oldEntry t) site := by
  unfold reconcileCrashedLora
  rw [survives_bind]
  refine (completedModelModeForLora_survives h).mono ?_
  rintro mode t - ⟨rfl, hmode, hvalid⟩
  rw [survives_bind]
  cases h with
  | untouched h =>
      rw [hmode, h.ownRecord]
      refine (restore_untouched_survives h).mono ?_
      rintro recovered t - ⟨ht, rfl, hprevious⟩
      rw [survives_bind]
      refine (persist_untouched_survives ht hprevious).mono ?_
      intro _ t' _ ht'
      exact afterCommit_survives _ ht'
  | recorded h =>
      obtain ⟨recorded, hrecord⟩ := Option.ne_none_iff_exists'.mp h.ownRecord
      rw [hmode, hrecord]
      refine (recoverRecordedLoraAdapter_survives h).mono ?_
      rintro recovered t' hinvariant ⟨rfl, ht, hprevious⟩
      rw [survives_bind]
      refine (persist_recovered_survives hinvariant
        (ht.recorded.recordedMode.trans (ht.ownRecord.trans hrecord)) rfl ht.output
        hprevious).mono ?_
      intro _ t'' _ ht''
      exact afterCommit_survives _ ht''
  | installed h =>
      obtain ⟨recorded, hrecorded⟩ := Option.ne_none_iff_exists'.mp h.recordedMode
      rw [hmode, h.ownRecord]
      refine (restore_installed_survives h).mono ?_
      rintro recovered t' hinvariant ⟨ht, rfl, hprevious⟩
      obtain ⟨kept, hkept⟩ := Option.ne_none_iff_exists'.mp ht.recordedMode
      have hsaved : (none : Option String).or t'.lora.modelMode = some kept :=
        ht.modelMode.trans hkept
      rw [survives_bind]
      refine (persist_recovered_survives hinvariant hkept hsaved ht.output hprevious).mono ?_
      intro _ t'' _ ht''
      exact afterCommit_survives _ ht''
  | settled h => exact absurd hactive h.settled

theorem nextReconcilableLora_spec {loraIds excludedIds : List String} {sites : LoraSites File}
    {loraId : String} {trainingJobId : Option String}
    (hnext : nextReconcilableLora loraIds excludedIds sites = some (loraId, trainingJobId)) :
    (sites loraId).Active ∧ trainingJobId = (sites loraId).lora.trainingJobId := by
  unfold nextReconcilableLora at hnext
  obtain ⟨found, hfound, hpair⟩ := Option.map_eq_some_iff.mp hnext
  cases hpair
  have hselected := List.find?_some hfound
  simp only [LoraSite.reconcilable, Bool.and_eq_true, decide_eq_true_eq] at hselected
  exact ⟨hselected.1.1.1, rfl⟩

theorem reconcileCrashedLoras_survives (loraIds : List String) (loraId : String) (rounds : Nat)
    (excludedIds : List String) (reconciled : Nat) {sites : LoraSites File}
    (h : CrashInvariant newFiles oldEntry (sites loraId)) :
    (reconcileCrashedLoras loraIds rounds excludedIds reconciled).Survives
      (fun sites => CrashInvariant newFiles oldEntry (sites loraId)) (fun _ _ => True) sites := by
  induction rounds generalizing excludedIds reconciled sites with
  | zero => exact h
  | succ rounds ih =>
      unfold reconcileCrashedLoras
      rw [survives_bind, survives_call]
      refine ⟨h, fun _ htorn => htorn.elim, h, ?_⟩
      simp only [Atomic.read]
      cases hnext : nextReconcilableLora loraIds excludedIds sites with
      | none => exact ⟨h, trivial⟩
      | some next =>
          obtain ⟨selectedId, trainingJobId⟩ := next
          obtain ⟨hactive, rfl⟩ := nextReconcilableLora_spec hnext
          rw [survives_bind]
          have hiteration : ((reconcileCrashedLora (sites selectedId).lora.trainingJobId).within
              selectedId).Survives (fun sites => CrashInvariant newFiles oldEntry (sites loraId))
              (fun _ sites => CrashInvariant newFiles oldEntry (sites loraId)) sites := by
            by_cases hselected : loraId = selectedId
            · subst hselected
              refine (survives_within (reconcileCrashedLora_survives hactive h)).mono ?_
              intro _ _ _ hsettled
              exact .settled hsettled
            · exact survives_within_of_ne hselected h
          refine (Program.Survives.attempt (hiteration.mono ?_) ?_)
          · rintro ⟨⟩ t _ ht
            exact ih _ _ ht
          · intro t ht
            exact ih _ _ ht

/-- What may happen to a LoRA once its training process has died: reconciliation
runs, and may die or fail at any point; its job is terminalised; and other LoRAs
change in any way. -/
inductive Recovery (loraIds : List String) (loraId : String) :
    LoraSites File → LoraSites File → Prop where
  | refl (sites : LoraSites File) : Recovery loraIds loraId sites sites
  | pass {sites sites' sites'' : LoraSites File} {rounds : Nat} {outcome : Outcome Nat}
      (hrecovery : Recovery loraIds loraId sites sites')
      (hpass : Ends (reconcileCrashedLoras loraIds rounds [] 0) sites' outcome sites'') :
      Recovery loraIds loraId sites sites''
  | elsewhere {sites sites' sites'' : LoraSites File} {job : Option JobStatus}
      (hrecovery : Recovery loraIds loraId sites sites')
      (hsite : sites'' loraId = { sites' loraId with job := job }) :
      Recovery loraIds loraId sites sites''

theorem CrashInvariant.setJob (h : CrashInvariant newFiles oldEntry site)
    (job : Option JobStatus) : CrashInvariant newFiles oldEntry { site with job := job } := by
  cases h with
  | untouched h => exact .untouched ⟨h.active, h.recordedMode, h.ownRecord, h.adapter⟩
  | recorded h => exact .recorded ⟨h.active, h.recordedMode, h.ownRecord, h.adapter⟩
  | installed h => exact .installed ⟨h.active, h.recordedMode, h.modelMode, h.ownRecord, h.output⟩
  | settled h =>
      exact .settled ⟨h.settled, h.consistent.recorded, h.consistent.kept, h.consistent.failed,
        h.consistent.notStaged⟩

theorem Recovery.crashInvariant {loraIds : List String} {loraId : String}
    {sites sites' : LoraSites File} (hrecovery : Recovery loraIds loraId sites sites')
    (h : CrashInvariant newFiles oldEntry (sites loraId)) :
    CrashInvariant newFiles oldEntry (sites' loraId) := by
  induction hrecovery with
  | refl => exact h
  | pass _ hpass ih => exact ((reconcileCrashedLoras_survives _ _ _ _ _ ih).ends hpass).1
  | elsewhere _ hsite ih =>
      rw [hsite]
      exact ih.setJob _

theorem CrashInvariant.consistent (h : CrashInvariant newFiles oldEntry site)
    (hsettled : ¬ site.Active) : Consistent newFiles oldEntry site := by
  cases h with
  | untouched h => exact absurd h.active hsettled
  | recorded h => exact absurd h.active hsettled
  | installed h => exact absurd h.active hsettled
  | settled h => exact h.consistent

/-- Crash consistency of a LoRA whose process died in `_complete_lora_training`:
reconciling it to the end settles it, and wherever it is settled it is consistent
with the mode record. -/
theorem reconcile_crash_consistent {jobId targetMode loraId : String}
    {workerResult : TrainLoraTaskResult} {started died : LoraSite File} {loraIds : List String}
    {crashed sites : LoraSites File} (htrained : Trained newFiles started.adapterEntry started)
    (hjob : started.lora.trainingJobId = some jobId)
    (hdied : Ends (completeLoraTraining jobId targetMode workerResult) started .died died)
    (hcrashed : crashed loraId = died) (hrecovery : Recovery loraIds loraId crashed sites) :
    (¬ (sites loraId).Active → Consistent newFiles started.adapterEntry (sites loraId)) ∧
      ∀ site, (sites loraId).Active →
        Ends (reconcileCrashedLora (sites loraId).lora.trainingJobId) (sites loraId)
          (.returned ()) site →
        ¬ site.Active ∧ Consistent newFiles started.adapterEntry site := by
  have hinvariant : CrashInvariant newFiles started.adapterEntry (sites loraId) := by
    apply hrecovery.crashInvariant
    rw [hcrashed]
    exact ((completeLoraTraining_survives targetMode workerResult htrained hjob).ends hdied).1
  refine ⟨hinvariant.consistent, ?_⟩
  intro site hactive hreturned
  have hsettled := ((reconcileCrashedLora_survives hactive hinvariant).ends hreturned).2 () rfl
  exact ⟨hsettled.settled, hsettled.consistent⟩

/-- A LoRA that is trained again, with its first adapter in place. -/
def retrained : LoraSite String where
  disk
    | .output => some (.directory ["old"])
    | .trainingTmp => some (.directory ["new"])
    | .dataset => some (.directory ["sample"])
    | _ => none
  lora := ⟨.exporting, some storageRel, some "turbo", some "job", none, false⟩
  job := some .running
  audits := []
  recordedMode := none

/-- The completion dies between its two renames, and the first reconciliation
once it has moved the new adapter. -/
theorem reconcile_crash_consistent_between_renames :
    let died := crashAfter 10 (completeLoraTraining "job" "sft" ⟨"sft", true, 1⟩) retrained
    let sites := crashAfter 14
      (reconcileCrashedLoras ["lora"] 2 [] 0) fun _ => { died with job := some .failed }
    let site := ((reconcileCrashedLora (some "job")).run (sites "lora")).2
    died.disk .output = none ∧ (sites "lora").disk .output = some (.directory ["new"]) ∧
      (sites "lora").Active ∧ site.recordedMode = some "sft" ∧
        Consistent ["new"] (some (.directory ["old"])) site := by
  intro died sites site
  have htrained : Trained ["new"] retrained.adapterEntry retrained :=
    ⟨by decide, rfl, rfl, rfl⟩
  have hrecovery : Recovery ["lora"] "lora" (fun _ => died) sites :=
    .pass (.elsewhere (.refl _) rfl) (ends_crashAfter 14 _ _)
  have hactive : (sites "lora").Active := by decide +kernel
  have hjob : (sites "lora").lora.trainingJobId = some "job" := by decide +kernel
  have hreturned : ((reconcileCrashedLora (some "job")).run (sites "lora")).1 = .returned () := by
    decide +kernel
  have hends := ends_run (reconcileCrashedLora (some "job")) (sites "lora")
  rw [hreturned, ← hjob] at hends
  refine ⟨by decide +kernel, by decide +kernel, hactive, by decide +kernel, ?_⟩
  have hconsistent := (reconcile_crash_consistent htrained rfl (ends_crashAfter 10 _ _) rfl
    hrecovery).2 _ hactive hends
  rw [hjob] at hconsistent
  exact hconsistent.2

end Songmaker.Lora
