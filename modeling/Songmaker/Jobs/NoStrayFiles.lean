import Mathlib.Data.List.Basic
import Songmaker.Jobs.GenerationFiles

namespace Songmaker.Jobs.NoStrayFiles

open Songmaker.Foundation
open Songmaker.Foundation.CleanupProgram
open Songmaker.Jobs.GenerationFiles

/-- What there is of one take: its files, its row and its mishaps. -/
structure TakeView where
  fetched : Bool
  rawWav : Bool
  wav : Bool
  mp3 : Bool
  row : Bool
  unstarted : Bool
  unsaved : Bool
deriving DecidableEq

def fresh : TakeView := ⟨false, false, false, false, false, false, false⟩

/-- The files of one take. -/
def takeOf (s : JobFiles) (take : Nat) : TakeView where
  fetched := s.has (.ofTake .fetched take)
  rawWav := s.has (.ofTake .rawWav take)
  wav := s.has (.ofTake .wav take)
  mp3 := s.has (.ofTake .mp3 take)
  row := s.rows take
  unstarted := s.mishaps.contains (.unstarted take)
  unsaved := s.mishaps.contains (.unsaved take)

def TakeView.put (view : TakeView) (present : Bool) : TakeFile → TakeView
  | .fetched => { view with fetched := present }
  | .rawWav => { view with rawWav := present }
  | .wav => { view with wav := present }
  | .mp3 => { view with mp3 := present }

/-- A take has stray files just when it has had a mishap. -/
structure Settled (view : TakeView) : Prop where
  fetched : view.fetched = view.unstarted
  files : (view.mp3 = view.row ∧ view.wav = view.row ∧ view.rawWav = view.row) ↔
    view.unsaved = false

instance (view : TakeView) : Decidable (Settled view) :=
  decidable_of_iff (_ ∧ _) ⟨fun h => ⟨h.1, h.2⟩, fun h => ⟨h.1, h.2⟩⟩

theorem settled_fresh : Settled fresh := by decide

/-- What there is of the job's copies, and what it knows of them. -/
structure JobView where
  srcCopy : Bool
  rawCopy : Bool
  exposed : Bool
  unlisted : Bool
  rawSource : Bool
  tmpCopies : List JobFile
deriving DecidableEq

/-- The copies of the job's source. -/
def jobOf (s : JobFiles) : JobView where
  srcCopy := s.has .srcCopy
  rawCopy := s.has .rawCopy
  exposed := s.mishaps.contains .exposed
  unlisted := s.mishaps.contains .unlisted
  rawSource := s.rawSource
  tmpCopies := s.tmpCopies

/-- A copy is left just when a mishap has left one. -/
def CopiesSettled (view : JobView) : Prop :=
  (view.srcCopy || view.rawCopy) = (view.exposed || view.unlisted)

/-- Every stray file belongs to a mishap, and every mishap has left one. -/
structure Accounted (s : JobFiles) : Prop where
  takes : ∀ take, Settled (takeOf s take)
  copies : CopiesSettled (jobOf s)

theorem Accounted.free_iff {s : JobFiles} (h : Accounted s) :
    StrayFree s ↔ s.mishaps = [] := by
  constructor
  · intro hfree
    have hcopies : (s.mishaps.contains .exposed || s.mishaps.contains .unlisted) = false := by
      refine (show _ = _ from h.copies).symm.trans ?_
      simp [jobOf, hfree.srcCopy, hfree.rawCopy]
    apply List.eq_nil_iff_forall_not_mem.mpr
    intro mishap hmishap
    cases mishap with
    | exposed => simp [hmishap] at hcopies
    | unlisted => simp [hmishap] at hcopies
    | unstarted take =>
        have hfetched := (h.takes take).fetched
        simp [takeOf, hfree.fetched take, hmishap] at hfetched
    | unsaved take =>
        have hfiles := (h.takes take).files.mp ⟨hfree.mp3 take, hfree.wav take, hfree.rawWav take⟩
        simp [takeOf, hmishap] at hfiles
  · intro hnone
    have hcopies : (s.has .srcCopy || s.has .rawCopy) = false := by
      refine (show _ = _ from h.copies).trans ?_
      simp [jobOf, hnone]
    obtain ⟨hsrc, hraw⟩ := Bool.or_eq_false_iff.mp hcopies
    have hfiles : ∀ take, s.has (.ofTake .mp3 take) = s.rows take ∧
        s.has (.ofTake .wav take) = s.rows take ∧ s.has (.ofTake .rawWav take) = s.rows take := by
      intro take
      apply (h.takes take).files.mpr
      simp [takeOf, hnone]
    refine ⟨hsrc, hraw, ?_, fun take => (hfiles take).1, fun take => (hfiles take).2.1,
      fun take => (hfiles take).2.2⟩
    intro take
    have hfetched := (h.takes take).fetched
    simpa [takeOf, hnone] using hfetched

section Paths

variable {store : AudioStore}

theorem normpath_eq_self {parts : List String} (hparts : ".." ∉ parts) :
    normpath parts = parts := by
  have hfold : ∀ done : List String,
      parts.foldl (fun done part => if part = ".." then done.dropLast else done ++ [part]) done =
        done ++ parts := by
    induction parts with
    | nil => simp
    | cons part parts ih =>
        intro done
        obtain ⟨hpart, hrest⟩ := List.ne_and_not_mem_of_not_mem_cons hparts
        rw [List.foldl_cons, if_neg (Ne.symm hpart), ih hrest, List.append_assoc,
          List.singleton_append]
  exact hfold []

theorem lists_of_absolute (habsolute : store.audioDir.absolute = true)
    (hplain : ".." ∉ store.audioDir.parts) (file : JobFile) : store.lists file = true := by
  have hparts : ".." ∉ store.sharedTmpDir.parts := by
    simpa [AudioStore.sharedTmpDir, workerSharedTmpDirname] using hplain
  have hdir : store.sharedTmpDir.absolute = true := habsolute
  have hcopy : store.copyPath file =
      joined store.sharedTmpDir.parts ++ joined [store.copyName file] := by
    rw [AudioStore.copyPath, abspath, if_pos hdir, normpath_eq_self hparts, joined,
      List.flatMap_append]
    rfl
  rw [AudioStore.lists, List.isPrefixOf_iff_prefix, PurePath.text, if_pos hdir, hcopy]
  exact List.prefix_append _ _

theorem lists_of_relative (hrelative : store.audioDir.absolute = false) (file : JobFile) :
    store.lists file = false := by
  have hdir : store.sharedTmpDir.absolute = false := hrelative
  obtain ⟨copyRest, hcopy⟩ : ∃ rest, store.copyPath file = '/' :: rest := by
    rw [AudioStore.copyPath]
    cases abspath store.cwd store.sharedTmpDir with
    | nil => exact ⟨_, rfl⟩
    | cons part parts => exact ⟨_, rfl⟩
  obtain ⟨first, parts, hparts⟩ : ∃ first parts, store.sharedTmpDir.parts = first :: parts := by
    exact List.exists_cons_of_ne_nil (List.append_ne_nil_of_right_ne_nil _ (by simp))
  obtain ⟨hnonempty, -, hslash⟩ :=
    store.sharedTmpDir.proper first (hparts ▸ List.mem_cons_self)
  obtain ⟨char, chars, hfirst⟩ :=
    List.exists_cons_of_ne_nil (mt String.toList_eq_nil_iff.mp hnonempty)
  have hchar : char ≠ '/' := by
    rintro rfl
    exact hslash (hfirst ▸ List.mem_cons_self)
  have htext : store.sharedTmpDir.text = char :: (chars ++ joined parts) := by
    rw [PurePath.text, hdir, if_neg Bool.false_ne_true, hparts, joined, List.flatMap_cons, hfirst]
    rfl
  rw [AudioStore.lists, htext, hcopy, List.isPrefixOf_cons_cons, beq_eq_false_iff_ne.mpr hchar,
    Bool.false_and]

end Paths

section Take

/-- Nothing but the take's own has changed. -/
structure Frame (take : Nat) (s t : JobFiles) : Prop where
  others : ∀ other, other ≠ take → takeOf t other = takeOf s other
  job : jobOf t = jobOf s

theorem Frame.refl (take : Nat) (s : JobFiles) : Frame take s s := ⟨fun _ _ => rfl, rfl⟩

/-- The job has come from `start` and stands at the take in this view. -/
structure Stands (start : JobFiles) (take : Nat) (handed : Bool) (view : TakeView)
    (s : JobFiles) : Prop where
  frame : Frame take start s
  handed : s.handedToPostProcess = handed
  view : takeOf s take = view

variable {start : JobFiles} {take : Nat} {handed : Bool} {view : TakeView} {s : JobFiles}

theorem Stands.put (h : Stands start take handed view s) (kind : TakeFile) (present : Bool) :
    Stands start take handed (view.put present kind) (s.put (.ofTake kind take) present) := by
  obtain ⟨⟨hothers, hjob⟩, hhanded, rfl⟩ := h
  refine ⟨⟨?_, ?_⟩, hhanded, ?_⟩
  · intro other hother
    rw [← hothers other hother]
    simp [takeOf, JobFiles.put, hother]
  · rw [← hjob]
    simp [jobOf, JobFiles.put]
  · cases kind with
    | fetched => simp [takeOf, JobFiles.put, TakeView.put]
    | rawWav => simp [takeOf, JobFiles.put, TakeView.put]
    | wav => simp [takeOf, JobFiles.put, TakeView.put]
    | mp3 => simp [takeOf, JobFiles.put, TakeView.put]

theorem Stands.noteUnsaved (h : Stands start take handed view s) :
    Stands start take handed { view with unsaved := true } (s.note (.unsaved take)) := by
  obtain ⟨⟨hothers, hjob⟩, hhanded, rfl⟩ := h
  refine ⟨⟨?_, ?_⟩, hhanded, ?_⟩
  · intro other hother
    rw [← hothers other hother]
    simp [takeOf, JobFiles.note, hother]
  · rw [← hjob]
    simp [jobOf, JobFiles.note]
  · simp [takeOf, JobFiles.note]

theorem Stands.noteUnstarted (h : Stands start take handed view s) :
    Stands start take handed { view with unstarted := true } (s.note (.unstarted take)) := by
  obtain ⟨⟨hothers, hjob⟩, hhanded, rfl⟩ := h
  refine ⟨⟨?_, ?_⟩, hhanded, ?_⟩
  · intro other hother
    rw [← hothers other hother]
    simp [takeOf, JobFiles.note, hother]
  · rw [← hjob]
    simp [jobOf, JobFiles.note]
  · simp [takeOf, JobFiles.note]

theorem Stands.commit (h : Stands start take handed view s) :
    Stands start take handed { view with row := true } (s.commitRow take) := by
  obtain ⟨⟨hothers, hjob⟩, hhanded, rfl⟩ := h
  refine ⟨⟨?_, hjob⟩, hhanded, ?_⟩
  · intro other hother
    rw [← hothers other hother]
    simp [takeOf, JobFiles.commitRow, hother]
  · simp [takeOf, JobFiles.commitRow]

theorem Stands.of_same {t : JobFiles} {handed' : Bool} (h : Stands start take handed view s)
    (hsame : ∀ other, takeOf t other = takeOf s other) (hjob : jobOf t = jobOf s)
    (hhanded : t.handedToPostProcess = handed') : Stands start take handed' view t := by
  refine ⟨⟨?_, hjob.trans h.frame.job⟩, hhanded, (hsame take).trans h.view⟩
  intro other hother
  exact (hsame other).trans (h.frame.others other hother)

theorem guarantees_mayRaise {pre : JobFiles → Prop} :
    Guarantees pre mayRaise fun c t => c ≠ .cancelled ∧ pre t := by
  apply guarantees_call
  rintro s c t hpre ⟨hc, rfl⟩
  exact ⟨hc, hpre⟩

theorem guarantees_unsaved {program : Job} {pre : JobFiles → Prop}
    {mid : Completion → JobFiles → Prop} (hprogram : Guarantees pre program mid) :
    Guarantees pre (unsaved take program) fun c t =>
      (c = .returned ∧ mid c t) ∨
        (c ≠ .returned ∧ ∃ u, mid c u ∧ t = u.note (.unsaved take)) := by
  apply guarantees_call
  rintro s c t hpre ⟨u, hends, rfl⟩
  have hmid := hprogram s c u hpre hends
  by_cases hc : c = .returned
  · simp only [if_pos hc]
    exact .inl ⟨hc, hmid⟩
  · simp only [if_neg hc]
    exact .inr ⟨hc, u, hmid, rfl⟩

theorem guarantees_creates (kind : TakeFile) :
    Guarantees (Stands start take handed view) (creates (.ofTake kind take)) fun c t =>
      Stands start take handed (if c = .returned then view.put true kind else view) t := by
  apply guarantees_call
  rintro s c t hpre (⟨rfl, rfl⟩ | ⟨rfl, rfl⟩)
  · exact hpre
  · exact hpre.put kind true

theorem guarantees_unsaved_creates (kind : TakeFile) :
    Guarantees (Stands start take handed view) (unsaved take (creates (.ofTake kind take)))
      fun c t => Stands start take handed
        (if c = .returned then view.put true kind else { view with unsaved := true }) t := by
  refine (guarantees_unsaved (guarantees_creates kind)).mono ?_
  rintro c t (⟨rfl, ht⟩ | ⟨hc, u, hu, rfl⟩)
  · exact ht
  · rw [if_neg hc] at hu ⊢
    exact hu.noteUnsaved

theorem guarantees_unsaved_mayRaise :
    Guarantees (Stands start take handed view) (unsaved take mayRaise) fun c =>
      Stands start take handed (if c = .returned then view else { view with unsaved := true }) := by
  refine (guarantees_unsaved guarantees_mayRaise).mono ?_
  rintro c t (⟨rfl, -, ht⟩ | ⟨hc, u, ⟨-, hu⟩, rfl⟩)
  · exact ht
  · rw [if_neg hc]
    exact hu.noteUnsaved

theorem guarantees_cleanupOrphanedFiles :
    Guarantees (Stands start take handed view)
      (removes [.ofTake .mp3 take, .ofTake .wav take, .ofTake .rawWav take]) fun c t =>
        c = .returned ∧
          Stands start take handed { view with mp3 := false, wav := false, rawWav := false } t := by
  apply guarantees_call
  rintro s c t hpre ⟨rfl, rfl⟩
  exact ⟨rfl, ((hpre.put .mp3 false).put .wav false).put .rawWav false⟩

/-- What is written of a take before its row. -/
def written : TakeView := { fresh with fetched := true, rawWav := true, wav := true, mp3 := true }

/-- The take is settled once the fetched music is gone. -/
def Saved (start : JobFiles) (take : Nat) (handed : Bool) (s : JobFiles) : Prop :=
  ∃ view, Settled (view.put false .fetched) ∧ Stands start take handed view s

theorem guarantees_persistGenerationRow :
    Guarantees (Stands start take handed written) (persistGenerationRow take) fun _ =>
      Saved start take handed := by
  have hunsaved : Settled (TakeView.put { written with unsaved := true } false .fetched) := by
    decide
  have hcommitted : Settled (TakeView.put { written with row := true } false .fetched) := by
    decide
  have hcleaned : Settled (TakeView.put
      { written with mp3 := false, wav := false, rawWav := false } false .fetched) := by
    decide
  have hcleanup : Guarantees (Stands start take handed written)
      (removes [.ofTake .mp3 take, .ofTake .wav take, .ofTake .rawWav take]) fun c t =>
        c = .returned ∧ Saved start take handed t := by
    refine guarantees_cleanupOrphanedFiles.mono ?_
    rintro c t ⟨hc, ht⟩
    exact ⟨hc, _, hcleaned, ht⟩
  unfold persistGenerationRow
  refine guarantees_seq guarantees_unsaved_mayRaise ?_ ?_
  · refine guarantees_tryExcept (?_ : Guarantees _ _ fun c t =>
      (c = .raised ∧ Stands start take handed written t) ∨
        (c ≠ .raised ∧ Saved start take handed t)) ?_ ?_
    · refine guarantees_seq (?_ : Guarantees _ _ fun c t =>
        c ≠ .cancelled ∧ Stands start take handed written t) ?_ ?_
      · apply guarantees_call
        rintro s c t hs (⟨rfl, rfl⟩ | ⟨rfl, answer, rfl⟩)
        · exact ⟨by simp, hs⟩
        · exact ⟨by simp, hs.of_same (fun _ => rfl) rfl hs.handed⟩
      · apply guarantees_branch
        · refine guarantees_seq (?_ : Guarantees _ _ fun c t =>
            c ≠ .cancelled ∧ Stands start take handed written t) ?_ ?_
          · refine guarantees_mayRaise.mono ?_
            rintro c t ⟨hc, ⟨-, ht⟩, -⟩
            exact ⟨hc, ht⟩
          · apply guarantees_call
            rintro s c t ⟨-, hs⟩ (⟨rfl, rfl⟩ | ⟨rfl, rfl⟩)
            · exact .inl ⟨rfl, hs⟩
            · exact .inr ⟨by simp, _, hcommitted, hs.commit⟩
          · rintro c t hc ⟨hcancelled, ht⟩
            cases c with
            | returned => exact absurd rfl hc
            | raised => exact .inl ⟨rfl, ht⟩
            | cancelled => exact absurd rfl hcancelled
        · rintro s c t ⟨⟨-, hs⟩, -⟩ hends
          obtain ⟨rfl, ht⟩ := hcleanup s c t hs hends
          exact .inr ⟨by simp, ht⟩
      · rintro c t hc ⟨hcancelled, ht⟩
        cases c with
        | returned => exact absurd rfl hc
        | raised => exact .inl ⟨rfl, ht⟩
        | cancelled => exact absurd rfl hcancelled
    · rintro c t hcaught (⟨rfl, -⟩ | ⟨-, ht⟩)
      · simp at hcaught
      · exact ht
    · intro c hcaught s c' t hs hends
      obtain rfl : c = .raised := by simpa using hcaught
      rcases hs with ⟨-, hs⟩ | ⟨hraised, -⟩
      · exact (hcleanup s c' t hs hends).2
      · exact absurd rfl hraised
  · rintro c t hc ht
    rw [if_neg hc] at ht
    exact ⟨_, hunsaved, ht⟩

theorem guarantees_postProcessGeneration :
    Guarantees (Stands start take handed { fresh with fetched := true })
      (postProcessGeneration take) fun _ t => ∃ view, Settled view ∧
        Stands start take handed view t := by
  unfold postProcessGeneration
  refine guarantees_tryFinally (?_ : Guarantees _ _ fun _ => Saved start take handed) ?_
  · refine guarantees_seq guarantees_mayRaise ?_ ?_
    · refine guarantees_seq (?_ : Guarantees _ _ fun c => Stands start take handed
        (if c = .returned then { fresh with fetched := true, rawWav := true }
          else { fresh with fetched := true })) ?_ ?_
      · rintro s c t ⟨-, hs⟩ hends
        exact guarantees_creates .rawWav s c t hs hends
      · refine guarantees_seq guarantees_unsaved_mayRaise ?_ ?_
        · refine guarantees_seq (guarantees_unsaved_creates .wav) ?_ ?_
          · refine guarantees_seq (guarantees_unsaved_creates .mp3) ?_ ?_
            · exact guarantees_persistGenerationRow
            · intro c t hc ht
              rw [if_neg hc] at ht
              exact ⟨_, by decide, ht⟩
          · intro c t hc ht
            rw [if_neg hc] at ht
            exact ⟨_, by decide, ht⟩
        · intro c t hc ht
          rw [if_neg hc] at ht
          exact ⟨_, by decide, ht⟩
      · intro c t hc ht
        rw [if_neg hc] at ht
        exact ⟨_, by decide, ht⟩
    · rintro c t hc ⟨-, ht⟩
      exact ⟨_, by decide, ht⟩
  · apply guarantees_call
    rintro s c t ⟨view, hsettled, hs⟩ ⟨-, rfl⟩
    exact ⟨_, hsettled, hs.put .fetched false⟩

/-- A fetched take is settled when its variant ends, unless its thread never starts. -/
theorem guarantees_toThread :
    Guarantees (Stands start take handed { fresh with fetched := true })
      (toThread take (postProcessGeneration take)) fun _ t =>
        ∃ view, Settled view ∧ Stands start take handed view t := by
  apply guarantees_call
  rintro s c t hs (⟨rfl, rfl⟩ | ⟨c', hends, -⟩)
  · exact ⟨_, by decide, hs.noteUnstarted⟩
  · exact guarantees_postProcessGeneration s c' t hs hends

theorem guarantees_jobIsTerminal :
    Guarantees (Stands start take handed view) GenerationFiles.jobIsTerminal fun _ =>
      Stands start take handed view := by
  apply guarantees_call
  rintro s c t hs (⟨-, rfl⟩ | ⟨-, answer, rfl⟩)
  · exact hs
  · exact hs.of_same (fun _ => rfl) rfl hs.handed

theorem guarantees_setHanded (handed' : Bool) :
    Guarantees (Stands start take handed view) (setHanded handed') fun c t =>
      c = .returned ∧ Stands start take handed' view t := by
  apply guarantees_call
  rintro s c t hs ⟨rfl, rfl⟩
  exact ⟨rfl, hs.of_same (fun _ => rfl) rfl rfl⟩

/-- The guarded block of a variant: what it does not hand to a thread it discards. -/
theorem guarantees_handing :
    Guarantees (Stands start take false { fresh with fetched := true })
      (.tryFinally
        (.seq GenerationFiles.jobIsTerminal <| .branch (fun s => s.terminal) skip <|
          .seq mayRaise <| .seq (setHanded true) <|
            toThread take (postProcessGeneration take))
        (.branch (fun s => s.handedToPostProcess) skip (removes [.ofTake .fetched take])))
      fun _ t => ∃ handed view, Settled view ∧ Stands start take handed view t := by
  refine guarantees_tryFinally (?_ : Guarantees _ _ fun _ t =>
    Stands start take false { fresh with fetched := true } t ∨
      ∃ view, Settled view ∧ Stands start take true view t) ?_
  · refine guarantees_seq guarantees_jobIsTerminal ?_ ?_
    · apply guarantees_branch
      · exact guarantees_skip fun s hs => .inl hs.1
      · refine guarantees_seq guarantees_mayRaise ?_ ?_
        · refine guarantees_seq (?_ : Guarantees _ _ fun c t =>
            c = .returned ∧ Stands start take true { fresh with fetched := true } t) ?_ ?_
          · rintro s c t ⟨-, hs, -⟩ hends
            exact guarantees_setHanded true s c t hs hends
          · rintro s c t ⟨-, hs⟩ hends
            exact .inr (guarantees_toThread s c t hs hends)
          · rintro c t hc ⟨hreturned, -⟩
            exact absurd hreturned hc
        · rintro c t - ⟨-, ht, -⟩
          exact .inl ht
    · intro c t _ ht
      exact .inl ht
  · apply guarantees_branch
    · apply guarantees_skip
      rintro s ⟨hs | ⟨view, hsettled, hs⟩, hhanded⟩
      · rw [hs.handed] at hhanded
        cases hhanded
      · exact ⟨true, view, hsettled, hs⟩
    · apply guarantees_call
      rintro s c t ⟨hs | ⟨view, hsettled, hs⟩, hhanded⟩ ⟨rfl, rfl⟩
      · exact ⟨false, fresh, settled_fresh, hs.put .fetched false⟩
      · rw [hs.handed] at hhanded
        cases hhanded

theorem guarantees_generateVariant :
    Guarantees (Stands start take handed fresh) (generateVariant take) fun _ t =>
      ∃ handed view, Settled view ∧ Stands start take handed view t := by
  unfold generateVariant
  refine guarantees_seq guarantees_mayRaise ?_ ?_
  · refine guarantees_recover (?_ : Guarantees _ _ fun _ t =>
      ∃ handed view, Settled view ∧ Stands start take handed view t) ?_ ?_
    · refine guarantees_seq (?_ : Guarantees _ _ fun c => Stands start take handed
        (if c = .returned then { fresh with fetched := true } else fresh)) ?_ ?_
      · apply guarantees_call
        rintro s c t ⟨-, hs⟩ (⟨hc, rfl⟩ | ⟨rfl, rfl⟩)
        · rw [if_neg hc]
          exact hs
        · exact hs.put .fetched true
      · refine guarantees_seq (guarantees_setHanded false) ?_ ?_
        · rintro s c t ⟨-, hs⟩ hends
          exact guarantees_handing s c t hs hends
        · rintro c t hc ⟨hreturned, -⟩
          exact absurd hreturned hc
      · intro c t hc ht
        rw [if_neg hc] at ht
        exact ⟨handed, fresh, settled_fresh, ht⟩
    · intro c t ht _
      exact ht
    · exact guarantees_skip fun s hs => hs
  · rintro c t - ⟨-, ht⟩
    exact ⟨handed, fresh, settled_fresh, ht⟩

end Take

section Job

variable {built : Bool} {view : JobView} {s : JobFiles}

/-- The job is at a take of its loop. -/
structure AtTake (view : JobView) (take : Nat) (s : JobFiles) : Prop where
  settled : ∀ other, Settled (takeOf s other)
  fresh : ∀ other, take ≤ other → takeOf s other = fresh
  job : jobOf s = view

theorem AtTake.next {take : Nat} {t : JobFiles} {handed : Bool} {ofTake : TakeView}
    (h : AtTake view take s) (hsettled : Settled ofTake) (ht : Stands s take handed ofTake t) :
    AtTake view (take + 1) t := by
  refine ⟨?_, ?_, ht.frame.job.trans h.job⟩
  · intro other
    by_cases hother : other = take
    · subst hother
      exact ht.view.symm ▸ hsettled
    · rw [ht.frame.others other hother]
      exact h.settled other
  · intro other hother
    rw [ht.frame.others other (by omega)]
    exact h.fresh other (by omega)

theorem AtTake.settledAt {take : Nat} (h : AtTake view take s) :
    (∀ other, Settled (takeOf s other)) ∧ jobOf s = view :=
  ⟨h.settled, h.job⟩

theorem guarantees_generateVariants (left take : Nat) :
    Guarantees (AtTake view take) (generateVariants take left) fun _ t =>
      (∀ other, Settled (takeOf t other)) ∧ jobOf t = view := by
  induction left generalizing take with
  | zero =>
      refine guarantees_mayRaise.mono ?_
      rintro c t ⟨-, ht⟩
      exact ht.settledAt
  | succ left ih =>
      rw [generateVariants]
      refine guarantees_seq (?_ : Guarantees _ _ fun _ => AtTake view take) ?_ ?_
      · apply guarantees_call
        rintro s c t hs (⟨-, rfl⟩ | ⟨-, answer, rfl⟩)
        · exact hs
        · exact ⟨hs.settled, hs.fresh, hs.job⟩
      · apply guarantees_branch
        · exact guarantees_skip fun s hs => hs.1.settledAt
        · refine guarantees_seq (?_ : Guarantees _ _ fun _ => AtTake view (take + 1)) ?_ ?_
          · rintro s c t ⟨hs, -⟩ hends
            have hstands : Stands s take s.handedToPostProcess fresh s :=
              ⟨.refl take s, rfl, hs.fresh take (Nat.le_refl take)⟩
            obtain ⟨handed, ofTake, hsettled, ht⟩ := guarantees_generateVariant s c t hstands hends
            exact hs.next hsettled ht
          · refine guarantees_seq (?_ : Guarantees _ _ fun _ => AtTake view (take + 1)) (ih _) ?_
            · apply guarantees_call
              rintro s c t hs rfl
              exact hs
            · intro c t _ ht
              exact ht.settledAt
          · intro c t _ ht
            exact ht.settledAt
      · intro c t _ ht
        exact ht.settledAt

/-- The job is being set up and stands with this view of its copies. -/
structure Setup (built : Bool) (view : JobView) (s : JobFiles) : Prop where
  fresh : ∀ take, takeOf s take = fresh
  job : jobOf s = view
  built : s.contextBuilt = built

/-- The setup has ended before the guarded block. -/
structure Left (built : Bool) (s : JobFiles) : Prop where
  fresh : ∀ take, takeOf s take = fresh
  copies : CopiesSettled (jobOf s)
  built : s.contextBuilt = built

/-- Nothing has been copied. -/
def uncopied (rawSource : Bool) : JobView := ⟨false, false, false, false, rawSource, []⟩

/-- What a task has copied once its setup is through. -/
def copied (task : Task) (rawSource : Bool) : JobView :=
  { uncopied rawSource with
    srcCopy := decide (task ≠ .generate)
    rawCopy := decide (task = .repaint) && rawSource }

/-- The source of the task is copied, if it is to be, and no mishap has come yet. -/
structure Underway (task : Task) (view : JobView) : Prop where
  srcCopy : view.srcCopy = decide (task ≠ .generate)
  rawCopy : task = .generate → view.rawCopy = false
  exposed : view.exposed = false
  unlisted : view.unlisted = false

theorem underway_copied (task : Task) (rawSource : Bool) :
    Underway task (copied task rawSource) where
  srcCopy := rfl
  rawCopy := by
    rintro rfl
    rfl
  exposed := rfl
  unlisted := rfl

theorem Left.accounted (h : Left built s) : Accounted s :=
  ⟨fun take => (h.fresh take).symm ▸ settled_fresh, h.copies⟩

theorem Setup.left (h : Setup built view s) (hview : CopiesSettled view) : Left built s :=
  ⟨h.fresh, h.job.symm ▸ hview, h.built⟩

theorem Setup.put_srcCopy (h : Setup built view s) (present : Bool) :
    Setup built { view with srcCopy := present } (s.put .srcCopy present) := by
  obtain ⟨hfresh, rfl, hbuilt⟩ := h
  refine ⟨fun take => ?_, ?_, hbuilt⟩
  · rw [← hfresh take]
    simp [takeOf, JobFiles.put]
  · simp [jobOf, JobFiles.put]

theorem Setup.put_rawCopy (h : Setup built view s) (present : Bool) :
    Setup built { view with rawCopy := present } (s.put .rawCopy present) := by
  obtain ⟨hfresh, rfl, hbuilt⟩ := h
  refine ⟨fun take => ?_, ?_, hbuilt⟩
  · rw [← hfresh take]
    simp [takeOf, JobFiles.put]
  · simp [jobOf, JobFiles.put]

theorem Setup.expose {task : Task} (h : Setup built view s) (hview : Underway task view) :
    Left built (s.expose task) := by
  obtain ⟨hfresh, rfl, hbuilt⟩ := h
  by_cases htask : task = .generate
  · subst htask
    rw [JobFiles.expose, if_pos rfl]
    refine ⟨hfresh, ?_, hbuilt⟩
    rw [CopiesSettled, hview.srcCopy, hview.rawCopy rfl, hview.exposed, hview.unlisted]
    rfl
  · rw [JobFiles.expose, if_neg htask]
    refine ⟨fun take => ?_, ?_, hbuilt⟩
    · rw [← hfresh take]
      simp [takeOf, JobFiles.note]
    · have hsrc : s.has .srcCopy = true := hview.srcCopy.trans (decide_eq_true htask)
      simp [CopiesSettled, jobOf, JobFiles.note, hsrc]

/-- What the setup has come to by the end of a call, in `after` where the call returned. -/
def Goes (built : Bool) (task : Task) (after : JobView) (c : Completion) (s : JobFiles) : Prop :=
  ∃ view, Underway task view ∧ Setup built view s ∧ (c = .returned → view = after)

theorem guarantees_exposing {task : Task} {program : Job} {pre : JobFiles → Prop}
    {after : JobView} (hprogram : Guarantees pre program (Goes built task after)) :
    Guarantees pre (exposing task program) fun c t =>
      (c = .returned ∧ Setup built after t) ∨ (c ≠ .returned ∧ Left built t) := by
  apply guarantees_call
  rintro s c t hpre ⟨u, hends, rfl⟩
  obtain ⟨view, hview, hu, hafter⟩ := hprogram s c u hpre hends
  by_cases hc : c = .returned
  · simp only [if_pos hc]
    exact .inl ⟨hc, hafter hc ▸ hu⟩
  · simp only [if_neg hc]
    exact .inr ⟨hc, hu.expose hview⟩

theorem guarantees_mayRaise_goes {task : Task} (hview : Underway task view) :
    Guarantees (Setup built view) mayRaise (Goes built task view) := by
  apply guarantees_call
  rintro s c t hs ⟨-, rfl⟩
  exact ⟨view, hview, hs, fun _ => rfl⟩

/-- The copy of a source, where what comes after it ends with the copies of the task. -/
theorem guarantees_copySource {task : Task} (htask : task ≠ .generate) {rawSource : Bool}
    {rest : Job}
    (hrest : Guarantees (Setup false { uncopied rawSource with srcCopy := true }) rest
      (Goes false task (copied task rawSource))) :
    Guarantees (Setup false (uncopied rawSource)) (copySource task rest) fun c t =>
      (c = .returned ∧ Setup false (copied task rawSource) t) ∨ (c ≠ .returned ∧ Left false t) := by
  have hview : Underway task { uncopied rawSource with srcCopy := true } :=
    ⟨(decide_eq_true htask).symm, fun _ => rfl, rfl, rfl⟩
  unfold copySource
  refine guarantees_seq (?_ : Guarantees _ _ fun c => Setup false
    (if c = .returned then { uncopied rawSource with srcCopy := true } else uncopied rawSource))
    ?_ ?_
  · apply guarantees_call
    rintro s c t hs (⟨rfl, rfl⟩ | ⟨rfl, rfl⟩)
    · exact hs
    · exact hs.put_srcCopy true
  · apply guarantees_exposing
    refine guarantees_seq (guarantees_mayRaise_goes hview) ?_ ?_
    · rintro s c t ⟨view, -, hs, hafter⟩ hends
      obtain rfl := hafter rfl
      exact hrest s c t hs hends
    · rintro c t hc ⟨view, hunder, ht, -⟩
      exact ⟨view, hunder, ht, fun h => absurd h hc⟩
  · intro c t hc ht
    rw [if_neg hc] at ht
    exact .inr ⟨hc, ht.left rfl⟩

theorem guarantees_applyGenerationTaskOverrides (task : Task) :
    Guarantees (fun s => ∃ rawSource, Setup false (uncopied rawSource) s)
      (applyGenerationTaskOverrides task) fun c t =>
        (c = .returned ∧ ∃ rawSource, Setup false (copied task rawSource) t) ∨
          (c ≠ .returned ∧ Left false t) := by
  cases task with
  | generate => exact guarantees_skip fun s hs => .inl ⟨rfl, hs⟩
  | cover =>
      rintro s c t ⟨rawSource, hs⟩ hends
      have hskip : Guarantees (Setup false { uncopied rawSource with srcCopy := true }) skip
          (Goes false .cover (copied .cover rawSource)) :=
        guarantees_skip fun s hs => ⟨_, underway_copied .cover rawSource, hs, fun _ => rfl⟩
      rcases guarantees_copySource (by decide) hskip s c t hs hends with ⟨hc, ht⟩ | hleft
      · exact .inl ⟨hc, rawSource, ht⟩
      · exact .inr hleft
  | repaint =>
      have huncopied : ∀ c : Completion, c ≠ .returned →
          ∀ t, (∃ rawSource, Setup false (uncopied rawSource) t) →
            (c = .returned ∧ ∃ rawSource, Setup false (copied .repaint rawSource) t) ∨
              (c ≠ .returned ∧ Left false t) := by
        rintro c hc t ⟨rawSource, ht⟩
        exact .inr ⟨hc, ht.left rfl⟩
      refine guarantees_seq (?_ : Guarantees _ _ fun _ t =>
        ∃ rawSource, Setup false (uncopied rawSource) t) ?_ (fun c t hc ht => huncopied c hc t ht)
      · apply guarantees_call
        rintro s c t ⟨rawSource, hs⟩ (⟨-, rfl⟩ | ⟨-, answer, rfl⟩)
        · exact ⟨rawSource, hs⟩
        · refine ⟨answer, hs.fresh, ?_, hs.built⟩
          exact congrArg (fun view : JobView => { view with rawSource := answer }) hs.job
      · refine guarantees_seq guarantees_mayRaise ?_ fun c t hc ht => huncopied c hc t ht.2
        rintro s c t ⟨-, rawSource, hs⟩ hends
        have hrest : Guarantees (Setup false { uncopied rawSource with srcCopy := true })
            (.branch (fun s => s.rawSource) (copyToSharedTmp .rawCopy) skip)
            (Goes false .repaint (copied .repaint rawSource)) := by
          apply guarantees_branch
          · refine guarantees_seq (?_ : Guarantees _ _ fun c t => rawSource = true ∧ Setup false
              { uncopied rawSource with
                srcCopy := true, rawCopy := decide (c = .returned) } t) ?_ ?_
            · apply guarantees_call
              rintro s c t ⟨hs, hraw⟩ hcall
              have hrawSource : rawSource = true := by
                have hjob := congrArg JobView.rawSource hs.job
                exact hjob.symm.trans hraw
              rcases hcall with ⟨rfl, rfl⟩ | ⟨rfl, rfl⟩
              · exact ⟨hrawSource, hs⟩
              · exact ⟨hrawSource, hs.put_rawCopy true⟩
            · rintro s c t ⟨rfl, hs⟩ hends
              exact guarantees_mayRaise_goes (underway_copied .repaint true) s c t hs hends
            · rintro c t hc ⟨rfl, ht⟩
              exact ⟨_, ⟨rfl, nofun, rfl, rfl⟩, ht, fun h => absurd h hc⟩
          · apply guarantees_skip
            rintro s ⟨hs, hraw⟩
            have hjob := congrArg JobView.rawSource hs.job
            obtain rfl : rawSource = false := hjob.symm.trans hraw
            exact ⟨_, underway_copied .repaint false, hs, fun _ => rfl⟩
        rcases guarantees_copySource (by decide) hrest s c t hs hends with ⟨hc, ht⟩ | hleft
        · exact .inl ⟨hc, rawSource, ht⟩
        · exact .inr hleft

theorem guarantees_buildGenerationJobContext (task : Task) :
    Guarantees (fun s => ∃ rawSource, Setup false (uncopied rawSource) s)
      (buildGenerationJobContext task) fun c t =>
        (c = .returned ∧ ∃ rawSource, Setup true (copied task rawSource) t) ∨ Left false t := by
  unfold buildGenerationJobContext
  refine guarantees_recover (?_ : Guarantees _ _ fun c t =>
    (c = .returned ∧ ∃ rawSource, Setup true (copied task rawSource) t) ∨
      (c ≠ .returned ∧ Left false t)) ?_ ?_
  · refine guarantees_seq (?_ : Guarantees _ _ fun _ t =>
      ∃ rawSource, Setup false (uncopied rawSource) t) ?_ ?_
    · apply guarantees_call
      rintro s c t hs rfl
      exact hs
    · refine guarantees_seq (guarantees_applyGenerationTaskOverrides task) ?_ ?_
      · apply guarantees_call
        rintro s c t (⟨-, rawSource, hs⟩ | ⟨hc, -⟩) ⟨rfl, rfl⟩
        · exact .inl ⟨rfl, rawSource, hs.fresh, hs.job, rfl⟩
        · exact absurd rfl hc
      · rintro c t hc (⟨hreturned, -⟩ | ht)
        · exact absurd hreturned hc
        · exact .inr ht
    · rintro c t hc ⟨rawSource, ht⟩
      exact .inr ⟨hc, ht.left rfl⟩
  · rintro c t (ht | ⟨-, ht⟩) -
    · exact .inl ht
    · exact .inr ht
  · apply guarantees_call
    rintro s c t (⟨hc, -⟩ | ⟨-, hs⟩) ⟨-, rfl⟩
    · cases hc
    · exact .inr hs

theorem jobOf_remove (s : JobFiles) (files : List JobFile) :
    jobOf (s.remove files) =
      { jobOf s with
        srcCopy := (jobOf s).srcCopy && !files.contains .srcCopy
        rawCopy := (jobOf s).rawCopy && !files.contains .rawCopy } := by
  induction files generalizing s with
  | nil => simp [JobFiles.remove]
  | cons file files ih =>
      rw [show s.remove (file :: files) = (s.put file false).remove files from rfl, ih]
      by_cases hsrc : file = .srcCopy
      · subst hsrc
        simp [jobOf, JobFiles.put]
      · by_cases hraw : file = .rawCopy
        · subst hraw
          simp [jobOf, JobFiles.put]
        · simp [jobOf, JobFiles.put, Ne.symm hsrc, Ne.symm hraw]

theorem takeOf_remove {files : List JobFile}
    (hfiles : ∀ file ∈ files, file = .srcCopy ∨ file = .rawCopy) (s : JobFiles) (take : Nat) :
    takeOf (s.remove files) take = takeOf s take := by
  induction files generalizing s with
  | nil => rfl
  | cons file files ih =>
      rw [show s.remove (file :: files) = (s.put file false).remove files from rfl,
        ih fun other hother => hfiles other (List.mem_cons_of_mem _ hother)]
      rcases hfiles file List.mem_cons_self with rfl | rfl
      · simp [takeOf, JobFiles.put]
      · simp [takeOf, JobFiles.put]

/-- The copies of the task, with those that the job will remove. -/
def guarded (store : AudioStore) (task : Task) (rawSource : Bool) : JobView :=
  { copied task rawSource with
    unlisted := !(candidates task rawSource).all store.lists
    tmpCopies := temporaryGenerationAudioPaths store task rawSource }

theorem copy_of_mem_temporaryGenerationAudioPaths {store : AudioStore} {task : Task}
    {rawSource : Bool} {file : JobFile}
    (hfile : file ∈ temporaryGenerationAudioPaths store task rawSource) :
    file = .srcCopy ∨ file = .rawCopy := by
  have hcandidate := (List.mem_filter.mp hfile).1
  cases task with
  | generate => cases hcandidate
  | cover => exact .inl (List.mem_singleton.mp hcandidate)
  | repaint =>
      cases rawSource with
      | false => exact .inl (List.mem_singleton.mp hcandidate)
      | true => simpa [candidates] using hcandidate

theorem settled_guarded (store : AudioStore) (task : Task) (rawSource : Bool) :
    CopiesSettled
      { guarded store task rawSource with
        srcCopy := (guarded store task rawSource).srcCopy &&
          !(guarded store task rawSource).tmpCopies.contains .srcCopy
        rawCopy := (guarded store task rawSource).rawCopy &&
          !(guarded store task rawSource).tmpCopies.contains .rawCopy } := by
  cases task with
  | generate => rfl
  | cover => cases hsrc : store.lists .srcCopy <;>
      simp [CopiesSettled, guarded, copied, uncopied, candidates, temporaryGenerationAudioPaths,
        hsrc]
  | repaint =>
      cases hsrc : store.lists .srcCopy <;> cases hraw : store.lists .rawCopy <;>
        cases rawSource <;> simp [CopiesSettled, guarded, copied, uncopied, candidates,
          temporaryGenerationAudioPaths, hsrc, hraw]

theorem jobOf_note_unlisted (s : JobFiles) :
    jobOf (s.note .unlisted) = { jobOf s with unlisted := true } := by
  simp [jobOf, JobFiles.note]

theorem guarantees_setTmpCopies (store : AudioStore) (task : Task) (rawSource : Bool) :
    Guarantees (Setup true (copied task rawSource)) (setTmpCopies store task) fun c t =>
      c = .returned ∧ AtTake (guarded store task rawSource) 0 t := by
  apply guarantees_call
  rintro s c t hs ⟨rfl, rfl⟩
  obtain rfl : s.rawSource = rawSource := congrArg JobView.rawSource hs.job
  have hlisted : AtTake { copied task s.rawSource with
      tmpCopies := temporaryGenerationAudioPaths store task s.rawSource } 0
      { s with tmpCopies := temporaryGenerationAudioPaths store task s.rawSource } := by
    refine ⟨fun other => ?_, fun other _ => hs.fresh other, ?_⟩
    · exact (hs.fresh other).symm ▸ settled_fresh
    · rw [← hs.job]
      rfl
  refine ⟨rfl, ?_⟩
  rw [JobFiles.listCopies]
  split
  · rename_i hall
    rw [guarded, hall]
    exact hlisted
  · rename_i hsome
    rw [guarded, Bool.eq_false_iff.mpr hsome]
    refine ⟨fun other => ?_, fun other hother => ?_, ?_⟩
    · simpa [takeOf, JobFiles.note] using hlisted.settled other
    · rw [← hlisted.fresh other hother]
      simp [takeOf, JobFiles.note]
    · rw [jobOf_note_unlisted, hlisted.job]
      rfl

theorem guarantees_generateInContext (store : AudioStore) (task : Task) (count : Nat)
    (rawSource : Bool) :
    Guarantees (Setup true (copied task rawSource)) (generateInContext store task count) fun _ =>
      Accounted := by
  have hview := underway_copied task rawSource
  unfold generateInContext
  refine guarantees_seq (guarantees_exposing (guarantees_mayRaise_goes hview)) ?_ ?_
  · refine guarantees_seq (guarantees_exposing
      (?_ : Guarantees _ _ (Goes true task (copied task rawSource)))) ?_ ?_
    · apply guarantees_call
      rintro s c t (⟨-, hs⟩ | ⟨hc, -⟩) (⟨-, rfl⟩ | ⟨-, answer, rfl⟩)
      · exact ⟨_, hview, hs, fun _ => rfl⟩
      · exact ⟨_, hview, ⟨hs.fresh, hs.job, hs.built⟩, fun _ => rfl⟩
      · exact absurd rfl hc
      · exact absurd rfl hc
    · apply guarantees_branch
      · apply guarantees_call
        rintro s c t ⟨⟨-, hs⟩ | ⟨hc, -⟩, -⟩ ⟨-, rfl⟩
        · exact (hs.expose hview).accounted
        · exact absurd rfl hc
      · refine guarantees_seq (?_ : Guarantees _ _ fun c t =>
          c = .returned ∧ AtTake (guarded store task rawSource) 0 t) ?_ ?_
        · rintro s c t ⟨⟨-, hs⟩ | ⟨hc, -⟩, -⟩ hends
          · exact guarantees_setTmpCopies store task rawSource s c t hs hends
          · exact absurd rfl hc
        · refine guarantees_tryFinally (?_ : Guarantees _ _ fun _ t =>
            (∀ other, Settled (takeOf t other)) ∧ jobOf t = guarded store task rawSource) ?_
          · rintro s c t ⟨-, hs⟩ hends
            exact guarantees_generateVariants count 0 s c t hs hends
          · apply guarantees_call
            rintro s c t ⟨hsettled, hjob⟩ ⟨-, rfl⟩
            have htmpCopies : s.tmpCopies = temporaryGenerationAudioPaths store task rawSource :=
              congrArg JobView.tmpCopies hjob
            refine ⟨fun take => ?_, ?_⟩
            · rw [takeOf_remove fun file hfile =>
                copy_of_mem_temporaryGenerationAudioPaths (htmpCopies ▸ hfile)]
              exact hsettled take
            · rw [jobOf_remove, hjob, htmpCopies]
              exact settled_guarded store task rawSource
        · rintro c t hc ⟨hreturned, -⟩
          exact absurd hreturned hc
    · rintro c t hc (⟨hreturned, -⟩ | ⟨-, ht⟩)
      · exact absurd hreturned hc
      · exact ht.accounted
  · rintro c t hc (⟨hreturned, -⟩ | ⟨-, ht⟩)
    · exact absurd hreturned hc
    · exact ht.accounted

theorem guarantees_runGenerationJob (store : AudioStore) (task : Task) (count : Nat) :
    Guarantees (fun s => ∃ rawSource, Setup false (uncopied rawSource) s)
      (runGenerationJob store task count) fun _ => Accounted := by
  have hmayRaise : Guarantees Accounted mayRaise fun _ => Accounted := by
    refine guarantees_mayRaise.mono ?_
    rintro c t ⟨-, ht⟩
    exact ht
  have huncopied : ∀ s, (∃ rawSource, Setup false (uncopied rawSource) s) → Accounted s := by
    rintro s ⟨rawSource, hs⟩
    exact (hs.left rfl).accounted
  unfold runGenerationJob
  refine guarantees_tryFinally (?_ : Guarantees _ _ fun _ => Accounted) ?_
  · refine guarantees_tryExcept (?_ : Guarantees _ _ fun _ => Accounted) ?_ ?_
    · refine guarantees_recover (?_ : Guarantees _ _ fun _ => Accounted) ?_ hmayRaise
      · refine guarantees_seq (?_ : Guarantees _ _ fun _ t =>
          ∃ rawSource, Setup false (uncopied rawSource) t) ?_ ?_
        · apply guarantees_call
          rintro s c t ⟨rawSource, hs⟩ ⟨answer, rfl⟩
          exact ⟨rawSource, hs.fresh, hs.job, hs.built⟩
        · apply guarantees_branch
          · refine guarantees_seq (?_ : Guarantees _ _ fun c t =>
              (c = .returned ∧ ∃ rawSource, Setup true (copied task rawSource) t) ∨ Left false t)
              ?_ ?_
            · intro s c t hs hends
              exact guarantees_buildGenerationJobContext task s c t hs.1 hends
            · apply guarantees_branch
              · rintro s c t ⟨⟨-, rawSource, hs⟩ | hs, hbuilt⟩ hends
                · exact guarantees_generateInContext store task count rawSource s c t hs hends
                · rw [hs.built] at hbuilt
                  cases hbuilt
              · apply guarantees_skip
                rintro s ⟨⟨-, rawSource, hs⟩ | hs, hbuilt⟩
                · rw [hs.built] at hbuilt
                  cases hbuilt
                · exact hs.accounted
            · rintro c t hc (⟨hreturned, -⟩ | ht)
              · exact absurd hreturned hc
              · exact ht.accounted
          · exact guarantees_skip fun s hs => huncopied s hs.1
        · intro c t _ ht
          exact huncopied t ht
      · intro c t ht _
        exact ht
    · intro c t _ ht
      exact ht
    · intro c _
      exact hmayRaise
  · apply guarantees_call
    rintro s c t hs rfl
    exact hs

end Job

/-- When the job and its threads have ended, no stray file is left if and only if
no mishap befell it. -/
theorem strayFree_iff {store : AudioStore} {task : Task} {count : Nat} {c : Completion}
    {s : JobFiles} (hends : Ends (runGenerationJob store task count) .start c s) :
    StrayFree s ↔ s.mishaps = [] :=
  (guarantees_runGenerationJob store task count .start c s ⟨false, fun _ => rfl, rfl, rfl⟩
    hends).free_iff

/-- The state of a job that has got through its setup. -/
def setUp (s : JobFiles) : JobFiles := { s with admitted := true, contextBuilt := true }

theorem ends_runGenerationJob {store : AudioStore} {task : Task} {count : Nat} {s t : JobFiles}
    (hbuild : Ends (buildGenerationJobContext task) { JobFiles.start with admitted := true }
      .returned (setUp s))
    (hcontext : Ends (generateInContext store task count) (setUp s) .returned t) :
    Ends (runGenerationJob store task count) .start .returned t := by
  unfold runGenerationJob
  refine Ends.tryFinally (?_ : Ends _ _ .returned t) (?_ : Ends _ _ .returned t)
  · refine .passes (.call (.inl ⟨?_, by simp⟩)) rfl
    refine .seq (?_ : Ends _ _ .returned { JobFiles.start with admitted := true }) ?_
    · exact .call ⟨true, rfl⟩
    · exact .branchTrue rfl (.seq hbuild (.branchTrue rfl hcontext))
  · exact .call rfl

/-- The source of a cover is copied, and the setup is through. -/
def copiedCover : JobFiles := setUp (JobFiles.start.put .srcCopy true)

theorem ends_buildGenerationJobContext_cover :
    Ends (buildGenerationJobContext .cover) { JobFiles.start with admitted := true } .returned
      copiedCover := by
  have hcopy : Ends (copySource .cover skip) { JobFiles.start with admitted := true } .returned
      ({ JobFiles.start with admitted := true }.put .srcCopy true) :=
    .seq (.call (.inr ⟨rfl, rfl⟩))
      (.call ⟨_, .seq (.call ⟨by simp, rfl⟩) (.call ⟨rfl, rfl⟩), rfl⟩)
  exact .call (.inl ⟨.seq (.call rfl) (.seq hcopy (.call ⟨rfl, rfl⟩)), by simp⟩)

theorem ends_exposing_mayRaise (task : Task) (s : JobFiles) :
    Ends (exposing task mayRaise) s .returned s :=
  .call ⟨s, .call ⟨by simp, rfl⟩, rfl⟩

theorem ends_exposing_jobIsTerminal (task : Task) (s : JobFiles) (answer : Bool) :
    Ends (exposing task GenerationFiles.jobIsTerminal) s .returned (setTerminal s answer) :=
  .call ⟨_, .call (.inr ⟨rfl, answer, rfl⟩), rfl⟩

theorem ends_terminal_cover (store : AudioStore) :
    Ends (runGenerationJob store .cover 1) .start .returned
      ((setTerminal copiedCover true).note .exposed) :=
  ends_runGenerationJob ends_buildGenerationJobContext_cover
    (.seq (ends_exposing_mayRaise .cover _) (.seq (ends_exposing_jobIsTerminal .cover _ true)
      (.branchTrue rfl (.call ⟨rfl, rfl⟩))))

/-- An audio directory that is mounted at the root. -/
def mountedStore : AudioStore where
  audioDir := ⟨true, ["audio"], by decide⟩
  cwd := ["app"]
  copyName
    | .rawCopy => "songmaker_src_b.wav"
    | _ => "songmaker_src_a.wav"

theorem terminal_cover_leaves_copy :
    ¬ ∀ (store : AudioStore) (task : Task) (count : Nat) (c : Completion) (s : JobFiles),
      Ends (runGenerationJob store task count) .start c s → StrayFree s := by
  intro hclaim
  have hcopy := (hclaim mountedStore .cover 1 .returned _ (ends_terminal_cover _)).srcCopy
  revert hcopy
  decide

theorem ends_unsaved_mayRaise (s : JobFiles) :
    Ends (unsaved 0 mayRaise) s .returned s :=
  .call ⟨s, .call ⟨by simp, rfl⟩, rfl⟩

theorem ends_unsaved_creates (kind : TakeFile) (s : JobFiles) :
    Ends (unsaved 0 (creates (.ofTake kind 0))) s .returned (s.put (.ofTake kind 0) true) :=
  .call ⟨_, .call (.inr ⟨rfl, rfl⟩), rfl⟩

theorem ends_persistGenerationRow (s : JobFiles) :
    Ends (persistGenerationRow 0) s .returned
      (({ s with jobActive := true } : JobFiles).commitRow 0) := by
  refine .seq (ends_unsaved_mayRaise s) (.passes ?_ rfl)
  refine .seq (?_ : Ends _ _ .returned { s with jobActive := true }) (.branchTrue rfl ?_)
  · exact .call (.inr ⟨rfl, true, rfl⟩)
  · refine .seq (?_ : Ends _ _ .returned { s with jobActive := true }) ?_
    · exact .call ⟨by simp, rfl⟩
    · exact .call (.inr ⟨rfl, rfl⟩)

/-- The files of a take are written, and its row is committed. -/
def savedTake (s : JobFiles) : JobFiles :=
  ({ ((s.put (.ofTake .rawWav 0) true).put (.ofTake .wav 0) true).put (.ofTake .mp3 0) true with
    jobActive := true } : JobFiles).commitRow 0

theorem ends_postProcessGeneration (s : JobFiles) :
    Ends (postProcessGeneration 0) s .returned ((savedTake s).put (.ofTake .fetched 0) false) := by
  refine Ends.tryFinally (?_ : Ends _ _ .returned (savedTake s)) (?_ : Ends _ _ .returned _)
  · exact .seq (.call ⟨by simp, rfl⟩) (.seq (.call (.inr ⟨rfl, rfl⟩))
      (.seq (ends_unsaved_mayRaise _) (.seq (ends_unsaved_creates .wav _)
        (.seq (ends_unsaved_creates .mp3 _) (ends_persistGenerationRow _)))))
  · exact .call ⟨rfl, rfl⟩

/-- A take that was fetched, up to its thread. -/
def fetchedTake (s : JobFiles) : JobFiles :=
  { setTerminal { s.put (.ofTake .fetched 0) true with handedToPostProcess := false } false with
    handedToPostProcess := true }

theorem ends_generateVariant (s : JobFiles) :
    Ends (generateVariant 0) s .returned
      ((savedTake (fetchedTake s)).put (.ofTake .fetched 0) false) := by
  refine .seq (?_ : Ends _ _ .returned s) (.call (.inl ⟨?_, by simp⟩))
  · exact .call ⟨by simp, rfl⟩
  refine .seq (.call (.inr ⟨rfl, rfl⟩)) (.seq (.call ⟨rfl, rfl⟩) ?_)
  refine Ends.tryFinally (?_ : Ends _ _ .returned
    ((savedTake (fetchedTake s)).put (.ofTake .fetched 0) false)) (?_ : Ends _ _ .returned _)
  · refine .seq (.call (.inr ⟨rfl, false, rfl⟩)) (.branchFalse rfl ?_)
    refine .seq (?_ : Ends _ _ .returned (setTerminal
      { s.put (.ofTake .fetched 0) true with handedToPostProcess := false } false)) ?_
    · exact .call ⟨by simp, rfl⟩
    · refine .seq (?_ : Ends _ _ .returned (fetchedTake s)) ?_
      · exact .call ⟨rfl, rfl⟩
      · exact .call (.inr ⟨.returned, ends_postProcessGeneration _, .inl rfl⟩)
  · exact .branchTrue rfl (.call ⟨rfl, rfl⟩)

/-- A cover job of one take before it removes its copy. -/
def coverTake (store : AudioStore) : JobFiles :=
  (savedTake (fetchedTake (setTerminal
    ((setTerminal copiedCover false).listCopies store .cover) false))).put
      (.ofTake .fetched 0) false

def coverJob (store : AudioStore) : JobFiles :=
  (coverTake store).remove (coverTake store).tmpCopies

theorem ends_coverJob (store : AudioStore) :
    Ends (runGenerationJob store .cover 1) .start .returned (coverJob store) := by
  refine ends_runGenerationJob ends_buildGenerationJobContext_cover
    (.seq (ends_exposing_mayRaise .cover _) (.seq (ends_exposing_jobIsTerminal .cover _ false)
      (.branchFalse rfl (.seq (.call ⟨rfl, rfl⟩) ?_))))
  refine Ends.tryFinally (?_ : Ends _ _ .returned (coverTake store))
    (.call ⟨rfl, rfl⟩ : Ends _ _ .returned _)
  refine .seq (.call (.inr ⟨rfl, false, rfl⟩)) (.branchFalse rfl (.seq (ends_generateVariant _) ?_))
  exact .seq (.call rfl) (.call ⟨by simp, rfl⟩)

theorem strayFree_iff_saved :
    StrayFree (coverJob mountedStore) ∧ (coverJob mountedStore).rows 0 = true :=
  ⟨(strayFree_iff (ends_coverJob mountedStore)).mpr (by decide +kernel), by decide +kernel⟩

/-- The default of the settings, which is relative. -/
def defaultStore : AudioStore where
  audioDir := ⟨false, ["data", "audio"], by decide⟩
  cwd := ["app"]
  copyName := mountedStore.copyName

theorem default_directory_leaves_copy :
    ∃ s, Ends (runGenerationJob defaultStore .cover 1) .start .returned s ∧
      s.rows 0 = true ∧ s.has .srcCopy = true :=
  ⟨_, ends_coverJob defaultStore, by decide +kernel, by decide +kernel⟩

end Songmaker.Jobs.NoStrayFiles
