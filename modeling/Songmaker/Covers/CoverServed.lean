import Songmaker.Covers.CoverFiles

namespace Songmaker.Covers.CoverServed

open Songmaker.Foundation
open Songmaker.Covers.CoverFiles

/-- An upload between moving the cover aside or publishing its own and its end. -/
def Upload.midway (upload : Upload) : Bool :=
  match upload.point with
  | .dropOld | .commit => true
  | .publish | .cleanStaging | .giveBackFinal | .giveBackOld | .giveBack => upload.movedAside
  | _ => false

/-- An operation in whose middle the files and the key may disagree; a removal is
there from its commit on. -/
def Operation.midway : Operation → Bool
  | .upload upload => Upload.midway upload
  | .removal .unset => false
  | .removal _ => true

/-- The operation is at a point where the files and the key may disagree. -/
def Midway (s : State) (op : Op) : Prop :=
  ∃ operation, s.running op = some operation ∧ Operation.midway operation = true

/-- The step renames or removes the cover or its `.old`, or commits the key. -/
def disturbs : Operation → Bool
  | .upload upload =>
      upload.point ∈
        [.restore, .discardOld, .moveAside, .publish, .dropOld, .commit, .giveBack]
  | .removal .unset => true
  | .removal (.remove .final _) => true
  | .removal (.remove .old _) => true
  | .removal _ => false

/-- The step does not leave the key without its file, and spares the staging
directory of an upload that is running. -/
def Careful (s : State) : Operation → Fate → Prop
  | .upload upload, .failed =>
      (upload.point = .commit → ∀ key ∈ s.coverKey, key.ext = upload.key.ext) ∧
        (upload.point ∈ [.giveBackFinal, .giveBackOld, .giveBack] →
          upload.movedAside = true → s.coverKey = none)
  | .removal (.remove (.staging staging) _), _ => s.running staging = none
  | _, _ => True

/-- A step that disturbs the cover is taken with no other operation in its
middle; a commit fails, or the old cover cannot be given back, only where no
committed key loses its file by it; and a removal spares the staging directories
of running uploads. -/
def Orderly (s : State) : Action → Prop
  | .step op fate => ∀ operation, s.running op = some operation →
      (disturbs operation = true → fate ≠ .failed → ∀ other, other ≠ op → ¬ Midway s other) ∧
        Careful s operation fate
  | _ => True

/-- The staging directory of an upload holds its original until it is published. -/
def Staged (disk : CoverDisk) (op : Op) : Operation → Prop
  | .upload upload =>
      match upload.point with
      | .restoreFinal | .restoreOld | .restore | .makeStaging => upload.movedAside = false
      | .save file rest => upload.movedAside = false ∧
          ∃ files, disk (.staging op) = some (.directory files) ∧
            (.original upload.key.ext ∈ files ∨ .original upload.key.ext ∈ file :: rest)
      | .swapFinal | .leftoverFinal | .leftoverOld | .discardOld | .moveAside =>
          upload.movedAside = false ∧
            holdsFile disk (.staging op) (.original upload.key.ext) = true
      | .publish => holdsFile disk (.staging op) (.original upload.key.ext) = true
      | _ => True
  | .removal _ => True

/-- What an operation in its middle knows of the files and the key. -/
def Held (disk : CoverDisk) (coverKey : Option CoverKey) : Operation → Prop
  | .upload upload =>
      match upload.point with
      | .dropOld | .commit => holdsFile disk .final (.original upload.key.ext) = true
      | _ => disk .final = none ∧
          ∀ key ∈ coverKey, holdsFile disk .old (.original key.ext) = true
  | .removal _ => coverKey = none

/-- While no operation is midway, the cover that the key names is served. -/
structure Invariant (s : State) : Prop where
  alone : ∀ op other, Midway s op → Midway s other → op = other
  served : (∀ op, ¬ Midway s op) → s.CoverServed
  staged : ∀ op operation, s.running op = some operation → Staged s.disk op operation
  held : ∀ op operation, s.running op = some operation → Operation.midway operation = true →
    Held s.disk s.coverKey operation

variable {s t : State} {op : Op} {operation : Operation} {after : Option Operation}
  {disk : CoverDisk} {coverKey : Option CoverKey}

theorem put_running_self :
    (s.put op after disk coverKey).running op = after := by
  simp [State.put]

theorem put_running_of_ne {other : Op} (hne : other ≠ op) :
    (s.put op after disk coverKey).running other = s.running other := by
  simp [State.put, hne]

theorem midway_put_of_ne {other : Op} (hne : other ≠ op) :
    Midway (s.put op after disk coverKey) other ↔ Midway s other := by
  rw [Midway, Midway, put_running_of_ne hne]

theorem midway_put_self :
    Midway (s.put op after disk coverKey) op ↔
      ∃ operation, after = some operation ∧ Operation.midway operation = true := by
  rw [Midway, put_running_self]

theorem holdsFile_congr {disk disk' : CoverDisk} {path path' : CoverPath} {file : CoverFile}
    (hpath : disk path = disk' path') :
    holdsFile disk path file = holdsFile disk' path' file := by
  rw [holdsFile, holdsFile, hpath]

theorem Staged.congr {disk disk' : CoverDisk} (h : Staged disk op operation)
    (hpath : disk' (.staging op) = disk (.staging op)) :
    Staged disk' op operation := by
  rcases operation with ⟨key, movedAside, point⟩ | point
  · rcases point <;> simp only [Staged, holdsFile, hpath] at h ⊢ <;> exact h
  · trivial

theorem Held.congr {disk disk' : CoverDisk} (h : Held disk coverKey operation)
    (hfinal : disk' .final = disk .final) (hold : disk' .old = disk .old) :
    Held disk' coverKey operation := by
  rcases operation with ⟨key, movedAside, point⟩ | point
  · rcases point <;> simp only [Held, holdsFile, hfinal, hold] at h ⊢ <;> exact h
  · exact h

theorem partlyRemoved_of_ne {disk' : CoverDisk} {path other : CoverPath} {left : List CoverFile}
    (hpart : partlyRemoved disk path left = some disk') (hne : other ≠ path) :
    disk' other = disk other := by
  rw [partlyRemoved] at hpart
  split at hpart
  · split at hpart
    · rw [← Option.some.inj hpart, Disk.put_of_ne disk hne]
    · simp at hpart
  · simp at hpart

theorem Invariant.settle (hinv : Invariant s) (hothers : ∀ other, other ≠ op → ¬ Midway s other)
    (hstaging : ∀ other, other ≠ op → s.running other ≠ none →
      disk (.staging other) = s.disk (.staging other))
    (hafter : ∀ operation, after = some operation → Staged disk op operation ∧
      (Operation.midway operation = true → Held disk coverKey operation))
    (hserved : (∀ operation, after = some operation → Operation.midway operation = false) →
      coverKey ≠ none → coverFileExists disk coverKey = true) :
    Invariant (s.put op after disk coverKey) := by
  have hself : ∀ other, Midway (s.put op after disk coverKey) other → other = op := by
    intro other hmidway
    by_contra hne
    exact hothers other hne ((midway_put_of_ne hne).mp hmidway)
  constructor
  · intro first second hfirst hsecond
    rw [hself first hfirst, hself second hsecond]
  · intro hnone
    apply hserved
    intro operation hoperation
    by_contra hmidway
    exact hnone op (midway_put_self.mpr ⟨operation, hoperation, by simpa using hmidway⟩)
  · intro other operation hrunning
    by_cases hne : other = op
    · subst hne
      rw [put_running_self] at hrunning
      exact (hafter operation hrunning).1
    · rw [put_running_of_ne hne] at hrunning
      exact (hinv.staged other operation hrunning).congr (hstaging other hne (by simp [hrunning]))
  · intro other operation hrunning hmidway
    obtain rfl := hself other ⟨operation, hrunning, hmidway⟩
    rw [put_running_self] at hrunning
    exact (hafter operation hrunning).2 hmidway

theorem Invariant.pass (hinv : Invariant s) (hrunning : s.running op = some operation)
    (hfinal : disk .final = s.disk .final) (hold : disk .old = s.disk .old)
    (hstaging : ∀ other, other ≠ op → s.running other ≠ none →
      disk (.staging other) = s.disk (.staging other))
    (hafter : ∀ operation, after = some operation → Staged disk op operation ∧
      (Operation.midway operation = true → Held disk s.coverKey operation))
    (hmidway : (∃ operation, after = some operation ∧ Operation.midway operation = true) ↔
      Operation.midway operation = true) :
    Invariant (s.put op after disk s.coverKey) := by
  have hsame : ∀ other, Midway (s.put op after disk s.coverKey) other ↔ Midway s other := by
    intro other
    by_cases hne : other = op
    · subst hne
      rw [midway_put_self, hmidway, Midway, hrunning]
      simp
    · exact midway_put_of_ne hne
  constructor
  · intro first second hfirst hsecond
    exact hinv.alone first second ((hsame first).mp hfirst) ((hsame second).mp hsecond)
  · intro hnone hkey
    have hserved := hinv.served (fun other hother => hnone other ((hsame other).mpr hother)) hkey
    show coverFileExists disk s.coverKey = true
    rw [← hserved]
    unfold coverFileExists
    split
    · rfl
    · exact holdsFile_congr hfinal
  · intro other operation hother
    by_cases hne : other = op
    · subst hne
      rw [put_running_self] at hother
      exact (hafter operation hother).1
    · rw [put_running_of_ne hne] at hother
      exact (hinv.staged other operation hother).congr (hstaging other hne (by simp [hother]))
  · intro other operation hother hmid
    by_cases hne : other = op
    · subst hne
      rw [put_running_self] at hother
      exact (hafter operation hother).2 hmid
    · rw [put_running_of_ne hne] at hother
      exact (hinv.held other operation hother hmid).congr hfinal hold

theorem Invariant.leave (hinv : Invariant s) (hrunning : s.running op = some operation)
    (hmidway : Operation.midway operation = false) (hstep : s.leave op s.disk s.coverKey = some t) :
    Invariant t := by
  obtain rfl := Option.some.inj hstep
  exact hinv.pass hrunning rfl rfl (fun _ _ _ => rfl) (by simp) (by simp [hmidway])

/-- An operation in its middle is over with no key committed or its file in place. -/
theorem Invariant.finish (hinv : Invariant s) (hmidway : Midway s op)
    (hserved : coverKey ≠ none → coverFileExists disk coverKey = true)
    (hstaging : ∀ other, disk (.staging other) = s.disk (.staging other))
    (hstep : s.leave op disk coverKey = some t) :
    Invariant t := by
  obtain rfl := Option.some.inj hstep
  apply hinv.settle
  · exact fun other hne hother => hne (hinv.alone other op hother hmidway)
  · exact fun other _ _ => hstaging other
  · simp
  · exact fun _ => hserved

section Upload

variable {upload : Upload} {point : UploadPoint}

theorem Invariant.passAt (hinv : Invariant s) (hrunning : s.running op = some (.upload upload))
    (hstep : s.at? op upload point s.disk = some t)
    (hstaged : Staged s.disk op (.upload { upload with point := point }))
    (hmidway : Upload.midway { upload with point := point } = Upload.midway upload)
    (hheld : Upload.midway upload = true →
      Held s.disk s.coverKey (.upload { upload with point := point })) :
    Invariant t := by
  obtain rfl := Option.some.inj hstep
  apply hinv.pass hrunning rfl rfl (fun _ _ _ => rfl)
  · rintro _ ⟨⟩
    exact ⟨hstaged, fun hmid => hheld (hmidway ▸ hmid)⟩
  · simp [Operation.midway, hmidway]

theorem rmtree_cases {path : CoverPath} {done failed : UploadPoint} {fate : Fate}
    (hstep : s.rmtree op upload path done failed fate = some t) :
    ∃ point disk, s.at? op upload point disk = some t ∧
      (∀ other, other ≠ path → disk other = s.disk other) ∧
        (fate = .done ∧ point = done ∨ fate = .failed ∧ point = failed ∧ disk = s.disk ∨
          point = upload.point ∧ ∃ left, fate = .part left) := by
  rcases fate with _ | _ | left | stagings
  · exact ⟨done, _, hstep, fun other hne => Disk.rmtree_run_of_ne s.disk hne,
      Or.inl ⟨rfl, rfl⟩⟩
  · exact ⟨failed, _, hstep, fun _ _ => rfl, Or.inr (Or.inl ⟨rfl, rfl, rfl⟩)⟩
  · obtain ⟨disk, hdisk, hstep⟩ := Option.bind_eq_some_iff.mp hstep
    refine ⟨upload.point, disk, hstep, fun other hne => ?_, Or.inr (Or.inr ⟨rfl, left, rfl⟩)⟩
    exact partlyRemoved_of_ne hdisk hne
  · simp [State.rmtree] at hstep

theorem coverServed_of_no_midway (hinv : Invariant s)
    (hothers : ∀ other, other ≠ op → ¬ Midway s other) (hself : ¬ Midway s op) :
    s.CoverServed := by
  apply hinv.served
  intro other
  by_cases hne : other = op
  · exact hne ▸ hself
  · exact hothers other hne

theorem not_midway (hrunning : s.running op = some operation)
    (hmidway : Operation.midway operation = false) : ¬ Midway s op := by
  rintro ⟨other, hother, hmid⟩
  obtain rfl := Option.some.inj (hrunning.symm.trans hother)
  simp [hmidway] at hmid

theorem rename_final_refused {path : CoverPath} (hserved : coverFileExists disk coverKey = true) :
    (Disk.rename path .final).run disk = (false, disk) := by
  have hfinal : ∃ files, disk .final = some (.directory files) ∧ files ≠ [] := by
    unfold coverFileExists holdsFile at hserved
    split at hserved
    · simp at hserved
    · split at hserved
      · rename_i files hfiles
        exact ⟨files, hfiles, List.ne_nil_of_mem (by simpa using hserved)⟩
      · simp at hserved
  obtain ⟨files, hfiles, hne⟩ := hfinal
  simp only [Disk.rename, Atomic.update]
  split
  · rfl
  · rename_i entry hentry
    rcases entry with source | ⟨⟨⟩⟩
    simp [Disk.replaceable, hfiles, hne]

theorem restore_keeps {movedAside : Bool} {key : CoverKey} {fate : Fate} (hinv : Invariant s)
    (hpoint : point ∈ [.restoreFinal, .restoreOld, .restore, .makeStaging])
    (hrunning : s.running op = some (.upload ⟨key, movedAside, point⟩))
    (horderly : Orderly s (.step op fate))
    (hstep : s.stepUpload op ⟨key, movedAside, point⟩ fate = some t) :
    Invariant t := by
  have hmoved : movedAside = false := by
    have hstaged := hinv.staged op _ hrunning
    simp only [List.mem_cons, List.not_mem_nil, or_false] at hpoint
    rcases hpoint with rfl | rfl | rfl | rfl <;> exact hstaged
  subst hmoved
  have hleave : Operation.midway (.upload ⟨key, false, point⟩) = false →
      s.leave op s.disk s.coverKey = some t → Invariant t := hinv.leave hrunning
  simp only [List.mem_cons, List.not_mem_nil, or_false] at hpoint
  rcases hpoint with rfl | rfl | rfl | rfl
  · rcases fate with _ | _ | _ | _
    · simp only [State.stepUpload.eq_def] at hstep
      split at hstep
      · exact hinv.passAt hrunning hstep rfl rfl (by rintro ⟨⟩)
      · exact hinv.passAt hrunning hstep rfl rfl (by rintro ⟨⟩)
    · exact hleave rfl hstep
    · cases hstep
    · cases hstep
  · rcases fate with _ | _ | _ | _
    · simp only [State.stepUpload.eq_def] at hstep
      split at hstep
      · exact hinv.passAt hrunning hstep rfl rfl (by rintro ⟨⟩)
      · exact hinv.passAt hrunning hstep rfl rfl (by rintro ⟨⟩)
    · exact hleave rfl hstep
    · cases hstep
    · cases hstep
  · rcases fate with _ | _ | _ | _
    · simp only [State.stepUpload.eq_def] at hstep
      split at hstep
      · rename_i disk hrename
        have hothers := (horderly _ hrunning).1 (by simp [disturbs]) (by simp)
        have hserved := coverServed_of_no_midway hinv hothers (not_midway hrunning rfl)
        obtain ⟨entry, -, -, rfl⟩ := Disk.rename_run_eq_true.mp hrename
        obtain rfl := Option.some.inj hstep
        apply hinv.settle hothers
        · intro other _ _
          simp
        · rintro _ ⟨⟩
          exact ⟨rfl, by rintro ⟨⟩⟩
        · intro _ hkey
          rw [rename_final_refused (hserved hkey)] at hrename
          simp at hrename
      · exact hleave rfl hstep
    · exact hleave rfl hstep
    · cases hstep
    · cases hstep
  · rcases fate with _ | _ | _ | _
    · simp only [State.stepUpload.eq_def] at hstep
      split at hstep
      · exact hleave rfl hstep
      · obtain rfl := Option.some.inj hstep
        apply hinv.pass hrunning
        · simp
        · simp
        · intro other hne _
          simp [hne]
        · rintro _ ⟨⟩
          exact ⟨⟨rfl, [], by simp, by simp⟩, by rintro ⟨⟩⟩
        · simp [Operation.midway, Upload.midway]
    · exact hleave rfl hstep
    · cases hstep
    · cases hstep

theorem save_keeps {movedAside : Bool} {key : CoverKey} {fate : Fate} {file : CoverFile}
    {rest : List CoverFile} (hinv : Invariant s)
    (hrunning : s.running op = some (.upload ⟨key, movedAside, .save file rest⟩))
    (hstep : s.stepUpload op ⟨key, movedAside, .save file rest⟩ fate = some t) :
    Invariant t := by
  obtain ⟨hmoved, files, hfiles, horiginal⟩ := hinv.staged op _ hrunning
  change movedAside = false at hmoved
  subst hmoved
  rcases fate with _ | _ | _ | _
  · simp only [State.stepUpload.eq_def, State.saveVariants, hfiles] at hstep
    obtain rfl := Option.some.inj hstep
    apply hinv.pass hrunning
    · simp
    · simp
    · intro other hne _
      simp [hne]
    · rintro _ ⟨⟩
      rcases rest with _ | ⟨next, others⟩
      · refine ⟨⟨rfl, ?_⟩, by rintro ⟨⟩⟩
        simpa [holdsFile] using horiginal
      · refine ⟨⟨rfl, files ++ [file], by simp, ?_⟩, by rintro ⟨⟩⟩
        simpa [or_assoc] using horiginal
    · rcases rest with _ | ⟨next, others⟩ <;> simp [Operation.midway, Upload.midway]
  · exact hinv.passAt hrunning hstep trivial rfl (by rintro ⟨⟩)
  · cases hstep
  · cases hstep

theorem Invariant.passBeforePublish {key : CoverKey} (hinv : Invariant s)
    (hrunning : s.running op = some (.upload ⟨key, false, point⟩))
    (hpoint : point ∈ [.swapFinal, .leftoverFinal, .leftoverOld, .discardOld, .moveAside])
    (hstaged : holdsFile s.disk (.staging op) (.original key.ext) = true) {next : UploadPoint}
    (hnext : next ∈ [.leftoverFinal, .leftoverOld, .discardOld, .moveAside, .publish,
      .cleanStaging])
    (hstep : s.at? op ⟨key, false, point⟩ next s.disk = some t) :
    Invariant t := by
  have hbefore : Upload.midway ⟨key, false, point⟩ = false := by
    rcases point <;> first | rfl | simp at hpoint
  apply hinv.passAt hrunning hstep
  · simp only [List.mem_cons, List.not_mem_nil, or_false] at hnext
    rcases hnext with rfl | rfl | rfl | rfl | rfl | rfl
    all_goals simp [Staged, hstaged]
  · simp only [List.mem_cons, List.not_mem_nil, or_false] at hnext
    rw [hbefore]
    rcases hnext with rfl | rfl | rfl | rfl | rfl | rfl <;> rfl
  · simp [hbefore]

theorem discardOld_keeps {key : CoverKey} {fate : Fate} (hinv : Invariant s)
    (hrunning : s.running op = some (.upload ⟨key, false, .discardOld⟩))
    (horderly : Orderly s (.step op fate))
    (hstaged : holdsFile s.disk (.staging op) (.original key.ext) = true)
    (hstep : s.stepUpload op ⟨key, false, .discardOld⟩ fate = some t) :
    Invariant t := by
  obtain ⟨point, disk, hat, hsame, hfate⟩ := rmtree_cases hstep
  have hfailed : fate = .failed → Invariant t := by
    rintro rfl
    exact hinv.passBeforePublish hrunning (by simp) hstaged (by simp) hstep
  by_cases hfate' : fate = .failed
  · exact hfailed hfate'
  · have hothers := (horderly _ hrunning).1 (by simp [disturbs]) hfate'
    have hserved := coverServed_of_no_midway hinv hothers (not_midway hrunning rfl)
    have hpoint : point = .moveAside ∨ point = .discardOld := by
      rcases hfate with ⟨-, rfl⟩ | ⟨rfl, -⟩ | ⟨rfl, -⟩
      · exact Or.inl rfl
      · exact absurd rfl hfate'
      · exact Or.inr rfl
    have hkept : holdsFile disk (.staging op) (.original key.ext) = true := by
      rw [← hstaged]
      exact holdsFile_congr (hsame _ (by simp))
    obtain rfl := Option.some.inj hat
    apply hinv.settle hothers
    · exact fun other _ _ => hsame _ (by simp)
    · rintro _ ⟨⟩
      rcases hpoint with rfl | rfl
      · exact ⟨⟨rfl, hkept⟩, by rintro ⟨⟩⟩
      · exact ⟨⟨rfl, hkept⟩, by rintro ⟨⟩⟩
    · intro _ hkey
      rw [← hserved hkey]
      unfold coverFileExists
      split
      · rfl
      · exact holdsFile_congr (hsame _ (by simp))

theorem moveAside_keeps {key : CoverKey} {fate : Fate} (hinv : Invariant s)
    (hrunning : s.running op = some (.upload ⟨key, false, .moveAside⟩))
    (horderly : Orderly s (.step op fate))
    (hstaged : holdsFile s.disk (.staging op) (.original key.ext) = true)
    (hstep : s.stepUpload op ⟨key, false, .moveAside⟩ fate = some t) :
    Invariant t := by
  rcases fate with _ | _ | _ | _
  · simp only [State.stepUpload.eq_def] at hstep
    split at hstep
    · rename_i disk hrename
      have hothers := (horderly _ hrunning).1 (by simp [disturbs]) (by simp)
      have hserved := coverServed_of_no_midway hinv hothers (not_midway hrunning rfl)
      obtain ⟨entry, hentry, -, rfl⟩ := Disk.rename_run_eq_true.mp hrename
      obtain rfl := Option.some.inj hstep
      apply hinv.settle hothers
      · intro other _ _
        simp
      · rintro _ ⟨⟩
        refine ⟨?_, fun _ => ⟨by simp, fun committed hcommitted => ?_⟩⟩
        · exact (holdsFile_congr (by simp)).trans hstaged
        · have hfinal := hserved
            (Option.ne_none_iff_exists'.mpr ⟨committed, hcommitted⟩)
          rw [Option.mem_def.mp hcommitted] at hfinal
          rw [← show coverFileExists s.disk (some committed) = true from hfinal]
          exact holdsFile_congr (by simp [hentry])
      · intro hnone
        have := hnone _ rfl
        simp [Operation.midway, Upload.midway] at this
    · exact hinv.passBeforePublish hrunning (by simp) hstaged (by simp) hstep
  · exact hinv.passBeforePublish hrunning (by simp) hstaged (by simp) hstep
  · cases hstep
  · cases hstep

theorem swap_keeps {movedAside : Bool} {key : CoverKey} {fate : Fate} (hinv : Invariant s)
    (hpoint : point ∈ [.swapFinal, .leftoverFinal, .leftoverOld, .discardOld, .moveAside])
    (hrunning : s.running op = some (.upload ⟨key, movedAside, point⟩))
    (horderly : Orderly s (.step op fate))
    (hstep : s.stepUpload op ⟨key, movedAside, point⟩ fate = some t) :
    Invariant t := by
  obtain ⟨hmoved, hstaged⟩ : movedAside = false ∧
      holdsFile s.disk (.staging op) (.original key.ext) = true := by
    have hstaged := hinv.staged op _ hrunning
    simp only [List.mem_cons, List.not_mem_nil, or_false] at hpoint
    rcases hpoint with rfl | rfl | rfl | rfl | rfl <;> exact hstaged
  subst hmoved
  have hpass : ∀ next ∈ [.leftoverFinal, .leftoverOld, .discardOld, .moveAside, .publish,
      .cleanStaging], s.at? op ⟨key, false, point⟩ next s.disk = some t → Invariant t :=
    fun next hnext => hinv.passBeforePublish hrunning hpoint hstaged hnext
  simp only [List.mem_cons, List.not_mem_nil, or_false] at hpoint
  rcases hpoint with rfl | rfl | rfl | rfl | rfl
  · rcases fate with _ | _ | _ | _
    · exact hpass _ (by split <;> simp) hstep
    · exact hpass _ (by simp) hstep
    · cases hstep
    · cases hstep
  · rcases fate with _ | _ | _ | _
    · exact hpass _ (by split <;> simp) hstep
    · exact hpass _ (by simp) hstep
    · cases hstep
    · cases hstep
  · rcases fate with _ | _ | _ | _
    · exact hpass _ (by split <;> simp) hstep
    · exact hpass _ (by simp) hstep
    · cases hstep
    · cases hstep
  · exact discardOld_keeps hinv hrunning horderly hstaged hstep
  · exact moveAside_keeps hinv hrunning horderly hstaged hstep

theorem publish_keeps {upload : Upload} {fate : Fate} (hinv : Invariant s)
    (hpoint : upload.point = .publish) (hrunning : s.running op = some (.upload upload))
    (horderly : Orderly s (.step op fate)) (hstep : s.stepUpload op upload fate = some t) :
    Invariant t := by
  obtain ⟨key, movedAside, point⟩ := upload
  obtain rfl : point = .publish := hpoint
  have hstaged : holdsFile s.disk (.staging op) (.original key.ext) = true :=
    hinv.staged op _ hrunning
  have hclean : s.at? op ⟨key, movedAside, .publish⟩ .cleanStaging s.disk = some t →
      Invariant t := by
    intro hat
    apply hinv.passAt hrunning hat trivial rfl
    intro hmid
    have hheld := hinv.held op _ hrunning hmid
    exact hheld
  rcases fate with _ | _ | _ | _
  · simp only [State.stepUpload.eq_def] at hstep
    split at hstep
    · rename_i disk hrename
      have hothers := (horderly _ hrunning).1 (by simp [disturbs]) (by simp)
      obtain ⟨entry, hentry, -, rfl⟩ := Disk.rename_run_eq_true.mp hrename
      obtain rfl := Option.some.inj hstep
      apply hinv.settle hothers
      · intro other hne _
        simp [hne]
      · rintro _ ⟨⟩
        refine ⟨trivial, fun _ => ?_⟩
        exact (holdsFile_congr (by simp [hentry])).trans hstaged
      · intro hnone
        have := hnone _ rfl
        simp [Operation.midway, Upload.midway] at this
    · exact hclean hstep
  · exact hclean hstep
  · cases hstep
  · cases hstep

theorem dropOld_keeps {upload : Upload} {fate : Fate} (hinv : Invariant s)
    (hpoint : upload.point = .dropOld) (hrunning : s.running op = some (.upload upload))
    (hstep : s.stepUpload op upload fate = some t) :
    Invariant t := by
  obtain ⟨key, movedAside, point⟩ := upload
  obtain rfl : point = .dropOld := hpoint
  have hheld : holdsFile s.disk .final (.original key.ext) = true := hinv.held op _ hrunning rfl
  obtain ⟨point, disk, hat, hsame, hfate⟩ := rmtree_cases hstep
  have hkept : holdsFile disk .final (.original key.ext) = true := by
    rw [← hheld]
    exact holdsFile_congr (hsame _ (by simp))
  have hpoint : point = .commit ∨ point = .dropOld := by
    rcases hfate with ⟨-, rfl⟩ | ⟨-, rfl, -⟩ | ⟨rfl, -⟩
    · exact Or.inl rfl
    · exact Or.inl rfl
    · exact Or.inr rfl
  obtain rfl := Option.some.inj hat
  apply hinv.settle
  · exact fun other hne hother => hne (hinv.alone other op hother ⟨_, hrunning, rfl⟩)
  · exact fun other _ _ => hsame _ (by simp)
  · rintro _ ⟨⟩
    rcases hpoint with rfl | rfl
    · exact ⟨trivial, fun _ => hkept⟩
    · exact ⟨trivial, fun _ => hkept⟩
  · intro hnone
    have := hnone _ rfl
    rcases hpoint with rfl | rfl
    · simp [Operation.midway, Upload.midway] at this
    · simp [Operation.midway, Upload.midway] at this

theorem commit_keeps {upload : Upload} {fate : Fate} (hinv : Invariant s)
    (hpoint : upload.point = .commit) (hrunning : s.running op = some (.upload upload))
    (horderly : Orderly s (.step op fate)) (hstep : s.stepUpload op upload fate = some t) :
    Invariant t := by
  obtain ⟨key, movedAside, point⟩ := upload
  obtain rfl : point = .commit := hpoint
  have hheld : holdsFile s.disk .final (.original key.ext) = true := hinv.held op _ hrunning rfl
  have hmidway : Midway s op := ⟨_, hrunning, rfl⟩
  rcases fate with _ | _ | _ | _
  · refine hinv.finish hmidway ?_ (fun _ => rfl) hstep
    exact fun _ => hheld
  · refine hinv.finish hmidway (fun hkey => ?_) (fun _ => rfl) hstep
    obtain ⟨committed, hcommitted⟩ := Option.ne_none_iff_exists'.mp hkey
    have hext := (horderly _ hrunning).2.1 rfl committed hcommitted
    rw [hcommitted]
    show holdsFile s.disk .final (.original committed.ext) = true
    rw [hext]
    exact hheld
  · cases hstep
  · cases hstep

theorem cleanStaging_keeps {upload : Upload} {fate : Fate} (hinv : Invariant s)
    (hpoint : upload.point = .cleanStaging) (hrunning : s.running op = some (.upload upload))
    (hstep : s.stepUpload op upload fate = some t) :
    Invariant t := by
  obtain ⟨key, movedAside, point⟩ := upload
  obtain rfl : point = .cleanStaging := hpoint
  obtain ⟨point, disk, hat, hsame, hfate⟩ := rmtree_cases hstep
  have hpoint : point = .giveBackFinal ∨ point = .cleanStaging := by
    rcases hfate with ⟨-, rfl⟩ | ⟨-, rfl, -⟩ | ⟨rfl, -⟩
    · exact Or.inl rfl
    · exact Or.inl rfl
    · exact Or.inr rfl
  have hheld : movedAside = true →
      Held disk s.coverKey (.upload ⟨key, movedAside, .cleanStaging⟩) := fun hmid =>
    (hinv.held op _ hrunning hmid).congr (hsame _ (by simp)) (hsame _ (by simp))
  obtain rfl := Option.some.inj hat
  apply hinv.pass hrunning (hsame _ (by simp)) (hsame _ (by simp))
  · exact fun other hne _ => hsame _ (by simp [hne])
  · rintro _ ⟨⟩
    rcases hpoint with rfl | rfl
    · exact ⟨trivial, hheld⟩
    · exact ⟨trivial, hheld⟩
  · rcases hpoint with rfl | rfl
    · simp [Operation.midway, Upload.midway]
    · simp [Operation.midway, Upload.midway]

/-- An upload that gives up leaves the cover as it is, or has lost it with no
key committed. -/
theorem Invariant.giveUp {upload : Upload} (hinv : Invariant s)
    (hpoint : upload.point ∈ [.giveBackFinal, .giveBackOld, .giveBack])
    (hrunning : s.running op = some (.upload upload))
    (hmoved : upload.movedAside = true → s.coverKey = none)
    (hstep : s.leave op s.disk s.coverKey = some t) :
    Invariant t := by
  obtain ⟨key, movedAside, point⟩ := upload
  have hmidway : Operation.midway (.upload ⟨key, movedAside, point⟩) = movedAside := by
    rcases point <;> first | rfl | simp at hpoint
  rcases movedAside with _ | _
  · exact hinv.leave hrunning hmidway hstep
  · apply hinv.finish ⟨_, hrunning, hmidway⟩ _ (fun _ => rfl) hstep
    exact fun hkey => absurd (hmoved rfl) hkey

theorem giveBack_keeps {key : CoverKey} {movedAside : Bool} (hinv : Invariant s)
    (hrunning : s.running op = some (.upload ⟨key, movedAside, .giveBack⟩))
    (horderly : Orderly s (.step op .done))
    (hstep : s.leave op ((Disk.rename .old .final).run s.disk).2 s.coverKey = some t) :
    Invariant t := by
  have hothers := (horderly _ hrunning).1 (by simp [disturbs]) (by simp)
  have hserved : s.coverKey ≠ none →
      coverFileExists ((Disk.rename .old .final).run s.disk).2 s.coverKey = true := by
    intro hkey
    rcases movedAside with _ | _
    · have hserved := coverServed_of_no_midway hinv hothers (not_midway hrunning rfl) hkey
      rw [rename_final_refused hserved]
      exact hserved
    · obtain ⟨hfinal, hold⟩ := hinv.held op _ hrunning rfl
      obtain ⟨committed, hcommitted⟩ := Option.ne_none_iff_exists'.mp hkey
      have hfile := hold committed hcommitted
      obtain ⟨entry, hentry⟩ : ∃ entry, s.disk .old = some entry := by
        rw [← Option.ne_none_iff_exists']
        intro hnone
        simp [holdsFile, hnone] at hfile
      have hrename : (Disk.rename .old .final).run s.disk =
          (true, (s.disk.put .old none).put .final (some entry)) := by
        refine Disk.rename_run_eq_true.mpr ⟨entry, hentry, ?_, rfl⟩
        rw [show s.disk .final = none from hfinal]
        rfl
      rw [hrename, hcommitted]
      exact (holdsFile_congr (by simp [hentry])).trans hfile
  have hstaging : ∀ other, ((Disk.rename .old .final).run s.disk).2 (.staging other) =
      s.disk (.staging other) := by
    intro other
    simp only [Disk.rename, Atomic.update]
    split
    · rfl
    · split
      · simp
      · rfl
  obtain rfl := Option.some.inj hstep
  apply hinv.settle hothers
  · exact fun other _ _ => hstaging other
  · simp
  · exact fun _ => hserved

theorem giveUp_keeps {upload : Upload} {fate : Fate} (hinv : Invariant s)
    (hpoint : upload.point ∈ [.giveBackFinal, .giveBackOld, .giveBack])
    (hrunning : s.running op = some (.upload upload)) (horderly : Orderly s (.step op fate))
    (hstep : s.stepUpload op upload fate = some t) :
    Invariant t := by
  have hfailed : fate = .failed → s.leave op s.disk s.coverKey = some t → Invariant t := by
    rintro rfl
    exact hinv.giveUp hpoint hrunning ((horderly _ hrunning).2.2 hpoint)
  have hgiveUp := hinv.giveUp (t := t) hpoint hrunning
  have hheld := hinv.held op _ hrunning
  obtain ⟨key, movedAside, point⟩ := upload
  simp only [List.mem_cons, List.not_mem_nil, or_false] at hpoint
  rcases hpoint with rfl | rfl | rfl
  · rcases fate with _ | _ | _ | _
    · simp only [State.stepUpload.eq_def] at hstep
      split at hstep
      · rename_i hfinal
        refine hgiveUp (fun hmid => ?_) hstep
        have hnone := (hheld hmid).1
        simp [hnone] at hfinal
      · refine hinv.passAt hrunning hstep trivial rfl ?_
        exact fun hmid => hheld hmid
    · exact hfailed rfl hstep
    · cases hstep
    · cases hstep
  · rcases fate with _ | _ | _ | _
    · simp only [State.stepUpload.eq_def] at hstep
      split at hstep
      · refine hinv.passAt hrunning hstep trivial rfl ?_
        exact fun hmid => hheld hmid
      · rename_i hold
        refine hgiveUp (fun hmid => ?_) hstep
        by_contra hkey
        obtain ⟨committed, hcommitted⟩ := Option.ne_none_iff_exists'.mp hkey
        have hfile := (hheld hmid).2 committed hcommitted
        rw [Option.not_isSome_iff_eq_none] at hold
        simp [holdsFile, hold] at hfile
    · exact hfailed rfl hstep
    · cases hstep
    · cases hstep
  · rcases fate with _ | _ | _ | _
    · exact giveBack_keeps hinv hrunning horderly hstep
    · exact hfailed rfl hstep
    · cases hstep
    · cases hstep

theorem stepUpload_keeps {upload : Upload} {fate : Fate} (hinv : Invariant s)
    (hrunning : s.running op = some (.upload upload)) (horderly : Orderly s (.step op fate))
    (hstep : s.stepUpload op upload fate = some t) :
    Invariant t := by
  rcases hpoint : upload.point with _ | _ | _ | _ | ⟨file, rest⟩
  case save =>
    obtain ⟨key, movedAside, point⟩ := upload
    obtain rfl : point = .save file rest := hpoint
    exact save_keeps hinv hrunning hstep
  case publish => exact publish_keeps hinv hpoint hrunning horderly hstep
  case dropOld => exact dropOld_keeps hinv hpoint hrunning hstep
  case commit => exact commit_keeps hinv hpoint hrunning horderly hstep
  case cleanStaging => exact cleanStaging_keeps hinv hpoint hrunning hstep
  case giveBackFinal | giveBackOld | giveBack =>
    exact giveUp_keeps hinv (by simp [hpoint]) hrunning horderly hstep
  case restoreFinal | restoreOld | restore | makeStaging =>
    exact restore_keeps hinv (by simp [hpoint]) hrunning horderly hstep
  case swapFinal | leftoverFinal | leftoverOld | discardOld | moveAside =>
    exact swap_keeps hinv (by simp [hpoint]) hrunning horderly hstep

end Upload

theorem Invariant.removalStep {point : RemovalPoint} (hinv : Invariant s)
    (hrunning : s.running op = some (.removal point))
    (hmidway : Operation.midway (.removal point) = true)
    (hstaging : ∀ other, other ≠ op → s.running other ≠ none →
      disk (.staging other) = s.disk (.staging other))
    (hafter : ∀ operation, after = some operation → ∃ next, operation = .removal next) :
    Invariant (s.put op after disk s.coverKey) := by
  have hkey : s.coverKey = none := hinv.held op _ hrunning hmidway
  apply hinv.settle _ hstaging
  · intro operation hoperation
    obtain ⟨next, rfl⟩ := hafter operation hoperation
    exact ⟨trivial, fun _ => hkey⟩
  · exact fun _ hcommitted => absurd hkey hcommitted
  · exact fun other hne hother => hne (hinv.alone other op hother ⟨_, hrunning, hmidway⟩)

theorem Invariant.removed {path : CoverPath} {rest : List CoverPath} {fate : Fate}
    (hinv : Invariant s) (hrunning : s.running op = some (.removal (.remove path rest)))
    (horderly : Orderly s (.step op fate))
    (hsame : ∀ other, other ≠ path → disk other = s.disk other)
    (hafter : ∀ operation, after = some operation → ∃ next, operation = .removal next) :
    Invariant (s.put op after disk s.coverKey) := by
  apply hinv.removalStep hrunning rfl _ hafter
  intro other _ hother
  apply hsame
  rintro rfl
  have hcareful := (horderly _ hrunning).2
  rcases fate with _ | _ | _ | _
  all_goals exact hother hcareful

theorem stepRemoval_keeps {point : RemovalPoint} {fate : Fate} (hinv : Invariant s)
    (hrunning : s.running op = some (.removal point)) (horderly : Orderly s (.step op fate))
    (hstep : s.stepRemoval op point fate = some t) :
    Invariant t := by
  rcases point with _ | _ | ⟨path, rest⟩
  · rcases fate with _ | _ | _ | _
    · have hothers := (horderly _ hrunning).1 rfl (by simp)
      obtain rfl := Option.some.inj hstep
      apply hinv.settle hothers (fun _ _ _ => rfl)
      · rintro _ ⟨⟩
        exact ⟨trivial, fun _ => rfl⟩
      · exact fun _ hkey => absurd rfl hkey
    · exact hinv.leave hrunning rfl hstep
    · simp [State.stepRemoval] at hstep
    · simp [State.stepRemoval] at hstep
  · rcases fate with _ | _ | _ | stagings
    · simp [State.stepRemoval] at hstep
    · obtain rfl := Option.some.inj hstep
      exact hinv.removalStep hrunning rfl (fun _ _ _ => rfl) (by simp)
    · simp [State.stepRemoval] at hstep
    · simp only [State.stepRemoval] at hstep
      split at hstep
      · obtain rfl := Option.some.inj hstep
        apply hinv.removalStep hrunning rfl (fun _ _ _ => rfl)
        rintro _ ⟨⟩
        exact ⟨_, rfl⟩
      · simp at hstep
  · rcases fate with _ | _ | left | _
    · rcases rest with _ | ⟨next, rest⟩
      · obtain rfl := Option.some.inj hstep
        exact hinv.removed hrunning horderly
          (fun other hne => Disk.rmtree_run_of_ne s.disk hne) (by simp)
      · obtain rfl := Option.some.inj hstep
        apply hinv.removed hrunning horderly fun other hne => Disk.rmtree_run_of_ne s.disk hne
        rintro _ ⟨⟩
        exact ⟨_, rfl⟩
    · obtain rfl := Option.some.inj
        (show s.leave op s.disk s.coverKey = some t by rcases rest <;> exact hstep)
      exact hinv.removed hrunning horderly (fun _ _ => rfl) (by simp)
    · obtain ⟨disk, hdisk, hstep⟩ := Option.bind_eq_some_iff.mp
        (show (partlyRemoved s.disk path left).bind (fun disk =>
          s.removalAt op (.remove path rest) disk s.coverKey) = some t by
            rcases rest <;> exact hstep)
      obtain rfl := Option.some.inj hstep
      apply hinv.removed hrunning horderly fun other hne => partlyRemoved_of_ne hdisk hne
      rintro _ ⟨⟩
      exact ⟨_, rfl⟩
    · rcases rest with _ | ⟨next, rest⟩
      · simp [State.stepRemoval] at hstep
      · simp [State.stepRemoval] at hstep

theorem Invariant.start (hinv : Invariant s) (hfree : s.running op = none)
    (hmidway : Operation.midway operation = false) (hstaged : Staged s.disk op operation) :
    Invariant (s.put op (some operation) s.disk s.coverKey) := by
  have hsame : ∀ other, Midway (s.put op (some operation) s.disk s.coverKey) other ↔
      Midway s other := by
    intro other
    by_cases hne : other = op
    · subst hne
      rw [midway_put_self, Midway, hfree]
      simp [hmidway]
    · exact midway_put_of_ne hne
  constructor
  · intro first second hfirst hsecond
    exact hinv.alone first second ((hsame first).mp hfirst) ((hsame second).mp hsecond)
  · exact fun hnone => hinv.served fun other hother => hnone other ((hsame other).mpr hother)
  · intro other running hother
    by_cases hne : other = op
    · subst hne
      rw [put_running_self] at hother
      exact Option.some.inj hother ▸ hstaged
    · rw [put_running_of_ne hne] at hother
      exact hinv.staged other running hother
  · intro other running hother hmid
    by_cases hne : other = op
    · subst hne
      rw [put_running_self] at hother
      rw [← Option.some.inj hother, hmidway] at hmid
      simp at hmid
    · rw [put_running_of_ne hne] at hother
      exact hinv.held other running hother hmid

theorem act_keeps {a : Action} (hinv : Invariant s) (horderly : Orderly s a)
    (hstep : s.act a = some t) :
    Invariant t := by
  rcases a with ⟨op, key⟩ | op | ⟨op, fate⟩
  · simp only [State.act] at hstep
    split at hstep
    · rename_i hfree
      obtain rfl := Option.some.inj hstep
      exact hinv.start hfree rfl rfl
    · simp at hstep
  · simp only [State.act] at hstep
    split at hstep
    · rename_i hfree
      obtain rfl := Option.some.inj hstep
      exact hinv.start hfree rfl trivial
    · simp at hstep
  · simp only [State.act] at hstep
    split at hstep
    · simp at hstep
    · rename_i upload hrunning
      exact stepUpload_keeps hinv hrunning horderly hstep
    · rename_i point hrunning
      exact stepRemoval_keeps hinv hrunning horderly hstep

theorem Invariant.of_quiet (hquiet : s.Quiet) (hserved : s.CoverServed) : Invariant s := by
  constructor
  · rintro first second ⟨operation, hrunning, -⟩
    simp [hquiet first] at hrunning
  · exact fun _ => hserved
  · intro op operation hrunning
    simp [hquiet op] at hrunning
  · intro op operation hrunning
    simp [hquiet op] at hrunning

theorem Invariant.coverServed (hinv : Invariant s) (hquiet : s.Quiet) : s.CoverServed := by
  apply hinv.served
  rintro op ⟨operation, hrunning, -⟩
  simp [hquiet op] at hrunning

open TransitionSystem

/-- In every orderly run the cover that the database names can be served whenever
no operation is running. -/
theorem cover_served (s : State) (run : List (Action × State)) (hinitial : coverSystem.initial s)
    (hrun : coverSystem.IsRun s run) (hmeet : StepsMeet Orderly s run) :
    ∀ t ∈ visited s run, t.Quiet → t.CoverServed := by
  intro t ht hquiet
  refine Invariant.coverServed ?_ hquiet
  refine forall_visited_of_stepsMeet ?_ (Invariant.of_quiet hinitial.1 hinitial.2) hrun hmeet t ht
  exact fun s a t hinv hstep horderly => act_keeps hinv horderly hstep

/-! ### Runs of one upload -/

/-- No other operation is running than an upload. -/
def Alone (s : State) (op : Op) : Prop :=
  (∀ other, other ≠ op → s.running other = none) ∧
    ∀ point, s.running op ≠ some (.removal point)

theorem Alone.start {upload : Upload} (halone : Alone s op)
    (hstep : some (s.put op (some (.upload upload)) disk coverKey) = some t) : Alone t op := by
  obtain rfl := Option.some.inj hstep
  constructor
  · intro other hne
    rw [put_running_of_ne hne]
    exact halone.1 other hne
  · rw [put_running_self]
    simp

theorem Alone.at? {upload : Upload} {point : UploadPoint} (halone : Alone s op)
    (hstep : s.at? op upload point disk = some t) : Alone t op :=
  halone.start hstep

theorem Alone.leave (halone : Alone s op) (hstep : s.leave op disk coverKey = some t) :
    Alone t op := by
  obtain rfl := Option.some.inj hstep
  constructor
  · intro other hne
    rw [put_running_of_ne hne]
    exact halone.1 other hne
  · rw [put_running_self]
    simp

theorem Alone.stepUpload {upload : Upload} {fate : Fate} (halone : Alone s op)
    (hstep : s.stepUpload op upload fate = some t) :
    Alone t op := by
  unfold State.stepUpload at hstep
  split at hstep
  case h_9 =>
    unfold State.saveVariants at hstep
    split at hstep
    · exact halone.at? hstep
    · exact halone.at? hstep
  case h_17 | h_22 | h_25 =>
    obtain ⟨point, disk, hstep, -⟩ := rmtree_cases hstep
    exact halone.at? hstep
  all_goals first
    | exact halone.at? hstep
    | exact halone.leave hstep
    | simp at hstep
    | split at hstep
      · first | exact halone.at? hstep | exact halone.leave hstep
      · first | exact halone.at? hstep | exact halone.leave hstep

theorem Alone.step {fate : Fate} (halone : Alone s op)
    (hstep : s.act (.step op fate) = some t) :
    Alone t op := by
  simp only [State.act] at hstep
  split at hstep
  · simp at hstep
  · exact halone.stepUpload hstep
  · rename_i point hrunning
    exact absurd hrunning (halone.2 point)

theorem Alone.upload {key : CoverKey} (halone : Alone s op)
    (hstep : s.act (.upload op key) = some t) :
    Alone t op := by
  simp only [State.act] at hstep
  split at hstep
  · exact halone.start hstep
  · simp at hstep

theorem Alone.orderly (halone : Alone s op) : Orderly s (.step op .done) := by
  intro operation hrunning
  constructor
  · rintro - - other hne ⟨running, hother, -⟩
    simp [halone.1 other hne] at hother
  · rcases operation with upload | point
    · trivial
    · exact absurd hrunning (halone.2 point)

/-- What an upload does. -/
def ofUpload (op : Op) : Action → Bool
  | .upload other _ => other = op
  | .step other _ => other = op
  | .removal _ => false

def fails : Action → Bool
  | .step _ fate => fate ≠ .done
  | _ => false

theorem ofUpload_cases {a : Action} (hupload : ofUpload op a = true) :
    (∃ fate, a = .step op fate) ∨ ∃ key, a = .upload op key := by
  rcases a with ⟨other, key⟩ | other | ⟨other, fate⟩
  · obtain rfl : other = op := by simpa [ofUpload] using hupload
    exact Or.inr ⟨key, rfl⟩
  · simp [ofUpload] at hupload
  · obtain rfl : other = op := by simpa [ofUpload] using hupload
    exact Or.inl ⟨fate, rfl⟩

theorem Alone.follow {actions : List Action} (halone : Alone s op)
    (hactions : ∀ a ∈ actions, ofUpload op a = true) (hfails : ∀ a ∈ actions, fails a = false) :
    StepsMeet Orderly s (follow State.act s actions) := by
  induction actions generalizing s with
  | nil => trivial
  | cons a rest ih =>
      have hrest := fun b hb => hactions b (List.mem_cons_of_mem a hb)
      have hfine := fun b hb => hfails b (List.mem_cons_of_mem a hb)
      rcases hact : s.act a with _ | t
      · simp [TransitionSystem.follow, hact]
      · simp only [TransitionSystem.follow, hact, stepsMeet_cons]
        rcases ofUpload_cases (hactions a List.mem_cons_self) with ⟨fate, rfl⟩ | ⟨key, rfl⟩
        · obtain rfl : fate = .done := by simpa [fails] using hfails _ List.mem_cons_self
          exact ⟨halone.orderly, ih (halone.step hact) hrest hfine⟩
        · exact ⟨trivial, ih (halone.upload hact) hrest hfine⟩

theorem Alone.lastOf {actions : List Action} (halone : Alone s op)
    (hactions : ∀ a ∈ actions, ofUpload op a = true) :
    Alone (lastOf s (TransitionSystem.follow State.act s actions)) op := by
  induction actions generalizing s with
  | nil => exact halone
  | cons a rest ih =>
      have hrest := fun b hb => hactions b (List.mem_cons_of_mem a hb)
      rcases hact : s.act a with _ | t
      · simpa [TransitionSystem.follow, hact, TransitionSystem.lastOf] using halone
      · simp only [TransitionSystem.follow, hact, TransitionSystem.lastOf]
        rcases ofUpload_cases (hactions a List.mem_cons_self) with ⟨fate, rfl⟩ | ⟨key, rfl⟩
        · exact ih (halone.step hact) hrest
        · exact ih (halone.upload hact) hrest

theorem Alone.quiet (halone : Alone s op) (hover : s.running op = none) : s.Quiet := by
  intro other
  by_cases hne : other = op
  · exact hne ▸ hover
  · exact halone.1 other hne

/-- An entity that never had a cover. -/
def uncovered : State where
  disk _ := none
  coverKey := none
  running _ := none

theorem uncovered_initial : coverSystem.initial uncovered :=
  ⟨fun _ => rfl, fun hkey => absurd rfl hkey⟩

theorem uncovered_alone : Alone uncovered 0 :=
  ⟨fun _ _ => rfl, fun _ => by simp [uncovered]⟩

def firstUpload (key : CoverKey) : List Action :=
  .upload 0 key :: List.replicate 10 (.step 0 .done)

/-- An upload over an earlier cover, up to its commit. -/
def replacement (key : CoverKey) : List Action :=
  .upload 0 key :: List.replicate 11 (.step 0 .done)

theorem cover_served_after_upload :
    (lastOf uncovered (follow State.act uncovered
      (firstUpload ⟨1, .jpeg⟩ ++ replacement ⟨2, .png⟩ ++ [.step 0 .done]))).coverKey =
        some ⟨2, .png⟩ ∧
      (lastOf uncovered (follow State.act uncovered
        (firstUpload ⟨1, .jpeg⟩ ++ replacement ⟨2, .png⟩ ++ [.step 0 .done]))).CoverServed :=
  ⟨by decide +kernel,
    cover_served uncovered _ uncovered_initial (isRun_follow _ State.act uncovered _)
      (uncovered_alone.follow (by decide) (by decide)) _ (lastOf_mem_visited _ _)
      ((uncovered_alone.lastOf (by decide)).quiet (by decide +kernel))⟩

/-- The commit of an upload over a cover of another format fails. -/
def failedCommit : List Action :=
  firstUpload ⟨1, .jpeg⟩ ++ replacement ⟨2, .png⟩ ++ [.step 0 .failed]

theorem failed_commit_loses_cover :
    ¬ ∀ (s : State) (run : List (Action × State)), coverSystem.initial s →
      coverSystem.IsRun s run → ∀ t ∈ visited s run, t.Quiet → t.CoverServed := by
  intro hserved
  have hlast := hserved uncovered (follow State.act uncovered failedCommit) uncovered_initial
    (isRun_follow _ State.act uncovered failedCommit) _ (lastOf_mem_visited _ _)
    ((uncovered_alone.lastOf (by decide)).quiet (by decide +kernel)) (by decide +kernel)
  exact absurd hlast (by decide +kernel)

end Songmaker.Covers.CoverServed
