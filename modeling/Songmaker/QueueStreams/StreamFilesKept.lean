import Mathlib.Data.List.ProdSigma
import Songmaker.QueueStreams.StreamFiles

namespace Songmaker.QueueStreams.StreamFilesKept

open Songmaker.Foundation
open Songmaker.QueueStreams.StreamFiles

/-- A snapshot is being built, or is about to be returned to another request. -/
def Busy (state : State) (id : Nat) : Prop :=
  (state.builds id).isSome ∨ ∃ request, state.reuses request = some id

/-- Whether a step spares the busy snapshots. A pass decides on a snapshot when
it meets a manifest that is not live, a file that is too old, or, with all
audio measured, the oldest files above the quota. -/
def SparesBusy (state : State) : Action → Prop
  | .pass owner _ => ∀ pass, state.passes owner = some pass → pass.unlinks = [] →
      match pass.phase with
      | .manifests _ (id :: _) _ => isLive state.dir pass.now id = false → ¬ Busy state id
      | .orphans (file :: _) live =>
          file.1 ∉ live → isOld state.dir pass.now file → ¬ Busy state file.1
      | .measuring [] sized => ∀ id ∈ evictionPlan owner sized, ¬ Busy state id
      | _ => True
  | .reuse _ id => ∀ owner pass, state.passes owner = some pass →
      ∀ file ∈ pass.unlinks, file.1 ≠ id
  | _ => True

/-- Cleanup has taken no file from a build in progress, and no snapshot was
returned without its audio. -/
def Kept (state : State) : Prop :=
  state.removed = [] ∧ state.returned = []

/-- The output is in place. -/
def hasOutput : BuildPhase → Bool
  | .unlinkConcat failed => !failed
  | .unlinkTemp failed => !failed
  | .writeManifest => true
  | .replaceManifest => true
  | .unlinkManifestTmp failed => !failed
  | .enforceQuota => true
  | _ => false

/-- The snapshots that a pass has yet to look at or remove. -/
def passNames : PassPhase → List Nat
  | .manifests _ ids _ => ids
  | .orphans files _ => files.map Prod.fst
  | .measuring files sized => files.map Prod.fst ++ sized.map SizedFile.snapshotId
  | .done => []

/-- A pass knows no snapshot of a later build, and unlinks no file that is busy. -/
structure KnownPass (state : State) (pass : Pass) : Prop where
  names : ∀ id ∈ passNames pass.phase, id < state.nextSnapshot
  unlinks : ∀ file ∈ pass.unlinks, file.1 < state.nextSnapshot
  spared : ∀ file ∈ pass.unlinks, ¬ Busy state file.1

/-- What a run keeps in which no pass meets a file that is newly busy. -/
structure Quiet (state : State) : Prop where
  builds : ∀ id, (state.builds id).isSome → id < state.nextSnapshot
  files : ∀ id kind, (state.dir id kind).isSome → id < state.nextSnapshot
  passes : ∀ owner pass, state.passes owner = some pass → KnownPass state pass
  outputs : ∀ id phase, state.builds id = some phase → hasOutput phase = true →
    (state.dir id .audio).isSome
  reused : ∀ request id, state.reuses request = some id → (state.dir id .audio).isSome
  kept : Kept state

section Frames

variable {state state' : State}

theorem KnownPass.mono {pass : Pass} (h : KnownPass state pass)
    (hnext : state.nextSnapshot ≤ state'.nextSnapshot)
    (hbusy : ∀ file ∈ pass.unlinks, Busy state' file.1 → Busy state file.1) :
    KnownPass state' pass where
  names := fun id hid => (h.names id hid).trans_le hnext
  unlinks := fun file hfile => (h.unlinks file hfile).trans_le hnext
  spared := fun file hfile hbusy' => h.spared file hfile (hbusy file hfile hbusy')

theorem Quiet.of_build (h : Quiet state) {id : Nat} (hid : (state.builds id).isSome)
    (hdir : ∀ id' kind, id' ≠ id → state'.dir id' kind = state.dir id' kind)
    (haudio : (state.dir id .audio).isSome → (state'.dir id .audio).isSome)
    (hbuilds : ∀ id', id' ≠ id → state'.builds id' = state.builds id')
    (houtput : ∀ phase, state'.builds id = some phase → hasOutput phase = true →
      (state'.dir id .audio).isSome)
    (hpasses : state'.passes = state.passes) (hreuses : state'.reuses = state.reuses)
    (hnext : state'.nextSnapshot = state.nextSnapshot) (hkept : Kept state') : Quiet state' where
  builds := by
    intro id' hid'
    rw [hnext]
    rcases eq_or_ne id' id with rfl | hne
    · exact h.builds id' hid
    · exact h.builds id' (hbuilds id' hne ▸ hid')
  files := by
    intro id' kind hfile
    rw [hnext]
    rcases eq_or_ne id' id with rfl | hne
    · exact h.builds id' hid
    · exact h.files id' kind (hdir id' kind hne ▸ hfile)
  passes := by
    intro owner pass hpass
    refine (h.passes owner pass (hpasses ▸ hpass)).mono hnext.ge fun file _ hbusy => ?_
    rcases hbusy with hbuild | ⟨request, hreuse⟩
    · rcases eq_or_ne file.1 id with heq | hne
      · exact .inl (heq ▸ hid)
      · exact .inl (hbuilds _ hne ▸ hbuild)
    · exact .inr ⟨request, hreuses ▸ hreuse⟩
  outputs := by
    intro id' phase hphase hout
    rcases eq_or_ne id' id with rfl | hne
    · exact houtput phase hphase hout
    · rw [hdir id' _ hne]
      exact h.outputs id' phase (hbuilds id' hne ▸ hphase) hout
  reused := by
    intro request id' hreuse
    have hold := h.reused request id' (hreuses ▸ hreuse)
    rcases eq_or_ne id' id with rfl | hne
    · exact haudio hold
    · rwa [hdir id' _ hne]
  kept := hkept

theorem Quiet.setPass (h : Quiet state) (owner : Owner) {pass : Option Pass}
    (hpass : ∀ p, pass = some p → KnownPass state p) : Quiet (state.setPass owner pass) where
  builds := h.builds
  files := h.files
  passes := by
    intro owner' p hp
    have hknown : KnownPass state p := by
      rcases eq_or_ne owner' owner with rfl | hne
      · exact hpass p (by simpa [State.setPass] using hp)
      · exact h.passes owner' p (by simpa [State.setPass, hne] using hp)
    exact hknown.mono le_rfl fun _ _ hbusy => hbusy
  outputs := h.outputs
  reused := h.reused
  kept := h.kept

theorem mem_listing {p : FileKind → Bool} {listing : List (Nat × FileKind)}
    (h : state.Lists p listing) : ∀ file ∈ listing, file.1 < state.nextSnapshot := by
  rintro ⟨id, kind⟩ hfile
  have hmem := h.mem_iff.mp hfile
  exact List.mem_range.mp (List.mem_product.mp (List.mem_filter.mp hmem).1).1

end Frames

section Builds

variable {state state' : State}

theorem dir_setFile (id id' : Nat) (kind kind' : FileKind) (file : Option CacheFile) :
    (state.setFile id kind file).dir id' kind' =
      if id' = id ∧ kind' = kind then file else state.dir id' kind' := by
  unfold State.setFile
  dsimp only
  rcases eq_or_ne id' id with rfl | hne
  · rw [Function.update_self]
    rcases eq_or_ne kind' kind with rfl | hkind
    · simp
    · simp [hkind]
  · simp [hne]

theorem dir_setFile_other {id id' : Nat} {kind kind' : FileKind} (hne : kind' ≠ kind)
    {file : Option CacheFile} :
    (state.setFile id kind file).dir id' kind' = state.dir id' kind' := by
  rw [dir_setFile, if_neg fun hsame => hne hsame.2]

/-- A build that goes from one phase to another, and changes one of its files
that is not its audio. -/
theorem Quiet.setBuild (h : Quiet state) {id : Nat} (hid : (state.builds id).isSome)
    {phase : Option BuildPhase}
    (houtput : ∀ p, phase = some p → hasOutput p = true → (state.dir id .audio).isSome) :
    Quiet (state.setBuild id phase) := by
  refine h.of_build hid (fun _ _ _ => rfl) (fun haudio => haudio) ?_ ?_ rfl rfl rfl h.kept
  · exact fun id' hne => Function.update_of_ne hne _ _
  · intro p hp
    exact houtput p (by simpa [State.setBuild] using hp)

theorem Quiet.setFile (h : Quiet state) {id : Nat} (hid : (state.builds id).isSome)
    {kind : FileKind} {file : Option CacheFile} (hfile : kind ≠ .audio ∨ file.isSome) :
    Quiet (state.setFile id kind file) := by
  have haudio : (state.dir id .audio).isSome →
      ((state.setFile id kind file).dir id .audio).isSome := by
    intro hold
    rw [dir_setFile]
    split_ifs with hsame
    · exact hfile.resolve_left (not_not.mpr hsame.2.symm)
    · exact hold
  refine h.of_build hid ?_ haudio (fun _ _ => rfl) ?_ rfl rfl rfl h.kept
  · intro id' kind' hne
    rw [dir_setFile, if_neg fun hsame => hne hsame.1]
  · exact fun phase hphase hout => haudio (h.outputs id phase hphase hout)

theorem Quiet.setUnpublished (h : Quiet state) {id : Nat} (hid : (state.builds id).isSome)
    {phase : BuildPhase} (hphase : hasOutput phase = false) :
    Quiet (state.setBuild id (some phase)) := by
  refine h.setBuild hid ?_
  rintro _ ⟨⟩ hout
  exact absurd (hphase.symm.trans hout) (by decide)

theorem Quiet.returnSnapshot (h : Quiet state) {id : Nat}
    (haudio : (state.dir id .audio).isSome) : Quiet (state.returnSnapshot id) := by
  have hreturned : state.returnSnapshot id = state := by
    rw [State.returnSnapshot, State.exists?, if_pos haudio]
  rwa [hreturned]

theorem Quiet.buildStep (h : Quiet state) {id : Nat} {outcome : Outcome}
    {listing : List (Nat × FileKind)} {phase : BuildPhase} (hphase : state.builds id = some phase)
    (hstep : buildStep state id outcome listing phase = some state') : Quiet state' := by
  have hid : (state.builds id).isSome := Option.isSome_of_eq_some hphase
  have houtput := h.outputs id phase hphase
  cases phase with
  | writeConcat =>
      cases outcome
      case fails =>
        obtain rfl := Option.some.inj hstep
        exact h.setUnpublished hid (by rfl)
      all_goals
        obtain rfl := Option.some.inj hstep
        exact (h.setFile hid (.inl (by decide))).setUnpublished hid (by rfl)
  | ffmpeg opened =>
      cases outcome with
      | succeeds =>
          obtain rfl := Option.some.inj hstep
          exact h.setUnpublished hid (by rfl)
      | fails =>
          obtain rfl := Option.some.inj hstep
          exact h.setUnpublished hid (by rfl)
      | writes size =>
          simp only [StreamFiles.buildStep] at hstep
          split_ifs at hstep
          · obtain rfl := Option.some.inj hstep
            exact h
          · obtain rfl := Option.some.inj hstep
            exact (h.setFile hid (.inl (by decide))).setUnpublished hid (by rfl)
  | unlinkOutput =>
      obtain rfl := Option.some.inj hstep
      exact (h.setFile hid (.inl (by decide))).setUnpublished hid (by rfl)
  | replaceOutput =>
      simp only [StreamFiles.buildStep] at hstep
      split at hstep
      · obtain rfl := Option.some.inj hstep
        exact h.setUnpublished hid (by rfl)
      · rename_i file hfile
        obtain rfl := Option.some.inj hstep
        have htemp : Quiet (state.setFile id .tempAudio none) := h.setFile hid (.inl (by decide))
        refine (htemp.setFile hid (.inr rfl)).setBuild hid fun _ _ _ => ?_
        rw [dir_setFile, if_pos ⟨rfl, rfl⟩]
        rfl
  | unlinkConcat failed =>
      obtain rfl := Option.some.inj hstep
      refine (h.setFile hid (.inl (by decide))).setBuild hid ?_
      rintro _ ⟨⟩ hout
      rw [dir_setFile_other (by decide)]
      exact houtput hout
  | unlinkTemp failed =>
      obtain rfl := Option.some.inj hstep
      refine (h.setFile hid (.inl (by decide))).setBuild hid ?_
      intro p hp hout
      rw [dir_setFile_other (by decide)]
      cases failed
      · exact houtput rfl
      · cases hp
  | writeManifest =>
      cases outcome
      case fails =>
        obtain rfl := Option.some.inj hstep
        exact h.setUnpublished hid (by rfl)
      all_goals
        obtain rfl := Option.some.inj hstep
        refine (h.setFile hid (.inl (by decide))).setBuild hid fun _ _ _ => ?_
        rw [dir_setFile_other (by decide)]
        exact houtput rfl
  | replaceManifest =>
      simp only [StreamFiles.buildStep] at hstep
      split at hstep
      · obtain rfl := Option.some.inj hstep
        exact h.setUnpublished hid (by rfl)
      · rename_i file hfile
        obtain rfl := Option.some.inj hstep
        have htemp : Quiet (state.setFile id .manifestTmp none) := h.setFile hid (.inl (by decide))
        refine (htemp.setFile hid (.inl (by decide))).setBuild hid fun _ _ _ => ?_
        rw [dir_setFile_other (by decide), dir_setFile_other (by decide)]
        exact houtput rfl
  | unlinkManifestTmp failed =>
      cases failed
      case true =>
        obtain rfl := Option.some.inj hstep
        exact (h.setFile hid (.inl (by decide))).setBuild hid fun _ hp => (nomatch hp)
      case false =>
        simp only [StreamFiles.buildStep] at hstep
        split_ifs at hstep with hlists
        obtain rfl := Option.some.inj hstep
        have hbuilt : Quiet ((state.setFile id .manifestTmp none).setBuild id
            (some .enforceQuota)) := by
          refine (h.setFile hid (.inl (by decide))).setBuild hid fun _ _ _ => ?_
          rw [dir_setFile_other (by decide)]
          exact houtput rfl
        refine hbuilt.setPass _ ?_
        rintro _ ⟨⟩
        refine ⟨?_, fun _ hfile => (nomatch hfile), fun _ hfile => (nomatch hfile)⟩
        intro name hname
        rw [passNames, List.map_nil, List.append_nil] at hname
        obtain ⟨file, hfile, rfl⟩ := List.mem_map.mp hname
        exact mem_listing hlists file hfile
  | enforceQuota =>
      simp only [StreamFiles.buildStep] at hstep
      split_ifs at hstep
      obtain rfl := Option.some.inj hstep
      have hreturned := h.returnSnapshot (houtput rfl)
      refine hreturned.setBuild ?_ fun _ hp => (nomatch hp)
      exact hid

end Builds

section Passes

variable {state state' : State}

theorem evicted_mem {isProtected : Nat → Bool} {sized : List SizedFile} {totalBytes : Nat} :
    ∀ id ∈ evicted isProtected sized totalBytes, id ∈ sized.map SizedFile.snapshotId := by
  induction sized generalizing totalBytes with
  | nil => exact fun id hid => (nomatch hid)
  | cons file files ih =>
      intro id hid
      rw [evicted] at hid
      rw [List.map_cons]
      split_ifs at hid with hbytes hprotected
      · cases hid
      · exact List.mem_cons_of_mem _ (ih id hid)
      · rcases List.mem_cons.mp hid with rfl | hid
        · exact List.mem_cons_self
        · exact List.mem_cons_of_mem _ (ih id hid)

theorem evictionPlan_mem {owner : Owner} {sized : List SizedFile} :
    ∀ id ∈ evictionPlan owner sized, id ∈ sized.map SizedFile.snapshotId := by
  intro id hid
  have hsorted := evicted_mem id hid
  exact ((List.perm_insertionSort _ sized).map _).mem_iff.mp hsorted

theorem mem_snapshotFiles {id : Nat} : ∀ file ∈ snapshotFiles id, file.1 = id := by
  intro file hfile
  obtain ⟨kind, -, rfl⟩ := List.mem_map.mp hfile
  rfl

theorem Quiet.unlink (h : Quiet state) {file : Nat × FileKind} (hfree : ¬ Busy state file.1) :
    Quiet (state.setFile file.1 file.2 none) where
  builds := h.builds
  files := by
    intro id kind hfile
    rw [dir_setFile] at hfile
    split_ifs at hfile
    · cases hfile
    · exact h.files id kind hfile
  passes := fun owner pass hpass => (h.passes owner pass hpass).mono le_rfl fun _ _ hbusy => hbusy
  outputs := by
    intro id phase hphase hout
    have hne : id ≠ file.1 := by
      rintro rfl
      exact hfree (.inl (Option.isSome_of_eq_some hphase))
    rw [dir_setFile, if_neg fun hsame => hne hsame.1]
    exact h.outputs id phase hphase hout
  reused := by
    intro request id hreuse
    have hne : id ≠ file.1 := by
      rintro rfl
      exact hfree (.inr ⟨request, hreuse⟩)
    rw [dir_setFile, if_neg fun hsame => hne hsame.1]
    exact h.reused request id hreuse
  kept := h.kept

theorem Quiet.passStep (h : Quiet state) {owner : Owner} {listing : List (Nat × FileKind)}
    {pass : Pass} (hpass : state.passes owner = some pass)
    (hspares : SparesBusy state (.pass owner listing))
    (hstep : passStep state owner listing pass = some state') : Quiet state' := by
  obtain ⟨hnames, hunlinks, hspared⟩ := h.passes owner pass hpass
  have hdecides := hspares pass hpass
  obtain ⟨now, unlinks, phase⟩ := pass
  cases unlinks with
  | cons file unlinks =>
      have hfree := hspared file List.mem_cons_self
      have hremoved : (state.exists? file && (state.builds file.1).isSome) = false := by
        rw [Bool.and_eq_false_iff]
        exact .inr (Bool.eq_false_iff.mpr fun hbuild => hfree (.inl hbuild))
      rw [StreamFiles.passStep] at hstep
      dsimp only at hstep
      rw [hremoved] at hstep
      obtain rfl := Option.some.inj hstep
      refine (h.unlink hfree).setPass owner ?_
      rintro _ ⟨⟩
      exact ⟨hnames, fun file' hfile' => hunlinks file' (List.mem_cons_of_mem _ hfile'),
        fun file' hfile' => hspared file' (List.mem_cons_of_mem _ hfile')⟩
  | nil =>
      have hquiet : ∀ {phase : PassPhase} {unlinks : List (Nat × FileKind)},
          (∀ id ∈ passNames phase, id < state.nextSnapshot) →
          (∀ file ∈ unlinks, file.1 < state.nextSnapshot ∧ ¬ Busy state file.1) →
            Quiet (state.setPass owner (some ⟨now, unlinks, phase⟩)) := by
        intro phase unlinks hnames hfree
        refine h.setPass owner ?_
        rintro _ ⟨⟩
        exact ⟨hnames, fun file hfile => (hfree file hfile).1,
          fun file hfile => (hfree file hfile).2⟩
      have hnone : ∀ file ∈ ([] : List (Nat × FileKind)),
          file.1 < state.nextSnapshot ∧ ¬ Busy state file.1 := fun _ hfile => (nomatch hfile)
      have hlisted : ∀ {p : FileKind → Bool}, state.Lists p listing →
          ∀ id ∈ listing.map Prod.fst, id < state.nextSnapshot := by
        intro p hlists id hid
        obtain ⟨file, hfile, rfl⟩ := List.mem_map.mp hid
        exact mem_listing hlists file hfile
      replace hdecides := hdecides rfl
      rcases phase with ⟨sweeps, ids, live⟩ | ⟨files, live⟩ | ⟨files, sized⟩ | _
      · cases ids with
        | nil =>
            cases sweeps with
            | false =>
                obtain rfl := Option.some.inj hstep
                exact hquiet (fun _ hid => (nomatch hid)) hnone
            | true =>
                simp only [StreamFiles.passStep] at hstep
                split_ifs at hstep with hlists
                obtain rfl := Option.some.inj hstep
                exact hquiet (hlisted hlists) hnone
        | cons id ids =>
            have hrest : ∀ id' ∈ ids, id' < state.nextSnapshot := fun id' hid' =>
              hnames id' (List.mem_cons_of_mem _ hid')
            simp only [StreamFiles.passStep] at hstep
            split_ifs at hstep with hlive
            · obtain rfl := Option.some.inj hstep
              exact hquiet hrest hnone
            · obtain rfl := Option.some.inj hstep
              refine hquiet hrest fun file hfile => ?_
              rw [mem_snapshotFiles file hfile]
              exact ⟨hnames id List.mem_cons_self, hdecides (Bool.eq_false_iff.mpr hlive)⟩
      · cases files with
        | nil =>
            simp only [StreamFiles.passStep] at hstep
            split_ifs at hstep with hlists
            obtain rfl := Option.some.inj hstep
            refine hquiet ?_ hnone
            rw [passNames, List.map_nil, List.append_nil]
            exact hlisted hlists
        | cons file files =>
            have hrest : ∀ id ∈ files.map Prod.fst, id < state.nextSnapshot := fun id hid =>
              hnames id (List.mem_cons_of_mem _ hid)
            simp only [StreamFiles.passStep] at hstep
            split_ifs at hstep with hold
            · obtain rfl := Option.some.inj hstep
              refine hquiet hrest fun file' hfile' => ?_
              rw [List.mem_singleton.mp hfile']
              exact ⟨hnames file.1 List.mem_cons_self, hdecides hold.1 hold.2⟩
            · obtain rfl := Option.some.inj hstep
              exact hquiet hrest hnone
      · cases files with
        | nil =>
            obtain rfl := Option.some.inj hstep
            refine hquiet (fun _ hid => (nomatch hid)) fun file hfile => ?_
            obtain ⟨id, hid, hfile⟩ := List.mem_flatMap.mp hfile
            rw [mem_snapshotFiles file hfile]
            exact ⟨hnames id (evictionPlan_mem id hid), hdecides id hid⟩
        | cons file files =>
            obtain rfl := Option.some.inj hstep
            refine hquiet ?_ hnone
            intro id hid
            rcases List.mem_append.mp hid with hid | hid
            · exact hnames id (List.mem_cons_of_mem _ (List.mem_append_left _ hid))
            · have hsized : id = file.1 ∨ id ∈ sized.map SizedFile.snapshotId := by
                revert hid
                split
                · exact .inr
                · rw [List.map_append, List.mem_append]
                  rintro (hid | hid)
                  · exact .inr hid
                  · exact .inl (List.mem_singleton.mp hid)
              rcases hsized with rfl | hsized
              · exact hnames _ List.mem_cons_self
              · exact hnames id (List.mem_cons_of_mem _ (List.mem_append_right _ hsized))
      · obtain rfl := Option.some.inj hstep
        exact h.setPass owner fun _ hp => (nomatch hp)

end Passes

section Run

variable {state state' : State}

theorem Quiet.startBuild (h : Quiet state) : Quiet state.startBuild where
  builds := by
    intro id hid
    rcases eq_or_ne id state.nextSnapshot with rfl | hne
    · exact Nat.lt_succ_self _
    · have hold : (state.builds id).isSome := by
        simpa [State.startBuild, State.setBuild, hne] using hid
      exact (h.builds id hold).trans (Nat.lt_succ_self _)
  files := fun id kind hfile => (h.files id kind hfile).trans (Nat.lt_succ_self _)
  passes := by
    intro owner pass hpass
    refine (h.passes owner pass hpass).mono (Nat.le_succ _) fun file hfile hbusy => ?_
    have hne : file.1 ≠ state.nextSnapshot := ((h.passes owner pass hpass).unlinks file hfile).ne
    rcases hbusy with hbuild | hreuse
    · exact .inl (by simpa [State.startBuild, State.setBuild, hne] using hbuild)
    · exact .inr hreuse
  outputs := by
    intro id phase hphase hout
    rcases eq_or_ne id state.nextSnapshot with rfl | hne
    · obtain rfl : BuildPhase.writeConcat = phase := by
        simpa [State.startBuild, State.setBuild] using hphase
      cases hout
    · exact h.outputs id phase (by simpa [State.startBuild, State.setBuild, hne] using hphase) hout
  reused := h.reused
  kept := h.kept

theorem Quiet.setReuse (h : Quiet state) (request : Nat) {reused : Option Nat}
    (haudio : ∀ id, reused = some id → (state.dir id .audio).isSome)
    (hfree : ∀ id, reused = some id → ∀ owner pass, state.passes owner = some pass →
      ∀ file ∈ pass.unlinks, file.1 ≠ id) :
    Quiet { state with reuses := Function.update state.reuses request reused } where
  builds := h.builds
  files := h.files
  passes := by
    intro owner pass hpass
    refine (h.passes owner pass hpass).mono le_rfl fun file hfile hbusy => ?_
    rcases hbusy with hbuild | ⟨request', hreuse⟩
    · exact .inl hbuild
    · rcases eq_or_ne request' request with rfl | hne
      · have hid : reused = some file.1 := by simpa using hreuse
        exact absurd rfl (hfree file.1 hid owner pass hpass file hfile)
      · exact .inr ⟨request', by simpa [hne] using hreuse⟩
  outputs := h.outputs
  reused := by
    intro request' id hreuse
    rcases eq_or_ne request' request with rfl | hne
    · exact haudio id (by simpa using hreuse)
    · exact h.reused request' id (by simpa [hne] using hreuse)
  kept := h.kept

theorem Quiet.startPass (h : Quiet state) {owner : Owner} {sweeps : Bool} {ids : List Nat}
    (hids : ∀ id ∈ ids, id < state.nextSnapshot) :
    Quiet (state.setPass owner (some ⟨state.now, [], .manifests sweeps ids []⟩)) := by
  refine h.setPass _ ?_
  rintro _ ⟨⟩
  exact ⟨hids, fun _ hfile => (nomatch hfile), fun _ hfile => (nomatch hfile)⟩

theorem Quiet.act (h : Quiet state) {action : Action} (hspares : SparesBusy state action)
    (hstep : act state action = some state') : Quiet state' := by
  cases action with
  | startBuild =>
      obtain rfl := Option.some.inj hstep
      exact h.startBuild
  | build id outcome listing =>
      obtain ⟨phase, hphase, hstep⟩ := Option.bind_eq_some_iff.mp hstep
      exact h.buildStep hphase hstep
  | startCleanup pass listing =>
      simp only [StreamFiles.act] at hstep
      split_ifs at hstep with hrunning hlists
      obtain rfl := Option.some.inj hstep
      refine h.startPass fun id hid => ?_
      obtain ⟨file, hfile, rfl⟩ := List.mem_map.mp hid
      exact mem_listing hlists file hfile
  | startExpired pass id =>
      simp only [StreamFiles.act] at hstep
      split_ifs at hstep with hmissing
      obtain rfl := Option.some.inj hstep
      refine h.startPass fun id' hid' => ?_
      rw [List.mem_singleton.mp hid']
      have hthere := (not_or.mp hmissing).2
      rw [Bool.not_eq_true', Bool.not_eq_false] at hthere
      exact h.files id .manifest hthere
  | pass owner listing =>
      obtain ⟨pass, hpass, hstep⟩ := Option.bind_eq_some_iff.mp hstep
      exact h.passStep hpass hspares hstep
  | reuse request id =>
      simp only [StreamFiles.act] at hstep
      split_ifs at hstep with hfound
      obtain rfl := Option.some.inj hstep
      have haudio := (Bool.and_eq_true_iff.mp hfound).2
      refine h.setReuse request ?_ ?_
      · rintro _ ⟨⟩
        exact haudio
      · rintro _ ⟨⟩
        exact hspares
  | returnReused request =>
      obtain ⟨id, hid, hstep⟩ := Option.bind_eq_some_iff.mp hstep
      obtain rfl := Option.some.inj hstep
      exact (h.returnSnapshot (h.reused request id hid)).setReuse request
        (fun _ hnone => (nomatch hnone)) fun _ hnone => (nomatch hnone)
  | tick now =>
      simp only [StreamFiles.act] at hstep
      split_ifs at hstep
      obtain rfl := Option.some.inj hstep
      refine ⟨h.builds, h.files, fun owner pass hpass => ?_, h.outputs, h.reused, h.kept⟩
      exact (h.passes owner pass hpass).mono le_rfl fun _ _ hbusy => hbusy
  | restart =>
      obtain rfl := Option.some.inj hstep
      exact ⟨fun _ hbuild => (nomatch hbuild), h.files, fun _ _ hpass => (nomatch hpass),
        fun _ _ hphase => (nomatch hphase), fun _ _ hreuse => (nomatch hreuse), h.kept⟩

end Run

theorem quiet_invariant : (streamFiles.restrict SparesBusy).Invariant Quiet where
  initial := by
    rintro state rfl
    refine ⟨?_, ?_, ?_, ?_, ?_, rfl, rfl⟩
    · exact fun _ hbuild => (nomatch hbuild)
    · exact fun _ _ hfile => (nomatch hfile)
    · exact fun _ _ hpass => (nomatch hpass)
    · exact fun _ _ hphase => (nomatch hphase)
    · exact fun _ _ hreuse => (nomatch hreuse)
  step := by
    rintro state action state' hquiet ⟨hspares, hstep⟩
    exact hquiet.act hspares hstep

/-- Where no pass decides on a busy snapshot, and no request reuses a snapshot
that a pass is removing, the builds keep their files and every returned snapshot
has its audio. -/
theorem stream_files_kept {state : State}
    (hstate : (streamFiles.restrict SparesBusy).Reachable state) : Kept state :=
  (quiet_invariant.of_reachable hstate).kept

/-- A build that succeeds, up to its quota pass. -/
def buildActions (id size : Nat) (listing : List (Nat × FileKind)) : List Action :=
  [.build id .succeeds [], .build id (.writes size) [], .build id .succeeds [],
    .build id .succeeds [], .build id .succeeds [], .build id .succeeds [],
    .build id .succeeds [], .build id .succeeds [], .build id .succeeds listing]

def followed (actions : List Action) : State :=
  TransitionSystem.lastOf emptyState (TransitionSystem.follow act emptyState actions)

/-! ### Three builds, one after another -/

theorem reuses_buildStep {state state' : State} {id : Nat} {outcome : Outcome}
    {listing : List (Nat × FileKind)} {phase : BuildPhase}
    (h : buildStep state id outcome listing phase = some state') :
    state'.reuses = state.reuses := by
  unfold buildStep at h
  split at h
  all_goals try split at h
  all_goals try split at h
  all_goals first
    | exact (congrArg State.reuses (Option.some.inj h)).symm
    | contradiction

theorem reuses_passStep {state state' : State} {owner : Owner}
    {listing : List (Nat × FileKind)} {pass : Pass}
    (h : passStep state owner listing pass = some state') :
    state'.reuses = state.reuses := by
  unfold passStep at h
  split at h
  · exact (congrArg State.reuses (Option.some.inj h)).symm
  · split at h
    all_goals try split at h
    all_goals first
      | exact (congrArg State.reuses (Option.some.inj h)).symm
      | contradiction

/-- A step of a build, or of a quota pass that decides on no build under way. -/
def sparesBuilds (state : State) : Action → Bool
  | .startBuild | .build .. => true
  | .pass owner _ => (state.passes owner).all fun pass => !pass.unlinks.isEmpty ||
      match pass.phase with
      | .measuring [] sized => (evictionPlan owner sized).all fun id => (state.builds id).isNone
      | .measuring (_ :: _) _ | .done => true
      | .manifests .. | .orphans .. => false
  | _ => false

theorem sparesBusy_of_sparesBuilds {state : State} {action : Action}
    (hnone : ∀ request, state.reuses request = none) (h : sparesBuilds state action = true) :
    SparesBusy state action := by
  cases action with
  | pass owner listing =>
      intro pass hpass hunlinks
      rw [sparesBuilds, hpass, Option.all_some, hunlinks] at h
      cases hphase : pass.phase with
      | manifests => simp [hphase] at h
      | orphans => simp [hphase] at h
      | done => trivial
      | measuring files sized =>
          cases files with
          | cons => trivial
          | nil =>
              rintro id hid (hbuild | ⟨request, hreuse⟩)
              · rw [hphase] at h
                have hfree := List.all_eq_true.mp h id hid
                rw [Option.isNone_iff_eq_none] at hfree
                rw [hfree] at hbuild
                exact absurd hbuild Bool.false_ne_true
              · exact absurd ((hnone request).symm.trans hreuse) (Option.some_ne_none id).symm
  | reuse => exact absurd h Bool.false_ne_true
  | _ => trivial

theorem reuses_act {state state' : State} {action : Action}
    (hstep : streamFiles.step state action state') (h : sparesBuilds state action = true) :
    state'.reuses = state.reuses := by
  cases action with
  | startBuild => exact (congrArg State.reuses (Option.some.inj hstep)).symm
  | build id outcome listing =>
      obtain ⟨phase, -, hstep⟩ := Option.bind_eq_some_iff.mp hstep
      exact reuses_buildStep hstep
  | pass owner listing =>
      obtain ⟨pass, -, hstep⟩ := Option.bind_eq_some_iff.mp hstep
      exact reuses_passStep hstep
  | _ => exact absurd h Bool.false_ne_true

theorem stepsMeet_sparesBusy {state : State} {run : List (Action × State)}
    (hrun : streamFiles.IsRun state run) (hnone : ∀ request, state.reuses request = none)
    (hmeet : TransitionSystem.StepsMeet (fun s a => sparesBuilds s a = true) state run) :
    TransitionSystem.StepsMeet SparesBusy state run := by
  induction run generalizing state with
  | nil => trivial
  | cons edge rest ih =>
      refine ⟨sparesBusy_of_sparesBuilds hnone hmeet.1, ih hrun.2 ?_ hmeet.2⟩
      intro request
      rw [reuses_act hrun.1 hmeet.1]
      exact hnone request

/-- A build from its start to the return of its snapshot. -/
def wholeBuild (id : Nat) (listing : List (Nat × FileKind)) (passSteps : Nat) : List Action :=
  .startBuild :: buildActions id 500000000 listing ++
    List.replicate passSteps (.pass (.build id) []) ++ [.build id .succeeds []]

def firstBuilt : State := followed (wholeBuild 0 [(0, .audio)] 3)

/-- A request finds the first snapshot. -/
def found : State :=
  { firstBuilt with reuses := Function.update firstBuilt.reuses 7 (some 0) }

/-- It has been given the snapshot's manifest. -/
def foundReturned : State :=
  { found.returnSnapshot 0 with reuses := Function.update found.reuses 7 none }

def twoMore : List Action :=
  wholeBuild 1 [(0, .audio), (1, .audio)] 4 ++
    wholeBuild 2 [(0, .audio), (1, .audio), (2, .audio)] 9

def threeBuilt : State :=
  TransitionSystem.lastOf foundReturned (TransitionSystem.follow act foundReturned twoMore)

theorem reachable_foundReturned : (streamFiles.restrict SparesBusy).Reachable foundReturned := by
  have hrun := TransitionSystem.isRun_follow (fun state => state = emptyState) act emptyState
    (wholeBuild 0 [(0, .audio)] 3)
  have hbuilt : (streamFiles.restrict SparesBusy).Reachable firstBuilt :=
    TransitionSystem.reachable_lastOf (.initial rfl) (TransitionSystem.isRun_restrict hrun
      (stepsMeet_sparesBusy hrun (fun _ => rfl) (by decide +kernel)))
  have hpasses : ∀ owner, firstBuilt.passes owner = none := by
    intro owner
    cases owner with
    | background => rfl
    | build id => cases id with
      | zero => rfl
      | succ id => rfl
  have hspares : SparesBusy firstBuilt (.reuse 7 0) := fun owner pass hpass =>
    absurd ((hpasses owner).symm.trans hpass) (Option.some_ne_none pass).symm
  have hfound : act firstBuilt (.reuse 7 0) = some found := if_pos (by decide +kernel)
  have hreused : (streamFiles.restrict SparesBusy).Reachable found :=
    hbuilt.step (a := .reuse 7 0) ⟨hspares, hfound⟩
  have hreturned : act found (.returnReused 7) = some foundReturned := rfl
  exact hreused.step (a := .returnReused 7) ⟨trivial, hreturned⟩

theorem reachable_threeBuilt : (streamFiles.restrict SparesBusy).Reachable threeBuilt := by
  have hrun := TransitionSystem.isRun_follow (fun state => state = emptyState) act foundReturned
    twoMore
  have hnone : ∀ request, foundReturned.reuses request = none := by
    intro request
    rcases eq_or_ne request 7 with rfl | hne
    · rfl
    · calc
        foundReturned.reuses request = found.reuses request := Function.update_of_ne hne _ _
        _ = firstBuilt.reuses request := Function.update_of_ne hne _ _
        _ = none := rfl
  exact TransitionSystem.reachable_lastOf reachable_foundReturned
    (TransitionSystem.isRun_restrict hrun (stepsMeet_sparesBusy hrun hnone (by decide +kernel)))

/-- The quota pass of the last build evicts the first snapshot, which nobody uses any more. -/
theorem stream_files_kept_three_builds :
    Kept threeBuilt ∧ threeBuilt.exists? (0, .audio) = false ∧
      threeBuilt.exists? (2, .audio) = true ∧ threeBuilt.builds 2 = none :=
  ⟨stream_files_kept reachable_threeBuilt, by decide +kernel, by decide +kernel, by decide +kernel⟩

/-- Three builds are under way. The first is done but for its return when the
quota pass of the third removes its audio, the oldest of 1.5 gigabytes. -/
def threeBuilds : List Action :=
  [.startBuild, .startBuild, .startBuild] ++ buildActions 0 500000000 [(0, .audio)] ++
    List.replicate 3 (.pass (.build 0) []) ++
    buildActions 1 500000000 [(0, .audio), (1, .audio)] ++
    buildActions 2 500000000 [(0, .audio), (1, .audio), (2, .audio)] ++
    List.replicate 8 (.pass (.build 2) []) ++ [.build 0 .succeeds []]

theorem quota_pass_takes_audio_in_progress :
    ∃ state, streamFiles.Reachable state ∧ (0, .audio) ∈ state.removed ∧ 0 ∈ state.returned := by
  have hempty : streamFiles.Reachable emptyState := .initial rfl
  refine ⟨followed threeBuilds, TransitionSystem.reachable_follow hempty _, ?_, ?_⟩
  · decide +kernel
  · decide +kernel

end Songmaker.QueueStreams.StreamFilesKept
