import Songmaker.Editor.EditorDraft

namespace Songmaker.Editor.EditorDraft

open Songmaker.Foundation
open Songmaker.Foundation.TransitionSystem

theorem genParamsEqual_self (params : Option VersionGenerationParams) :
    genParamsEqual params params = true := by
  simp [genParamsEqual]

theorem songDataEqual_self (data : SongData) : songDataEqual data data = true := by
  simp [songDataEqual, creativeContentEqual, genParamsEqual_self]

/-- The song and the content that a step puts into the editor in place of what it shows. -/
def Page.putIn (page : Page) : Action → Option (String × SongData)
  | .loadSong song =>
      if page.keepsDraft song.id then none else some (song.id, songDataFromSong song)
  | .deletionEnds deletion =>
      match deletion.stage with
      | .loadingVersions updated _ =>
          (page.deletionData deletion updated).map fun data => (deletion.songId, data)
      | _ => none
  | _ => none

/-- The user's own changes of the draft. -/
def Page.ChangedByUser (page : Page) : Action → Prop
  | .edit _ | .loadVersion _ | .discard => True
  | .undo undo => page.undoHolds undo = true
  | _ => False

/-- What an action does to the editor and to the saves in flight. -/
inductive Touches (page : Page) (a : Action) (next : Page) : Prop
  | untouched (heditor : next.editor = page.editor)
      (hsaves : ∀ save ∈ next.saves, save ∈ page.saves)
  | sent (e : EditorState) (heditor : page.editor = some e) (hsame : next.editor = page.editor)
      (hsaves : ∀ save ∈ next.saves, save ∈ page.saves ∨
        save.draft = e.draft ∧ save.provenance = e.provenance)
  | edited (hby : page.ChangedByUser a) (e e' : EditorState) (hbefore : page.editor = some e)
      (hafter : next.editor = some e') (hsong : e'.songId = e.songId)
      (hsaves : next.saves = page.markEdited.saves)
  | keptDraft (song : SongItem) (ha : a = .loadSong song) (e : EditorState) (saved : Held)
      (hbefore : page.editor = some e) (hafter : next.editor = some { e with saved := saved })
      (hsaves : next.saves = page.saves)
  | put (songId : String) (data : SongData) (hput : page.putIn a = some (songId, data))
      (e' : EditorState) (hafter : next.editor = some e') (hsong : e'.songId = songId)
      (hdraft : e'.draft.data = data) (hsaved : e'.saved.data = data)
      (hprovenance : e'.provenance = none) (hsaves : next.saves = page.saves)
  | recorded (save : Save) (ha : a = .saveAnswered save) (hmem : save ∈ page.saves)
      (heditor : next.editor = page.editor.map (Page.recordSaved save))
      (hsaves : ∀ other ∈ next.saves, other ∈ page.saves)

section Methods

variable (page : Page)

@[simp] theorem loadVersions_editor (songId : String) (recover : Bool) :
    (page.loadVersions songId recover).1.editor = page.editor := by
  unfold Page.loadVersions
  split
  · rfl
  · rfl

@[simp] theorem loadVersions_saves (songId : String) (recover : Bool) :
    (page.loadVersions songId recover).1.saves = page.saves := by
  unfold Page.loadVersions
  split
  · rfl
  · rfl

theorem updateDraft_touches {change : DraftChange} {next : Page}
    (h : page.updateDraft change = some next) : Touches page (.edit change) next := by
  obtain ⟨e, heditor, rfl⟩ := Option.map_eq_some_iff.mp h
  exact .edited trivial e _ heditor rfl rfl rfl

theorem discardDraft_touches : Touches page .discard page.discardDraft := by
  unfold Page.discardDraft
  split
  next heditor => exact .untouched rfl fun save hsave => hsave
  next e heditor => exact .edited trivial e _ heditor rfl rfl rfl

theorem loadVersionAsDraft_touches (version : VersionItem) :
    Touches page (.loadVersion version) (page.loadVersionAsDraft version) := by
  unfold Page.loadVersionAsDraft
  split
  next heditor => exact .untouched rfl fun save hsave => hsave
  next e heditor =>
    dsimp only
    split_ifs
    · exact .untouched rfl fun save hsave => hsave
    · exact .edited trivial e _ heditor rfl rfl rfl
    · exact .untouched rfl fun save hsave => hsave
    · exact .edited trivial e _ heditor rfl rfl rfl

theorem undoVersionLoad_touches (undo : VersionLoadUndo) :
    Touches page (.undo undo) (page.undoVersionLoad undo) := by
  unfold Page.undoVersionLoad
  split
  next hholds =>
    have hstands := (Bool.and_eq_true_iff.mp hholds).2
    have hany := (Bool.and_eq_true_iff.mp hstands).2
    obtain ⟨e, heditor, -⟩ := (Option.any_eq_true _ _).mp hany
    refine .edited hholds e { e with draft := undo.replaced, provenance := undo.replacedProvenance }
      heditor ?_ rfl rfl
    exact congrArg (Option.map _) heditor
  next => exact .untouched rfl fun save hsave => hsave

theorem loadSongData_touches (song : SongItem) :
    Touches page (.loadSong song) (page.loadSongData song) := by
  cases heditor : page.editor with
  | none =>
      have hput : page.putIn (.loadSong song) = some (song.id, songDataFromSong song) := by
        simp [Page.putIn, Page.keepsDraft, heditor]
      refine .put song.id _ hput
        ⟨song.id, ⟨page.nextRef, songDataFromSong song⟩,
          ⟨page.nextRef + 1, songDataFromSong song⟩, none⟩ ?_ rfl rfl rfl rfl ?_
      · rw [Page.loadSongData, loadVersions_editor, heditor]
      · rw [Page.loadSongData, loadVersions_saves]
  | some e =>
      by_cases hkeeps : (e.songId = song.id && !draftIsSaved e) = true
      · refine .keptDraft song rfl e ⟨page.nextRef, songDataFromSong song⟩ heditor ?_ ?_
        · rw [Page.loadSongData, loadVersions_editor, heditor]
          dsimp only
          rw [if_pos hkeeps]
        · rw [Page.loadSongData, loadVersions_saves]
      · have hput : page.putIn (.loadSong song) = some (song.id, songDataFromSong song) := by
          have hnot : page.keepsDraft song.id = false := by
            rw [Page.keepsDraft, heditor]
            exact Bool.eq_false_iff.mpr hkeeps
          rw [Page.putIn, hnot]
          rfl
        refine .put song.id _ hput
          ⟨song.id, ⟨page.nextRef, songDataFromSong song⟩,
            ⟨page.nextRef + 1, songDataFromSong song⟩, none⟩ ?_ rfl rfl rfl rfl ?_
        · rw [Page.loadSongData, loadVersions_editor, heditor]
          dsimp only
          rw [if_neg hkeeps]
        · rw [Page.loadSongData, loadVersions_saves]

theorem sendSave_touches {songId : String} {next : Page} (h : page.sendSave songId = some next) :
    Touches page (.sendSave songId) next := by
  unfold Page.sendSave at h
  split at h
  next => exact absurd h.symm (Option.some_ne_none next)
  next e heditor =>
    split at h
    next => exact absurd h.symm (Option.some_ne_none next)
    next =>
      obtain rfl := Option.some.inj h
      refine .sent e heditor rfl ?_
      intro save hsave
      rcases List.mem_append.mp hsave with hold | hnew
      · exact Or.inl hold
      · obtain rfl := List.mem_singleton.mp hnew
        exact Or.inr ⟨rfl, rfl⟩

theorem saveAnswered_touches {save : Save} (hmem : save ∈ page.saves) :
    Touches page (.saveAnswered save) (page.saveAnswered save) := by
  refine .recorded save rfl hmem ?_ ?_
  · rw [Page.saveAnswered, loadVersions_editor]
  · intro other hother
    rw [Page.saveAnswered, loadVersions_saves] at hother
    exact List.mem_of_mem_erase hother

theorem deletionSongFetched_touches (deletion : Deletion) (updated : SongItem) :
    Touches page (.deletionSongFetched deletion updated)
      (page.deletionSongFetched deletion updated) := by
  unfold Page.deletionSongFetched
  split
  · exact .untouched rfl fun save hsave => hsave
  · refine .untouched ?_ ?_
    · exact loadVersions_editor page deletion.songId false
    · intro save hsave
      rwa [← loadVersions_saves page deletion.songId false]

theorem deletionEnds_touches {deletion : Deletion} {updated : SongItem} {request : Option Nat}
    (hstage : deletion.stage = .loadingVersions updated request) :
    Touches page (.deletionEnds deletion) (page.deletionEnds deletion updated) := by
  cases hdata : page.deletionData deletion updated with
  | none =>
      rw [Page.deletionEnds, hdata]
      exact .untouched rfl fun save hsave => hsave
  | some data =>
      rw [Page.deletionEnds, hdata]
      refine .put deletion.songId data ?_ _ rfl rfl rfl rfl rfl rfl
      rw [Page.putIn, hstage]
      exact congrArg (Option.map _) hdata

end Methods

theorem act_touches {page next : Page} {a : Action} (h : act page a = some next) :
    Touches page a next := by
  cases a with
  | edit change => exact updateDraft_touches page h
  | loadSong song =>
      obtain rfl := Option.some.inj h
      exact loadSongData_touches page song
  | discard =>
      obtain rfl := Option.some.inj h
      exact discardDraft_touches page
  | loadVersion version =>
      obtain rfl := Option.some.inj h
      exact loadVersionAsDraft_touches page version
  | undo undo =>
      rw [act, Option.ite_none_right_eq_some] at h
      obtain rfl := Option.some.inj h.2
      exact undoVersionLoad_touches page undo
  | sendSave songId => exact sendSave_touches page h
  | saveAnswered save =>
      rw [act, Option.ite_none_right_eq_some] at h
      obtain rfl := Option.some.inj h.2
      exact saveAnswered_touches page h.1
  | saveFails save =>
      rw [act, Option.ite_none_right_eq_some] at h
      obtain rfl := Option.some.inj h.2
      exact .untouched rfl fun other hother => List.mem_of_mem_erase hother
  | reloadVersions =>
      obtain rfl := Option.some.inj h
      cases page.editor with
      | none => exact .untouched rfl fun save hsave => hsave
      | some e =>
          refine .untouched (loadVersions_editor page e.songId true) ?_
          intro save hsave
          rwa [← loadVersions_saves page e.songId true]
  | versionsAnswered fetch loaded =>
      rw [act, Option.ite_none_right_eq_some] at h
      obtain rfl := Option.some.inj h.2
      unfold Page.versionsAnswered
      split
      · exact .untouched rfl fun save hsave => hsave
      · exact .untouched rfl fun save hsave => hsave
  | selectSong songId =>
      obtain rfl := Option.some.inj h
      unfold Page.selectSong
      split
      · exact .untouched rfl fun save hsave => hsave
      · exact .untouched rfl fun save hsave => hsave
  | deletionSongFetched deletion updated =>
      rw [act, Option.ite_none_right_eq_some] at h
      obtain rfl := Option.some.inj h.2
      exact deletionSongFetched_touches page deletion updated
  | deletionEnds deletion =>
      cases hstage : deletion.stage with
      | deleting => simp [act, hstage] at h
      | fetchingSong => simp [act, hstage] at h
      | loadingVersions updated request =>
          simp only [act, hstage] at h
          rw [Option.ite_none_right_eq_some] at h
          obtain rfl := Option.some.inj h.2
          exact deletionEnds_touches page hstage
  | setAside | offerAgain | retire | deleteVersion =>
      obtain rfl := Option.some.inj h
      exact .untouched rfl fun save hsave => hsave
  | expire | versionsFail | deletionAnswered | deletionFails =>
      rw [act, Option.ite_none_right_eq_some] at h
      obtain rfl := Option.some.inj h.2
      exact .untouched rfl fun save hsave => hsave

/-- The action may change the draft `e` that the editor shows. -/
def Page.MayChange (page : Page) (e : EditorState) : Action → Prop
  | .deletionEnds deletion => deletion.songId = e.songId
  | .loadSong song => song.id = e.songId ∧ draftIsSaved e = true
  | a => page.ChangedByUser a

/-- A draft that stays on show is changed only where it may be, and a song that comes
on show was put there, with nothing to save. -/
structure DraftKept (page : Page) (a : Action) (next : Page) : Prop where
  changed : ∀ e ∈ page.editor, ∀ e' ∈ next.editor, e'.songId = e.songId → e'.draft ≠ e.draft →
    page.MayChange e a
  opened : ∀ e' ∈ next.editor, (∀ e ∈ page.editor, e.songId ≠ e'.songId) →
    page.putIn a = some (e'.songId, e'.draft.data) ∧ e'.saved.data = e'.draft.data ∧
      e'.provenance = none

/-- The answer to a save whose song the user has not edited since leaves nothing to save. -/
def SavedClean (a : Action) (next : Page) : Prop :=
  ∀ save, a = .saveAnswered save → save.edited = false →
    ∀ e ∈ next.editor, e.songId = save.songId → draftAwaitsSave e = false

/-- What is put into the editor of a song is what each save of it sent that is in flight
and after which the user has edited nothing. -/
def AgreesWithSaves (page : Page) (a : Action) : Prop :=
  ∀ put ∈ page.putIn a, ∀ save ∈ page.saves, save.songId = put.1 → save.edited = false →
    songDataEqual put.2 save.draft.data = true

instance (page : Page) (a : Action) : Decidable (AgreesWithSaves page a) :=
  inferInstanceAs (Decidable (∀ put ∈ page.putIn a, ∀ save ∈ page.saves,
    save.songId = put.1 → save.edited = false → songDataEqual put.2 save.draft.data = true))

theorem Page.ChangedByUser.mayChange {page : Page} {a : Action} (h : page.ChangedByUser a)
    (e : EditorState) : page.MayChange e a := by
  cases a with
  | loadSong => exact h.elim
  | deletionEnds => exact h.elim
  | _ => exact h

theorem Page.mayChange_of_putIn {page : Page} {a : Action} {data : SongData} {e : EditorState}
    (heditor : page.editor = some e) (hput : page.putIn a = some (e.songId, data)) :
    page.MayChange e a := by
  cases a with
  | loadSong song =>
      rw [Page.putIn, Option.ite_none_left_eq_some] at hput
      obtain ⟨hkeeps, hsong⟩ := hput
      have hid : song.id = e.songId := congrArg Prod.fst (Option.some.inj hsong)
      refine ⟨hid, ?_⟩
      by_contra hsaved
      refine hkeeps ?_
      rw [Page.keepsDraft, heditor]
      simpa [hid] using hsaved
  | deletionEnds deletion =>
      rw [Page.putIn] at hput
      split at hput
      next =>
        obtain ⟨content, -, hpair⟩ := Option.map_eq_some_iff.mp hput
        exact congrArg Prod.fst hpair
      next => exact absurd hput.symm (Option.some_ne_none _)
  | _ => exact absurd hput.symm (Option.some_ne_none _)

@[simp] theorem recordSaved_songId (save : Save) (e : EditorState) :
    (Page.recordSaved save e).songId = e.songId := by
  unfold Page.recordSaved
  split
  · rfl
  · rfl

@[simp] theorem recordSaved_draft (save : Save) (e : EditorState) :
    (Page.recordSaved save e).draft = e.draft := by
  unfold Page.recordSaved
  split
  · rfl
  · rfl

theorem Touches.draftKept {page next : Page} {a : Action} (h : Touches page a next) :
    DraftKept page a next := by
  have hstays : ∀ {e e' : EditorState}, page.editor = some e → next.editor = some e' →
      e'.songId = e.songId → (e'.draft ≠ e.draft → page.MayChange e a) →
      DraftKept page a next := by
    intro e e' hbefore hafter hsong hmay
    constructor
    · intro s hs s' hs' _ hne
      obtain rfl : e = s := Option.some.inj (hbefore.symm.trans hs)
      obtain rfl : e' = s' := Option.some.inj (hafter.symm.trans hs')
      exact hmay hne
    · intro s' hs' hnew
      obtain rfl : e' = s' := Option.some.inj (hafter.symm.trans hs')
      exact absurd hsong.symm (hnew e hbefore)
  have hsame : next.editor = page.editor → DraftKept page a next := by
    intro hsame
    cases hbefore : page.editor with
    | none =>
        have hafter := hsame.trans hbefore
        refine ⟨fun e he => ?_, fun e' he' => ?_⟩
        · rw [hbefore] at he
          exact absurd he (Option.not_mem_none e)
        · rw [hafter] at he'
          exact absurd he' (Option.not_mem_none e')
    | some e => exact hstays hbefore (hsame.trans hbefore) rfl fun hne => absurd rfl hne
  cases h with
  | untouched heditor hsaves => exact hsame heditor
  | sent e heditor heq hsaves => exact hsame heq
  | edited hby e e' hbefore hafter hsong hsaves =>
      exact hstays hbefore hafter hsong fun _ => hby.mayChange e
  | keptDraft song ha e saved hbefore hafter hsaves =>
      exact hstays hbefore hafter rfl fun hne => absurd rfl hne
  | put songId data hput e' hafter hsong hdraft hsaved hprovenance hsaves =>
      subst hsong hdraft
      constructor
      · intro e he s' hs' hid _
        obtain rfl : e' = s' := Option.some.inj (hafter.symm.trans hs')
        exact Page.mayChange_of_putIn he (hid ▸ hput)
      · intro s' hs' _
        obtain rfl : e' = s' := Option.some.inj (hafter.symm.trans hs')
        exact ⟨hput, hsaved, hprovenance⟩
  | recorded save ha hmem heditor hsaves =>
      cases hbefore : page.editor with
      | none => exact hsame (by rw [heditor, hbefore]; rfl)
      | some e =>
          refine hstays hbefore (heditor.trans (congrArg _ hbefore)) ?_ fun hne => ?_
          · exact recordSaved_songId save e
          · exact absurd (recordSaved_draft save e) hne

/-- The editor of its song still holds what the save sent. -/
structure Holds (e : EditorState) (save : Save) : Prop where
  draft : songDataEqual e.draft.data save.draft.data = true
  provenance : e.provenance = none ∨
    e.provenance.map Provenance.token = save.provenance.map Provenance.token

/-- Every save in flight that the user has edited nothing after. -/
def SavesHeld (page : Page) : Prop :=
  ∀ save ∈ page.saves, save.edited = false →
    ∀ e ∈ page.editor, e.songId = save.songId → Holds e save

theorem Holds.recordSaved {e : EditorState} {save : Save} (h : Holds e save) (other : Save) :
    Holds (Page.recordSaved other e) save := by
  refine ⟨by rw [recordSaved_draft]; exact h.draft, ?_⟩
  unfold Page.recordSaved
  split
  · dsimp only
    split
    · exact Or.inl rfl
    · exact h.provenance
  · exact h.provenance

theorem Holds.clean {e : EditorState} {save : Save} (h : Holds e save)
    (hsong : e.songId = save.songId) :
    draftAwaitsSave (Page.recordSaved save e) = false := by
  rw [Page.recordSaved, if_pos hsong, draftAwaitsSave, Bool.or_eq_false_iff]
  constructor
  · rcases h.provenance with hnone | htoken
    · rw [hnone]
      split
      · rfl
      · rfl
    · rw [if_pos htoken]
      rfl
  · rw [draftIsSaved]
    simpa using h.draft

theorem Touches.savesHeld {page next : Page} {a : Action} (h : Touches page a next)
    (hheld : SavesHeld page) (hagrees : AgreesWithSaves page a) : SavesHeld next := by
  intro save hsave hedited e' he' hid
  cases h with
  | untouched heditor hsaves => exact hheld save (hsaves save hsave) hedited e' (heditor ▸ he') hid
  | sent e heditor hsame hsaves =>
      rcases hsaves save hsave with hold | ⟨hdraft, hprovenance⟩
      · exact hheld save hold hedited e' (hsame ▸ he') hid
      · obtain rfl : e = e' := Option.some.inj (heditor.symm.trans (hsame.symm.trans he'))
        refine ⟨?_, Or.inr (by rw [hprovenance])⟩
        rw [hdraft]
        exact songDataEqual_self e.draft.data
  | edited hby e s' hbefore hafter hsong hsaves =>
      obtain rfl : s' = e' := Option.some.inj (hafter.symm.trans he')
      rw [hsaves, Page.markEdited, hbefore] at hsave
      obtain ⟨other, -, rfl⟩ := List.mem_map.mp hsave
      -- a save of the song on show is marked, and one of another song is not shown
      split at hid
      next hshown =>
        rw [if_pos hshown] at hedited
        exact absurd hedited (by simp)
      next hother =>
        have hsame : e.songId = other.songId := hsong.symm.trans hid
        exact absurd hsame (by simpa using hother)
  | keptDraft song ha e saved hbefore hafter hsaves =>
      obtain rfl := Option.some.inj (hafter.symm.trans he')
      have hbeforeHeld := hheld save (hsaves ▸ hsave) hedited e hbefore hid
      exact ⟨hbeforeHeld.draft, hbeforeHeld.provenance⟩
  | put songId data hput s' hafter hsong hdraft hsaved hprovenance hsaves =>
      obtain rfl : s' = e' := Option.some.inj (hafter.symm.trans he')
      have heq := hagrees _ hput save (hsaves ▸ hsave) (hid.symm.trans hsong) hedited
      exact ⟨by rw [hdraft]; exact heq, Or.inl hprovenance⟩
  | recorded answered ha hmem heditor hsaves =>
      rw [heditor] at he'
      obtain ⟨e, he, rfl⟩ := Option.map_eq_some_iff.mp he'
      rw [recordSaved_songId] at hid
      exact (hheld save (hsaves save hsave) hedited e he hid).recordSaved answered

theorem SavesHeld.savedClean {page next : Page} {a : Action} (hheld : SavesHeld page)
    (hact : act page a = some next) : SavedClean a next := by
  rintro save rfl hedited e' he' hid
  rw [act, Option.ite_none_right_eq_some] at hact
  obtain ⟨hmem, hnext⟩ := hact
  obtain rfl := Option.some.inj hnext
  rw [Page.saveAnswered, loadVersions_editor] at he'
  obtain ⟨e, he, rfl⟩ := Option.map_eq_some_iff.mp he'
  rw [recordSaved_songId] at hid
  exact (hheld save hmem hedited e he hid).clean hid

/-- In every run a shown draft is kept, and where what is put into the editor agrees with
the saves in flight, a save that is answered leaves the draft it sent with nothing to save. -/
theorem draft_kept {earlier later : List (Action × Page)} {a : Action} {next : Page}
    (hrun : editorPage.IsRun newPage (earlier ++ (a, next) :: later)) :
    DraftKept (lastOf newPage earlier) a next ∧
      (StepsMeet AgreesWithSaves newPage earlier → SavedClean a next) := by
  obtain ⟨hstep, -⟩ := isRun_middle hrun
  refine ⟨(act_touches hstep).draftKept, fun hmeet => ?_⟩
  have hearlier : editorPage.IsRun newPage earlier := isRun_first hrun
  have hinitial : SavesHeld newPage := fun save hsave => absurd hsave List.not_mem_nil
  have hkeeps : ∀ s a t, SavesHeld s → editorPage.step s a t → AgreesWithSaves s a →
      SavesHeld t := fun s a t hs hact hagrees => (act_touches hact).savesHeld hs hagrees
  have hheld := forall_visited_of_stepsMeet hkeeps hinitial hearlier hmeet _
    (lastOf_mem_visited newPage earlier)
  exact hheld.savedClean hstep

def exampleSong (id lyrics : String) : SongItem :=
  ⟨id, lyrics, "", none, none, none, none, none⟩

def exampleVersion (number : Nat) (lyrics : String) : VersionItem :=
  ⟨lyrics, number, lyrics, "", 0, 0, "", none, none⟩

/-- An older version is loaded and its save sent. -/
def savesLoadedVersion : List Action :=
  [.selectSong (some "a"), .loadSong (exampleSong "a" "second"),
    .versionsAnswered ⟨3, "a", true⟩ [exampleVersion 2 "second", exampleVersion 1 "first"],
    .loadVersion (exampleVersion 1 "first"), .sendSave "a"]

def sentSave : Save :=
  ⟨5, "a", ⟨2, songDataFromVersion (exampleVersion 1 "first")⟩, some ⟨1, 3⟩, true, false⟩

/-- Another song is opened and the first one again, with the text it is then read with. -/
def reopens (lyrics : String) : List Action :=
  [.selectSong (some "b"), .loadSong (exampleSong "b" "other"), .selectSong (some "a"),
    .loadSong (exampleSong "a" lyrics)]

def followed (actions : List Action) : Page :=
  lastOf newPage (follow act newPage actions)

/-- The song is left and opened again while its save is in flight, with what the save sent. -/
theorem draft_kept_reloaded :
    DraftKept (followed (savesLoadedVersion ++ reopens "first")) (.saveAnswered sentSave)
        (followed (savesLoadedVersion ++ reopens "first" ++ [.saveAnswered sentSave])) ∧
      SavedClean (.saveAnswered sentSave)
        (followed (savesLoadedVersion ++ reopens "first" ++ [.saveAnswered sentSave])) := by
  have hrun := isRun_follow (fun page => page = newPage) act newPage
    (savesLoadedVersion ++ reopens "first" ++ [.saveAnswered sentSave])
  have hsplit : follow act newPage
      (savesLoadedVersion ++ reopens "first" ++ [.saveAnswered sentSave]) =
    follow act newPage (savesLoadedVersion ++ reopens "first") ++
      [(.saveAnswered sentSave, followed (savesLoadedVersion ++ reopens "first" ++
        [.saveAnswered sentSave]))] := by
    decide +kernel
  rw [hsplit] at hrun
  obtain ⟨hkept, hclean⟩ := draft_kept hrun
  exact ⟨hkept, hclean (by decide +kernel)⟩

/-- The song shows its old text, as a draft that awaits a save. -/
theorem reopened_song_shows_old_text :
    ∃ run page, editorPage.IsRun newPage (run ++ [(.saveAnswered sentSave, page)]) ∧
      page.saves = [] ∧ ¬SavedClean (.saveAnswered sentSave) page ∧
      page.editor.map (fun e => (e.songId, e.saved.data.lyrics, e.draft.data.lyrics,
        draftAwaitsSave e)) = some ("a", "first", "second", true) := by
  have hrun := isRun_follow (fun page => page = newPage) act newPage
    (savesLoadedVersion ++ reopens "second" ++ [.saveAnswered sentSave])
  have hsplit : follow act newPage
      (savesLoadedVersion ++ reopens "second" ++ [.saveAnswered sentSave]) =
    follow act newPage (savesLoadedVersion ++ reopens "second") ++
      [(.saveAnswered sentSave,
        followed (savesLoadedVersion ++ reopens "second" ++ [.saveAnswered sentSave]))] := by
    decide +kernel
  rw [hsplit] at hrun
  refine ⟨_, _, hrun, by decide +kernel, ?_, by decide +kernel⟩
  intro hclean
  have hall : ∀ e ∈ (followed (savesLoadedVersion ++ reopens "second" ++
      [.saveAnswered sentSave])).editor, e.songId = "a" ∧ draftAwaitsSave e = true := by
    decide +kernel
  cases heditor : (followed (savesLoadedVersion ++ reopens "second" ++
      [.saveAnswered sentSave])).editor with
  | none => exact absurd heditor (by decide +kernel)
  | some e =>
      obtain ⟨hid, hawaits⟩ := hall e heditor
      exact absurd (hclean sentSave rfl rfl e heditor hid) (by rw [hawaits]; decide)

end Songmaker.Editor.EditorDraft
