import Songmaker.Editor.RenderedAsShown

/-!
When a press finds a draft that awaits no save, the page knows the latest version of its song,
if it has heard of every save that the server has taken and has read the versions since.
-/

namespace Songmaker.Editor.RenderedAsShown

open Songmaker.Foundation
open Songmaker.Foundation.TransitionSystem
open Songmaker.Songs.VersionImmutability
open Songmaker.Editor.EditorDraft hiding Action act
open Songmaker.Editor.PredictedVersion
open Songmaker.Editor.GeneratePress

/-- The page waits for no save of the song that the server has taken. -/
def HeardOf (world : World) (songId : String) : Prop :=
  ∀ save ∈ world.page.saves, save.songId = songId → save.id ∉ world.saved

/-- No read of the versions is under way that the page would show. -/
def NoRead (page : Page) : Prop :=
  ∀ fetch ∈ page.fetches, page.isCurrent fetch = false

/-- How a step lets the page know of the saves and versions: what is loaded is what the server
has, a save is heard of before the next one of its song is, and no read is lost. -/
def Hears (world : World) : Action → Prop
  | .page (.loadSong song) => Shows world.server song.id (songDataFromSong song)
  | .page (.selectSong songId) => songId = world.page.selectedSongId ∨ NoRead world.page
  | .press _ => world.isDirty = false → ∀ songId ∈ world.page.selectedSongId,
      (∃ e ∈ world.page.editor, e.songId = songId) ∧ HeardOf world songId ∧ NoRead world.page
  | .serveSave save => (world.server.updateSong save).isSome = true →
      ∃ awaited ∈ world.page.saves, awaited.id = save.id ∧ awaited.songId = save.songId
  | .saveAnswered save => Shows world.server save.songId save.draft.data
  | .saveFails save => save.id ∉ world.saved
  | .versionsFail fetch => world.page.isCurrent fetch = false
  | _ => True

/-- What the page knows of the song that it shows. -/
structure Knows (world : World) : Prop where
  saved : ∀ e ∈ world.page.editor, HeardOf world e.songId →
    Shows world.server e.songId e.saved.data
  read : ∀ fetch ∈ world.page.fetches, world.page.isCurrent fetch = true →
    ∀ entry ∈ world.read, entry.1 = fetch.request → HeardOf world fetch.songId →
      entry.2.head? = latest world.server fetch.songId
  listed : ∀ e ∈ world.page.editor, HeardOf world e.songId → NoRead world.page →
    world.page.versions.head? = latest world.server e.songId

/-- The saves and the reads of a page are told apart by their numbers. -/
structure Numbered (page : Page) : Prop where
  saves : ∀ save ∈ page.saves, ∀ other ∈ page.saves, save.id = other.id →
    save.songId = other.songId
  fetches : ∀ fetch ∈ page.fetches, ∀ other ∈ page.fetches, fetch.request = other.request →
    fetch.songId = other.songId

/-- What a step of the page leaves of what it knows. -/
structure PageKeeps (page next : Page) : Prop where
  saves : next.saves.map (fun save => (save.id, save.songId)) =
    page.saves.map fun save => (save.id, save.songId)
  editor : next.editor.map (fun e => (e.songId, e.saved)) =
    page.editor.map fun e => (e.songId, e.saved)
  fetches : next.fetches = page.fetches
  versionLoad : next.versionLoad = page.versionLoad
  versions : next.versions = page.versions

section Pages

variable {page next : Page}

theorem PageKeeps.refl (page : Page) : PageKeeps page page := ⟨rfl, rfl, rfl, rfl, rfl⟩

theorem PageKeeps.exists_save (h : PageKeeps page next) {save : Save} (hsave : save ∈ page.saves) :
    ∃ found ∈ next.saves, found.id = save.id ∧ found.songId = save.songId := by
  have hmem : (save.id, save.songId) ∈ next.saves.map fun save => (save.id, save.songId) :=
    h.saves ▸ List.mem_map_of_mem hsave
  obtain ⟨found, hfound, hsame⟩ := List.mem_map.mp hmem
  obtain ⟨hid, hsong⟩ := Prod.mk.inj hsame
  exact ⟨found, hfound, hid, hsong⟩

theorem PageKeeps.symm (h : PageKeeps page next) : PageKeeps next page :=
  ⟨h.saves.symm, h.editor.symm, h.fetches.symm, h.versionLoad.symm, h.versions.symm⟩

theorem PageKeeps.exists_editor (h : PageKeeps page next) {e : EditorState}
    (he : e ∈ next.editor) :
    ∃ old ∈ page.editor, old.songId = e.songId ∧ old.saved = e.saved := by
  have hsome : page.editor.map (fun e => (e.songId, e.saved)) = some (e.songId, e.saved) := by
    rw [← h.editor, Option.mem_def.mp he]
    rfl
  obtain ⟨old, hold, hsame⟩ := Option.map_eq_some_iff.mp hsome
  obtain ⟨hsong, hsaved⟩ := Prod.mk.inj hsame
  exact ⟨old, hold, hsong, hsaved⟩

theorem PageKeeps.isCurrent (h : PageKeeps page next) (fetch : VersionsFetch) :
    next.isCurrent fetch = page.isCurrent fetch := by
  have hshown : ∀ editor : Option EditorState, (editor.any fun e => e.songId = fetch.songId) =
      (editor.map fun e => (e.songId, e.saved)).any fun shown => shown.1 = fetch.songId := by
    intro editor
    cases editor with
    | none => rfl
    | some e => rfl
  rw [Page.isCurrent, Page.isCurrent, h.versionLoad, hshown, hshown, h.editor]

theorem PageKeeps.noRead (h : PageKeeps page next) : NoRead next ↔ NoRead page := by
  rw [NoRead, NoRead, h.fetches]
  simp only [h.isCurrent]

theorem pageKeeps_markEdited {editor : Option EditorState} {offered : Option OfferedVersionLoad}
    {undos : List VersionLoadUndo} {nextRef : Nat}
    (heditor : editor.map (fun e => (e.songId, e.saved)) =
      page.editor.map fun e => (e.songId, e.saved)) :
    PageKeeps page { page.markEdited with
      editor := editor, offered := offered, undos := undos, nextRef := nextRef } := by
  refine ⟨?_, heditor, rfl, rfl, rfl⟩
  rw [Page.markEdited, List.map_map]
  refine List.map_congr_left fun save _ => ?_
  dsimp only [Function.comp]
  split
  · rfl
  · rfl

/-- The actions of the page that neither load nor leave a song. -/
theorem pageKeeps_act {a : EditorDraft.Action} (hof : isOfPage a = true)
    (hact : EditorDraft.act page a = some next) (hload : ∀ song, a ≠ .loadSong song)
    (hselect : ∀ songId, a ≠ .selectSong songId) (hreload : a ≠ .reloadVersions) :
    PageKeeps page next := by
  cases a with
  | edit change =>
      obtain ⟨e, he, rfl⟩ := Option.map_eq_some_iff.mp hact
      refine pageKeeps_markEdited ?_
      rw [he]
      rfl
  | discard =>
      obtain rfl := Option.some.inj hact
      unfold Page.discardDraft
      split
      · exact .refl page
      next e he =>
        refine pageKeeps_markEdited ?_
        rw [he]
        rfl
  | loadVersion version =>
      obtain rfl := Option.some.inj hact
      unfold Page.loadVersionAsDraft
      split
      · exact .refl page
      next e he =>
        dsimp only
        split
        all_goals
          split
          · exact ⟨rfl, rfl, rfl, rfl, rfl⟩
          · refine pageKeeps_markEdited ?_
            rw [he]
            rfl
  | undo load =>
      obtain ⟨-, rfl⟩ := Option.ite_some_none_eq_some.mp hact
      unfold Page.undoVersionLoad
      split
      · refine pageKeeps_markEdited ?_
        rw [Option.map_map]
        rfl
      · exact .refl page
  | expire load =>
      obtain ⟨-, rfl⟩ := Option.ite_some_none_eq_some.mp hact
      exact ⟨rfl, rfl, rfl, rfl, rfl⟩
  | setAside =>
      obtain rfl := Option.some.inj hact
      exact ⟨rfl, rfl, rfl, rfl, rfl⟩
  | offerAgain =>
      obtain rfl := Option.some.inj hact
      exact ⟨rfl, rfl, rfl, rfl, rfl⟩
  | retire =>
      obtain rfl := Option.some.inj hact
      exact ⟨rfl, rfl, rfl, rfl, rfl⟩
  | loadSong song => exact absurd rfl (hload song)
  | selectSong songId => exact absurd rfl (hselect songId)
  | reloadVersions => exact absurd rfl hreload
  | _ => exact absurd hof Bool.false_ne_true

end Pages

section Steps

variable {world next : World}

theorem heardOf_mono {songId : String} (hheard : HeardOf next songId)
    (hsaved : ∀ id ∈ world.saved, id ∈ next.saved)
    (hsaves : ∀ save ∈ world.page.saves, save.songId = songId → save.id ∈ world.saved →
      ∃ found ∈ next.page.saves, found.id = save.id ∧ found.songId = save.songId) :
    HeardOf world songId := by
  intro save hsave hsong hmem
  obtain ⟨found, hfound, hid, hsong'⟩ := hsaves save hsave hsong hmem
  exact hheard found hfound (hsong'.trans hsong) (hid ▸ hsaved _ hmem)

theorem Knows.of_keeps (h : Knows world) (hpage : PageKeeps world.page next.page)
    (hserver : next.server = world.server) (hread : next.read = world.read)
    (hsaved : next.saved = world.saved) : Knows next := by
  have hheard : ∀ songId, HeardOf next songId → HeardOf world songId := fun songId hheard =>
    heardOf_mono hheard (fun id hid => hsaved ▸ hid) fun save hsave _ _ => hpage.exists_save hsave
  refine ⟨?_, ?_, ?_⟩
  · intro e he hnext
    obtain ⟨old, hold, hsong, hsame⟩ := hpage.exists_editor he
    rw [hserver, ← hsong, ← hsame]
    exact h.saved old hold (hheard _ (hsong ▸ hnext))
  · intro fetch hfetch hcurrent entry hentry hrequest hnext
    rw [hserver]
    exact h.read fetch (hpage.fetches ▸ hfetch) (hpage.isCurrent fetch ▸ hcurrent) entry
      (hread ▸ hentry) hrequest (hheard _ hnext)
  · intro e he hnext hnone
    obtain ⟨old, hold, hsong, -⟩ := hpage.exists_editor he
    rw [hserver, hpage.versions, ← hsong]
    exact h.listed old hold (hheard _ (hsong ▸ hnext)) (hpage.noRead.mp hnone)

/-- A read that has just begun, and that nothing has been read for. -/
theorem knows_of_loading {fetch : VersionsFetch} (hfetch : fetch ∈ next.page.fetches)
    (hcurrent : next.page.isCurrent fetch = true)
    (hread : ∀ entry ∈ next.read, entry.1 < next.page.versionLoad)
    (hsaved : ∀ e ∈ next.page.editor, HeardOf next e.songId →
      Shows next.server e.songId e.saved.data) : Knows next := by
  refine ⟨hsaved, ?_, ?_⟩
  · intro other _ hother entry hentry hrequest
    rw [Page.isCurrent, Bool.and_eq_true, decide_eq_true_eq] at hother
    have hlt := hread entry hentry
    omega
  · intro e _ _ hnone
    rw [hnone fetch hfetch] at hcurrent
    exact absurd hcurrent Bool.false_ne_true

/-! ### The numbers -/

theorem Numbered.of_subset {page next : Page} (h : Numbered page)
    (hsaves : ∀ save ∈ next.saves, save ∈ page.saves)
    (hfetches : ∀ fetch ∈ next.fetches, fetch ∈ page.fetches) : Numbered next where
  saves save hsave other hother := h.saves save (hsaves save hsave) other (hsaves other hother)
  fetches fetch hfetch other hother :=
    h.fetches fetch (hfetches fetch hfetch) other (hfetches other hother)

theorem Numbered.of_keeps {page next : Page} (h : Numbered page) (hkeeps : PageKeeps page next) :
    Numbered next where
  saves := by
    intro save hsave other hother hsame
    obtain ⟨found, hfound, hid, hsong⟩ := hkeeps.symm.exists_save hsave
    obtain ⟨found', hfound', hid', hsong'⟩ := hkeeps.symm.exists_save hother
    rw [← hsong, ← hsong']
    exact h.saves found hfound found' hfound' (by rw [hid, hid', hsame])
  fetches := by
    rw [hkeeps.fetches]
    exact h.fetches

theorem Numbered.of_loading {page next : Page} (h : Numbered page)
    (hloads : ∀ fetch ∈ page.fetches, fetch.request ≤ page.versionLoad) {fetch : VersionsFetch}
    (hrequest : fetch.request = page.versionLoad + 1) (hsaves : next.saves = page.saves)
    (hfetches : next.fetches = page.fetches ++ [fetch]) : Numbered next where
  saves := by
    rw [hsaves]
    exact h.saves
  fetches := by
    rw [hfetches]
    intro first hfirst second hsecond hsame
    rcases List.mem_append.mp hfirst with hold | hnew
    · have hle := hloads first hold
      rcases List.mem_append.mp hsecond with hold' | hnew'
      · exact h.fetches first hold second hold' hsame
      · rw [List.mem_singleton.mp hnew'] at hsame
        omega
    · rw [List.mem_singleton.mp hnew] at hsame ⊢
      rcases List.mem_append.mp hsecond with hold' | hnew'
      · have hle := hloads second hold'
        omega
      · rw [List.mem_singleton.mp hnew']

theorem Numbered.loadVersions {page : Page} (h : Numbered page)
    (hloads : ∀ fetch ∈ page.fetches, fetch.request ≤ page.versionLoad) (songId : String)
    (recover : Bool) : Numbered (page.loadVersions songId recover).1 := by
  unfold Page.loadVersions
  split
  · exact h.of_loading hloads rfl rfl rfl
  · exact h

theorem Numbered.sends {page : Page} (h : Numbered page)
    (hrefs : ∀ save ∈ page.saves, save.id < page.nextRef) {save : Save}
    (hid : save.id = page.nextRef) (nextRef : Nat) :
    Numbered { page with saves := page.saves ++ [save], nextRef := nextRef } where
  saves := by
    intro first hfirst second hsecond hsame
    rcases List.mem_append.mp hfirst with hold | hnew
    · have hlt := hrefs first hold
      rcases List.mem_append.mp hsecond with hold' | hnew'
      · exact h.saves first hold second hold' hsame
      · rw [List.mem_singleton.mp hnew'] at hsame
        omega
    · rw [List.mem_singleton.mp hnew] at hsame ⊢
      rcases List.mem_append.mp hsecond with hold' | hnew'
      · have hlt := hrefs second hold'
        omega
      · rw [List.mem_singleton.mp hnew']
  fetches := h.fetches

/-- What a run keeps whose steps let the page hear of everything. -/
structure Informed (world : World) : Prop where
  inv : Inv world
  numbered : Numbered world.page
  knows : Knows world

/-! ### The page -/

theorem loadSongData_spec (page : Page) (song : SongItem) : ∃ state : EditorState,
    state.songId = song.id ∧ state.saved.data = songDataFromSong song ∧
      page.loadSongData song = { page with
        editor := some state
        nextRef := page.nextRef + 2
        versionLoad := page.versionLoad + 1
        fetches := page.fetches ++ [⟨page.versionLoad + 1, song.id, true⟩] } := by
  have hloads : ∀ state : EditorState, state.songId = song.id →
      ({ page with editor := some state, nextRef := page.nextRef + 2 }.loadVersions
        song.id true).1 = { page with
          editor := some state
          nextRef := page.nextRef + 2
          versionLoad := page.versionLoad + 1
          fetches := page.fetches ++ [⟨page.versionLoad + 1, song.id, true⟩] } := by
    intro state hsong
    unfold Page.loadVersions
    dsimp only
    rw [if_pos]
    rw [Option.any_some]
    exact decide_eq_true hsong
  unfold Page.loadSongData
  dsimp only
  split
  next current _ =>
    split
    next hkeeps =>
      rw [Bool.and_eq_true, decide_eq_true_eq] at hkeeps
      exact ⟨{ current with saved := ⟨page.nextRef, songDataFromSong song⟩ }, hkeeps.1, rfl,
        hloads _ hkeeps.1⟩
    next => exact ⟨_, rfl, rfl, hloads _ rfl⟩
  next => exact ⟨_, rfl, rfl, hloads _ rfl⟩

theorem isCurrent_loading (page : Page) {songId : String} (recover : Bool)
    (hshown : (page.editor.any fun e => e.songId = songId) = true) :
    ({ page with versionLoad := page.versionLoad + 1 } : Page).isCurrent
      ⟨page.versionLoad + 1, songId, recover⟩ = true := by
  rw [Page.isCurrent, Bool.and_eq_true, decide_eq_true_eq]
  exact ⟨rfl, hshown⟩

theorem exists_shown {page : Page} {fetch : VersionsFetch}
    (hcurrent : page.isCurrent fetch = true) :
    ∃ e ∈ page.editor, e.songId = fetch.songId := by
  rw [Page.isCurrent, Bool.and_eq_true] at hcurrent
  cases heditor : page.editor with
  | none =>
      rw [heditor] at hcurrent
      exact absurd hcurrent.2 Bool.false_ne_true
  | some e =>
      rw [heditor, Option.any_some] at hcurrent
      exact ⟨e, rfl, of_decide_eq_true hcurrent.2⟩

theorem Informed.selectSong (h : Informed world) {songId : Option String}
    (hhears : Hears world (.page (.selectSong songId))) :
    Knows { world with page := world.page.selectSong songId } := by
  unfold Page.selectSong
  split
  · exact h.knows
  next hother =>
    have hnone : NoRead world.page := hhears.resolve_left hother
    refine ⟨h.knows.saved, ?_, fun e he hheard _ => h.knows.listed e he hheard hnone⟩
    intro fetch hfetch hcurrent
    rw [Page.isCurrent, Bool.and_eq_true, decide_eq_true_eq] at hcurrent
    have hle := h.inv.fetches fetch hfetch
    have heq := hcurrent.1
    simp only at heq
    omega

theorem Informed.page_step (h : Informed world) {a : EditorDraft.Action} {page : Page}
    (hof : isOfPage a = true) (hact : EditorDraft.act world.page a = some page)
    (hhears : Hears world (.page a)) : Numbered page ∧ Knows { world with page := page } := by
  have hread : ∀ entry ∈ world.read, entry.1 < world.page.versionLoad + 1 := fun entry hentry =>
    Nat.lt_succ_of_le (h.inv.read entry hentry)
  by_cases hload : ∃ song, a = .loadSong song
  · obtain ⟨song, rfl⟩ := hload
    obtain rfl := Option.some.inj hact
    obtain ⟨state, hsong, hdata, hpage⟩ := loadSongData_spec world.page song
    rw [hpage]
    refine ⟨h.numbered.of_loading h.inv.fetches rfl rfl rfl, ?_⟩
    · refine knows_of_loading (List.mem_append_right _ (List.mem_singleton_self _))
        (isCurrent_loading { world.page with editor := some state } true ?_) hread ?_
      · rw [Option.any_some]
        exact decide_eq_true hsong
      · intro e he _
        obtain rfl := Option.some.inj he
        rw [hsong, hdata]
        exact hhears
  · by_cases hselect : ∃ songId, a = .selectSong songId
    · obtain ⟨songId, rfl⟩ := hselect
      obtain rfl := Option.some.inj hact
      refine ⟨?_, h.selectSong hhears⟩
      unfold Page.selectSong
      split
      · exact h.numbered
      · exact ⟨h.numbered.saves, h.numbered.fetches⟩
    · by_cases hreload : a = .reloadVersions
      · obtain rfl := hreload
        obtain rfl := Option.some.inj hact
        cases heditor : world.page.editor with
        | none => exact ⟨h.numbered, h.knows⟩
        | some e =>
            have hshown : (world.page.editor.any fun other => other.songId = e.songId) = true := by
              rw [heditor, Option.any_some]
              exact decide_eq_true rfl
            refine ⟨h.numbered.loadVersions h.inv.fetches _ _, ?_⟩
            rw [Option.map_some, Option.getD_some, Page.loadVersions, if_pos hshown]
            exact knows_of_loading (List.mem_append_right _ (List.mem_singleton_self _))
              (isCurrent_loading _ true hshown) hread h.knows.saved
      · have hkeeps := pageKeeps_act hof hact (fun song heq => hload ⟨song, heq⟩)
          (fun songId heq => hselect ⟨songId, heq⟩) hreload
        exact ⟨h.numbered.of_keeps hkeeps, h.knows.of_keeps hkeeps rfl rfl rfl⟩

/-! ### The requests and their answers -/

/-- The step changes nothing that the page knows of. -/
structure Untouched (world next : World) : Prop where
  page : next.page = world.page
  server : next.server = world.server
  read : next.read = world.read
  saved : next.saved = world.saved

theorem Knows.untouched (h : Knows world) (hsame : Untouched world next) : Knows next :=
  h.of_keeps (hsame.page ▸ .refl _) hsame.server hsame.read hsame.saved

theorem untouched_start (world : World) (press : Press) : Untouched world (world.start press) := by
  unfold World.start
  split
  · exact ⟨rfl, rfl, rfl, rfl⟩
  · split
    · exact ⟨rfl, rfl, rfl, rfl⟩
    · exact ⟨rfl, rfl, rfl, rfl⟩

theorem untouched_goOn {waited : PressStage} {onward : Press → World}
    (honward : ∀ press, Untouched world (onward press)) :
    Untouched world (world.goOn waited onward) := by
  rcases goOn_cases world waited onward with ⟨press, -, -, hon⟩ | ⟨-, hon⟩
  · rw [hon]
    exact honward press
  · rw [hon]
    exact ⟨rfl, rfl, rfl, rfl⟩

theorem untouched_ends (world : World) (waited : PressStage) :
    Untouched world (world.ends waited) :=
  untouched_goOn fun _ => ⟨rfl, rfl, rfl, rfl⟩

theorem Knows.sends (h : Knows world) {songId : String} {e : EditorState} {save : Save}
    (hsends : Sends world next songId e save) : Knows next := by
  obtain rfl := hsends.next
  refine ⟨fun e he hheard => h.saved e he ?_, fun fetch hfetch hcurrent entry hentry hrequest
    hheard => h.read fetch hfetch hcurrent entry hentry hrequest ?_, fun e he hheard hnone =>
    h.listed e he ?_ hnone⟩
  all_goals exact fun save hsave => hheard save (List.mem_append_left _ hsave)

theorem Informed.press_step (h : Informed world) (task : Task) :
    Numbered (world.startJobFromEditor task).page ∧ Knows (world.startJobFromEditor task) := by
  have hkeeps : PageKeeps world.page world.page.retireVersionLoadUndo :=
    ⟨rfl, rfl, rfl, rfl, rfl⟩
  have hretired : Knows { world with page := world.page.retireVersionLoadUndo } :=
    h.knows.of_keeps hkeeps rfl rfl rfl
  have hnumbered := h.numbered.of_keeps hkeeps
  unfold World.startJobFromEditor
  split
  next songId model _ _ =>
    split
    · exact ⟨h.numbered, h.knows⟩
    · dsimp only
      split
      · split
        · exact ⟨hnumbered, hretired⟩
        next saving hsaving =>
          obtain ⟨e, save, hsends⟩ := sendSave_spec hsaving
          refine ⟨?_, (hretired.sends hsends).untouched ⟨rfl, rfl, rfl, rfl⟩⟩
          rw [hsends.next]
          exact hnumbered.sends h.inv.saves hsends.id _
      · have hsame := untouched_start { world with page := world.page.retireVersionLoadUndo }
          ⟨task, model, world.pressedNow songId, .starting⟩
        exact ⟨hsame.page ▸ hnumbered, hretired.untouched hsame⟩
  next => exact ⟨h.numbered, h.knows⟩

theorem Informed.serveSave (h : Informed world) {save : Save}
    (hhears : Hears world (.serveSave save)) {server : Server}
    (hserved : world.server.updateSong save = some server) :
    Knows { world with
      onTheWay := world.onTheWay.erase save
      server := server
      saved := world.saved ++ [save.id] } := by
  have hserves := serves_updateSong h.inv.settled hserved
  obtain ⟨awaited, hawaited, hid, hsong⟩ := hhears (by rw [hserved]; rfl)
  have hheard : ∀ songId, HeardOf { world with
      onTheWay := world.onTheWay.erase save
      server := server
      saved := world.saved ++ [save.id] } songId →
      songId ≠ save.songId ∧ HeardOf world songId := by
    intro songId hnext
    refine ⟨?_, fun found hfound hof hmem => hnext found hfound hof (List.mem_append_left _ hmem)⟩
    rintro rfl
    exact hnext awaited hawaited hsong
      (List.mem_append_right _ (List.mem_singleton.mpr hid))
  refine ⟨?_, ?_, ?_⟩
  · intro e he hnext
    obtain ⟨hother, hbefore⟩ := hheard _ hnext
    exact (hserves.other _ hother).2 _ (h.knows.saved e he hbefore)
  · intro fetch hfetch hcurrent entry hentry hrequest hnext
    obtain ⟨hother, hbefore⟩ := hheard _ hnext
    rw [(hserves.other _ hother).1]
    exact h.knows.read fetch hfetch hcurrent entry hentry hrequest hbefore
  · intro e he hnext hnone
    obtain ⟨hother, hbefore⟩ := hheard _ hnext
    rw [(hserves.other _ hother).1]
    exact h.knows.listed e he hbefore hnone

theorem heardOf_erase (h : Numbered world.page) {save : Save} (hsave : save ∈ world.page.saves)
    {songId : String} (hother : songId ≠ save.songId)
    (hsaves : next.page.saves = world.page.saves.erase save)
    (hsaved : next.saved = world.saved.erase save.id) (hheard : HeardOf next songId) :
    HeardOf world songId := by
  intro found hfound hsong hmem
  have hid : found.id ≠ save.id := by
    intro hsame
    exact hother (hsong.symm.trans (h.saves found hfound save hsave hsame))
  have hne : found ≠ save := by
    rintro rfl
    exact hid rfl
  refine hheard found ?_ hsong ?_
  · rw [hsaves]
    exact (List.mem_erase_of_ne hne).mpr hfound
  · rw [hsaved]
    exact (List.mem_erase_of_ne hid).mpr hmem

theorem Informed.saveAnswered (h : Informed world) {save : Save}
    (hsave : save ∈ world.page.saves) (hhears : Hears world (.saveAnswered save)) :
    Numbered (world.saveAnswered save).page ∧ Knows (world.saveAnswered save) := by
  let recorded : Page := { world.page with
    saves := world.page.saves.erase save
    editor := world.page.editor.map (Page.recordSaved save) }
  let answered : World := { world with
    page := (recorded.loadVersions save.songId false).1
    saved := world.saved.erase save.id }
  have hsame : Untouched answered (world.saveAnswered save) := by
    change Untouched answered (answered.goOn (.saving save.id) _)
    refine untouched_goOn fun press => ?_
    dsimp only
    split
    · exact ⟨rfl, rfl, rfl, rfl⟩
    · exact untouched_start answered press
  have hrecorded : Numbered recorded :=
    h.numbered.of_subset (fun _ => List.mem_of_mem_erase) fun _ => id
  have hnumbered : Numbered answered.page := hrecorded.loadVersions h.inv.fetches _ _
  refine ⟨hsame.page ▸ hnumbered, Knows.untouched ?_ hsame⟩
  by_cases hshows : ∃ e ∈ world.page.editor, e.songId = save.songId
  · obtain ⟨e, he, hsong⟩ := hshows
    have hshown := recordSaved_shows he hsong
    have hpage : answered.page = { recorded with
        versionLoad := recorded.versionLoad + 1
        fetches := recorded.fetches ++ [⟨recorded.versionLoad + 1, save.songId, false⟩] } :=
      congrArg Prod.fst (if_pos hshown)
    have hmem : ⟨recorded.versionLoad + 1, save.songId, false⟩ ∈ answered.page.fetches := by
      rw [hpage]
      exact List.mem_append_right _ (List.mem_singleton_self _)
    refine knows_of_loading hmem ?_ ?_ ?_
    · rw [hpage]
      exact isCurrent_loading recorded false hshown
    · rw [hpage]
      exact fun entry hentry => Nat.lt_succ_of_le (h.inv.read entry hentry)
    · intro found hfound _
      rw [hpage] at hfound
      obtain ⟨old, hold, rfl⟩ := Option.map_eq_some_iff.mp hfound
      obtain rfl := Option.some.inj (he.symm.trans hold)
      rw [Page.recordSaved, if_pos hsong]
      simp only
      rw [hsong]
      exact hhears
  · have hother : ∀ e ∈ world.page.editor, e.songId ≠ save.songId := fun e he hsong =>
      hshows ⟨e, he, hsong⟩
    have hpage : answered.page = { world.page with saves := world.page.saves.erase save } := by
      have heditor : world.page.editor.map (Page.recordSaved save) = world.page.editor := by
        cases heditor : world.page.editor with
        | none => rfl
        | some e => rw [Option.map_some, Page.recordSaved, if_neg (hother e heditor)]
      have hrecords : recorded = { world.page with saves := world.page.saves.erase save } := by
        change { world.page with
          saves := world.page.saves.erase save
          editor := world.page.editor.map (Page.recordSaved save) } = _
        rw [heditor]
      have hnot : ¬(recorded.editor.any fun e => e.songId = save.songId) = true := by
        rw [hrecords]
        cases heditor : world.page.editor with
        | none => exact Bool.false_ne_true
        | some e => simpa using hother e heditor
      rw [← hrecords]
      exact congrArg Prod.fst (if_neg hnot)
    have hheard : ∀ songId, songId ≠ save.songId → HeardOf answered songId →
        HeardOf world songId := fun songId hne =>
      heardOf_erase h.numbered hsave hne (by rw [hpage]) rfl
    refine ⟨?_, ?_, ?_⟩
    · rw [hpage]
      exact fun e he hnext => h.knows.saved e he (hheard _ (hother e he) hnext)
    · intro fetch hfetch hcurrent
      rw [hpage] at hfetch hcurrent
      intro entry hentry hrequest hnext
      refine h.knows.read fetch hfetch hcurrent entry hentry hrequest (hheard _ ?_ hnext)
      obtain ⟨e, he, hsong⟩ := exists_shown hcurrent
      exact hsong ▸ hother e he
    · rw [hpage]
      exact fun e he hnext hnone => h.knows.listed e he (hheard _ (hother e he) hnext) hnone

theorem Knows.saveFails (h : Knows world) {save : Save} (hhears : Hears world (.saveFails save)) :
    Knows { world with page := { world.page with saves := world.page.saves.erase save } } := by
  have hheard : ∀ songId,
      HeardOf { world with page := { world.page with saves := world.page.saves.erase save } }
        songId → HeardOf world songId := by
    intro songId hnext found hfound hsong hmem
    have hne : found ≠ save := by
      rintro rfl
      exact hhears hmem
    exact hnext found ((List.mem_erase_of_ne hne).mpr hfound) hsong hmem
  exact ⟨fun e he hnext => h.saved e he (hheard _ hnext),
    fun fetch hfetch hcurrent entry hentry hrequest hnext =>
      h.read fetch hfetch hcurrent entry hentry hrequest (hheard _ hnext),
    fun e he hnext hnone => h.listed e he (hheard _ hnext) hnone⟩

theorem Informed.serveVersions (h : Informed world) {fetch : VersionsFetch}
    (hfetch : fetch ∈ world.page.fetches) {loaded : List VersionItem}
    (hloaded : world.server.fetchVersions fetch.songId = some loaded) :
    Knows { world with read := world.read ++ [(fetch.request, loaded)] } := by
  refine ⟨h.knows.saved, ?_, h.knows.listed⟩
  intro other hother hcurrent entry hentry hrequest hheard
  rcases List.mem_append.mp hentry with hold | hnew
  · exact h.knows.read other hother hcurrent entry hold hrequest hheard
  · rw [List.mem_singleton.mp hnew] at hrequest ⊢
    rw [← h.numbered.fetches fetch hfetch other hother hrequest]
    exact head_fetchVersions hloaded

/-- A read that the page would not show is over. -/
theorem Knows.erase (h : Knows world) {fetch : VersionsFetch}
    (hnot : world.page.isCurrent fetch = false) (deletions : List Deletion) :
    Knows { world with page := { world.page with
      fetches := world.page.fetches.erase fetch, deletions := deletions } } := by
  refine ⟨h.saved, fun other hother => h.read other (List.mem_of_mem_erase hother), ?_⟩
  intro e he hheard hnone
  refine h.listed e he hheard fun other hother => ?_
  by_cases hsame : other = fetch
  · rw [hsame]
    exact hnot
  · exact hnone other ((List.mem_erase_of_ne hsame).mpr hother)

theorem Knows.versionsAnswered (h : Knows world) {fetch : VersionsFetch}
    (hfetch : fetch ∈ world.page.fetches) {loaded : List VersionItem}
    (hread : world.read.lookup fetch.request = some loaded) :
    Knows (world.versionsAnswered fetch loaded) := by
  have hanswered : Knows { world with page := world.page.versionsAnswered fetch loaded } := by
    unfold Page.versionsAnswered
    dsimp only
    split
    next hcurrent =>
      refine ⟨h.saved, fun other hother => h.read other (List.mem_of_mem_erase hother), ?_⟩
      intro e he hheard _
      obtain ⟨shown, hshown, hsong⟩ := exists_shown hcurrent
      obtain rfl := Option.some.inj (he.symm.trans hshown)
      rw [hsong] at hheard ⊢
      exact h.read fetch hfetch hcurrent _ (mem_of_lookup hread) rfl hheard
    next hnot => exact h.erase (by simpa using hnot) world.page.deletions
  exact hanswered.untouched (untouched_goOn fun press => untouched_start _ press)

theorem Knows.latest (h : Knows world) {songId : String}
    (hshown : ∃ e ∈ world.page.editor, e.songId = songId) (hheard : HeardOf world songId)
    (hnone : NoRead world.page) : KnowsLatest world songId := by
  obtain ⟨e, he, rfl⟩ := hshown
  obtain ⟨song, hsong, version, hversion, hholds⟩ := h.saved e he hheard
  refine ⟨song, hsong, version, hversion, ?_, e, he, hholds⟩
  rw [h.listed e he hheard hnone, RenderedAsShown.latest, Option.mem_def.mp hsong,
    Option.bind_some, Option.mem_def.mp hversion]
  rfl

/-! ### Whole runs -/

def isPress : Action → Bool
  | .press _ => true
  | _ => false

/-- The page hears of everything, and the press that is under way is left undisturbed. What a
press finds is not asked for. -/
structure Told (world : World) (a : Action) : Prop where
  hears : Hears world a
  undisturbed : isPress a = false → Undisturbed world a

instance (world : World) (songId : String) : Decidable (HeardOf world songId) :=
  inferInstanceAs (Decidable (∀ save ∈ world.page.saves, save.songId = songId →
    save.id ∉ world.saved))

instance (page : Page) : Decidable (NoRead page) :=
  inferInstanceAs (Decidable (∀ fetch ∈ page.fetches, page.isCurrent fetch = false))

instance (server : Server) (songId : String) (shown : SongData) :
    Decidable (Shows server songId shown) :=
  inferInstanceAs (Decidable (∃ song ∈ server.songOf songId,
    ∃ version ∈ server.state.latestVersion song, HoldsDraft version.content shown))

instance (world : World) : DecidablePred (Hears world)
  | .page (.loadSong song) =>
      inferInstanceAs (Decidable (Shows world.server song.id (songDataFromSong song)))
  | .page (.selectSong songId) =>
      inferInstanceAs (Decidable (songId = world.page.selectedSongId ∨ NoRead world.page))
  | .press _ => inferInstanceAs (Decidable (world.isDirty = false →
      ∀ songId ∈ world.page.selectedSongId,
        (∃ e ∈ world.page.editor, e.songId = songId) ∧ HeardOf world songId ∧ NoRead world.page))
  | .serveSave save => inferInstanceAs (Decidable ((world.server.updateSong save).isSome = true →
      ∃ awaited ∈ world.page.saves, awaited.id = save.id ∧ awaited.songId = save.songId))
  | .saveAnswered save =>
      inferInstanceAs (Decidable (Shows world.server save.songId save.draft.data))
  | .saveFails save => inferInstanceAs (Decidable (save.id ∉ world.saved))
  | .versionsFail fetch => inferInstanceAs (Decidable (world.page.isCurrent fetch = false))
  | .page (.edit _) | .page .discard | .page (.loadVersion _) | .page (.undo _)
  | .page (.expire _) | .page .setAside | .page .offerAgain | .page .retire
  | .page .reloadVersions | .page (.sendSave _) | .page (.saveAnswered _) | .page (.saveFails _)
  | .page (.versionsAnswered ..) | .page (.versionsFail _) | .page (.deleteVersion ..)
  | .page (.deletionAnswered _) | .page (.deletionFails _) | .page (.deletionSongFetched ..)
  | .page (.deletionEnds _) | .setRecipe _ | .setSource _ | .save _ | .serveVersions _
  | .versionsAnswered _ | .jobAnswered | .serverWorks .. => .isTrue trivial

instance (world : World) (a : Action) : Decidable (Told world a) :=
  decidable_of_iff (Hears world a ∧ (isPress a = false → Undisturbed world a))
    ⟨fun h => ⟨h.1, h.2⟩, fun h => ⟨h.hears, h.undisturbed⟩⟩

theorem Informed.undisturbed (h : Informed world) {a : Action} (htold : Told world a) :
    Undisturbed world a := by
  cases hpress : isPress a with
  | false => exact htold.undisturbed hpress
  | true =>
      cases a with
      | press task =>
          intro _ _ hclean songId hselected
          obtain ⟨hshown, hheard, hnone⟩ := htold.hears hclean songId hselected
          exact h.knows.latest hshown hheard hnone
      | _ => exact absurd hpress Bool.false_ne_true

theorem Informed.act (h : Informed world) {a : Action}
    (hact : act world a = some next) (htold : Told world a) : Informed next := by
  have hinv := (h.inv.act hact (h.undisturbed htold)).1
  suffices hnext : Numbered next.page ∧ Knows next from ⟨hinv, hnext.1, hnext.2⟩
  have hsame : Untouched world next → Numbered next.page ∧ Knows next := fun hsame =>
    ⟨hsame.page ▸ h.numbered, h.knows.untouched hsame⟩
  have hhears := htold.hears
  cases a with
  | page a =>
      obtain ⟨hof, hmap⟩ := Option.ite_none_right_eq_some.mp hact
      obtain ⟨page, hpage, rfl⟩ := Option.map_eq_some_iff.mp hmap
      exact h.page_step hof hpage hhears
  | setRecipe recipe =>
      obtain rfl := Option.some.inj hact
      exact hsame ⟨rfl, rfl, rfl, rfl⟩
  | setSource source =>
      obtain rfl := Option.some.inj hact
      exact hsame ⟨rfl, rfl, rfl, rfl⟩
  | press task =>
      obtain rfl := Option.some.inj hact
      exact h.press_step task
  | save songId =>
      obtain ⟨e, save, hsends⟩ := sendSave_spec hact
      refine ⟨?_, h.knows.sends hsends⟩
      rw [hsends.next]
      exact h.numbered.sends h.inv.saves hsends.id _
  | serveSave save =>
      obtain ⟨-, rfl⟩ := Option.ite_some_none_eq_some.mp hact
      cases hserved : world.server.updateSong save with
      | none => exact ⟨h.numbered, h.knows.untouched ⟨rfl, rfl, rfl, rfl⟩⟩
      | some server => exact ⟨h.numbered, h.serveSave hhears hserved⟩
  | saveAnswered save =>
      obtain ⟨⟨hsave, -⟩, rfl⟩ := Option.ite_some_none_eq_some.mp hact
      exact h.saveAnswered hsave hhears
  | saveFails save =>
      obtain ⟨-, rfl⟩ := Option.ite_some_none_eq_some.mp hact
      have hends := untouched_ends
        { world with page := { world.page with saves := world.page.saves.erase save } }
        (.saving save.id)
      have hnumbered : Numbered { world.page with saves := world.page.saves.erase save } :=
        h.numbered.of_subset (fun _ => List.mem_of_mem_erase) fun _ => id
      exact ⟨hends.page ▸ hnumbered, (h.knows.saveFails hhears).untouched hends⟩
  | serveVersions fetch =>
      obtain ⟨⟨hfetch, -⟩, hmap⟩ := Option.ite_none_right_eq_some.mp hact
      obtain ⟨loaded, hloaded, rfl⟩ := Option.map_eq_some_iff.mp hmap
      exact ⟨h.numbered, h.serveVersions hfetch hloaded⟩
  | versionsAnswered fetch =>
      obtain ⟨hfetch, hmap⟩ := Option.ite_none_right_eq_some.mp hact
      obtain ⟨loaded, hloaded, rfl⟩ := Option.map_eq_some_iff.mp hmap
      refine ⟨?_, h.knows.versionsAnswered hfetch hloaded⟩
      have hpage : (world.versionsAnswered fetch loaded).page =
          world.page.versionsAnswered fetch loaded :=
        (untouched_goOn fun press => untouched_start _ press).page
      rw [hpage, Page.versionsAnswered]
      split
      · exact h.numbered.of_subset (fun _ => id) fun _ => List.mem_of_mem_erase
      · exact h.numbered.of_subset (fun _ => id) fun _ => List.mem_of_mem_erase
  | versionsFail fetch =>
      obtain ⟨-, rfl⟩ := Option.ite_some_none_eq_some.mp hact
      have hends := untouched_ends { world with page := world.page.versionsFailed fetch }
        (.loadingVersions fetch.request)
      have hnumbered : Numbered (world.page.versionsFailed fetch) :=
        h.numbered.of_subset (fun _ => id) fun _ => List.mem_of_mem_erase
      exact ⟨hends.page ▸ hnumbered, (h.knows.erase hhears _).untouched hends⟩
  | jobAnswered =>
      obtain rfl := Option.some.inj hact
      exact hsame (untouched_ends _ _)
  | serverWorks takes jobs =>
      obtain rfl := Option.some.inj hact
      exact ⟨h.numbered, h.knows.saved, h.knows.read, h.knows.listed⟩

end Steps

theorem informed_newWorld {server : Server} (h : Settled server.state) (recipe : Recipe) :
    Informed (newWorld server recipe) where
  inv := inv_newWorld h recipe
  numbered := ⟨fun _ hsave => absurd hsave List.not_mem_nil,
    fun _ hfetch => absurd hfetch List.not_mem_nil⟩
  knows := ⟨fun e he => absurd he (by simp [newWorld, newPage]),
    fun _ hfetch => absurd hfetch List.not_mem_nil,
    fun e he => absurd he (by simp [newWorld, newPage])⟩

/-- What the page shows when Generate is pressed is what the job renders, also where the draft
awaits no save: the page has loaded what the server had, has heard of every save that was taken,
and has read the versions since. -/
theorem renders_as_shown_of_told {server : Server} {recipe : Recipe}
    (hserver : Settled server.state) {earlier later : List (Action × World)} {a : Action}
    {next : World}
    (hrun : generatePress.IsRun (newWorld server recipe) (earlier ++ (a, next) :: later))
    (hmeet : StepsMeet Told (newWorld server recipe) earlier)
    (hlast : Told (lastOf (newWorld server recipe) earlier) a) :
    RendersShown (lastOf (newWorld server recipe) earlier) a next := by
  obtain ⟨hstep, -⟩ := isRun_middle hrun
  have hkeeps : ∀ world a next, Informed world → generatePress.step world a next →
      Told world a → Informed next := fun _ _ _ h hact htold => h.act hact htold
  have hkept := forall_visited_of_stepsMeet hkeeps (informed_newWorld hserver recipe)
    (isRun_first hrun) hmeet
  have hinformed := hkept _ (lastOf_mem_visited _ _)
  exact (hinformed.inv.act hstep (hinformed.undisturbed hlast)).2

/-- The second press finds a draft that awaits no save, and the versions read since. -/
def pressedAgain : List Action :=
  savesPressed ++ [.serveVersions ⟨4, "0", false⟩, .versionsAnswered ⟨4, "0", false⟩, .jobAnswered]

theorem renders_as_shown_of_told_again : ∃ next,
    act (followed pressedAgain) (.press .generate) = some next ∧ next.requests.length = 2 ∧
      RendersShown (followed pressedAgain) (.press .generate) next := by
  have hsent : (act (followed pressedAgain) (.press .generate)).map
      (fun next => next.requests.length) = some 2 := by
    decide +kernel
  obtain ⟨next, hnext, htwo⟩ := Option.map_eq_some_iff.mp hsent
  have hrun : generatePress.IsRun startWorld
      (follow act startWorld pressedAgain ++ [(.press .generate, next)]) :=
    isRun_concat (isRun_follow _ act startWorld _) hnext
  exact ⟨next, hnext, htwo, renders_as_shown_of_told settled_exampleServer hrun
    (by decide +kernel) (by decide +kernel)⟩

end Songmaker.Editor.RenderedAsShown
