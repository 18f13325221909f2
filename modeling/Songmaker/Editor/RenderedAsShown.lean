import Songmaker.Editor.GeneratePress
import Songmaker.Editor.PredictionMatches

namespace Songmaker.Editor.RenderedAsShown

open Songmaker.Foundation
open Songmaker.Foundation.TransitionSystem
open Songmaker.Songs.SongSaves (SongId Version VersionContent SaveRequest State Stage Take
  Job)
open Songmaker.Songs.VersionImmutability
open Songmaker.Songs.VersionNumbers
open Songmaker.Editor.EditorDraft hiding Action act
open Songmaker.Editor.PredictedVersion
open Songmaker.Editor.GeneratePress

/-- The content of a version is the draft, as the server stores its parameters. -/
structure HoldsDraft (content : VersionContent Knob) (data : SongData) : Prop where
  lyrics : content.lyrics = data.lyrics.toList
  prompt : content.prompt = data.prompt.toList
  bpm : (content.bpm : ℚ) = data.bpm
  audioDuration : (content.audioDuration : ℚ) = data.audioDuration
  keyScale : content.keyScale = data.keyScale.toList
  generationParams : content.generationParams = genParamsToJson data.genParams
  reference : content.referenceRecordingId.map Nat.repr = data.reference.map ReferenceResponse.id

/-- The request is for the song or the source that was open at the press, and names a
version of the song that holds the draft that was shown. -/
structure Renders (server : Server) (request : JobRequest) : Prop where
  target : request.target = .song request.pressed.songId ∨
    ∃ take, request.target = .take take ∧ request.pressed.source = some take
  version : ∃ song, server.songOf request.pressed.songId = some song ∧
    ∃ version ∈ server.state.versions, version.songId = song ∧
      request.versionId = some version.id.repr ∧ HoldsDraft version.content request.pressed.shown

/-- The page knows the version that it is about to name: the draft awaits no save, or the
versions that were read after the save are taken over. -/
def Learnt (world : World) : Action → Prop
  | .press _ => world.isDirty = false
  | .versionsAnswered fetch =>
      (∃ press ∈ world.press, press.stage = .loadingVersions fetch.request) ∧
        world.page.isCurrent fetch = true
  | _ => False

/-- A step asks for a job that renders what was shown, or for none. -/
structure RendersShown (world : World) (a : Action) (next : World) : Prop where
  renders : ∀ request, next.requests = world.requests ++ [request] →
    Renders world.server request
  learnt : next.requests ≠ world.requests → Learnt world a

/-- The version that leads the page's list is the latest of the open song, and holds what
the editor has as saved. -/
def KnowsLatest (world : World) (songId : String) : Prop :=
  ∃ song ∈ world.server.songOf songId, ∃ version ∈ world.server.state.latestVersion song,
    world.page.versions.head?.map VersionItem.id = some version.id.repr ∧
      ∃ e ∈ world.page.editor, HoldsDraft version.content e.saved.data

/-- Whether a save may be taken at a stage of a press of its song: it is the press's own, or
the press's own comes later. -/
def MayTake (world : World) (save : Save) : PressStage → Prop
  | .saving own => own = save.id ∨ own ∉ world.saved
  | .loadingVersions _ => False
  | .starting => True

/-- Whether a step leaves the press that is under way undisturbed. -/
def Undisturbed (world : World) : Action → Prop
  | .press _ => world.press = none → world.recipe.model.isSome = true → world.isDirty = false →
      ∀ songId ∈ world.page.selectedSongId, KnowsLatest world songId
  | .setSource source => ∀ press ∈ world.press, press.task = .sourceTask →
      press.stage ≠ .starting → source = none ∨ source = press.pressed.source
  | .serveSave save => (world.server.updateSong save).isSome = true → ∀ press ∈ world.press,
      press.pressed.songId = save.songId → MayTake world save press.stage
  | .saveAnswered save => ∀ press ∈ world.press, press.stage = .saving save.id →
      ∃ e ∈ world.page.editor, e.songId = save.songId
  | .versionsAnswered fetch => ∀ press ∈ world.press,
      press.stage = .loadingVersions fetch.request → world.page.isCurrent fetch = true
  | _ => True

instance (content : VersionContent Knob) (data : SongData) : Decidable (HoldsDraft content data) :=
  decidable_of_iff (content.lyrics = data.lyrics.toList ∧ content.prompt = data.prompt.toList ∧
      (content.bpm : ℚ) = data.bpm ∧ (content.audioDuration : ℚ) = data.audioDuration ∧
      content.keyScale = data.keyScale.toList ∧
      content.generationParams = genParamsToJson data.genParams ∧
      content.referenceRecordingId.map Nat.repr = data.reference.map ReferenceResponse.id)
    ⟨fun h => ⟨h.1, h.2.1, h.2.2.1, h.2.2.2.1, h.2.2.2.2.1, h.2.2.2.2.2.1, h.2.2.2.2.2.2⟩,
      fun h => ⟨h.lyrics, h.prompt, h.bpm, h.audioDuration, h.keyScale, h.generationParams,
        h.reference⟩⟩

instance (world : World) (songId : String) : Decidable (KnowsLatest world songId) :=
  inferInstanceAs (Decidable (∃ song ∈ world.server.songOf songId,
    ∃ version ∈ world.server.state.latestVersion song,
      world.page.versions.head?.map VersionItem.id = some version.id.repr ∧
        ∃ e ∈ world.page.editor, HoldsDraft version.content e.saved.data))

instance (world : World) (save : Save) : DecidablePred (MayTake world save)
  | .saving own => inferInstanceAs (Decidable (own = save.id ∨ own ∉ world.saved))
  | .loadingVersions _ => .isFalse fun h => h
  | .starting => .isTrue trivial

instance (world : World) : DecidablePred (Undisturbed world)
  | .press _ => inferInstanceAs (Decidable (world.press = none →
      world.recipe.model.isSome = true → world.isDirty = false →
        ∀ songId ∈ world.page.selectedSongId, KnowsLatest world songId))
  | .setSource source => inferInstanceAs (Decidable (∀ press ∈ world.press,
      press.task = .sourceTask → press.stage ≠ .starting →
        source = none ∨ source = press.pressed.source))
  | .serveSave save => inferInstanceAs (Decidable ((world.server.updateSong save).isSome = true →
      ∀ press ∈ world.press, press.pressed.songId = save.songId →
        MayTake world save press.stage))
  | .saveAnswered save => inferInstanceAs (Decidable (∀ press ∈ world.press,
      press.stage = .saving save.id → ∃ e ∈ world.page.editor, e.songId = save.songId))
  | .versionsAnswered fetch => inferInstanceAs (Decidable (∀ press ∈ world.press,
      press.stage = .loadingVersions fetch.request → world.page.isCurrent fetch = true))
  | .page _ | .setRecipe _ | .save _ | .saveFails _ | .serveVersions _ | .versionsFail _
  | .jobAnswered | .serverWorks .. => .isTrue trivial

/-! ### What the server makes of a save -/

section Saves

theorem HoldsDraft.congr {content : VersionContent Knob} {data other : SongData}
    (h : HoldsDraft content data) (hequal : songDataEqual other data = true) :
    HoldsDraft content other := by
  simp only [songDataEqual, creativeContentEqual, Bool.and_eq_true, decide_eq_true_eq] at hequal
  obtain ⟨⟨⟨⟨⟨⟨hlyrics, hprompt⟩, hbpm⟩, hduration⟩, hkey⟩, hparams⟩, hreference⟩ := hequal
  refine ⟨?_, ?_, ?_, ?_, ?_, ?_, ?_⟩
  · rw [hlyrics]
    exact h.lyrics
  · rw [hprompt]
    exact h.prompt
  · rw [hbpm]
    exact h.bpm
  · rw [hduration]
    exact h.audioDuration
  · rw [hkey]
    exact h.keyScale
  · rw [genParamsToJson_congr hparams]
    exact h.generationParams
  · rw [hreference]
    exact h.reference

theorem num_cast {value : ℚ} (hden : value.den = 1) : (value.num : ℚ) = value :=
  ((num_eq_iff hden value.num).mp rfl).symm

theorem holdsDraft_content {recordings : List Nat} {e : EditorState} {request : SaveRequest Knob}
    (h : (saveRequest e).received recordings = some request)
    (previous : Option (Version Knob)) : HoldsDraft (request.content previous) e.draft.data := by
  obtain ⟨hbpm, hduration, hfound, hcontent, -, -⟩ := SongUpdateRequest.received_eq_some h
  rw [hcontent]
  refine ⟨rfl, rfl, num_cast hbpm, num_cast hduration, rfl,
    filter_genParamsToJson e.draft.data.genParams, ?_⟩
  change (((saveRequest e).referenceRecordingId.bind fun id =>
    recordings.find? fun n => n.repr = id).map Nat.repr) = (saveRequest e).referenceRecordingId
  cases hid : (saveRequest e).referenceRecordingId with
  | none => rfl
  | some id =>
      obtain ⟨n, hn, hrepr⟩ := hfound id hid
      rw [Option.bind_some]
      cases hfind : recordings.find? fun n => n.repr = id with
      | none => exact absurd (List.find?_eq_none.mp hfind n hn) (by simp [hrepr])
      | some m =>
          have hm := List.find?_some hfind
          rw [decide_eq_true_eq] at hm
          rw [Option.map_some, hm]

variable {state : State Knob} {song : SongId} {request : SaveRequest Knob}

theorem savingStage_kept : StageKept state (savingStage state song request) := by
  unfold savingStage
  split
  next previous hlatest =>
    split
    next hrewrites =>
      unfold rewritesInPlace at hrewrites
      split_ifs at hrewrites with hforce hsame hactive
      · exact ⟨hlatest, by simpa using hforce, Or.inl (by simpa using hsame)⟩
      · refine ⟨hlatest, by simpa using hforce, Or.inr ⟨by simpa using hactive, fun htake => ?_⟩⟩
        rw [htake] at hrewrites
        simpa using hrewrites
    next hnew =>
      refine ⟨hlatest, ?_⟩
      by_cases hforce : request.forceNewVersion = true
      · exact Or.inl hforce
      · refine Or.inr fun row hrow => ?_
        obtain rfl := Option.mem_some.mp hrow
        by_contra hsame
        rw [Bool.not_eq_true] at hsame
        exact hnew (by simp [rewritesInPlace, hforce, hsame])
  next hnone => exact ⟨hnone, Or.inr fun row hrow => absurd hrow (by simp)⟩

theorem heldSong_savingStage : heldSong (savingStage state song request) = some song := by
  unfold savingStage
  split
  · split
    · rfl
    · rfl
  · rfl

theorem updateSong_content : ∃ previous,
    (updateSong state song request).content = request.content previous := by
  unfold updateSong
  split
  next previous hlatest =>
    dsimp only
    split
    · exact ⟨some previous, rfl⟩
    · exact ⟨some previous, rfl⟩
  next => exact ⟨none, rfl⟩

theorem settled_committed (h : Settled state) (stage : Stage Knob) :
    Settled (committed state stage) where
  idle := h.idle
  ids := (commitVersions_ids (settled_invariant h) stage).1
  fresh := (commitVersions_ids (settled_invariant h) stage).2

end Saves

/-- The latest version of the song holds the draft. -/
def Shows (server : Server) (songId : String) (shown : SongData) : Prop :=
  ∃ song ∈ server.songOf songId, ∃ version ∈ server.state.latestVersion song,
    HoldsDraft version.content shown

/-- The version that leads the list of a song's versions. -/
def latest (server : Server) (songId : String) : Option VersionItem :=
  (server.songOf songId).bind fun song =>
    (server.state.latestVersion song).map (versionResponse server.filename)

/-- What serving a save does: the song's latest version holds its draft, and the versions of
the other songs are as they were. -/
structure Serves (server next : Server) (save : Save) : Prop where
  settled : Settled next.state
  shows : Shows next save.songId save.draft.data
  song : ∀ songId, next.songOf songId = server.songOf songId
  other : ∀ songId, songId ≠ save.songId → latest next songId = latest server songId ∧
    ∀ shown, Shows server songId shown → Shows next songId shown

theorem songOf_repr {server : Server} {songId : String} {song : SongId}
    (h : server.songOf songId = some song) : song.repr = songId := by
  have hfound := List.find?_some h
  simpa using hfound

theorem serves_updateSong {server next : Server} {save : Save} (h : Settled server.state)
    (hserved : server.updateSong save = some next) : Serves server next save := by
  unfold Server.updateSong at hserved
  split at hserved
  next song request hsong hrequest =>
    obtain rfl := Option.some.inj hserved
    have hkept : StageKept server.state (savingStage server.state song request) :=
      savingStage_kept
    have hlatest : (committed server.state (savingStage server.state song request)).latestVersion
        song = some (updateSong server.state song request) :=
      savedVersion_latest hkept (savedVersion_savingStage server.state song request)
        heldSong_savingStage
    have hcontents : ∃ previous,
        (updateSong server.state song request).content = request.content previous :=
      updateSong_content
    obtain ⟨previous, hcontent⟩ := hcontents
    refine ⟨settled_committed h _, ⟨song, hsong, _, hlatest, ?_⟩, fun _ => rfl, ?_⟩
    · rw [hcontent]
      exact holdsDraft_content hrequest previous
    · intro songId hne
      have hsame : ∀ other, server.songOf songId = some other →
          (committed server.state (savingStage server.state song request)).latestVersion other =
            server.state.latestVersion other := by
        intro other hother
        refine congrArg List.getLast? (commitVersions_filter (settled_invariant h) hkept ?_)
        rw [heldSong_savingStage]
        rintro hheld
        obtain rfl := Option.some.inj hheld
        exact hne ((songOf_repr hother).symm.trans (songOf_repr hsong))
      constructor
      · unfold latest
        change (server.songOf songId).bind _ = _
        cases hother : server.songOf songId with
        | none => rfl
        | some other =>
            rw [Option.bind_some, Option.bind_some, hsame other hother]
      · rintro shown ⟨other, hother, version, hversion, hholds⟩
        refine ⟨other, hother, version, ?_, hholds⟩
        exact (hsame other hother).trans hversion
  next => cases hserved

/-! ### What a press keeps -/

/-- What a step of the page leaves of its requests, and numbers anew. -/
structure PageStep (page next : Page) : Prop where
  refs : page.nextRef ≤ next.nextRef
  loads : page.versionLoad ≤ next.versionLoad
  saves : ∀ save ∈ next.saves, (∃ old ∈ page.saves, old.id = save.id ∧ old.songId = save.songId) ∨
    page.nextRef ≤ save.id ∧ save.id < next.nextRef
  fetches : ∀ fetch ∈ next.fetches, fetch ∈ page.fetches ∨
    page.versionLoad < fetch.request ∧ fetch.request ≤ next.versionLoad

/-- How far the press has come: its own save, once taken, holds what was shown, and what the
server answers its read is led by the version of that save. -/
def StageHolds (world : World) (pressed : Pressed) : PressStage → Prop
  | .saving id => id < world.page.nextRef ∧
      (∀ save ∈ world.onTheWay, save.id = id →
        save.songId = pressed.songId ∧ save.draft.data = pressed.shown) ∧
      (∀ save ∈ world.page.saves, save.id = id → save.songId = pressed.songId) ∧
      (id ∈ world.saved → Shows world.server pressed.songId pressed.shown)
  | .loadingVersions request => request ≤ world.page.versionLoad ∧
      (∀ fetch ∈ world.page.fetches, fetch.request = request → fetch.songId = pressed.songId) ∧
      (∀ entry ∈ world.read, entry.1 = request →
        entry.2.head? = latest world.server pressed.songId) ∧
      Shows world.server pressed.songId pressed.shown
  | .starting => True

/-- What holds of the press under way. -/
structure PressHolds (world : World) (press : Press) : Prop where
  stage : StageHolds world press.pressed press.stage
  source : press.task = .sourceTask → press.stage ≠ .starting →
    world.source = none ∨ world.source = press.pressed.source

/-- What every step that leaves the press undisturbed keeps. -/
structure Inv (world : World) : Prop where
  settled : Settled world.server.state
  onTheWay : ∀ save ∈ world.onTheWay, save.id < world.page.nextRef
  saves : ∀ save ∈ world.page.saves, save.id < world.page.nextRef
  saved : ∀ id ∈ world.saved, id < world.page.nextRef
  read : ∀ entry ∈ world.read, entry.1 ≤ world.page.versionLoad
  fetches : ∀ fetch ∈ world.page.fetches, fetch.request ≤ world.page.versionLoad
  press : ∀ press ∈ world.press, PressHolds world press

section PageSteps

variable {page next : Page}

theorem PageStep.refl (page : Page) : PageStep page page :=
  ⟨Nat.le_refl _, Nat.le_refl _, fun save hsave => Or.inl ⟨save, hsave, rfl, rfl⟩,
    fun _ => Or.inl⟩

theorem PageStep.of_same (hrefs : page.nextRef ≤ next.nextRef)
    (hloads : page.versionLoad ≤ next.versionLoad) (hsaves : next.saves = page.saves)
    (hfetches : next.fetches = page.fetches) : PageStep page next where
  refs := hrefs
  loads := hloads
  saves save hsave := Or.inl ⟨save, hsaves ▸ hsave, rfl, rfl⟩
  fetches _ hfetch := Or.inl (hfetches ▸ hfetch)

theorem PageStep.trans {third : Page} (h : PageStep page next) (hnext : PageStep next third) :
    PageStep page third where
  refs := Nat.le_trans h.refs hnext.refs
  loads := Nat.le_trans h.loads hnext.loads
  saves := by
    intro save hsave
    have hrefs := h.refs
    have hmore := hnext.refs
    rcases hnext.saves save hsave with ⟨old, hold, hid, hsong⟩ | ⟨hge, hlt⟩
    · rcases h.saves old hold with ⟨older, holder, hid', hsong'⟩ | ⟨hge, hlt⟩
      · exact Or.inl ⟨older, holder, hid'.trans hid, hsong'.trans hsong⟩
      · exact Or.inr (by omega)
    · exact Or.inr (by omega)
  fetches := by
    intro fetch hfetch
    have hloads := h.loads
    have hmore := hnext.loads
    rcases hnext.fetches fetch hfetch with hold | ⟨hgt, hle⟩
    · rcases h.fetches fetch hold with holder | ⟨hgt, hle⟩
      · exact Or.inl holder
      · exact Or.inr (by omega)
    · exact Or.inr (by omega)

theorem pageStep_markEdited (page : Page) : PageStep page page.markEdited where
  refs := Nat.le_refl _
  loads := Nat.le_refl _
  saves := by
    intro save hsave
    obtain ⟨old, hold, rfl⟩ := List.mem_map.mp hsave
    refine Or.inl ⟨old, hold, ?_⟩
    split
    · exact ⟨rfl, rfl⟩
    · exact ⟨rfl, rfl⟩
  fetches _ := Or.inl

theorem PageStep.edited {editor : Option EditorState} {offered : Option OfferedVersionLoad}
    {undos : List VersionLoadUndo} {nextRef : Nat} (hrefs : page.nextRef ≤ nextRef) :
    PageStep page { page.markEdited with
      editor := editor, offered := offered, undos := undos, nextRef := nextRef } :=
  (pageStep_markEdited page).trans (.of_same hrefs (Nat.le_refl _) rfl rfl)

theorem pageStep_loadVersions (page : Page) (songId : String) (recover : Bool) :
    PageStep page (page.loadVersions songId recover).1 := by
  unfold Page.loadVersions
  split
  · refine ⟨Nat.le_refl _, Nat.le_succ _, fun save hsave => Or.inl ⟨save, hsave, rfl, rfl⟩, ?_⟩
    intro fetch hfetch
    rcases List.mem_append.mp hfetch with hold | hnew
    · exact Or.inl hold
    · obtain rfl := List.mem_singleton.mp hnew
      exact Or.inr ⟨Nat.lt_succ_self _, Nat.le_refl _⟩
  · exact .refl page

theorem pageStep_act {a : EditorDraft.Action} (hof : isOfPage a = true)
    (hact : EditorDraft.act page a = some next) : PageStep page next := by
  cases a with
  | edit change =>
      obtain ⟨e, -, rfl⟩ := Option.map_eq_some_iff.mp hact
      exact .edited (Nat.le_succ _)
  | loadSong song =>
      obtain rfl := Option.some.inj hact
      unfold Page.loadSongData
      dsimp only
      refine PageStep.trans ?_ (pageStep_loadVersions _ song.id true)
      exact .of_same (Nat.le_add_right _ 2) (Nat.le_refl _) rfl rfl
  | discard =>
      obtain rfl := Option.some.inj hact
      unfold Page.discardDraft
      split
      · exact .refl page
      · exact .edited (Nat.le_succ _)
  | loadVersion version =>
      obtain rfl := Option.some.inj hact
      unfold Page.loadVersionAsDraft
      split
      · exact .refl page
      · dsimp only
        -- whether the version is the latest, and whether the load changes anything
        split
        all_goals
          split
          · exact .of_same (Nat.le_refl _) (Nat.le_refl _) rfl rfl
          · exact .edited (Nat.le_add_right _ 3)
  | undo load =>
      obtain ⟨-, rfl⟩ := Option.ite_some_none_eq_some.mp hact
      unfold Page.undoVersionLoad
      split
      · exact .edited (Nat.le_refl _)
      · exact .refl page
  | expire load =>
      obtain ⟨-, rfl⟩ := Option.ite_some_none_eq_some.mp hact
      exact .of_same (Nat.le_refl _) (Nat.le_refl _) rfl rfl
  | setAside =>
      obtain rfl := Option.some.inj hact
      exact .of_same (Nat.le_refl _) (Nat.le_refl _) rfl rfl
  | offerAgain =>
      obtain rfl := Option.some.inj hact
      exact .of_same (Nat.le_refl _) (Nat.le_refl _) rfl rfl
  | retire =>
      obtain rfl := Option.some.inj hact
      exact .of_same (Nat.le_refl _) (Nat.le_refl _) rfl rfl
  | selectSong songId =>
      obtain rfl := Option.some.inj hact
      unfold Page.selectSong
      split
      · exact .refl page
      · exact .of_same (Nat.le_refl _) (Nat.le_succ _) rfl rfl
  | reloadVersions =>
      obtain rfl := Option.some.inj hact
      cases page.editor with
      | none => exact .refl page
      | some s => exact pageStep_loadVersions page s.songId true
  | _ => exact absurd hof Bool.false_ne_true

theorem pageStep_versionsAnswered (page : Page) (fetch : VersionsFetch)
    (loaded : List VersionItem) : PageStep page (page.versionsAnswered fetch loaded) := by
  have herased : ∀ found ∈ page.fetches.erase fetch, found ∈ page.fetches := fun found =>
    List.mem_of_mem_erase
  unfold Page.versionsAnswered
  dsimp only
  split
  · exact ⟨Nat.le_refl _, Nat.le_refl _, fun save hsave => Or.inl ⟨save, hsave, rfl, rfl⟩,
      fun found hfound => Or.inl (herased found hfound)⟩
  · exact ⟨Nat.le_refl _, Nat.le_refl _, fun save hsave => Or.inl ⟨save, hsave, rfl, rfl⟩,
      fun found hfound => Or.inl (herased found hfound)⟩

theorem pageStep_versionsFailed (page : Page) (fetch : VersionsFetch) :
    PageStep page (page.versionsFailed fetch) :=
  ⟨Nat.le_refl _, Nat.le_refl _, fun save hsave => Or.inl ⟨save, hsave, rfl, rfl⟩,
    fun _ hfound => Or.inl (List.mem_of_mem_erase hfound)⟩

theorem pageStep_erase (page : Page) (save : Save) (editor : Option EditorState) :
    PageStep page { page with saves := page.saves.erase save, editor := editor } :=
  ⟨Nat.le_refl _, Nat.le_refl _,
    fun found hfound => Or.inl ⟨found, List.mem_of_mem_erase hfound, rfl, rfl⟩, fun _ => Or.inl⟩

end PageSteps

section Worlds

variable {world next : World} {press : Press}

/-- What a step leaves of what a press waits for. -/
structure Leaves (world next : World) : Prop where
  page : PageStep world.page next.page
  server : next.server = world.server
  onTheWay : ∀ save ∈ next.onTheWay, save ∈ world.onTheWay ∨
    world.page.nextRef ≤ save.id ∧ save.id < next.page.nextRef
  saved : ∀ id ∈ next.saved, id ∈ world.saved
  read : next.read = world.read
  source : next.source = world.source

theorem PageStep.leaves {page : Page} (h : PageStep world.page page) (press : Option Press)
    (requests : List JobRequest) : Leaves world { world with
      page := page, press := press, requests := requests } :=
  ⟨h, rfl, fun _ => Or.inl, fun _ => id, rfl, rfl⟩

theorem Leaves.pressHolds (hleaves : Leaves world next) (h : PressHolds world press) :
    PressHolds next press := by
  have hrefs := hleaves.page.refs
  have hloads := hleaves.page.loads
  refine ⟨?_, fun htask hstage => hleaves.source ▸ h.source htask hstage⟩
  have hstage := h.stage
  cases hwaits : press.stage with
  | saving id =>
      rw [hwaits] at hstage
      obtain ⟨hid, hway, hsaves, hsaved⟩ := hstage
      refine ⟨Nat.lt_of_lt_of_le hid hrefs, ?_, ?_, ?_⟩
      · intro save hsave hsame
        rcases hleaves.onTheWay save hsave with hold | ⟨hnew, -⟩
        · exact hway save hold hsame
        · omega
      · intro save hsave hsame
        rcases hleaves.page.saves save hsave with ⟨old, hold, hold_id, hsong⟩ | ⟨hnew, -⟩
        · rw [← hsong]
          exact hsaves old hold (hold_id.trans hsame)
        · omega
      · rw [hleaves.server]
        exact fun hmem => hsaved (hleaves.saved id hmem)
  | loadingVersions request =>
      rw [hwaits] at hstage
      obtain ⟨hrequest, hfetches, hread, hshows⟩ := hstage
      refine ⟨Nat.le_trans hrequest hloads, ?_, ?_, ?_⟩
      · intro fetch hfetch hsame
        rcases hleaves.page.fetches fetch hfetch with hold | ⟨hnew, -⟩
        · exact hfetches fetch hold hsame
        · omega
      · rw [hleaves.read, hleaves.server]
        exact hread
      · rw [hleaves.server]
        exact hshows
  | starting => trivial

theorem Leaves.inv (hleaves : Leaves world next) (h : Inv world)
    (hpress : ∀ press ∈ next.press, PressHolds next press) : Inv next where
  settled := by
    rw [hleaves.server]
    exact h.settled
  onTheWay := by
    intro save hsave
    rcases hleaves.onTheWay save hsave with hold | ⟨-, hnew⟩
    · exact Nat.lt_of_lt_of_le (h.onTheWay save hold) hleaves.page.refs
    · exact hnew
  saves := by
    intro save hsave
    rcases hleaves.page.saves save hsave with ⟨old, hold, hid, -⟩ | ⟨-, hnew⟩
    · rw [← hid]
      exact Nat.lt_of_lt_of_le (h.saves old hold) hleaves.page.refs
    · exact hnew
  saved id hid := Nat.lt_of_lt_of_le (h.saved id (hleaves.saved id hid)) hleaves.page.refs
  read := by
    rw [hleaves.read]
    exact fun entry hentry => Nat.le_trans (h.read entry hentry) hleaves.page.loads
  fetches := by
    intro fetch hfetch
    rcases hleaves.page.fetches fetch hfetch with hold | ⟨-, hnew⟩
    · exact Nat.le_trans (h.fetches fetch hold) hleaves.page.loads
    · exact hnew
  press := hpress

theorem Leaves.inv_of_same (hleaves : Leaves world next) (h : Inv world)
    (hpress : next.press = world.press) : Inv next :=
  hleaves.inv h fun press hmem => hleaves.pressHolds (h.press press (hpress ▸ hmem))

theorem Inv.start (h : Inv world) (press : Press) : Inv (world.start press) := by
  have hsent : ∀ target, Inv (world.send press target) := fun target =>
    ((PageStep.refl world.page).leaves _ _).inv h fun sent hmem => by
      obtain rfl := Option.mem_some.mp hmem
      exact ⟨trivial, fun _ hstage => absurd rfl hstage⟩
  unfold World.start
  split
  · exact hsent _
  · split
    · exact ((PageStep.refl world.page).leaves none world.requests).inv h fun _ hmem =>
        absurd hmem (by simp)
    · exact hsent _

theorem goOn_cases (world : World) (waited : PressStage) (onward : Press → World) :
    (∃ press, world.press = some press ∧ press.stage = waited ∧
      world.goOn waited onward = onward press) ∨
    (∀ press, world.press = some press → press.stage ≠ waited) ∧
      world.goOn waited onward = world := by
  unfold World.goOn
  cases hpress : world.press with
  | none => exact Or.inr ⟨fun press hsome => absurd hsome (by simp), rfl⟩
  | some press =>
      by_cases hstage : press.stage = waited
      · exact Or.inl ⟨press, rfl, hstage, if_pos hstage⟩
      · refine Or.inr ⟨fun other hother => ?_, if_neg hstage⟩
        rwa [← Option.some.inj hother]

theorem Inv.ends (h : Inv world) (waited : PressStage) : Inv (world.ends waited) := by
  unfold World.ends
  rcases goOn_cases world waited fun _ => { world with press := none } with
    ⟨press, -, -, hends⟩ | ⟨-, hends⟩
  · rw [hends]
    exact ((PageStep.refl world.page).leaves none world.requests).inv h fun _ hmem =>
      absurd hmem (by simp)
  · rw [hends]
    exact h

theorem ends_requests (world : World) (waited : PressStage) :
    (world.ends waited).requests = world.requests := by
  unfold World.ends
  rcases goOn_cases world waited fun _ => { world with press := none } with
    ⟨press, -, -, hends⟩ | ⟨-, hends⟩
  · rw [hends]
  · rw [hends]

/-! ### What a press sends -/

theorem rendersShown_of_same {a : Action} (h : next.requests = world.requests) :
    RendersShown world a next where
  renders request hsent := by
    rw [h] at hsent
    exact absurd hsent (by simp)
  learnt hsent := absurd h hsent

theorem renders_start (hsource : press.task = .sourceTask →
      world.source = none ∨ world.source = press.pressed.source)
    (hversion : ∃ song ∈ world.server.songOf press.pressed.songId,
      ∃ version ∈ world.server.state.latestVersion song,
        world.page.versions.head?.map VersionItem.id = some version.id.repr ∧
          HoldsDraft version.content press.pressed.shown) :
    ∀ request, (world.start press).requests = world.requests ++ [request] →
      Renders world.server request := by
  obtain ⟨song, hsong, version, hlatest, hhead, hholds⟩ := hversion
  obtain ⟨hmem, hof⟩ := latestVersion_mem hlatest
  have hsent : ∀ target request, (world.send press target).requests =
      world.requests ++ [request] → (target = .song press.pressed.songId ∨
        ∃ take, target = .take take ∧ press.pressed.source = some take) →
      Renders world.server request := by
    intro target request heq htarget
    obtain ⟨rfl⟩ := List.singleton_inj.mp (List.append_cancel_left heq)
    exact ⟨htarget, song, hsong, version, hmem, hof, hhead, hholds⟩
  intro request heq
  unfold World.start at heq
  split at heq
  · exact hsent _ request heq (Or.inl rfl)
  next htask =>
    split at heq
    · exact absurd heq (by simp)
    next take htake =>
      refine hsent _ request heq (Or.inr ⟨take, rfl, ?_⟩)
      rcases hsource htask with hnone | hsame
      · rw [hnone] at htake
        cases htake
      · rw [← hsame]
        exact htake

/-! ### What the actions keep -/

/-- What `sendSave` adds. -/
structure Sends (world next : World) (songId : String) (e : EditorState) (save : Save) :
    Prop where
  editor : world.page.editor = some e
  id : save.id = world.page.nextRef
  song : save.songId = songId
  draft : save.draft = e.draft
  next : next = { world with
    page := { world.page with
      saves := world.page.saves ++ [save], nextRef := world.page.nextRef + 1 }
    onTheWay := world.onTheWay ++ [save] }

theorem sendSave_spec {songId : String} (hsend : world.sendSave songId = some next) :
    ∃ e save, Sends world next songId e save := by
  obtain ⟨page, hpage, rfl⟩ := Option.map_eq_some_iff.mp hsend
  unfold Page.sendSave at hpage
  split at hpage
  · cases hpage
  next e he =>
    split at hpage
    · cases hpage
    · obtain rfl := Option.some.inj hpage
      refine ⟨e, ⟨world.page.nextRef, songId, e.draft, e.provenance, e.provenance.isSome, false⟩,
        he, rfl, rfl, rfl, ?_⟩
      dsimp only
      rw [List.getLast?_concat]
      rfl

theorem Sends.leaves {songId : String} {e : EditorState} {save : Save}
    (h : Sends world next songId e save) (press : Option Press) :
    Leaves world { next with press := press } := by
  have hid := h.id
  obtain rfl := h.next
  have hnew : ∀ saves : List Save, ∀ found ∈ saves ++ [save], found ∈ saves ∨
      world.page.nextRef ≤ found.id ∧ found.id < world.page.nextRef + 1 := by
    intro saves found hfound
    rcases List.mem_append.mp hfound with hold | hlast
    · exact Or.inl hold
    · obtain rfl := List.mem_singleton.mp hlast
      exact Or.inr (by omega)
  refine ⟨⟨Nat.le_succ _, Nat.le_refl _, ?_, fun _ => Or.inl⟩, rfl, hnew _,
    fun _ hmem => hmem, rfl, rfl⟩
  intro found hfound
  rcases hnew _ found hfound with hold | hlast
  · exact Or.inl ⟨found, hold, rfl, rfl⟩
  · exact Or.inr hlast

theorem Inv.saving (h : Inv world) {songId : String} {e : EditorState} {save : Save}
    (hsends : Sends world next songId e save) (task : Task) (model : String) :
    Inv { next with press := some ⟨task, model, world.pressedNow songId,
      .saving world.page.nextRef⟩ } := by
  refine (hsends.leaves _).inv h fun press hmem => ?_
  obtain rfl := Option.mem_some.mp hmem
  have hdraft : (world.pressedNow songId).shown = e.draft.data := by
    unfold World.pressedNow
    rw [hsends.editor]
    rfl
  have hlast : ∀ saves : List Save, (∀ old ∈ saves, old.id < world.page.nextRef) →
      ∀ found ∈ saves ++ [save], found.id = world.page.nextRef → found = save := by
    intro saves hold found hfound hid
    rcases List.mem_append.mp hfound with hmem | hlast
    · exact absurd hid (Nat.ne_of_lt (hold found hmem))
    · exact List.mem_singleton.mp hlast
  obtain rfl := hsends.next
  refine ⟨⟨Nat.lt_succ_self _, ?_, ?_, ?_⟩, fun _ _ => Or.inr rfl⟩
  · intro found hfound hid
    obtain rfl := hlast _ h.onTheWay found hfound hid
    exact ⟨hsends.song, by rw [hsends.draft, hdraft]⟩
  · intro found hfound hid
    obtain rfl := hlast _ h.saves found hfound hid
    exact hsends.song
  · exact fun hmem => absurd (h.saved _ hmem) (Nat.lt_irrefl _)

theorem KnowsLatest.version {songId : String} (h : KnowsLatest world songId)
    (hclean : world.isDirty = false) :
    ∃ song ∈ world.server.songOf songId, ∃ version ∈ world.server.state.latestVersion song,
      world.page.versions.head?.map VersionItem.id = some version.id.repr ∧
        HoldsDraft version.content (world.pressedNow songId).shown := by
  obtain ⟨song, hsong, version, hversion, hhead, e, he, hholds⟩ := h
  refine ⟨song, hsong, version, hversion, hhead, ?_⟩
  have heditor : world.page.editor = some e := he
  unfold World.isDirty at hclean
  rw [heditor, Option.any_some, draftAwaitsSave, Bool.or_eq_false_iff, Bool.not_eq_false'] at hclean
  unfold World.pressedNow
  rw [heditor]
  exact hholds.congr hclean.2

theorem Inv.press_step (h : Inv world) (task : Task) (hmeet : Undisturbed world (.press task)) :
    Inv (world.startJobFromEditor task) ∧
      RendersShown world (.press task) (world.startJobFromEditor task) := by
  have hretires : PageStep world.page world.page.retireVersionLoadUndo :=
    .of_same (Nat.le_refl _) (Nat.le_refl _) rfl rfl
  have hretired := (hretires.leaves world.press world.requests).inv_of_same h rfl
  unfold World.startJobFromEditor
  split
  next songId model hselected hmodel =>
    split
    · exact ⟨h, rendersShown_of_same rfl⟩
    next hidle =>
      dsimp only
      split
      · split
        · exact ⟨hretired, rendersShown_of_same rfl⟩
        next saving hsaving =>
          obtain ⟨e, save, hsends⟩ := sendSave_spec hsaving
          refine ⟨hretired.saving hsends task model, rendersShown_of_same ?_⟩
          rw [hsends.next]
      next hclean =>
        have hclean : world.isDirty = false := by simpa using hclean
        have hnone : world.press = none := by simpa using hidle
        have hknows := hmeet hnone (by rw [hmodel]; rfl) hclean songId hselected
        exact ⟨hretired.start _, renders_start (fun _ => Or.inr rfl) (hknows.version hclean),
          fun _ => hclean⟩
  next => exact ⟨h, rendersShown_of_same rfl⟩

theorem Leaves.saveAnswered (world : World) (save : Save) (press : Option Press) :
    Leaves world { world with
      page := ({ world.page with
        saves := world.page.saves.erase save
        editor := world.page.editor.map (Page.recordSaved save) }.loadVersions save.songId false).1
      saved := world.saved.erase save.id
      press := press } :=
  ⟨(pageStep_erase _ _ _).trans (pageStep_loadVersions _ _ _), rfl, fun _ => Or.inl,
    fun _ => List.mem_of_mem_erase, rfl, rfl⟩

theorem recordSaved_shows {save : Save} {e : EditorState} (he : e ∈ world.page.editor)
    (hsong : e.songId = save.songId) :
    ((world.page.editor.map (Page.recordSaved save)).any fun s => s.songId = save.songId) =
      true := by
  have heditor : world.page.editor = some e := he
  rw [heditor, Option.map_some, Option.any_some, Page.recordSaved, if_pos hsong]
  exact decide_eq_true hsong

theorem Inv.saveAnswered (h : Inv world) {save : Save} (hsave : save ∈ world.page.saves)
    (hsaved : save.id ∈ world.saved) (hmeet : Undisturbed world (.saveAnswered save)) :
    Inv (world.saveAnswered save) ∧ (world.saveAnswered save).requests = world.requests := by
  unfold World.saveAnswered
  dsimp only
  rcases goOn_cases { world with
      page := ({ world.page with
        saves := world.page.saves.erase save
        editor := world.page.editor.map (Page.recordSaved save) }.loadVersions save.songId false).1
      saved := world.saved.erase save.id } (.saving save.id) _ with
    ⟨press, hpress, hstage, hon⟩ | ⟨-, hon⟩
  · rw [hon]
    obtain ⟨e, he, hsong⟩ := hmeet press hpress hstage
    have hholds := h.press press hpress
    have hwaits := hholds.stage
    rw [hstage] at hwaits
    obtain ⟨-, -, hown, hshows⟩ := hwaits
    have hloads : { world.page with
        saves := world.page.saves.erase save
        editor := world.page.editor.map (Page.recordSaved save) }.loadVersions save.songId false =
          ({ world.page with
            saves := world.page.saves.erase save
            editor := world.page.editor.map (Page.recordSaved save)
            versionLoad := world.page.versionLoad + 1
            fetches := world.page.fetches ++
              [⟨world.page.versionLoad + 1, save.songId, false⟩] },
            some (world.page.versionLoad + 1)) := if_pos (recordSaved_shows he hsong)
    have hleaves := Leaves.saveAnswered world save
      (some { press with stage := .loadingVersions (world.page.versionLoad + 1) })
    rw [hloads] at hleaves ⊢
    refine ⟨hleaves.inv h fun found hfound => ?_, rfl⟩
    obtain rfl := Option.mem_some.mp hfound
    refine ⟨⟨Nat.le_refl _, ?_, ?_, hshows hsaved⟩, fun htask _ => hholds.source htask ?_⟩
    · intro fetch hfetch hrequest
      rcases List.mem_append.mp hfetch with hold | hnew
      · have hle := h.fetches fetch hold
        omega
      · obtain rfl := List.mem_singleton.mp hnew
        exact hown save hsave rfl
    · intro entry hentry hrequest
      have hle := h.read entry hentry
      omega
    · rw [hstage]
      exact PressStage.noConfusion
  · rw [hon]
    exact ⟨(Leaves.saveAnswered world save world.press).inv_of_same h rfl, rfl⟩

theorem Inv.serveSave (h : Inv world) {save : Save} (hsave : save ∈ world.onTheWay)
    (hmeet : Undisturbed world (.serveSave save)) {server : Server}
    (hserved : world.server.updateSong save = some server) :
    Inv { world with
      onTheWay := world.onTheWay.erase save
      server := server
      saved := world.saved ++ [save.id] } := by
  have hserves := serves_updateSong h.settled hserved
  refine ⟨hserves.settled, fun found hfound => h.onTheWay found (List.mem_of_mem_erase hfound),
    h.saves, ?_, h.read, h.fetches, ?_⟩
  · intro id hid
    rcases List.mem_append.mp hid with hold | hnew
    · exact h.saved id hold
    · rw [List.mem_singleton.mp hnew]
      exact h.onTheWay save hsave
  · intro press hpress
    have hholds := h.press press hpress
    refine ⟨?_, hholds.source⟩
    have hstage := hholds.stage
    cases hwaits : press.stage with
    | saving id =>
        rw [hwaits] at hstage
        obtain ⟨hid, hway, hsaves, hshows⟩ := hstage
        refine ⟨hid, fun found hfound => hway found (List.mem_of_mem_erase hfound), hsaves, ?_⟩
        intro hmem
        by_cases hsame : press.pressed.songId = save.songId
        · by_cases hown : id = save.id
          · obtain ⟨-, hdraft⟩ := hway save hsave hown.symm
            rw [hsame, ← hdraft]
            exact hserves.shows
          · rcases List.mem_append.mp hmem with hold | hnew
            · have hmay := hmeet (by rw [hserved]; rfl) press hpress hsame
              rw [hwaits] at hmay
              rcases hmay with hmine | hnot
              · exact absurd hmine hown
              · exact absurd hold hnot
            · exact absurd (List.mem_singleton.mp hnew) hown
        · rcases List.mem_append.mp hmem with hold | hnew
          · exact (hserves.other _ hsame).2 _ (hshows hold)
          · exact absurd (hway save hsave (List.mem_singleton.mp hnew).symm).1.symm hsame
    | loadingVersions request =>
        rw [hwaits] at hstage
        obtain ⟨hrequest, hfetches, hread, hshows⟩ := hstage
        have hother : press.pressed.songId ≠ save.songId := by
          intro hsame
          have hmay := hmeet (by rw [hserved]; rfl) press hpress hsame
          rw [hwaits] at hmay
          exact hmay
        obtain ⟨hlatest, hkeeps⟩ := hserves.other _ hother
        refine ⟨hrequest, hfetches, ?_, hkeeps _ hshows⟩
        rw [hlatest]
        exact hread
    | starting => trivial

theorem head_fetchVersions {server : Server} {songId : String} {loaded : List VersionItem}
    (hloaded : server.fetchVersions songId = some loaded) :
    loaded.head? = latest server songId := by
  obtain ⟨song, hsong, rfl⟩ := Option.map_eq_some_iff.mp hloaded
  rw [latest, hsong, Option.bind_some]
  exact head_versionsResponse

theorem Inv.serveVersions (h : Inv world) {fetch : VersionsFetch}
    (hfetch : fetch ∈ world.page.fetches) {loaded : List VersionItem}
    (hloaded : world.server.fetchVersions fetch.songId = some loaded) :
    Inv { world with read := world.read ++ [(fetch.request, loaded)] } := by
  have hlatest := head_fetchVersions hloaded
  refine ⟨h.settled, h.onTheWay, h.saves, h.saved, ?_, h.fetches, ?_⟩
  · intro entry hentry
    rcases List.mem_append.mp hentry with hold | hnew
    · exact h.read entry hold
    · rw [List.mem_singleton.mp hnew]
      exact h.fetches fetch hfetch
  · intro press hpress
    have hholds := h.press press hpress
    refine ⟨?_, hholds.source⟩
    have hstage := hholds.stage
    cases hwaits : press.stage with
    | saving id =>
        rw [hwaits] at hstage
        exact hstage
    | loadingVersions request =>
        rw [hwaits] at hstage
        obtain ⟨hrequest, hfetches, hread, hshows⟩ := hstage
        refine ⟨hrequest, hfetches, ?_, hshows⟩
        intro entry hentry hsame
        rcases List.mem_append.mp hentry with hold | hnew
        · exact hread entry hold hsame
        · rw [List.mem_singleton.mp hnew] at hsame ⊢
          rw [← hfetches fetch hfetch hsame]
          exact hlatest
    | starting => trivial

theorem Inv.serverWorks (h : Inv world) (takes : List Take) (jobs : List Job) :
    Inv { world with server := { world.server with
      state := { world.server.state with takes := takes, jobs := jobs } } } := by
  refine ⟨⟨h.settled.idle, h.settled.ids, h.settled.fresh⟩, h.onTheWay, h.saves, h.saved, h.read,
    h.fetches, fun press hpress => ?_⟩
  have hholds := h.press press hpress
  refine ⟨?_, hholds.source⟩
  have hstage := hholds.stage
  cases hwaits : press.stage with
  | saving id =>
      rw [hwaits] at hstage
      exact hstage
  | loadingVersions request =>
      rw [hwaits] at hstage
      exact hstage
  | starting => trivial

theorem mem_of_lookup {entries : List (Nat × List VersionItem)} {request : Nat}
    {loaded : List VersionItem} (h : entries.lookup request = some loaded) :
    (request, loaded) ∈ entries := by
  obtain ⟨before, after, rfl, -⟩ := List.lookup_eq_some_iff.mp h
  simp

theorem Inv.versionsAnswered (h : Inv world) {fetch : VersionsFetch} {loaded : List VersionItem}
    (hread : world.read.lookup fetch.request = some loaded)
    (hmeet : Undisturbed world (.versionsAnswered fetch)) :
    Inv (world.versionsAnswered fetch loaded) ∧
      RendersShown world (.versionsAnswered fetch) (world.versionsAnswered fetch loaded) := by
  have hanswered := ((pageStep_versionsAnswered world.page fetch loaded).leaves world.press
    world.requests).inv_of_same h rfl
  unfold World.versionsAnswered
  dsimp only
  rcases goOn_cases { world with page := world.page.versionsAnswered fetch loaded }
      (.loadingVersions fetch.request)
      (World.start { world with page := world.page.versionsAnswered fetch loaded }) with
    ⟨press, hpress, hstage, hon⟩ | ⟨-, hon⟩
  · rw [hon]
    have hcurrent := hmeet press hpress hstage
    have hholds := h.press press hpress
    have hwaits := hholds.stage
    rw [hstage] at hwaits
    obtain ⟨-, -, hentries, song, hsong, version, hversion, hcontent⟩ := hwaits
    have hhead := hentries _ (mem_of_lookup hread) rfl
    have hshown : (world.page.versionsAnswered fetch loaded).versions = loaded := by
      unfold Page.versionsAnswered
      dsimp only
      rw [if_pos hcurrent]
    refine ⟨hanswered.start press, renders_start ?_ ⟨song, hsong, version, hversion, ?_, hcontent⟩,
      fun _ => ⟨⟨press, hpress, hstage⟩, hcurrent⟩⟩
    · refine fun htask => hholds.source htask ?_
      rw [hstage]
      exact PressStage.noConfusion
    · have hsome : world.server.songOf press.pressed.songId = some song := hsong
      have hlatest : world.server.state.latestVersion song = some version := hversion
      rw [latest, hsome, Option.bind_some, hlatest] at hhead
      change (world.page.versionsAnswered fetch loaded).versions.head?.map VersionItem.id = _
      rw [hshown, hhead]
      rfl
  · rw [hon]
    exact ⟨hanswered, rendersShown_of_same rfl⟩

/-- One step keeps the invariant and renders what was shown, where it leaves the press that
is under way undisturbed. -/
theorem Inv.act {a : Action} (h : Inv world) (hact : act world a = some next)
    (hmeet : Undisturbed world a) : Inv next ∧ RendersShown world a next := by
  cases a with
  | page a =>
      obtain ⟨hof, hmap⟩ := Option.ite_none_right_eq_some.mp hact
      obtain ⟨page, hpage, rfl⟩ := Option.map_eq_some_iff.mp hmap
      exact ⟨((pageStep_act hof hpage).leaves world.press world.requests).inv_of_same h rfl,
        rendersShown_of_same rfl⟩
  | setRecipe recipe =>
      obtain rfl := Option.some.inj hact
      have hleaves : Leaves world { world with recipe := recipe } :=
        ⟨.refl world.page, rfl, fun _ => Or.inl, fun _ hmem => hmem, rfl, rfl⟩
      exact ⟨hleaves.inv_of_same h rfl, rendersShown_of_same rfl⟩
  | setSource source =>
      obtain rfl := Option.some.inj hact
      refine ⟨⟨h.settled, h.onTheWay, h.saves, h.saved, h.read, h.fetches, ?_⟩,
        rendersShown_of_same rfl⟩
      intro press hpress
      have hstage := (h.press press hpress).stage
      refine ⟨?_, hmeet press hpress⟩
      cases hwaits : press.stage with
      | saving id =>
          rw [hwaits] at hstage
          exact hstage
      | loadingVersions request =>
          rw [hwaits] at hstage
          exact hstage
      | starting => trivial
  | press task =>
      obtain rfl := Option.some.inj hact
      exact h.press_step task hmeet
  | save songId =>
      obtain ⟨e, save, hsends⟩ := sendSave_spec hact
      have hnext := hsends.next
      have hleaves := hsends.leaves next.press
      refine ⟨hleaves.inv_of_same h ?_, rendersShown_of_same ?_⟩
      · rw [hnext]
      · rw [hnext]
  | serveSave save =>
      obtain ⟨hsave, rfl⟩ := Option.ite_some_none_eq_some.mp hact
      cases hserved : world.server.updateSong save with
      | none =>
          have hleaves : Leaves world { world with onTheWay := world.onTheWay.erase save } :=
            ⟨.refl world.page, rfl, fun _ hmem => Or.inl (List.mem_of_mem_erase hmem),
              fun _ hmem => hmem, rfl, rfl⟩
          exact ⟨hleaves.inv_of_same h rfl, rendersShown_of_same rfl⟩
      | some server => exact ⟨h.serveSave hsave hmeet hserved, rendersShown_of_same rfl⟩
  | saveAnswered save =>
      obtain ⟨⟨hsave, hsaved⟩, rfl⟩ := Option.ite_some_none_eq_some.mp hact
      obtain ⟨hinv, hsame⟩ := h.saveAnswered hsave hsaved hmeet
      exact ⟨hinv, rendersShown_of_same hsame⟩
  | saveFails save =>
      obtain ⟨-, rfl⟩ := Option.ite_some_none_eq_some.mp hact
      have hleft := ((pageStep_erase world.page save world.page.editor).leaves world.press
        world.requests).inv_of_same h rfl
      exact ⟨hleft.ends _, rendersShown_of_same (ends_requests _ _)⟩
  | serveVersions fetch =>
      obtain ⟨⟨hfetch, -⟩, hmap⟩ := Option.ite_none_right_eq_some.mp hact
      obtain ⟨loaded, hloaded, rfl⟩ := Option.map_eq_some_iff.mp hmap
      exact ⟨h.serveVersions hfetch hloaded, rendersShown_of_same rfl⟩
  | versionsAnswered fetch =>
      obtain ⟨-, hmap⟩ := Option.ite_none_right_eq_some.mp hact
      obtain ⟨loaded, hloaded, rfl⟩ := Option.map_eq_some_iff.mp hmap
      exact h.versionsAnswered hloaded hmeet
  | versionsFail fetch =>
      obtain ⟨-, rfl⟩ := Option.ite_some_none_eq_some.mp hact
      have hleft := ((pageStep_versionsFailed world.page fetch).leaves world.press
        world.requests).inv_of_same h rfl
      exact ⟨hleft.ends _, rendersShown_of_same (ends_requests _ _)⟩
  | jobAnswered =>
      obtain rfl := Option.some.inj hact
      exact ⟨h.ends _, rendersShown_of_same (ends_requests _ _)⟩
  | serverWorks takes jobs =>
      obtain rfl := Option.some.inj hact
      exact ⟨h.serverWorks takes jobs, rendersShown_of_same rfl⟩

end Worlds

theorem inv_newWorld {server : Server} (h : Settled server.state) (recipe : Recipe) :
    Inv (newWorld server recipe) where
  settled := h
  onTheWay _ hsave := absurd hsave List.not_mem_nil
  saves _ hsave := absurd hsave List.not_mem_nil
  saved _ hid := absurd hid List.not_mem_nil
  read _ hentry := absurd hentry List.not_mem_nil
  fetches _ hfetch := absurd hfetch List.not_mem_nil
  press _ hpress := absurd hpress (by simp [newWorld])

/-- In a run whose steps leave the presses undisturbed, each job that is asked for renders
what the editor showed at its press. -/
theorem renders_as_shown {server : Server} {recipe : Recipe} (hserver : Settled server.state)
    {earlier later : List (Action × World)} {a : Action} {next : World}
    (hrun : generatePress.IsRun (newWorld server recipe) (earlier ++ (a, next) :: later))
    (hmeet : StepsMeet Undisturbed (newWorld server recipe) earlier)
    (hlast : Undisturbed (lastOf (newWorld server recipe) earlier) a) :
    RendersShown (lastOf (newWorld server recipe) earlier) a next := by
  obtain ⟨hstep, -⟩ := isRun_middle hrun
  have hkeeps : ∀ world a next, Inv world → generatePress.step world a next →
      Undisturbed world a → Inv next := fun _ _ _ h hact hundisturbed =>
    (h.act hact hundisturbed).1
  have hkept := forall_visited_of_stepsMeet hkeeps (inv_newWorld hserver recipe)
    (isRun_first hrun) hmeet
  exact ((hkept _ (lastOf_mem_visited _ _)).act hstep hlast).2

/-- A song whose only version has a take, so that a save of other lyrics makes the next one. -/
def exampleServer : Server where
  state := {
    songs := [0]
    versions := [⟨0, 0, 1, ⟨"first".toList, [], 0, 0, [], none, none⟩⟩]
    takes := [⟨0, some 0⟩]
    jobs := []
    nextVersion := 1
    nextJob := 0
    songLock := fun _ => none
    jobLock := fun _ => none
    stage := fun _ => .idle }
  recordings := []
  filename := fun _ => ""

theorem settled_exampleServer : Settled exampleServer.state :=
  ⟨fun _ => rfl, List.nodup_singleton 0, fun version hversion => by
    rw [List.mem_singleton.mp hversion]
    exact Nat.zero_lt_one⟩

def exampleSong (lyrics : String) : SongItem :=
  ⟨"0", lyrics, "", some 0, some 0, some "", none, none⟩

/-- The song is opened, its lyrics are changed and Generate is pressed; the save is taken
and answered. -/
def savesPressed : List Action :=
  [.page (.selectSong (some "0")), .page (.loadSong (exampleSong "first")),
    .serveVersions ⟨3, "0", true⟩, .versionsAnswered ⟨3, "0", true⟩,
    .page (.edit (.lyrics "second")), .press .generate,
    .serveSave ⟨3, "0", ⟨2, ⟨"second", "", 0, 0, "", none, none⟩⟩, none, false, false⟩,
    .saveAnswered ⟨3, "0", ⟨2, ⟨"second", "", 0, 0, "", none, none⟩⟩, none, false, false⟩]

def startWorld : World :=
  newWorld exampleServer ⟨some "turbo", none, 1⟩

def followed (actions : List Action) : World :=
  lastOf startWorld (follow act startWorld actions)

theorem renders_as_shown_saved : ∃ next,
    act (followed (savesPressed ++ [.serveVersions ⟨4, "0", false⟩]))
      (.versionsAnswered ⟨4, "0", false⟩) = some next ∧ next.requests.length = 1 ∧
    RendersShown (followed (savesPressed ++ [.serveVersions ⟨4, "0", false⟩]))
      (.versionsAnswered ⟨4, "0", false⟩) next := by
  have hsent : (act (followed (savesPressed ++ [.serveVersions ⟨4, "0", false⟩]))
      (.versionsAnswered ⟨4, "0", false⟩)).map (fun next => next.requests.length) = some 1 := by
    decide +kernel
  obtain ⟨next, hnext, hone⟩ := Option.map_eq_some_iff.mp hsent
  have hrun : generatePress.IsRun startWorld
      (follow act startWorld (savesPressed ++ [.serveVersions ⟨4, "0", false⟩]) ++
        [(.versionsAnswered ⟨4, "0", false⟩, next)]) :=
    isRun_concat (isRun_follow _ act startWorld _) hnext
  exact ⟨next, hnext, hone,
    renders_as_shown settled_exampleServer hrun (by decide +kernel) (by decide +kernel)⟩

/-- The song is loaded again while the press reads its versions. -/
def reloadsSong : List Action :=
  savesPressed ++ [.page (.loadSong (exampleSong "second")), .serveVersions ⟨4, "0", false⟩]

def staleRequest : JobRequest :=
  ⟨.song "0", "turbo", some "0", none, 1, ⟨"0", ⟨"second", "", 0, 0, "", none, none⟩, none⟩⟩

/-- The overtaken read ends without an error, and the job renders the older version. -/
theorem overtaken_read_renders_old_version : ∃ run next,
    generatePress.IsRun startWorld (run ++ [(.versionsAnswered ⟨4, "0", false⟩, next)]) ∧
      ∃ request, next.requests = (lastOf startWorld run).requests ++ [request] ∧
        ¬Renders (lastOf startWorld run).server request := by
  have hsent : (act (followed reloadsSong) (.versionsAnswered ⟨4, "0", false⟩)).map
      (fun next => next.requests) = some [staleRequest] := by
    decide +kernel
  obtain ⟨next, hnext, hrequests⟩ := Option.map_eq_some_iff.mp hsent
  have hnone : (followed reloadsSong).requests = [] := by decide +kernel
  refine ⟨follow act startWorld reloadsSong, next,
    isRun_concat (isRun_follow _ act startWorld _) hnext, staleRequest, ?_, ?_⟩
  · rw [hrequests]
    exact (congrArg (· ++ [staleRequest]) hnone).symm
  · rintro ⟨-, song, -, version, hversion, -, hid, hholds⟩
    have hold : ∀ version ∈ (followed reloadsSong).server.state.versions,
        some "0" = some version.id.repr → version.content.lyrics ≠ "second".toList := by
      decide +kernel
    exact hold version hversion hid hholds.lyrics

end Songmaker.Editor.RenderedAsShown
