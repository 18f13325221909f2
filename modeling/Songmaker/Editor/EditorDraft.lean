import Mathlib.Algebra.Order.Field.Rat
import Songmaker.Foundation.TransitionSystem

/-!
The song editor: the saved values, the draft and where the draft was loaded from,
with the requests that complete later. An object is told apart by its `ref`, and a
request, a load or a token by its number.
-/

namespace Songmaker.Editor.EditorDraft

open Songmaker.Foundation

/-- A value of a generation parameter, as JSON has it. -/
inductive ParamValue where
  | null
  | flag (value : Bool)
  | number (value : ℚ)
  | text (value : String)
deriving DecidableEq

abbrev VersionGenerationParams := List (String × ParamValue)

structure ReferenceResponse where
  id : String
  filename : String
deriving DecidableEq

/-- The content of a song that the editor edits. -/
structure SongData where
  lyrics : String
  prompt : String
  bpm : ℚ
  audioDuration : ℚ
  keyScale : String
  genParams : Option VersionGenerationParams
  reference : Option ReferenceResponse
deriving DecidableEq

/-- A song as the API answers it. -/
structure SongItem where
  id : String
  lyrics : String
  prompt : String
  bpm : Option ℚ
  audioDuration : Option ℚ
  keyScale : Option String
  generationParams : Option VersionGenerationParams
  reference : Option ReferenceResponse
deriving DecidableEq

/-- A version as the API answers it. -/
structure VersionItem where
  id : String
  versionNumber : Nat
  lyrics : String
  prompt : String
  bpm : ℚ
  audioDuration : ℚ
  keyScale : String
  generationParams : Option VersionGenerationParams
  reference : Option ReferenceResponse
deriving DecidableEq

/-- The content that the editor is given when a song is loaded. -/
def songDataFromSong (s : SongItem) : SongData where
  lyrics := s.lyrics
  prompt := s.prompt
  bpm := s.bpm.getD 0
  audioDuration := s.audioDuration.getD 0
  keyScale := s.keyScale.getD ""
  genParams := s.generationParams
  reference := s.reference

/-- The content that the editor is given when a version is loaded. -/
def songDataFromVersion (v : VersionItem) : SongData where
  lyrics := v.lyrics
  prompt := v.prompt
  bpm := v.bpm
  audioDuration := v.audioDuration
  keyScale := v.keyScale
  genParams := v.generationParams
  reference := v.reference

/-- A `SongData` object. -/
structure Held where
  ref : Nat
  data : SongData
deriving DecidableEq

/-- The version that a draft was loaded from, and the load that put it there. -/
structure Provenance where
  version : Nat
  token : Nat
deriving DecidableEq

/-- The song that is edited, with what is saved of it and what stands in the editor. -/
structure EditorState where
  songId : String
  saved : Held
  draft : Held
  provenance : Option Provenance
deriving DecidableEq

/-- Whether two sets of parameters are the same, no set being the empty one. -/
def genParamsEqual (a b : Option VersionGenerationParams) : Bool :=
  let objA := a.getD []
  let objB := b.getD []
  (objA.map Prod.fst ++ objB.map Prod.fst).all fun k => objA.lookup k = objB.lookup k

def creativeContentEqual (a b : SongData) : Bool :=
  a.lyrics = b.lyrics && a.prompt = b.prompt && a.bpm = b.bpm &&
    a.audioDuration = b.audioDuration && a.keyScale = b.keyScale

/-- Whether the editor takes two contents for equal. -/
def songDataEqual (a b : SongData) : Bool :=
  creativeContentEqual a b && genParamsEqual a.genParams b.genParams &&
    a.reference.map ReferenceResponse.id = b.reference.map ReferenceResponse.id

/-- Whether nothing in the editor awaits a save. -/
def draftIsSaved (s : EditorState) : Bool :=
  songDataEqual s.draft.data s.saved.data

/-- `isDirty`, of a song's editor. -/
def draftAwaitsSave (s : EditorState) : Bool :=
  s.provenance.isSome || !draftIsSaved s

/-- What a version load left in the editor: the selected song, the saved values and the draft. -/
structure LoadLeft where
  songId : Option String
  saved : Nat
  draft : Nat
deriving DecidableEq

/-- Whether the editor is still as the load has left it. -/
def LoadLeft.stands (left : LoadLeft) (currentSongId : Option String)
    (s : Option EditorState) : Bool :=
  currentSongId = left.songId &&
    s.any fun s => s.saved.ref = left.saved && s.draft.ref = left.draft

/-- A load of a version that may still be undone. -/
structure OfferedVersionLoad where
  load : Nat
  setAside : Bool
  left : LoadLeft
deriving DecidableEq

/-- The undo of a version load, with the draft that it puts back. -/
structure VersionLoadUndo where
  load : Nat
  left : LoadLeft
  replaced : Held
  replacedProvenance : Option Provenance
deriving DecidableEq

/-- A `loadVersions` that awaits its answer. -/
structure VersionsFetch where
  request : Nat
  songId : String
  recover : Bool
deriving DecidableEq

/-- A `handleSave` that awaits its answer. No method reads `edited`: the user has
changed the draft of its song since it was sent. -/
structure Save where
  id : Nat
  songId : String
  draft : Held
  provenance : Option Provenance
  newVersion : Bool
  edited : Bool
deriving DecidableEq

/-- How far the deletion of a version has come. -/
inductive DeletionStage where
  | deleting
  | fetchingSong
  /-- `none` where there is nothing to wait for. -/
  | loadingVersions (updated : SongItem) (request : Option Nat)
deriving DecidableEq

/-- A `handleDeleteVersion` under way. -/
structure Deletion where
  id : Nat
  songId : String
  versionId : String
  stage : DeletionStage
deriving DecidableEq

/-- `nextRef` numbers the next object, token, load or request of the page. -/
structure Page where
  selectedSongId : Option String
  editor : Option EditorState
  versions : List VersionItem
  versionLoad : Nat
  offered : Option OfferedVersionLoad
  undos : List VersionLoadUndo
  fetches : List VersionsFetch
  saves : List Save
  deletions : List Deletion
  nextRef : Nat
deriving DecidableEq

/-- A change of one field of the draft. -/
inductive DraftChange where
  | lyrics (value : String)
  | prompt (value : String)
  | bpm (value : ℚ)
  | audioDuration (value : ℚ)
  | keyScale (value : String)
  | genParams (value : Option VersionGenerationParams)
  | reference (value : Option ReferenceResponse)
deriving DecidableEq

def DraftChange.apply (data : SongData) : DraftChange → SongData
  | .lyrics value => { data with lyrics := value }
  | .prompt value => { data with prompt := value }
  | .bpm value => { data with bpm := value }
  | .audioDuration value => { data with audioDuration := value }
  | .keyScale value => { data with keyScale := value }
  | .genParams value => { data with genParams := value }
  | .reference value => { data with reference := value }

namespace Page

variable (page : Page)

/-- The user changed the draft of the song that the editor shows. -/
def markEdited : Page :=
  { page with saves := page.saves.map fun save =>
      if page.editor.any fun s => s.songId = save.songId then { save with edited := true }
      else save }

/-- `none` where there is no song to edit: it throws. -/
def updateDraft (change : DraftChange) : Option Page :=
  page.editor.map fun s =>
    { page.markEdited with
      editor := some { s with draft := ⟨page.nextRef, change.apply s.draft.data⟩ }
      nextRef := page.nextRef + 1 }

/-- Whether `loadSongData` leaves the draft as it is. -/
def keepsDraft (songId : String) : Bool :=
  page.editor.any fun current => current.songId = songId && !draftIsSaved current

/-- `loadVersions`, up to its await, and the number of its request. -/
def loadVersions (songId : String) (recover : Bool) : Page × Option Nat :=
  if page.editor.any fun s => s.songId = songId then
    ({ page with
        versionLoad := page.versionLoad + 1
        fetches := page.fetches ++ [⟨page.versionLoad + 1, songId, recover⟩] },
      some (page.versionLoad + 1))
  else (page, none)

/-- The song's content becomes what is saved, and the draft unless there are unsaved
changes of the same song. -/
def loadSongData (song : SongItem) : Page :=
  let data : Held := ⟨page.nextRef, songDataFromSong song⟩
  let state : EditorState :=
    match page.editor with
    | some current =>
        if current.songId = song.id && !draftIsSaved current then { current with saved := data }
        else ⟨song.id, data, ⟨page.nextRef + 1, data.data⟩, none⟩
    | none => ⟨song.id, data, ⟨page.nextRef + 1, data.data⟩, none⟩
  ({ page with editor := some state, nextRef := page.nextRef + 2 }.loadVersions song.id true).1

def discardDraft : Page :=
  match page.editor with
  | none => page
  | some s =>
      { page.markEdited with
        editor := some { s with draft := ⟨page.nextRef, s.saved.data⟩, provenance := none }
        nextRef := page.nextRef + 1 }

/-- The stores notify their followers of a change only. -/
def selectSong (songId : Option String) : Page :=
  if songId = page.selectedSongId then page
  else { page with selectedSongId := songId, versionLoad := page.versionLoad + 1 }

/-- An answer that a later load or another song has not overtaken. -/
def isCurrent (fetch : VersionsFetch) : Bool :=
  fetch.request = page.versionLoad && page.editor.any fun s => s.songId = fetch.songId

/-- The versions are shown unless the read was overtaken. -/
def versionsAnswered (fetch : VersionsFetch) (loaded : List VersionItem) : Page :=
  let answered := { page with fetches := page.fetches.erase fetch }
  if page.isCurrent fetch then { answered with versions := loaded } else answered

/-- A load that does not recover throws, and ends the deletion that awaits it. -/
def versionsFailed (fetch : VersionsFetch) : Page :=
  { page with
    fetches := page.fetches.erase fetch
    deletions :=
      if fetch.recover then page.deletions
      else page.deletions.filter fun deletion =>
        match deletion.stage with
        | .loadingVersions _ request => request ≠ some fetch.request
        | _ => true }

def offerSetAsideVersionLoadUndoAgain : Page :=
  { page with
    offered := page.offered.bind fun offered =>
      if !offered.setAside then some offered
      else if offered.left.stands page.selectedSongId page.editor then
        some { offered with setAside := false }
      else none }

def setAsideVersionLoadUndo : Page :=
  { page with offered := page.offered.map fun offered => { offered with setAside := true } }

def retireVersionLoadUndo : Page :=
  { page with offered := none }

/-- The version's content becomes the draft, and the draft before it can be had back. -/
def loadVersionAsDraft (version : VersionItem) : Page :=
  match page.editor with
  | none => page
  | some state =>
      let isLatest := (page.versions.head?.map VersionItem.id) = some version.id
      let data := if isLatest then state.saved.data else songDataFromVersion version
      let loadedFrom := if isLatest then none else some version.versionNumber
      if songDataEqual data state.draft.data ∧
          loadedFrom = state.provenance.map Provenance.version then
        page.offerSetAsideVersionLoadUndoAgain
      else
        let left : LoadLeft := ⟨page.selectedSongId, state.saved.ref, page.nextRef⟩
        { page.markEdited with
          editor := some { state with
            draft := ⟨page.nextRef, data⟩
            provenance := loadedFrom.map fun from' => ⟨from', page.nextRef + 1⟩ }
          offered := some ⟨page.nextRef + 2, false, left⟩
          undos := ⟨page.nextRef + 2, left, state.draft, state.provenance⟩ :: page.undos
          nextRef := page.nextRef + 3 }

/-- The undo holds and is not set aside. -/
def undoHolds (undo : VersionLoadUndo) : Bool :=
  (page.offered.any fun offered => offered.load = undo.load && !offered.setAside) &&
    undo.left.stands page.selectedSongId page.editor

/-- The draft before the load is back, if nothing has changed since. -/
def undoVersionLoad (undo : VersionLoadUndo) : Page :=
  if page.undoHolds undo then
    { page.markEdited with
      offered := none
      editor := page.editor.map fun s =>
        { s with draft := undo.replaced, provenance := undo.replacedProvenance } }
  else page

def expireVersionLoadUndo (undo : VersionLoadUndo) : Page :=
  { page with offered := page.offered.bind fun offered =>
      if offered.load = undo.load then none else some offered }

/-- `handleSave`, up to the request; `none` where it throws. -/
def sendSave (songId : String) : Option Page :=
  match page.editor with
  | none => none
  | some state =>
      if state.songId ≠ songId then none
      else some { page with
        saves := page.saves ++
          [⟨page.nextRef, songId, state.draft, state.provenance, state.provenance.isSome, false⟩]
        nextRef := page.nextRef + 1 }

/-- What `handleSave` makes of the editor when its request is answered. -/
def recordSaved (save : Save) (s : EditorState) : EditorState :=
  if s.songId = save.songId then
    { s with
      saved := save.draft
      provenance :=
        if s.provenance.map Provenance.token = save.provenance.map Provenance.token then none
        else s.provenance }
  else s

/-- What was sent is what is saved, if the song is still open. -/
def saveAnswered (save : Save) : Page :=
  ({ page with
      saves := page.saves.erase save
      editor := page.editor.map (recordSaved save) }.loadVersions save.songId false).1

def setDeletion (deletion : Deletion) (stage : DeletionStage) : Page :=
  { page with deletions := page.deletions.map fun other =>
      if other = deletion then { deletion with stage := stage } else other }

def dropDeletion (deletion : Deletion) : Page :=
  { page with deletions := page.deletions.erase deletion }

/-- The song is read again after the deletion, and with it the versions. -/
def deletionSongFetched (deletion : Deletion) (updated : SongItem) : Page :=
  if page.selectedSongId ≠ some deletion.songId then page.dropDeletion deletion
  else
    let (loading, request) := page.loadVersions deletion.songId false
    loading.setDeletion deletion (.loadingVersions updated request)

def replaceDraft (songId : String) (data : SongData) : Page :=
  { page with
    editor := some ⟨songId, ⟨page.nextRef, data⟩, ⟨page.nextRef + 1, data⟩, none⟩
    nextRef := page.nextRef + 2 }

/-- What the end of a deletion puts into the editor, where its song is still selected. -/
def deletionData (deletion : Deletion) (updated : SongItem) : Option SongData :=
  if page.selectedSongId ≠ some deletion.songId then none
  else some ((page.versions.head?.map songDataFromVersion).getD (songDataFromSong updated))

/-- The editor begins anew with what the deletion has brought, where it is to be shown. -/
def deletionEnds (deletion : Deletion) (updated : SongItem) : Page :=
  match page.deletionData deletion updated with
  | none => page.dropDeletion deletion
  | some data =>
      ((page.dropDeletion deletion).retireVersionLoadUndo).replaceDraft deletion.songId data

end Page

/-- What the musician does and what the server answers. -/
inductive Action where
  | edit (change : DraftChange)
  | loadSong (song : SongItem)
  | discard
  | loadVersion (version : VersionItem)
  | undo (undo : VersionLoadUndo)
  | expire (undo : VersionLoadUndo)
  | setAside
  | offerAgain
  | retire
  | selectSong (songId : Option String)
  | sendSave (songId : String)
  | saveAnswered (save : Save)
  | saveFails (save : Save)
  /-- `versionReloads`, while the server was out of reach. -/
  | reloadVersions
  | versionsAnswered (fetch : VersionsFetch) (loaded : List VersionItem)
  | versionsFail (fetch : VersionsFetch)
  | deleteVersion (songId versionId : String)
  | deletionAnswered (deletion : Deletion)
  | deletionFails (deletion : Deletion)
  | deletionSongFetched (deletion : Deletion) (updated : SongItem)
  | deletionEnds (deletion : Deletion)
deriving DecidableEq

open Page

/-- What a step does; `none` where it cannot be taken. -/
def act (page : Page) : Action → Option Page
  | .edit change => page.updateDraft change
  | .loadSong song => some (page.loadSongData song)
  | .discard => some page.discardDraft
  | .loadVersion version => some (page.loadVersionAsDraft version)
  | .undo undo => if undo ∈ page.undos then some (page.undoVersionLoad undo) else none
  | .expire undo => if undo ∈ page.undos then some (page.expireVersionLoadUndo undo) else none
  | .setAside => some page.setAsideVersionLoadUndo
  | .offerAgain => some page.offerSetAsideVersionLoadUndoAgain
  | .retire => some page.retireVersionLoadUndo
  | .selectSong songId => some (page.selectSong songId)
  | .sendSave songId => page.sendSave songId
  | .saveAnswered save => if save ∈ page.saves then some (page.saveAnswered save) else none
  | .saveFails save =>
      if save ∈ page.saves then some { page with saves := page.saves.erase save } else none
  | .reloadVersions =>
      some ((page.editor.map fun s => (page.loadVersions s.songId true).1).getD page)
  | .versionsAnswered fetch loaded =>
      if fetch ∈ page.fetches then some (page.versionsAnswered fetch loaded) else none
  | .versionsFail fetch =>
      if fetch ∈ page.fetches then some (page.versionsFailed fetch) else none
  | .deleteVersion songId versionId => some { page with
      deletions := page.deletions ++ [⟨page.nextRef, songId, versionId, .deleting⟩]
      nextRef := page.nextRef + 1 }
  | .deletionAnswered deletion =>
      if deletion ∈ page.deletions ∧ deletion.stage = .deleting then
        some (page.setDeletion deletion .fetchingSong)
      else none
  | .deletionFails deletion =>
      if deletion ∈ page.deletions ∧
          (deletion.stage = .deleting ∨ deletion.stage = .fetchingSong) then
        some (page.dropDeletion deletion)
      else none
  | .deletionSongFetched deletion updated =>
      if deletion ∈ page.deletions ∧ deletion.stage = .fetchingSong then
        some (page.deletionSongFetched deletion updated)
      else none
  | .deletionEnds deletion =>
      match deletion.stage with
      | .loadingVersions updated request =>
          if deletion ∈ page.deletions ∧
              ∀ fetch ∈ page.fetches, some fetch.request ≠ request then
            some (page.deletionEnds deletion updated)
          else none
      | _ => none

def newPage : Page where
  selectedSongId := none
  editor := none
  versions := []
  versionLoad := 1
  offered := none
  undos := []
  fetches := []
  saves := []
  deletions := []
  nextRef := 0

/-- Every order of the user's actions, the loads and the answers to the requests. -/
def editorPage : TransitionSystem Page Action :=
  .ofAct (fun page => page = newPage) act

end Songmaker.Editor.EditorDraft
