import Songmaker.Editor.PredictedVersion

/-!
A press of Generate, Repaint or Cover: it saves a draft that awaits a save, reads the
versions anew, and names the version that then leads the list in the request for a job.
The page, the server and the requests between them take their steps in any order.
-/

namespace Songmaker.Editor.GeneratePress

open Songmaker.Foundation
open Songmaker.Songs.SongSaves (SongId Version VersionContent State Take Job)
open Songmaker.Songs.VersionImmutability (Settled committed)
open Songmaker.Songs.VersionNumbers (savingStage)
open Songmaker.Editor.EditorDraft
open Songmaker.Editor.PredictedVersion

/-! ### The server -/

/-- `recordings` are the reference recordings of the user, with their file names. -/
structure Server where
  state : State Knob
  recordings : List Nat
  filename : Nat → String

namespace Server

variable (server : Server)

def songOf (songId : String) : Option SongId :=
  server.state.songs.find? fun song => song.repr = songId

/-- The request to update a song, served with nothing in between; `none` where it is refused. -/
def updateSong (save : Save) : Option Server :=
  match server.songOf save.songId,
      (saveRequest ⟨save.songId, save.draft, save.draft, save.provenance⟩).received
        server.recordings with
  | some song, some request =>
      some { server with
        state := committed server.state (savingStage server.state song request) }
  | _, _ => none

/-- What the server answers when the versions of a song are read. -/
def fetchVersions (songId : String) : Option (List VersionItem) :=
  (server.songOf songId).map (versionsResponse server.filename server.state)

end Server

/-! ### The page -/

def emptySongData : SongData := ⟨"", "", 0, 0, "", none, none⟩

/-- The two ways to ask for a job: for the song, or for the source take that is open. -/
inductive Task where
  | generate
  | sourceTask
deriving DecidableEq

/-- What was open when the musician pressed; no method reads it but for its song. -/
structure Pressed where
  songId : String
  shown : SongData
  source : Option String
deriving DecidableEq

/-- What a press of Generate waits for. -/
inductive PressStage where
  | saving (save : Nat)
  | loadingVersions (request : Nat)
  | starting
deriving DecidableEq

/-- A `startJobFromEditor` under way. -/
structure Press where
  task : Task
  model : String
  pressed : Pressed
  stage : PressStage
deriving DecidableEq

/-- What a job is asked of: a song to generate, or a take to repaint or cover. -/
inductive Target where
  | song (songId : String)
  | take (takeId : String)
deriving DecidableEq

/-- The request for a job, with what the editor showed when it was pressed. -/
structure JobRequest where
  target : Target
  model : String
  versionId : Option String
  seed : Option Int
  count : Nat
  pressed : Pressed
deriving DecidableEq

/-- What the request takes from the recipe beside the draft. -/
structure Recipe where
  model : Option String
  seed : Option Int
  count : Nat
deriving DecidableEq

/-- `onTheWay` are the saves that the server has not served, `saved` those it has taken and
`read` what it answered the reads of the versions. -/
structure World where
  page : Page
  server : Server
  onTheWay : List Save
  saved : List Nat
  read : List (Nat × List VersionItem)
  recipe : Recipe
  source : Option String
  press : Option Press
  requests : List JobRequest

namespace World

variable (world : World)

/-- The draft goes on its way to the server. -/
def sendSave (songId : String) : Option World :=
  (world.page.sendSave songId).map fun page =>
    { world with page := page, onTheWay := world.onTheWay ++ page.saves.getLast?.toList }

/-- The job request of a press goes out. -/
def send (press : Press) (target : Target) : World :=
  { world with
    press := some { press with stage := .starting }
    requests := world.requests ++
      [⟨target, press.model, world.page.versions.head?.map VersionItem.id, world.recipe.seed,
        world.recipe.count, press.pressed⟩] }

/-- `start`: a source task without a source starts no job. -/
def start (press : Press) : World :=
  match press.task with
  | .generate => world.send press (.song press.pressed.songId)
  | .sourceTask =>
      match world.source with
      | none => { world with press := none }
      | some take => world.send press (.take take)

def isDirty : Bool :=
  world.page.editor.any draftAwaitsSave

/-- What the editor shows at a press. -/
def pressedNow (songId : String) : Pressed :=
  ⟨songId, (world.page.editor.map fun s => s.draft.data).getD emptySongData, world.source⟩

/-- `startJobFromEditor`, up to its first await. -/
def startJobFromEditor (task : Task) : World :=
  match world.page.selectedSongId, world.recipe.model with
  | some songId, some model =>
      if world.press.isSome then world
      else
        let retired := { world with page := world.page.retireVersionLoadUndo }
        let press : PressStage → Press := fun stage =>
          ⟨task, model, world.pressedNow songId, stage⟩
        if world.isDirty then
          match retired.sendSave songId with
          | none => retired
          | some saving => { saving with press := some (press (.saving world.page.nextRef)) }
        else retired.start (press .starting)
  | _, _ => world

/-- The press goes on, where it waited for this. -/
def goOn (waited : PressStage) (next : Press → World) : World :=
  match world.press with
  | some press => if press.stage = waited then next press else world
  | none => world

/-- A read of the versions that is not started has nothing to wait for. -/
def saveAnswered (save : Save) : World :=
  let recorded := { world.page with
    saves := world.page.saves.erase save
    editor := world.page.editor.map (Page.recordSaved save) }
  let loading := recorded.loadVersions save.songId false
  let answered := { world with page := loading.1, saved := world.saved.erase save.id }
  answered.goOn (.saving save.id) fun press =>
    match loading.2 with
    | some request =>
        { answered with press := some { press with stage := .loadingVersions request } }
    | none => answered.start press

/-- A read that another one has overtaken ends without an error. -/
def versionsAnswered (fetch : VersionsFetch) (loaded : List VersionItem) : World :=
  let answered := { world with page := world.page.versionsAnswered fetch loaded }
  answered.goOn (.loadingVersions fetch.request) answered.start

/-- The press ends with what it waited for. -/
def ends (waited : PressStage) : World :=
  world.goOn waited fun _ => { world with press := none }

end World

/-- What the user and the page do that needs no answer of the server. -/
def isOfPage : EditorDraft.Action → Bool
  | .edit _ | .loadSong _ | .discard | .loadVersion _ | .undo _ | .expire _ | .setAside
  | .offerAgain | .retire | .selectSong _ | .reloadVersions => true
  | _ => false

/-- What happens on the page and at the server while a press may be under way. -/
inductive Action where
  | page (a : EditorDraft.Action)
  | setRecipe (recipe : Recipe)
  | setSource (source : Option String)
  | press (task : Task)
  | save (songId : String)
  | serveSave (save : Save)
  | saveAnswered (save : Save)
  | saveFails (save : Save)
  | serveVersions (fetch : VersionsFetch)
  | versionsAnswered (fetch : VersionsFetch)
  | versionsFail (fetch : VersionsFetch)
  | jobAnswered
  /-- Takes are made and jobs come and go. -/
  | serverWorks (takes : List Take) (jobs : List Job)

/-- What a step does; `none` where it cannot be taken. -/
def act (world : World) : Action → Option World
  | .page a =>
      if isOfPage a then
        (EditorDraft.act world.page a).map fun page => { world with page := page }
      else none
  | .setRecipe recipe => some { world with recipe := recipe }
  | .setSource source => some { world with source := source }
  | .press task => some (world.startJobFromEditor task)
  | .save songId => world.sendSave songId
  | .serveSave save =>
      if save ∈ world.onTheWay then
        let served := { world with onTheWay := world.onTheWay.erase save }
        some ((world.server.updateSong save).elim served fun server =>
          { served with server := server, saved := world.saved ++ [save.id] })
      else none
  | .saveAnswered save =>
      if save ∈ world.page.saves ∧ save.id ∈ world.saved then some (world.saveAnswered save)
      else none
  | .saveFails save =>
      if save ∈ world.page.saves then
        some ({ world with page := { world.page with saves := world.page.saves.erase save } }.ends
          (.saving save.id))
      else none
  | .serveVersions fetch =>
      if fetch ∈ world.page.fetches ∧ world.read.lookup fetch.request = none then
        (world.server.fetchVersions fetch.songId).map fun loaded =>
          { world with read := world.read ++ [(fetch.request, loaded)] }
      else none
  | .versionsAnswered fetch =>
      if fetch ∈ world.page.fetches then
        (world.read.lookup fetch.request).map (world.versionsAnswered fetch)
      else none
  | .versionsFail fetch =>
      if fetch ∈ world.page.fetches then
        some ({ world with page := world.page.versionsFailed fetch }.ends
          (.loadingVersions fetch.request))
      else none
  | .jobAnswered => some (world.ends .starting)
  | .serverWorks takes jobs =>
      some { world with server := { world.server with
        state := { world.server.state with takes := takes, jobs := jobs } } }

/-- A page that was just opened. -/
def newWorld (server : Server) (recipe : Recipe) : World where
  page := newPage
  server := server
  onTheWay := []
  saved := []
  read := []
  recipe := recipe
  source := none
  press := none
  requests := []

/-- Every order of the user's actions, the server's and the answers, while no other client
edits the songs. -/
def generatePress : TransitionSystem World Action :=
  .ofAct (fun world => ∃ server recipe, Settled server.state ∧ world = newWorld server recipe) act

end Songmaker.Editor.GeneratePress
