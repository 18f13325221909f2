import Songmaker.Foundation.TransitionSystem

/-!
The detail of the open playlist, the details kept for a reopening, the requests for them and
the mutations made here: `playlists.ts`. A detail is known by how often each of its fields
was written on the server before it was read.
-/

namespace Songmaker.Playlists.DetailCache

open Songmaker.Foundation

abbrev PlaylistId := Nat
abbrev RequestId := Nat
abbrev MutationId := Nat

/-- How often each field was written on the server. -/
structure Versions where
  title : Nat
  cover : Nat
  entries : Nat
deriving DecidableEq

/-- The kinds of changes to a playlist. -/
inductive Kind where
  | rename
  | cover
  | entries
  | deletion
deriving DecidableEq

/-- The field that a mutation writes. -/
def Versions.get (versions : Versions) : Kind → Nat
  | .rename => versions.title
  | .cover => versions.cover
  | .entries => versions.entries
  | .deletion => 0

/-- The field that the change has written is newer now. -/
def Versions.bump (versions : Versions) : Kind → Versions
  | .rename => { versions with title := versions.title + 1 }
  | .cover => { versions with cover := versions.cover + 1 }
  | .entries => { versions with entries := versions.entries + 1 }
  | .deletion => versions

/-- A detail and the request that it was the answer of. -/
structure Detail where
  id : PlaylistId
  versions : Versions
  asked : RequestId
deriving DecidableEq

/-- `fresh` as long as the detail is not older than `PLAYLIST_DETAIL_FRESH_MS`. -/
structure CachedDetail where
  detail : Detail
  fresh : Bool
deriving DecidableEq

inductive Answer where
  | found (versions : Versions)
  | notFound
deriving DecidableEq

/-- A request for a detail, with what the server has answered it. -/
structure Request where
  playlist : PlaylistId
  answer : Option Answer
deriving DecidableEq

/-- How far a change that was made here has come. -/
inductive Stage where
  | sent
  /-- The server has written the field, and answers with its row. -/
  | applied (version : Nat) (item : Versions)
  /-- `refreshPlaylist` reads the list of playlists. -/
  | listing (version : Nat)
  | refreshing (version : Nat) (request : RequestId)
  /-- Completed before any request from `time` on was sent. -/
  | completed (version : Nat) (time : RequestId)
  | failed
deriving DecidableEq

/-- The write of the field, where the server has made it. -/
def Stage.version : Stage → Option Nat
  | .applied version _ | .listing version | .refreshing version _ | .completed version _ =>
      some version
  | .sent | .failed => none

/-- A change made here. -/
structure Mutation where
  playlist : PlaylistId
  kind : Kind
  stage : Stage
deriving DecidableEq

/-- How a read of a playlist fails. -/
inductive Failure where
  | notFound
  /-- The network swallowed it, and the load runs again. -/
  | unreachable
  | refused
deriving DecidableEq

/-- The playlists of the server, and what this page shows, keeps and waits for. -/
structure State where
  versions : PlaylistId → Versions
  deleted : PlaylistId → Bool
  /-- `selectedPlaylistId` -/
  opened : Option PlaylistId
  shown : Option Detail
  cache : PlaylistId → Option CachedDetail
  inflight : PlaylistId → Option RequestId
  requests : RequestId → Option Request
  next : RequestId
  /-- The request that the newest load waits for. -/
  awaiting : Option RequestId
  mutations : MutationId → Option Mutation
  /-- The details that were replaced by one of the same playlist, with that one. -/
  replaced : List (Detail × Detail)

namespace State

/-! ### The store -/

/-- Notes that another read of the same playlist replaces what was shown. -/
def noteReplaced (s : State) (before : Option Detail) (detail : Detail) : State :=
  match before with
  | some old =>
      if old.id = detail.id then { s with replaced := (old, detail) :: s.replaced } else s
  | none => s

def showPlaylistDetail (s : State) (detail : Detail) : State :=
  { s.noteReplaced s.shown detail with shown := some detail }

/-- A detail is kept for the next 15 seconds. -/
def cachePlaylistDetail (s : State) (detail : Detail) : State :=
  { s.noteReplaced ((s.cache detail.id).map CachedDetail.detail) detail with
    cache := Function.update s.cache detail.id (some ⟨detail, true⟩) }

/-- What the cache has of the playlist, if it is not too old. -/
def freshPlaylistDetail (s : State) (id : PlaylistId) : Option Detail :=
  ((s.cache id).filter CachedDetail.fresh).map CachedDetail.detail

def invalidatePlaylistDetailCache (s : State) (id : PlaylistId) : State :=
  { s with cache := Function.update s.cache id none }

/-- A new request, which is the playlist's current one. -/
def ask (s : State) (id : PlaylistId) : State :=
  { s with
    inflight := Function.update s.inflight id (some s.next)
    requests := Function.update s.requests s.next (some ⟨id, none⟩)
    next := s.next + 1 }

/-- `fetchPlaylistDetailDeduped`; the newest load waits for its request. -/
def fetchPlaylistDetailDeduped (s : State) (id : PlaylistId) (force : Bool) : State :=
  match s.inflight id with
  | some request =>
      if force then { s.ask id with awaiting := some s.next }
      else { s with awaiting := some request }
  | none => { s.ask id with awaiting := some s.next }

def openPlaylist (s : State) (id : PlaylistId) : State :=
  { s with opened := some id, awaiting := none }

/-- A playlist is opened: from the cache, or by a read that may be shared. -/
def loadPlaylistDetail (s : State) (id : PlaylistId) (forceRefresh : Bool) : State :=
  if forceRefresh then
    ((s.openPlaylist id).invalidatePlaylistDetailCache id).fetchPlaylistDetailDeduped id true
  else
    match s.freshPlaylistDetail id with
    | some detail => (s.openPlaylist id).showPlaylistDetail detail
    | none => (s.openPlaylist id).fetchPlaylistDetailDeduped id false

/-- No playlist is open any more. -/
def deselectPlaylist (s : State) : State :=
  { s with opened := none, shown := none, awaiting := none }

/-! ### Answers -/

/-- The `finally` of a request. -/
def endRequest (s : State) (id : PlaylistId) (request : RequestId) : State :=
  { s with
    requests := Function.update s.requests request none
    inflight :=
      if s.inflight id = some request then Function.update s.inflight id none else s.inflight }

/-- The mutations that wait for the request of their refresh are through. -/
def completeRefreshes (s : State) (request : RequestId) : State :=
  { s with
    mutations := fun id => (s.mutations id).map fun mutation =>
      match mutation.stage with
      | .refreshing version awaited =>
          if awaited = request then { mutation with stage := .completed version s.next }
          else mutation
      | _ => mutation }

/-- The newest load goes on, unless it was superseded. -/
def resumeLoad (s : State) (id : PlaylistId) (request : RequestId) (goOn : State → State) :
    State :=
  if s.awaiting = some request then
    if s.opened = some id then goOn { s with awaiting := none } else { s with awaiting := none }
  else s

/-- The cache takes the answer of the newest request only. -/
def keepAnswer (s : State) (detail : Detail) : State :=
  if s.inflight detail.id = some detail.asked then s.cachePlaylistDetail detail else s

/-- The answer of a read: it is cached, shown where it is awaited, and ends the refreshes
that waited for it. -/
def receive (s : State) (detail : Detail) : State :=
  ((((s.keepAnswer detail).endRequest detail.id detail.asked).resumeLoad detail.id detail.asked
    fun resumed => resumed.showPlaylistDetail detail)).completeRefreshes detail.asked

/-- `failPlaylistDetailLoad` -/
def failPlaylistDetailLoad (failure : Failure) (s : State) : State :=
  match failure with
  | .notFound => { s with shown := none, opened := none }
  | .unreachable => s
  | .refused => { s with shown := none }

/-- A read has failed, and what waited for it goes on without. -/
def receiveFailure (s : State) (id : PlaylistId) (request : RequestId) (failure : Failure) :
    State :=
  ((s.endRequest id request).resumeLoad id request
    (failPlaylistDetailLoad failure)).completeRefreshes request

/-! ### Mutations -/

def setStage (s : State) (id : MutationId) (mutation : Mutation) (stage : Stage) : State :=
  { s with mutations := Function.update s.mutations id (some { mutation with stage := stage }) }

/-- The server writes a field of the playlist. -/
def bump (s : State) (id : PlaylistId) (kind : Kind) : State :=
  { s with
    versions := Function.update s.versions id ((s.versions id).bump kind)
    deleted := if kind = .deletion then Function.update s.deleted id true else s.deleted }

end State

/-- What `renamePlaylist` and `updatePlaylistInList` write into the shown detail: the title, or
the row that the server has answered. -/
def Detail.patch (detail : Detail) (kind : Kind) (version : Nat) (item : Versions) : Detail :=
  match kind with
  | .rename => { detail with versions := { detail.versions with title := version } }
  | .cover => { detail with versions := { item with entries := detail.versions.entries } }
  | .entries | .deletion => detail

namespace State

/-- A rename or a cover change is written into the shown detail. -/
def patchShown (s : State) (mutation : Mutation) (version : Nat) (item : Versions) : State :=
  match s.shown with
  | some detail =>
      if detail.id = mutation.playlist then
        let patched := detail.patch mutation.kind version item
        { s.cachePlaylistDetail patched with shown := some patched }
      else s
  | none => s

/-- The API call of a mutation has been answered. -/
def returnMutation (s : State) (id : MutationId) (mutation : Mutation) (version : Nat)
    (item : Versions) : State :=
  match mutation.kind with
  | .rename | .cover =>
      (s.patchShown mutation version item).setStage id mutation (.completed version s.next)
  | .entries => s.setStage id mutation (.listing version)
  | .deletion =>
      let invalidated := s.invalidatePlaylistDetailCache mutation.playlist
      let left := if s.opened = some mutation.playlist then invalidated.deselectPlaylist
        else invalidated
      left.setStage id mutation (.completed version s.next)

/-- `refreshPlaylist`, once the list has been read. -/
def refreshPlaylist (s : State) (id : MutationId) (mutation : Mutation) (version : Nat) : State :=
  if s.opened = some mutation.playlist then
    (s.loadPlaylistDetail mutation.playlist true).setStage id mutation (.refreshing version s.next)
  else
    (s.invalidatePlaylistDetailCache mutation.playlist).setStage id mutation
      (.completed version s.next)

end State

/-- Loads, the answers of the server, and changes here. -/
inductive Action where
  | loads (id : PlaylistId) (forceRefresh : Bool)
  | deselects
  /-- An album is opened, or nothing, and the playlist stores are left as they are. -/
  | opensElsewhere
  | ages (id : PlaylistId)
  | serves (request : RequestId)
  | answers (request : RequestId)
  | fails (request : RequestId) (failure : Failure)
  | sends (id : MutationId) (playlist : PlaylistId) (kind : Kind)
  | applies (id : MutationId)
  | returns (id : MutationId)
  | lists (id : MutationId)
  /-- The API call, or the reading of the list, fails. -/
  | failsMutation (id : MutationId)
  /-- Another device writes. -/
  | elsewhere (playlist : PlaylistId) (kind : Kind)
deriving DecidableEq

def act (s : State) : Action → Option State
  | .loads id forceRefresh => some (s.loadPlaylistDetail id forceRefresh)
  | .deselects => some s.deselectPlaylist
  | .opensElsewhere => some { s with opened := none }
  | .ages id =>
      let aged := (s.cache id).map fun cached => { cached with fresh := false }
      some { s with cache := Function.update s.cache id aged }
  | .serves request =>
      match s.requests request with
      | some ⟨id, none⟩ =>
          let answer := if s.deleted id then .notFound else .found (s.versions id)
          some { s with requests := Function.update s.requests request (some ⟨id, some answer⟩) }
      | _ => none
  | .answers request =>
      match s.requests request with
      | some ⟨id, some (.found versions)⟩ => some (s.receive ⟨id, versions, request⟩)
      | _ => none
  | .fails request failure =>
      match s.requests request with
      | some ⟨id, answer⟩ =>
          if failure = .notFound ∧ answer ≠ some .notFound then none
          else some (s.receiveFailure id request failure)
      | none => none
  | .sends id playlist kind =>
      if s.mutations id = none then
        some { s with mutations := Function.update s.mutations id (some ⟨playlist, kind, .sent⟩) }
      else none
  | .applies id =>
      (s.mutations id).bind fun mutation =>
        if mutation.stage = .sent ∧ s.deleted mutation.playlist = false then
          let written := s.bump mutation.playlist mutation.kind
          let item := written.versions mutation.playlist
          some (written.setStage id mutation (.applied (item.get mutation.kind) item))
        else none
  | .returns id =>
      (s.mutations id).bind fun mutation =>
        match mutation.stage with
        | .applied version item => some (s.returnMutation id mutation version item)
        | _ => none
  | .lists id =>
      (s.mutations id).bind fun mutation =>
        match mutation.stage with
        | .listing version => some (s.refreshPlaylist id mutation version)
        | _ => none
  | .failsMutation id =>
      (s.mutations id).bind fun mutation =>
        match mutation.stage with
        | .sent | .applied _ _ | .listing _ => some (s.setStage id mutation .failed)
        | _ => none
  | .elsewhere playlist kind => some (s.bump playlist kind)

/-- A page that has just been loaded. -/
structure Initial (s : State) : Prop where
  opened : s.opened = none
  shown : s.shown = none
  cache : s.cache = fun _ => none
  inflight : s.inflight = fun _ => none
  requests : s.requests = fun _ => none
  awaiting : s.awaiting = none
  mutations : s.mutations = fun _ => none
  replaced : s.replaced = []

def detailStore : TransitionSystem State Action :=
  .ofAct Initial act

/-- A detail with these versions shows the write. -/
def Reflects (versions : Versions) (kind : Kind) (version : Nat) : Prop :=
  kind ≠ .deletion ∧ version ≤ versions.get kind

/-- A detail with these versions shows every completed mutation of the playlist. -/
def State.ReflectsCompleted (s : State) (id : PlaylistId) (versions : Versions) : Prop :=
  ∀ mutation kind version time,
    s.mutations mutation = some ⟨id, kind, .completed version time⟩ →
      Reflects versions kind version

/-- A mutation of the playlist completed between the two requests. -/
def State.CompletedBetween (s : State) (id : PlaylistId) (earlier later : RequestId) : Prop :=
  ∃ mutation kind version time,
    s.mutations mutation = some ⟨id, kind, .completed version time⟩ ∧
      earlier < time ∧ time ≤ later

/-- No superseded answer is shown or kept. -/
structure Current (s : State) : Prop where
  shown : ∀ detail ∈ s.shown, s.opened = some detail.id
  replaced : ∀ pair ∈ s.replaced, ¬s.CompletedBetween pair.1.id pair.2.asked pair.1.asked
  cached : ∀ id, ∀ detail ∈ s.freshPlaylistDetail id, s.ReflectsCompleted id detail.versions

/-! ### When it is -/

/-- What the playlist's current request was answered shows the write. -/
def State.AnswerReflects (s : State) (id : PlaylistId) (kind : Kind) (version : Nat) : Prop :=
  ∀ request ∈ s.inflight id, ∀ versions,
    s.requests request = some ⟨id, some (.found versions)⟩ → Reflects versions kind version

/-- A detail that is still fresh shows the write. -/
def State.CacheReflects (s : State) (id : PlaylistId) (kind : Kind) (version : Nat) : Prop :=
  ∀ detail ∈ s.freshPlaylistDetail id, Reflects detail.versions kind version

/-- The write of a rename or of a cover change into the shown detail leaves nothing older
behind in it or under it. -/
def State.PatchIsCurrent (s : State) (mutation : Mutation) (version : Nat) (item : Versions) :
    Prop :=
  (∀ detail ∈ s.shown, detail.id = mutation.playlist →
    s.ReflectsCompleted mutation.playlist (detail.patch mutation.kind version item).versions ∧
      Reflects (detail.patch mutation.kind version item).versions mutation.kind version ∧
      ∀ cached ∈ s.cache mutation.playlist,
        ¬s.CompletedBetween mutation.playlist detail.asked cached.detail.asked) ∧
    ((∀ detail ∈ s.shown, detail.id ≠ mutation.playlist) →
      s.CacheReflects mutation.playlist mutation.kind version)

def Sound (s : State) : Action → Prop
  | .loads id forceRefresh =>
      (∀ detail ∈ s.shown, detail.id = id) ∨
        forceRefresh = false ∧ s.freshPlaylistDetail id ≠ none
  | .opensElsewhere => s.shown = none
  | .answers request =>
      ∀ mutation id kind version,
        s.mutations mutation = some ⟨id, kind, .refreshing version request⟩ →
          s.inflight id = some request ∨ s.CacheReflects id kind version
  | .fails request _ =>
      ∀ mutation id kind version,
        s.mutations mutation = some ⟨id, kind, .refreshing version request⟩ →
          s.CacheReflects id kind version
  | .returns id =>
      ∀ playlist kind version item,
        s.mutations id = some ⟨playlist, kind, .applied version item⟩ → kind ≠ .entries →
          s.AnswerReflects playlist kind version ∧
            (kind ≠ .deletion → s.PatchIsCurrent ⟨playlist, kind, .applied version item⟩ version
              item)
  | .lists id =>
      ∀ playlist kind version,
        s.mutations id = some ⟨playlist, kind, .listing version⟩ →
          s.opened ≠ some playlist → s.AnswerReflects playlist kind version
  | _ => True

end Songmaker.Playlists.DetailCache
