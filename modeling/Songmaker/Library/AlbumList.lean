import Mathlib.Data.List.Perm.Basic
import Songmaker.Foundation.TransitionSystem

/-!
The album list of the library: full loads that page to the end and merge or
replace, browse requests that set or extend the first pages, and the albums
created and removed here while their answers are on the way. The calls run one
at a time, and every answer may come at any later moment.
-/

namespace Songmaker.Library.AlbumList

open Songmaker.Foundation

structure Album where
  id : String
  title : String
deriving DecidableEq

def ids (albums : List Album) : List String := albums.map Album.id

def removeAlbumFromList (albumId : String) (list : List Album) : List Album :=
  list.filter fun album => album.id != albumId

def addAlbumToList (localeCompare : String → String → Ordering) (album : Album)
    (list : List Album) : List Album :=
  if album.id ∈ ids list then list
  else (list ++ [album]).mergeSort fun a b => (localeCompare a.title b.title).isLE

/-- The current list, with the albums of the fresh page brought up to date and its new
ones in front. -/
def refreshAlbums (current fresh : List Album) : List Album :=
  (fresh.filter fun album => album.id ∉ ids current) ++
    current.map fun album =>
      ((fresh.reverse.find? fun other => other.id == album.id).getD album)

/-- The albums of the full load that are not listed yet come last. -/
def mergeFetchedAlbums (current fetched : List Album) : List Album :=
  current ++ fetched.filter fun album => album.id ∉ ids current

def replaceWithFetched (_current fetched : List Album) : List Album := fetched

/-- The first album of each id. -/
def dedupeById (seen : List String) : List Album → List Album
  | [] => []
  | album :: rest =>
      if album.id ∈ seen then dedupeById seen rest
      else album :: dedupeById (album.id :: seen) rest

structure Page where
  items : List Album
  hasMore : Bool
deriving DecidableEq

def libraryAlbumPageSize : Nat := 50

/-- The page that the server answers out of a listing of its albums. -/
def pageOf (listing : List Album) (offset : Nat) : Page where
  items := (listing.drop offset).take libraryAlbumPageSize
  hasMore := offset + ((listing.drop offset).take libraryAlbumPageSize).length < listing.length

inductive LoadStatus where
  | idle
  | loading
  | ready
  | error
  | unreachable
deriving DecidableEq

/-- A full load under way. `answer` is the page the server has answered and that has not come yet,
`gaps` the number of gaps reported before the load began. -/
structure FullLoad where
  replaces : Bool
  collected : List Album
  answer : Option Page
  gaps : Nat
deriving DecidableEq

/-- What the load has read so far. -/
def FullLoad.read (load : FullLoad) : List Album :=
  load.collected ++ (load.answer.map Page.items).getD []

/-- A read of one page of albums, with the place that it was sent from. -/
structure BrowseRequest where
  generation : Nat
  reset : Bool
  albumOffset : Nat
  answer : Option Page
deriving DecidableEq

/-- The server's albums, the list that is shown, and the reads under way. -/
structure State where
  /-- The albums that the server lists. -/
  server : List Album
  albumList : List Album
  allAlbumsLoad : LoadStatus
  allAlbumsInflight : Option FullLoad
  replaceOwed : Bool
  reloadPending : Bool
  /-- The calls of `rereadAllAlbums` that wait for the load in flight. -/
  waiting : Nat
  /-- Those whose load has settled and that have still to go on. -/
  released : Nat
  browseGeneration : Nat
  albumOffset : Nat
  browse : List BrowseRequest
  /-- The albums created or restored here and not removed since. -/
  created : List String
  /-- The albums removed here and not restored since. -/
  removed : List String
  /-- For each album deleted elsewhere and not restored since, the number of gaps reported before
  that deletion. -/
  deletedElsewhere : String → Option Nat
  gaps : Nat
  /-- The number of gaps reported before the last full load began, 0 when it failed. -/
  caughtUp : Nat

namespace State

/-- A full load begins, unless one is in flight. -/
def loadAllAlbums (s : State) (replace : Bool) : State :=
  if s.allAlbumsInflight.isSome then s
  else
    { s with
      replaceOwed := s.replaceOwed || replace
      allAlbumsLoad := .loading
      allAlbumsInflight := some ⟨s.replaceOwed || replace, [], none, s.gaps⟩ }

def ensureAllAlbumsLoaded (s : State) : State :=
  if s.allAlbumsLoad = .ready then s else s.loadAllAlbums false

/-- A stream gap is reported: the call runs up to the load that it starts or waits for. -/
def rereadAllAlbums (s : State) : State :=
  if s.allAlbumsLoad = .idle then { s with gaps := s.gaps + 1 }
  else if s.allAlbumsInflight.isSome then
    { s with gaps := s.gaps + 1, waiting := s.waiting + 1 }
  else { s with gaps := s.gaps + 1 }.loadAllAlbums true

/-- A caller that waited for the load in flight begins its own. -/
def rereadGoesOn (s : State) : State :=
  { s with released := s.released - 1 }.loadAllAlbums true

def combine (replaces : Bool) (current fetched : List Album) : List Album :=
  if replaces then replaceWithFetched current fetched else mergeFetchedAlbums current fetched

/-- The full load is complete, and the list is made of what it has read. -/
def settleFull (s : State) (load : FullLoad) (collected : List Album) : State :=
  { s with
    albumList := combine load.replaces s.albumList collected
    replaceOwed := false
    reloadPending := false
    allAlbumsLoad := .ready
    allAlbumsInflight := none
    waiting := 0
    released := s.released + s.waiting
    caughtUp := load.gaps }

/-- The full load has failed; it is tried again when the network is back. -/
def failFull (s : State) (network : Bool) : State :=
  { s with
    reloadPending := network
    allAlbumsLoad := if network then .unreachable else .error
    allAlbumsInflight := none
    waiting := 0
    released := s.released + s.waiting
    caughtUp := 0 }

/-- One turn of the loop of `fetchEveryAlbum`, and what follows its last one. -/
def receivePage (s : State) (load : FullLoad) (page : Page) : State :=
  if page.hasMore ∧ page.items ≠ [] then
    { s with
      allAlbumsInflight := some { load with
        collected := load.collected ++ page.items, answer := none } }
  else s.settleFull load (load.collected ++ page.items)

/-- What a first page makes of the list. -/
def resetAlbumList (s : State) (firstPage : List Album) : List Album :=
  if s.allAlbumsLoad = .idle then firstPage else refreshAlbums s.albumList firstPage

/-- A read of the next page begins, or of the first one again. -/
def loadLibraryBrowse (s : State) (reset : Bool) : State :=
  { s with
    browseGeneration := s.browseGeneration + 1
    browse := s.browse ++
      [⟨s.browseGeneration + 1, reset, if reset then 0 else s.albumOffset, none⟩] }

/-- The answer of a page, which an overtaken read drops. -/
def receiveBrowse (s : State) (request : BrowseRequest) (page : Page) : State :=
  if request.generation ≠ s.browseGeneration then s
  else
    { s with
      albumList :=
        if request.reset then s.resetAlbumList page.items
        else dedupeById [] (s.albumList ++ page.items)
      albumOffset := request.albumOffset + page.items.length }

end State

/-- The reads of the two lists, the changes made here, and those made elsewhere. -/
inductive Action where
  | ensureAllAlbumsLoaded
  | rereadAllAlbums
  | rereadGoesOn
  | reloads
  /-- The server answers the full load's request out of this listing. -/
  | fullServed (listing : List Album)
  | fullArrives
  | fullFails (network : Bool)
  | loadLibraryBrowse (reset : Bool)
  | browseServed (index : Nat) (listing : List Album)
  | browseArrives (index : Nat)
  | browseFails (index : Nat)
  | cancelLibraryDataLoads
  | addAlbumToList (album : Album)
  | removeAlbumFromList (albumId : String)
  /-- An album is created or restored on the server, here or elsewhere. -/
  | serverGains (album : Album)
  /-- An album is deleted on the server, here or elsewhere. -/
  | serverLoses (albumId : String) (elsewhere : Bool)
deriving DecidableEq

def act (localeCompare : String → String → Ordering) (s : State) : Action → Option State
  | .ensureAllAlbumsLoaded => some s.ensureAllAlbumsLoaded
  | .rereadAllAlbums => some s.rereadAllAlbums
  | .rereadGoesOn => if s.released = 0 then none else some s.rereadGoesOn
  | .reloads =>
      if s.reloadPending then some ({ s with reloadPending := false }.loadAllAlbums false)
      else none
  | .fullServed listing => do
      let load ← s.allAlbumsInflight
      if load.answer = none ∧ listing.Perm s.server then
        some { s with
          allAlbumsInflight := some { load with
            answer := some (pageOf listing load.collected.length) } }
      else none
  | .fullArrives => do
      let load ← s.allAlbumsInflight
      let page ← load.answer
      some (s.receivePage load page)
  | .fullFails network => s.allAlbumsInflight.map fun _ => s.failFull network
  | .loadLibraryBrowse reset => some (s.loadLibraryBrowse reset)
  | .browseServed index listing => do
      let request ← s.browse[index]?
      if request.answer = none ∧ listing.Perm s.server then
        some { s with
          browse := s.browse.set index { request with
            answer := some (pageOf listing request.albumOffset) } }
      else none
  | .browseArrives index => do
      let request ← s.browse[index]?
      let page ← request.answer
      some ({ s with browse := s.browse.eraseIdx index }.receiveBrowse request page)
  | .browseFails index => s.browse[index]?.map fun _ =>
      { s with browse := s.browse.eraseIdx index }
  | .cancelLibraryDataLoads => some { s with browseGeneration := s.browseGeneration + 1 }
  | .addAlbumToList album =>
      some { s with
        albumList := addAlbumToList localeCompare album s.albumList
        created := album.id :: s.created
        removed := s.removed.filter fun id => id != album.id }
  | .removeAlbumFromList albumId =>
      some { s with
        albumList := removeAlbumFromList albumId s.albumList
        created := s.created.filter fun id => id != albumId
        removed := albumId :: s.removed }
  | .serverGains album =>
      if album.id ∈ ids s.server then none
      else
        some { s with
          server := album :: s.server
          removed := s.removed.filter fun id => id != album.id
          deletedElsewhere := Function.update s.deletedElsewhere album.id none }
  | .serverLoses albumId elsewhere =>
      if elsewhere then
        some { s with
          server := s.server.filter fun album => album.id != albumId
          created := s.created.filter fun id => id != albumId
          deletedElsewhere := Function.update s.deletedElsewhere albumId (some s.gaps) }
      else some { s with server := s.server.filter fun album => album.id != albumId }

/-- A page load: nothing is listed, nothing is under way and nothing has been reported. -/
structure Initial (s : State) : Prop where
  server : (ids s.server).Nodup
  albumList : s.albumList = []
  allAlbumsLoad : s.allAlbumsLoad = .idle
  inflight : s.allAlbumsInflight = none
  replaceOwed : s.replaceOwed = false
  waiting : s.waiting = 0
  released : s.released = 0
  browse : s.browse = []
  created : s.created = []
  removed : s.removed = []
  deletedElsewhere : ∀ id, s.deletedElsewhere id = none
  gaps : s.gaps = 0
  caughtUp : s.caughtUp = 0

/-- The store in a page that was just loaded, and its steps. -/
def albumStore (localeCompare : String → String → Ordering) : TransitionSystem State Action :=
  TransitionSystem.ofAct Initial (act localeCompare)

/-- Every load has settled. -/
def Settled (s : State) : Prop :=
  s.allAlbumsInflight = none ∧ s.waiting = 0 ∧ s.released = 0 ∧ s.browse = []

/-- No album that was deleted elsewhere before the first `gaps` reports is among these. -/
def CleanOf (s : State) (gaps : Nat) (albums : List Album) : Prop :=
  ∀ id ∈ ids albums, ∀ time ∈ s.deletedElsewhere id, gaps ≤ time

/-- The list that is shown has what was created here and nothing that was removed here. -/
structure Right (s : State) : Prop where
  once : (ids s.albumList).Nodup
  created : ∀ id ∈ s.created, id ∈ ids s.albumList
  removed : ∀ id ∈ s.removed, id ∉ ids s.albumList
  caughtUp : CleanOf s s.caughtUp s.albumList

/-- A re-read of every album is still to come. -/
def State.OwesReread (s : State) : Prop :=
  s.replaceOwed = true ∨ 0 < s.waiting ∨ 0 < s.released

/-- Albums that are put into the list hold none that was removed here, and none deleted elsewhere
before the last reported gap unless a re-read of every album is still to come. -/
def Fresh (s : State) (albums : List Album) : Prop :=
  (∀ id ∈ ids albums, id ∉ s.removed) ∧ (CleanOf s s.gaps albums ∨ s.OwesReread)

/-- A full load has read its last page: it names no new album twice, holds none removed here and,
where it replaces the list, holds every album created here. -/
def SoundLoad (s : State) (load : FullLoad) (collected : List Album) : Prop :=
  (∀ id ∈ ids collected, id ∉ s.removed) ∧
    if load.replaces then
      (ids collected).Nodup ∧ ∀ id ∈ s.created, id ∈ ids collected
    else (ids (collected.filter fun album => album.id ∉ ids s.albumList)).Nodup

def Sound (s : State) : Action → Prop
  | .rereadAllAlbums =>
      s.allAlbumsLoad = .idle → ∀ id ∈ ids s.albumList, s.deletedElsewhere id = none
  | .rereadGoesOn =>
      ∀ load ∈ s.allAlbumsInflight, load.replaces = true ∨ CleanOf s s.gaps s.albumList
  | .fullArrives =>
      ∀ load ∈ s.allAlbumsInflight, ∀ page ∈ load.answer,
        ¬ (page.hasMore = true ∧ page.items ≠ []) →
          SoundLoad s load (load.collected ++ page.items)
  | .browseArrives index =>
      ∀ request ∈ s.browse[index]?, ∀ page ∈ request.answer,
        request.generation = s.browseGeneration →
          Fresh s page.items ∧
            (request.reset = true → s.allAlbumsLoad = .idle →
              ∀ id ∈ s.created, id ∈ ids page.items)
  | .addAlbumToList album => CleanOf s s.gaps [album] ∨ s.OwesReread
  | _ => True

end Songmaker.Library.AlbumList
