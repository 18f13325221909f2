import Mathlib.Data.String.Basic
import Songmaker.Foundation.IsoDatetime

/-!
The title search over albums and songs, one page at a time. `lower` is the
lowercasing that the database and Python agree on, and `ilike` the database's
pattern match.
-/

namespace Songmaker.Library

open Songmaker.Foundation

structure Album where
  id : String
  title : String
  createdBy : Option String
  createdAt : Datetime
  isArchived : Bool

structure Song where
  id : String
  title : String
  albumId : String
  createdAt : Datetime

/-- A row of either kind. -/
inductive Hit where
  | album (row : Album)
  | song (row : Song)

def libraryItemAlbum : String := "album"

def libraryItemSong : String := "song"

/-- The tables, with their primary keys. -/
structure Tables where
  albums : List Album
  songs : List Song
  albumIds : (albums.map Album.id).Nodup
  songIds : (songs.map Song.id).Nodup
  albumIdsNonempty : ∀ album ∈ albums, album.id ≠ ""
  songIdsNonempty : ∀ song ∈ songs, song.id ≠ ""

inductive LibrarySort where
  | title
  | oldest
  | newest
deriving DecidableEq

def LibrarySort.text : LibrarySort → String
  | .title => "title"
  | .oldest => "oldest"
  | .newest => "newest"

/-- The place of the last hit of a page, with the query that it belongs to. -/
structure LibraryCursor where
  q : String
  sort : String
  itemType : String
  sortValue : String
  id : String
deriving DecidableEq

/-- What a search answers before its cursor is signed. -/
structure LibrarySearchPage where
  items : List Hit
  hasMore : Bool

namespace Hit

def id : Hit → String
  | .album row => row.id
  | .song row => row.id

def title : Hit → String
  | .album row => row.title
  | .song row => row.title

def createdAt : Hit → Datetime
  | .album row => row.createdAt
  | .song row => row.createdAt

def hitType : Hit → String
  | .album _ => libraryItemAlbum
  | .song _ => libraryItemSong

end Hit

/-- `aware_timestamp`: a naive timestamp is in UTC. -/
def awareTimestamp (value : Datetime) : Datetime where
  toDatetimeFields := { value.toDatetimeFields with utcoffset := some (value.utcoffset.getD 0) }
  valid := by
    obtain ⟨hyear, hmonth, hday, hhour, hminute, hsecond, hmicrosecond, hoffset⟩ := value.valid
    refine ⟨hyear, hmonth, hday, hhour, hminute, hsecond, hmicrosecond, ?_⟩
    revert hoffset
    cases value.utcoffset with
    | none => exact fun _ => rfl
    | some offset => exact id

/-- The columns that a query on albums or songs sorts and filters by. -/
structure Model (Row : Type) where
  id : Row → String
  title : Row → String
  createdAt : Row → Datetime
  itemType : String

def albumModel : Model Album := ⟨Album.id, Album.title, Album.createdAt, libraryItemAlbum⟩

def songModel : Model Song := ⟨Song.id, Song.title, Song.createdAt, libraryItemSong⟩

/-- The pattern that matches what contains the text, wildcards taken literally. -/
def likeContainsPattern (raw : String) : String :=
  let escaped := ((raw.replace "\\" "\\\\").replace "%" "\\%").replace "_" "\\_"
  "%" ++ escaped ++ "%"

section Queries

variable (lower : String → String) (ilike : String → String → Bool) {Row : Type}

def titleMatches (title q : String) : Bool :=
  ilike (likeContainsPattern q) title

/-- The order of two rows under `ORDER BY`. -/
def rowBefore (model : Model Row) (sort : LibrarySort) (a b : Row) : Bool :=
  match sort with
  | .title =>
      lower (model.title a) < lower (model.title b) ||
        (lower (model.title a) = lower (model.title b) && model.id a ≤ model.id b)
  | .oldest =>
      (model.createdAt a).instant < (model.createdAt b).instant ||
        ((model.createdAt a).instant = (model.createdAt b).instant && model.id a ≤ model.id b)
  | .newest =>
      (model.createdAt b).instant < (model.createdAt a).instant ||
        ((model.createdAt b).instant = (model.createdAt a).instant && model.id b ≤ model.id a)

/-- The rows in the order of the query. -/
def applyLibrarySort (model : Model Row) (sort : LibrarySort) (rows : List Row) : List Row :=
  rows.mergeSort (rowBefore lower model sort)

/-- The rows after the cursor where the order goes up; of the other type, those of the
cursor's value may be among them. -/
def ascendingKeysetClause {Key : Type} [LinearOrder Key] (key value : Key)
    (modelId cursorId : String) (sameType typeAfter : Bool) : Bool :=
  if typeAfter then value < key || key = value
  else if sameType then value < key || (key = value && cursorId < modelId)
  else value < key

/-- The rows after the cursor where the order goes down. -/
def descendingKeysetClause {Key : Type} [LinearOrder Key] (key value : Key)
    (modelId cursorId : String) (sameType typeAfter : Bool) : Bool :=
  if typeAfter then key < value || key = value
  else if sameType then key < value || (key = value && modelId < cursorId)
  else key < value

def parseSortDatetime (value : String) : Option Datetime :=
  (Datetime.fromisoformat value.toList).map awareTimestamp

/-- The filter that a cursor adds to the query, or the error of a cursor whose
sort value is no timestamp. -/
def keysetClause (model : Model Row) (sort : LibrarySort) (cursor : LibraryCursor) :
    Option (Row → Bool) :=
  let sameType : Bool := model.itemType = cursor.itemType
  let typeAfter : Bool := cursor.itemType < model.itemType
  match sort with
  | .title =>
      some fun row => ascendingKeysetClause (lower (model.title row)) cursor.sortValue
        (model.id row) cursor.id sameType typeAfter
  | .oldest => do
      let timestamp ← parseSortDatetime cursor.sortValue
      return fun row => ascendingKeysetClause (model.createdAt row).instant timestamp.instant
        (model.id row) cursor.id sameType typeAfter
  | .newest => do
      let timestamp ← parseSortDatetime cursor.sortValue
      return fun row => descendingKeysetClause (model.createdAt row).instant timestamp.instant
        (model.id row) cursor.id sameType typeAfter

/-- The rest of `_matching_albums` and `_matching_songs`, once the rows match. -/
def queryPage (model : Model Row) (sort : LibrarySort) (after : Option LibraryCursor)
    (limit : Nat) (rows : List Row) : Option (List Row) :=
  match after with
  | none => some ((applyLibrarySort lower model sort rows).take limit)
  | some cursor => do
      let keyset ← keysetClause lower model sort cursor
      return (applyLibrarySort lower model sort (rows.filter keyset)).take limit

/-- Albums that are not archived, and of the owner if one is asked for. -/
def visible (ownerId : Option String) (album : Album) : Bool :=
  !album.isArchived &&
    match ownerId with
    | none => true
    | some owner => album.createdBy = some owner

def matchingAlbumRows (tables : Tables) (ownerId : Option String) (q : String) : List Album :=
  tables.albums.filter fun album => titleMatches ilike album.title q && visible ownerId album

def matchingSongRows (tables : Tables) (ownerId : Option String) (q : String) : List Song :=
  tables.songs.filter fun song => titleMatches ilike song.title q &&
    tables.albums.any fun album => album.id = song.albumId && visible ownerId album

def hitBefore (sort : LibrarySort) (left right : Hit) : Bool :=
  match sort with
  | .title =>
      if lower left.title ≠ lower right.title then lower left.title < lower right.title
      else if left.hitType ≠ right.hitType then left.hitType < right.hitType
      else left.id < right.id
  | .oldest =>
      let leftTs := (awareTimestamp left.createdAt).instant
      let rightTs := (awareTimestamp right.createdAt).instant
      if leftTs ≠ rightTs then leftTs < rightTs
      else if left.hitType ≠ right.hitType then left.hitType < right.hitType
      else left.id < right.id
  | .newest =>
      let leftTs := (awareTimestamp left.createdAt).instant
      let rightTs := (awareTimestamp right.createdAt).instant
      if leftTs ≠ rightTs then rightTs < leftTs
      else if left.hitType ≠ right.hitType then left.hitType < right.hitType
      else right.id < left.id

/-- The hits of both kinds in one order. -/
def mergeHits (albums : List Album) (songs : List Song) (sort : LibrarySort) : List Hit :=
  List.merge (albums.map Hit.album) (songs.map Hit.song) (hitBefore lower sort)

/-- The first of the hits of one identity. -/
def dedupeHits (seen : List (String × String)) : List Hit → List Hit
  | [] => []
  | hit :: hits =>
      if (hit.hitType, hit.id) ∈ seen then dedupeHits seen hits
      else hit :: dedupeHits ((hit.hitType, hit.id) :: seen) hits

/-- A page of the hits after the cursor, and whether there are more. -/
def searchLibrary (tables : Tables) (ownerId : Option String) (q : String) (sort : LibrarySort)
    (limit : Nat) (after : Option LibraryCursor) : Option LibrarySearchPage := do
  let fetchLimit := limit + 1
  let albums ← queryPage lower albumModel sort after fetchLimit
    (matchingAlbumRows ilike tables ownerId q)
  let songs ← queryPage lower songModel sort after fetchLimit
    (matchingSongRows ilike tables ownerId q)
  let merged := mergeHits lower albums songs sort
  let unique := dedupeHits [] merged
  return ⟨unique.take limit, decide (limit < unique.length)⟩

/-- The cursor that stands behind a hit. -/
def cursorFromHit (hit : Hit) (q : String) (sort : LibrarySort) : LibraryCursor where
  q := q
  sort := sort.text
  itemType := hit.hitType
  sortValue :=
    if sort = .title then lower hit.title
    else String.ofList (awareTimestamp hit.createdAt).isoformat
  id := hit.id

end Queries

end Songmaker.Library
