import Songmaker.Foundation.FreeNames
import Songmaker.Foundation.PythonText
import Songmaker.Foundation.TransitionSystem

/-!
How a song gets its address: create, rename and move requests, each of which
reads the song, takes the slug lock and then searches, writes and commits while
no other of them is in that section.
-/

namespace Songmaker.Songs.SongSlugs

open Songmaker.Foundation
open Songmaker.Foundation.FreeNames

abbrev Text := List Char

/-- The row of a song, as far as its address goes. -/
structure SongRow where
  id : Nat
  albumId : Text
  title : Text
  slug : Text
  deleted : Bool
deriving DecidableEq

/-- A request that has still to take the lock, with what it has read before it. -/
inductive Change where
  | create (albumId title : Text)
  | rename (songId : Nat) (albumId title : Text)
  | move (songId : Nat) (title target : Text)
deriving DecidableEq

/-- The songs with their addresses, and the requests under way. -/
structure Addresses where
  rows : List SongRow
  nextId : Nat
  pending : List Change
  /-- The songs that one of the requests has written. -/
  touched : List Nat
  /-- Whether a request has ended in a violation of the unique index. -/
  violated : Bool
deriving DecidableEq

def titleMaxLength : Nat := 200

/-- The title without blanks around it, of which something must be left, but not too much. -/
def storedSongTitle (title : Text) : Option Text :=
  if strip title = [] ∨ titleMaxLength < (strip title).length then none else some (strip title)

/-- The candidates of `_first_free_slug`. -/
def candidate (baseSlug : Text) (counter : Nat) : Text :=
  if counter ≤ 1 then baseSlug else baseSlug ++ '-' :: counter.repr.toList

/-- Another song of the album has the slug. -/
def isTaken (rows : List SongRow) (albumId : Text) (excludeSongId : Option Nat) (slug : Text) :
    Bool :=
  rows.any fun row => row.albumId = albumId && row.slug = slug && some row.id ≠ excludeSongId

/-- `unique_song_slug` under the lock. The loop has no bound of its own; it ends
within as many rounds as there are songs. -/
def uniqueSongSlug (slugify : Text → Text) (rows : List SongRow) (albumId title : Text)
    (excludeSongId : Option Nat) : Option Text :=
  firstFree (isTaken rows albumId excludeSongId) (candidate (slugify title)) (rows.length + 1) 1

/-- The row in place of the one with its id, or as a new one. -/
def put (rows : List SongRow) (row : SongRow) : List SongRow :=
  if rows.any fun other => other.id = row.id then
    rows.map fun other => if other.id = row.id then row else other
  else rows ++ [row]

/-- Whether `ix_songs_album_id_slug` refuses the row. -/
def clashes (rows : List SongRow) (row : SongRow) : Bool :=
  rows.any fun other => other.id ≠ row.id && other.albumId = row.albumId && other.slug = row.slug

namespace Addresses

def liveRow (s : Addresses) (songId : Nat) : Option SongRow :=
  s.rows.find? fun row => row.id = songId && !row.deleted

/-- The flush of a row and the commit. -/
def write (s : Addresses) (row : SongRow) : Addresses :=
  if clashes s.rows row then { s with violated := true }
  else { s with rows := put s.rows row, touched := s.touched ++ [row.id] }

/-- What a request does from the lock to its commit. -/
def apply (slugify : Text → Text) (s : Addresses) : Change → Option Addresses
  | .create albumId title =>
      (uniqueSongSlug slugify s.rows albumId title none).map fun slug =>
        { s with nextId := s.nextId + 1 }.write ⟨s.nextId, albumId, title, slug, false⟩
  | .rename songId albumId title =>
      (uniqueSongSlug slugify s.rows albumId title (some songId)).map fun slug =>
        match s.liveRow songId with
        | some row => s.write { row with title := title, slug := slug }
        | none => s
  | .move songId title target =>
      (uniqueSongSlug slugify s.rows target title (some songId)).map fun slug =>
        match s.liveRow songId with
        | some row =>
            if row.albumId = target then s else s.write { row with albumId := target, slug := slug }
        | none => s

end Addresses

/-- A request arrives, reads, commits or is refused. -/
inductive SlugAct where
  | createArrives (albumId title : Text)
  | renameArrives (songId : Nat) (title : Text)
  | moveArrives (songId : Nat) (target : Text)
  | commits (i : Nat)
  /-- The request fails for another reason. -/
  | refused (i : Nat)
deriving DecidableEq

def act (slugify : Text → Text) (s : Addresses) : SlugAct → Option Addresses
  | .createArrives albumId title =>
      (storedSongTitle title).map fun stored =>
        { s with pending := s.pending ++ [.create albumId stored] }
  | .renameArrives songId title =>
      (s.liveRow songId).bind fun row => (storedSongTitle title).map fun stored =>
        { s with pending := s.pending ++ [.rename songId row.albumId stored] }
  | .moveArrives songId target =>
      (s.liveRow songId).map fun row =>
        { s with pending := s.pending ++ [.move songId row.title target] }
  | .commits i =>
      s.pending[i]?.bind fun change =>
        { s with pending := s.pending.eraseIdx i }.apply slugify change
  | .refused i =>
      s.pending[i]?.map fun _ => { s with pending := s.pending.eraseIdx i }

/-- A library that the unique index has let stand, with no request under way. -/
structure Resting (s : Addresses) : Prop where
  unique : ∀ row ∈ s.rows, ∀ other ∈ s.rows, row.id ≠ other.id → row.albumId = other.albumId →
    row.slug ≠ other.slug
  ids : ∀ row ∈ s.rows, row.id < s.nextId
  pending : s.pending = []
  touched : s.touched = []
  violated : s.violated = false

/-- Songs without a request, and the steps of the requests. -/
def addresses (slugify : Text → Text) : TransitionSystem Addresses SlugAct :=
  .ofAct Resting (act slugify)

end Songmaker.Songs.SongSlugs
