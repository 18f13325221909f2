import Songmaker.Foundation.TransitionSystem

/-!
Soft deletion of albums and songs, their restore, and the purge of what has been deleted
for too long. A song is linked to the deletion of its album by the time alone. Times and
durations are in microseconds.
-/

namespace Songmaker.Library.SoftDelete

open Songmaker.Foundation

structure Album where
  deletedAt : Option Int
deriving DecidableEq

structure Song where
  albumId : String
  deletedAt : Option Int
deriving DecidableEq

/-- The albums and songs of the database, the purged ones left out. -/
structure Shelf where
  albums : String → Option Album
  songs : String → Option Song

/-- How a restore is refused. -/
inductive Failure where
  | valueError (text : String)
  | restoreWindowExpired (text : String)
deriving DecidableEq

def day : Int := 86400000000

/-- The restore window of `final_deletion_days`. -/
def window (finalDeletionDays : Nat) : Int :=
  finalDeletionDays * day

/-- The refusal of a restore that comes too late. -/
def expiredText (kind id : String) (finalDeletionDays : Nat) (age : Int) : String :=
  kind ++ " " ++ id ++ " was deleted " ++ toString (age.fdiv day) ++ " days ago, past the " ++
    toString finalDeletionDays ++ "-day restore window"

namespace Shelf

/-- The album; a deleted one counts only where it is asked for. -/
def getAlbum (s : Shelf) (albumId : String) (includeDeletedRows : Bool) : Option Album :=
  (s.albums albumId).filter fun album => includeDeletedRows || album.deletedAt.isNone

def mapSongs (s : Shelf) (change : Song → Song) : Shelf :=
  { s with songs := fun id => (s.songs id).map change }

def setAlbum (s : Shelf) (albumId : String) (album : Album) : Shelf :=
  { s with albums := Function.update s.albums albumId (some album) }

def setSong (s : Shelf) (songId : String) (song : Song) : Shelf :=
  { s with songs := Function.update s.songs songId (some song) }

/-- What an album's deletion does to a song. -/
def cascadeDelete (albumId : String) (now : Int) (song : Song) : Song :=
  if song.albumId = albumId ∧ song.deletedAt = none then { song with deletedAt := some now }
  else song

/-- The album is marked deleted, and with it its live songs, at one time. -/
def softDeleteAlbum (s : Shelf) (now : Int) (albumId : String) : Except Failure Shelf :=
  match s.getAlbum albumId false with
  | none => .error (.valueError ("Album not found: " ++ albumId))
  | some album =>
      .ok ((s.setAlbum albumId { album with deletedAt := some now }).mapSongs
        (cascadeDelete albumId now))

/-- What an album's restore does to a song. -/
def cascadeRestore (albumId : String) (deletedAt : Int) (song : Song) : Song :=
  if song.albumId = albumId ∧ song.deletedAt = some deletedAt then { song with deletedAt := none }
  else song

/-- The album is live again, and with it the songs that were deleted at its time. -/
def restoreAlbum (s : Shelf) (finalDeletionDays : Nat) (now : Int) (albumId : String) :
    Except Failure Shelf :=
  match s.getAlbum albumId true with
  | none => .error (.valueError ("Album not found: " ++ albumId))
  | some album =>
      match album.deletedAt with
      | none => .ok s
      | some deletedAt =>
          if window finalDeletionDays < now - deletedAt then
            .error (.restoreWindowExpired
              (expiredText "Album" albumId finalDeletionDays (now - deletedAt)))
          else
            .ok ((s.setAlbum albumId { album with deletedAt := none }).mapSongs
              (cascadeRestore albumId deletedAt))

/-- The song is marked deleted. -/
def softDeleteSong (s : Shelf) (now : Int) (songId : String) : Except Failure Shelf :=
  match (s.songs songId).filter fun song => song.deletedAt.isNone with
  | none => .error (.valueError ("Song not found: " ++ songId))
  | some song => .ok (s.setSong songId { song with deletedAt := some now })

/-- The song is live again, within the window. -/
def restoreSong (s : Shelf) (finalDeletionDays : Nat) (now : Int) (songId : String) :
    Except Failure Shelf :=
  match s.songs songId with
  | none => .error (.valueError ("Song not found: " ++ songId))
  | some song =>
      match song.deletedAt with
      | none => .ok s
      | some deletedAt =>
          if window finalDeletionDays < now - deletedAt then
            .error (.restoreWindowExpired
              (expiredText "Song" songId finalDeletionDays (now - deletedAt)))
          else
            match s.getAlbum song.albumId false with
            | none =>
                .error (.valueError ("Cannot restore song " ++ songId ++
                  ": parent album is deleted"))
            | some _ => .ok (s.setSong songId { song with deletedAt := none })

/-- Whether `list_expired_albums` lists the album. -/
def isExpiredAlbum (s : Shelf) (cutoff : Int) (albumId : String) : Bool :=
  (s.albums albumId).any fun album => album.deletedAt.any fun deletedAt => deletedAt < cutoff

/-- Whether the purge deletes the song, with its album or on its own. -/
def isPurgedSong (s : Shelf) (cutoff : Int) (song : Song) : Bool :=
  s.isExpiredAlbum cutoff song.albumId || song.deletedAt.any fun deletedAt => deletedAt < cutoff

/-- What was deleted before the window is removed for good. -/
def purgeExpired (s : Shelf) (finalDeletionDays : Nat) (now : Int) : Shelf where
  albums albumId :=
    if s.isExpiredAlbum (now - window finalDeletionDays) albumId then none else s.albums albumId
  songs songId :=
    (s.songs songId).filter fun song => !s.isPurgedSong (now - window finalDeletionDays) song

end Shelf

/-- The operations that mark, unmark and purge rows. -/
inductive Action where
  | deleteAlbum (now : Int) (albumId : String)
  | restoreAlbum (now : Int) (albumId : String)
  | deleteSong (now : Int) (songId : String)
  | restoreSong (now : Int) (songId : String)
  | purge (now : Int)

/-- The shelf, and the songs that the last deletion of each album took with it. -/
structure Catalogue where
  shelf : Shelf
  cascade : String → String → Bool

namespace Catalogue

/-- The songs that the deletion of an album takes with it. -/
def takenBy (s : Shelf) (albumId songId : String) : Bool :=
  (s.songs songId).any fun song => song.albumId = albumId ∧ song.deletedAt = none

/-- A request that fails changes nothing. -/
def answer (s : Catalogue) (shelf : Except Failure Shelf) : Catalogue :=
  match shelf with
  | .error _ => s
  | .ok shelf => { s with shelf := shelf }

def act (finalDeletionDays : Nat) (s : Catalogue) : Action → Catalogue
  | .deleteAlbum now albumId =>
      match s.shelf.softDeleteAlbum now albumId with
      | .error _ => s
      | .ok shelf =>
          { shelf := shelf
            cascade := Function.update s.cascade albumId (takenBy s.shelf albumId) }
  | .restoreAlbum now albumId => s.answer (s.shelf.restoreAlbum finalDeletionDays now albumId)
  | .deleteSong now songId => s.answer (s.shelf.softDeleteSong now songId)
  | .restoreSong now songId => s.answer (s.shelf.restoreSong finalDeletionDays now songId)
  | .purge now => { s with shelf := s.shelf.purgeExpired finalDeletionDays now }

/-- Every album is live; songs may have been deleted. -/
def AllAlbumsLive (s : Catalogue) : Prop :=
  ∀ albumId album, s.shelf.albums albumId = some album → album.deletedAt = none

def system (finalDeletionDays : Nat) : TransitionSystem Catalogue Action :=
  TransitionSystem.ofAct AllAlbumsLive fun s a => some (s.act finalDeletionDays a)

/-- An album is not deleted at the very instant at which one of its songs was. -/
def AtOwnInstant (s : Catalogue) : Action → Prop
  | .deleteAlbum now albumId => ∀ songId song, s.shelf.songs songId = some song →
      song.albumId = albumId → song.deletedAt ≠ some now
  | _ => True

end Catalogue

end Songmaker.Library.SoftDelete
