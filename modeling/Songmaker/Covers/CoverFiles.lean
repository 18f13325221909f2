import Songmaker.Foundation.Directories
import Songmaker.Foundation.TransitionSystem

/-!
The cover of one album, song or playlist: its directories, its key in the
database, and the requests that upload and remove it, each as the steps it takes
on them.
-/

namespace Songmaker.Covers.CoverFiles

open Songmaker.Foundation

abbrev Op := Nat

/-- The formats that an upload is stored in as it came. -/
inductive CoverFormat where
  | jpeg
  | png
deriving DecidableEq

/-- A cover key is a fresh name with the extension of its format. -/
structure CoverKey where
  hex : Nat
  ext : CoverFormat
deriving DecidableEq

/-- The files of a cover: the original and the two derived sizes. -/
inductive CoverFile where
  | original (fmt : CoverFormat)
  | card
  | detail
deriving DecidableEq

/-- The directories of the entity. A staging directory has the fresh name of its
upload. -/
inductive CoverPath where
  | final
  | old
  | staging (op : Op)
deriving DecidableEq

abbrev CoverDisk := Disk CoverPath CoverFile Empty

/-- The directory at the path holds the file. -/
def holdsFile (disk : CoverDisk) (path : CoverPath) (file : CoverFile) : Bool :=
  match disk path with
  | some (.directory files) => file ∈ files
  | _ => false

/-- `_cover_file_exists`, of the original. -/
def coverFileExists (disk : CoverDisk) (coverKey : Option CoverKey) : Bool :=
  match coverKey with
  | none => false
  | some key => holdsFile disk .final (.original key.ext)

/-- Where `write_cover` and the route around it stand. -/
inductive UploadPoint where
  | restoreFinal
  | restoreOld
  | restore
  | makeStaging
  | save (file : CoverFile) (rest : List CoverFile)
  | swapFinal
  | leftoverFinal
  | leftoverOld
  | discardOld
  | moveAside
  | publish
  | dropOld
  | commit
  | cleanStaging
  | giveBackFinal
  | giveBackOld
  | giveBack
deriving DecidableEq

/-- `movedAside` records whether the upload has renamed the cover to `.old`; the
program keeps no such record. -/
structure Upload where
  key : CoverKey
  movedAside : Bool
  point : UploadPoint
deriving DecidableEq

/-- How far the removal of a cover has come. -/
inductive RemovalPoint where
  | unset
  | listing
  | remove (path : CoverPath) (rest : List CoverPath)
deriving DecidableEq

/-- What a request for an album's cover is doing. -/
inductive Operation where
  | upload (upload : Upload)
  | removal (point : RemovalPoint)
deriving DecidableEq

/-- The covers on disk, the key that the album row has, and the requests under way. -/
structure State where
  disk : CoverDisk
  coverKey : Option CoverKey
  running : Op → Option Operation

/-- How a step goes. A step may fail with nothing done, and the removal of a
directory may have got through some of its files. -/
inductive Fate where
  | done
  | failed
  | part (left : List CoverFile)
  | listed (stagings : List Op)
deriving DecidableEq

/-- A request begins, or goes one step further, which may fail or be cut off. -/
inductive Action where
  | upload (op : Op) (key : CoverKey)
  | removal (op : Op)
  | step (op : Op) (fate : Fate)
deriving DecidableEq

/-- The directory after some of its files are gone. -/
def partlyRemoved (disk : CoverDisk) (path : CoverPath) (left : List CoverFile) :
    Option CoverDisk :=
  match disk path with
  | some (.directory files) =>
      if left.Sublist files then some (disk.put path (some (.directory left))) else none
  | _ => none

namespace State

variable (s : State)

/-- The operation goes on, or is over. -/
def put (op : Op) (operation : Option Operation) (disk : CoverDisk) (coverKey : Option CoverKey) :
    State where
  disk := disk
  coverKey := coverKey
  running := Function.update s.running op operation

def at? (op : Op) (upload : Upload) (point : UploadPoint) (disk : CoverDisk) : Option State :=
  some (s.put op (some (.upload { upload with point := point })) disk s.coverKey)

/-- The request is over, with an error or without. -/
def leave (op : Op) (disk : CoverDisk) (coverKey : Option CoverKey) : Option State :=
  some (s.put op none disk coverKey)

/-- The next file of the cover is written into the staging directory. -/
def saveVariants (op : Op) (upload : Upload) (file : CoverFile) (rest : List CoverFile) :
    Option State :=
  match s.disk (.staging op) with
  | some (.directory files) =>
      s.at? op upload
        (match rest with | [] => .swapFinal | next :: others => .save next others)
        (s.disk.put (.staging op) (some (.directory (files ++ [file]))))
  | _ => s.at? op upload .cleanStaging s.disk

/-- `shutil.rmtree`, after which the upload stands at one of two points. -/
def rmtree (op : Op) (upload : Upload) (path : CoverPath) (done failed : UploadPoint) :
    Fate → Option State
  | .done => s.at? op upload done ((Disk.rmtree path).run s.disk).2
  | .failed => s.at? op upload failed s.disk
  | .part left => (partlyRemoved s.disk path left).bind (s.at? op upload upload.point)
  | .listed _ => none

/-- One step of `write_cover` or of the commit after it. -/
def stepUpload (op : Op) (upload : Upload) (fate : Fate) : Option State :=
  match upload.point, fate with
  | .restoreFinal, .done =>
      s.at? op upload (if (s.disk .final).isSome then .makeStaging else .restoreOld) s.disk
  | .restoreFinal, .failed => s.leave op s.disk s.coverKey
  | .restoreOld, .done =>
      s.at? op upload (if (s.disk .old).isSome then .restore else .makeStaging) s.disk
  | .restoreOld, .failed => s.leave op s.disk s.coverKey
  | .restore, .done =>
      match (Disk.rename .old .final).run s.disk with
      | (true, disk) => s.at? op upload .makeStaging disk
      | (false, _) => s.leave op s.disk s.coverKey
  | .restore, .failed => s.leave op s.disk s.coverKey
  | .makeStaging, .done =>
      if (s.disk (.staging op)).isSome then s.leave op s.disk s.coverKey
      else s.at? op upload (.save (.original upload.key.ext) [.card, .detail])
        (s.disk.put (.staging op) (some (.directory [])))
  | .makeStaging, .failed => s.leave op s.disk s.coverKey
  | .save file rest, .done => s.saveVariants op upload file rest
  | .save _ _, .failed => s.at? op upload .cleanStaging s.disk
  | .swapFinal, .done =>
      s.at? op upload (if (s.disk .final).isSome then .leftoverFinal else .publish) s.disk
  | .swapFinal, .failed => s.at? op upload .cleanStaging s.disk
  | .leftoverFinal, .done =>
      s.at? op upload (if (s.disk .final).isSome then .leftoverOld else .moveAside) s.disk
  | .leftoverFinal, .failed => s.at? op upload .cleanStaging s.disk
  | .leftoverOld, .done =>
      s.at? op upload (if (s.disk .old).isSome then .discardOld else .moveAside) s.disk
  | .leftoverOld, .failed => s.at? op upload .cleanStaging s.disk
  | .discardOld, fate => s.rmtree op upload .old .moveAside .cleanStaging fate
  | .moveAside, .done =>
      match (Disk.rename .final .old).run s.disk with
      | (true, disk) => s.at? op { upload with movedAside := true } .publish disk
      | (false, _) => s.at? op upload .cleanStaging s.disk
  | .moveAside, .failed => s.at? op upload .cleanStaging s.disk
  | .publish, .done =>
      match (Disk.rename (.staging op) .final).run s.disk with
      | (true, disk) => s.at? op upload .dropOld disk
      | (false, _) => s.at? op upload .cleanStaging s.disk
  | .publish, .failed => s.at? op upload .cleanStaging s.disk
  | .dropOld, fate => s.rmtree op upload .old .commit .commit fate
  | .commit, .done => s.leave op s.disk (some upload.key)
  | .commit, .failed => s.leave op s.disk s.coverKey
  | .cleanStaging, fate =>
      s.rmtree op upload (.staging op) .giveBackFinal .giveBackFinal fate
  | .giveBackFinal, .done =>
      if (s.disk .final).isSome then s.leave op s.disk s.coverKey
      else s.at? op upload .giveBackOld s.disk
  | .giveBackFinal, .failed => s.leave op s.disk s.coverKey
  | .giveBackOld, .done =>
      if (s.disk .old).isSome then s.at? op upload .giveBack s.disk
      else s.leave op s.disk s.coverKey
  | .giveBackOld, .failed => s.leave op s.disk s.coverKey
  | .giveBack, .done => s.leave op ((Disk.rename .old .final).run s.disk).2 s.coverKey
  | .giveBack, .failed => s.leave op s.disk s.coverKey
  | _, _ => none

def removalAt (op : Op) (point : RemovalPoint) (disk : CoverDisk) (coverKey : Option CoverKey) :
    Option State :=
  some (s.put op (some (.removal point)) disk coverKey)

/-- One step of a delete route and of `remove_cover_files`. -/
def stepRemoval (op : Op) : RemovalPoint → Fate → Option State
  | .unset, .done => s.removalAt op .listing s.disk none
  | .unset, .failed => s.leave op s.disk s.coverKey
  | .listing, .listed stagings =>
      if ∀ staging ∈ stagings, (s.disk (.staging staging)).isSome then
        s.removalAt op (.remove .final (.old :: stagings.map .staging)) s.disk s.coverKey
      else none
  | .listing, .failed => s.leave op s.disk s.coverKey
  | .remove path [], .done => s.leave op ((Disk.rmtree path).run s.disk).2 s.coverKey
  | .remove path (next :: rest), .done =>
      s.removalAt op (.remove next rest) ((Disk.rmtree path).run s.disk).2 s.coverKey
  | .remove _ _, .failed => s.leave op s.disk s.coverKey
  | .remove path rest, .part left =>
      (partlyRemoved s.disk path left).bind fun disk =>
        s.removalAt op (.remove path rest) disk s.coverKey
  | _, _ => none

/-- What a step does; `none` where it cannot be taken. -/
def act : Action → Option State
  | .upload op key =>
      if s.running op = none then
        some (s.put op (some (.upload ⟨key, false, .restoreFinal⟩)) s.disk s.coverKey)
      else none
  | .removal op =>
      if s.running op = none then s.removalAt op .unset s.disk s.coverKey else none
  | .step op fate =>
      match s.running op with
      | none => none
      | some (.upload upload) => s.stepUpload op upload fate
      | some (.removal point) => s.stepRemoval op point fate

/-- No operation is running. -/
def Quiet : Prop :=
  ∀ op, s.running op = none

/-- The cover that the database names can be served. -/
def CoverServed : Prop :=
  s.coverKey ≠ none → coverFileExists s.disk s.coverKey = true

end State

/-- The runs that start with no operation running and a cover that can be served. -/
def coverSystem : TransitionSystem State Action :=
  TransitionSystem.ofAct (fun s => s.Quiet ∧ s.CoverServed) State.act

end Songmaker.Covers.CoverFiles
