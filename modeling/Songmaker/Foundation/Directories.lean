import Songmaker.Foundation.CrashPrograms

/-!
A file system of named paths, with the operations of `os` and `shutil` as atomic
steps. An operation that the system refuses changes nothing and returns `false`.
-/

namespace Songmaker.Foundation

/-- What may stand at a path. -/
inductive Entry (File Text : Type) where
  | directory (files : List File)
  | file (text : Text)
deriving DecidableEq

namespace Entry

variable {File Text : Type}

def isDirectory : Entry File Text → Bool
  | .directory _ => true
  | .file _ => false

def text? : Entry File Text → Option Text
  | .directory _ => none
  | .file text => some text

end Entry

/-- What each path holds. -/
abbrev Disk (Path File Text : Type) := Path → Option (Entry File Text)

namespace Disk

variable {Path File Text : Type}

def exists? (path : Path) : Atomic (Disk Path File Text) Bool :=
  .read fun disk => (disk path).isSome

def isDirectory (disk : Disk Path File Text) (path : Path) : Bool :=
  (disk path).any Entry.isDirectory

def isDir? (path : Path) : Atomic (Disk Path File Text) Bool :=
  .read fun disk => disk.isDirectory path

def readText (path : Path) : Atomic (Disk Path File Text) (Option Text) :=
  .read fun disk => (disk path).bind Entry.text?

/-- Whether `rename` may put an entry where another one is. -/
def replaceable : Entry File Text → Option (Entry File Text) → Bool
  | _, none => true
  | .directory _, some (.directory files) => files.isEmpty
  | .file _, some (.file _) => true
  | _, _ => false

variable [DecidableEq Path]

/-- The disk with another entry at the path. -/
def put (disk : Disk Path File Text) (path : Path) (entry : Option (Entry File Text)) :
    Disk Path File Text :=
  Function.update disk path entry

@[simp] theorem put_self (disk : Disk Path File Text) (path : Path)
    (entry : Option (Entry File Text)) : disk.put path entry path = entry := by
  rw [put, Function.update_self]

@[simp] theorem put_of_ne (disk : Disk Path File Text) {path other : Path} (hne : other ≠ path)
    (entry : Option (Entry File Text)) : disk.put path entry other = disk other := by
  rw [put, Function.update_of_ne hne]

/-- `os.rename` and `os.replace`. -/
def rename (source target : Path) : Atomic (Disk Path File Text) Bool :=
  .update fun disk =>
    match disk source with
    | none => (false, disk)
    | some entry =>
        if replaceable entry (disk target) then
          (true, (disk.put source none).put target (some entry))
        else (false, disk)

theorem rename_run_eq_true {source target : Path} {disk disk' : Disk Path File Text} :
    (rename source target).run disk = (true, disk') ↔ ∃ entry, disk source = some entry ∧
      replaceable entry (disk target) = true ∧
        disk' = (disk.put source none).put target (some entry) := by
  simp only [rename, Atomic.update]
  constructor
  · intro hrun
    split at hrun
    · simp at hrun
    · rename_i entry hentry
      split at hrun
      · rename_i hreplaceable
        exact ⟨entry, hentry, hreplaceable, (Prod.mk.inj hrun).2.symm⟩
      · simp at hrun
  · rintro ⟨entry, hentry, hreplaceable, rfl⟩
    simp [hentry, hreplaceable]

/-- `shutil.rmtree`. A process dying inside it leaves some of the files. -/
def rmtree (path : Path) : Atomic (Disk Path File Text) Bool where
  run disk :=
    if disk.isDirectory path then (true, disk.put path none) else (false, disk)
  torn disk disk' :=
    ∃ files left, disk path = some (.directory files) ∧ left.Sublist files ∧
      disk' = disk.put path (some (.directory left))

theorem rmtree_run_of_ne {path other : Path} (disk : Disk Path File Text) (hne : other ≠ path) :
    ((rmtree path).run disk).2 other = disk other := by
  simp only [rmtree]
  split
  · exact put_of_ne disk hne none
  · rfl

/-- `unlink(missing_ok=True)`. -/
def unlink (path : Path) : Atomic (Disk Path File Text) Bool :=
  .update fun disk => if disk.isDirectory path then (false, disk) else (true, disk.put path none)

/-- `write_text`. A process dying inside it may leave any text. -/
def writeText (path : Path) (text : Text) : Atomic (Disk Path File Text) Bool where
  run disk :=
    if disk.isDirectory path then (false, disk) else (true, disk.put path (some (.file text)))
  torn disk disk' := disk.isDirectory path = false ∧
    ∃ torn, disk' = disk.put path (some (.file torn))

end Disk

/-- How a removal turns out. One that fails leaves some of a directory's files. -/
inductive Removal (File : Type) where
  | works
  | fails (left : List File → List File) (hleft : ∀ files, (left files).Sublist files)

namespace Disk

variable {Path File Text : Type} [DecidableEq Path]

/-- `shutil.rmtree` under `except OSError`. -/
def tryRmtree (path : Path) : Removal File → Atomic (Disk Path File Text) Bool
  | .works => rmtree path
  | .fails left _ =>
      .update fun disk =>
        match disk path with
        | some (.directory files) => (false, disk.put path (some (.directory (left files))))
        | _ => (false, disk)

/-- `unlink` under `except OSError`. -/
def tryUnlink (path : Path) : Removal File → Atomic (Disk Path File Text) Bool
  | .works => unlink path
  | .fails _ _ => .update fun disk => (false, disk)

theorem tryRmtree_of_ne {path other : Path} (removal : Removal File)
    (disk : Disk Path File Text) (hne : other ≠ path) :
    ((tryRmtree path removal).run disk).2 other = disk other := by
  cases removal with
  | works => exact rmtree_run_of_ne disk hne
  | fails left hleft =>
      simp only [tryRmtree, Atomic.update]
      split
      · exact put_of_ne disk hne _
      · rfl

theorem tryRmtree_self {path : Path} (removal : Removal File) {disk : Disk Path File Text}
    (hdirectory : disk.isDirectory path = true) :
    (removal = .works ∧ ((tryRmtree path removal).run disk).2 path = none) ∨
      (removal ≠ .works ∧
        ∃ files, ((tryRmtree path removal).run disk).2 path = some (.directory files)) := by
  cases removal with
  | works =>
      left
      simp [tryRmtree, rmtree, hdirectory]
  | fails left hleft =>
      right
      refine ⟨by simp, ?_⟩
      simp only [isDirectory, Option.any_eq_true] at hdirectory
      obtain ⟨entry, hentry, hdirectory⟩ := hdirectory
      cases entry with
      | directory files => exact ⟨left files, by simp [tryRmtree, Atomic.update, hentry]⟩
      | file text => simp [Entry.isDirectory] at hdirectory

theorem tryUnlink_of_ne {path other : Path} (removal : Removal File)
    (disk : Disk Path File Text) (hne : other ≠ path) :
    ((tryUnlink path removal).run disk).2 other = disk other := by
  cases removal with
  | works =>
      simp only [tryUnlink, unlink, Atomic.update]
      split
      · rfl
      · exact put_of_ne disk hne none
  | fails left hleft => rfl

end Disk

end Songmaker.Foundation
