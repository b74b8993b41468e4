import Specimen.Octets
import Specimen.Path
import Specimen.Text.Quoted
import Specimen.Text.Utf8

/-!
# Disks

A disk keeps an entry for each location: a folder, a file, a link to some other path, or a sink,
which swallows what is written to it and reads as nothing. The content of a file is kept apart
under the number of the file, so that a file that has been opened can be read even when its entry
is gone.

* `entryAt?_root` — the root is a folder.
* `content_setContent` — what is written to a file is its content.
-/

namespace Specimen

/-- A place on a disk: the names on the way from the root. -/
abbrev Location := List String

/-- What stands at a location. -/
inductive Entry where
  | folder
  | file (number : Nat)
  | link (target : String)
  | sink
  deriving DecidableEq, Repr

/-- A disk with the folder in which relative paths start. -/
structure Disk where
  home : Location
  entries : List (Location × Entry)
  /-- The contents of the files, each at the number of its file. -/
  contents : List Octets

/-- Why the disk refuses something. -/
inductive DiskCause where
  | notFound
  | noDevice
  | exists
  | notFolder
  | isFolder
  | invalid
  | nameTooLong
  | tooManyLinks
  deriving DecidableEq, Repr

namespace DiskCause

/-- The number of a cause. -/
def number : DiskCause → Nat
  | .notFound => 2
  | .noDevice => 6
  | .exists => 17
  | .notFolder => 20
  | .isFolder => 21
  | .invalid => 22
  | .nameTooLong => 36
  | .tooManyLinks => 40

/-- The description of a cause. -/
def description : DiskCause → String
  | .notFound => "No such file or directory"
  | .noDevice => "No such device or address"
  | .exists => "File exists"
  | .notFolder => "Not a directory"
  | .isFolder => "Is a directory"
  | .invalid => "Invalid argument"
  | .nameTooLong => "File name too long"
  | .tooManyLinks => "Too many levels of symbolic links"

/-- The number and the description of a cause. -/
def message (c : DiskCause) : String :=
  "[Errno " ++ toString c.number ++ "] " ++ c.description

end DiskCause

/-- Why an operation on a disk failed. -/
inductive DiskFlaw where
  /-- The disk refuses the path. -/
  | refused (cause : DiskCause) (path : String)
  /-- The disk refuses to make a link. -/
  | linkRefused (cause : DiskCause) (target path : String)
  /-- The path has a null character, which no name has. -/
  | nullInPath
  /-- There is no room for the calls that it takes to go up to a folder that is there. -/
  | tooDeep
  deriving DecidableEq, Repr

/-- Whether the disk itself refused, and not the form of a path or the depth of the calls. -/
def DiskFlaw.isRefusal : DiskFlaw → Bool
  | .refused _ _ | .linkRefused _ _ _ => true
  | .nullInPath | .tooDeep => false

/-- The wording of a flaw. -/
def DiskFlaw.message : DiskFlaw → String
  | .refused cause path => cause.message ++ ": " ++ Text.quoted path
  | .linkRefused cause target path =>
    cause.message ++ ": " ++ Text.quoted target ++ " -> " ++ Text.quoted path
  | .nullInPath => "embedded null byte"
  | .tooDeep => "maximum recursion depth exceeded while calling a Python object"

namespace Disk

/-- The entry at a location. -/
def entryAt? (d : Disk) (loc : Location) : Option Entry :=
  if loc = [] then some .folder else d.entries.lookup loc

/-- Puts an entry where there is none. -/
def insert (d : Disk) (loc : Location) (e : Entry) : Disk :=
  { d with entries := (loc, e) :: d.entries }

/-- Takes an entry away. -/
def erase (d : Disk) (loc : Location) : Disk :=
  { d with entries := d.entries.filter fun p => p.1 != loc }

/-- The content of a file. -/
def content (d : Disk) (number : Nat) : Octets :=
  d.contents[number]?.getD []

/-- Replaces the content of a file. -/
def setContent (d : Disk) (number : Nat) (bs : Octets) : Disk :=
  { d with contents := d.contents.set number bs }

/-- Makes a new file. -/
def newFile (d : Disk) (loc : Location) (bs : Octets) : Disk :=
  { d.insert loc (.file d.contents.length) with contents := d.contents ++ [bs] }

@[simp]
theorem entryAt?_root (d : Disk) : d.entryAt? [] = some .folder := by
  simp [entryAt?]

/-- What is written to a file is its content. -/
theorem content_setContent {d : Disk} {n : Nat} (h : n < d.contents.length) (bs : Octets) :
    (d.setContent n bs).content n = bs := by
  simp [content, setContent, h]

/-- A new file has the content it was made with. -/
theorem content_newFile (d : Disk) (loc : Location) (bs : Octets) :
    (d.newFile loc bs).content d.contents.length = bs := by
  simp [content, newFile]

end Disk

end Specimen
