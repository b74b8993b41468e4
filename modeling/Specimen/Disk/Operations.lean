import Specimen.Disk.Walk

/-!
# Operations on a disk

Asking what a path leads to, reading and writing files, making folders and links, and taking
entries away. An operation gives the disk after it, also when it fails: folders made on the way to
a failure stay.

* `writeFile_sink` — writing to a sink changes nothing.
* `tree` — everything below the folder in which relative paths start.
-/

namespace Specimen.Disk

/-! ## Questions -/

/-- The entry a path leads to; nothing if it leads nowhere. A name that is too long is refused all
the same. -/
def status (d : Disk) (p : Path) : Except DiskFlaw (Option Entry) :=
  match d.locate .look p with
  | .ok (.taken _ e) => .ok (some e)
  | .ok (.vacant _ _) => .ok none
  | .error (.refused .nameTooLong path) => .error (.refused .nameTooLong path)
  | .error _ => .ok none

/-- Whether a path leads to a file. -/
def isFile (d : Disk) (p : Path) : Except DiskFlaw Bool :=
  (d.status p).map fun e => match e with
    | some (.file _) => true
    | _ => false

/-- Whether a path leads to a folder. -/
def isFolder (d : Disk) (p : Path) : Except DiskFlaw Bool :=
  (d.status p).map (· == some .folder)

/-! ## Files -/

/-- The number of the file that a path leads to; nothing if it leads to a sink. -/
def openFile (d : Disk) (p : Path) : Except DiskFlaw (Option Nat) :=
  match d.locate .look p with
  | .ok (.taken _ (.file n)) => .ok (some n)
  | .ok (.taken _ .folder) => .error (.refused .isFolder p.text)
  | .ok (.taken _ _) => .ok none
  | .ok (.vacant _ _) => .error (.refused .notFound p.text)
  | .error e => .error e

/-- What stands in a file that has been opened. -/
def contentOf (d : Disk) : Option Nat → Octets
  | some n => d.content n
  | none => []

/-- What stands in the file that a path leads to. -/
def readFile (d : Disk) (p : Path) : Except DiskFlaw Octets :=
  (d.openFile p).map d.contentOf

/-- Replaces the content of the file that a path leads to, or makes a new file. -/
def writeFile (d : Disk) (p : Path) (bs : Octets) : Except DiskFlaw Disk :=
  match d.locate .write p with
  | .ok (.taken _ (.file n)) => .ok (d.setContent n bs)
  | .ok (.taken _ .folder) => .error (.refused .isFolder p.text)
  | .ok (.taken _ _) => .ok d
  | .ok (.vacant loc _) => .ok (d.newFile loc bs)
  | .error e => .error e

/-! ## Folders, links, removal -/

/-- Makes a folder where there is nothing. -/
def makeFolder (d : Disk) (p : Path) : Except DiskFlaw Disk :=
  match d.locate .change p with
  | .ok (.taken _ _) => .error (.refused .exists p.text)
  | .ok (.vacant loc _) => .ok (d.insert loc .folder)
  | .error e => .error e

/-- What comes of a folder that could not be made: nothing is wrong if it is there. Only a refusal
is looked into. -/
def settle (d : Disk) (p : Path) (e : DiskFlaw) : Disk × Except DiskFlaw Unit :=
  if e.isRefusal then
    match d.isFolder p with
    | .ok true => (d, .ok ())
    | .ok false => (d, .error e)
    | .error e => (d, .error e)
  else (d, .error e)

/-- Makes a folder and all folders above it that are missing. A folder that is there is left as it
is. The folder above is made by a call within the call for the one below, and there is room for
`ascents` of them. -/
def makeFolders (d : Disk) : Nat → Path → Disk × Except DiskFlaw Unit
  | ascents, p =>
    match d.makeFolder p with
    | .ok d => (d, .ok ())
    | .error (.refused .notFound path) =>
      if p.parent = p then (d, .error (.refused .notFound path))
      else
        match ascents with
        | 0 => (d, .error .tooDeep)
        | ascents + 1 =>
          match makeFolders d ascents p.parent with
          | (d, .error e) => (d, .error e)
          | (d, .ok ()) =>
            match d.makeFolder p with
            | .ok d => (d, .ok ())
            | .error (.refused .notFound path) => (d, .error (.refused .notFound path))
            | .error e => settle d p e
    | .error e => settle d p e

/-- Makes a link. -/
def makeLink (d : Disk) (target : String) (p : Path) : Except DiskFlaw Disk :=
  if hasNull target || hasNull p.text then .error .nullInPath
  else if target = "" then .error (.linkRefused .notFound target p.text)
  else if maxPath < octetCount target then .error (.linkRefused .nameTooLong target p.text)
  else
    match d.spot .change p with
    | .ok (.taken _ _) => .error (.linkRefused .exists target p.text)
    | .ok (.vacant loc slash) =>
      if slash then .error (.linkRefused .notFound target p.text)
      else .ok (d.insert loc (.link target))
    | .error cause => .error (.linkRefused cause target p.text)

/-- Takes away a file or a link. -/
def remove (d : Disk) (p : Path) : Except DiskFlaw Disk :=
  match d.locate .change p with
  | .ok (.taken _ .folder) => .error (.refused .isFolder p.text)
  | .ok (.taken loc _) => .ok (d.erase loc)
  | .ok (.vacant _ _) => .error (.refused .notFound p.text)
  | .error e => .error e

/-! ## Listing -/

/-- Whether an entry at a location is a folder or a link that leads to one. -/
def leadsToFolder (d : Disk) (loc : Location) : Entry → Bool
  | .folder => true
  | .link _ =>
    match d.walk .look maxLinks [] loc with
    | .ok (.taken _ .folder) => true
    | _ => false
  | _ => false

/-- The line of an entry below the folder `home`. -/
def treeLine? (d : Disk) (p : Location × Entry) : Option (String × Bool) :=
  if d.home.isPrefixOf p.1 ∧ d.home.length < p.1.length then
    some ("/".intercalate (p.1.drop d.home.length), d.leadsToFolder p.1 p.2)
  else none

/-- All entries below the folder in which relative paths start, in ascending order, those that lead
to folders with a slash at the end. -/
def tree (d : Disk) : List String :=
  let lines := (d.entries.filterMap d.treeLine?).map fun (s, folder) =>
    if folder then s ++ "/" else s
  lines.mergeSort fun a b => !decide (b < a)

end Specimen.Disk
