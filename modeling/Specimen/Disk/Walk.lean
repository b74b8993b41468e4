import Specimen.Disk

/-!
# Walking a path

A path is walked name by name from its start. A point stays where it is, two points lead to the
folder above, and a link leads to its target, from the folder that holds the link; at most forty
links are followed. A name has at most 255 octets, a path at most 4095.

* `walk_nil` — a walk without names ends where it starts.
* `locate` — where a path leads.
-/

namespace Specimen.Disk

/-- Where a walk ends. -/
inductive Spot where
  /-- At an entry. -/
  | taken (loc : Location) (entry : Entry)
  /-- At a location in a folder that has no entry yet; a slash after its name asks for a
  folder. -/
  | vacant (loc : Location) (slash : Bool)
  deriving DecidableEq, Repr

/-- What a path is walked for. -/
inductive Purpose where
  /-- To look at what it leads to. -/
  | look
  /-- To change the entry itself, which may be a link. -/
  | change
  /-- To write a file; a slash after the last name is refused then. -/
  | write
  deriving DecidableEq, Repr

/-- How many links are followed on one walk. -/
def maxLinks : Nat := 40

/-- How many octets a name may have. -/
def maxName : Nat := 255

/-- How many octets a path may have. -/
def maxPath : Nat := 4095

/-- The octets of a name or a path. -/
def octetCount (s : String) : Nat :=
  (Text.Utf8.encode s.toList).length

/-- Where the target of a link starts if the link stands in `folder`. -/
def linkStart (folder : Location) (target : String) : Location :=
  if Path.anchorOf target.toList = .here then folder else []

/-- The names in the target of a link. An empty one at the end stands for a slash there. -/
def linkNames (target : String) : List String :=
  (Path.pieces target.toList).map String.ofList

/-- Walks from the folder `loc`; `jump` continues the walk after a link. -/
def walkFrom (jump : Location → List String → Except DiskCause Spot) (d : Disk)
    (purpose : Purpose) : Location → List String → Except DiskCause Spot
  | loc, [] => .ok (.taken loc .folder)
  | loc, n :: ns =>
    if n = "" ∨ n = "." then walkFrom jump d purpose loc ns
    else if n = ".." then walkFrom jump d purpose loc.dropLast ns
    else if purpose = .write ∧ !ns.isEmpty ∧ ns.all (· = "") then .error .isFolder
    else if maxName < octetCount n then .error .nameTooLong
    else
      match d.entryAt? (loc ++ [n]) with
      | none =>
        if ns.all (· = "") then .ok (.vacant (loc ++ [n]) (!ns.isEmpty)) else .error .notFound
      | some .folder => walkFrom jump d purpose (loc ++ [n]) ns
      | some (.link target) =>
        if ns.isEmpty ∧ purpose = .change then .ok (.taken (loc ++ [n]) (.link target))
        else jump (linkStart loc target) (linkNames target ++ ns)
      | some e => if ns.isEmpty then .ok (.taken (loc ++ [n]) e) else .error .notFolder

/-- Walks from a folder with so many links to follow. -/
def walk (d : Disk) (purpose : Purpose) : Nat → Location → List String → Except DiskCause Spot
  | 0 => walkFrom (fun _ _ => .error .tooManyLinks) d purpose
  | links + 1 => walkFrom (walk d purpose links) d purpose

/-- Where a path starts. -/
def start (d : Disk) (p : Path) : Location :=
  if p.anchor = .here then d.home else []

/-- Where a path leads; the cause, if nowhere. -/
def spot (d : Disk) (purpose : Purpose) (p : Path) : Except DiskCause Spot :=
  if maxPath < octetCount p.text then .error .nameTooLong
  else walk d purpose maxLinks (d.start p) p.parts

/-- Whether a path has a null character. -/
def hasNull (s : String) : Bool :=
  s.toList.contains '\x00'

/-- Where a path leads. -/
def locate (d : Disk) (purpose : Purpose) (p : Path) : Except DiskFlaw Spot :=
  if hasNull p.text then .error .nullInPath
  else
    match d.spot purpose p with
    | .ok s => .ok s
    | .error cause => .error (.refused cause p.text)

theorem walk_nil (d : Disk) (purpose : Purpose) (links : Nat) (loc : Location) :
    d.walk purpose links loc [] = .ok (.taken loc .folder) := by
  cases links <;> rfl

end Specimen.Disk
