import Specimen.Regenerate

/-!
# The command line

The command regenerates the companion file on the real disk. What `Regenerate.run` needs of the
disk is looked at first, the command runs on that picture, and what it changed in the picture is
carried over. Without other settings the companion file stands in the folder `res` beside the
program; the settings file is looked for two folders further up.
-/

namespace Specimen.CommandLine

/-- The pieces of octets that end in a null octet. -/
def nullTerminated (bs : Octets) : List Octets :=
  let rec go (piece : Octets) : Octets → List Octets
    | [] => []
    | b :: bs => if b = 0 then piece.reverse :: go [] bs else go (b :: piece) bs
  go [] bs

/-- A text in UTF-8, or else one character for each octet. -/
def textOf (bs : Octets) : String :=
  match Text.Utf8.decode bs with
  | .ok cs => String.ofList cs
  | .error _ => Octets.toLatin bs

/-- The variables in an environment block, where each entry is a name, an equals sign and a
value. -/
def environmentOf (block : Octets) : Environment :=
  (nullTerminated block).filterMap fun entry =>
    match entry.dropWhile (· != 0x3D) with
    | [] => none
    | _ :: value => some (textOf (entry.takeWhile (· != 0x3D)), textOf value)

/-- The locations on the way to a path. -/
def wayTo (d : Disk) (p : Path) : List Location :=
  let names := p.parts.foldl
    (fun loc n => if n = ".." then loc.dropLast else loc ++ [n]) (d.start p)
  (List.range names.length).map fun i => names.take (i + 1)

/-- The path of a location. -/
def pathOf (loc : Location) : String :=
  "/" ++ "/".intercalate loc

/-- The octets of a byte array. -/
def octetsOf (bytes : ByteArray) : Octets :=
  bytes.data.toList

/-- Adds what stands at a location of the real disk to a picture of it. -/
def observe (d : Disk) (loc : Location) : IO Disk := do
  if (d.entryAt? loc).isSome then return d
  let path := (← IO.currentDir) / pathOf loc
  if ← path.isDir then return d.insert loc .folder
  if ← path.pathExists then return d.newFile loc (octetsOf (← IO.FS.readBinFile path))
  return d

/-- Adds all that stands on the way to a path. -/
def observeWay (d : Disk) (p : Path) : IO Disk :=
  (wayTo d p).foldlM observe d

/-- Carries over to the real disk what is new or different in a picture of it. -/
def carryOver (before after : Disk) : IO Unit := do
  for (loc, e) in after.entries.reverse do
    match e with
    | .folder =>
      if (before.entryAt? loc).isNone then IO.FS.createDirAll (pathOf loc)
    | .file n =>
      if before.entryAt? loc ≠ some e ∨ before.content n ≠ after.content n then
        IO.FS.writeBinFile (pathOf loc) ⟨(after.content n).toArray⟩
    | _ => pure ()

/-- How many missing folders the command can go up through before there is no room for calls. -/
def ascents : Nat := 990

/-- The world as far as the settings depend on it, with the folders they choose. -/
def world : IO World := do
  let home := (Path.ofText (← IO.currentDir).toString).parts
  let program := Path.ofText (← IO.appDir).toString
  let folder := program.join (Path.ofText "res")
  let file := program.parent.parent.join (Path.ofText ".env")
  let environment := environmentOf (octetsOf (← IO.FS.readBinFile "/proc/self/environ"))
  let disk : Disk := ⟨home, [], []⟩
  let disk ← observeWay disk file
  let disk ← match Settings.load disk file folder environment [] with
    | .ok s => observeWay disk s.certificatePath
    | .error _ => pure disk
  return { disk, environment, settingsFile := file, resourceFolder := folder, ascents }

/-- Runs the command and gives its status. -/
def run : IO UInt32 := do
  let before ← world
  let (result, after) := (Regenerate.run 0).on before
  carryOver before.disk after.disk
  for line in after.console.lines do
    IO.println line
  match result with
  | .ok outcome =>
    if let some complaint := outcome.complaint then
      IO.eprintln complaint
    return (outcome.status.getD 0).toUInt32
  | .error fault =>
    IO.eprintln fault.message
    return 1

end Specimen.CommandLine

/-- Regenerates the companion file. -/
def main : IO UInt32 := do
  try Specimen.CommandLine.run
  catch e =>
    IO.eprintln (toString e)
    return 1
