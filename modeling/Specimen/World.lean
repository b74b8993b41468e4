import Specimen.Companion
import Specimen.Console
import Specimen.Hex.Pieces
import Specimen.Settings
import Specimen.Stream

/-!
# The world around the library

What the library reads and changes: a disk, the environment and the console. `Run` is a computation
on the world that may end in a fault; what it did to the world before a fault stays done.

* `Run.on_bind` — a computation goes on in the world that its first part left, unless that ended
  in a fault.
* `Fault.message` — the wording of every fault.
-/

namespace Specimen

/-- The disk, the environment and the console, and what the program finds around itself. -/
structure World where
  disk : Disk
  environment : Environment := []
  console : Console := {}
  /-- Where the settings file is looked for. -/
  settingsFile : Path
  /-- The folder of the companion file when nothing else is set. -/
  resourceFolder : Path
  /-- The room for calls within calls: how far one can go up from a missing folder to make those
  above it. -/
  ascents : Nat

/-- What is wrong with a call on a provider or on the library. -/
inductive CallFlaw where
  /-- A path or a text was expected. -/
  | notPath (kind : Kind)
  /-- A folder is given in octets. -/
  | octetsPath
  /-- The name of a companion file can be no part of a path. -/
  | notJoinable (kind : Kind)
  /-- An encoding can be written only if it consists of octets. -/
  | notWritable (kind : Kind)
  /-- An encoding is of a kind without a hex form. -/
  | noHexForm (kind : Kind)
  /-- A function misses its last argument. -/
  | missingArgument (function : String) (argument : String)
  /-- A function takes fewer arguments. -/
  | extraArguments (function : String) (takes given : Nat)
  /-- A provider knows nothing of the name. -/
  | unknownMethod (name : String)
  /-- The library has no such function on the default provider. -/
  | unknownFunction (name : String)
  deriving DecidableEq, Repr

/-- The wording of a flaw. -/
def CallFlaw.message : CallFlaw → String
  | .notPath kind => "expected str, bytes or os.PathLike object, not " ++ kind.name
  | .octetsPath =>
    "argument should be a str object or an os.PathLike object returning str, not <class 'bytes'>"
  | .notJoinable kind =>
    "unsupported operand type(s) for /: 'PosixPath' and " ++ Text.quoted kind.name
  | .notWritable kind =>
    "memoryview: a bytes-like object is required, not " ++ Text.quoted kind.name
  | .noHexForm kind => Text.quoted kind.name ++ " object has no attribute 'hex'"
  | .missingArgument function argument =>
    function ++ "() missing 1 required positional argument: " ++ Text.quoted argument
  | .extraArguments function takes given =>
    function ++ "() takes " ++ toString takes ++ " positional argument" ++
      (if takes = 1 then "" else "s") ++ " but " ++ toString given ++
      (if given = 1 then " was given" else " were given")
  | .unknownMethod name =>
    "'CertificateFixtureProvider' object has no attribute '" ++ name ++ "'"
  | .unknownFunction name =>
    "module 'cert_fixtures.resources' has no attribute '" ++ name ++ "'"

/-- Why a computation ended. -/
inductive Fault where
  | hex (flaw : Hex.InputFlaw)
  | load (flaw : LoadFlaw)
  | fixture (flaw : FixtureFlaw)
  | companion (flaw : CompanionFlaw)
  | disk (flaw : DiskFlaw)
  | stream (flaw : StreamFlaw)
  | settings (flaw : SettingsFlaw)
  | threshold (flaw : ThresholdFlaw)
  | environment (flaw : VariableFlaw)
  | call (flaw : CallFlaw)
  /-- There is no provider or stream of this name. -/
  | nameless (name : String)

/-- The wording of a fault. -/
def Fault.message : Fault → String
  | .hex flaw => flaw.message
  | .load flaw => flaw.message
  | .fixture flaw => flaw.message
  | .companion flaw => flaw.message
  | .disk flaw => flaw.message
  | .stream flaw => flaw.message
  | .settings flaw => flaw.message
  | .threshold flaw => flaw.message
  | .environment flaw => flaw.message
  | .call flaw => flaw.message
  | .nameless name => name

/-- A computation on the world. -/
abbrev Run (α : Type) := ExceptT Fault (StateM World) α

namespace Run

/-- What a computation gives, and the world after it. -/
def on (r : Run α) (w : World) : Except Fault α × World :=
  StateT.run (ExceptT.run r) w

/-- A result that may be a flaw. -/
def ofExcept (fault : ε → Fault) : Except ε α → Run α
  | .ok a => pure a
  | .error e => throw (fault e)

/-- Changes the disk, unless it refuses. -/
def changeDisk (f : Disk → Except DiskFlaw Disk) : Run Unit := do
  let w ← get
  let d ← ofExcept .disk (f w.disk)
  set { w with disk := d }

/-- Makes a folder and those above it. Folders that were made on the way to a failure stay. -/
def makeFolders (p : Path) : Run Unit := do
  let w ← get
  let (d, r) := w.disk.makeFolders w.ascents p
  set { w with disk := d }
  ofExcept .disk r

/-- Notes an event. -/
def note (source : Source) (level : Level) (name : String) (details : List (String × Value)) :
    Run Unit :=
  modify fun w => { w with console := w.console.note source ⟨level, name, details⟩ }

/-! ### What computations do to a world -/

theorem on_bind (x : Run α) (f : α → Run β) (w : World) :
    (x >>= f).on w = match x.on w with
      | (.ok a, w') => (f a).on w'
      | (.error e, w') => (.error e, w') := by
  simp only [on, ExceptT.run_bind, StateT.run_bind]
  generalize StateT.run (ExceptT.run x) w = r
  obtain ⟨a | a, w'⟩ := r <;> rfl

theorem on_bind_ok {x : Run α} {f : α → Run β} {w w' : World} {a : α}
    (h : x.on w = (.ok a, w')) : (x >>= f).on w = (f a).on w' := by
  rw [on_bind, h]

theorem on_bind_error {x : Run α} {f : α → Run β} {w w' : World} {e : Fault}
    (h : x.on w = (.error e, w')) : (x >>= f).on w = (.error e, w') := by
  rw [on_bind, h]

@[simp]
theorem on_pure (a : α) (w : World) : (pure a : Run α).on w = (.ok a, w) := rfl

@[simp]
theorem on_throw (e : Fault) (w : World) : (throw e : Run α).on w = (.error e, w) := rfl

@[simp]
theorem on_get (w : World) : (get : Run World).on w = (.ok w, w) := rfl

@[simp]
theorem on_ofExcept_ok (fault : ε → Fault) (a : α) (w : World) :
    (ofExcept fault (.ok a)).on w = (.ok a, w) := rfl

@[simp]
theorem on_ofExcept_error (fault : ε → Fault) (e : ε) (w : World) :
    (ofExcept fault (.error e) : Run α).on w = (.error (fault e), w) := rfl

@[simp]
theorem on_note (source : Source) (level : Level) (name : String)
    (details : List (String × Value)) (w : World) :
    (note source level name details).on w =
      (.ok (), { w with console := w.console.note source ⟨level, name, details⟩ }) := rfl

end Run

end Specimen
