import Specimen.Disk.Operations
import Specimen.Settings.EnvFile
import Specimen.Text.Upper
import Specimen.Value.Display

/-!
# Settings

Three settings: the folder of the companion file, its name in that folder, and how much is
printed. Each of them has one winning value: the one given by the caller, else a variable of the
environment, else an assignment in the settings file, else a default. Only winning values are
looked at, and all of those that are wrong are reported, in the order of the settings.

Names of variables and assignments carry a prefix, and letter case does not matter in any name.

* `winner_given` — a value given by the caller wins.
* `checkFilename_text` — which texts name a companion file.
-/

namespace Specimen

/-- The settings by name. -/
inductive Setting where
  | resourceFolder
  | certificateFilename
  | logLevel
  deriving DecidableEq, Repr

/-- The name of a setting. -/
def Setting.name : Setting → String
  | .resourceFolder => "resource_dir"
  | .certificateFilename => "certificate_filename"
  | .logLevel => "log_level"

/-- The name of the variable for a setting, in lower case. -/
def Setting.variableName (s : Setting) : String :=
  "cert_fixtures_" ++ s.name

/-- The settings, all in order. -/
structure Settings where
  resourceFolder : Path
  certificateFilename : String
  logLevel : String
  deriving DecidableEq, Repr

/-- Where the companion file is. -/
def Settings.certificatePath (s : Settings) : Path :=
  s.resourceFolder.join (Path.ofText s.certificateFilename)

/-! ## Flaws -/

/-- What is wrong with the value of a setting. -/
inductive SettingFlaw where
  | notPath
  | notText
  | notUnicode
  | tooShort
  | isFile (path : Path)
  | notBare (name : String)
  deriving DecidableEq, Repr

namespace SettingFlaw

/-- The short name of a flaw. -/
def label : SettingFlaw → String
  | .notPath => "path_type"
  | .notText => "string_type"
  | .notUnicode => "string_unicode"
  | .tooShort => "string_too_short"
  | .isFile _ => "value_error"
  | .notBare _ => "value_error"

/-- The wording of a flaw. -/
def message : SettingFlaw → String
  | .notPath => "Input is not a valid path for <class 'pathlib.Path'>"
  | .notText => "Input should be a valid string"
  | .notUnicode => "Input should be a valid string, unable to parse raw data as a unicode string"
  | .tooShort => "String should have at least 1 character"
  | .isFile path => "Value error, resource_dir must be a directory, got file: " ++ path.text
  | .notBare name =>
    "Value error, certificate_filename must be a bare filename, got " ++ Text.quoted name

end SettingFlaw

/-- A setting whose winning value is wrong. -/
structure SettingReport where
  setting : Setting
  flaw : SettingFlaw
  input : Value

/-- Why there are no settings. -/
inductive SettingsFlaw where
  /-- The settings file is no text. -/
  | unreadableFile (flaw : Text.Utf8.Flaw)
  /-- The disk refuses an answer about a path. -/
  | disk (flaw : DiskFlaw)
  /-- Settings have wrong values. -/
  | wrong (reports : List SettingReport)

/-- The first `n` characters of a text that fit into so many octets, or the last ones. -/
def takeOctets (n : Nat) : List Char → List Char
  | [] => []
  | c :: cs =>
    let k := (Text.Utf8.encodeChar c).length
    if k ≤ n then c :: takeOctets (n - k) cs else []

/-- A long text shortened to its beginning and its end, with dots between them. -/
def shortened (s : String) : String :=
  let cs := s.toList
  if (Text.Utf8.encode cs).length ≤ 50 then s
  else
    let front := takeOctets 25 cs
    let back := (takeOctets 24 cs.reverse).reverse
    String.ofList (front ++ ['.', '.', '.'] ++ back)

/-- The lines about a setting whose value is wrong. -/
def SettingReport.text (r : SettingReport) : String :=
  r.setting.name ++ "\n  " ++ r.flaw.message ++ " [type=" ++ r.flaw.label ++ ", input_value=" ++
    shortened r.input.display ++ ", input_type=" ++ r.input.kind.name ++ "]"

/-- The wording of a flaw. -/
def SettingsFlaw.message : SettingsFlaw → String
  | .unreadableFile flaw => flaw.message
  | .disk flaw => flaw.message
  | .wrong reports =>
    let noun := if reports.length = 1 then " validation error" else " validation errors"
    toString reports.length ++ noun ++ " for FixtureSettings\n" ++
      "\n".intercalate (reports.map SettingReport.text)

/-! ## Sources -/

/-- The values for settings that the sources hold. -/
structure Sources where
  /-- What the caller gives. -/
  given : Register Value := []
  /-- The variables of the environment. -/
  environment : Environment := []
  /-- The assignments of the settings file. -/
  assigned : Register (Option String) := []

/-- The last value under a name, in whatever case it is written. -/
def lastNamed? (name : String) (ps : Register α) : Option α :=
  ps.reverse.findSome? fun p => if Text.lowerAscii p.1 = name then some p.2 else none

/-- The value given by the caller: under the very name, or under the name in another case. -/
def Sources.given? (s : Sources) (setting : Setting) : Option Value :=
  (s.given.lookup setting.name).or (lastNamed? setting.name s.given)

/-- The winning value for a setting, if any source has one. An assignment without a value counts as
none. -/
def Sources.winner? (s : Sources) (setting : Setting) : Option Value :=
  match s.given? setting with
  | some v => some v
  | none =>
    match lastNamed? setting.variableName s.environment with
    | some t => some (.text t)
    | none => ((lastNamed? setting.variableName s.assigned).bind id).map .text

/-! ## Checks -/

/-- A text setting. Octets are taken as UTF-8. -/
def checkText : Value → Except SettingFlaw String
  | .text s => .ok s
  | .octets .view _ => .error .notText
  | .octets _ bs =>
    match Text.Utf8.decode bs with
    | .ok cs => .ok (String.ofList cs)
    | .error _ => .error .notUnicode
  | _ => .error .notText

/-- A name of a companion file: not empty, and without a way to another folder. -/
def checkFilename (v : Value) : Except SettingFlaw String := do
  let s ← checkText v
  if s = "" then .error .tooShort
  else if Path.isBareName s then .ok s
  else .error (.notBare s)

/-- A path. -/
def checkPath : Value → Except SettingFlaw Path
  | .text s => .ok (Path.ofText s)
  | .path p => .ok p
  | _ => .error .notPath

/-- A folder: a path that does not lead to a file. -/
def checkFolder (d : Disk) (v : Value) : Except DiskFlaw (Except SettingFlaw Path) :=
  match checkPath v with
  | .error flaw => .ok (.error flaw)
  | .ok p => (d.isFile p).map fun file => if file then .error (.isFile p) else .ok p

/-- What a check says about the winning value of a setting; the default is in order. -/
def checked (s : Sources) (setting : Setting) (default : α)
    (check : Value → Except SettingFlaw α) : Except SettingReport α :=
  match s.winner? setting with
  | none => .ok default
  | some v =>
    match check v with
    | .ok a => .ok a
    | .error flaw => .error ⟨setting, flaw, v⟩

/-- The report of a failed check. -/
def report? : Except SettingReport α → List SettingReport
  | .ok _ => []
  | .error r => [r]

/-- The name of the companion file when nothing else is set. -/
def defaultFilename : String := "certificate.cer"

/-- The settings that come out of the sources; `folder` is the default folder. -/
def Settings.ofSources (d : Disk) (folder : Path) (s : Sources) : Except SettingsFlaw Settings :=
  let folderWinner := s.winner? .resourceFolder
  let folderCheck : Except DiskFlaw (Except SettingReport Path) :=
    match folderWinner with
    | none => .ok (.ok folder)
    | some v => (checkFolder d v).map fun r => match r with
      | .ok p => .ok p
      | .error flaw => .error ⟨.resourceFolder, flaw, v⟩
  match folderCheck with
  | .error flaw => .error (.disk flaw)
  | .ok folderResult =>
    let filenameResult := checked s .certificateFilename defaultFilename checkFilename
    let levelResult := checked s .logLevel "INFO" checkText
    match folderResult, filenameResult, levelResult with
    | .ok f, .ok n, .ok l => .ok ⟨f, n, l⟩
    | f, n, l => .error (.wrong (report? f ++ report? n ++ report? l))

/-- The assignments of the settings file, if there is one. -/
def readAssignments (d : Disk) (file : Path) (environment : Environment) :
    Except SettingsFlaw (Register (Option String)) :=
  match d.isFile file with
  | .ok true =>
    match d.readFile file with
    | .ok octets =>
      match EnvFile.assignments environment octets with
      | .ok assigned => .ok assigned
      | .error flaw => .error (.unreadableFile flaw)
    | .error flaw => .error (.disk flaw)
  | _ => .ok []

/-- The settings from what the caller gives, the environment and the settings file; `folder` is the
default folder. -/
def Settings.load (d : Disk) (file folder : Path) (environment : Environment)
    (given : Register Value) : Except SettingsFlaw Settings :=
  match readAssignments d file environment with
  | .error flaw => .error flaw
  | .ok assigned => Settings.ofSources d folder ⟨given, environment, assigned⟩

/-! ## Laws -/

/-- A value given by the caller wins. -/
theorem Sources.winner_given {s : Sources} {setting : Setting} {v : Value}
    (h : s.given? setting = some v) : s.winner? setting = some v := by
  simp [Sources.winner?, h]

theorem checkFilename_text {s t : String} :
    checkFilename (.text s) = .ok t ↔ s ≠ "" ∧ Path.isBareName s = true ∧ s = t := by
  by_cases h : s = ""
  · simp [checkFilename, checkText, h, bind, Except.bind]
  · by_cases hb : Path.isBareName s = true <;>
      simp [checkFilename, checkText, h, hb, bind, Except.bind]

end Specimen
