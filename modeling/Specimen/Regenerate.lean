import Specimen.Provider

/-!
# Regenerating the companion file

The command of the library: it takes its settings from the environment and the settings file,
writes the embedded certificate to the companion file, and says whether what it then reads back is
the same. Settings that are wrong and a disk that refuses the write end the command with status 1.

* `run` — the command.
* `run_of_wrongSettings` — wrong settings leave the world as it was.
-/

namespace Specimen.Regenerate

open Run

/-- The version of the library. -/
def version : String := "0.1.0"

/-- How the command ended: the status, if it is not success, and what it complained about. -/
structure Outcome where
  status : Option Nat
  complaint : Option String
  deriving DecidableEq, Repr

/-- The end of a command that did its work. -/
def Outcome.success : Outcome := ⟨none, none⟩

/-- The end of a command that failed. -/
def Outcome.failure (complaint : Option String) : Outcome := ⟨some 1, complaint⟩

/-- Sets the threshold of the console by a name. -/
def configure (name : String) : Run Unit := do
  let w ← get
  let c ← ofExcept .threshold (w.console.configure name)
  set { w with console := c }

/-- Notes that the disk refused the write. -/
def refused (path : Path) (flaw : DiskFlaw) : Run Outcome := do
  note .application .error "app.write_failed"
    [("path", .text path.text), ("error", .text flaw.message)]
  pure (.failure none)

/-- Writes the companion file that settings ask for and reads it back. -/
def writeAndCheck (s : Settings) (p : Provider) : Run Outcome := do
  let w ← get
  match p.writeCompanion.on w with
  | (.ok path, w) =>
    set w
    let matched ← p.companionMatches
    note .application .info "app.done" [("path", .text path.text), ("matches", .bool matched)]
    pure .success
  | (.error (.disk flaw), w) =>
    set w
    if flaw.isRefusal then refused s.certificatePath flaw else throw (.disk flaw)
  | (.error e, w) =>
    set w
    throw e

/-- The command with its settings; `number` is the number of its provider. -/
def runWith (number : Nat) (s : Settings) : Run Outcome := do
  configure s.logLevel
  note .application .info "app.starting"
    [("version", .text version), ("log_level", .text s.logLevel),
      ("resource_dir", .text s.resourceFolder.text)]
  writeAndCheck s (.ofSettings number s)

/-- The command. -/
def run (number : Nat) : Run Outcome := do
  let w ← get
  match Settings.load w.disk w.settingsFile w.resourceFolder w.environment [] with
  | .error flaw => pure (.failure (some ("FATAL: Configuration error: " ++ flaw.message)))
  | .ok s => runWith number s

/-- Wrong settings leave the world as it was. -/
theorem run_of_wrongSettings {w : World} {flaw : SettingsFlaw} (number : Nat)
    (h : Settings.load w.disk w.settingsFile w.resourceFolder w.environment [] = .error flaw) :
    (run number).on w =
      (.ok (.failure (some ("FATAL: Configuration error: " ++ flaw.message))), w) := by
  simp [run, on_bind, h]

end Specimen.Regenerate
