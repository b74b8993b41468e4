import Specimen.Provider.Method
import Specimen.Session.Command

/-!
# Sessions

A session is a run of commands in one world, with providers and streams kept under names. There is
one default provider: it is made from the settings when it is first asked for, and stays the same
one until it is forgotten.

* `defaultProvider_cached` — a default provider that has been made is the one that is given.
* `perform` — what a command answers and leaves behind.
-/

namespace Specimen

/-- A session. -/
structure Session where
  world : World
  /-- What streams have room for. -/
  limits : Stream.Limits
  providers : Register Provider := []
  streams : Register Stream := []
  /-- The default provider, if it has been made. -/
  default : Option Provider := none
  /-- The numbers of the default providers given so far. -/
  given : List Nat := []
  /-- How many providers have been made. -/
  made : Nat := 0

/-- A computation in a session. -/
abbrev Act (α : Type) := ExceptT Fault (StateM Session) α

namespace Act

/-- A computation on the world of a session. -/
def ofRun (r : Run α) : Act α := do
  let s ← get
  let (x, w) := r.on s.world
  set { s with world := w }
  match x with
  | .ok a => pure a
  | .error e => throw e

/-- A result that may be a flaw. -/
def ofExcept (fault : ε → Fault) (x : Except ε α) : Act α :=
  ofRun (Run.ofExcept fault x)

/-- What stands under a name, which has to be there. -/
def named (name : String) (r : Register α) : Act α :=
  match r.lookup name with
  | some a => pure a
  | none => throw (.nameless name)

/-- Keeps a stream under a name. -/
def keepStream (name : String) (stream : Stream) : Act Reply := do
  modify fun s => { s with streams := s.streams.put name stream }
  pure (.stream name)

/-- Makes a provider with the next number and keeps it under a name. -/
def keepProvider (name : String) (p : Nat → Provider) : Act Reply := do
  let s ← get
  let p := p s.made
  set { s with providers := s.providers.put name p, made := s.made + 1 }
  let path ← ofExcept .call p.certificatePath
  pure (.text path.text)

/-- The settings, with what the caller gives. -/
def loadSettings (given : Register Value) : Act Settings := do
  let w := (← get).world
  ofExcept .settings (Settings.load w.disk w.settingsFile w.resourceFolder w.environment given)

/-- The default provider, made from the settings unless it is there. -/
def defaultProvider : Act Provider := do
  match (← get).default with
  | some p => pure p
  | none =>
    let settings ← loadSettings []
    let s ← get
    let p := Provider.ofSettings s.made settings
    set { s with default := some p, made := s.made + 1 }
    pure p

/-- The fixture from a source; none for the embedded one. -/
def fixtureOf : FixtureSource → Act (Option Fixture)
  | .embedded => pure none
  | .pem text => do
    let f ← ofExcept .load (Fixture.loadValue text)
    pure (some f)
  | .fields fields => do
    let f ← ofExcept .fixture (Fixture.ofFields fields)
    pure (some f)

/-! ## Calls -/

/-- The certificate of a provider with its names as text. -/
def describe (p : Provider) : Act Reply := do
  let c ← ofExcept .load p.certificate
  let subject ← ofExcept (.load ∘ .name) c.subjectText
  let issuer ← ofExcept (.load ∘ .name) c.issuerText
  pure (.certificate c.version c.serialNumber subject issuer)

/-- The octets of a fixture's encoding as they are shown: its kind has to have a hex form, and after
that a length. A number has the first alone. -/
def servedDer (f : Fixture) : Except Fault Octets :=
  match f.der with
  | .octets _ der => .ok der
  | .float _ => .error (.fixture (.noLength .float))
  | v => .error (.call (.noHexForm v.kind))

/-- What a method of a provider answers. -/
def answer (p : Provider) (m : Provider.Method) (arg : Value) (stream : String) : Act Reply :=
  match m with
  | .certificate => pure (.value p.fixture.der)
  | .certificatePem => pure (.value p.fixture.pem)
  | .certificateFixture => do
    let der ← ofExcept id (servedDer p.fixture)
    pure (.fixture p.fixture der p.given.isNone)
  | .certificateX509 => describe p
  | .certificateIo => do
    let s ← ofRun p.openCompanion
    keepStream stream s
  | .companionDer => do
    let der ← ofRun p.companionDer
    pure (.octets der)
  | .companionMatches => do
    let b ← ofRun p.companionMatches
    pure (.flag b)
  | .writeCompanion => do
    let path ← ofRun p.writeCompanion
    pure (.text path.text)
  | .bytes => do
    let bs ← ofExcept .hex (Hex.decodeParts arg)
    pure (.octets bs)
  | .bytesToIo => do
    let s ← ofExcept .hex (Provider.streamOf arg)
    keepStream stream s

/-- Calls a method of a provider by name. -/
def callProvider (p : Provider) (method : String) (args : List Value) (stream : String) :
    Act Reply :=
  if method = "certificate_path" then do
    let path ← ofExcept .call p.certificatePath
    pure (.text path.text)
  else
    match Provider.Method.ofName? method with
    | none => throw (.call (.unknownMethod method))
    | some m => do
      let spelling := "CertificateFixtureProvider." ++ m.name
      let arg ← ofExcept .call (Provider.argument m spelling 1 args)
      answer p m arg stream

/-- Calls a function on the default provider by name. The arguments are counted before the provider
is made. -/
def callDefault (function : String) (args : List Value) (stream : String) : Act Reply :=
  match Provider.Method.ofFunction? function with
  | none => throw (.call (.unknownFunction function))
  | some m => do
    let arg ← ofExcept .call (Provider.argument m m.name 0 args)
    let p ← defaultProvider
    answer p m arg stream

/-- The call of a stream with a given name. -/
def streamCall (stream : Stream) (call : String) : Except StreamFlaw StreamCall :=
  match StreamCall.ofName? call with
  | some c => .ok c
  | none => .error (.unknown stream.body.owner call)

/-- Calls a stream. -/
def callStream (name call : String) (args : List Value) : Act Reply := do
  let s ← get
  let stream ← named name s.streams
  let call ← ofExcept .stream (streamCall stream call)
  let (a, stream) ← ofExcept .stream (stream.call s.limits s.world.disk.contentOf call args)
  modify fun s => { s with streams := s.streams.put name stream }
  pure (match a with
    | .nothing => .nothing
    | .octets bs => .octets bs
    | .count n => .count n
    | .flag b => .flag b)

/-- Sets the threshold of the console; without a name, the usual one. -/
def configure : List Value → Act Reply
  | [] => do
    ofRun (Regenerate.configure "INFO")
    pure .nothing
  | [v] => do
    let name ← ofExcept .threshold (thresholdName v)
    ofRun (Regenerate.configure name)
    pure .nothing
  | args => throw (.call (.extraArguments "configure_structlog" 1 args.length))

/-! ## Commands -/

/-- Replaces the variables of the environment. -/
def setEnvironment (vs : Environment) : Act Reply := do
  modify fun s => { s with world := { s.world with environment := vs } }
  pure .nothing

/-- What a command answers. -/
def perform : Command → Act Reply
  | .writeFile path data => do
    ofRun (Run.makeFolders path.parent)
    ofRun (Run.changeDisk (·.writeFile path data))
    pure (.count data.length)
  | .makeFolder path => do
    ofRun (Run.makeFolders path)
    pure .nothing
  | .makeLink path target => do
    ofRun (Run.changeDisk (·.makeLink target path))
    pure .nothing
  | .remove path => do
    ofRun (Run.changeDisk (·.remove path))
    pure .nothing
  | .read path => do
    let bs ← ofExcept .disk ((← get).world.disk.readFile path)
    pure (.octets bs)
  | .tree => do pure (.lines (← get).world.disk.tree)
  | .setVariable name value => do
    let vs ← ofExcept .environment ((← get).world.environment.set name value)
    setEnvironment vs
  | .dropVariable name => do setEnvironment (Register.drop name (← get).world.environment)
  | .settings given => do
    let s ← loadSettings given
    pure (.settings s)
  | .provider name folder filename source => do
    let given ← fixtureOf source
    let folder ← match folder with
      | some v => ofExcept .call (Provider.folderOf v)
      | none => pure (← get).world.resourceFolder
    let filename := filename.getD (.text defaultFilename)
    keepProvider name fun number => { number, folder, filename, given }
  | .providerFromSettings name given => do
    let s ← loadSettings given
    keepProvider name fun number => Provider.ofSettings number s
  | .defaultProvider name => do
    let p ← defaultProvider
    let path ← ofExcept .call p.certificatePath
    let s ← get
    set { s with providers := s.providers.put name p, given := s.given ++ [p.number] }
    pure (.default path (s.given.map (· == p.number)))
  | .forgetDefault => do
    modify fun s => { s with default := none }
    pure .nothing
  | .call provider method args stream => do
    let p ← named provider (← get).providers
    callProvider p method args stream
  | .callDefault function args stream => callDefault function args stream
  | .callStream name call args => callStream name call args
  | .openCompanion path stream => do
    let s ← ofRun (Companion.openFile path)
    keepStream stream s
  | .decodeCompanion data => do
    let bs ← ofExcept .companion (Companion.octetsOf data)
    let der ← ofRun (Companion.decode bs)
    pure (.octets der)
  | .readCompanion path => do
    let der ← ofRun (Companion.read path)
    pure (.octets der)
  | .writeCompanion folder filename => do
    let path ← ofRun
      (Companion.write folder Embedded.fixture (filename.getD (.text defaultFilename)))
    pure (.text path.text)
  | .configure args => configure args
  | .note e => do
    ofRun (Run.note .application e.level e.name e.details)
    pure .nothing
  | .regenerate => do
    let o ← ofRun (Regenerate.run (← get).made)
    pure (.outcome o)
  | .version => pure (.text Regenerate.version)

end Act

namespace Session

/-- A session in which nothing has been printed. -/
def silent (s : Session) : Session :=
  { s with world := { s.world with console := { s.world.console with printed := [] } } }

/-- The answer to a command, what was printed, and the session after it. -/
def step (s : Session) (c : Command) : Except Fault Reply × List String × Session :=
  let (r, s) := StateT.run (ExceptT.run (Act.perform c)) s.silent
  (r, s.world.console.lines, s)

/-- The answers to commands one after another, each with what was printed. -/
def run (s : Session) : List Command → List (Except Fault Reply × List String)
  | [] => []
  | c :: cs =>
    let (r, printed, s) := s.step c
    (r, printed) :: run s cs

end Session

/-- A default provider that has been made is the one that is given. -/
theorem Act.defaultProvider_cached {s : Session} {p : Provider} (h : s.default = some p) :
    StateT.run (ExceptT.run Act.defaultProvider) s = (.ok p, s) := by
  unfold Act.defaultProvider
  simp only [ExceptT.run_bind, StateT.run_bind]
  show (match (Except.ok s : Except Fault Session) with
    | .ok s => StateT.run (ExceptT.run (match s.default with
      | some p => (pure p : Act Provider)
      | none => _)) s
    | .error e => pure (.error e, s)) = _
  simp only [h]
  rfl

end Specimen
