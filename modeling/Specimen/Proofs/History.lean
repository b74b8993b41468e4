import Specimen.Proofs.DefaultProvider
import Specimen.Proofs.Regenerating

/-!
# What happens on the console

Thresholds are set and events are noted, in an order that every computation settles before anything
is printed: it comes from the disk and from the settings, and never from the console. What happens
in a computation is said here, event by event, and the console after it is the one before it with
all of that happening to it.

* `Happening`: a threshold that is set, or an event that a source notes.
* `Companion.openHistory`, `Companion.decodeHistory`, `Companion.writeHistory`: the events of the
  companion file.
* `Regenerate.run_console`: the command.
* `Session.next_console`: any command of a session.
-/

namespace Specimen

/-- What can happen to a console. -/
inductive Happening where
  | configured (threshold : Nat)
  | noted (source : Source) (event : Event)

namespace Console

/-- The console after something has happened. -/
def happen (c : Console) : Happening → Console
  | .configured n => { c with threshold := some n }
  | .noted source e => c.note source e

/-- The console after all that has happened, the first first. -/
def replay (c : Console) (hs : List Happening) : Console :=
  hs.foldl happen c

@[simp]
theorem replay_nil (c : Console) : c.replay [] = c := rfl

@[simp]
theorem replay_cons (c : Console) (h : Happening) (hs : List Happening) :
    c.replay (h :: hs) = (c.happen h).replay hs := rfl

theorem replay_append (c : Console) (hs hs' : List Happening) :
    c.replay (hs ++ hs') = (c.replay hs).replay hs' :=
  List.foldl_append

end Console

/-! ## Reading and writing companion files -/

namespace Companion

open Run

variable {path : Path} {w : World}

/-- What is noted of a companion file that is opened. -/
def openedEvent (path : Path) : Event :=
  ⟨.debug, "fixture.companion_opened", [("path", .text path.text)]⟩

/-- What is noted of companion data, once it is known what it is taken for. -/
def encodingEvent (encoding : Encoding) : Event :=
  ⟨.debug, "fixture.companion_encoding", [("encoding", .text encoding.name)]⟩

/-- What happens when a file is opened. -/
def openHistory (d : Disk) (path : Path) : List Happening :=
  match d.openFile path with
  | .ok _ => [.noted .companion (openedEvent path)]
  | .error _ => []

/-- What happens when companion data is decoded. -/
def decodeHistory (data : Octets) : List Happening :=
  match unarmour data with
  | .ok (encoding, _) => [.noted .companion (encodingEvent encoding)]
  | .error _ => []

/-- What happens when a file is read. -/
def readHistory (d : Disk) (path : Path) : List Happening :=
  match d.readFile path with
  | .ok data => decodeHistory data
  | .error _ => []

/-- What happens when a file is written. -/
def writeHistory (d : Disk) (ascents : Nat) (folder : Path) (fixture : Fixture)
    (filename : Value) : List Happening :=
  match (writeTo d ascents folder fixture filename).2 with
  | .ok (path, der) => [.noted .companion (writtenEvent fixture path der)]
  | .error _ => []

theorem openFile_console (path : Path) (w : World) :
    ((openFile path).on w).2.console = w.console.replay (openHistory w.disk path) := by
  unfold openFile openHistory
  cases h : w.disk.openFile path <;>
    simp [on_bind, h, openedEvent, Console.happen, -bind_pure_comp]

theorem decode_on_snd (data : Octets) (w : World) :
    ((decode data).on w).2 = { w with console := w.console.replay (decodeHistory data) } := by
  unfold decode decodeHistory
  cases hu : unarmour data with
  | error flaw => simp [on_bind]
  | ok p =>
    obtain ⟨encoding, der⟩ := p
    cases hc : check der <;>
      simp [on_bind, hc, encodingEvent, Console.happen, -bind_pure_comp]

theorem read_on_snd (path : Path) (w : World) :
    ((read path).on w).2 =
      { w with console := w.console.replay (readHistory w.disk path) } := by
  unfold read readHistory
  cases hr : w.disk.readFile path with
  | error flaw => simp [on_bind, hr]
  | ok data => simp [on_bind, hr, decode_on_snd]

theorem write_console (folder : Path) (fixture : Fixture) (filename : Value) (w : World) :
    ((write folder fixture filename).on w).2.console =
      w.console.replay (writeHistory w.disk w.ascents folder fixture filename) := by
  rw [write_on, writeHistory]
  rcases writeTo w.disk w.ascents folder fixture filename with ⟨d, fault | ⟨path, der⟩⟩ <;> rfl

end Companion

/-! ## Methods of a provider -/

namespace Provider

variable {p : Provider} {w : World}

/-- What happens when the companion file of a provider is opened. -/
def openHistory (p : Provider) (d : Disk) : List Happening :=
  match p.certificatePath with
  | .ok path => Companion.openHistory d path
  | .error _ => []

/-- What happens when the companion file of a provider is read. -/
def readHistory (p : Provider) (d : Disk) : List Happening :=
  match p.certificatePath with
  | .ok path => Companion.readHistory d path
  | .error _ => []

/-- What happens when a provider writes its companion file. -/
def writeHistory (p : Provider) (d : Disk) (ascents : Nat) : List Happening :=
  Companion.writeHistory d ascents p.folder p.fixture p.filename

/-- What happens when a method of a provider is asked. -/
def history (p : Provider) (d : Disk) (ascents : Nat) : Method → List Happening
  | .certificateIo => p.openHistory d
  | .companionDer | .companionMatches => p.readHistory d
  | .writeCompanion => p.writeHistory d ascents
  | _ => []

theorem openCompanion_console (p : Provider) (w : World) :
    (p.openCompanion.on w).2.console = w.console.replay (p.openHistory w.disk) := by
  unfold openCompanion openHistory
  cases hp : p.certificatePath with
  | error flaw => simp [Run.on_bind]
  | ok path => simp [Run.on_bind, Companion.openFile_console]

theorem companionDer_on_snd (p : Provider) (w : World) :
    (p.companionDer.on w).2 = { w with console := w.console.replay (p.readHistory w.disk) } := by
  unfold companionDer readHistory
  cases hp : p.certificatePath with
  | error flaw => simp [Run.on_bind]
  | ok path => simp [Run.on_bind, Companion.read_on_snd]

/-- Whether the companion file matches, by the disk. -/
def matchesOn (p : Provider) (d : Disk) : Except Fault Bool :=
  match p.certificatePath with
  | .error flaw => .error (.call flaw)
  | .ok path =>
    match d.readFile path with
    | .error flaw => .error (.disk flaw)
    | .ok data => ((Companion.toDer data).mapError .companion).map fun der =>
      (Value.ofOctets der).same p.fixture.der

theorem companionMatches_eq (p : Provider) (w : World) :
    p.companionMatches.on w =
      (p.matchesOn w.disk, { w with console := w.console.replay (p.readHistory w.disk) }) := by
  refine Prod.ext ?_ ?_
  · rw [companionMatches_on_fst, matchesOn]
    cases hp : p.certificatePath with
    | error flaw => rw [companionDer_of_noPath hp]; rfl
    | ok path =>
      rw [companionDer_of_path hp, Companion.read_on_fst]
      cases hr : w.disk.readFile path with
      | error flaw => simp only [hr]; rfl
      | ok data => simp only [hr]
  · have hder := p.companionDer_on_snd w
    unfold companionMatches
    rw [Run.on_bind]
    generalize p.companionDer.on w = r at hder ⊢
    obtain ⟨fault | der, w'⟩ := r <;> exact hder

theorem writeCompanion_console (p : Provider) (w : World) :
    (p.writeCompanion.on w).2.console =
      w.console.replay (p.writeHistory w.disk w.ascents) := by
  rw [writeCompanion, writeHistory, Companion.write_console]

end Provider

/-! ## The command -/

namespace Regenerate

open Run

/-- What is noted of a write that the disk refuses. -/
def refusedEvent (path : Path) (flaw : DiskFlaw) : Event :=
  ⟨.error, "app.write_failed", [("path", .text path.text), ("error", .text flaw.message)]⟩

/-- What happens when a value is to set the threshold. -/
def configureHistory (name : String) : List Happening :=
  match thresholdOf name with
  | .ok n => [.configured n]
  | .error _ => []

/-- What happens from the write on. -/
def closingHistory (s : Settings) (p : Provider) (d : Disk) (ascents : Nat) : List Happening :=
  match Companion.writeTo d ascents p.folder p.fixture p.filename with
  | (d', .ok (path, _)) =>
    p.writeHistory d ascents ++ p.readHistory d' ++
      match p.matchesOn d' with
      | .ok matched => [.noted .application (doneEvent path matched)]
      | .error _ => []
  | (_, .error (.disk flaw)) =>
    if flaw.isRefusal then [.noted .application (refusedEvent s.certificatePath flaw)] else []
  | _ => []

/-- What happens in a run of the command. -/
def history (number : Nat) (w : World) : List Happening :=
  match settingsOf w with
  | .error _ => []
  | .ok s =>
    match thresholdOf s.logLevel with
    | .error _ => []
    | .ok n =>
      [.configured n, .noted .application (startingEvent s)] ++
        closingHistory s (.ofSettings number s) w.disk w.ascents

theorem configure_console (name : String) (w : World) :
    ((configure name).on w).2.console = w.console.replay (configureHistory name) := by
  unfold configure configureHistory
  cases h : thresholdOf name <;>
    simp [on_bind, Console.configure, h, Except.map, Console.happen]

theorem writeAndCheck_console (s : Settings) (p : Provider) (w : World) :
    ((writeAndCheck s p).on w).2.console =
      w.console.replay (closingHistory s p w.disk w.ascents) := by
  have hwrite : p.writeCompanion.on w = _ := Companion.write_on p.folder p.fixture p.filename w
  unfold writeAndCheck closingHistory Provider.writeHistory Companion.writeHistory
  rw [on_bind, on_get]
  simp only [hwrite]
  rcases Companion.writeTo w.disk w.ascents p.folder p.fixture p.filename with
    ⟨d, fault | ⟨path, der⟩⟩
  · cases fault with
    | disk flaw =>
      simp only [on_bind, on_set]
      split
      · rfl
      · rfl
    | _ => rfl
  · simp only [on_bind, on_set, Provider.companionMatches_eq]
    cases p.matchesOn d with
    | error fault => simp [Console.happen]
    | ok matched => simp [Console.replay_append, Console.happen, doneEvent]

theorem run_console (number : Nat) (w : World) :
    ((run number).on w).2.console = w.console.replay (history number w) := by
  unfold history
  cases hs : settingsOf w with
  | error flaw =>
    rw [run_of_wrongSettings number hs]
    rfl
  | ok s =>
    rcases run_of_settings number hs with ⟨flaw, hflaw, hon⟩ | ⟨n, hn, hon⟩
    · rw [hon]
      simp [hflaw]
    · rw [hon, writeAndCheck_console]
      simp only [hn, Console.replay_append]
      rfl

end Regenerate

/-! ## Commands of a session -/

/-- Whether a command has nothing to do with the console. -/
def Command.isQuiet : Command → Bool
  | .call _ _ _ _ | .callDefault _ _ _ | .openCompanion _ _ | .decodeCompanion _
  | .readCompanion _ | .writeCompanion _ _ | .configure _ | .note _ | .regenerate => false
  | _ => true

/-- The console of a session. -/
def Session.console (s : Session) : Console :=
  s.world.console

namespace Session

/-- The default provider for a command that asks for it now: the one that is there, or the one that
would be made. -/
def defaultNow? (s : Session) : Option Provider :=
  match s.default with
  | some p => some p
  | none => s.settings.toOption.map (.ofSettings s.made)

/-- What happens when a method of a provider is called by name. -/
def callHistory (s : Session) (name method : String) (args : List Value) : List Happening :=
  match s.providers.lookup name with
  | none => []
  | some p =>
    match Provider.Method.ofName? method with
    | none => []
    | some m =>
      match Provider.argument m ("CertificateFixtureProvider." ++ m.name) 1 args with
      | .ok _ => p.history s.world.disk s.world.ascents m
      | .error _ => []

/-- What happens when a function on the default provider is called. -/
def defaultHistory (s : Session) (function : String) (args : List Value) : List Happening :=
  match Provider.Method.ofFunction? function with
  | none => []
  | some m =>
    match Provider.argument m m.name 0 args with
    | .error _ => []
    | .ok _ =>
      match s.defaultNow? with
      | some p => p.history s.world.disk s.world.ascents m
      | none => []

/-- What happens when the threshold is to be set. -/
def configureHistory : List Value → List Happening
  | [] => Regenerate.configureHistory "INFO"
  | [v] =>
    match thresholdName v with
    | .ok name => Regenerate.configureHistory name
    | .error _ => []
  | _ => []

/-- What happens when a value is to be decoded. -/
def decodeHistory (data : Value) : List Happening :=
  match Companion.octetsOf data with
  | .ok bs => Companion.decodeHistory bs
  | .error _ => []

/-- What happens when a session is asked to do something. -/
def history (s : Session) : Command → List Happening
  | .call name method args _ => s.callHistory name method args
  | .callDefault function args _ => s.defaultHistory function args
  | .openCompanion path _ => Companion.openHistory s.world.disk path
  | .decodeCompanion data => decodeHistory data
  | .readCompanion path => Companion.readHistory s.world.disk path
  | .writeCompanion folder filename =>
    Companion.writeHistory s.world.disk s.world.ascents folder Embedded.fixture
      (filename.getD (.text defaultFilename))
  | .configure args => configureHistory args
  | .note e => [.noted .application e]
  | .regenerate => Regenerate.history s.made s.world
  | _ => []

theorem history_of_isQuiet {c : Command} (s : Session) (hc : c.isQuiet = true) :
    s.history c = [] := by
  cases c <;> simp_all [history, Command.isQuiet]

end Session

namespace Run

theorem quiet_makeFolders (p : Path) : Leaves World.console (makeFolders p) := by
  intro w
  show ((makeFolders p).on w).2.console = w.console
  rw [on_makeFolders]

theorem quiet_changeDisk (f : Disk → Except DiskFlaw Disk) :
    Leaves World.console (changeDisk f) := by
  intro w
  show ((changeDisk f).on w).2.console = w.console
  rw [on_changeDisk]
  cases f w.disk <;> rfl

end Run

namespace Act

open Session (console Apart ApartFromDefault ApartFromStream)

variable {name stream : String} {s : Session}

theorem apart_console : Apart console where
  environment _ _ := rfl
  providers _ _ _ := rfl

theorem apartFromDefault_console : ApartFromDefault console where
  default _ _ _ := rfl
  given _ _ _ := rfl

theorem apartFromStream_console : ApartFromStream console name :=
  fun _ _ => rfl

theorem quiet_ofRun {r : Run α} (h : Leaves World.console r) : Leaves console (ofRun r) := by
  intro s
  rw [run_ofRun]
  exact h s.world

/-- What happens in a computation on the world happens to the console of the session. -/
theorem console_ofRun_bind {r : Run α} {f : α → Act β} {hs : List Happening}
    (hr : (r.on s.world).2.console = s.console.replay hs) (hf : ∀ a, Leaves console (f a)) :
    (StateT.run (ExceptT.run (ofRun r >>= f)) s).2.console = s.console.replay hs := by
  rw [run_bind, run_ofRun]
  generalize r.on s.world = y at hr ⊢
  obtain ⟨fault | a, w⟩ := y
  · exact hr
  · exact (hf a _).trans hr

theorem console_answer (p : Provider) (m : Provider.Method) (arg : Value) :
    (StateT.run (ExceptT.run (answer p m arg stream)) s).2.console =
      s.console.replay (p.history s.world.disk s.world.ascents m) := by
  cases m with
  | certificateIo =>
    exact console_ofRun_bind (p.openCompanion_console _) fun _ =>
      leaves_keepStream apartFromStream_console _
  | companionDer =>
    refine console_ofRun_bind ?_ fun _ => .pure _
    rw [p.companionDer_on_snd]
    rfl
  | companionMatches =>
    refine console_ofRun_bind ?_ fun _ => .pure _
    rw [p.companionMatches_eq]
    rfl
  | writeCompanion => exact console_ofRun_bind (p.writeCompanion_console _) fun _ => .pure _
  | _ => exact leaves_answer_of_not_isCompanion apartFromStream_console p rfl arg s

/-- The default provider is given without a change to the world, if there is one to give. -/
theorem run_defaultProvider_cases (s : Session) :
    (∃ p t, s.defaultNow? = some p ∧ t.world = s.world ∧
      StateT.run (ExceptT.run defaultProvider) s = (.ok p, t)) ∨
    s.defaultNow? = none ∧
      ∃ fault, StateT.run (ExceptT.run defaultProvider) s = (.error fault, s) := by
  unfold Session.defaultNow?
  cases hd : s.default with
  | some p => exact .inl ⟨p, s, rfl, rfl, defaultProvider_cached hd⟩
  | none =>
    rw [run_defaultProvider_of_none hd]
    cases s.settings with
    | ok settings => exact .inl ⟨_, s.withDefault (.ofSettings s.made settings), rfl, rfl, rfl⟩
    | error flaw => exact .inr ⟨rfl, _, rfl⟩

theorem console_call (name method : String) (args : List Value) (stream : String) (s : Session) :
    (StateT.run (ExceptT.run (perform (.call name method args stream))) s).2.console =
      s.console.replay (s.callHistory name method args) := by
  unfold Session.callHistory
  cases hp : s.providers.lookup name with
  | none =>
    rw [run_call_nameless hp]
    rfl
  | some p =>
    rw [perform, run_bind, run_get]
    simp only [run_bind, run_named, hp, callProvider]
    split
    · rename_i hpath
      subst hpath
      exact Leaves.bind (leaves_ofExcept _ _) (fun _ => .pure _) s
    · cases Provider.Method.ofName? method with
      | none => rfl
      | some m =>
        simp only [run_bind, run_ofExcept]
        cases Provider.argument m ("CertificateFixtureProvider." ++ m.name) 1 args with
        | error flaw => rfl
        | ok arg => exact console_answer p m arg

theorem console_callDefault (function : String) (args : List Value) (stream : String)
    (s : Session) :
    (StateT.run (ExceptT.run (callDefault function args stream)) s).2.console =
      s.console.replay (s.defaultHistory function args) := by
  unfold Session.defaultHistory callDefault
  cases Provider.Method.ofFunction? function with
  | none => rfl
  | some m =>
    simp only [run_bind, run_ofExcept]
    cases Provider.argument m m.name 0 args with
    | error flaw => rfl
    | ok arg =>
      rcases run_defaultProvider_cases s with ⟨p, t, hnow, ht, hrun⟩ | ⟨hnow, fault, hrun⟩
      · simp only [Except.mapError, hrun, hnow]
        rw [console_answer, Session.console, ht]
        rfl
      · simp only [Except.mapError, hrun, hnow]
        rfl

theorem console_configure (args : List Value) (s : Session) :
    (StateT.run (ExceptT.run (configure args)) s).2.console =
      s.console.replay (Session.configureHistory args) := by
  match args with
  | [] =>
    rw [configure, Session.configureHistory]
    exact console_ofRun_bind (Regenerate.configure_console _ _) fun _ => .pure _
  | [v] =>
    rw [configure, Session.configureHistory, run_bind, run_ofExcept]
    cases thresholdName v with
    | error flaw => rfl
    | ok name =>
      exact console_ofRun_bind (Regenerate.configure_console _ _) fun _ => .pure _
  | _ :: _ :: _ => rfl

theorem console_decodeCompanion (data : Value) (s : Session) :
    (StateT.run (ExceptT.run (perform (.decodeCompanion data))) s).2.console =
      s.console.replay (Session.decodeHistory data) := by
  rw [perform, Session.decodeHistory, run_bind, run_ofExcept]
  cases Companion.octetsOf data with
  | error flaw => rfl
  | ok bs =>
    refine console_ofRun_bind ?_ fun _ => .pure _
    rw [Companion.decode_on_snd]
    rfl

/-- A quiet command leaves the console as it is. -/
theorem quiet_perform {c : Command} (hq : c.isQuiet = true) : Leaves console (perform c) := by
  cases hc : c.isPlain with
  | true => exact leaves_perform_of_isPlain hc apart_console fun _ _ => apartFromStream_console
  | false =>
    cases c with
    | writeFile path data =>
      exact .bind (quiet_ofRun (Run.quiet_makeFolders _)) fun _ =>
        .bind (quiet_ofRun (Run.quiet_changeDisk _)) fun _ => .pure _
    | makeFolder path => exact .bind (quiet_ofRun (Run.quiet_makeFolders _)) fun _ => .pure _
    | makeLink path target =>
      exact .bind (quiet_ofRun (Run.quiet_changeDisk _)) fun _ => .pure _
    | remove path => exact .bind (quiet_ofRun (Run.quiet_changeDisk _)) fun _ => .pure _
    | defaultProvider name => exact leaves_perform_defaultProvider apartFromDefault_console
    | forgetDefault => exact leaves_perform_forgetDefault apartFromDefault_console
    | _ => simp_all [Command.isQuiet, Command.isPlain]

/-- What happens in a command happens to the console. -/
theorem console_perform (c : Command) (s : Session) :
    (StateT.run (ExceptT.run (perform c)) s).2.console = s.console.replay (s.history c) := by
  cases hc : c.isQuiet with
  | true =>
    rw [Session.history_of_isQuiet s hc, Console.replay_nil]
    exact quiet_perform hc s
  | false =>
    cases c with
    | call provider method args stream => exact console_call provider method args stream s
    | callDefault function args stream => exact console_callDefault function args stream s
    | openCompanion path stream =>
      rw [perform, Session.history]
      exact console_ofRun_bind (Companion.openFile_console _ _) fun _ =>
        leaves_keepStream apartFromStream_console _
    | decodeCompanion data => exact console_decodeCompanion data s
    | readCompanion path =>
      rw [perform, Session.history]
      refine console_ofRun_bind ?_ fun _ => .pure _
      rw [Companion.read_on_snd]
      rfl
    | writeCompanion folder filename =>
      rw [perform, Session.history]
      exact console_ofRun_bind (Companion.write_console _ _ _ _) fun _ => .pure _
    | configure args => exact console_configure args s
    | note e => rfl
    | regenerate =>
      rw [perform, Session.history, run_bind, run_get]
      exact console_ofRun_bind (Regenerate.run_console _ _) fun _ => .pure _
    | _ => simp [Command.isQuiet] at hc

end Act

namespace Session

/-- The session after a command has the console of before, with what happens in the command. -/
theorem next_console (s : Session) (c : Command) :
    (s.next c).console = s.silent.console.replay (s.history c) :=
  Act.console_perform c s.silent

theorem step_lines (s : Session) (c : Command) :
    (s.step c).2.1 = (s.silent.console.replay (s.history c)).lines := by
  rw [← next_console]
  rfl

end Session

end Specimen
