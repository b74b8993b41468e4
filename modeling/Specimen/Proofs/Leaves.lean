import Specimen.Session

/-!
# What computations leave as it is

A computation leaves a part of the state as it is if that part is the same after it, however it
ends. What a computation leaves is what all its steps leave (`Moves.bind`), so this is shown by
going through the steps.

* `Leaves`, `Keeps`: a part of the state stays as it is; a property of the state goes on to hold.
* `Run.Leaves` for what is read, noted and configured: the disk stays as it is.
* `Session.Apart`: a part of a session that the environment and the providers do not belong to;
  `Act.leaves_perform_of_isPlain`: the commands that leave all such parts.
* `Act.leaves_perform_of_apart`: what commands leave that has nothing to do with the world;
  `Act.leaves_stream`: the streams other than the one that a command calls or puts in place.
* `Session.rest`: the disk, and all streams but the one that a command is about.
* `Act.leaves_perform`: a command that is no write leaves the rest of the session as it is.
-/

namespace Specimen

variable {σ α β γ ε : Type}

theorem run_bind (x : ExceptT Fault (StateM σ) α) (f : α → ExceptT Fault (StateM σ) β) (s : σ) :
    StateT.run (ExceptT.run (x >>= f)) s = match StateT.run (ExceptT.run x) s with
      | (.ok a, s') => StateT.run (ExceptT.run (f a)) s'
      | (.error e, s') => (.error e, s') := by
  simp only [ExceptT.run_bind, StateT.run_bind]
  generalize StateT.run (ExceptT.run x) s = r
  obtain ⟨e | a, s'⟩ := r <;> rfl

/-- Where a computation ends, in whatever way it does, is in a relation to where it began. -/
def Moves (R : σ → σ → Prop) (x : ExceptT Fault (StateM σ) α) : Prop :=
  ∀ s, R s (StateT.run (ExceptT.run x) s).2

theorem Moves.bind {R : σ → σ → Prop} (htrans : ∀ {s t u}, R s t → R t u → R s u)
    {x : ExceptT Fault (StateM σ) α} {f : α → ExceptT Fault (StateM σ) β} (hx : Moves R x)
    (hf : ∀ a, Moves R (f a)) : Moves R (x >>= f) := by
  intro s
  have h := hx s
  rw [run_bind]
  generalize StateT.run (ExceptT.run x) s = r at h ⊢
  obtain ⟨e | a, s'⟩ := r
  · exact h
  · exact htrans h (hf a s')

/-- A computation leaves a part of the state as it is, however it ends. -/
def Leaves (part : σ → γ) (x : ExceptT Fault (StateM σ) α) : Prop :=
  Moves (fun s t => part t = part s) x

/-- What holds before a computation holds after it, however it ends. -/
def Keeps (P : σ → Prop) (x : ExceptT Fault (StateM σ) α) : Prop :=
  Moves (fun s t => P s → P t) x

namespace Leaves

variable {part : σ → γ} {x : ExceptT Fault (StateM σ) α} {f : α → ExceptT Fault (StateM σ) β}

theorem bind (hx : Leaves part x) (hf : ∀ a, Leaves part (f a)) : Leaves part (x >>= f) :=
  Moves.bind (fun h h' => h'.trans h) hx hf

theorem pure (a : α) : Leaves part (Pure.pure a) :=
  fun _ => rfl

theorem throw (e : Fault) : Leaves part (throw e : ExceptT Fault (StateM σ) α) :=
  fun _ => rfl

theorem get : Leaves part (get : ExceptT Fault (StateM σ) σ) :=
  fun _ => rfl

theorem modify {g : σ → σ} (h : ∀ s, part (g s) = part s) :
    Leaves part (modify g : ExceptT Fault (StateM σ) Unit) :=
  h

/-- A step that looks at the state knows which one it is in. -/
theorem get_bind {g : σ → ExceptT Fault (StateM σ) β}
    (h : ∀ s, part (StateT.run (ExceptT.run (g s)) s).2 = part s) :
    Leaves part (MonadState.get >>= g) :=
  h

theorem set_of_eq {s t : σ} {y : ExceptT Fault (StateM σ) β} (h : part t = part s)
    (hy : Leaves part y) :
    part (StateT.run (ExceptT.run (set t >>= fun _ => y)) s).2 = part s :=
  (hy t).trans h

end Leaves

namespace Keeps

variable {P : σ → Prop} {x : ExceptT Fault (StateM σ) α} {f : α → ExceptT Fault (StateM σ) β}

theorem bind (hx : Keeps P x) (hf : ∀ a, Keeps P (f a)) : Keeps P (x >>= f) :=
  Moves.bind (fun h h' hs => h' (h hs)) hx hf

theorem pure (a : α) : Keeps P (Pure.pure a) :=
  fun _ hs => hs

theorem get : Keeps P (get : ExceptT Fault (StateM σ) σ) :=
  fun _ hs => hs

end Keeps

/-! ## The disk -/

namespace Run

theorem leaves_ofExcept (fault : ε → Fault) (r : Except ε α) {part : World → γ} :
    Leaves part (ofExcept fault r) := by
  cases r <;> exact fun _ => rfl

theorem leaves_note (source : Source) (level : Level) (name : String)
    (details : List (String × Value)) : Leaves World.disk (note source level name details) :=
  fun _ => rfl

end Run

namespace Companion

open Run

theorem leaves_openFile (p : Path) : Leaves World.disk (openFile p) :=
  .bind .get fun _ => .bind (leaves_ofExcept _ _) fun _ => .bind (leaves_note _ _ _ _) fun _ =>
    .pure _

theorem leaves_decode (data : Octets) : Leaves World.disk (decode data) :=
  .bind (leaves_ofExcept _ _) fun _ => .bind (leaves_note _ _ _ _) fun _ =>
    .bind (leaves_ofExcept _ _) fun _ => .pure _

theorem leaves_read (p : Path) : Leaves World.disk (read p) :=
  .bind .get fun _ => .bind (leaves_ofExcept _ _) fun _ => leaves_decode _

end Companion

namespace Provider

open Run

theorem leaves_openCompanion (p : Provider) : Leaves World.disk p.openCompanion :=
  .bind (leaves_ofExcept _ _) fun _ => Companion.leaves_openFile _

theorem leaves_companionDer (p : Provider) : Leaves World.disk p.companionDer :=
  .bind (leaves_ofExcept _ _) fun _ => Companion.leaves_read _

theorem leaves_companionMatches (p : Provider) : Leaves World.disk p.companionMatches :=
  .bind p.leaves_companionDer fun _ => .pure _

end Provider

theorem Regenerate.leaves_configure (name : String) :
    Leaves World.disk (Regenerate.configure name) := by
  refine .get_bind fun w => ?_
  cases w.console.configure name with
  | error flaw => rfl
  | ok c => rfl

/-! ## Sessions -/

/-- Whether a command changes the disk, or may do so, and not through a provider. -/
def Command.isDirect : Command → Bool
  | .writeFile _ _ | .makeFolder _ | .makeLink _ _ | .remove _ | .writeCompanion _ _
  | .regenerate => true
  | _ => false

/-- Whether a command asks a provider to write its companion file. -/
def Command.isWrite : Command → Bool
  | .call _ method _ _ => method == Provider.Method.writeCompanion.name
  | _ => false

/-- Whether a command has nothing to do with files, with the console or with the default
provider, and calls no provider. -/
def Command.isPlain : Command → Bool
  | .read _ | .tree | .setVariable _ _ | .dropVariable _ | .settings _ | .provider _ _ _ _
  | .providerFromSettings _ _ | .callStream _ _ _ | .version => true
  | _ => false

/-- Whether a method goes to the companion file. -/
def Provider.Method.isCompanion : Provider.Method → Bool
  | .certificateIo | .companionDer | .companionMatches | .writeCompanion => true
  | _ => false

/-- Whether a method gives a stream. -/
def Provider.Method.givesStream : Provider.Method → Bool
  | .certificateIo | .bytesToIo => true
  | _ => false

/-- Whether a command asks for the default provider. The arguments of a function are counted
first. -/
def Command.asks : Command → Bool
  | .defaultProvider _ => true
  | .callDefault function args _ =>
    match Provider.Method.ofFunction? function with
    | some m => (Provider.argument m m.name 0 args).isOk
    | none => false
  | _ => false

/-- The stream that a command calls, or that it puts in place if it ends well. -/
def Command.stream? : Command → Option String
  | .callStream stream _ _ | .openCompanion _ stream => some stream
  | .call _ method _ stream =>
    ((Provider.Method.ofName? method).filter (·.givesStream)).map fun _ => stream
  | .callDefault function _ stream =>
    ((Provider.Method.ofFunction? function).filter (·.givesStream)).map fun _ => stream
  | _ => none

/-- The stream that a command is about. -/
def Command.about? : Command → Option String
  | .call _ _ _ stream | .callDefault _ _ stream | .callStream stream _ _
  | .openCompanion _ stream => some stream
  | _ => none

/-- The disk, and the streams but for the one that something is about. -/
def Session.rest (about : Option String) (s : Session) :
    Disk × ({ name : String // about ≠ some name } → Option Stream) :=
  (s.world.disk, fun name => s.streams.lookup name.val)

theorem Session.rest_eq_iff {about : Option String} {s t : Session} :
    t.rest about = s.rest about ↔ t.world.disk = s.world.disk ∧
      ∀ name, about ≠ some name → t.streams.lookup name = s.streams.lookup name := by
  simp [rest, funext_iff]

/-- A part of a session to which neither the environment belongs nor the providers under names. -/
structure Session.Apart (part : Session → γ) : Prop where
  environment : ∀ s vs, part { s with world := { s.world with environment := vs } } = part s
  providers : ∀ s ps made, part { s with providers := ps, made := made } = part s

/-- A part of a session to which the default provider does not belong. -/
structure Session.ApartFromDefault (part : Session → γ) : Prop where
  default : ∀ s p made, part { s with default := p, made := made } = part s
  given : ∀ s ps given, part { s with providers := ps, given := given } = part s

/-- A part of a session to which the world does not belong. -/
def Session.ApartFromWorld (part : Session → γ) : Prop :=
  ∀ s w, part { s with world := w } = part s

/-- A part of a session to which the stream under a name does not belong. -/
def Session.ApartFromStream (part : Session → γ) (name : String) : Prop :=
  ∀ s stream, part { s with streams := s.streams.put name stream } = part s

namespace Act

open Session (Apart ApartFromDefault ApartFromStream ApartFromWorld)

variable {about : Option String} {name : String} {part : Session → γ}

theorem run_get (s : Session) : StateT.run (ExceptT.run (get : Act Session)) s = (.ok s, s) := rfl

/-- A computation on the world of a session gives what it gives there, and changes nothing else. -/
theorem run_ofRun (r : Run α) (s : Session) : StateT.run (ExceptT.run (ofRun r)) s =
    ((r.on s.world).1, { s with world := (r.on s.world).2 }) := by
  unfold ofRun
  rw [run_bind, run_get]
  generalize hr : r.on s.world = y
  obtain ⟨e | a, w⟩ := y <;> simp only [hr] <;> rfl

theorem leaves_ofExcept (fault : ε → Fault) (x : Except ε α) :
    Leaves part (ofExcept fault x) := by
  intro s
  rw [ofExcept, run_ofRun]
  cases x <;> rfl

theorem leaves_named (r : Register α) : Leaves part (named name r) := by
  rw [named]
  cases r.lookup name with
  | some a => exact .pure a
  | none => exact .throw _

theorem leaves_keepStream (h : ApartFromStream part name) (stream : Stream) :
    Leaves part (keepStream name stream) :=
  .bind (.modify fun s => h s stream) fun _ => .pure _

theorem leaves_keepProvider (h : Apart part) (p : Nat → Provider) :
    Leaves part (keepProvider name p) :=
  .get_bind fun s => Leaves.set_of_eq (h.providers s _ _) <|
    .bind (leaves_ofExcept _ _) fun _ => .pure _

theorem leaves_setEnvironment (h : Apart part) (vs : Environment) :
    Leaves part (setEnvironment vs) :=
  .bind (.modify fun s => h.environment s vs) fun _ => .pure _

theorem leaves_loadSettings (given : Register Value) : Leaves part (loadSettings given) :=
  .bind .get fun _ => leaves_ofExcept _ _

theorem leaves_defaultProvider (h : ApartFromDefault part) : Leaves part defaultProvider := by
  refine .bind .get fun s => ?_
  cases s.default with
  | some p => exact .pure p
  | none =>
    exact .bind (leaves_loadSettings _) fun _ => .get_bind fun s =>
      Leaves.set_of_eq (h.default s _ _) (.pure _)

theorem leaves_perform_defaultProvider (h : ApartFromDefault part) :
    Leaves part (perform (.defaultProvider name)) :=
  .bind (leaves_defaultProvider h) fun _ => .bind (leaves_ofExcept _ _) fun _ =>
    .get_bind fun s => Leaves.set_of_eq (h.given s _ _) (.pure _)

theorem leaves_perform_forgetDefault (h : ApartFromDefault part) :
    Leaves part (perform .forgetDefault) :=
  .bind (.modify fun s => h.default s none s.made) fun _ => .pure _

theorem leaves_fixtureOf (source : FixtureSource) : Leaves part (fixtureOf source) := by
  cases source with
  | embedded => exact .pure _
  | pem text => exact .bind (leaves_ofExcept _ _) fun _ => .pure _
  | fields fields => exact .bind (leaves_ofExcept _ _) fun _ => .pure _

theorem leaves_describe (p : Provider) : Leaves part (describe p) :=
  .bind (leaves_ofExcept _ _) fun _ => .bind (leaves_ofExcept _ _) fun _ =>
    .bind (leaves_ofExcept _ _) fun _ => .pure _

theorem leaves_callStream (h : ApartFromStream part name) (call : String) (args : List Value) :
    Leaves part (callStream name call args) :=
  .bind .get fun _ => .bind (leaves_named _) fun _ => .bind (leaves_ofExcept _ _) fun _ =>
    .bind (leaves_ofExcept _ _) fun _ => .bind (.modify fun s => h s _) fun _ => .pure _

/-- A plain command leaves all that it has nothing to do with. -/
theorem leaves_perform_of_isPlain {c : Command} (hc : c.isPlain = true) (h : Apart part)
    (hstream : ∀ name, c.about? = some name → ApartFromStream part name) :
    Leaves part (perform c) := by
  cases c with
  | read path => exact .bind .get fun _ => .bind (leaves_ofExcept _ _) fun _ => .pure _
  | tree => exact .bind .get fun _ => .pure _
  | setVariable name value =>
    exact .bind .get fun _ => .bind (leaves_ofExcept _ _) fun _ => leaves_setEnvironment h _
  | dropVariable name => exact .bind .get fun _ => leaves_setEnvironment h _
  | settings given => exact .bind (leaves_loadSettings _) fun _ => .pure _
  | provider name folder filename source =>
    refine .bind (leaves_fixtureOf source) fun given => ?_
    cases folder with
    | some v => exact .bind (leaves_ofExcept _ _) fun _ => leaves_keepProvider h _
    | none => exact .bind .get fun _ => .bind (.pure _) fun _ => leaves_keepProvider h _
  | providerFromSettings name given =>
    exact .bind (leaves_loadSettings _) fun _ => leaves_keepProvider h _
  | callStream stream call args => exact leaves_callStream (hstream stream rfl) call args
  | version => exact .pure _
  | _ => simp [Command.isPlain] at hc

/-- A method of a provider that does not go to its companion file leaves all but the stream that it
may give. -/
theorem leaves_answer_of_not_isCompanion (h : ApartFromStream part name) (p : Provider)
    {m : Provider.Method} (hm : m.isCompanion = false) (arg : Value) :
    Leaves part (answer p m arg name) := by
  cases m with
  | certificate => exact .pure _
  | certificatePem => exact .pure _
  | certificateFixture => exact .bind (leaves_ofExcept _ _) fun _ => .pure _
  | certificateX509 => exact leaves_describe p
  | bytes => exact .bind (leaves_ofExcept _ _) fun _ => .pure _
  | bytesToIo => exact .bind (leaves_ofExcept _ _) fun _ => leaves_keepStream h _
  | _ => simp [Provider.Method.isCompanion] at hm

/-! ### Apart from the world -/

theorem leaves_ofRun_of_apart (h : ApartFromWorld part) (r : Run α) : Leaves part (ofRun r) := by
  intro s
  rw [run_ofRun]
  exact h s _

theorem leaves_answer_of_apart (hw : ApartFromWorld part) (p : Provider) {m : Provider.Method}
    (hs : m.givesStream = true → ApartFromStream part name) (arg : Value) :
    Leaves part (answer p m arg name) := by
  cases m with
  | certificate => exact .pure _
  | certificatePem => exact .pure _
  | certificateFixture => exact .bind (leaves_ofExcept _ _) fun _ => .pure _
  | certificateX509 => exact leaves_describe p
  | certificateIo =>
    exact .bind (leaves_ofRun_of_apart hw _) fun _ => leaves_keepStream (hs rfl) _
  | companionDer => exact .bind (leaves_ofRun_of_apart hw _) fun _ => .pure _
  | companionMatches => exact .bind (leaves_ofRun_of_apart hw _) fun _ => .pure _
  | writeCompanion => exact .bind (leaves_ofRun_of_apart hw _) fun _ => .pure _
  | bytes => exact .bind (leaves_ofExcept _ _) fun _ => .pure _
  | bytesToIo => exact .bind (leaves_ofExcept _ _) fun _ => leaves_keepStream (hs rfl) _

theorem leaves_configure_of_apart (hw : ApartFromWorld part) (args : List Value) :
    Leaves part (configure args) := by
  match args with
  | [] => exact .bind (leaves_ofRun_of_apart hw _) fun _ => .pure _
  | [v] =>
    exact .bind (leaves_ofExcept _ _) fun _ =>
      .bind (leaves_ofRun_of_apart hw _) fun _ => .pure _
  | _ :: _ :: _ => exact .throw _

theorem leaves_call_of_apart {provider method stream : String} {args : List Value}
    (hw : ApartFromWorld part) (hs : ∀ name,
      (Command.call provider method args stream).stream? = some name → ApartFromStream part name) :
    Leaves part (perform (.call provider method args stream)) := by
  refine .bind .get fun _ => .bind (leaves_named _) fun p => ?_
  rw [callProvider]
  split
  · exact .bind (leaves_ofExcept _ _) fun _ => .pure _
  · cases hm : Provider.Method.ofName? method with
    | none => exact .throw _
    | some m =>
      refine .bind (leaves_ofExcept _ _) fun arg => leaves_answer_of_apart hw p (fun hg => ?_) arg
      exact hs stream (by simp [Command.stream?, hm, hg])

/-- A call of a function that does not get to the default provider does nothing. -/
theorem leaves_callDefault_of_not_asks {function stream : String} {args : List Value}
    (h : (Command.callDefault function args stream).asks = false) :
    Leaves part (callDefault function args stream) := by
  unfold Command.asks at h
  rw [callDefault]
  cases hm : Provider.Method.ofFunction? function with
  | none => exact .throw _
  | some m =>
    simp only [hm] at h ⊢
    cases harg : Provider.argument m m.name 0 args with
    | ok arg => simp [harg, Except.isOk, Except.toBool] at h
    | error flaw => exact fun _ => rfl

theorem leaves_callDefault_of_apart {function stream : String} {args : List Value}
    (hw : ApartFromWorld part) (hs : ∀ name,
      (Command.callDefault function args stream).stream? = some name → ApartFromStream part name)
    (hd : ApartFromDefault part) : Leaves part (callDefault function args stream) := by
  rw [callDefault]
  cases hm : Provider.Method.ofFunction? function with
  | none => exact .throw _
  | some m =>
    refine .bind (leaves_ofExcept _ _) fun arg => .bind (leaves_defaultProvider hd) fun p =>
      leaves_answer_of_apart hw p (fun hg => ?_) arg
    exact hs stream (by simp [Command.stream?, hm, hg])

/-- A command leaves what is apart from the world, from the stream that it calls or puts in place,
and from the default provider if it asks for that or forgets it. -/
theorem leaves_perform_of_apart {c : Command} (hw : ApartFromWorld part) (ha : Apart part)
    (hs : ∀ name, c.stream? = some name → ApartFromStream part name)
    (hd : c.asks = true ∨ c = .forgetDefault → ApartFromDefault part) :
    Leaves part (perform c) := by
  cases hc : c.isPlain with
  | true =>
    refine leaves_perform_of_isPlain hc ha fun name h => hs name ?_
    cases c <;> simp_all [Command.isPlain, Command.about?, Command.stream?]
  | false =>
    cases c with
    | writeFile path data =>
      exact .bind (leaves_ofRun_of_apart hw _) fun _ =>
        .bind (leaves_ofRun_of_apart hw _) fun _ => .pure _
    | makeFolder path => exact .bind (leaves_ofRun_of_apart hw _) fun _ => .pure _
    | makeLink path target => exact .bind (leaves_ofRun_of_apart hw _) fun _ => .pure _
    | remove path => exact .bind (leaves_ofRun_of_apart hw _) fun _ => .pure _
    | defaultProvider name => exact leaves_perform_defaultProvider (hd (.inl rfl))
    | forgetDefault => exact leaves_perform_forgetDefault (hd (.inr rfl))
    | call provider method args stream => exact leaves_call_of_apart hw hs
    | callDefault function args stream =>
      cases hasks : (Command.callDefault function args stream).asks with
      | true => exact leaves_callDefault_of_apart hw hs (hd (.inl hasks))
      | false => exact leaves_callDefault_of_not_asks hasks
    | openCompanion path stream =>
      exact .bind (leaves_ofRun_of_apart hw _) fun _ => leaves_keepStream (hs stream rfl) _
    | decodeCompanion data =>
      exact .bind (leaves_ofExcept _ _) fun _ =>
        .bind (leaves_ofRun_of_apart hw _) fun _ => .pure _
    | readCompanion path => exact .bind (leaves_ofRun_of_apart hw _) fun _ => .pure _
    | writeCompanion folder filename =>
      exact .bind (leaves_ofRun_of_apart hw _) fun _ => .pure _
    | configure args => exact leaves_configure_of_apart hw args
    | note e => exact .bind (leaves_ofRun_of_apart hw _) fun _ => .pure _
    | regenerate =>
      exact .bind .get fun _ => .bind (leaves_ofRun_of_apart hw _) fun _ => .pure _
    | _ => simp [Command.isPlain] at hc

/-- A command leaves the streams that it does not call or put in place. -/
theorem leaves_stream {c : Command} (hc : c.stream? ≠ some name) :
    Leaves (fun s : Session => s.streams.lookup name) (perform c) := by
  refine leaves_perform_of_apart (fun _ _ => rfl) ⟨fun _ _ => rfl, fun _ _ _ => rfl⟩ ?_
    fun _ => ⟨fun _ _ _ => rfl, fun _ _ _ => rfl⟩
  intro other hother s stream
  exact Register.lookup_put_ne (by rintro rfl; exact hc hother) stream s.streams

/-! ### The disk and the streams -/

theorem apart_rest : Apart (Session.rest about) where
  environment _ _ := rfl
  providers _ _ _ := rfl

theorem apartFromDefault_rest : ApartFromDefault (Session.rest about) where
  default _ _ _ := rfl
  given _ _ _ := rfl

/-- Putting a stream under a name leaves those under other names. -/
theorem apartFromStream_rest : ApartFromStream (Session.rest (some name)) name := by
  intro s stream
  rw [Session.rest_eq_iff]
  refine ⟨rfl, fun other hne => ?_⟩
  exact Register.lookup_put_ne (fun h => hne (by rw [h])) stream s.streams

theorem leaves_ofRun {r : Run α} (h : Leaves World.disk r) :
    Leaves (Session.rest about) (ofRun r) := by
  intro s
  rw [run_ofRun, Session.rest_eq_iff]
  exact ⟨h s.world, fun _ _ => rfl⟩

/-- All methods of a provider but one only look at the disk. -/
theorem leaves_answer (p : Provider) {m : Provider.Method} (hm : m ≠ .writeCompanion)
    (arg : Value) : Leaves (Session.rest (some name)) (answer p m arg name) := by
  cases m with
  | certificateIo =>
    exact .bind (leaves_ofRun p.leaves_openCompanion) fun _ =>
      leaves_keepStream apartFromStream_rest _
  | companionDer => exact .bind (leaves_ofRun p.leaves_companionDer) fun _ => .pure _
  | companionMatches => exact .bind (leaves_ofRun p.leaves_companionMatches) fun _ => .pure _
  | writeCompanion => exact absurd rfl hm
  | _ => exact leaves_answer_of_not_isCompanion apartFromStream_rest p rfl arg

theorem eq_name_of_ofName? {m : Provider.Method} (h : Provider.Method.ofName? name = some m) :
    name = m.name := by
  have := List.find?_some h
  simpa using (beq_iff_eq.1 this).symm

theorem leaves_callProvider (p : Provider) {method : String}
    (hm : method ≠ Provider.Method.writeCompanion.name) (args : List Value) :
    Leaves (Session.rest (some name)) (callProvider p method args name) := by
  rw [callProvider]
  split
  · exact .bind (leaves_ofExcept _ _) fun _ => .pure _
  · cases h : Provider.Method.ofName? method with
    | none => exact .throw _
    | some m =>
      refine .bind (leaves_ofExcept _ _) fun arg => leaves_answer p ?_ arg
      rintro rfl
      exact hm (eq_name_of_ofName? h)

/-- No function on the default provider writes. -/
theorem leaves_callDefault (function : String) (args : List Value) :
    Leaves (Session.rest (some name)) (callDefault function args name) := by
  rw [callDefault]
  cases h : Provider.Method.ofFunction? function with
  | none => exact .throw _
  | some m =>
    refine .bind (leaves_ofExcept _ _) fun arg =>
      .bind (leaves_defaultProvider apartFromDefault_rest) fun p => leaves_answer p ?_ arg
    rintro rfl
    exact absurd (List.mem_of_find?_eq_some h) (by decide)

theorem leaves_configure (args : List Value) : Leaves (Session.rest about) (configure args) := by
  match args with
  | [] => exact .bind (leaves_ofRun (Regenerate.leaves_configure _)) fun _ => .pure _
  | [v] =>
    exact .bind (leaves_ofExcept _ _) fun _ =>
      .bind (leaves_ofRun (Regenerate.leaves_configure _)) fun _ => .pure _
  | _ :: _ :: _ => exact .throw _

/-- A command that is no write leaves the disk and the streams that it is not about. -/
theorem leaves_perform {c : Command} (hd : c.isDirect = false) (hw : c.isWrite = false) :
    Leaves (Session.rest c.about?) (perform c) := by
  cases hc : c.isPlain with
  | true => exact leaves_perform_of_isPlain hc apart_rest fun _ h => h ▸ apartFromStream_rest
  | false =>
    cases c with
    | defaultProvider name => exact leaves_perform_defaultProvider apartFromDefault_rest
    | forgetDefault => exact leaves_perform_forgetDefault apartFromDefault_rest
    | call provider method args stream =>
      refine .bind .get fun _ => .bind (leaves_named _) fun p => leaves_callProvider p ?_ args
      rintro rfl
      simp [Command.isWrite] at hw
    | callDefault function args stream => exact leaves_callDefault function args
    | openCompanion path stream =>
      exact .bind (leaves_ofRun (Companion.leaves_openFile path)) fun _ =>
        leaves_keepStream apartFromStream_rest _
    | decodeCompanion data =>
      exact .bind (leaves_ofExcept _ _) fun _ =>
        .bind (leaves_ofRun (Companion.leaves_decode _)) fun _ => .pure _
    | readCompanion path =>
      exact .bind (leaves_ofRun (Companion.leaves_read path)) fun _ => .pure _
    | configure args => exact leaves_configure args
    | note e => exact .bind (leaves_ofRun (Run.leaves_note _ _ _ _)) fun _ => .pure _
    | _ => simp_all [Command.isDirect, Command.isPlain]

end Act

end Specimen
