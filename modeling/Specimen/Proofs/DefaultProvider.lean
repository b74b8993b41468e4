import Specimen.Proofs.LastWrite
import Specimen.Proofs.Sources

/-!
# One default provider

The default provider is made when it is first asked for, from the settings as they are then. From
there until it is forgotten it is the same one, whatever becomes of the settings and of the disk,
and the functions of the library answer as its methods do.

* `Act.defaults_perform`: the commands that have nothing to do with the default provider.
* `Session.next_default_cases`: what one command does about it.
* `Session.default_eq_iff`: which one there is after a run.
* `Session.one_default_provider`: where it comes from, what it answers, and what comes of settings
  that are wrong.
-/

namespace Specimen

namespace Session

/-- The settings as they are now. -/
def settings (s : Session) : Except SettingsFlaw Settings :=
  Settings.load s.world.disk s.world.settingsFile s.world.resourceFolder s.world.environment []

/-- The session once a default provider has been made. -/
def withDefault (s : Session) (p : Provider) : Session :=
  { s with default := some p, made := s.made + 1 }

/-- The default provider, and the numbers of all that have been given. -/
def defaults (s : Session) : Option Provider × List Nat :=
  (s.default, s.given)

/-- A session after a method of a provider has been asked, with the answer and what was printed. -/
def asked (s : Session) (p : Provider) (m : Provider.Method) (arg : Value) (stream : String) :
    Except Fault Reply × List String × Session :=
  let (r, t) := StateT.run (ExceptT.run (Act.answer p m arg stream)) s.silent
  (r, t.world.console.lines, t)

end Session

/-! ## Commands that do not ask -/

namespace Act

open Session (defaults Apart ApartFromStream ApartFromWorld)

variable {name : String} {c : Command}

theorem apart_defaults : Apart defaults where
  environment _ _ := rfl
  providers _ _ _ := rfl

theorem apartFromStream_defaults : ApartFromStream defaults name :=
  fun _ _ => rfl

theorem apartFromWorld_defaults : ApartFromWorld defaults :=
  fun _ _ => rfl

/-- A command that neither asks for the default provider nor forgets it has nothing to do with
it. -/
theorem defaults_perform (hf : c ≠ .forgetDefault) (ha : c.asks = false) :
    Leaves defaults (perform c) := by
  refine leaves_perform_of_apart apartFromWorld_defaults apart_defaults
    (fun _ _ => apartFromStream_defaults) ?_
  rintro (h | h)
  · simp [ha] at h
  · exact absurd h hf

/-! ## Commands that ask -/

variable {s : Session} {p : Provider}

/-- A default provider that is not there is made, if the settings are in order. -/
theorem run_defaultProvider_of_none (h : s.default = none) :
    StateT.run (ExceptT.run defaultProvider) s = match s.settings with
      | .ok settings => (.ok (.ofSettings s.made settings),
          s.withDefault (.ofSettings s.made settings))
      | .error flaw => (.error (.settings flaw), s) := by
  unfold defaultProvider
  rw [run_bind, run_get]
  simp only [h, run_bind, loadSettings, run_get, run_ofExcept]
  have hload : Settings.load s.world.disk s.world.settingsFile s.world.resourceFolder
    s.world.environment [] = s.settings := rfl
  rw [hload]
  cases s.settings <;> rfl

/-- What a command does with the default provider that it asks for. -/
theorem exists_run_perform_eq (ha : c.asks = true) :
    ∃ f : Provider → Act Reply, ∀ s, StateT.run (ExceptT.run (perform c)) s =
      StateT.run (ExceptT.run (defaultProvider >>= f)) s := by
  cases c with
  | defaultProvider name => exact ⟨_, fun _ => rfl⟩
  | callDefault function args stream =>
    unfold Command.asks at ha
    cases hm : Provider.Method.ofFunction? function with
    | none => simp [hm] at ha
    | some m =>
      simp only [hm] at ha
      cases harg : Provider.argument m m.name 0 args with
      | error flaw => simp [harg, Except.isOk, Except.toBool] at ha
      | ok arg =>
        refine ⟨fun p => answer p m arg stream, fun s => ?_⟩
        rw [perform, callDefault, hm]
        simp only [run_bind, harg, run_ofExcept, Except.mapError]
  | _ => simp [Command.asks] at ha

/-- A command that asks for a default provider that is not there makes it and goes on, or it
complains about the settings and does nothing. -/
theorem run_perform_of_none (ha : c.asks = true) (h : s.default = none) :
    StateT.run (ExceptT.run (perform c)) s = match s.settings with
      | .ok settings =>
        StateT.run (ExceptT.run (perform c)) (s.withDefault (.ofSettings s.made settings))
      | .error flaw => (.error (.settings flaw), s) := by
  obtain ⟨f, hf⟩ := exists_run_perform_eq ha
  rw [hf, run_bind, run_defaultProvider_of_none h]
  cases s.settings with
  | error flaw => rfl
  | ok settings => simp only [hf, run_bind, defaultProvider_cached (rfl :
      (s.withDefault (.ofSettings s.made settings)).default = _)]

/-- The default provider that is there is given. -/
theorem run_perform_defaultProvider {path : Path} (h : s.default = some p)
    (hpath : p.certificatePath = .ok path) :
    StateT.run (ExceptT.run (perform (.defaultProvider name))) s =
      (.ok (.default path (s.given.map (· == p.number))),
        { s with providers := s.providers.put name p, given := s.given ++ [p.number] }) := by
  rw [perform, run_bind, defaultProvider_cached h]
  simp only [run_bind, hpath, run_ofExcept, Except.mapError]
  rfl

/-- A function of the library answers as the method of the default provider does. -/
theorem run_perform_callDefault {m : Provider.Method} {stream : String} {args : List Value}
    {arg : Value} (h : s.default = some p) (hm : m ∈ Provider.Method.functions)
    (harg : Provider.argument m m.name 0 args = .ok arg) :
    StateT.run (ExceptT.run (perform (.callDefault m.name args stream))) s =
      StateT.run (ExceptT.run (answer p m arg stream)) s := by
  have hfound : Provider.Method.ofFunction? m.name = some m := by
    revert hm
    cases m <;> decide
  rw [perform, callDefault, hfound]
  simp only [run_bind, harg, run_ofExcept, Except.mapError, defaultProvider_cached h]

/-- The default provider is there until it is forgotten, and all that is given is that one. -/
theorem run_perform_of_cached (h : s.default = some p) (hc : c ≠ .forgetDefault) :
    (StateT.run (ExceptT.run (perform c)) s).2.default = some p ∧
      ∃ k, (StateT.run (ExceptT.run (perform c)) s).2.given =
        s.given ++ List.replicate k p.number := by
  have hleft : ∀ t : Session, defaults t = defaults s →
      t.default = some p ∧ ∃ k, t.given = s.given ++ List.replicate k p.number := fun t ht => by
    obtain ⟨hd, hg⟩ := Prod.mk.inj ht
    exact ⟨hd.trans h, 0, by simpa using hg⟩
  cases ha : c.asks with
  | false => exact hleft _ (defaults_perform hc ha s)
  | true =>
    cases c with
    | defaultProvider name =>
      cases hpath : p.certificatePath with
      | error flaw =>
        refine hleft _ ?_
        rw [perform, run_bind, defaultProvider_cached h]
        simp only [run_bind, hpath, run_ofExcept, Except.mapError]
      | ok path =>
        rw [run_perform_defaultProvider h hpath]
        exact ⟨h, 1, rfl⟩
    | callDefault function args stream =>
      unfold Command.asks at ha
      cases hm : Provider.Method.ofFunction? function with
      | none => simp [hm] at ha
      | some m =>
        simp only [hm] at ha
        cases harg : Provider.argument m m.name 0 args with
        | error flaw => simp [harg, Except.isOk, Except.toBool] at ha
        | ok arg =>
          obtain rfl : m.name = function := by simpa using List.find?_some hm
          rw [run_perform_callDefault h (List.mem_of_find?_eq_some hm) harg]
          exact hleft _ (leaves_answer_of_apart apartFromWorld_defaults p
            (fun _ => apartFromStream_defaults) arg s)
    | _ => simp [Command.asks] at ha

end Act

/-! ## Runs -/

namespace Session

variable {s : Session} {c : Command} {cs : List Command} {p : Provider} {settings : Settings}

/-- A command makes the default provider: it asks for one, there is none, and the settings are in
order. -/
structure Makes (s : Session) (c : Command) (settings : Settings) : Prop where
  missing : s.default = none
  asks : c.asks = true
  inOrder : s.settings = .ok settings

theorem next_of_cached (h : s.default = some p) (hc : c ≠ .forgetDefault) :
    (s.next c).default = some p ∧
      ∃ k, (s.next c).given = s.given ++ List.replicate k p.number :=
  Act.run_perform_of_cached (s := s.silent) h hc

/-- The default provider is made before the command goes on. -/
theorem step_of_makes (h : s.Makes c settings) :
    s.step c = (s.withDefault (.ofSettings s.made settings)).step c := by
  have hnone : s.silent.default = none := h.missing
  have hs : s.silent.settings = .ok settings := h.inOrder
  have hrun := Act.run_perform_of_none h.asks hnone
  rw [hs] at hrun
  unfold step
  rw [hrun]
  rfl

theorem next_of_makes (h : s.Makes c settings) :
    (s.next c).default = some (.ofSettings s.made settings) := by
  have hc : c ≠ .forgetDefault := by
    rintro rfl
    exact absurd h.asks (by decide)
  rw [next, step_of_makes h]
  exact (next_of_cached rfl hc).1

/-- Settings that are wrong are complained about, and the session is as it was. -/
theorem step_of_wrongSettings {flaw : SettingsFlaw} (h : s.default = none) (ha : c.asks = true)
    (hs : s.settings = .error flaw) : s.step c = (.error (.settings flaw), [], s.silent) := by
  have hnone : s.silent.default = none := h
  have hflaw : s.silent.settings = .error flaw := hs
  have hrun := Act.run_perform_of_none ha hnone
  rw [hflaw] at hrun
  unfold step
  rw [hrun]
  rfl

/-- What one command does about the default provider: if there is one afterwards, it was there
before, or the command has made it. -/
theorem next_default_cases (h : (s.next c).default = some p) :
    (s.default = some p ∧ c ≠ .forgetDefault) ∨
      ∃ settings, s.Makes c settings ∧ p = .ofSettings s.made settings := by
  by_cases hc : c = .forgetDefault
  · subst hc
    have hnone : (s.next .forgetDefault).default = none := rfl
    simp [hnone] at h
  · cases hd : s.default with
    | some q =>
      obtain rfl : q = p := Option.some.inj ((next_of_cached hd hc).1.symm.trans h)
      exact .inl ⟨rfl, hc⟩
    | none =>
      cases ha : c.asks with
      | false =>
        have hsame := congrArg Prod.fst (Act.defaults_perform hc ha s.silent)
        have hstill : (s.next c).default = none := hsame.trans hd
        simp [hstill] at h
      | true =>
        cases hs : s.settings with
        | ok settings =>
          have hmakes : s.Makes c settings := ⟨hd, ha, hs⟩
          exact .inr ⟨settings, hmakes, Option.some.inj (h.symm.trans (next_of_makes hmakes))⟩
        | error flaw =>
          rw [next, step_of_wrongSettings hd ha hs] at h
          exact absurd (hd.symm.trans h) (by simp)

theorem after_append (s : Session) (cs ds : List Command) :
    s.after (cs ++ ds) = (s.after cs).after ds := by
  induction cs generalizing s with
  | nil => rfl
  | cons c cs ih => exact ih (s.next c)

/-- The default provider stays the same one in a run that does not forget it. -/
theorem after_of_cached (h : s.default = some p) (hcs : ∀ c ∈ cs, c ≠ .forgetDefault) :
    (s.after cs).default = some p ∧
      ∃ k, (s.after cs).given = s.given ++ List.replicate k p.number := by
  induction cs generalizing s with
  | nil => exact ⟨h, 0, by simp [after]⟩
  | cons c cs ih =>
    obtain ⟨hnext, k, hk⟩ := next_of_cached h (hcs c (by simp))
    obtain ⟨hafter, l, hl⟩ := ih hnext fun c' hc' => hcs c' (by simp [hc'])
    refine ⟨hafter, k + l, ?_⟩
    rw [after, hl, hk, List.append_assoc, List.replicate_append_replicate]

/-- A run has made a provider the default one, from the settings as they were then, and has not
forgotten it since. -/
def MadeIn (s : Session) (cs : List Command) (p : Provider) : Prop :=
  ∃ pre c post settings, cs = pre ++ c :: post ∧ (s.after pre).Makes c settings ∧
    p = .ofSettings (s.after pre).made settings ∧
    p.certificatePath = .ok settings.certificatePath ∧ ∀ c ∈ post, c ≠ .forgetDefault

theorem MadeIn.default (h : s.MadeIn cs p) : (s.after cs).default = some p := by
  obtain ⟨pre, c, post, settings, rfl, hmakes, rfl, -, hpost⟩ := h
  rw [after_append, after]
  exact (after_of_cached (next_of_makes hmakes) hpost).1

theorem MadeIn.cons (h : (s.next c).MadeIn cs p) : s.MadeIn (c :: cs) p := by
  obtain ⟨pre, c', post, settings, rfl, hmakes, hp, hpath, hpost⟩ := h
  exact ⟨c :: pre, c', post, settings, rfl, hmakes, hp, hpath, hpost⟩

/-- The default provider after a run was there from the start, or has been made in the run. -/
theorem after_default_cases (h : (s.after cs).default = some p) :
    (s.default = some p ∧ ∀ c ∈ cs, c ≠ .forgetDefault) ∨ s.MadeIn cs p := by
  induction cs generalizing s with
  | nil => exact .inl ⟨h, by simp⟩
  | cons c cs ih =>
    rcases ih h with ⟨hnext, hcs⟩ | hmade
    · rcases next_default_cases hnext with ⟨hd, hc⟩ | ⟨settings, hmakes, rfl⟩
      · exact .inl ⟨hd, by simpa using ⟨hc, hcs⟩⟩
      · exact .inr ⟨[], c, cs, settings, rfl, hmakes, rfl,
          Provider.ofSettings_certificatePath _ _, hcs⟩
    · exact .inr hmade.cons

theorem default_eq_iff (hs : s.default = none) :
    (s.after cs).default = some p ↔ s.MadeIn cs p := by
  constructor
  · intro h
    rcases after_default_cases h with ⟨hd, -⟩ | hmade
    · simp [hs] at hd
    · exact hmade
  · exact MadeIn.default

/-- A session serves a provider as the default one: it is the one that is given, with its path and
whether it is the same as those given earlier, and the functions of the library answer as its
methods do. -/
structure Serves (s : Session) (p : Provider) : Prop where
  default : s.default = some p
  given : ∀ name path, p.certificatePath = .ok path → s.step (.defaultProvider name) =
    (.ok (.default path (s.given.map (· == p.number))), [],
      { s.silent with providers := s.providers.put name p, given := s.given ++ [p.number] })
  function : ∀ m ∈ Provider.Method.functions, ∀ args arg stream,
    Provider.argument m m.name 0 args = .ok arg →
    s.step (.callDefault m.name args stream) = s.asked p m arg stream ∧
    ∀ name, s.providers.lookup name = some p →
      s.step (.call name m.name args stream) = s.asked p m arg stream

theorem serves (h : s.default = some p) : s.Serves p where
  default := h
  given name path hpath := by
    unfold step
    rw [Act.run_perform_defaultProvider (s := s.silent) h hpath]
    rfl
  function m hm args arg stream harg := by
    refine ⟨?_, fun name hp => ?_⟩
    · unfold step
      rw [Act.run_perform_callDefault (s := s.silent) h hm harg]
      rfl
    · have hargs : Provider.argument m ("CertificateFixtureProvider." ++ m.name) 1 args =
          .ok arg :=
        Provider.argument_eq_ok_iff.2 (Provider.argument_eq_ok_iff.1 harg)
      unfold step
      rw [Act.run_call (s := s.silent) hp, hargs]
      rfl

/-- **One default provider.** There is a default provider after a run exactly if the run has made
one and not forgotten it since; it has the path of the settings as they were then. As long as it is
not forgotten it is the one that is given and that answers, whatever else happens. A command that
asks for a default provider that is missing makes it from the settings as they are now, and goes on
with it; if they are wrong, it complains about them, and there is none afterwards either. -/
theorem one_default_provider {s : Session} (hs : s.default = none) (cs : List Command) :
    let t := s.after cs
    (∀ p, t.default = some p ↔ s.MadeIn cs p) ∧
    (∀ p, t.default = some p → ∀ later, (∀ c ∈ later, c ≠ .forgetDefault) →
      (t.after later).Serves p ∧
      ∃ k, (t.after later).given = t.given ++ List.replicate k p.number) ∧
    ∀ c, t.default = none → c.asks = true →
      (∀ settings, t.settings = .ok settings →
        let p := Provider.ofSettings t.made settings
        t.step c = (t.withDefault p).step c ∧ (t.withDefault p).Serves p) ∧
      ∀ flaw, t.settings = .error flaw → t.step c = (.error (.settings flaw), [], t.silent) := by
  refine ⟨fun p => default_eq_iff hs, fun p hp later hlater => ?_, fun c hnone ha => ⟨?_, ?_⟩⟩
  · obtain ⟨hdefault, hgiven⟩ := after_of_cached hp hlater
    exact ⟨serves hdefault, hgiven⟩
  · exact fun settings hsettings => ⟨step_of_makes ⟨hnone, ha, hsettings⟩, serves rfl⟩
  · exact fun flaw hflaw => step_of_wrongSettings hnone ha hflaw

/-- A session in which a folder is set. -/
def folderSample (folder : String) : Session where
  world :=
    { disk := ⟨[], [], []⟩
      environment := [("CERT_FIXTURES_RESOURCE_DIR", folder),
        ("CERT_FIXTURES_CERTIFICATE_FILENAME", "")]
      settingsFile := ⟨.here, [".env"]⟩
      resourceFolder := ⟨.here, []⟩
      ascents := 9 }
  limits := limitsSample

/-- The name of the file is wrong at first, and another folder is set in the end. -/
def epochSample : List Command :=
  [.defaultProvider "p", .dropVariable "CERT_FIXTURES_CERTIFICATE_FILENAME",
    .callDefault "bytes" [.text "00"] "h", .setVariable "CERT_FIXTURES_RESOURCE_DIR" "later"]

theorem settings_folderSample : ((folderSample "first").after (epochSample.take 2)).settings =
    .ok ⟨⟨.here, ["first"]⟩, "certificate.cer", "INFO"⟩ :=
  eq_ok_of_toOption (by decide +kernel)

theorem wrongSettings_folderSample : ∃ flaw, (folderSample "first").settings = .error flaw := by
  have h : (folderSample "first").settings.isOk = false := by decide +kernel
  cases hs : (folderSample "first").settings <;> simp_all [Except.isOk, Except.toBool]

theorem one_default_provider_sample :
    let t := (folderSample "first").after epochSample
    (∃ flaw, (folderSample "first").step (.defaultProvider "p") =
      (.error (.settings flaw), [], (folderSample "first").silent)) ∧
    ∃ p, t.default = some p ∧
      p.certificatePath = .ok ⟨.here, ["first", "certificate.cer"]⟩ ∧
      t.step (.callDefault "certificate" [] "h") = t.asked p .certificate .none "h" := by
  intro t
  have hsettings := settings_folderSample
  obtain ⟨flaw, hflaw⟩ := wrongSettings_folderSample
  obtain ⟨-, -, hasks⟩ := one_default_provider (s := folderSample "first") rfl []
  obtain ⟨-, hwrong⟩ := hasks (.defaultProvider "p") rfl rfl
  obtain ⟨hmade, hserves, -⟩ := one_default_provider (s := folderSample "first") rfl epochSample
  have hp := (hmade _).2 ⟨epochSample.take 2, _, _, _, rfl,
    ⟨by decide +kernel, by decide, hsettings⟩, rfl, rfl, by simp⟩
  obtain ⟨hserve, -⟩ := hserves _ hp [] (by simp)
  exact ⟨⟨flaw, hwrong flaw hflaw⟩, _, hp, by decide +kernel,
    (hserve.function .certificate (by decide) [] .none "h" rfl).1⟩

end Session

end Specimen
