import Specimen.Proofs.CompanionWrite
import Specimen.Proofs.Embedded
import Specimen.Proofs.Leaves

/-!
# How the command ends

The command says nothing but the truth: when it reports success, the companion file holds the
embedded certificate, and when it fails, no file has been touched. Between the two stands a single
write.

* `Ending`: the ends of the command, with what each of them means for the disk.
* `writeAndCheck_ending`: what is written is what is then read.
* `run_ending`: every run has one of the ends.
* `run_truthful`: what the outcome of a run says about the settings, the disk and the console.
-/

namespace Specimen

/-- If events of its level are printed, an event that has been noted was printed last. -/
theorem Console.head?_printed_note {c : Console} {e : Event}
    (h : (c.note .application e).prints .application e.level = true) :
    (c.note .application e).printed.head? = some e := by
  have hc : c.prints .application e.level = true := h
  simp [note, hc]

namespace Regenerate

open Run Disk

variable {w : World} {number : Nat}

/-- The settings that the command finds. -/
def settingsOf (w : World) : Except SettingsFlaw Settings :=
  Settings.load w.disk w.settingsFile w.resourceFolder w.environment []

/-- The complaint about wrong settings. -/
def settingsComplaint (flaw : SettingsFlaw) : String :=
  "FATAL: Configuration error: " ++ flaw.message

/-- The event with which a run that did its work closes. -/
def doneEvent (path : Path) (matched : Bool) : Event :=
  ⟨.info, "app.done", [("path", .text path.text), ("matches", .bool matched)]⟩

/-- The ends of writing and reading back, with what they mean for the disk `d` from before. -/
inductive WriteEnding (d : Disk) (path : Path) : Except Fault Outcome × World → Prop where
  | done {n : Nat} {c : Console} {w : World} (hfile : w.disk.openFile path = .ok (some n))
      (hdisk : FileUpdated d w.disk n Embedded.der)
      (hconsole : w.console = c.note .application (doneEvent path true)) :
      WriteEnding d path (.ok .success, w)
  | refused {w : World} (hdisk : FoldersAdded d w.disk) :
      WriteEnding d path (.ok (.failure none), w)
  | fault {e : Fault} {w : World} (hdisk : FoldersAdded d w.disk) :
      WriteEnding d path (.error e, w)

/-- The ends of the command. -/
inductive Ending (w : World) : Except Fault Outcome × World → Prop where
  | wrongSettings {flaw : SettingsFlaw} (hs : settingsOf w = .error flaw) :
      Ending w (.ok (.failure (some (settingsComplaint flaw))), w)
  | settled {s : Settings} {r : Except Fault Outcome × World} (hs : settingsOf w = .ok s)
      (h : WriteEnding w.disk s.certificatePath r) : Ending w r

theorem toDer_nil : Companion.toDer [] = .error .notCertificate := by
  decide +kernel

/-- Comparing leaves the disk, and answers by what the file of the provider holds. -/
theorem companionMatches_on {p : Provider} {n : Nat} (hgiven : p.fixture = Embedded.fixture)
    (hfile : p.file? w.disk = some n) (hcontent : w.disk.content n = Embedded.der) :
    ∃ w', p.companionMatches.on w = (.ok true, w') ∧ w'.disk = w.disk := by
  have hder : p.fixture.der = .ofOctets Embedded.der := by rw [hgiven, Embedded.fixture_der]
  have hfst := Provider.companionMatches_of_file? hfile hder
  rw [hcontent, Embedded.toDer_der] at hfst
  refine ⟨(p.companionMatches.on w).2, Prod.ext ?_ rfl, p.leaves_companionMatches w⟩
  simpa [Except.mapError, Except.map] using hfst

/-- Comparing what a sink holds ends in a fault. -/
theorem companionMatches_on_sink {p : Provider} {path : Path} (hp : p.certificatePath = .ok path)
    (ho : w.disk.openFile path = .ok none) :
    ∃ e w', p.companionMatches.on w = (.error e, w') ∧ w'.disk = w.disk := by
  have hr : w.disk.readFile path = .ok [] := Disk.readFile_of_openFile ho
  have hfst : (p.companionMatches.on w).1 = .error (.companion .notCertificate) := by
    rw [Provider.companionMatches_on_fst, Provider.companionDer_of_readFile hp hr, toDer_nil]
    rfl
  exact ⟨_, (p.companionMatches.on w).2, Prod.ext hfst rfl, p.leaves_companionMatches w⟩

/-- After a write, the command finds the certificate in the companion file. -/
theorem writeAndCheck_of_written (s : Settings) {p : Provider} {path : Path} {n : Nat}
    {w₁ : World} (hgiven : p.fixture = Embedded.fixture)
    (hon : p.writeCompanion.on w = (.ok path, w₁)) (hfile : p.file? w₁.disk = some n)
    (hcontent : w₁.disk.content n = Embedded.der) :
    ∃ w₂ : World, w₂.disk = w₁.disk ∧ (writeAndCheck s p).on w = (.ok .success,
      { w₂ with console := w₂.console.note .application (doneEvent path true) }) := by
  obtain ⟨w₂, hmatch, hdisk⟩ := companionMatches_on hgiven hfile hcontent
  refine ⟨w₂, hdisk, ?_⟩
  unfold writeAndCheck
  rw [on_bind, on_get]
  simp only [hon, on_bind, on_set, hmatch, on_note, on_pure]
  rfl

/-- What is written is what is then read. A sink, from which nothing is read, ends in a fault. -/
theorem writeAndCheck_ending (s : Settings) {p : Provider} {d : Disk} (hdisk : w.disk = d)
    (hd : d.Sound) (hpath : p.certificatePath = .ok s.certificatePath)
    (hgiven : p.fixture = Embedded.fixture) :
    WriteEnding d s.certificatePath ((writeAndCheck s p).on w) := by
  subst hdisk
  rcases p.writeCompanion_cases hd with
    ⟨path, n, der, w₁, hon, hp, hf, hder, hu⟩ | ⟨path, w₁, hon, hp, ho, hadd⟩ | ⟨e, w₁, hon, hadd⟩
  · rw [hgiven, Embedded.fixture_der] at hder
    obtain rfl : Embedded.der = der := Option.some.inj hder
    obtain rfl : path = s.certificatePath := Except.ok.inj (hp.symm.trans hpath)
    obtain ⟨w₂, hdisk, hend⟩ := writeAndCheck_of_written s hgiven hon hf hu.content
    obtain ⟨path', hp', ho⟩ := Provider.file?_eq_some_iff.1 hf
    obtain rfl : path' = s.certificatePath := Except.ok.inj (hp'.symm.trans hpath)
    rw [← hdisk] at ho hu
    rw [hend]
    exact .done ho hu rfl
  · obtain ⟨e, w₂, hmatch, hdisk⟩ := companionMatches_on_sink hp ho
    rw [← hdisk] at hadd
    unfold writeAndCheck
    rw [on_bind, on_get]
    simp only [hon, on_bind, on_set, hmatch]
    exact .fault hadd
  · unfold writeAndCheck
    rw [on_bind, on_get]
    cases e with
    | disk flaw =>
      simp only [hon, on_bind, on_set]
      split
      · exact .refused hadd
      · exact .fault hadd
    | _ =>
      simp only [hon, on_bind, on_set]
      exact .fault hadd

/-! ## The whole command -/

/-- What is noted of a run that has its settings. -/
def startingEvent (s : Settings) : Event :=
  ⟨.info, "app.starting", [("version", .text version), ("log_level", .text s.logLevel),
    ("resource_dir", .text s.resourceFolder.text)]⟩

/-- The world when the command goes on to the write. -/
def started (w : World) (s : Settings) (n : Nat) : World :=
  { w with console :=
      { w.console with threshold := some n }.note .application (startingEvent s) }

/-- A name that sets no threshold changes nothing. -/
theorem configure_of_error {name : String} {flaw : ThresholdFlaw}
    (h : thresholdOf name = .error flaw) (w : World) :
    (configure name).on w = (.error (.threshold flaw), w) := by
  simp [configure, on_bind, Console.configure, h, Except.map]

theorem configure_of_ok {name : String} {n : Nat} (h : thresholdOf name = .ok n) (w : World) :
    (configure name).on w =
      (.ok (), { w with console := { w.console with threshold := some n } }) := by
  simp [configure, on_bind, Console.configure, h, Except.map]

/-- With settings, the command ends over the threshold, or it goes on to the write with the disk as
it was. -/
theorem run_of_settings (number : Nat) {s : Settings} (hs : settingsOf w = .ok s) :
    (∃ flaw, thresholdOf s.logLevel = .error flaw ∧
      (run number).on w = (.error (.threshold flaw), w)) ∨
    ∃ n, thresholdOf s.logLevel = .ok n ∧
      (run number).on w = (writeAndCheck s (.ofSettings number s)).on (started w s n) := by
  have hrun : (run number).on w = (runWith number s).on w := by
    unfold settingsOf at hs
    simp [run, on_bind, hs]
  rw [hrun, runWith]
  cases hl : thresholdOf s.logLevel with
  | error flaw => exact .inl ⟨flaw, rfl, on_bind_error (configure_of_error hl w)⟩
  | ok n =>
    have hon := configure_of_ok hl w
    exact .inr ⟨n, rfl, (on_bind_ok hon).trans (on_bind_ok (on_note _ _ _ _ _))⟩

/-- Every run has one of the ends. -/
theorem run_ending (number : Nat) (hw : w.disk.Sound) : Ending w ((run number).on w) := by
  cases hs : settingsOf w with
  | error flaw =>
    rw [run_of_wrongSettings number hs]
    exact .wrongSettings hs
  | ok s =>
    refine .settled hs ?_
    rcases run_of_settings number hs with ⟨flaw, -, hon⟩ | ⟨n, -, hon⟩
    · rw [hon]
      exact .fault (.refl _)
    · rw [hon]
      exact writeAndCheck_ending s rfl hw (Provider.ofSettings_certificatePath number s)
        (Provider.fixture_of_notGiven rfl)

/-- A run whose write goes well, and to a file, is a success. -/
theorem run_success (number : Nat) {s : Settings} {d : Disk} {n : Nat} (hw : w.disk.Sound)
    (hs : settingsOf w = .ok s) (hl : (thresholdOf s.logLevel).isOk = true)
    (hmade : (w.disk.makeFolders w.ascents s.resourceFolder).2 = .ok ())
    (hwrite : (w.disk.makeFolders w.ascents s.resourceFolder).1.writeFile s.certificatePath
      Embedded.der = .ok d)
    (hfile : d.openFile s.certificatePath = .ok (some n)) :
    ∃ w', (run number).on w = (.ok .success, w') := by
  rcases run_of_settings number hs with ⟨flaw, hflaw, -⟩ | ⟨level, -, hon⟩
  · simp [hflaw, Except.isOk, Except.toBool] at hl
  · let p := Provider.ofSettings number s
    have hgiven : p.fixture = Embedded.fixture := Provider.fixture_of_notGiven rfl
    have hpath : p.certificatePath = .ok s.certificatePath := rfl
    have hder : p.fixture.der.octets? = some Embedded.der := by
      rw [hgiven, Embedded.octets?_fixture_der]
    obtain ⟨e, hwritten⟩ := Companion.write_of_steps (w := started w s level) hmade hpath hder
      hwrite
    have hcontent : d.content n = Embedded.der := by
      have hsound := (Disk.makeFolders_foldersAdded w.disk w.ascents s.resourceFolder).sound hw
      rcases Disk.writeFile_cases hsound hwrite with ⟨loc, m, hu, hl⟩ | ⟨rfl, loc, hl⟩
      · have ho := Disk.openFile_of_write hl
        rw [hfile, Except.ok.injEq, Option.some.injEq] at ho
        rw [ho, hu.content]
      · have ho := Disk.openFile_of_write_sink hl
        rw [hfile] at ho
        simp at ho
    obtain ⟨w₂, -, hend⟩ := writeAndCheck_of_written (p := p) s hgiven hwritten
      (Provider.file?_eq_some_iff.2 ⟨_, hpath, hfile⟩) hcontent
    exact ⟨_, hon.trans hend⟩

/-- **The command is truthful.** If it reports success, the settings are in order, the path of the
companion file leads to a file that holds the encoding of the embedded certificate, all other files
are as they were, and it was printed, if anything was, that the two match. It complains about the
settings exactly if they are wrong, and then nothing has happened at all. However else it ends, it
has made folders at most. -/
theorem run_truthful (number : Nat) {w w' : World} {r : Except Fault Outcome}
    (hw : w.disk.Sound) (h : (run number).on w = (r, w')) :
    (r = .ok .success → ∃ s n der, settingsOf w = .ok s ∧
      w'.disk.openFile s.certificatePath = .ok (some n) ∧
      Embedded.fixture.der = .ofOctets der ∧ FileUpdated w.disk w'.disk n der ∧
      (w'.console.prints .application .info = true →
        w'.console.printed.head? = some (doneEvent s.certificatePath true))) ∧
    ((∃ complaint, r = .ok (.failure (some complaint))) ↔ ∃ flaw, settingsOf w = .error flaw) ∧
    (∀ flaw, settingsOf w = .error flaw →
      r = .ok (.failure (some (settingsComplaint flaw))) ∧ w' = w) ∧
    (r ≠ .ok .success → FoldersAdded w.disk w'.disk) := by
  have hend := run_ending number hw
  rw [h] at hend
  cases hend with
  | wrongSettings hs =>
    refine ⟨by simp [Outcome.failure, Outcome.success], iff_of_true ⟨_, rfl⟩ ⟨_, hs⟩, ?_,
      fun _ => .refl _⟩
    intro flaw hflaw
    rw [hs, Except.error.injEq] at hflaw
    subst hflaw
    exact ⟨rfl, rfl⟩
  | settled hs hend =>
    have hno : ¬ ∃ flaw, settingsOf w = .error flaw := by simp [hs]
    have hnot : ∀ flaw, settingsOf w = .error flaw →
        r = .ok (.failure (some (settingsComplaint flaw))) ∧ w' = w :=
      fun flaw hflaw => absurd ⟨flaw, hflaw⟩ hno
    cases hend with
    | done hfile hdisk hconsole =>
      refine ⟨fun _ => ⟨_, _, _, hs, hfile, Embedded.fixture_der, hdisk, fun hp => ?_⟩,
        iff_of_false (by simp [Outcome.failure, Outcome.success]) hno, hnot,
        fun hne => absurd rfl hne⟩
      rw [hconsole] at hp ⊢
      exact Console.head?_printed_note hp
    | refused hdisk =>
      exact ⟨by simp [Outcome.failure, Outcome.success],
        iff_of_false (by simp [Outcome.failure]) hno, hnot, fun _ => hdisk⟩
    | fault hdisk => exact ⟨by simp, iff_of_false (by simp) hno, hnot, fun _ => hdisk⟩

/-- A world with one file, and settings that name a folder. -/
def worldSample (folder : String) : World :=
  { disk := { home := [], entries := [(["other"], .file 0)], contents := [[0x78]] }
    environment := [("CERT_FIXTURES_RESOURCE_DIR", folder)]
    settingsFile := ⟨.here, [".env"]⟩
    resourceFolder := ⟨.here, []⟩
    ascents := 9 }

theorem sound_worldSample (folder : String) : (worldSample folder).disk.Sound :=
  sound_of_entries (by simp [worldSample])

/-- Settings with a folder that is missing in the world of the sample. -/
def settingsSample : Settings :=
  ⟨⟨.here, ["out", "sub"]⟩, "certificate.cer", "INFO"⟩

theorem settingsOf_worldSample : settingsOf (worldSample "out/sub") = .ok settingsSample := by
  have h : (settingsOf (worldSample "out/sub")).toOption = some settingsSample := by
    decide +kernel
  cases hs : settingsOf (worldSample "out/sub") <;> simp_all [Except.toOption]

theorem run_success_worldSample :
    ∃ w', (run 0).on (worldSample "out/sub") = (.ok .success, w') := by
  let made := (worldSample "out/sub").disk.makeFolders (worldSample "out/sub").ascents
    settingsSample.resourceFolder
  have hmade : made.2 = .ok () := by decide +kernel
  have hspot : made.1.locate .write settingsSample.certificatePath =
      .ok (.vacant ["out", "sub", "certificate.cer"] false) := by decide +kernel
  have hfile : (made.1.newFile ["out", "sub", "certificate.cer"] Embedded.der).openFile
      settingsSample.certificatePath = .ok (some 1) := by decide +kernel
  exact run_success 0 (sound_worldSample _) settingsOf_worldSample (by decide +kernel) hmade
    (by rw [writeFile, hspot]) hfile

theorem run_truthful_sample :
    (∃ w' n, (run 0).on (worldSample "out/sub") = (.ok .success, w') ∧
      w'.disk.openFile settingsSample.certificatePath = .ok (some n) ∧
      w'.disk.content n = Embedded.der) ∧
    ∃ flaw, (run 0).on (worldSample "other") =
      (.ok (.failure (some (settingsComplaint flaw))), worldSample "other") := by
  obtain ⟨w', hrun⟩ := run_success_worldSample
  obtain ⟨hsuccess, -⟩ := run_truthful 0 (sound_worldSample _) hrun
  obtain ⟨s, n, der, hs, hfile, hder, hdisk, -⟩ := hsuccess rfl
  rw [settingsOf_worldSample, Except.ok.injEq] at hs
  subst hs
  rw [Embedded.fixture_der] at hder
  obtain ⟨flaw, hflaw⟩ : ∃ flaw, settingsOf (worldSample "other") = .error flaw := by
    have h : (settingsOf (worldSample "other")).isOk = false := by decide +kernel
    cases hs : settingsOf (worldSample "other") <;> simp_all [Except.isOk, Except.toBool]
  rcases hother : (run 0).on (worldSample "other") with ⟨r, w''⟩
  obtain ⟨-, -, hwrong, -⟩ := run_truthful 0 (sound_worldSample _) hother
  obtain ⟨rfl, rfl⟩ := hwrong flaw hflaw
  refine ⟨⟨w', n, hrun, hfile, ?_⟩, flaw, rfl⟩
  rw [hdisk.content]
  exact (Value.octets.inj hder).2.symm

end Regenerate

end Specimen
