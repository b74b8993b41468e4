import Specimen.Proofs.History
import Specimen.Proofs.Placement

/-!
# How the write of the command ends

The command is prepared for one thing to go wrong when it writes: the disk refuses. The folder and
the name of the companion file have been checked before, and there are two things the checks let
through about which no disk is asked: a null character, and a folder that is missing so far up that
there is no room for the calls that go there. A text consists of characters, of which a surrogate by
itself is none.

* `Path.hasNull_text`: the null characters of a path are those of its parts.
* `Disk.makeFolders_eq_tooDeep_iff`: when there is no room to make the folders above.
* `Disk.Making.isRefusal`, `Disk.isRefusal_of_writeFile`: whatever else goes wrong along a path
  without null characters is a refusal of the disk.
* `Companion.Overlooked`: a write comes upon one of the two things.
* `Regenerate.write_handled_iff`: the command is prepared for how its write ends unless that is the
  case.
* `Regenerate.null_name_unhandled`: accepted settings with which it is.
-/

namespace Specimen

open Disk (hasNull)

/-! ## Paths -/

theorem Disk.hasNull_append (s t : String) : hasNull (s ++ t) = (hasNull s || hasNull t) := by
  simp [hasNull, String.toList_append]

theorem Disk.hasNull_intercalate (parts : List String) :
    hasNull ("/".intercalate parts) = parts.any hasNull := by
  induction parts with
  | nil => decide
  | cons n ns ih =>
    by_cases hns : ns = []
    · rw [hns, String.intercalate_singleton, List.any_cons, List.any_nil, Bool.or_false]
    · have hslash : hasNull "/" = false := by decide
      rw [String.intercalate_cons_of_ne_nil hns, hasNull_append, hasNull_append, hslash, ih,
        Bool.or_false, List.any_cons]

namespace Path

variable {p q : Path}

/-- Neither anchors nor slashes have null characters, nor has the point of the empty path. -/
theorem hasNull_text (p : Path) : hasNull p.text = p.parts.any hasNull := by
  unfold text
  split
  · rename_i h
    rw [h.2]
    decide
  · have hanchor : hasNull (anchorText p.anchor) = false := by
      cases p.anchor <;> decide
    rw [Disk.hasNull_append, hanchor, Bool.false_or, Disk.hasNull_intercalate]

/-- A path above another one has no other null characters. -/
theorem Above.hasNull_text (h : q.Above p) (hp : hasNull p.text = false) :
    hasNull q.text = false := by
  rw [Path.hasNull_text, List.any_eq_false] at hp ⊢
  intro n hn
  exact hp n (h.parts.subset hn)

theorem hasNull_join_entryName (p : Path) {f : String} (hf : IsEntryName f) :
    hasNull (p.join (ofText f)).text = (hasNull p.text || hasNull f) := by
  rw [join_entryName p hf, hasNull_text, hasNull_text, List.any_append]
  simp

/-- The path so many levels further up. -/
def up : Nat → Path → Path
  | 0, p => p
  | k + 1, p => up k p.parent

end Path

/-! ## Refusals of the disk -/

namespace Disk

variable {d : Disk} {purpose : Purpose} {p : Path} {flaw flaw' : DiskFlaw} {bs : Octets}
  {ascents : Nat}

theorem locate_of_hasNull (h : hasNull p.text = true) :
    d.locate purpose p = .error .nullInPath := by
  rw [locate, if_pos h]

theorem makeFolder_of_hasNull (h : hasNull p.text = true) :
    d.makeFolder p = .error .nullInPath := by
  rw [makeFolder, locate_of_hasNull h]

/-- A null character is come upon before any folder is made. -/
theorem makeFolders_of_hasNull (h : hasNull p.text = true) (ascents : Nat) :
    d.makeFolders ascents p = (d, .error .nullInPath) := by
  unfold makeFolders
  simp only [makeFolder_of_hasNull h]
  rfl

theorem writeFile_of_hasNull (h : hasNull p.text = true) :
    d.writeFile p bs = .error .nullInPath := by
  rw [writeFile, locate_of_hasNull h]

theorem isRefusal_of_writeFile (hp : hasNull p.text = false)
    (h : d.writeFile p bs = .error flaw) : flaw.isRefusal = true := by
  unfold writeFile at h
  split at h
  · simp at h
  · rw [← Except.error.inj h]
    rfl
  · simp at h
  · simp at h
  · rename_i hl
    rw [← Except.error.inj h]
    exact (isRefusal_of_locate hl).2 hp

theorem isRefusal_of_makeFolder (hp : hasNull p.text = false)
    (h : d.makeFolder p = .error flaw) : flaw.isRefusal = true := by
  unfold makeFolder at h
  split at h
  · rw [← Except.error.inj h]
    rfl
  · simp at h
  · rename_i hl
    rw [← Except.error.inj h]
    exact (isRefusal_of_locate hl).2 hp

/-- Asking whether a folder is there fails by a refusal at most. -/
theorem isRefusal_of_isFolder (h : d.isFolder p = .error flaw) : flaw.isRefusal = true := by
  unfold isFolder status at h
  split at h
  · simp [Except.map] at h
  · simp [Except.map] at h
  · rw [← Except.error.inj h]
    rfl
  · simp [Except.map] at h

theorem isRefusal_of_settle (hflaw : flaw.isRefusal = true)
    (h : (d.settle p flaw).2 = .error flaw') : flaw'.isRefusal = true := by
  rw [settle, if_pos hflaw] at h
  split at h
  · simp at h
  · rw [← Except.error.inj h]
    exact hflaw
  · rename_i hfolder
    rw [← Except.error.inj h]
    exact isRefusal_of_isFolder hfolder

/-- The folders above have no null characters if the path has none, and so it is with what goes
wrong about each of them, as long as there is room to go up. -/
theorem Making.isRefusal {r : Disk × Except DiskFlaw Unit} (h : Making d p r)
    (hp : hasNull p.text = false) (hr : r.2 = .error flaw) (hflaw : flaw ≠ .tooDeep) :
    flaw.isRefusal = true := by
  induction h with
  | made h => exact absurd hr (by simp)
  | missing text =>
    rw [← Except.error.inj hr]
    rfl
  | tooDeep => exact absurd (Except.error.inj hr).symm hflaw
  | settled h => exact isRefusal_of_settle (isRefusal_of_makeFolder hp h) hr
  | failedAbove h ih => exact ih ((Path.Above.parent _).hasNull_text hp) hr
  | again h h' ih ih' => exact ih' hp hr

/-! ## Room to go up -/

/-- A folder cannot be made because one above it is missing. -/
def LacksAbove (d : Disk) (p : Path) : Prop :=
  p.parent ≠ p ∧ ∃ text, d.makeFolder p = .error (.refused .notFound text)

/-- A folder is missing further up than there is room to go: up to `ascents` levels above a path,
each folder lacks one above it. -/
def TooDeep (d : Disk) (ascents : Nat) (p : Path) : Prop :=
  ∀ k ≤ ascents, d.LacksAbove (p.up k)

theorem tooDeep_succ_iff :
    d.TooDeep (ascents + 1) p ↔ d.LacksAbove p ∧ d.TooDeep ascents p.parent := by
  refine ⟨fun h => ⟨h 0 (Nat.zero_le _), fun k hk => h (k + 1) (Nat.succ_le_succ hk)⟩, ?_⟩
  rintro ⟨h, habove⟩ (_ | k) hk
  · exact h
  · exact habove k (Nat.le_of_succ_le_succ hk)

/-- There is room enough if it is there for each part of the path. -/
theorem not_tooDeep_of_length_le (h : p.parts.length ≤ ascents) : ¬ d.TooDeep ascents p := by
  induction ascents generalizing p with
  | zero =>
    obtain ⟨anchor, parts⟩ := p
    obtain rfl : parts = [] := List.eq_nil_of_length_eq_zero (Nat.le_zero.1 h)
    exact fun hdeep => (hdeep 0 (Nat.le_refl _)).1 rfl
  | succ ascents ih =>
    rw [tooDeep_succ_iff, not_and]
    refine fun _ => ih ?_
    rw [Path.parent, List.length_dropLast]
    omega

/-- Without room, nothing is made. -/
theorem makeFolders_of_tooDeep (h : d.TooDeep ascents p) :
    d.makeFolders ascents p = (d, .error .tooDeep) := by
  induction ascents generalizing p with
  | zero =>
    obtain ⟨hne, text, hmake⟩ : d.LacksAbove p := h 0 (Nat.le_refl _)
    unfold makeFolders
    simp only [hmake, if_neg hne]
  | succ ascents ih =>
    obtain ⟨⟨hne, text, hmake⟩, habove⟩ := tooDeep_succ_iff.1 h
    unfold makeFolders
    simp only [hmake, if_neg hne, ih habove]

theorem ne_tooDeep_of_makeFolder (h : d.makeFolder p = .error flaw) : flaw ≠ .tooDeep := by
  rintro rfl
  cases hnull : hasNull p.text with
  | true => simp [makeFolder_of_hasNull hnull] at h
  | false => exact absurd (isRefusal_of_makeFolder hnull h) (by decide)

theorem settle_ne_tooDeep (hflaw : flaw ≠ .tooDeep) : (d.settle p flaw).2 ≠ .error .tooDeep := by
  intro h
  cases hrefusal : flaw.isRefusal with
  | true => exact absurd (isRefusal_of_settle hrefusal h) (by decide)
  | false =>
    rw [settle, if_neg (by simp [hrefusal])] at h
    exact hflaw (Except.error.inj h)

/-- The room is not at an end before one has to go up. -/
theorem lacksAbove_of_makeFolders (h : (d.makeFolders ascents p).2 = .error .tooDeep) :
    d.LacksAbove p := by
  unfold makeFolders at h
  split at h
  · simp at h
  · rename_i text hmake
    split at h
    · simp at h
    · rename_i hne
      exact ⟨hne, text, hmake⟩
  · rename_i hmake
    exact absurd h (settle_ne_tooDeep (ne_tooDeep_of_makeFolder hmake))

/-- With room to go up once, it is above that the room is at an end: once the folder above is there,
nobody goes up again. -/
theorem makeFolders_parent_of_succ (h : (d.makeFolders (ascents + 1) p).2 = .error .tooDeep) :
    (d.makeFolders ascents p.parent).2 = .error .tooDeep := by
  obtain ⟨hne, text, hmake⟩ := lacksAbove_of_makeFolders h
  unfold makeFolders at h
  simp only [hmake, if_neg hne] at h
  rcases habove : d.makeFolders ascents p.parent with ⟨d', flaw | u⟩ <;> simp only [habove] at h ⊢
  · exact h
  · split at h
    · simp at h
    · simp at h
    · rename_i hagain
      exact absurd h (settle_ne_tooDeep (ne_tooDeep_of_makeFolder hagain))

/-- The room is at an end exactly if a folder is missing further up than it goes. -/
theorem makeFolders_eq_tooDeep_iff :
    (d.makeFolders ascents p).2 = .error .tooDeep ↔ d.TooDeep ascents p := by
  refine ⟨fun h => ?_, fun h => by rw [makeFolders_of_tooDeep h]⟩
  induction ascents generalizing p with
  | zero =>
    intro k hk
    obtain rfl := Nat.le_zero.1 hk
    exact lacksAbove_of_makeFolders h
  | succ ascents ih =>
    exact tooDeep_succ_iff.2 ⟨lacksAbove_of_makeFolders h, ih (makeFolders_parent_of_succ h)⟩

end Disk

/-! ## How a write ends -/

/-- The ends of a write that the command is prepared for. -/
inductive Handled {α : Type} : Except Fault α → Prop where
  | done (a : α) : Handled (.ok a)
  | refused {flaw : DiskFlaw} (h : flaw.isRefusal = true) : Handled (.error (.disk flaw))

theorem not_handled_of_not_isRefusal {α : Type} {flaw : DiskFlaw} (h : flaw.isRefusal = false) :
    ¬ Handled (.error (.disk flaw) : Except Fault α) := by
  rintro (_ | ⟨hrefusal⟩)
  rw [h] at hrefusal
  exact absurd hrefusal (by decide)

namespace Companion

open Specimen.Path (IsEntryName)

variable {folder : Path} {f : String} {fixture : Fixture} {der : Octets} {w : World}
  {flaw : DiskFlaw}

/-- What a write to the file `f` in a folder may come upon without a refusal of the disk: a null
character, of the folder or, once the folder has been made, of the file; or a folder missing too far
up. -/
inductive Overlooked (w : World) (folder : Path) (f : String) : DiskFlaw → Prop where
  | nullInFolder (h : hasNull folder.text = true) : Overlooked w folder f .nullInPath
  | nullInFile (hmade : (w.disk.makeFolders w.ascents folder).2 = .ok ())
      (h : hasNull f = true) : Overlooked w folder f .nullInPath
  | tooDeep (h : w.disk.TooDeep w.ascents folder) : Overlooked w folder f .tooDeep

theorem Overlooked.isRefusal_eq_false (h : Overlooked w folder f flaw) :
    flaw.isRefusal = false := by
  cases h <;> rfl

/-- What is overlooked ends a write, which goes no further. -/
theorem write_of_overlooked (hf : IsEntryName f) (hder : fixture.der.octets? = some der)
    (h : Overlooked w folder f flaw) : (write folder fixture (.text f)).on w =
      (.error (.disk flaw), { w with disk := (w.disk.makeFolders w.ascents folder).1 }) := by
  rw [write_on, writeTo]
  cases h with
  | nullInFolder h => simp only [Disk.makeFolders_of_hasNull h]
  | nullInFile hmade h =>
    have hnull : hasNull (folder.join (.ofText f)).text = true := by
      rw [Path.hasNull_join_entryName folder hf, h, Bool.or_true]
    generalize w.disk.makeFolders w.ascents folder = r at hmade ⊢
    obtain ⟨made, r⟩ := r
    obtain rfl : r = .ok () := hmade
    simp only [joinPath, hder, Disk.writeFile_of_hasNull hnull]
  | tooDeep h => simp only [Disk.makeFolders_of_tooDeep h]

/-- Where nothing is overlooked, a write goes well or the disk refuses it. -/
theorem handled_write (hf : IsEntryName f) (hder : fixture.der.octets? = some der)
    (h : ¬ ∃ flaw, Overlooked w folder f flaw) :
    Handled ((write folder fixture (.text f)).on w).1 := by
  have hfolder : hasNull folder.text = false := by
    rw [← Bool.not_eq_true]
    exact fun hnull => h ⟨_, .nullInFolder hnull⟩
  rw [write_on, writeTo]
  have hmaking := Disk.making_makeFolders w.disk w.ascents folder
  have hroom : (w.disk.makeFolders w.ascents folder).2 ≠ .error .tooDeep :=
    fun hdeep => h ⟨_, .tooDeep (Disk.makeFolders_eq_tooDeep_iff.1 hdeep)⟩
  have hfile : (w.disk.makeFolders w.ascents folder).2 = .ok () → hasNull f = false := by
    rw [← Bool.not_eq_true]
    exact fun hmade hnull => h ⟨_, .nullInFile hmade hnull⟩
  generalize w.disk.makeFolders w.ascents folder = r at hmaking hroom hfile ⊢
  obtain ⟨made, flaw | u⟩ := r
  · exact .refused (hmaking.isRefusal hfolder rfl fun hflaw => hroom (by rw [hflaw]))
  · have hpath : hasNull (folder.join (.ofText f)).text = false := by
      rw [Path.hasNull_join_entryName folder hf, hfolder, hfile rfl, Bool.or_false]
    simp only [joinPath, hder]
    cases hw : made.writeFile (folder.join (.ofText f)) der with
    | error flaw => exact .refused (Disk.isRefusal_of_writeFile hpath hw)
    | ok d => exact .done _

theorem handled_write_iff (hf : IsEntryName f) (hder : fixture.der.octets? = some der) :
    Handled ((write folder fixture (.text f)).on w).1 ↔
      ¬ ∃ flaw, Overlooked w folder f flaw := by
  refine ⟨fun hhandled ⟨flaw, h⟩ => ?_, handled_write hf hder⟩
  rw [write_of_overlooked hf hder h] at hhandled
  exact not_handled_of_not_isRefusal h.isRefusal_eq_false hhandled

end Companion

/-! ## What the command makes of it -/

namespace Regenerate

open Run Companion

variable {s : Settings} {p : Provider} {w w' : World} {flaw : DiskFlaw}

/-- A refusal of the disk is noted, and is the end of the command. -/
theorem writeAndCheck_of_refused
    (hon : p.writeCompanion.on w = (.error (.disk flaw), w')) (h : flaw.isRefusal = true) :
    (writeAndCheck s p).on w = (.ok (.failure none), { w' with
      console := w'.console.note .application (refusedEvent s.certificatePath flaw) }) := by
  unfold writeAndCheck
  rw [on_bind, on_get]
  simp only [hon, on_bind, on_set, h]
  rfl

/-- What the command is not prepared for leaves it as it came. -/
theorem writeAndCheck_of_unhandled {fault : Fault}
    (hon : p.writeCompanion.on w = (.error fault, w'))
    (h : ¬ Handled (.error fault : Except Fault Path)) :
    (writeAndCheck s p).on w = (.error fault, w') := by
  unfold writeAndCheck
  rw [on_bind, on_get]
  cases fault with
  | disk flaw =>
    have hflaw : flaw.isRefusal = false := by
      rw [← Bool.not_eq_true]
      exact fun hrefusal => h (.refused hrefusal)
    simp only [hon, on_bind, on_set, hflaw]
    rfl
  | _ => simp only [hon, on_bind, on_set, on_throw]

theorem octets?_ofSettings (number : Nat) (s : Settings) :
    (Provider.ofSettings number s).fixture.der.octets? = some Embedded.der := by
  rw [Provider.fixture_of_notGiven rfl, Embedded.octets?_fixture_der]

/-- What is overlooked is the end of the command, which says nothing about it. -/
theorem writeAndCheck_of_overlooked (hs : Path.IsEntryName s.certificateFilename) (number : Nat)
    (h : Overlooked w s.resourceFolder s.certificateFilename flaw) :
    let w' := { w with disk := (w.disk.makeFolders w.ascents s.resourceFolder).1 }
    (Provider.ofSettings number s).writeCompanion.on w = (.error (.disk flaw), w') ∧
      (writeAndCheck s (.ofSettings number s)).on w = (.error (.disk flaw), w') := by
  intro w'
  have hon : (Provider.ofSettings number s).writeCompanion.on w = (.error (.disk flaw), w') :=
    write_of_overlooked hs (octets?_ofSettings number s) h
  exact ⟨hon, writeAndCheck_of_unhandled hon (not_handled_of_not_isRefusal h.isRefusal_eq_false)⟩

/-- **The write of the command.** With all settings that there can be, on any disk and with any room
for calls, the write goes well or the disk refuses it, unless it comes upon what is overlooked: a
null character, or a folder missing too far up. A refusal is noted and ends the command with a
failure; what is overlooked, which the command is not prepared for, ends it too. -/
theorem write_handled_iff {d : Disk} {file folder : Path} {environment : Environment}
    {given : Register Value} (hs : Settings.load d file folder environment given = .ok s)
    (number : Nat) (w : World) :
    let p := Provider.ofSettings number s
    (Handled (p.writeCompanion.on w).1 ↔
      ¬ ∃ flaw, Overlooked w s.resourceFolder s.certificateFilename flaw) ∧
    (∀ flaw w', p.writeCompanion.on w = (.error (.disk flaw), w') → flaw.isRefusal = true →
      (writeAndCheck s p).on w = (.ok (.failure none), { w' with
        console := w'.console.note .application (refusedEvent s.certificatePath flaw) })) ∧
    (∀ flaw, Overlooked w s.resourceFolder s.certificateFilename flaw →
      let w' := { w with disk := (w.disk.makeFolders w.ascents s.resourceFolder).1 }
      p.writeCompanion.on w = (.error (.disk flaw), w') ∧
      (writeAndCheck s p).on w = (.error (.disk flaw), w')) ∧
    ∀ n, settingsOf w = .ok s → thresholdOf s.logLevel = .ok n →
      (run number).on w = (writeAndCheck s p).on (started w s n) := by
  intro p
  have hname := Settings.isEntryName_of_load hs
  refine ⟨handled_write_iff hname (octets?_ofSettings number s),
    fun flaw w' hon hflaw => writeAndCheck_of_refused hon hflaw,
    fun flaw => writeAndCheck_of_overlooked hname number, fun n hsettings hn => ?_⟩
  rcases run_of_settings number hsettings with ⟨flaw, hflaw, -⟩ | ⟨n', hn', hon⟩
  · rw [hn] at hflaw
    exact absurd hflaw (by simp)
  · obtain rfl := Except.ok.inj (hn.symm.trans hn')
    exact hon

/-- A world with a settings file that names a file with a null character. -/
def nullWorld : World where
  disk := {
    home := []
    entries := [([".env"], .file 0)]
    contents := [Octets.ofAscii "CERT_FIXTURES_CERTIFICATE_FILENAME=a\x00b\n"] }
  settingsFile := ⟨.here, [".env"]⟩
  resourceFolder := ⟨.here, ["res"]⟩
  ascents := 9

/-- The settings in that world. -/
def nullSettings : Settings :=
  ⟨⟨.here, ["res"]⟩, "a\x00b", "INFO"⟩

theorem settingsOf_nullWorld : settingsOf nullWorld = .ok nullSettings :=
  eq_ok_of_toOption (by decide +kernel)

theorem made_nullWorld : (nullWorld.disk.makeFolders nullWorld.ascents
    nullSettings.resourceFolder).2 = .ok () := by
  decide +kernel

theorem overlooked_nullWorld :
    Overlooked nullWorld nullSettings.resourceFolder nullSettings.certificateFilename
      .nullInPath :=
  .nullInFile made_nullWorld (by decide)

theorem write_handled_iff_sample :
    settingsOf nullWorld = .ok nullSettings ∧
    ((writeAndCheck nullSettings (.ofSettings 0 nullSettings)).on nullWorld).1 =
      .error (.disk .nullInPath) ∧
    ¬ Handled ((Provider.ofSettings 0 nullSettings).writeCompanion.on nullWorld).1 ∧
    settingsOf (worldSample "out/sub") = .ok settingsSample ∧
    Handled ((Provider.ofSettings 0 settingsSample).writeCompanion.on
      (worldSample "out/sub")).1 ∧
    ((Provider.ofSettings 0 settingsSample).writeCompanion.on
      { worldSample "out/sub" with ascents := 0 }).1 = .error (.disk .tooDeep) := by
  obtain ⟨hnull, -, hends, -⟩ := write_handled_iff settingsOf_nullWorld 0 nullWorld
  obtain ⟨-, hon⟩ := hends _ overlooked_nullWorld
  obtain ⟨hhandled, -⟩ := write_handled_iff settingsOf_worldSample 0 (worldSample "out/sub")
  obtain ⟨-, -, hdeep, -⟩ := write_handled_iff settingsOf_worldSample 0
    { worldSample "out/sub" with ascents := 0 }
  obtain ⟨hdeep, -⟩ := hdeep .tooDeep
    (.tooDeep (Disk.makeFolders_eq_tooDeep_iff.1 (by decide +kernel)))
  refine ⟨settingsOf_nullWorld, by rw [hon], mt hnull.1 (not_not_intro ⟨_, overlooked_nullWorld⟩),
    settingsOf_worldSample, hhandled.2 ?_, by rw [hdeep]⟩
  rintro ⟨_, h | ⟨-, h⟩ | h⟩
  · exact absurd h (by decide)
  · exact absurd h (by decide)
  · exact Disk.not_tooDeep_of_length_le (by decide) h

/-- A name with a null character is accepted, and the command ends in neither of the two ways that
it is prepared for. -/
theorem null_name_unhandled :
    settingsOf nullWorld = .ok nullSettings ∧
    (∃ w', (Provider.ofSettings 0 nullSettings).writeCompanion.on nullWorld =
      (.error (.disk .nullInPath), w')) ∧
    DiskFlaw.isRefusal .nullInPath = false ∧
    ∃ w', (run 0).on nullWorld = (.error (.disk .nullInPath), w') := by
  have hname := Settings.isEntryName_of_load settingsOf_nullWorld
  obtain ⟨hwrite, -⟩ := writeAndCheck_of_overlooked hname 0 overlooked_nullWorld
  refine ⟨settingsOf_nullWorld, ⟨_, hwrite⟩, rfl, ?_⟩
  rcases run_of_settings 0 settingsOf_nullWorld with ⟨flaw, hflaw, -⟩ | ⟨n, -, hon⟩
  · have hlevel : (thresholdOf nullSettings.logLevel).isOk = true := by decide +kernel
    rw [hflaw] at hlevel
    exact absurd hlevel (by simp [Except.isOk, Except.toBool])
  · have hoverlooked : Overlooked (started nullWorld nullSettings n) nullSettings.resourceFolder
        nullSettings.certificateFilename .nullInPath := .nullInFile made_nullWorld (by decide)
    obtain ⟨-, hcheck⟩ := writeAndCheck_of_overlooked hname 0 hoverlooked
    exact ⟨_, hon.trans hcheck⟩

end Regenerate

end Specimen
