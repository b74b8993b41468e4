import Specimen.Proofs.CompanionWrite
import Specimen.Proofs.Embedded
import Specimen.Proofs.Sources

/-!
# Where a configured companion file stands

The name of the companion file leads to no other folder: it is a single part of a path. So the
companion file stands in the folder that is configured, on paper, where its path has that folder as
parent, and on the disk, where the folder has an entry of its name once it has been written.

* `Path.isBareName_iff`: the texts that are a file name and nothing else.
* `Disk.walk_append`: a walk with one more name goes to the folder, and looks the name up there.
* `configured_file_in_folder`: which names are accepted, and where the file is.
-/

namespace Specimen

/-! ## Names of entries -/

namespace Path

/-- A text that names an entry of a folder: it is not empty, has no slash, and is none of the two
points that name folders. -/
structure IsEntryName (s : String) : Prop where
  ne_empty : s ≠ ""
  no_slash : '/' ∉ s.toList
  ne_point : s ≠ "."
  ne_points : s ≠ ".."

theorem not_mem_of_mem_piecesFrom {piece cs q : List Char} (hpiece : '/' ∉ piece)
    (hq : q ∈ piecesFrom piece cs) : '/' ∉ q := by
  induction cs generalizing piece with
  | nil =>
    obtain rfl : q = piece.reverse := by simpa [piecesFrom] using hq
    simpa using hpiece
  | cons c cs ih =>
    rw [piecesFrom] at hq
    split at hq
    · rcases List.mem_cons.1 hq with rfl | hq
      · simpa using hpiece
      · exact ih (by simp) hq
    · rename_i hc
      exact ih (by simp [hpiece, Ne.symm hc]) hq

/-- The name of a path that a text writes has no slash. -/
theorem not_mem_name_ofText (s : String) : '/' ∉ (ofText s).name.toList := by
  unfold name
  cases hlast : (ofText s).parts.getLast? with
  | none => simp
  | some n =>
    have hn := List.mem_of_getLast? hlast
    simp only [ofText, List.mem_map, List.mem_filter] at hn
    obtain ⟨q, ⟨hq, -⟩, rfl⟩ := hn
    simpa using not_mem_of_mem_piecesFrom (by simp) hq

/-- A text that is not empty is a file name and nothing else if it names an entry of a folder. -/
theorem isBareName_iff {s : String} (hs : s ≠ "") : isBareName s = true ↔ IsEntryName s := by
  simp only [isBareName, Bool.and_eq_true, beq_iff_eq, bne_iff_ne]
  constructor
  · rintro ⟨⟨hname, hpoint⟩, hpoints⟩
    exact ⟨hs, hname ▸ not_mem_name_ofText s, hpoint, hpoints⟩
  · intro h
    refine ⟨⟨?_, h.ne_point⟩, h.ne_points⟩
    rw [ofText_name h.no_slash h.ne_empty h.ne_point]
    rfl

theorem join_entryName (p : Path) {f : String} (hf : IsEntryName f) :
    p.join (ofText f) = ⟨p.anchor, p.parts ++ [f]⟩ := by
  rw [ofText_name hf.no_slash hf.ne_empty hf.ne_point]
  rfl

theorem parent_join_entryName (p : Path) {f : String} (hf : IsEntryName f) :
    (p.join (ofText f)).parent = p := by
  simp [join_entryName p hf, parent]

theorem name_join_entryName (p : Path) {f : String} (hf : IsEntryName f) :
    (p.join (ofText f)).name = f := by
  simp [join_entryName p hf, name]

/-- The text of a path begins with the text of the folder, unless that is the one in which relative
paths start. -/
theorem text_join_entryName (p : Path) {f : String} (hf : IsEntryName f) :
    p.text = "." ∨ ∃ rest, (p.join (ofText f)).text = p.text ++ rest := by
  rw [join_entryName p hf]
  unfold text
  by_cases hnil : p.parts = []
  · cases p.anchor with
    | here => exact .inl (by simp [hnil])
    | root => exact .inr ⟨f, by simp [hnil, String.intercalate_singleton]⟩
    | doubleRoot => exact .inr ⟨f, by simp [hnil, String.intercalate_singleton]⟩
  · refine .inr ⟨"/" ++ f, ?_⟩
    rw [if_neg (by simp), if_neg (by simp [hnil]),
      String.intercalate_append_of_ne_nil hnil (by simp), String.intercalate_singleton]
    simp [String.append_assoc]

end Path

/-! ## Walking to an entry of a folder -/

namespace Disk

open Specimen.Path (IsEntryName)

variable {d : Disk} {purpose : Purpose} {loc : Location} {f : String} {ns : List String} {s : Spot}

/-- Where it leads to look a name up in a folder: to the entry of that name, or to where it would
be, or wherever the entry leads if it is a link. -/
inductive LookedUp (d : Disk) (loc : Location) (f : String) : Spot → Prop where
  | entry {e : Entry} (he : d.entryAt? (loc ++ [f]) = some e) :
      LookedUp d loc f (.taken (loc ++ [f]) e)
  | link {target : String} {s : Spot} (he : d.entryAt? (loc ++ [f]) = some (.link target)) :
      LookedUp d loc f s
  | vacant (he : d.entryAt? (loc ++ [f]) = none) : LookedUp d loc f (.vacant (loc ++ [f]) false)

variable {jump jump' : Location → List String → Except DiskCause Spot}

theorem walkFrom_singleton (hf : IsEntryName f) (h : walkFrom jump d purpose loc [f] = .ok s) :
    LookedUp d loc f s := by
  cases walkFrom_cons_iff.1 h with
  | stay hn h => exact absurd hn (not_or.2 ⟨hf.ne_empty, hf.ne_point⟩)
  | up hn h => exact absurd hn hf.ne_points
  | enter hn he h =>
    obtain rfl := Except.ok.inj h
    exact .entry he
  | follow hn he hp h => exact .link he
  | link hn he hns hp hs => exact hs ▸ .entry he
  | stop hn he hfolder hl hns hs => exact hs ▸ .entry he
  | vacant hn he hns hs => exact hs ▸ .vacant he

/-- A walk with one more name goes to the folder, and looks the name up there. -/
theorem walkFrom_append (hf : IsEntryName f)
    (hj : ∀ loc ns, jump loc (ns ++ [f]) = .ok s →
      ∃ l, jump' loc ns = .ok (.taken l .folder) ∧ LookedUp d l f s)
    (h : walkFrom jump d purpose loc (ns ++ [f]) = .ok s) :
    ∃ l, walkFrom jump' d .look loc ns = .ok (.taken l .folder) ∧ LookedUp d l f s := by
  induction ns generalizing loc with
  | nil => exact ⟨loc, rfl, walkFrom_singleton hf h⟩
  | cons n ns ih =>
    have hlook : Proper purpose n (ns ++ [f]) → Proper .look n ns := fun hn =>
      { hn with no_slash := fun hp => by simp at hp }
    cases walkFrom_cons_iff.1 h with
    | stay hn h =>
      obtain ⟨l, hl, hs⟩ := ih h
      exact ⟨l, walkFrom_cons_iff.2 (.stay hn hl), hs⟩
    | up hn h =>
      obtain ⟨l, hl, hs⟩ := ih h
      exact ⟨l, walkFrom_cons_iff.2 (.up hn hl), hs⟩
    | enter hn he h =>
      obtain ⟨l, hl, hs⟩ := ih h
      exact ⟨l, walkFrom_cons_iff.2 (.enter (hlook hn) he hl), hs⟩
    | follow hn he hp h =>
      obtain ⟨l, hl, hs⟩ := hj _ _ (List.append_assoc _ ns [f] ▸ h)
      exact ⟨l, walkFrom_cons_iff.2 (.follow (hlook hn) he (by simp) hl), hs⟩
    | link hn he hns hp hs => exact absurd hns (by simp)
    | stop hn he hfolder hl hns hs => exact absurd hns (by simp)
    | vacant hn he hns hs => exact absurd hns (by simp [hf.ne_empty])

theorem walk_append {links : Nat} (hf : IsEntryName f)
    (h : d.walk purpose links loc (ns ++ [f]) = .ok s) :
    ∃ l, d.walk .look links loc ns = .ok (.taken l .folder) ∧ LookedUp d l f s := by
  induction links generalizing loc ns with
  | zero => exact walkFrom_append hf (fun _ _ h => by simp at h) h
  | succ links ih => exact walkFrom_append hf (fun _ _ h => ih h) h

/-- A path to a name in a folder leads to what the folder has there. -/
theorem locate_join {p : Path} (hf : IsEntryName f)
    (h : d.locate purpose (p.join (.ofText f)) = .ok s) :
    ∃ l, d.locate .look p = .ok (.taken l .folder) ∧ LookedUp d l f s := by
  obtain ⟨hnull, hspot⟩ := locate_eq_ok_iff.1 h
  obtain ⟨hlong, hwalk⟩ := spot_eq_ok_iff.1 hspot
  have hstart : d.start (p.join (.ofText f)) = d.start p := by
    rw [Path.join_entryName p hf]
    rfl
  rw [hstart, Path.join_entryName p hf] at hwalk
  obtain ⟨l, hl, hs⟩ := walk_append hf hwalk
  refine ⟨l, locate_eq_ok_iff.2 ⟨?_, spot_eq_ok_iff.2 ⟨?_, hl⟩⟩, hs⟩
  · rcases Path.text_join_entryName p hf with hpoint | ⟨rest, hrest⟩
    · rw [hpoint]
      decide
    · rw [hrest] at hnull
      simp only [hasNull, String.toList_append, List.contains_append, Bool.or_eq_false_iff]
        at hnull
      exact hnull.1
  · rcases Path.text_join_entryName p hf with hpoint | ⟨rest, hrest⟩
    · rw [hpoint]
      decide
    · rw [hrest] at hlong
      simp only [octetCount, String.toList_append, Text.Utf8.encode_append, List.length_append]
        at hlong
      exact Nat.le_of_add_right_le hlong

/-- A path leads to a folder with an entry of a name. The entry is the file that is opened by that
name, unless it is a link. -/
def HasEntry (d : Disk) (folder : Path) (f : String) (file : Option Nat) : Prop :=
  ∃ l e, d.locate .look folder = .ok (.taken l .folder) ∧ d.entryAt? (l ++ [f]) = some e ∧
    ((∃ target, e = .link target) ∨ ∀ n, file = some n → e = .file n)

/-- A file that is opened by a path to a name in a folder is there by an entry of the folder. -/
theorem hasEntry_of_openFile {p : Path} {file : Option Nat} (hf : IsEntryName f)
    (h : d.openFile (p.join (.ofText f)) = .ok file) : d.HasEntry p f file := by
  unfold openFile at h
  split at h
  · rename_i loc n hl
    obtain rfl := Except.ok.inj h
    obtain ⟨l, hfolder, hs⟩ := locate_join hf hl
    cases hs with
    | entry he => exact ⟨l, _, hfolder, he, .inr fun m hm => by rw [Option.some.inj hm]⟩
    | link he => exact ⟨l, _, hfolder, he, .inl ⟨_, rfl⟩⟩
  · simp at h
  · rename_i loc e hfile hfold hl
    obtain rfl := Except.ok.inj h
    obtain ⟨l, hfolder, hs⟩ := locate_join hf hl
    cases hs with
    | entry he => exact ⟨l, _, hfolder, he, .inr fun m hm => by simp at hm⟩
    | link he => exact ⟨l, _, hfolder, he, .inl ⟨_, rfl⟩⟩
  · simp at h
  · simp at h

end Disk

/-! ## Names that are accepted -/

open Specimen.Path (IsEntryName)

theorem checkFilename_eq_ok_iff {v : Value} {s : String} :
    checkFilename v = .ok s ↔ checkText v = .ok s ∧ IsEntryName s := by
  cases hv : checkText v with
  | error flaw => simp [checkFilename, hv, bind, Except.bind]
  | ok t =>
    have hcheck : checkFilename v = if t = "" then .error .tooShort
        else if Path.isBareName t then .ok t else .error (.notBare t) := by
      rw [checkFilename, hv]
      rfl
    rw [hcheck, Except.ok.injEq]
    by_cases ht : t = ""
    · rw [if_pos ht]
      refine iff_of_false (by simp) ?_
      rintro ⟨rfl, hs⟩
      exact hs.ne_empty ht
    · rw [if_neg ht]
      by_cases hbare : Path.isBareName t = true
      · rw [if_pos hbare, Except.ok.injEq]
        exact ⟨fun h => ⟨h, h ▸ (Path.isBareName_iff ht).1 hbare⟩, fun h => h.1⟩
      · rw [if_neg hbare]
        refine iff_of_false (by simp) ?_
        rintro ⟨rfl, hs⟩
        exact hbare ((Path.isBareName_iff ht).2 hs)

/-- There is a report on each winning value that is wrong, and no other. -/
theorem mem_wrongWinners_iff {d : Disk} {w : Setting → Option Value} {r : SettingReport} :
    r ∈ wrongWinners d w ↔ ∃ setting, reportOn d w setting = some r := by
  rw [wrongWinners, List.mem_filterMap]
  refine ⟨fun ⟨setting, _, h⟩ => ⟨setting, h⟩, fun ⟨setting, h⟩ => ⟨setting, ?_, h⟩⟩
  cases setting <;> decide

theorem wrongWinners_eq_nil_iff {d : Disk} {w : Setting → Option Value} :
    wrongWinners d w = [] ↔ ∀ setting, reportOn d w setting = none := by
  rw [List.eq_nil_iff_forall_not_mem]
  simp only [mem_wrongWinners_iff, not_exists, Option.eq_none_iff_forall_ne_some]
  exact ⟨fun h setting r => h r setting, fun h r setting => h setting r⟩

/-- A text that wins as the name of the companion file is reported unless it names an entry. -/
theorem reportOn_filename_cases {d : Disk} {w : Setting → Option Value} {f : String}
    (hw : w .certificateFilename = some (.text f)) :
    (IsEntryName f ∧ reportOn d w .certificateFilename = none) ∨
      ¬ IsEntryName f ∧ ∃ flaw, reportOn d w .certificateFilename =
        some ⟨.certificateFilename, flaw, .text f⟩ := by
  have hcheck : ∀ t, checkFilename (.text f) = .ok t ↔ f = t ∧ IsEntryName t := fun t => by
    rw [checkFilename_eq_ok_iff, checkText, Except.ok.injEq]
  cases hf : checkFilename (.text f) with
  | ok t =>
    obtain ⟨rfl, hname⟩ := (hcheck t).1 hf
    exact .inl ⟨hname, by simp [reportOn, hw, Setting.flaw?, hf, flawOf?]⟩
  | error flaw =>
    refine .inr ⟨fun hname => ?_, flaw, by simp [reportOn, hw, Setting.flaw?, hf, flawOf?]⟩
    rw [(hcheck f).2 ⟨rfl, hname⟩] at hf
    simp at hf

/-- Nothing is wrong with the other settings than the name of the companion file. -/
structure OthersInOrder (d : Disk) (w : Setting → Option Value) : Prop where
  answers : Answers d w
  unreported : ∀ setting, setting ≠ .certificateFilename → reportOn d w setting = none

section

variable {d : Disk} {folder : Path} {w : Setting → Option Value}
  {r : Except SettingsFlaw Settings} {s : Settings} {f : String}

/-- With a name that wins there are settings exactly if it names an entry of a folder and nothing
else is wrong. -/
theorem Outcome.isOk_iff (h : Outcome d folder w r)
    (hw : w .certificateFilename = some (.text f)) :
    (∃ s, r = .ok s) ↔ IsEntryName f ∧ OthersInOrder d w := by
  constructor
  · rintro ⟨s, rfl⟩
    cases h with
    | settled hd hnil hfolder hname hlevel =>
      have hall := wrongWinners_eq_nil_iff.1 hnil
      rcases reportOn_filename_cases (d := d) hw with ⟨hf, -⟩ | ⟨-, flaw, hreport⟩
      · exact ⟨hf, hd, fun setting _ => hall setting⟩
      · rw [hall] at hreport
        simp at hreport
  · rintro ⟨hf, hd, hothers⟩
    cases h with
    | refused hv hp hfile =>
      obtain ⟨b, hb⟩ := hd _ _ hv hp
      simp [hfile] at hb
    | wrong _ hne =>
      refine absurd (wrongWinners_eq_nil_iff.2 fun setting => ?_) hne
      by_cases hsetting : setting = .certificateFilename
      · rcases reportOn_filename_cases (d := d) hw with ⟨-, hreport⟩ | ⟨hnot, -⟩
        · rw [hsetting, hreport]
        · exact absurd hf hnot
      · exact hothers setting hsetting
    | settled => exact ⟨_, rfl⟩

theorem Outcome.certificateFilename_eq (h : Outcome d folder w (.ok s))
    (hw : w .certificateFilename = some (.text f)) : s.certificateFilename = f := by
  cases h with
  | settled hd hnil hfolder hname hlevel =>
    rw [hw] at hname
    cases hname with
    | value h => exact (Except.ok.inj (checkFilename_eq_ok_iff.1 h).1).symm

/-- A name that wins and does not name an entry is reported. -/
theorem Outcome.reported (h : Outcome d folder w r)
    (hw : w .certificateFilename = some (.text f)) (hf : ¬ IsEntryName f) (hd : Answers d w) :
    ∃ reports flaw, r = .error (.wrong reports) ∧
      ⟨.certificateFilename, flaw, .text f⟩ ∈ reports := by
  rcases reportOn_filename_cases (d := d) hw with ⟨hname, -⟩ | ⟨-, flaw, hreport⟩
  · exact absurd hname hf
  · have hmem := mem_wrongWinners_iff.2 ⟨_, hreport⟩
    cases h with
    | refused hv hp hfile =>
      obtain ⟨b, hb⟩ := hd _ _ hv hp
      simp [hfile] at hb
    | wrong _ hne => exact ⟨_, flaw, rfl, hmem⟩
    | settled _ hnil =>
      rw [hnil] at hmem
      simp at hmem

theorem isEntryName_defaultFilename : IsEntryName defaultFilename where
  ne_empty := by decide
  no_slash := by decide
  ne_point := by decide
  ne_points := by decide

/-- The name of the companion file is one for an entry in all settings that there are. -/
theorem Outcome.isEntryName (h : Outcome d folder w (.ok s)) :
    IsEntryName s.certificateFilename := by
  cases h with
  | settled hd hnil hfolder hname hlevel =>
    revert hname
    generalize w .certificateFilename = v, s.certificateFilename = name
    rintro (_ | hname)
    · exact isEntryName_defaultFilename
    · exact (checkFilename_eq_ok_iff.1 hname).2

end

/-- However settings have come about, their name for the companion file is one for an entry. -/
theorem Settings.isEntryName_of_load {d : Disk} {file folder : Path} {environment : Environment}
    {given : Register Value} {s : Settings}
    (hs : Settings.load d file folder environment given = .ok s) :
    IsEntryName s.certificateFilename := by
  unfold Settings.load at hs
  split at hs
  · simp at hs
  · rename_i assigned hassigned
    have h := ofSources_outcome d folder ⟨given, environment, assigned⟩
    rw [hs] at h
    exact h.isEntryName

/-! ## The companion file of settings -/

/-- The companion file of settings stands in their folder: its path has the folder as parent and the
name that is set as name, a provider made from the settings has the same path, and what the
provider writes has an entry in the folder, by that name. -/
structure Settings.KeepsToFolder (s : Settings) : Prop where
  isEntryName : IsEntryName s.certificateFilename
  parent : s.certificatePath.parent = s.resourceFolder
  name : s.certificatePath.name = s.certificateFilename
  provider : ∀ number, (Provider.ofSettings number s).certificatePath = .ok s.certificatePath
  written : ∀ number w path w', w.disk.Sound →
    (Provider.ofSettings number s).writeCompanion.on w = (.ok path, w') →
    path = s.certificatePath ∧ ∃ file, w'.disk.openFile path = .ok file ∧
      w'.disk.HasEntry s.resourceFolder s.certificateFilename file

/-- What a provider has written can be opened by its path. -/
theorem Provider.openFile_of_writeCompanion {p : Provider} {w w' : World} {path : Path}
    (hw : w.disk.Sound) (h : p.writeCompanion.on w = (.ok path, w')) :
    p.certificatePath = .ok path ∧ ∃ file, w'.disk.openFile path = .ok file := by
  rcases p.writeCompanion_cases hw with ⟨path', n, der, w'', hon, hpath, hfile, -, -⟩ |
    ⟨path', w'', hon, hpath, ho, -⟩ | ⟨fault, w'', hon, -⟩
  · rw [hon, Prod.mk.injEq, Except.ok.injEq] at h
    obtain ⟨rfl, rfl⟩ := h
    obtain ⟨q, hq, ho⟩ := Provider.file?_eq_some_iff.1 hfile
    obtain rfl := Except.ok.inj (hpath.symm.trans hq)
    exact ⟨hpath, some n, ho⟩
  · rw [hon, Prod.mk.injEq, Except.ok.injEq] at h
    obtain ⟨rfl, rfl⟩ := h
    exact ⟨hpath, none, ho⟩
  · rw [hon, Prod.mk.injEq] at h
    simp at h

theorem Settings.keepsToFolder {s : Settings} (hs : IsEntryName s.certificateFilename) :
    s.KeepsToFolder where
  isEntryName := hs
  parent := Path.parent_join_entryName _ hs
  name := Path.name_join_entryName _ hs
  provider number := Provider.ofSettings_certificatePath number s
  written number w path w' hw hon := by
    obtain ⟨hpath, file, hfile⟩ := Provider.openFile_of_writeCompanion hw hon
    rw [Provider.ofSettings_certificatePath, Except.ok.injEq] at hpath
    subst hpath
    exact ⟨rfl, file, hfile, Disk.hasEntry_of_openFile hs hfile⟩

/-- **A configured companion file stands in its folder.** With a text that wins as the name of the
companion file, and nothing else wrong, there are settings exactly if it names an entry of a folder:
then it is the name, and if not it is reported. Whatever the settings are, the path of the companion
file has their folder as parent and the name as name, and what a provider made from them writes is
an entry of that folder. -/
theorem configured_file_in_folder (d : Disk) (file folder : Path) (environment : Environment)
    (given : Register Value) :
    let outcome := Settings.load d file folder environment given
    (∀ assigned f, readAssignments d file environment = .ok assigned →
      let w := (Sources.mk given environment assigned).winner?
      w .certificateFilename = some (.text f) →
      ((∃ s, outcome = .ok s) ↔ IsEntryName f ∧ OthersInOrder d w) ∧
      (∀ s, outcome = .ok s → s.certificateFilename = f) ∧
      (¬ IsEntryName f → Answers d w → ∃ reports flaw, outcome = .error (.wrong reports) ∧
        ⟨.certificateFilename, flaw, .text f⟩ ∈ reports)) ∧
    ∀ s, outcome = .ok s → s.KeepsToFolder := by
  intro outcome
  have houtcome : ∀ assigned, readAssignments d file environment = .ok assigned →
      Outcome d folder (Sources.mk given environment assigned).winner? outcome :=
    fun assigned hfile => by
      have hload : outcome = Settings.ofSources d folder ⟨given, environment, assigned⟩ := by
        simp only [outcome, Settings.load, hfile]
      rw [hload]
      exact ofSources_outcome d folder _
  constructor
  · intro assigned f hfile w hw
    have h := houtcome assigned hfile
    exact ⟨h.isOk_iff hw, fun s hs => (hs ▸ h).certificateFilename_eq hw, h.reported hw⟩
  · intro s hs
    cases hfile : readAssignments d file environment with
    | error flaw => simp [outcome, Settings.load, hfile] at hs
    | ok assigned =>
      have h := houtcome assigned hfile
      rw [hs] at h
      exact Settings.keepsToFolder h.isEntryName

/-- A world with nothing on its disk. -/
def bareWorld : World where
  disk := ⟨[], [], []⟩
  settingsFile := envFile
  resourceFolder := ⟨.here, []⟩
  ascents := 9

/-- A caller gives a folder, and a name for the companion file. -/
def givenName (f : String) : Register Value :=
  [("resource_dir", .text "./out//sub/"), ("certificate_filename", .text f)]

/-- The settings with a name that is accepted. -/
def namedSettings : Settings :=
  ⟨⟨.here, ["out", "sub"]⟩, "a.cer", "INFO"⟩

theorem writeCompanion_namedSettings : ∃ w', (Provider.ofSettings 0 namedSettings).writeCompanion.on
    bareWorld = (.ok namedSettings.certificatePath, w') := by
  let made := bareWorld.disk.makeFolders bareWorld.ascents namedSettings.resourceFolder
  have hmade : made.2 = .ok () := by decide +kernel
  have hspot : made.1.locate .write namedSettings.certificatePath =
      .ok (.vacant ["out", "sub", "a.cer"] false) := by decide +kernel
  have hwrite : made.1.writeFile namedSettings.certificatePath Embedded.der =
      .ok (made.1.newFile ["out", "sub", "a.cer"] Embedded.der) := by
    rw [Disk.writeFile, hspot]
  obtain ⟨e, hon⟩ := Companion.write_of_steps (w := bareWorld) hmade
    (Provider.ofSettings_certificatePath 0 namedSettings) Embedded.octets?_fixture_der hwrite
  have hfixture : (Provider.ofSettings 0 namedSettings).fixture = Embedded.fixture :=
    Provider.fixture_of_notGiven rfl
  rw [Provider.writeCompanion, hfixture]
  exact ⟨_, hon⟩

theorem configured_file_in_folder_sample :
    let outcome := fun f =>
      Settings.load bareWorld.disk envFile bareWorld.resourceFolder [] (givenName f)
    (¬ ∃ s, outcome "../a" = .ok s) ∧ outcome "a.cer" = .ok namedSettings ∧
    ∃ w' file, (Provider.ofSettings 0 namedSettings).writeCompanion.on bareWorld =
        (.ok ⟨.here, ["out", "sub", "a.cer"]⟩, w') ∧
      w'.disk.HasEntry namedSettings.resourceFolder "a.cer" file := by
  intro outcome
  have hno : readAssignments bareWorld.disk envFile [] = .ok [] :=
    readAssignments_of_missing (by decide +kernel) []
  have hok : outcome "a.cer" = .ok namedSettings := eq_ok_of_toOption (by decide +kernel)
  obtain ⟨hwins, -⟩ := configured_file_in_folder bareWorld.disk envFile bareWorld.resourceFolder []
    (givenName "../a")
  obtain ⟨haccepted, -, -⟩ := hwins [] "../a" hno rfl
  obtain ⟨-, hkeeps⟩ := configured_file_in_folder bareWorld.disk envFile bareWorld.resourceFolder []
    (givenName "a.cer")
  obtain ⟨w', hon⟩ := writeCompanion_namedSettings
  obtain ⟨-, file, -, hentry⟩ := (hkeeps namedSettings hok).written 0 bareWorld _ w'
    (Disk.sound_of_entries (by simp [bareWorld])) hon
  refine ⟨fun hs => (haccepted.1 hs).1.no_slash (by decide), hok, w', file, hon, hentry⟩

end Specimen
