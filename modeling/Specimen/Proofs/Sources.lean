import Specimen.Proofs.PlainFile
import Specimen.Proofs.Writing
import Specimen.Settings

/-!
# The sources of settings do not interfere

Each setting has one winning value, and the settings are what the winning values make of them. What
stands in a losing source has no say, be it right or wrong, and neither has what stands under any
other name.

* `Wins`: which value wins, by what stands in the sources; `wins_iff_winner?`.
* `Outcome`: what the winning values come to; `ofSources_outcome`.
* `winners_decide`: the settings from a caller, an environment and a settings file.
* `capital_keyword_wins`: letter case does not matter in what the caller gives either.
-/

namespace Specimen

/-! ## Names in any case -/

section InCase

variable {α : Type} {name : String} {ps : Register α} {a : α}

/-- The value is the last one under a name, in whatever case the name is written. -/
def IsLastNamed (name : String) (ps : Register α) (a : α) : Prop :=
  ∃ pre key post, ps = pre ++ (key, a) :: post ∧ Text.lowerAscii key = name ∧
    ∀ p ∈ post, Text.lowerAscii p.1 ≠ name

/-- No value stands under a name, in whatever case it is written. -/
def Unnamed (name : String) (ps : Register α) : Prop :=
  ∀ p ∈ ps, Text.lowerAscii p.1 ≠ name

/-- No two names differ only in case. -/
def CaseDistinct (names : List String) : Prop :=
  (names.map Text.lowerAscii).Nodup

theorem lastNamed?_eq_none_iff : lastNamed? name ps = none ↔ Unnamed name ps := by
  simp [lastNamed?, Unnamed, List.findSome?_eq_none_iff]

theorem lastNamed?_eq_some_iff : lastNamed? name ps = some a ↔ IsLastNamed name ps a := by
  unfold lastNamed? IsLastNamed
  rw [List.findSome?_eq_some_iff]
  constructor
  · rintro ⟨post, ⟨key, b⟩, pre, hps, hkey, hpost⟩
    simp only [Option.ite_none_right_eq_some, Option.some.injEq] at hkey
    obtain ⟨hkey, rfl⟩ := hkey
    refine ⟨pre.reverse, key, post.reverse, ?_, hkey, ?_⟩
    · rw [← List.reverse_inj, hps]
      simp
    · intro p hp
      simpa using hpost p (by simpa using hp)
  · rintro ⟨pre, key, post, rfl, hkey, hpost⟩
    refine ⟨post.reverse, (key, a), pre.reverse, by simp, by simp [hkey], ?_⟩
    intro p hp
    simpa using hpost p (by simpa using hp)

/-- Where no two names differ only in case, there is no other value under a name. -/
theorem isLastNamed_of_mem {p : String × α} (hps : CaseDistinct (ps.map Prod.fst)) (hp : p ∈ ps) :
    IsLastNamed (Text.lowerAscii p.1) ps p.2 := by
  obtain ⟨pre, post, rfl⟩ := List.append_of_mem hp
  refine ⟨pre, p.1, post, rfl, rfl, fun q hq hname => ?_⟩
  simp only [CaseDistinct, List.map_append, List.map_cons, List.nodup_append,
    List.nodup_cons] at hps
  exact hps.2.1.1 (hname ▸ List.mem_map_of_mem (List.mem_map_of_mem hq))

theorem IsLastNamed.mem (h : IsLastNamed name ps a) :
    ∃ key, (key, a) ∈ ps ∧ Text.lowerAscii key = name := by
  obtain ⟨pre, key, post, rfl, hkey, -⟩ := h
  exact ⟨key, by simp, hkey⟩

end InCase

/-! ## Winning values -/

variable {given : Register Value} {environment : Environment}
  {assigned : List EnvFile.Assignment} {setting : Setting} {w : Option Value}

/-- The value that wins for a setting, or that none does: what the caller gives, else a variable of
the environment, else an assignment with a value. What the caller gives under the very name goes
before what he gives under the name in another case. -/
inductive Wins (given : Register Value) (environment : Environment)
    (assigned : List EnvFile.Assignment) (setting : Setting) : Option Value → Prop where
  | given {v : Value} (h : given.lookup setting.name = some v) :
      Wins given environment assigned setting (some v)
  | givenInCase {v : Value} (hname : given.lookup setting.name = none)
      (h : IsLastNamed setting.name given v) : Wins given environment assigned setting (some v)
  | inEnvironment {key t : String} (hgiven : Unnamed setting.name given)
      (h : (key, t) ∈ environment) (hkey : Text.lowerAscii key = setting.variableName) :
      Wins given environment assigned setting (some (.text t))
  | inFile {a : EnvFile.Assignment} {cs : List Char} (hgiven : Unnamed setting.name given)
      (henv : Unnamed setting.variableName environment) (ha : a ∈ assigned)
      (hname : Text.lowerAscii a.name = setting.variableName) (hv : a.value = some cs) :
      Wins given environment assigned setting (some (.text (String.ofList cs)))
  | nowhere (hgiven : Unnamed setting.name given)
      (henv : Unnamed setting.variableName environment)
      (hfile : ∀ a ∈ assigned, Text.lowerAscii a.name = setting.variableName → a.value = none) :
      Wins given environment assigned setting none

theorem Setting.lowerAscii_name (setting : Setting) :
    Text.lowerAscii setting.name = setting.name := by
  cases setting <;> decide

/-- Names in a register that are written like a setting are among those that it has in any case. -/
theorem lookup_eq_none_of_unnamed (h : Unnamed setting.name given) :
    given.lookup setting.name = none := by
  rw [List.lookup_eq_none_iff]
  intro p hp
  have hne := h p hp
  rw [bne_iff_ne]
  intro heq
  exact hne (heq ▸ setting.lowerAscii_name)

/-- The sources with the assignments of a settings file that has no references. -/
def Sources.ofLiterals (given : Register Value) (environment : Environment)
    (assigned : List EnvFile.Assignment) : Sources :=
  ⟨given, environment, assigned.map EnvFile.Assignment.literal⟩

theorem lastNamed?_of_assigned {a : EnvFile.Assignment}
    (hfile : CaseDistinct (assigned.map EnvFile.Assignment.name)) (ha : a ∈ assigned) :
    lastNamed? (Text.lowerAscii a.name) (assigned.map EnvFile.Assignment.literal) =
      some (a.value.map String.ofList) := by
  have hnames : (assigned.map EnvFile.Assignment.literal).map Prod.fst =
      assigned.map EnvFile.Assignment.name := by
    simp [EnvFile.Assignment.literal]
  exact lastNamed?_eq_some_iff.2
    (isLastNamed_of_mem (p := a.literal) (hnames ▸ hfile) (List.mem_map_of_mem ha))

/-- What wins is what is looked for. -/
theorem Wins.winner?_eq (henv : CaseDistinct (environment.map Prod.fst))
    (hfile : CaseDistinct (assigned.map EnvFile.Assignment.name))
    (h : Wins given environment assigned setting w) :
    (Sources.ofLiterals given environment assigned).winner? setting = w := by
  have hgiven : Unnamed setting.name given →
      (Sources.ofLiterals given environment assigned).given? setting = none := by
    intro h
    simp [Sources.ofLiterals, Sources.given?, lookup_eq_none_of_unnamed h,
      lastNamed?_eq_none_iff.2 h]
  cases h with
  | given h => simp [Sources.winner?, Sources.given?, Sources.ofLiterals, h]
  | givenInCase hname h =>
    simp [Sources.winner?, Sources.given?, Sources.ofLiterals, hname, lastNamed?_eq_some_iff.2 h]
  | inEnvironment hg h hkey =>
    have hlast := lastNamed?_eq_some_iff.2 (isLastNamed_of_mem henv h)
    rw [hkey] at hlast
    rw [Sources.winner?, hgiven hg]
    simp [Sources.ofLiterals, hlast]
  | inFile hg hunset ha hname hv =>
    have hlast := lastNamed?_of_assigned hfile ha
    rw [hname, hv] at hlast
    rw [Sources.winner?, hgiven hg]
    simp [Sources.ofLiterals, lastNamed?_eq_none_iff.2 hunset, hlast]
  | nowhere hg hunset hnone =>
    rw [Sources.winner?, hgiven hg]
    simp only [Sources.ofLiterals, lastNamed?_eq_none_iff.2 hunset]
    cases hlast : lastNamed? setting.variableName (assigned.map EnvFile.Assignment.literal) with
    | none => rfl
    | some t =>
      obtain ⟨key, hmem, hkey⟩ := (lastNamed?_eq_some_iff.1 hlast).mem
      obtain ⟨a, ha, heq⟩ := List.mem_map.1 hmem
      simp only [EnvFile.Assignment.literal, Prod.mk.injEq] at heq
      obtain ⟨rfl, rfl⟩ := heq
      simp [hnone a ha hkey]

/-- Where neither the caller nor the environment has a value, what the settings file assigns
wins. -/
theorem wins_of_unset (hgiven : Unnamed setting.name given)
    (hunset : Unnamed setting.variableName environment)
    (hfile : CaseDistinct (assigned.map EnvFile.Assignment.name)) :
    Wins given environment assigned setting
      (((lastNamed? setting.variableName (assigned.map EnvFile.Assignment.literal)).bind id).map
        .text) := by
  by_cases hnamed : ∃ a ∈ assigned, Text.lowerAscii a.name = setting.variableName
  · obtain ⟨a, ha, hkey⟩ := hnamed
    have hlast := lastNamed?_of_assigned hfile ha
    rw [hkey] at hlast
    rw [hlast]
    cases hv : a.value with
    | some cs => exact .inFile hgiven hunset ha hkey hv
    | none =>
      refine .nowhere hgiven hunset fun b hb hkey' => ?_
      have hother := lastNamed?_of_assigned hfile hb
      rw [hkey', hlast, hv] at hother
      exact Option.map_eq_none_iff.1 (Option.some.inj hother).symm
  · have hlast : lastNamed? setting.variableName
        (assigned.map EnvFile.Assignment.literal) = none := by
      rw [lastNamed?_eq_none_iff]
      intro p hp
      obtain ⟨a, ha, rfl⟩ := List.mem_map.1 hp
      exact fun hkey => hnamed ⟨a, ha, hkey⟩
    rw [hlast]
    exact .nowhere hgiven hunset fun a ha hkey => absurd ⟨a, ha, hkey⟩ hnamed

/-- What is looked for wins. -/
theorem wins_winner? (given : Register Value) (environment : Environment) (setting : Setting)
    (hfile : CaseDistinct (assigned.map EnvFile.Assignment.name)) :
    Wins given environment assigned setting
      ((Sources.ofLiterals given environment assigned).winner? setting) := by
  unfold Sources.winner? Sources.given? Sources.ofLiterals
  simp only
  cases hname : given.lookup setting.name with
  | some v => exact .given hname
  | none =>
    cases hcase : lastNamed? setting.name given with
    | some v => exact .givenInCase hname (lastNamed?_eq_some_iff.1 hcase)
    | none =>
      have hgiven := lastNamed?_eq_none_iff.1 hcase
      cases hset : lastNamed? setting.variableName environment with
      | some t =>
        obtain ⟨key, hmem, hkey⟩ := (lastNamed?_eq_some_iff.1 hset).mem
        exact .inEnvironment hgiven hmem hkey
      | none => exact wins_of_unset hgiven (lastNamed?_eq_none_iff.1 hset) hfile

/-! ## What winning values come to -/

/-- What a check found wrong, if anything. -/
def flawOf? {α : Type} : Except SettingFlaw α → Option SettingFlaw
  | .error flaw => some flaw
  | .ok _ => none

/-- What is wrong with a value for a setting. -/
def Setting.flaw? (d : Disk) : Setting → Value → Option SettingFlaw
  | .resourceFolder, v =>
    match checkPath v with
    | .error flaw => some flaw
    | .ok p =>
      match d.isFile p with
      | .ok true => some (.isFile p)
      | _ => none
  | .certificateFilename, v => flawOf? (checkFilename v)
  | .logLevel, v => flawOf? (checkText v)

/-- The settings in their order. -/
def Setting.all : List Setting := [.resourceFolder, .certificateFilename, .logLevel]

/-- The report on the winning value of a setting, if the value is wrong. -/
def reportOn (d : Disk) (w : Setting → Option Value) (setting : Setting) : Option SettingReport :=
  (w setting).bind fun v => (setting.flaw? d v).map fun flaw => ⟨setting, flaw, v⟩

/-- The reports on the winning values that are wrong, in the order of the settings. -/
def wrongWinners (d : Disk) (w : Setting → Option Value) : List SettingReport :=
  Setting.all.filterMap (reportOn d w)

/-- The disk tells of the folder that wins whether it is a file. -/
def Answers (d : Disk) (w : Setting → Option Value) : Prop :=
  ∀ v p, w .resourceFolder = some v → checkPath v = .ok p → ∃ b, d.isFile p = .ok b

/-- What a winning value, or a default, is read as. -/
inductive ReadAs {α : Type} (default : α) (check : Value → Except SettingFlaw α) :
    Option Value → α → Prop where
  | default : ReadAs default check none default
  | value {v : Value} {a : α} (h : check v = .ok a) : ReadAs default check (some v) a

/-- What winning values come to: the disk refuses to tell whether the folder is a file, or the
wrong ones are all reported, or none is wrong and the settings have them. -/
inductive Outcome (d : Disk) (folder : Path) (w : Setting → Option Value) :
    Except SettingsFlaw Settings → Prop where
  | refused {v : Value} {p : Path} {flaw : DiskFlaw} (hw : w .resourceFolder = some v)
      (hp : checkPath v = .ok p) (h : d.isFile p = .error flaw) :
      Outcome d folder w (.error (.disk flaw))
  | wrong (hd : Answers d w) (h : wrongWinners d w ≠ []) :
      Outcome d folder w (.error (.wrong (wrongWinners d w)))
  | settled {s : Settings} (hd : Answers d w) (h : wrongWinners d w = [])
      (hfolder : ReadAs folder checkPath (w .resourceFolder) s.resourceFolder)
      (hfilename : ReadAs defaultFilename checkFilename (w .certificateFilename)
        s.certificateFilename)
      (hlevel : ReadAs "INFO" checkText (w .logLevel) s.logLevel) :
      Outcome d folder w (.ok s)

/-- A setting that needs no disk has its winning value, or a report on it. -/
theorem checked_cases {α : Type} (d : Disk) (s : Sources) (setting : Setting) (default : α)
    {check : Value → Except SettingFlaw α}
    (hflaw : ∀ v, setting.flaw? d v = flawOf? (check v)) :
    (∃ a, checked s setting default check = .ok a ∧ reportOn d s.winner? setting = none ∧
      ReadAs default check (s.winner? setting) a) ∨
    ∃ r, checked s setting default check = .error r ∧ reportOn d s.winner? setting = some r := by
  unfold checked reportOn
  cases hw : s.winner? setting with
  | none => exact .inl ⟨default, rfl, rfl, .default⟩
  | some v =>
    cases hc : check v with
    | ok a => exact .inl ⟨a, by simp [hc], by simp [hflaw, hc, flawOf?], .value hc⟩
    | error flaw =>
      exact .inr ⟨⟨setting, flaw, v⟩, by simp [hc], by simp [hflaw, hc, flawOf?]⟩

/-- What is said about the winning value for the folder. -/
def folderChecked (d : Disk) (folder : Path) (s : Sources) :
    Except DiskFlaw (Except SettingReport Path) :=
  match s.winner? .resourceFolder with
  | none => .ok (.ok folder)
  | some v => (checkFolder d v).map fun r => match r with
    | .ok p => .ok p
    | .error flaw => .error ⟨.resourceFolder, flaw, v⟩

/-- The settings from what is said about each of them. -/
def assembled (f : Except DiskFlaw (Except SettingReport Path))
    (n l : Except SettingReport String) : Except SettingsFlaw Settings :=
  match f with
  | .error flaw => .error (.disk flaw)
  | .ok f =>
    match f, n, l with
    | .ok f, .ok n, .ok l => .ok ⟨f, n, l⟩
    | f, n, l => .error (.wrong (report? f ++ report? n ++ report? l))

theorem ofSources_eq (d : Disk) (folder : Path) (s : Sources) :
    Settings.ofSources d folder s = assembled (folderChecked d folder s)
      (checked s .certificateFilename defaultFilename checkFilename)
      (checked s .logLevel "INFO" checkText) := rfl

/-- The folder has its winning value, or a report on it, or the disk refuses to tell. -/
theorem folderChecked_cases (d : Disk) (folder : Path) (s : Sources) :
    (∃ p, folderChecked d folder s = .ok (.ok p) ∧ Answers d s.winner? ∧
      reportOn d s.winner? .resourceFolder = none ∧
      ReadAs folder checkPath (s.winner? .resourceFolder) p) ∨
    (∃ r, folderChecked d folder s = .ok (.error r) ∧ Answers d s.winner? ∧
      reportOn d s.winner? .resourceFolder = some r) ∨
    ∃ v p flaw, folderChecked d folder s = .error flaw ∧
      s.winner? .resourceFolder = some v ∧ checkPath v = .ok p ∧ d.isFile p = .error flaw := by
  unfold folderChecked reportOn
  cases hw : s.winner? .resourceFolder with
  | none => exact .inl ⟨folder, rfl, fun v p hv _ => by simp [hw] at hv, rfl, .default⟩
  | some v =>
    cases hc : checkPath v with
    | error flaw =>
      refine .inr (.inl ⟨⟨.resourceFolder, flaw, v⟩, ?_, fun v' p hv hp => ?_, ?_⟩)
      · simp [checkFolder, hc, Except.map]
      · rw [hw, Option.some.injEq] at hv
        simp [← hv, hc] at hp
      · simp [Setting.flaw?, hc]
    | ok p =>
      have hanswers : ∀ b, d.isFile p = .ok b → Answers d s.winner? := by
        intro b hb v' p' hv hp
        rw [hw, Option.some.injEq] at hv
        rw [← hv, hc, Except.ok.injEq] at hp
        exact ⟨b, hp ▸ hb⟩
      cases hf : d.isFile p with
      | error flaw =>
        exact .inr (.inr ⟨v, p, flaw, by simp [checkFolder, hc, hf, Except.map], rfl, hc, hf⟩)
      | ok b =>
        cases b with
        | true =>
          refine .inr (.inl ⟨⟨.resourceFolder, .isFile p, v⟩, ?_, hanswers _ hf, ?_⟩)
          · simp [checkFolder, hc, hf, Except.map]
          · simp [Setting.flaw?, hc, hf]
        | false =>
          refine .inl ⟨p, ?_, hanswers _ hf, ?_, .value hc⟩
          · simp [checkFolder, hc, hf, Except.map]
          · simp [Setting.flaw?, hc, hf]

theorem wrongWinners_eq (d : Disk) (w : Setting → Option Value) :
    wrongWinners d w = (reportOn d w .resourceFolder).toList ++
      (reportOn d w .certificateFilename).toList ++ (reportOn d w .logLevel).toList := by
  unfold wrongWinners Setting.all
  cases hf : reportOn d w .resourceFolder <;> cases hn : reportOn d w .certificateFilename <;>
    cases hl : reportOn d w .logLevel <;> simp [hf, hn, hl]

/-- Reports on wrong winners, once there are any, are the outcome. -/
theorem Outcome.of_reports {d : Disk} {folder : Path} {w : Setting → Option Value}
    {rs : List SettingReport} (hd : Answers d w) (hrs : wrongWinners d w = rs) (hne : rs ≠ []) :
    Outcome d folder w (.error (.wrong rs)) := by
  subst hrs
  exact .wrong hd hne

/-- What the sources come to is what their winning values come to. -/
theorem ofSources_outcome (d : Disk) (folder : Path) (s : Sources) :
    Outcome d folder s.winner? (Settings.ofSources d folder s) := by
  have hname := checked_cases d s .certificateFilename defaultFilename
    fun v => (rfl : _ = flawOf? (checkFilename v))
  have hlevel := checked_cases d s .logLevel "INFO" fun v => (rfl : _ = flawOf? (checkText v))
  have hwrong := wrongWinners_eq d s.winner?
  rw [ofSources_eq]
  rcases folderChecked_cases d folder s with ⟨p, hp, hd, hpr, hpa⟩ | ⟨r, hp, hd, hpr⟩ |
    ⟨v, p, flaw, hp, hw, hc, hf⟩
  · rcases hname with ⟨n, hn, hnr, hna⟩ | ⟨r, hn, hnr⟩ <;>
      rcases hlevel with ⟨l, hl, hlr, hla⟩ | ⟨r', hl, hlr⟩ <;>
      rw [hpr, hnr, hlr] at hwrong <;> rw [hp, hn, hl]
    · exact .settled hd hwrong hpa hna hla
    all_goals exact .of_reports hd hwrong (by simp [report?])
  · rcases hname with ⟨n, hn, hnr, -⟩ | ⟨r, hn, hnr⟩ <;>
      rcases hlevel with ⟨l, hl, hlr, -⟩ | ⟨r', hl, hlr⟩ <;>
      rw [hpr, hnr, hlr] at hwrong <;> rw [hp, hn, hl] <;>
      exact .of_reports hd hwrong (by simp [report?])
  · rw [hp]
    exact .refused hw hc hf

/-- Sources with the same winning values come to the same, if the disks tell the same of the
folder. -/
theorem ofSources_congr {d d' : Disk} (folder : Path) {s s' : Sources}
    (hw : s'.winner? = s.winner?)
    (hd : ∀ v p, s.winner? .resourceFolder = some v → checkPath v = .ok p →
      d'.isFile p = d.isFile p) :
    Settings.ofSources d' folder s' = Settings.ofSources d folder s := by
  have hfolder : folderChecked d' folder s' = folderChecked d folder s := by
    unfold folderChecked
    rw [hw]
    cases hv : s.winner? .resourceFolder with
    | none => rfl
    | some v =>
      have hcheck : checkFolder d' v = checkFolder d v := by
        unfold checkFolder
        cases hp : checkPath v with
        | error flaw => rfl
        | ok p => simp only [hd v p hv hp]
      simp only [hcheck]
  rw [ofSources_eq, ofSources_eq, hfolder]
  unfold checked
  rw [hw]

/-! ## The settings file -/

/-- The octets of the settings file, if there is one. -/
def settingsOctets? (d : Disk) (file : Path) : Option Octets :=
  match d.isFile file with
  | .ok true => (d.readFile file).toOption
  | _ => none

/-- What a settings file assigns that is a text, has no mark of a reference and names nothing twice,
in whatever case; nothing, if there is no settings file. -/
inductive PlainFile (d : Disk) (file : Path) : List EnvFile.Assignment → Prop where
  | missing (h : settingsOctets? d file = none) : PlainFile d file []
  | text {octets : Octets} {cs : List Char} (h : settingsOctets? d file = some octets)
      (htext : Text.Utf8.decode octets = .ok cs) (hplain : EnvFile.Plain cs)
      (hnames : CaseDistinct ((EnvFile.parse (EnvFile.unifyLines cs)).map
        EnvFile.Assignment.name)) :
      PlainFile d file (EnvFile.parse (EnvFile.unifyLines cs))

theorem PlainFile.caseDistinct {d : Disk} {file : Path} (h : PlainFile d file assigned) :
    CaseDistinct (assigned.map EnvFile.Assignment.name) := by
  cases h with
  | missing h => exact List.nodup_nil
  | text h htext hplain hnames => exact hnames

theorem readAssignments_of_missing {d : Disk} {file : Path} (h : settingsOctets? d file = none)
    (environment : Environment) : readAssignments d file environment = .ok [] := by
  unfold settingsOctets? at h
  unfold readAssignments
  cases hfile : d.isFile file with
  | error flaw => rfl
  | ok isFile =>
    cases isFile with
    | false => rfl
    | true =>
      obtain ⟨n, hn⟩ := Disk.exists_openFile_of_isFile hfile
      simp [hfile, Disk.readFile_of_openFile hn, Except.toOption] at h

theorem readAssignments_of_octets {d : Disk} {file : Path} {octets : Octets}
    (h : settingsOctets? d file = some octets) (environment : Environment) :
    readAssignments d file environment =
      (EnvFile.assignments environment octets).mapError .unreadableFile := by
  unfold settingsOctets? at h
  unfold readAssignments
  cases hfile : d.isFile file with
  | error flaw => simp [hfile] at h
  | ok isFile =>
    cases isFile with
    | false => simp [hfile] at h
    | true =>
      cases hread : d.readFile file with
      | error flaw => simp [hfile, hread, Except.toOption] at h
      | ok bs =>
        obtain rfl : bs = octets := by simpa [hfile, hread, Except.toOption] using h
        cases hbs : EnvFile.assignments environment bs with
        | error flaw => simp only [hbs]; rfl
        | ok assigned => simp only [hbs]; rfl

theorem readAssignments_of_plain {d : Disk} {file : Path} (h : PlainFile d file assigned)
    (environment : Environment) :
    readAssignments d file environment = .ok (assigned.map EnvFile.Assignment.literal) := by
  cases h with
  | missing h => exact readAssignments_of_missing h environment
  | text h htext hplain hnames =>
    have hdistinct := List.Pairwise.of_map Text.lowerAscii
      (fun _ _ hne he => hne (congrArg Text.lowerAscii he)) hnames
    have hresolve := EnvFile.resolve_eq_map
      (fun a ha value => EnvFile.plain_of_mem_parse (EnvFile.plain_unifyLines hplain) ha)
      hdistinct environment
    rw [readAssignments_of_octets h, EnvFile.assignments, htext, Except.map, hresolve]
    rfl

/-! ## Settings -/

/-- The settings come from the sources as they stand. -/
theorem load_of_plain {d : Disk} {file : Path} (folder : Path) (h : PlainFile d file assigned)
    (environment : Environment) (given : Register Value) :
    Settings.load d file folder environment given =
      Settings.ofSources d folder (.ofLiterals given environment assigned) := by
  rw [Settings.load, readAssignments_of_plain h]
  rfl

/-- **One winning value for each setting.** For an environment in which no two names differ only in
case and a settings file without references that names nothing twice, the settings, or what is
wrong with them, come from the winning values alone: two runs with the same winning values come to
the same, whatever else stands in their sources. -/
theorem winners_decide {d : Disk} {file : Path} (folder : Path)
    (henv : CaseDistinct (environment.map Prod.fst)) (hfile : PlainFile d file assigned) :
    (∀ setting, ∃ w, Wins given environment assigned setting w ∧
      ∀ w', Wins given environment assigned setting w' → w' = w) ∧
    ∀ w : Setting → Option Value,
      (∀ setting, Wins given environment assigned setting (w setting)) →
      Outcome d folder w (Settings.load d file folder environment given) ∧
      ∀ (d' : Disk) (file' : Path) (environment' : Environment) (given' : Register Value)
        (assigned' : List EnvFile.Assignment), CaseDistinct (environment'.map Prod.fst) →
        PlainFile d' file' assigned' →
        (∀ setting, Wins given' environment' assigned' setting (w setting)) →
        (∀ v p, w .resourceFolder = some v → checkPath v = .ok p → d'.isFile p = d.isFile p) →
        Settings.load d' file' folder environment' given' =
          Settings.load d file folder environment given := by
  have hdistinct := hfile.caseDistinct
  refine ⟨fun setting => ⟨_, wins_winner? given environment setting hdistinct,
    fun w' hw' => (hw'.winner?_eq henv hdistinct).symm⟩, fun w hw => ?_⟩
  have hwinner : (Sources.ofLiterals given environment assigned).winner? = w :=
    funext fun setting => (hw setting).winner?_eq henv hdistinct
  refine ⟨?_, fun d' file' environment' given' assigned' henv' hfile' hw' hd => ?_⟩
  · rw [load_of_plain folder hfile, ← hwinner]
    exact ofSources_outcome d folder _
  · have hwinner' : (Sources.ofLiterals given' environment' assigned').winner? = w :=
      funext fun setting => (hw' setting).winner?_eq henv' hfile'.caseDistinct
    rw [load_of_plain folder hfile, load_of_plain folder hfile']
    exact ofSources_congr folder (hwinner'.trans hwinner.symm) (hwinner ▸ hd)

/-- Where the settings file is looked for in the samples. -/
def envFile : Path := ⟨.here, [".env"]⟩

/-- A disk with nothing on it but a settings file. -/
def fileDisk (content : String) : Disk :=
  { home := [], entries := [([".env"], .file 0)], contents := [Text.Utf8.encode content.toList] }

/-- A settings file that loses twice and wins with a wrong value. -/
def losingFile : String :=
  "CERT_FIXTURES_RESOURCE_DIR=other\ncert_fixtures_certificate_filename='a/b' # wrong\n" ++
    "export CERT_FIXTURES_LOG_LEVEL=DEBUG\n"

/-- A settings file that says no more than what wins in the other one. -/
def winningFile : String :=
  "CERT_FIXTURES_CERTIFICATE_FILENAME=a/b"

theorem eq_ok_of_toOption {ε α : Type} {x : Except ε α} {a : α} (h : x.toOption = some a) :
    x = .ok a := by
  cases x <;> simp_all [Except.toOption]

theorem plainFile_fileDisk {content : String}
    (hfile : settingsOctets? (fileDisk content) envFile = some (Text.Utf8.encode content.toList))
    (htext : (Text.Utf8.decode (Text.Utf8.encode content.toList)).toOption = some content.toList)
    (hplain : EnvFile.Plain content.toList) {assigned : List EnvFile.Assignment}
    (hparse : EnvFile.parse (EnvFile.unifyLines content.toList) = assigned)
    (hnames : CaseDistinct (assigned.map EnvFile.Assignment.name)) :
    PlainFile (fileDisk content) envFile assigned := by
  subst hparse
  exact .text hfile (eq_ok_of_toOption htext) hplain hnames

/-- The caller gives a folder by a name in capitals, and no source has the name of the setting. The
folder is the one that is given, all the same, and not the default one. -/
theorem capital_keyword_wins :
    let given : Register Value := [("RESOURCE_DIR", .text "x")]
    let folder : Path := ⟨.here, ["shipped"]⟩
    let d : Disk := ⟨[], [], []⟩
    given.lookup Setting.resourceFolder.name = none ∧ settingsOctets? d envFile = none ∧
      Settings.load d envFile folder [] [] = .ok ⟨folder, "certificate.cer", "INFO"⟩ ∧
      Settings.load d envFile folder [] given = .ok ⟨⟨.here, ["x"]⟩, "certificate.cer", "INFO"⟩ :=
  ⟨by decide +kernel, by decide +kernel, eq_ok_of_toOption (by decide +kernel),
    eq_ok_of_toOption (by decide +kernel)⟩

/-- What wins in the sample: nothing of the environment, a file name of the settings file, and a
level of the caller. -/
def winnersSample : Setting → Option Value
  | .resourceFolder => some (.text "")
  | .certificateFilename => some (.text "a/b")
  | .logLevel => some (.int 5)

/-- Both texts that win in the sample are reported, in the order of the settings. -/
theorem outcome_sample {d : Disk} {folder : Path} {r : Except SettingsFlaw Settings}
    (hd : d.isFile (Path.ofText "") = .ok false) (h : Outcome d folder winnersSample r) :
    r = .error (.wrong
      [⟨.certificateFilename, .notBare "a/b", .text "a/b"⟩, ⟨.logLevel, .notText, .int 5⟩]) := by
  have hbare : Path.isBareName "a/b" = false := by decide +kernel
  have hwrong : wrongWinners d winnersSample =
      [⟨.certificateFilename, .notBare "a/b", .text "a/b"⟩, ⟨.logLevel, .notText, .int 5⟩] := by
    simp [wrongWinners_eq, reportOn, winnersSample, Setting.flaw?, flawOf?, checkPath,
      checkFilename, checkText, hd, hbare, bind, Except.bind]
  cases h with
  | refused hw hp hf =>
    obtain rfl := Option.some.inj hw
    obtain rfl := Except.ok.inj hp
    simp [hd] at hf
  | wrong ha hne => rw [hwrong]
  | settled ha hnil => simp [hwrong] at hnil

/-- What the caller gives in the sample. -/
def givenSample : Register Value := [("log_level", .int 5)]

/-- The environment of the sample, with one name that means nothing. -/
def environmentSample : Environment :=
  [("Cert_Fixtures_Resource_Dir", ""), ("LOG_LEVEL", "other")]

theorem winners_decide_sample :
    let outcome := Settings.load (fileDisk losingFile) envFile ⟨.here, ["shipped"]⟩
      environmentSample givenSample
    outcome = .error (.wrong
      [⟨.certificateFilename, .notBare "a/b", .text "a/b"⟩, ⟨.logLevel, .notText, .int 5⟩]) ∧
    Settings.load (fileDisk winningFile) envFile ⟨.here, ["shipped"]⟩
      [("CERT_FIXTURES_RESOURCE_DIR", "")] givenSample = outcome := by
  intro outcome
  have hlosing : PlainFile (fileDisk losingFile) envFile
      [⟨"CERT_FIXTURES_RESOURCE_DIR", some "other".toList⟩,
        ⟨"cert_fixtures_certificate_filename", some "a/b".toList⟩,
        ⟨"CERT_FIXTURES_LOG_LEVEL", some "DEBUG".toList⟩] :=
    plainFile_fileDisk (by decide +kernel) (by decide +kernel)
      (by unfold EnvFile.Plain; decide +kernel) (by decide +kernel)
      (by unfold CaseDistinct; decide +kernel)
  have hwinning : PlainFile (fileDisk winningFile) envFile
      [⟨"CERT_FIXTURES_CERTIFICATE_FILENAME", some "a/b".toList⟩] :=
    plainFile_fileDisk (by decide +kernel) (by decide +kernel)
      (by unfold EnvFile.Plain; decide +kernel) (by decide +kernel)
      (by unfold CaseDistinct; decide +kernel)
  have hnotFile : ∀ content, (fileDisk content).isFile (Path.ofText "") = .ok false :=
    fun _ => rfl
  have henv : CaseDistinct (environmentSample.map Prod.fst) := by
    unfold CaseDistinct; decide +kernel
  obtain ⟨-, hdecide⟩ := @winners_decide givenSample _ _ _ _ ⟨.here, ["shipped"]⟩ henv hlosing
  have hwins : ∀ setting, Wins givenSample environmentSample
      [⟨"CERT_FIXTURES_RESOURCE_DIR", some "other".toList⟩,
        ⟨"cert_fixtures_certificate_filename", some "a/b".toList⟩,
        ⟨"CERT_FIXTURES_LOG_LEVEL", some "DEBUG".toList⟩] setting (winnersSample setting) := by
    rintro (_ | _ | _)
    · have h : ("Cert_Fixtures_Resource_Dir", "") ∈ environmentSample := by decide +kernel
      exact .inEnvironment (by unfold Unnamed; decide +kernel) h (by decide +kernel)
    · exact .inFile (a := ⟨"cert_fixtures_certificate_filename", some "a/b".toList⟩)
        (by unfold Unnamed; decide +kernel) (by unfold Unnamed; decide +kernel)
        (by decide +kernel) (by decide +kernel) rfl
    · exact .given rfl
  have hwins' : ∀ setting, Wins givenSample [("CERT_FIXTURES_RESOURCE_DIR", "")]
      [⟨"CERT_FIXTURES_CERTIFICATE_FILENAME", some "a/b".toList⟩] setting
      (winnersSample setting) := by
    rintro (_ | _ | _)
    · have h : ("CERT_FIXTURES_RESOURCE_DIR", "") ∈ [("CERT_FIXTURES_RESOURCE_DIR", "")] :=
        List.mem_singleton_self _
      exact .inEnvironment (by unfold Unnamed; decide +kernel) h (by decide +kernel)
    · exact .inFile (a := ⟨"CERT_FIXTURES_CERTIFICATE_FILENAME", some "a/b".toList⟩)
        (by unfold Unnamed; decide +kernel) (by unfold Unnamed; decide +kernel)
        (by decide +kernel) (by decide +kernel) rfl
    · exact .given rfl
  obtain ⟨houtcome, hsame⟩ := hdecide winnersSample hwins
  refine ⟨outcome_sample (hnotFile _) houtcome, hsame (fileDisk winningFile) envFile _ _ _
    (by unfold CaseDistinct; decide +kernel) hwinning hwins' fun v p hv hp => ?_⟩
  obtain rfl := Option.some.inj hv
  obtain rfl := Except.ok.inj hp
  rw [hnotFile, hnotFile]

end Specimen
