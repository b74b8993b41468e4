import Specimen.Proofs.Thresholds

/-!
# Which names set which thresholds

A threshold is set by a name. The name is looked up in upper case among all that the means of
printing go by, where the names of levels stand beside others; a name that is not found there is
taken for the level `INFO`. Two of the others are found too, and then no threshold is set at all.

* `thresholdNamed`: the thresholds that names are meant to set.
* `Reserved`: the names that stand for something else.
* `thresholdOf_of_not_reserved`, `thresholdOf_of_reserved`: what a name sets.
* `Session.threshold_by_name`: what is printed after a name has been given, to a session or in the
  settings of the command.
* `Session.reserved_name_refused`: an unknown name that is not taken for `INFO`.
-/

namespace Specimen

/-- A name in upper case. -/
def upperName (name : String) : String :=
  String.ofList (Text.upper name.toList)

/-- The threshold that a name in upper case is meant to set. -/
def thresholdNamed : String → Nat
  | "CRITICAL" | "FATAL" => 50
  | "ERROR" => 40
  | "WARNING" | "WARN" => 30
  | "INFO" => 20
  | "DEBUG" => 10
  | "NOTSET" => 0
  | _ => 20

/-- A name that stands for something else than a level: for the layout of a line, or for the table
of layouts. -/
def Reserved (name : String) : Prop :=
  upperName name = "BASIC_FORMAT" ∨ upperName name = "_STYLES"

instance (name : String) : Decidable (Reserved name) :=
  inferInstanceAs (Decidable (_ ∨ _))

variable {name : String}

theorem lookup_thresholdNames (key : String) :
    (thresholdNames.lookup key).getD Level.info.rank = thresholdNamed key := by
  unfold thresholdNamed
  split
  case h_9 =>
    -- The name is none of those in the table.
    have hnone : thresholdNames.lookup key = none :=
      List.lookup_eq_none_iff.2 (by simp_all [thresholdNames])
    rw [hnone]
    rfl
  all_goals rfl

theorem thresholdOf_of_not_reserved (h : ¬ Reserved name) :
    thresholdOf name = .ok (thresholdNamed (upperName name)) := by
  obtain ⟨hlayout, htable⟩ := not_or.1 h
  unfold upperName at hlayout htable
  rw [thresholdOf, if_neg hlayout, if_neg htable, lookup_thresholdNames, upperName]

theorem thresholdOf_of_reserved (h : Reserved name) :
    ∃ flaw, thresholdOf name = .error flaw := by
  unfold Reserved upperName at h
  unfold thresholdOf
  by_cases hlayout : String.ofList (Text.upper name.toList) = "BASIC_FORMAT"
  · exact ⟨.layoutName, if_pos hlayout⟩
  · refine ⟨.layoutTableName, ?_⟩
    rw [if_neg hlayout, if_pos (h.resolve_left hlayout)]

/-! ## The threshold after more has happened -/

/-- The threshold that was set last is in force, or else the one from before. -/
theorem Console.threshold_replay (c : Console) (hs : List Happening) :
    (c.replay hs).threshold = (latest? hs).or c.threshold := by
  induction hs generalizing c with
  | nil => rfl
  | cons h hs ih =>
    rw [replay_cons, ih, threshold_happen, ← Option.or_assoc, ← latest?_append,
      List.singleton_append]

namespace Session

variable {s : Session} {n : Nat}

theorem threshold_after (s : Session) (cs : List Command) :
    (s.after cs).console.threshold = (latest? (s.histories cs)).or s.console.threshold := by
  induction cs generalizing s with
  | nil => rfl
  | cons c cs ih =>
    have hnext : (s.next c).console.threshold =
        (latest? (s.history c)).or s.console.threshold := by
      rw [next_console, Console.threshold_replay]
      rfl
    rw [after, histories, ih, hnext, latest?_append, Option.or_assoc]

/-- A new logger prints what is at least at the threshold. -/
theorem step_note_lines (h : s.console.threshold = some n) (e : Event) :
    (s.step (.note e)).2.1 = if n ≤ e.level.rank then [e.line] else [] := by
  have hsilent : s.silent.console.threshold = some n := h
  have hprints : s.silent.console.prints .application e.level = decide (n ≤ e.level.rank) := by
    simp [Console.prints, Console.thresholdFor, hsilent]
  rw [step_lines, history, Console.replay_cons, Console.replay_nil, Console.happen, Console.note,
    hprints]
  by_cases hle : n ≤ e.level.rank
  · simp only [hle, decide_true, if_true]
    rfl
  · simp only [hle, decide_false, if_false]
    rfl

/-- What a command that sets the threshold by a name does to a session. -/
theorem run_configure (name : String) (s : Session) :
    StateT.run (ExceptT.run (Act.perform (.configure [.text name]))) s =
      match thresholdOf name with
      | .ok n => (.ok .nothing, { s with world := { s.world with
          console := { s.world.console with threshold := some n } } })
      | .error flaw => (.error (.threshold flaw), s) := by
  rw [Act.perform, Act.configure, run_bind, Act.run_ofExcept]
  simp only [thresholdName, Except.mapError, run_bind, Act.run_ofRun]
  cases h : thresholdOf name with
  | ok n =>
    rw [Regenerate.configure_of_ok h]
    rfl
  | error flaw => rw [Regenerate.configure_of_error h]

theorem configured_of_not_reserved (h : ¬ Reserved name) :
    (s.step (.configure [.text name])).1 = .ok .nothing ∧
      (s.next (.configure [.text name])).console.threshold =
        some (thresholdNamed (upperName name)) := by
  have hrun := run_configure name s.silent
  rw [thresholdOf_of_not_reserved h] at hrun
  rw [step_fst, next_eq, hrun]
  exact ⟨rfl, rfl⟩

theorem refused_of_reserved (h : Reserved name) :
    ∃ flaw, (s.step (.configure [.text name])).1 = .error (.threshold flaw) ∧
      s.next (.configure [.text name]) = s.silent := by
  obtain ⟨flaw, hflaw⟩ := thresholdOf_of_reserved h
  have hrun := run_configure name s.silent
  rw [hflaw] at hrun
  rw [step_fst, next_eq, hrun]
  exact ⟨flaw, rfl, rfl⟩

open Regenerate (settingsOf writeAndCheck started run_of_settings) in
/-- **Names of thresholds.** A name that is not reserved sets the threshold of its level, or that of
`INFO` if no level has the name. From then on, until another threshold is set, a new logger prints
an event exactly if its level is at least the threshold. As a setting of the command the name does
the same, and the command goes on to its write. A reserved name sets no threshold and changes
nothing, neither in a session nor in the command, which ends over it. -/
theorem threshold_by_name (s : Session) (name : String) :
    let configured := s.step (.configure [.text name])
    let t := s.next (.configure [.text name])
    (¬ Reserved name →
      configured.1 = .ok .nothing ∧
      (∀ cs e, latest? (t.histories cs) = none →
        ((t.after cs).step (.note e)).2.1 =
          if thresholdNamed (upperName name) ≤ e.level.rank then [e.line] else []) ∧
      ∀ number w settings, settingsOf w = .ok settings → settings.logLevel = name →
        (Regenerate.run number).on w = (writeAndCheck settings (.ofSettings number settings)).on
          (started w settings (thresholdNamed (upperName name)))) ∧
    (Reserved name →
      (∃ flaw, configured.1 = .error (.threshold flaw)) ∧ t = s.silent ∧
      ∀ number w settings, settingsOf w = .ok settings → settings.logLevel = name →
        ∃ flaw, (Regenerate.run number).on w = (.error (.threshold flaw), w)) := by
  intro configured t
  constructor
  · intro h
    obtain ⟨hanswer, hthreshold⟩ := configured_of_not_reserved (s := s) h
    refine ⟨hanswer, fun cs e hcs => step_note_lines ?_ e, fun number w settings hs hname => ?_⟩
    · rw [threshold_after, hcs, Option.none_or]
      exact hthreshold
    · have hlevel := thresholdOf_of_not_reserved h
      rw [← hname] at hlevel ⊢
      rcases run_of_settings number hs with ⟨flaw, hflaw, -⟩ | ⟨n, hn, hon⟩
      · rw [hlevel] at hflaw
        exact absurd hflaw (by simp)
      · rw [hlevel] at hn
        rw [hon, Except.ok.inj hn]
  · intro h
    obtain ⟨flaw, hanswer, hsame⟩ := refused_of_reserved (s := s) h
    refine ⟨⟨flaw, hanswer⟩, hsame, fun number w settings hs hname => ?_⟩
    obtain ⟨flaw', hflaw'⟩ := thresholdOf_of_reserved h
    rcases run_of_settings number hs with ⟨flaw'', -, hon⟩ | ⟨n, hn, -⟩
    · exact ⟨flaw'', hon⟩
    · rw [hname, hflaw'] at hn
      exact absurd hn (by simp)

/-- An event of a level. -/
def eventSample (level : Level) : Event :=
  ⟨level, "sample", []⟩

theorem threshold_by_name_sample :
    let warned := oneFileSample.next (.configure [.text "warn"])
    let loud := oneFileSample.next (.configure [.text "loud"])
    (¬ Reserved "warn" ∧ (warned.step (.note (eventSample .info))).2.1 = [] ∧
      (warned.step (.note (eventSample .error))).2.1 = [(eventSample .error).line]) ∧
    (¬ Reserved "loud" ∧
      (loud.step (.note (eventSample .info))).2.1 = [(eventSample .info).line]) ∧
    Reserved "_styles" ∧
      ∃ flaw, (oneFileSample.step (.configure [.text "_styles"])).1 = .error (.threshold flaw) := by
  have hwarn : ¬ Reserved "warn" := by decide +kernel
  have hloud : ¬ Reserved "loud" := by decide +kernel
  have hstyles : Reserved "_styles" := by decide +kernel
  obtain ⟨-, hwarned, -⟩ := (threshold_by_name oneFileSample "warn").1 hwarn
  obtain ⟨-, hprinted, -⟩ := (threshold_by_name oneFileSample "loud").1 hloud
  obtain ⟨hrefused, -, -⟩ := (threshold_by_name oneFileSample "_styles").2 hstyles
  exact ⟨⟨hwarn, hwarned [] _ rfl, hwarned [] _ rfl⟩, ⟨hloud, hprinted [] _ rfl⟩, hstyles,
    hrefused⟩

/-- A world with a reserved name as setting. -/
def reservedWorld : World where
  disk := ⟨[], [], []⟩
  environment := [("CERT_FIXTURES_LOG_LEVEL", "basic_format")]
  settingsFile := ⟨.here, [".env"]⟩
  resourceFolder := ⟨.here, ["res"]⟩
  ascents := 9

/-- No threshold has the name, and still it is not taken for `INFO`, neither in a session nor in
the command. -/
theorem reserved_name_refused :
    thresholdNames.lookup (upperName "basic_format") = none ∧
    (oneFileSample.step (.configure [.text "basic_format"])).1 =
      .error (.threshold .layoutName) ∧
    (Regenerate.run 0).on reservedWorld = (.error (.threshold .layoutName), reservedWorld) := by
  have hflaw : thresholdOf "basic_format" = .error .layoutName := by decide +kernel
  have hrun := run_configure "basic_format" oneFileSample.silent
  rw [hflaw] at hrun
  have hs : Regenerate.settingsOf reservedWorld =
      .ok ⟨⟨.here, ["res"]⟩, defaultFilename, "basic_format"⟩ :=
    eq_ok_of_toOption (by decide +kernel)
  refine ⟨by decide +kernel, by rw [step_fst, hrun], ?_⟩
  rcases Regenerate.run_of_settings 0 hs with ⟨flaw, h, hon⟩ | ⟨n, hn, -⟩
  · obtain rfl := Except.error.inj (hflaw.symm.trans h)
    exact hon
  · rw [hflaw] at hn
    exact absurd hn (by simp)

end Session

end Specimen
