import Specimen.Proofs.HexInverse
import Specimen.Proofs.History

/-!
# Which threshold holds

Events of the application are held to the threshold that was set last. Those of the companion file
are not: its logger takes over the threshold in force when it is first used after one has been set,
and keeps it, whatever is set later.

* `latest?`, `governing?`: the two thresholds, by what has happened.
* `Console.Follows`: a console that has the thresholds of what has happened.
* `Session.companion_threshold`: what is printed in a run of commands.
* `Session.latest_not_governing`: a threshold that is set after the logger has been used is not the
  one that holds.
-/

namespace Specimen

/-! ## Thresholds by what has happened -/

namespace Happening

/-- The threshold that is set, if one is. -/
def threshold? : Happening → Option Nat
  | .configured n => some n
  | .noted _ _ => none

/-- Whether the companion file's logger is used. -/
def isUse : Happening → Bool
  | .noted .companion _ => true
  | _ => false

end Happening

/-- The threshold that was set last. -/
def latest? (hs : List Happening) : Option Nat :=
  (hs.filterMap Happening.threshold?).getLast?

/-- What has happened from the first threshold on. -/
def sinceSet (hs : List Happening) : List Happening :=
  hs.dropWhile fun h => h.threshold?.isNone

/-- The threshold for the companion file: of those that were set before its logger was first used
after one had been set, the last. -/
def governing? (hs : List Happening) : Option Nat :=
  latest? ((sinceSet hs).takeWhile fun h => !h.isUse)

/-- Whether the companion file's logger has been used after a threshold had been set. -/
def isBound (hs : List Happening) : Bool :=
  (sinceSet hs).any Happening.isUse

section

variable {hs hs' : List Happening} {h : Happening}

theorem latest?_append (hs hs' : List Happening) :
    latest? (hs ++ hs') = (latest? hs').or (latest? hs) := by
  simp [latest?, List.getLast?_append]

theorem latest?_sinceSet (hs : List Happening) : latest? (sinceSet hs) = latest? hs := by
  induction hs with
  | nil => rfl
  | cons h hs ih =>
    unfold sinceSet at ih ⊢
    rw [List.dropWhile_cons]
    split
    · rename_i hnone
      rw [ih]
      simp [latest?, Option.isNone_iff_eq_none.1 hnone]
    · rfl

theorem sinceSet_eq_nil_iff : sinceSet hs = [] ↔ latest? hs = none := by
  simp [sinceSet, latest?, List.dropWhile_eq_nil_iff]

/-- Once a threshold has been set, all that happens comes after it. -/
theorem sinceSet_append (hset : latest? hs ≠ none) (hs' : List Happening) :
    sinceSet (hs ++ hs') = sinceSet hs ++ hs' := by
  have hne : sinceSet hs ≠ [] := fun hnil => hset (sinceSet_eq_nil_iff.1 hnil)
  unfold sinceSet at hne ⊢
  rw [List.dropWhile_append, if_neg (by simpa using hne)]

theorem latest?_ne_none_of_isBound (hb : isBound hs = true) : latest? hs ≠ none := by
  intro hnone
  rw [isBound, sinceSet_eq_nil_iff.2 hnone] at hb
  simp at hb

/-- As long as the companion file's logger has not been used since a threshold was set, the latest
threshold holds for it. -/
theorem governing?_of_not_isBound (hb : isBound hs = false) : governing? hs = latest? hs := by
  have hall : ∀ h ∈ sinceSet hs, (!h.isUse) = true := by simpa [isBound] using hb
  rw [governing?, List.takeWhile_eq_self_iff.2 hall, latest?_sinceSet]

/-- Once it has been used, nothing that happens changes the threshold that holds for it. -/
theorem governing?_append_of_isBound (hb : isBound hs = true) (hs' : List Happening) :
    governing? (hs ++ hs') = governing? hs := by
  have hlt : ((sinceSet hs).takeWhile fun h => !h.isUse).length ≠ (sinceSet hs).length := by
    intro hlen
    have hself := (List.takeWhile_prefix fun h : Happening => !h.isUse).eq_of_length hlen
    have hall := List.takeWhile_eq_self_iff.1 hself
    obtain ⟨h, hh, huse⟩ := List.any_eq_true.1 hb
    have hunused := hall h hh
    simp [huse] at hunused
  rw [governing?, governing?, sinceSet_append (latest?_ne_none_of_isBound hb),
    List.takeWhile_append, if_neg hlt]

/-- The first use of the companion file's logger takes over the latest threshold. -/
theorem governing?_append_use (hset : latest? hs ≠ none) (hb : isBound hs = false)
    (huse : h.isUse = true) : governing? (hs ++ [h]) = latest? hs := by
  have hall : ∀ h ∈ sinceSet hs, (!h.isUse) = true := by simpa [isBound] using hb
  rw [governing?, sinceSet_append hset, List.takeWhile_append_of_pos hall,
    List.takeWhile_cons_of_neg (by simp [huse]), List.append_nil, latest?_sinceSet]

theorem exists_sinceSet (hset : latest? hs ≠ none) :
    ∃ n rest, sinceSet hs = .configured n :: rest := by
  induction hs with
  | nil => exact absurd rfl hset
  | cons h hs ih =>
    cases h with
    | configured n => exact ⟨n, hs, rfl⟩
    | noted source e => exact ih hset

/-- Once a threshold has been set, there is one for the companion file. -/
theorem governing?_ne_none (hset : latest? hs ≠ none) : governing? hs ≠ none := by
  obtain ⟨n, rest, hsince⟩ := exists_sinceSet hset
  rw [governing?, hsince, List.takeWhile_cons_of_pos rfl]
  simp [latest?, Happening.threshold?]

theorem isBound_concat (hs : List Happening) (h : Happening) :
    isBound (hs ++ [h]) = (isBound hs || (latest? hs).isSome && h.isUse) := by
  by_cases hset : latest? hs = none
  · have hnil := sinceSet_eq_nil_iff.2 hset
    have hsingle : sinceSet (hs ++ [h]) = sinceSet [h] := by
      unfold sinceSet at hnil ⊢
      rw [List.dropWhile_append, hnil]
      rfl
    rw [isBound, isBound, hsingle, hnil, hset]
    cases h <;> rfl
  · rw [isBound, isBound, sinceSet_append hset, List.any_append]
    simp [Option.isSome_iff_ne_none.2 hset]

end

/-- The threshold that holds for a source, after what has happened. -/
def inForce? (hs : List Happening) : Source → Option Nat
  | .application => latest? hs
  | .companion => governing? hs

/-! ## What is printed -/

/-- The events that are printed, of those among what happens next: the ones whose level is at least
the threshold that holds for their source by then. -/
def shown (before : List Happening) : List Happening → List Event
  | [] => []
  | .configured n :: hs => shown (before ++ [.configured n]) hs
  | .noted source e :: hs =>
    let rest := shown (before ++ [.noted source e]) hs
    if (inForce? before source).all (· ≤ e.level.rank) then e :: rest else rest

/-- What is shown of a first part does not depend on the rest. -/
theorem shown_append (before hs hs' : List Happening) :
    shown before (hs ++ hs') = shown before hs ++ shown (before ++ hs) hs' := by
  induction hs generalizing before with
  | nil => simp [shown]
  | cons h hs ih =>
    cases h with
    | configured n => simp [shown, ih]
    | noted source e =>
      simp only [List.cons_append, shown, ih]
      split <;> simp

namespace Console

variable {c : Console} {before : List Happening}

/-- A threshold that is set is in force from then on. -/
theorem threshold_happen (c : Console) (h : Happening) :
    (c.happen h).threshold = (latest? [h]).or c.threshold := by
  cases h with
  | configured n => rfl
  | noted source e => cases source <;> rfl

/-- A console has the thresholds of what has happened: the latest one, and for the companion file's
logger, once it has been used, the one that holds for it. -/
structure Follows (c : Console) (before : List Happening) : Prop where
  threshold : c.threshold = latest? before
  companion : c.companion = if isBound before then governing? before else none

theorem Follows.thresholdFor (h : c.Follows before) (source : Source) :
    c.thresholdFor source = inForce? before source := by
  cases source with
  | application => exact h.threshold
  | companion =>
    show c.companion.or c.threshold = governing? before
    rw [h.companion, h.threshold]
    by_cases hb : isBound before = true
    · obtain ⟨n, hn⟩ := Option.ne_none_iff_exists'.1
        (governing?_ne_none (latest?_ne_none_of_isBound hb))
      rw [if_pos hb, hn, Option.some_or]
    · rw [if_neg hb, Option.none_or, governing?_of_not_isBound (by simpa using hb)]

/-- One thing more that happens. -/
theorem Follows.happen (hc : c.Follows before) (h : Happening) :
    (c.happen h).Follows (before ++ [h]) where
  threshold := by
    rw [latest?_append, threshold_happen, hc.threshold]
  companion := by
    rw [isBound_concat]
    cases hb : isBound before with
    | true =>
      have hkept : c.companion = governing? before := by rw [hc.companion, if_pos hb]
      obtain ⟨n, hn⟩ := Option.ne_none_iff_exists'.1
        (governing?_ne_none (latest?_ne_none_of_isBound hb))
      rw [governing?_append_of_isBound hb, Bool.true_or, if_pos rfl]
      cases h with
      | configured m => exact hkept
      | noted source e =>
        cases source with
        | application => exact hkept
        | companion =>
          show c.companion.or c.threshold = governing? before
          rw [hkept, hn, Option.some_or]
    | false =>
      have hnone : c.companion = none := by simp [hc.companion, hb]
      cases h with
      | configured m =>
        show c.companion = _
        simp [hnone, Happening.isUse]
      | noted source e =>
        cases source with
        | application =>
          show c.companion = _
          simp [hnone, Happening.isUse]
        | companion =>
          show c.companion.or c.threshold = _
          rw [hnone, Option.none_or, hc.threshold]
          by_cases hset : latest? before = none
          · simp [hset]
          · rw [governing?_append_use hset hb rfl]
            simp [Happening.isUse, Option.isSome_iff_ne_none.2 hset]

theorem Follows.prints (hc : c.Follows before) (source : Source) (level : Level) :
    c.prints source level = (inForce? before source).all (· ≤ level.rank) := by
  rw [Console.prints, hc.thresholdFor]
  cases inForce? before source <;> rfl

/-- All that happens, one after the other: the thresholds are those of what has happened, and what
is shown is printed. -/
theorem Follows.replay (hc : c.Follows before) (hs : List Happening) :
    (c.replay hs).Follows (before ++ hs) ∧
      (c.replay hs).printed.reverse = c.printed.reverse ++ shown before hs := by
  induction hs generalizing c before with
  | nil => exact ⟨by simpa using hc, by simp [shown]⟩
  | cons h hs ih =>
    obtain ⟨hfollows, hprinted⟩ := ih (hc.happen h)
    refine ⟨by simpa using hfollows, ?_⟩
    rw [replay_cons, hprinted]
    cases h with
    | configured n => rfl
    | noted source e =>
      simp only [Console.happen, note, hc.prints, shown]
      split <;> simp [List.append_assoc]

end Console

/-! ## Names of levels -/

/-- Upper case does not depend on the case a text is written in. -/
theorem Text.upper_lowerAscii (s : String) : upper (lowerAscii s).toList = upper s.toList := by
  have hchar : ∀ c : Char, upperChar c.toLower = upperChar c := fun c => by
    by_cases h : c.toNat < 128
    · exact forall_ascii (P := fun c => upperChar c.toLower = upperChar c) (by decide +kernel) h
    · rw [toLower_of_not_ascii h]
  rw [toList_lowerAscii, upper, upper, List.flatMap_map]
  simp only [hchar]

theorem thresholdOf_lowerAscii (name : String) :
    thresholdOf (Text.lowerAscii name) = thresholdOf name := by
  rw [thresholdOf, thresholdOf, Text.upper_lowerAscii]

/-- The name of a level, in whatever case, sets the threshold to that level. -/
theorem thresholdOf_level {name : String} {level : Level} (h : Text.lowerAscii name = level.name) :
    thresholdOf name = .ok level.rank := by
  rw [← thresholdOf_lowerAscii, h]
  cases level <;> decide +kernel

/-! ## Runs -/

namespace Session

variable {s : Session}

/-- What happens in a run of commands. -/
def histories (s : Session) : List Command → List Happening
  | [] => []
  | c :: cs => s.history c ++ (s.next c).histories cs

/-- Printing is forgotten between commands, and thresholds are not. -/
theorem follows_silent {before : List Happening} (h : s.console.Follows before) :
    s.silent.console.Follows before :=
  ⟨h.threshold, h.companion⟩

theorem follows_next {before : List Happening} (h : s.console.Follows before) (c : Command) :
    (s.next c).console.Follows (before ++ s.history c) := by
  rw [next_console]
  exact ((follows_silent h).replay _).1

theorem follows_after {before : List Happening} (h : s.console.Follows before)
    (cs : List Command) : (s.after cs).console.Follows (before ++ s.histories cs) := by
  induction cs generalizing s before with
  | nil => simpa [histories, after] using h
  | cons c cs ih => simpa [histories, after] using ih (follows_next h c)

theorem step_lines_of_follows {before : List Happening} (h : s.console.Follows before)
    (c : Command) : (s.step c).2.1 = (shown before (s.history c)).map Event.line := by
  obtain ⟨-, hprinted⟩ := (follows_silent h).replay (s.history c)
  rw [step_lines, Console.lines, hprinted]
  rfl

theorem latest?_ne_none_of_mem {hs : List Happening} {n : Nat} (h : .configured n ∈ hs) :
    latest? hs ≠ none := by
  simp only [latest?, ne_eq, List.getLast?_eq_none_iff, List.filterMap_eq_nil_iff, not_forall]
  exact ⟨_, h, by simp [Happening.threshold?]⟩

/-- **The threshold of the companion file.** In a run that begins without thresholds, all that is
printed are the events that are shown, each of them in its place. An event of the companion file,
once a threshold has been set, is among them exactly if its level is at least the threshold that was
set last before the logger was first used after one had been set; that is the latest threshold, as
long as it has not been used. The names of the levels set the thresholds, in whatever case they are
written, and so they do as settings of the command. -/
theorem companion_threshold {s : Session} (ht : s.console.threshold = none)
    (hc : s.console.companion = none) (cs : List Command) (c : Command) :
    let before := s.histories cs
    let t := s.after cs
    (t.step c).2.1 = (shown before (t.history c)).map Event.line ∧
    (∀ front e back, t.history c = front ++ .noted .companion e :: back →
      (∃ m, .configured m ∈ before ++ front) →
      ∃ n, governing? (before ++ front) = some n ∧
        (isBound (before ++ front) = false → latest? (before ++ front) = some n) ∧
        (t.step c).2.1 = (shown before front).map Event.line ++
          (if n ≤ e.level.rank then [e.line] else []) ++
          (shown (before ++ front ++ [.noted .companion e]) back).map Event.line) ∧
    (∀ (level : Level) (name : String), Text.lowerAscii name = level.name →
      t.history (.configure [.text name]) = [.configured level.rank]) ∧
    ∀ (level : Level) settings, t.settings = .ok settings →
      Text.lowerAscii settings.logLevel = level.name →
      ∃ rest, t.history .regenerate = .configured level.rank :: rest := by
  intro before t
  have hfollows : t.console.Follows before := by
    simpa using @follows_after s [] ⟨ht, hc⟩ cs
  have hlines := step_lines_of_follows hfollows c
  refine ⟨hlines, fun front e back hhistory ⟨m, hm⟩ => ?_, fun level name hname => ?_,
    fun level settings hsettings hname => ?_⟩
  · obtain ⟨n, hn⟩ := Option.ne_none_iff_exists'.1
      (governing?_ne_none (latest?_ne_none_of_mem hm))
    refine ⟨n, hn, fun hb => ?_, ?_⟩
    · rw [← governing?_of_not_isBound hb, hn]
    · have hforce : inForce? (before ++ front) .companion = some n := hn
      rw [hlines, hhistory, shown_append, shown, hforce]
      by_cases hle : n ≤ e.level.rank <;> simp [hle]
  · simp [history, configureHistory, thresholdName, Regenerate.configureHistory,
      thresholdOf_level hname]
  · have hsettings : Regenerate.settingsOf t.world = .ok settings := hsettings
    simp [history, Regenerate.history, hsettings, thresholdOf_level hname]

/-- A session with one file, in which nothing has been configured. -/
def oneFileSample : Session where
  world :=
    { disk := { home := [], entries := [(["f"], .file 0)], contents := [[0x78]] }
      settingsFile := ⟨.here, [".env"]⟩
      resourceFolder := ⟨.here, []⟩
      ascents := 9 }
  limits := limitsSample

/-- Opens the file of the sample. -/
def openSample : Command :=
  .openCompanion ⟨.here, ["f"]⟩ "h"

theorem history_openSample {s : Session} (h : s.world.disk.openFile ⟨.here, ["f"]⟩ = .ok (some 0)) :
    s.history openSample = [.noted .companion (Companion.openedEvent ⟨.here, ["f"]⟩)] := by
  simp [history, openSample, Companion.openHistory, h]

/-- The file is opened, and thresholds are set twice after that. -/
def configuredSample : List Command :=
  [openSample, .configure [.text "Error"], .configure [.text "debug"]]

theorem companion_threshold_sample :
    ((oneFileSample.after configuredSample).step openSample).2.1 =
      [(Companion.openedEvent ⟨.here, ["f"]⟩).line] := by
  have hhistory : (oneFileSample.after configuredSample).history openSample =
      [.noted .companion (Companion.openedEvent ⟨.here, ["f"]⟩)] :=
    history_openSample (by decide +kernel)
  have hset : oneFileSample.histories configuredSample =
      [.noted .companion (Companion.openedEvent ⟨.here, ["f"]⟩), .configured 40,
        .configured 10] := rfl
  obtain ⟨-, hevent, -, -⟩ :=
    companion_threshold (s := oneFileSample) rfl rfl configuredSample openSample
  obtain ⟨n, hn, -, hline⟩ := hevent [] _ [] hhistory ⟨10, by simp [hset]⟩
  obtain rfl : 10 = n := by
    rw [hset] at hn
    exact Option.some.inj hn
  simpa [shown, Companion.openedEvent, Level.rank] using hline

/-- The companion file is opened between two settings of the threshold, and again after them. The
second time its event is not printed, although its level is the threshold that was set last. -/
theorem latest_not_governing :
    let cs := [.configure [.text "ERROR"], openSample, .configure [.text "DEBUG"]]
    let t := oneFileSample.after cs
    let e := Companion.openedEvent ⟨.here, ["f"]⟩
    t.history openSample = [.noted .companion e] ∧
      latest? (oneFileSample.histories cs) = some e.level.rank ∧
      (t.step openSample).2.1 = [] := by
  refine ⟨history_openSample (by decide +kernel), ?_, ?_⟩
  · decide +kernel
  · decide +kernel

end Session

end Specimen
