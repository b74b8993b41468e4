import Specimen.Text.Upper
import Specimen.Value.Display

/-!
# The console

Events are printed if their level is at least the threshold in force. Until a threshold is set
everything is printed. The companion file has a logger of its own, which takes over the threshold
in force when it is first used after one has been set, whether or not it prints then, and keeps
it; every other logger follows the latest threshold.

A threshold is set by a name, compared in upper case. Names that are not known mean the level
`INFO`. Two names are refused, for they belong to the means of printing.

* `configure_threshold` — a threshold that is set is in force for the application.
* `note_companion_keeps` — the companion's threshold, once taken over, is kept.
-/

namespace Specimen

/-- How much an event matters. -/
inductive Level where
  | debug
  | info
  | warning
  | error
  | critical
  deriving DecidableEq, Repr

namespace Level

/-- The number of a level. -/
def rank : Level → Nat
  | .debug => 10
  | .info => 20
  | .warning => 30
  | .error => 40
  | .critical => 50

/-- The name of a level as it is printed. -/
def name : Level → String
  | .debug => "debug"
  | .info => "info"
  | .warning => "warning"
  | .error => "error"
  | .critical => "critical"

end Level

/-! ## Events -/

/-- Something worth printing: a level, a name and details in any order. -/
structure Event where
  level : Level
  name : String
  details : List (String × Value)

/-- A text followed by spaces up to a width. -/
def padTo (width : Nat) (s : String) : String :=
  s ++ String.ofList (List.replicate (width - s.toList.length) ' ')

/-- The characters on account of which a text is printed between quotes. -/
def needsQuotes (c : Char) : Bool :=
  [' ', '\t', '\r', '\n', '=', '\x22', '\x27'].contains c

/-- A value as it is printed: a text bare if it can be. -/
def detailText : Value → String
  | .text s => if s.toList.any needsQuotes then Text.quoted s else s
  | v => v.display

/-- A line that may end in spaces, without them. -/
def trimRight (s : String) : String :=
  String.ofList (s.toList.reverse.dropWhile (· = ' ')).reverse

/-- The line of an event: its level, its name and its details in the order of their keys. -/
def Event.line (e : Event) : String :=
  let details := e.details.mergeSort fun a b => !decide (b.1 < a.1)
  trimRight ("[" ++ padTo 9 e.level.name ++ "] " ++ padTo 30 e.name ++ " " ++
    " ".intercalate (details.map fun d => d.1 ++ "=" ++ detailText d.2))

/-! ## Thresholds -/

/-- Why a value sets no threshold. -/
inductive ThresholdFlaw where
  /-- A name was expected. -/
  | notText (kind : Kind)
  /-- A name is given in octets. -/
  | octetsName (kind : Kind)
  /-- The name belongs to the layout of a line. -/
  | layoutName
  /-- The name belongs to the table of layouts. -/
  | layoutTableName
  deriving DecidableEq, Repr

/-- The wording of a flaw. -/
def ThresholdFlaw.message : ThresholdFlaw → String
  | .notText kind => Text.quoted kind.name ++ " object has no attribute 'upper'"
  | .octetsName kind => "attribute name must be string, not " ++ Text.quoted kind.name
  | .layoutName => "'%(levelname)s:%(name)s:%(message)s'"
  | .layoutTableName => "unhashable type: 'dict'"

/-- The names of thresholds. -/
def thresholdNames : List (String × Nat) :=
  [("CRITICAL", 50), ("FATAL", 50), ("ERROR", 40), ("WARNING", 30), ("WARN", 30), ("INFO", 20),
    ("DEBUG", 10), ("NOTSET", 0)]

/-- The threshold with a given name. -/
def thresholdOf (name : String) : Except ThresholdFlaw Nat :=
  let key := String.ofList (Text.upper name.toList)
  if key = "BASIC_FORMAT" then .error .layoutName
  else if key = "_STYLES" then .error .layoutTableName
  else .ok ((thresholdNames.lookup key).getD Level.info.rank)

/-- The name of a threshold that a value gives. -/
def thresholdName : Value → Except ThresholdFlaw String
  | .text name => .ok name
  | .octets .view _ => .error (.notText .octetView)
  | .octets form bs => .error (.octetsName (Value.octets form bs).kind)
  | v => .error (.notText v.kind)

/-- Who notes an event. -/
inductive Source where
  | application
  | companion
  deriving DecidableEq, Repr

/-- The thresholds in force and what was printed, the latest event first. -/
structure Console where
  /-- The threshold set last. -/
  threshold : Option Nat := none
  /-- The threshold that the companion file's logger has taken over. -/
  companion : Option Nat := none
  printed : List Event := []

namespace Console

/-- Sets a threshold by a name. -/
def configure (c : Console) (name : String) : Except ThresholdFlaw Console :=
  (thresholdOf name).map fun n => { c with threshold := some n }

/-- The threshold that applies to a source. -/
def thresholdFor (c : Console) : Source → Option Nat
  | .application => c.threshold
  | .companion => c.companion.or c.threshold

/-- The console after a source has used its logger. -/
def bound (c : Console) : Source → Console
  | .application => c
  | .companion => { c with companion := c.companion.or c.threshold }

/-- Whether an event of a source is printed. -/
def prints (c : Console) (source : Source) (level : Level) : Bool :=
  match c.thresholdFor source with
  | none => true
  | some n => n ≤ level.rank

/-- Notes an event. -/
def note (c : Console) (source : Source) (e : Event) : Console :=
  let printed := if c.prints source e.level then e :: c.printed else c.printed
  { c.bound source with printed := printed }

/-- The lines printed so far, the first one first. -/
def lines (c : Console) : List String :=
  c.printed.reverse.map Event.line

/-- A threshold that is set is in force for the application. -/
theorem configure_threshold {c d : Console} {name : String} {n : Nat}
    (hn : thresholdOf name = .ok n) (h : c.configure name = .ok d) :
    d.thresholdFor .application = some n := by
  simp [configure, hn, Except.map] at h
  subst h
  rfl

/-- The companion's threshold, once taken over, is kept. -/
theorem note_companion_keeps {c : Console} {n : Nat} (h : c.companion = some n) (source : Source)
    (e : Event) : (c.note source e).companion = some n := by
  cases source <;> simp [note, bound, h]

end Console

end Specimen
