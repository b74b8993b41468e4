import Specimen.Disk
import Specimen.Value

/-!
# Streams

A stream has a position and hands out octets from there on. One kind lies in memory: it can be
written to, cut off, and moved past its end, and a write there fills the gap with zeros. The other
kind reads a file ahead in blocks of 4096 octets; it sees changes of the file only beyond what it
has read ahead. A stream that has been closed refuses nearly everything.

* `Memory.read_append` — what is read and what is still there make up the rest.
* `FileReader.position` — where a file reader stands.
-/

namespace Specimen

/-! ## Limits -/

/-- The limit of numbers that measure memory or a file. -/
def Stream.limit : Int := Nat.pow 2 63

/-- What the machine and its files have room for. -/
structure Stream.Limits where
  /-- How many octets there is room for when a file reader is asked for them. -/
  room : Nat
  /-- How many octets a stream in memory can hold. -/
  capacity : Nat
  /-- The greatest offset in a file. -/
  maxOffset : Nat
  /-- There is no room for more than can be measured. -/
  room_lt : (room : Int) < Stream.limit

/-! ## In memory -/

/-- A stream in memory. -/
structure Memory where
  content : Octets
  position : Nat := 0

namespace Memory

/-- Hands out `n` octets, or all that are left. -/
def read (m : Memory) (n : Option Nat) : Octets × Memory :=
  let rest := m.content.drop m.position
  let taken := match n with
    | some n => rest.take n
    | none => rest
  (taken, { m with position := m.position + taken.length })

/-- Puts octets over what is at the position, after zeros if it lies past the end. -/
def write (m : Memory) (bs : Octets) : Memory :=
  if bs.isEmpty then m
  else
    let front := m.content.take m.position ++
      List.replicate (m.position - m.content.length) 0
    ⟨front ++ bs ++ m.content.drop (m.position + bs.length), m.position + bs.length⟩

/-- Cuts the content off at a length. -/
def truncate (m : Memory) (n : Nat) : Memory :=
  { m with content := m.content.take n }

/-- What is read and what is still there make up the rest. -/
theorem read_append (m : Memory) (n : Option Nat) :
    (m.read n).1 ++ (m.read n).2.content.drop (m.read n).2.position =
      m.content.drop m.position := by
  have key : ∀ k, (m.content.drop m.position).take k ++
      m.content.drop (m.position + ((m.content.drop m.position).take k).length) =
        m.content.drop m.position := by
    intro k
    rw [← List.drop_drop, List.length_take]
    by_cases h : k ≤ (m.content.drop m.position).length
    · rw [Nat.min_eq_left h, List.take_append_drop]
    · have h' : (m.content.drop m.position).length ≤ k := by omega
      rw [Nat.min_eq_right h', List.take_of_length_le h', List.drop_length, List.append_nil]
  cases n with
  | none =>
    have h := key (m.content.drop m.position).length
    rw [List.take_length] at h
    exact h
  | some n => exact key n

end Memory

/-! ## From a file -/

/-- A reader of a file, given by its number; without a number it reads nothing. -/
structure FileReader where
  file : Option Nat
  /-- What was read ahead. -/
  buffer : Octets := []
  /-- How much of the buffer has been handed out. -/
  used : Nat := 0
  /-- Where in the file the buffer ends. -/
  offset : Nat := 0

namespace FileReader

/-- The size of a block. -/
def block : Nat := 4096

/-- What was read ahead and not handed out. -/
def ahead (r : FileReader) : Octets :=
  r.buffer.drop r.used

/-- Where the reader stands. -/
def position (r : FileReader) : Nat :=
  r.offset - r.ahead.length

/-- The reader with nothing read ahead, at an offset. -/
def restart (r : FileReader) (offset : Nat) : FileReader :=
  ⟨r.file, [], 0, offset⟩

/-- Hands out all that is left. -/
def readAll (r : FileReader) (content : Octets) : Octets × FileReader :=
  let tail := content.drop r.offset
  (r.ahead ++ tail, r.restart (r.offset + tail.length))

/-- Hands out `n` octets, or fewer at the end. What is not in the buffer comes from the file: whole
blocks as they are, and the last part through a buffer that is filled anew. -/
def readSome (r : FileReader) (content : Octets) (n : Nat) : Octets × FileReader :=
  let ahead := r.ahead
  if n ≤ ahead.length then (ahead.take n, { r with used := r.used + n })
  else
    let wanted := n - ahead.length
    let direct := (content.drop r.offset).take (wanted - wanted % block)
    let offset := r.offset + direct.length
    let left := wanted - direct.length
    if direct.length < wanted - wanted % block ∨ left = 0 then
      (ahead ++ direct, r.restart offset)
    else
      let buffer := (content.drop offset).take block
      (ahead ++ direct ++ buffer.take left,
        ⟨r.file, buffer, min left buffer.length, offset + buffer.length⟩)

/-- Leaves what was read ahead for an offset, which has to be one of a file. -/
def jumpTo (limits : Stream.Limits) (r : FileReader) (target : Int) :
    Except DiskCause (Nat × FileReader) :=
  if target < 0 ∨ limits.maxOffset < target then .error .invalid
  else .ok (target.toNat, r.restart target.toNat)

/-- Moves to an offset of the file; within what was read ahead, and what of it was handed out, the
buffer is kept. -/
def moveTo (limits : Stream.Limits) (r : FileReader) (target : Int) :
    Except DiskCause (Nat × FileReader) :=
  let start : Int := (r.offset : Int) - r.buffer.length
  if !r.ahead.isEmpty && start ≤ target && target ≤ r.offset then
    .ok (target.toNat, { r with used := (target - start).toNat })
  else r.jumpTo limits target

end FileReader

/-! ## Calls -/

/-- What lies behind a stream. -/
inductive StreamBody where
  | memory (m : Memory)
  | file (r : FileReader)

/-- A stream. -/
structure Stream where
  body : StreamBody
  closed : Bool := false

/-- What can be asked of a stream. -/
inductive StreamCall where
  | read
  | tell
  | seek
  | close
  | closed
  | readable
  | writable
  | seekable
  | write
  | content
  | truncate
  /-- Reads all that is left and closes the stream. -/
  | consume
  deriving DecidableEq, Repr

/-- What a stream answers. -/
inductive StreamAnswer where
  | nothing
  | octets (bs : Octets)
  | count (n : Nat)
  | flag (b : Bool)
  deriving DecidableEq, Repr

/-- Why a stream refuses a call. -/
inductive StreamFlaw where
  /-- The stream has been closed; the wording depends on what was asked. -/
  | closed (wording : String)
  /-- A stream of this kind cannot do it. -/
  | unsupported (what : String)
  /-- A stream of this kind knows nothing of the name. -/
  | unknown (owner name : String)
  /-- A call has the wrong number of arguments. -/
  | arguments (wording : String)
  /-- A number or nothing was expected. -/
  | notCount (kind : Kind)
  /-- A number was expected. -/
  | notNumber (kind : Kind)
  /-- Octets were expected. -/
  | notOctets (kind : Kind)
  /-- A length to read is negative, and not the one that asks for all. -/
  | negativeLength
  /-- A position is negative. -/
  | negativePosition (n : Int)
  /-- A size is negative. -/
  | negativeSize (n : Int)
  /-- A file reader knows no such origin of positions. -/
  | unknownOrigin (n : Int)
  /-- A stream in memory knows no such origin of positions. -/
  | invalidOrigin (n : Int)
  /-- A number does not fit where it has to. -/
  | tooLarge (wording : String) (isValue : Bool)
  /-- The stream would become longer than there is memory for it. -/
  | noMemory
  /-- The file cannot be positioned there. -/
  | disk (cause : DiskCause)
  deriving DecidableEq, Repr

/-- The wording of a flaw. -/
def StreamFlaw.message : StreamFlaw → String
  | .closed wording => wording
  | .unsupported what => what
  | .unknown owner name => "'" ++ owner ++ "' object has no attribute '" ++ name ++ "'"
  | .arguments wording => wording
  | .notCount kind => "argument should be integer or None, not " ++ Text.quoted kind.name
  | .notNumber kind => Text.quoted kind.name ++ " object cannot be interpreted as an integer"
  | .notOctets kind => "a bytes-like object is required, not " ++ Text.quoted kind.name
  | .negativeLength => "read length must be non-negative or -1"
  | .negativePosition n => "negative seek value " ++ toString n
  | .negativeSize n => "negative size value " ++ toString n
  | .unknownOrigin n => "whence value " ++ toString n ++ " unsupported"
  | .invalidOrigin n => "invalid whence (" ++ toString n ++ ", should be 0, 1 or 2)"
  | .tooLarge wording _ => wording
  | .noMemory => ""
  | .disk cause => cause.message

/-- The name of a call. -/
def StreamCall.name : StreamCall → String
  | .read => "read"
  | .tell => "tell"
  | .seek => "seek"
  | .close => "close"
  | .closed => "closed"
  | .readable => "readable"
  | .writable => "writable"
  | .seekable => "seekable"
  | .write => "write"
  | .content => "getvalue"
  | .truncate => "truncate"
  | .consume => "with"

/-- All calls. -/
def StreamCall.all : List StreamCall :=
  [.read, .tell, .seek, .close, .closed, .readable, .writable, .seekable, .write, .content,
    .truncate, .consume]

/-- The call with a given name. -/
def StreamCall.ofName? (s : String) : Option StreamCall :=
  StreamCall.all.find? (·.name == s)

theorem StreamCall.ofName?_name (c : StreamCall) : StreamCall.ofName? c.name = some c := by
  cases c <;> decide

namespace StreamBody

/-- The name under which a kind of stream complains. -/
def owner : StreamBody → String
  | .memory _ => "_io.BytesIO"
  | .file _ => "_io.BufferedReader"

/-- The same without the module in front. -/
def shortOwner : StreamBody → String
  | .memory _ => "BytesIO"
  | .file _ => "BufferedReader"

end StreamBody

namespace Stream

/-- A stream in memory over some octets. -/
def ofOctets (bs : Octets) : Stream :=
  ⟨.memory ⟨bs, 0⟩, false⟩

/-- A stream over a file that has been opened. -/
def ofFile (file : Option Nat) : Stream :=
  ⟨.file { file := file }, false⟩

/-- A number among arguments, if it is one. -/
def int? : Value → Option Int
  | .int n => some n
  | .bool b => some (if b then 1 else 0)
  | _ => none

/-- An argument that is a count or nothing, if it is there. -/
def countArg : List Value → Except StreamFlaw (Option Int)
  | [] => .ok none
  | .none :: _ => .ok none
  | v :: _ =>
    match int? v with
    | some n =>
      if -limit ≤ n ∧ n < limit then .ok (some n)
      else .error (.tooLarge "cannot fit 'int' into an index-sized integer" false)
    | none => .error (.notCount v.kind)

/-- An argument that is a number. -/
def numberArg (v : Value) : Except StreamFlaw Int :=
  match int? v with
  | some n => .ok n
  | none => .error (.notNumber v.kind)

/-- The arguments of a call that takes none. -/
def noArgs (s : Stream) (call : StreamCall) (args : List Value) : Except StreamFlaw Unit :=
  if args.isEmpty then .ok ()
  else .error (.arguments (s.body.shortOwner ++ "." ++ call.name ++ "() takes no arguments (" ++
    toString args.length ++ " given)"))

/-- The arguments of a call that takes at most `n`. -/
def atMost (call : StreamCall) (n : Nat) (args : List Value) : Except StreamFlaw Unit :=
  if args.length ≤ n then .ok ()
  else .error (.arguments (call.name ++ " expected at most " ++ toString n ++
    (if n = 1 then " argument, got " else " arguments, got ") ++ toString args.length))

/-- The arguments of a call that takes one. -/
def exactlyOne (call : StreamCall) : List Value → Except StreamFlaw Value
  | [v] => .ok v
  | args => .error (.arguments ("BytesIO." ++ call.name ++ "() takes exactly one argument (" ++
      toString args.length ++ " given)"))

/-- The offset and the origin of a position; the origin is the start if it is left out. -/
def seekArgs (args : List Value) : Except StreamFlaw (Value × Value) := do
  atMost .seek 2 args
  match args with
  | [] => .error (.arguments "seek expected at least 1 argument, got 0")
  | [v] => pure (v, .int 0)
  | v :: w :: _ => pure (v, w)

/-- An offset, which has to fit where offsets are kept. -/
def offsetArg (wording : String) (isValue : Bool) (v : Value) : Except StreamFlaw Int := do
  let n ← numberArg v
  if -limit ≤ n ∧ n < limit then pure n else .error (.tooLarge wording isValue)

/-- Nothing, if a stream is open. -/
def whileOpen (s : Stream) (wording : String) : Except StreamFlaw Unit :=
  if s.closed then .error (.closed wording) else .ok ()

/-! ### Calls on streams in memory -/

/-- The wording of a closed stream. -/
def closedStream : String := "I/O operation on closed file."

/-- Moves in memory: from the start, from the position or from the end. Only a position counted
from the start may not be negative. -/
def Memory.seek (m : Memory) (offset origin : Int) : Except StreamFlaw (Nat × Memory) :=
  if origin ≠ 0 ∧ origin ≠ 1 ∧ origin ≠ 2 then .error (.invalidOrigin origin)
  else if origin = 0 ∧ offset < 0 then .error (.negativePosition offset)
  else
    let base : Nat := if origin = 0 then 0 else if origin = 1 then m.position else m.content.length
    if limit ≤ base + offset then .error (.tooLarge "new position too large" false)
    else
      let n := (base + offset).toNat
      .ok (n, { m with position := n })

/-- Writes in memory, if what is written finds room. -/
def Memory.tryWrite (limits : Limits) (m : Memory) (bs : Octets) : Except StreamFlaw Memory :=
  let size := m.position + bs.length
  if bs.isEmpty ∨ size ≤ limits.capacity then .ok (m.write bs)
  else if limit ≤ size then .error (.tooLarge "new buffer size too large" false)
  else .error .noMemory

/-- A call on an open or closed stream in memory. -/
def callMemory (s : Stream) (limits : Limits) (m : Memory) (call : StreamCall)
    (args : List Value) : Except StreamFlaw (StreamAnswer × Stream) := do
  let keep := fun (a : StreamAnswer) => (a, s)
  let put := fun (a : StreamAnswer) (m : Memory) => (a, { s with body := .memory m })
  match call with
  | .close =>
    s.noArgs call args
    pure (.nothing, { s with closed := true })
  | .closed => pure (keep (.flag s.closed))
  | .readable | .writable | .seekable =>
    s.noArgs call args
    s.whileOpen closedStream
    pure (keep (.flag true))
  | .tell =>
    s.noArgs call args
    s.whileOpen closedStream
    pure (keep (.count m.position))
  | .content =>
    s.noArgs call args
    s.whileOpen closedStream
    pure (keep (.octets m.content))
  | .read =>
    atMost call 1 args
    let n ← countArg args
    s.whileOpen closedStream
    let (bs, m) := m.read (n.bind fun n => if n < 0 then none else some n.toNat)
    pure (put (.octets bs) m)
  | .seek =>
    let (v, w) ← seekArgs args
    let offset ← offsetArg "Python int too large to convert to C ssize_t" false v
    let origin ← numberArg w
    s.whileOpen closedStream
    let (n, m) ← Memory.seek m offset origin
    pure (put (.count n) m)
  | .write =>
    let v ← exactlyOne call args
    s.whileOpen closedStream
    match v.octets? with
    | some bs => do
      let m ← Memory.tryWrite limits m bs
      pure (put (.count bs.length) m)
    | none => .error (.notOctets v.kind)
  | .truncate =>
    atMost call 1 args
    let n ← countArg args
    s.whileOpen closedStream
    let n := n.getD m.position
    if n < 0 then .error (.negativeSize n)
    pure (put (.count n.toNat) (m.truncate n.toNat))
  | .consume =>
    s.whileOpen closedStream
    let (bs, m) := m.read none
    pure (.octets bs, ⟨.memory m, true⟩)

/-! ### Calls on file readers -/

/-- The wording of a closed file. -/
def closedFile : String := "I/O operation on closed file"

/-- Moves a file reader: from the start, from the position or from the end; two further origins
ask for the next data and the next gap, and a file has its one gap at the end. -/
def FileReader.seek (limits : Limits) (r : FileReader) (content : Octets)
    (offset origin : Int) : Except StreamFlaw (Nat × FileReader) :=
  let done := fun x : Except DiskCause (Nat × FileReader) =>
    match x with
    | .ok p => Except.ok p
    | .error cause => Except.error (StreamFlaw.disk cause)
  if origin = 0 then done (r.moveTo limits offset)
  else if origin = 1 then done (r.moveTo limits (r.position + offset))
  else
    let target : Int :=
      if origin = 2 then content.length + offset
      else if origin = 3 then offset
      else content.length
    if origin ≠ 2 ∧ (offset < 0 ∨ content.length ≤ offset) then .error (.disk .noDevice)
    else done (r.jumpTo limits target)

/-- Hands out octets of a file, if there is room for as many as are asked for. What was read ahead
needs none. -/
def FileReader.tryRead (limits : Limits) (r : FileReader) (content : Octets) (n : Nat) :
    Except StreamFlaw (Octets × FileReader) :=
  if n ≤ r.ahead.length ∨ n ≤ limits.room then .ok (r.readSome content n)
  else if limit - 34 < n then .error (.tooLarge "byte string is too large" false)
  else .error .noMemory

/-- A call on an open or closed file reader, with the content of its file. -/
def callFile (s : Stream) (limits : Limits) (r : FileReader) (content : Octets)
    (call : StreamCall) (args : List Value) : Except StreamFlaw (StreamAnswer × Stream) := do
  let keep := fun (a : StreamAnswer) => (a, s)
  let put := fun (a : StreamAnswer) (r : FileReader) => (a, { s with body := .file r })
  match call with
  | .close =>
    s.noArgs call args
    pure (.nothing, { s with closed := true })
  | .closed => pure (keep (.flag s.closed))
  | .readable | .seekable =>
    s.noArgs call args
    s.whileOpen closedFile
    pure (keep (.flag true))
  | .writable =>
    s.noArgs call args
    pure (keep (.flag false))
  | .tell =>
    s.noArgs call args
    s.whileOpen closedFile
    pure (keep (.count r.position))
  | .content => .error (.unknown s.body.owner call.name)
  | .write => .error (.unsupported call.name)
  | .truncate =>
    atMost call 1 args
    s.whileOpen "truncate of closed file"
    .error (.unsupported call.name)
  | .read =>
    atMost call 1 args
    let n ← countArg args
    if (n.getD (-1)) < -1 then .error .negativeLength
    s.whileOpen "read of closed file"
    let (bs, r) ← match n with
      | some (.ofNat n) => FileReader.tryRead limits r content n
      | _ => .ok (r.readAll content)
    pure (put (.octets bs) r)
  | .seek =>
    let (v, w) ← seekArgs args
    let origin ← numberArg w
    if origin < 0 ∨ 4 < origin then .error (.unknownOrigin origin)
    s.whileOpen "seek of closed file"
    let offset ← offsetArg "cannot fit 'int' into an offset-sized integer" true v
    let (n, r) ← FileReader.seek limits r content offset origin
    pure (put (.count n) r)
  | .consume =>
    s.whileOpen closedStream
    let (bs, r) := r.readAll content
    pure (.octets bs, ⟨.file r, true⟩)

/-- A call on a stream, with the disk on which files stand. -/
def call (s : Stream) (limits : Limits) (contentOf : Option Nat → Octets) (c : StreamCall)
    (args : List Value) : Except StreamFlaw (StreamAnswer × Stream) :=
  match s.body with
  | .memory m => s.callMemory limits m c args
  | .file r => s.callFile limits r (contentOf r.file) c args

end Stream

end Specimen
