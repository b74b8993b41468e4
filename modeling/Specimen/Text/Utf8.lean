import Specimen.Octets
import Specimen.Hex
import Specimen.Text.Quoted

/-!
# UTF-8

A strict reader of UTF-8: shortest forms only, no surrogates, nothing above U+10FFFF. It walks the
octets once; between two characters nothing is pending, inside one the octets still expected are.
A flaw is reported for the longest piece that could have begun a character.

* `encode` writes a character list; `isValid` tells whether octets read as text.
-/

namespace Specimen.Text.Utf8

/-- What is wrong with the octets of a flaw. -/
inductive Reason where
  | invalidStart
  | invalidContinuation
  | unexpectedEnd
  deriving DecidableEq, Repr

/-- The first piece of an octet string that is no UTF-8. -/
structure Flaw where
  /-- The first octet of the piece. -/
  octet : UInt8
  /-- Where the piece starts. -/
  start : Nat
  /-- How many octets it has. -/
  length : Nat
  reason : Reason
  deriving DecidableEq, Repr

/-- The wording of a reason. -/
def Reason.message : Reason → String
  | .invalidStart => "invalid start byte"
  | .invalidContinuation => "invalid continuation byte"
  | .unexpectedEnd => "unexpected end of data"

/-- The wording of a flaw: one octet is shown by its value, several by their positions. -/
def Flaw.message (f : Flaw) : String :=
  let place :=
    if f.length ≤ 1 then
      "byte 0x" ++ String.ofList (Text.hexPadded 2 f.octet.toNat) ++ " in position " ++
        toString f.start
    else "bytes in position " ++ toString f.start ++ "-" ++ toString (f.start + f.length - 1)
  "'utf-8' codec can't decode " ++ place ++ ": " ++ f.reason.message

/-- A character that has begun: its first octet, how many octets were read, how many are still
missing, the range of the next one and the bits so far. -/
structure Pending where
  first : UInt8
  seen : Nat
  missing : Nat
  low : UInt8
  high : UInt8
  bits : Nat

/-- What an octet begins: a whole character, a longer one, or nothing. -/
def begin? (b : UInt8) : Option (Char ⊕ Pending) :=
  if b < 0x80 then some (.inl (Char.ofNat b.toNat))
  else if b < 0xC2 then none
  else if b < 0xE0 then some (.inr ⟨b, 1, 1, 0x80, 0xBF, b.toNat - 0xC0⟩)
  else if b < 0xF0 then
    let low := if b = 0xE0 then 0xA0 else 0x80
    let high := if b = 0xED then 0x9F else 0xBF
    some (.inr ⟨b, 1, 2, low, high, b.toNat - 0xE0⟩)
  else if b < 0xF5 then
    let low := if b = 0xF0 then 0x90 else 0x80
    let high := if b = 0xF4 then 0x8F else 0xBF
    some (.inr ⟨b, 1, 3, low, high, b.toNat - 0xF0⟩)
  else none

/-- Reads from position `pos` with a character possibly begun. -/
def decodeFrom (pos : Nat) : Option Pending → Octets → Except Flaw (List Char)
  | none, [] => .ok []
  | some p, [] => .error ⟨p.first, pos - p.seen, p.seen, .unexpectedEnd⟩
  | none, b :: bs =>
    match begin? b with
    | none => .error ⟨b, pos, 1, .invalidStart⟩
    | some (.inl c) => (decodeFrom (pos + 1) none bs).map (c :: ·)
    | some (.inr p) => decodeFrom (pos + 1) (some p) bs
  | some p, b :: bs =>
    if p.low ≤ b ∧ b ≤ p.high then
      let bits := p.bits * 64 + (b.toNat - 0x80)
      if p.missing ≤ 1 then (decodeFrom (pos + 1) none bs).map (Char.ofNat bits :: ·)
      else decodeFrom (pos + 1) (some ⟨p.first, p.seen + 1, p.missing - 1, 0x80, 0xBF, bits⟩) bs
    else .error ⟨p.first, pos - p.seen, p.seen, .invalidContinuation⟩

/-- The text that octets write. -/
def decode (bs : Octets) : Except Flaw (List Char) :=
  decodeFrom 0 none bs

/-- Whether octets read as text. -/
def isValid (bs : Octets) : Bool :=
  (decode bs).isOk

/-- The octets of one character. -/
def encodeChar (c : Char) : Octets :=
  let n := c.toNat
  let tail := fun k : Nat => (0x80 + n / Nat.pow 64 k % 64).toUInt8
  if n < 0x80 then [n.toUInt8]
  else if n < 0x800 then [(0xC0 + n / 64).toUInt8, tail 0]
  else if n < 0x10000 then [(0xE0 + n / 4096).toUInt8, tail 1, tail 0]
  else [(0xF0 + n / 262144).toUInt8, tail 2, tail 1, tail 0]

/-- The octets of a text. -/
def encode (cs : List Char) : Octets :=
  cs.flatMap encodeChar

theorem encode_append (xs ys : List Char) : encode (xs ++ ys) = encode xs ++ encode ys := by
  simp [encode]

end Specimen.Text.Utf8
