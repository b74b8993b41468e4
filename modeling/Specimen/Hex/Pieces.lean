import Specimen.Hex
import Specimen.Text.Quoted
import Specimen.Value

/-!
# Hex strings in pieces

A hex string may come in pieces, which are run together before they are read: a piece may hold an
odd number of digits. The pieces are looked at one after another, and all of them before any digit
is.

* `joinFrom_texts` — texts are joined in order.
* `decodeParts_texts` — reading pieces is reading their concatenation.
-/

namespace Specimen.Hex

/-- Why a value cannot be converted. -/
inductive InputFlaw where
  /-- The pieces cannot be run through. -/
  | notIterable (kind : Kind)
  /-- A piece is no text. -/
  | pieceNotText (index : Nat) (kind : Kind)
  /-- A hex string was expected. -/
  | notText (kind : Kind)
  /-- Octets were expected. -/
  | notOctets (kind : Kind)
  /-- The digits are not in order. -/
  | digits (flaw : Flaw)
  deriving DecidableEq, Repr

/-- The wording of a flaw in the digits. -/
def Flaw.message : Flaw → String
  | .oddLength n =>
    "Buffer length must be a multiple of 2, got " ++ toString n ++ " hex digits"
  | .illegal c i =>
    "Illegal hex character detected: " ++ Text.quoted (String.ofList [c]) ++ " at offset " ++
      toString i
  | .noDigit i =>
    "non-hexadecimal number found in fromhex() arg at position " ++ toString i

/-- The wording of a flaw. -/
def InputFlaw.message : InputFlaw → String
  | .notIterable kind => Text.quoted kind.name ++ " object is not iterable"
  | .pieceNotText i kind =>
    "Hex piece at index " ++ toString i ++ " must be str, got " ++ kind.name
  | .notText kind => "Hex input must be str, got " ++ kind.name
  | .notOctets kind => "Hex encoding needs bytes-like input, got " ++ kind.name
  | .digits flaw => flaw.message

/-- The characters of pieces one after another, the first piece having the index `i`. -/
def joinFrom (i : Nat) : List Value → Except InputFlaw (List Char)
  | [] => .ok []
  | .text s :: vs => (joinFrom (i + 1) vs).map (s.toList ++ ·)
  | v :: _ => .error (.pieceNotText i v.kind)

/-- The characters of all pieces that a value yields. -/
def join (parts : Value) : Except InputFlaw (List Char) :=
  match parts.items? with
  | some vs => joinFrom 0 vs
  | none => .error (.notIterable parts.kind)

/-- The octets written by a hex string. -/
def decodeChars (cs : List Char) : Except InputFlaw Octets :=
  match decode cs with
  | .ok bs => .ok bs
  | .error flaw => .error (.digits flaw)

/-- The octets written by a hex string, which has to be a text. -/
def decodeValue : Value → Except InputFlaw Octets
  | .text s => decodeChars s.toList
  | v => .error (.notText v.kind)

/-- The octets written by pieces of a hex string. -/
def decodeParts (parts : Value) : Except InputFlaw Octets := do
  let cs ← join parts
  decodeChars cs

/-- The hex string of octets of any form. -/
def encodeValue (v : Value) : Except InputFlaw String :=
  match v.octets? with
  | some bs => .ok (text bs)
  | none => .error (.notOctets v.kind)

/-- Texts are joined in order. -/
theorem joinFrom_texts (i : Nat) (ss : List String) :
    joinFrom i (ss.map .text) = .ok (ss.flatMap String.toList) := by
  induction ss generalizing i with
  | nil => rfl
  | cons s ss ih => simp [joinFrom, ih, Except.map]

/-- Reading pieces that are texts is reading their concatenation. -/
theorem decodeParts_texts (ss : List String) :
    decodeParts (.list (ss.map .text)) = decodeChars (ss.flatMap String.toList) := by
  simp [decodeParts, join, Value.items?, joinFrom_texts, bind, Except.bind]

end Specimen.Hex
