import Specimen.Base64
import Specimen.Pem.Line
import Specimen.Text.Quoted

/-!
# The first block of a text

The reader used for companion files. It looks at the lines that are not empty: it passes over
everything up to the first opening line, then over header lines, and takes the body up to the
closing line. The body is base64 in the lenient reading, and whatever follows the closing line is
not looked at.

* `isArmoured` — the test that decides between armour and plain binary data.
* `ofLines_skip` — lines in front that open no block make no difference.
-/

namespace Specimen.Pem

/-- A block of armour: its label and the data it carries. -/
structure Block where
  label : Octets
  data : Octets
  deriving DecidableEq, Repr

/-- Why a text has no readable first block. -/
inductive Flaw where
  /-- There is no opening line, or no closing line after it. -/
  | noBlock
  /-- A header line has an octet that is not ASCII. -/
  | headerNotAscii (octet : UInt8) (position : Nat)
  /-- The body is no base64. -/
  | base64 (flaw : Base64.Flaw)
  deriving DecidableEq, Repr

/-- The wording of a flaw. -/
def Flaw.message : Flaw → String
  | .noBlock =>
    "pem_bytes does not appear to contain PEM-encoded data - no BEGIN/END combination found"
  | .headerNotAscii b i =>
    "'ascii' codec can't decode byte 0x" ++ String.ofList (Text.hexPadded 2 b.toNat) ++
      " in position " ++ toString i ++ ": ordinal not in range(128)"
  | .base64 f => f.message

/-- Whether data is taken for armour: an opening mark occurs anywhere in it. -/
def isArmoured (data : Octets) : Bool :=
  Octets.occurs (fiveDashes ++ beginWord) data ||
    Octets.occurs (spacedDashes ++ beginWord) data

/-- The label of the first opening line, and the lines after it. -/
def firstBegin? : List Octets → Option (Octets × List Octets)
  | [] => none
  | l :: ls =>
    match beginLabel? l with
    | some label => some (label, ls)
    | none => firstBegin? ls

/-- The first octet that is not ASCII, with its position counted from `i`. -/
def firstNonAscii? (i : Nat) : Octets → Option (UInt8 × Nat)
  | [] => none
  | b :: bs => if b < 0x80 then firstNonAscii? (i + 1) bs else some (b, i)

/-- The lines after the headers, all of which have to be ASCII. -/
def dropHeaders : List Octets → Except Flaw (List Octets)
  | [] => .ok []
  | l :: ls =>
    if isHeader l then
      match firstNonAscii? 0 l with
      | some (b, i) => .error (.headerNotAscii b i)
      | none => dropHeaders ls
    else .ok (l :: ls)

/-- The body up to the closing line, its lines run together. -/
def body? : List Octets → Option Octets
  | [] => none
  | l :: ls => if isClosing l then some [] else (body? ls).map (l ++ ·)

/-- The first block of the lines. -/
def Block.ofLines (ls : List Octets) : Except Flaw Block :=
  match firstBegin? ls with
  | none => .error .noBlock
  | some (label, rest) =>
    match dropHeaders rest with
    | .error f => .error f
    | .ok rest =>
      match body? rest with
      | none => .error .noBlock
      | some body =>
        match Base64.decodeLenient body with
        | .error f => .error (.base64 f)
        | .ok data => .ok ⟨label, data⟩

/-- The first block of a text. -/
def Block.first (text : Octets) : Except Flaw Block :=
  Block.ofLines (lines text)

/-- Lines in front that open no block make no difference. -/
theorem Block.ofLines_skip {front : List Octets} (h : ∀ l ∈ front, beginLabel? l = none)
    (ls : List Octets) : Block.ofLines (front ++ ls) = Block.ofLines ls := by
  have : firstBegin? (front ++ ls) = firstBegin? ls := by
    induction front with
    | nil => rfl
    | cons l front ih =>
      simp only [List.mem_cons, forall_eq_or_imp] at h
      simp [firstBegin?, h.1, ih h.2]
  simp [Block.ofLines, this]

end Specimen.Pem
