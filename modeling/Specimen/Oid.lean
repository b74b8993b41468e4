import Specimen.Der.Element

/-!
# Object identifiers

An object identifier is a path of numbers. Its encoding writes the first two in one, forty times
the first plus the second; the first is 0, 1 or 2, and the second is below 40 unless the first
is 2.

* `Oid.readArcsWithin_cons` — each number is read from the front of the rest.
* `Oid.text` — the numbers with points between them.
-/

namespace Specimen

/-- A path of numbers that names a kind of object. -/
structure Oid where
  arcs : List Nat
  deriving DecidableEq, Repr

namespace Oid

/-- The bound of a single number in an encoding. -/
def arcBound : Nat := Nat.pow 2 128

/-- How many octets an encoding may have. -/
def maxOctets : Nat := 63

/-- Numbers in base 128 one after another, at most `fuel` of them. -/
def readArcsWithin : Nat → Octets → Option (List Nat)
  | _, [] => some []
  | 0, _ :: _ => none
  | fuel + 1, b :: bs =>
    match Der.readBase128 arcBound (b :: bs) with
    | some (n, rest) => (readArcsWithin fuel rest).map (n :: ·)
    | none => none

/-- The two numbers that the first one of an encoding stands for. -/
def splitFirst (n : Nat) : List Nat :=
  if n < 40 then [0, n] else if n < 80 then [1, n - 40] else [2, n - 80]

/-- The object identifier with a given content. -/
def ofContent? (bs : Octets) : Option Oid :=
  if maxOctets < bs.length then none
  else match readArcsWithin bs.length bs with
    | some (n :: ns) => some ⟨splitFirst n ++ ns⟩
    | _ => none

/-- Reads an object identifier. -/
def read : Der.Reader Oid :=
  Der.contentAs .oid ofContent?

/-- The numbers with points between them. -/
def text (o : Oid) : String :=
  ".".intercalate (o.arcs.map toString)

theorem readArcsWithin_cons {fuel n : Nat} {b : UInt8} {bs rest : Octets}
    (h : Der.readBase128 arcBound (b :: bs) = some (n, rest)) :
    readArcsWithin (fuel + 1) (b :: bs) = (readArcsWithin fuel rest).map (n :: ·) := by
  simp [readArcsWithin, h]

end Oid

end Specimen
