import Specimen.Der.Element

/-!
# Primitive contents

What the content octets of the primitive types have to look like: integers in as few octets as
they need, truth values all zeros or all ones, bit strings with their unused bits zero, and times
to the second that a calendar has.

* `integerValue` — the number written in two's complement.
-/

namespace Specimen.Der

/-- Whether the content of an integer has no octet to spare. -/
def isMinimalInteger : Octets → Bool
  | [] => false
  | [_] => true
  | a :: b :: _ => !(a == 0x00 && b < 0x80) && !(a == 0xFF && 0x80 ≤ b)

/-- The number that octets write in two's complement. -/
def integerValue (bs : Octets) : Int :=
  match bs with
  | [] => 0
  | b :: _ =>
    if b < 0x80 then (Octets.toNat bs : Int)
    else (Octets.toNat bs : Int) - (Nat.pow 256 bs.length : Nat)

/-- The content of an integer as it stands. -/
def integerContent? (bs : Octets) : Option Octets :=
  if isMinimalInteger bs then some bs else none

/-- A natural number below `bound`. -/
def natural? (bound : Nat) (bs : Octets) : Option Nat :=
  if isMinimalInteger bs then
    match bs with
    | b :: _ => if b < 0x80 ∧ Octets.toNat bs < bound then some (Octets.toNat bs) else none
    | [] => none
  else none

/-- A natural number of any size. -/
def anyNatural? (bs : Octets) : Option Nat :=
  natural? (Nat.pow 256 bs.length) bs

/-- A truth value. -/
def boolean? : Octets → Option Bool
  | [0x00] => some false
  | [0xFF] => some true
  | _ => none

/-- Nothing. -/
def null? : Octets → Option Unit
  | [] => some ()
  | _ => none

/-- The octets of a bit string whose first octet counts the unused bits of the last one. -/
def bitString? : Octets → Option Octets
  | [] => none
  | k :: bs =>
    let unused := k.toNat
    let last := (bs.getLast?.getD 0).toNat
    if 7 < unused ∨ (bs.isEmpty ∧ 0 < unused) ∨ last % Nat.pow 2 unused ≠ 0 then none
    else some bs

/-! ## Times -/

/-- How many days a month has in the calendar continued to all years. -/
def daysInMonth (year month : Nat) : Nat :=
  if month = 2 then
    if year % 4 = 0 ∧ (year % 100 ≠ 0 ∨ year % 400 = 0) then 29 else 28
  else if month = 4 ∨ month = 6 ∨ month = 9 ∨ month = 11 then 30
  else 31

/-- A moment, to the second. -/
structure Moment where
  year : Nat
  month : Nat
  day : Nat
  hour : Nat
  minute : Nat
  second : Nat
  deriving DecidableEq, Repr

/-- Whether calendar and clock have the moment. -/
def Moment.isValid (m : Moment) : Bool :=
  1 ≤ m.month && m.month ≤ 12 && 1 ≤ m.day && m.day ≤ daysInMonth m.year m.month &&
    m.hour < 24 && m.minute < 60 && m.second < 60

/-- Decimal digits as numbers. -/
def digits? : Octets → Option (List Nat)
  | [] => some []
  | b :: bs => if 0x30 ≤ b ∧ b ≤ 0x39 then (digits? bs).map ((b.toNat - 48) :: ·) else none

/-- The moment in the year `year` that ten digits write. -/
def momentOf? (year : Nat) : List Nat → Option Moment
  | [o, o', d, d', h, h', m, m', s, s'] =>
    let t : Moment := ⟨year, 10 * o + o', 10 * d + d', 10 * h + h', 10 * m + m', 10 * s + s'⟩
    if t.isValid then some t else none
  | _ => none

/-- A time with a year of two digits, from 1950 to 2049, ending in `Z`. -/
def utcTime? (bs : Octets) : Option Moment :=
  if bs.getLast? = some 0x5A then
    match digits? bs.dropLast with
    | some (y :: y' :: ds) =>
      let year := 10 * y + y'
      momentOf? (if 50 ≤ year then 1900 + year else 2000 + year) ds
    | _ => none
  else none

/-- A time with a year of four digits, ending in `Z`. -/
def generalizedTime? (bs : Octets) : Option Moment :=
  if bs.getLast? = some 0x5A then
    match digits? bs.dropLast with
    | some (a :: b :: c :: d :: ds) => momentOf? (1000 * a + 100 * b + 10 * c + d) ds
    | _ => none
  else none

/-- Reads a time in either form. -/
def readTime : Reader Moment := fun bs =>
  match readElement bs with
  | some (e, rest) =>
    if e.tag = Tag.utcTime then (utcTime? e.content).map (·, rest)
    else if e.tag = Tag.generalizedTime then (generalizedTime? e.content).map (·, rest)
    else none
  | none => none

/-! ## Readers -/

/-- Reads an integer and gives its content octets. -/
def readInteger : Reader Octets := contentAs .integer integerContent?

/-- Reads a natural number below `bound`. -/
def readNatural (bound : Nat) : Reader Nat := contentAs .integer (natural? bound)

/-- Reads a natural number of any size. -/
def readAnyNatural : Reader Nat := contentAs .integer anyNatural?

/-- Reads a truth value. -/
def readBoolean : Reader Bool := contentAs .boolean boolean?

/-- Reads an octet string. -/
def readOctetString : Reader Octets := content .octetString

/-- Reads an octet string of a given length. -/
def readOctetsOfLength (n : Nat) : Reader Octets :=
  contentAs .octetString fun c => if c.length = n then some c else none

/-- Reads a bit string. -/
def readBitString : Reader Octets := contentAs .bitString bitString?

end Specimen.Der
