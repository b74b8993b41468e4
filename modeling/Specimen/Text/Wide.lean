import Specimen.Octets

/-!
# UTF-16 and UTF-32

Strict readers of big-endian UTF-16 (surrogates in pairs only) and big-endian UTF-32.
-/

namespace Specimen.Text

/-- The character with a code point, unless the number is a surrogate or too large. -/
def charOfCode? (n : Nat) : Option Char :=
  if n < 0xD800 ∨ (0xDFFF < n ∧ n < 0x110000) then some (Char.ofNat n) else none

/-- Big-endian pairs of octets as numbers; none for an odd count. -/
def units16? : Octets → Option (List Nat)
  | [] => some []
  | [_] => none
  | a :: b :: bs => (units16? bs).map ((a.toNat * 256 + b.toNat) :: ·)

/-- The text of UTF-16 code units; each surrogate needs its partner. -/
def ofUnits16? : List Nat → Option (List Char)
  | [] => some []
  | u :: us =>
    if 0xD800 ≤ u ∧ u < 0xDC00 then
      match us with
      | v :: vs =>
        if 0xDC00 ≤ v ∧ v < 0xE000 then
          (ofUnits16? vs).map (Char.ofNat (0x10000 + (u - 0xD800) * 1024 + (v - 0xDC00)) :: ·)
        else none
      | [] => none
    else
      match charOfCode? u with
      | some c => (ofUnits16? us).map (c :: ·)
      | none => none

/-- The text written in big-endian UTF-16. -/
def decodeUtf16? (bs : Octets) : Option (List Char) :=
  (units16? bs).bind ofUnits16?

/-- The text written in big-endian UTF-32. -/
def decodeUtf32? : Octets → Option (List Char)
  | [] => some []
  | a :: b :: c :: d :: bs =>
    match charOfCode? (Octets.toNat [a, b, c, d]) with
    | some x => (decodeUtf32? bs).map (x :: ·)
    | none => none
  | _ => none

end Specimen.Text
