import Specimen.Base64
import Specimen.Pem.Line

/-!
# Writing armour

Data is armoured under a label: an opening line, the data in base64 with sixty-four digits to a
line, and a closing line. Every line ends with a line feed.

* `flatten_cut` — cutting into lines loses nothing.
-/

namespace Specimen.Pem

/-- Cuts a text into lines of `width` octets, at most `fuel` of them. -/
def cut (width : Nat) : Nat → Octets → List Octets
  | 0, _ => []
  | _, [] => []
  | fuel + 1, b :: bs => (b :: bs).take width :: cut width fuel ((b :: bs).drop width)

/-- The line that opens a block. -/
def beginLine (label : Octets) : Octets :=
  fiveDashes ++ beginWord ++ 0x20 :: label ++ fiveDashes

/-- The line that closes a block. -/
def endLine (label : Octets) : Octets :=
  fiveDashes ++ Octets.ofAscii "END" ++ 0x20 :: label ++ fiveDashes

/-- The lines of armoured data. -/
def armourLines (label data : Octets) : List Octets :=
  let digits := Base64.encode data
  beginLine label :: cut 64 digits.length digits ++ [endLine label]

/-- Armoured data. -/
def armour (label data : Octets) : Octets :=
  (armourLines label data).flatMap (· ++ [0x0A])

/-- Cutting into lines loses nothing. -/
theorem flatten_cut {width : Nat} (hw : 0 < width) {fuel : Nat} {bs : Octets}
    (h : bs.length ≤ fuel) : (cut width fuel bs).flatten = bs := by
  induction fuel generalizing bs with
  | zero =>
    have : bs = [] := List.length_eq_zero_iff.1 (by omega)
    simp [cut, this]
  | succ fuel ih =>
    cases bs with
    | nil => simp [cut]
    | cons b bs =>
      have hl : ((b :: bs).drop width).length ≤ fuel := by
        simp only [List.length_drop, List.length_cons] at h ⊢; omega
      rw [cut, List.flatten_cons, ih hl, List.take_append_drop]

end Specimen.Pem
