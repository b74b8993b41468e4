/-!
# Octet strings

Binary data is a list of octets. `Octets.ofAscii` writes ASCII text as octets, `toNat` reads a
big-endian number, and `occurs` searches for a fixed sequence.

* `toNat_append` — the number of a concatenation.
* `length_ofAscii` — one octet for each character.
-/

namespace Specimen

/-- A string of octets. -/
abbrev Octets := List UInt8

namespace Octets

/-- The octets of ASCII text, one for each character. -/
def ofAscii (s : String) : Octets :=
  s.toList.map fun c => c.toNat.toUInt8

/-- The text whose characters are the octets, each read as a code point. -/
def toLatin (bs : Octets) : String :=
  String.ofList (bs.map fun b => Char.ofNat b.toNat)

/-- The big-endian number written by the octets. -/
def toNat (bs : Octets) : Nat :=
  bs.foldl (fun n b => n * 256 + b.toNat) 0

/-- Whether `needle` occurs somewhere in the octets. -/
def occurs (needle : Octets) : Octets → Bool
  | [] => needle.isEmpty
  | b :: bs => needle.isPrefixOf (b :: bs) || occurs needle bs

theorem length_ofAscii (s : String) : (ofAscii s).length = s.toList.length := by
  simp [ofAscii]

private theorem foldl_toNat (bs : Octets) (n : Nat) :
    bs.foldl (fun n b => n * 256 + b.toNat) n = n * Nat.pow 256 bs.length + toNat bs := by
  induction bs generalizing n with
  | nil => simp [toNat]
  | cons b bs ih =>
    have h : toNat (b :: bs) = (0 * 256 + b.toNat) * Nat.pow 256 bs.length + toNat bs := ih _
    have hp : Nat.pow 256 (bs.length + 1) = Nat.pow 256 bs.length * 256 := rfl
    rw [List.foldl_cons, ih, h, List.length_cons, hp]
    generalize Nat.pow 256 bs.length = p
    grind

theorem toNat_append (xs ys : Octets) :
    toNat (xs ++ ys) = toNat xs * Nat.pow 256 ys.length + toNat ys := by
  rw [toNat, List.foldl_append, foldl_toNat]
  rfl

end Octets

end Specimen
