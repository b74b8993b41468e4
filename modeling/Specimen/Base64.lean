import Specimen.Octets

/-!
# Base64

Four digits of six bits carry three octets; a group left short is filled with `=`. There are two
readers. The strict one takes whole groups, padding at the end only, and no unused bits. The
lenient one drops every foreign character, stops after a complete padding, and complains only
about a group left open.

* `decodeStrict?_encode` — the strict reader reads back what is written.
* `scan_foreign` — a foreign character makes no difference to the lenient reader.
-/

namespace Specimen.Base64

/-- The filler `=`. -/
def pad : UInt8 := 0x3D

/-- The digit for a number below sixty-four. -/
def digit (n : Nat) : UInt8 :=
  if n < 26 then (65 + n).toUInt8
  else if n < 52 then (71 + n).toUInt8
  else if n < 62 then (n - 4).toUInt8
  else if n = 62 then 0x2B
  else 0x2F

/-- The number a digit stands for. -/
def value? (b : UInt8) : Option Nat :=
  let n := b.toNat
  if 65 ≤ n ∧ n ≤ 90 then some (n - 65)
  else if 97 ≤ n ∧ n ≤ 122 then some (n - 71)
  else if 48 ≤ n ∧ n ≤ 57 then some (n + 4)
  else if n = 0x2B then some 62
  else if n = 0x2F then some 63
  else none

/-- The octets carried by digits. Of a short last group, two digits carry one octet and three
carry two. -/
def pack : List Nat → Octets
  | a :: b :: c :: d :: ns =>
    (a * 4 + b / 16).toUInt8 :: (b % 16 * 16 + c / 4).toUInt8 :: (c % 4 * 64 + d).toUInt8 :: pack ns
  | [a, b, c] => [(a * 4 + b / 16).toUInt8, (b % 16 * 16 + c / 4).toUInt8]
  | [a, b] => [(a * 4 + b / 16).toUInt8]
  | _ => []

/-- The digits of an octet string, the last group filled up. -/
def encode : Octets → Octets
  | a :: b :: c :: bs =>
    digit (a.toNat / 4) :: digit (a.toNat % 4 * 16 + b.toNat / 16) ::
      digit (b.toNat % 16 * 4 + c.toNat / 64) :: digit (c.toNat % 64) :: encode bs
  | [a, b] =>
    [digit (a.toNat / 4), digit (a.toNat % 4 * 16 + b.toNat / 16), digit (b.toNat % 16 * 4), pad]
  | [a] => [digit (a.toNat / 4), digit (a.toNat % 4 * 16), pad, pad]
  | [] => []

/-! ## The strict reader -/

/-- The last group of a strict text: its padding, if any, ends it, and the bits that carry nothing
are zero. -/
def lastGroup? (a b c d : UInt8) : Option Octets :=
  match value? a, value? b with
  | some x, some y =>
    if c = pad then
      if d = pad ∧ y % 16 = 0 then some (pack [x, y]) else none
    else
      match value? c with
      | none => none
      | some z =>
        if d = pad then if z % 4 = 0 then some (pack [x, y, z]) else none
        else (value? d).map fun w => pack [x, y, z, w]
  | _, _ => none

/-- The octets of a padded text without foreign characters. -/
def decodeStrict? : Octets → Option Octets
  | [] => some []
  | a :: b :: c :: d :: cs =>
    match cs with
    | [] => lastGroup? a b c d
    | _ :: _ =>
      match value? a, value? b, value? c, value? d with
      | some x, some y, some z, some w => (decodeStrict? cs).map (pack [x, y, z, w] ++ ·)
      | _, _, _, _ => none
  | _ => none

/-! ## The lenient reader -/

/-- Why the lenient reader refuses a text. -/
inductive Flaw where
  /-- A single digit is left over; all digits together are counted. -/
  | looseDigit (digits : Nat)
  /-- Two or three digits are left over and no padding follows them. -/
  | unpadded
  deriving DecidableEq, Repr

/-- The wording of a flaw. -/
def Flaw.message : Flaw → String
  | .looseDigit n =>
    "Invalid base64-encoded string: number of data characters (" ++ toString n ++
      ") cannot be 1 more than a multiple of 4"
  | .unpadded => "Incorrect padding"

/-- The digits of a text up to a complete padding, and whether such a padding was met. `count`
digits were read before, the last of them followed by `pads` fillers that count. -/
def scan (count pads : Nat) : Octets → List Nat × Bool
  | [] => ([], false)
  | b :: bs =>
    if b = pad then
      if 2 ≤ count % 4 then
        if 4 ≤ count % 4 + (pads + 1) then ([], true) else scan count (pads + 1) bs
      else scan count pads bs
    else
      match value? b with
      | none => scan count pads bs
      | some v => let r := scan (count + 1) 0 bs; (v :: r.1, r.2)

/-- The octets of a text in which anything but digits and padding is passed over. -/
def decodeLenient (cs : Octets) : Except Flaw Octets :=
  match scan 0 0 cs with
  | (ns, true) => .ok (pack ns)
  | (ns, false) =>
    if ns.length % 4 = 0 then .ok (pack ns)
    else if ns.length % 4 = 1 then .error (.looseDigit ns.length)
    else .error .unpadded

/-! ## Laws -/

theorem value?_digit {n : Nat} (h : n < 64) : value? (digit n) = some n := by
  have : ∀ m : Fin 64, value? (digit m) = some m.val := by decide
  exact this ⟨n, h⟩

theorem digit_ne_pad {n : Nat} (h : n < 64) : digit n ≠ pad := by
  have : ∀ m : Fin 64, digit m ≠ pad := by decide
  exact this ⟨n, h⟩

/-- A foreign character makes no difference. -/
theorem scan_foreign {b : UInt8} (hb : b ≠ pad) (hv : value? b = none) (count pads : Nat)
    (bs : Octets) : scan count pads (b :: bs) = scan count pads bs := by
  simp [scan, hb, hv]

private theorem toUInt8_eq_of {n : Nat} {b : UInt8} (h : n = b.toNat) : n.toUInt8 = b := by
  subst h; simp

/-- The strict reader reads back what is written. -/
theorem decodeStrict?_encode (bs : Octets) : decodeStrict? (encode bs) = some bs := by
  fun_induction encode bs with
  | case1 a b c bs ih =>
    have ha := a.toNat_lt; have hb := b.toNat_lt; have hc := c.toNat_lt
    have h1 : value? (digit (a.toNat / 4)) = _ := value?_digit (by omega)
    have h2 : value? (digit (a.toNat % 4 * 16 + b.toNat / 16)) = _ := value?_digit (by omega)
    have h3 : value? (digit (b.toNat % 16 * 4 + c.toNat / 64)) = _ := value?_digit (by omega)
    have h4 : value? (digit (c.toNat % 64)) = _ := value?_digit (by omega)
    have n3 : digit (b.toNat % 16 * 4 + c.toNat / 64) ≠ pad := digit_ne_pad (by omega)
    have n4 : digit (c.toNat % 64) ≠ pad := digit_ne_pad (by omega)
    have hp : pack [a.toNat / 4, a.toNat % 4 * 16 + b.toNat / 16,
        b.toNat % 16 * 4 + c.toNat / 64, c.toNat % 64] = [a, b, c] := by
      simp only [pack, List.cons.injEq, and_true]
      refine ⟨toUInt8_eq_of (by omega), toUInt8_eq_of (by omega), toUInt8_eq_of (by omega)⟩
    unfold decodeStrict?
    cases he : encode bs with
    | nil =>
      rw [he] at ih
      have : bs = [] := by simpa [decodeStrict?] using ih.symm
      subst this
      simp [lastGroup?, h1, h2, h3, h4, n3, n4, hp]
    | cons e es =>
      rw [he] at ih
      simp [h1, h2, h3, h4, ih, hp]
  | case2 a b =>
    have ha := a.toNat_lt; have hb := b.toNat_lt
    have h1 : value? (digit (a.toNat / 4)) = _ := value?_digit (by omega)
    have h2 : value? (digit (a.toNat % 4 * 16 + b.toNat / 16)) = _ := value?_digit (by omega)
    have h3 : value? (digit (b.toNat % 16 * 4)) = _ := value?_digit (by omega)
    have n3 : digit (b.toNat % 16 * 4) ≠ pad := digit_ne_pad (by omega)
    have hz : b.toNat % 16 * 4 % 4 = 0 := by omega
    simp only [decodeStrict?, lastGroup?, h1, h2, h3, n3, hz, if_true, if_false, pack,
      Option.some.injEq, List.cons.injEq, and_true]
    exact ⟨toUInt8_eq_of (by omega), toUInt8_eq_of (by omega)⟩
  | case3 a =>
    have ha := a.toNat_lt
    have h1 : value? (digit (a.toNat / 4)) = _ := value?_digit (by omega)
    have h2 : value? (digit (a.toNat % 4 * 16)) = _ := value?_digit (by omega)
    have hz : a.toNat % 4 * 16 % 16 = 0 := by omega
    simp only [decodeStrict?, lastGroup?, h1, h2, hz, if_true, and_self, pack,
      Option.some.injEq, List.cons.injEq, and_true]
    exact toUInt8_eq_of (by omega)
  | case4 => rfl

end Specimen.Base64
