import Mathlib.Data.List.Induction
import Specimen.Proofs.HexNumber
import Specimen.Proofs.Load
import Specimen.Proofs.Readers
import Specimen.Proofs.Sample

/-!
# Serial numbers

The serial number in a fixture is the text of the number that the content octets of the serial
write in two's complement. These octets are as few as the number needs, so the text tells them.

* `Der.integerValue_eq_toInt`: the number is that of the bits in two's complement.
* `Der.integerValue_inj`: integers in as few octets as they need are told by their numbers.
* `X509.Certificate.isMinimalInteger_serial`: the serial of a certificate is one of them.
* `Fixture.serial_exact`: the text of the serial number, and what it tells.
-/

namespace Specimen

theorem Octets.toNat_append_singleton (bs : Octets) (b : UInt8) :
    toNat (bs ++ [b]) = 256 * toNat bs + b.toNat := by
  rw [toNat_append, Nat.mul_comm]
  simp [toNat]

theorem Octets.toNat_cons (b : UInt8) (bs : Octets) :
    toNat (b :: bs) = b.toNat * Nat.pow 256 bs.length + toNat bs := by
  rw [← List.singleton_append, toNat_append]
  simp [toNat]

theorem Octets.toNat_lt (bs : Octets) : toNat bs < Nat.pow 256 bs.length := by
  induction bs using List.reverseRecOn with
  | nil => simp [toNat]
  | append_singleton bs b ih =>
    have hb := b.toNat_lt
    have hpow : Nat.pow 256 (bs.length + 1) = Nat.pow 256 bs.length * 256 := rfl
    rw [toNat_append_singleton, List.length_append, List.length_singleton, hpow]
    omega

namespace Der

variable {as bs : Octets} {b : UInt8}

/-! ## Integers in two's complement -/

/-- The high bit of the first octet tells whether the number is in the lower half. -/
theorem lt_iff_two_mul_toNat_lt (b : UInt8) (bs : Octets) :
    b < 0x80 ↔ 2 * Octets.toNat (b :: bs) < Nat.pow 256 (b :: bs).length := by
  have hrest := Octets.toNat_lt bs
  have hpow : Nat.pow 256 (bs.length + 1) = Nat.pow 256 bs.length * 256 := rfl
  rw [UInt8.lt_iff_toNat_lt, Octets.toNat_cons, List.length_cons, hpow]
  show b.toNat < 128 ↔ _
  constructor
  · intro hb
    have hle := Nat.mul_le_mul_right (Nat.pow 256 bs.length) (show b.toNat ≤ 127 by omega)
    omega
  · intro hless
    by_contra hb
    have hle := Nat.mul_le_mul_right (Nat.pow 256 bs.length) (show 128 ≤ b.toNat by omega)
    omega

/-- The number of an integer is that of its bits in two's complement. -/
theorem integerValue_eq_toInt (bs : Octets) :
    integerValue bs = (BitVec.ofNat (8 * bs.length) (Octets.toNat bs)).toInt := by
  have hpow : ∀ n, 2 ^ (8 * n) = Nat.pow 256 n := fun n => Nat.pow_mul 2 8 n
  have hlt : Octets.toNat bs < 2 ^ (8 * bs.length) := by
    rw [hpow]
    exact Octets.toNat_lt bs
  rw [BitVec.toInt_eq_toNat_cond, BitVec.toNat_ofNat, Nat.mod_eq_of_lt hlt, hpow]
  cases bs with
  | nil => rfl
  | cons b bs =>
    show (if b < 0x80 then (Octets.toNat (b :: bs) : Int)
      else (Octets.toNat (b :: bs) : Int) - (Nat.pow 256 (b :: bs).length : Nat)) = _
    simp only [lt_iff_two_mul_toNat_lt b bs]

theorem integerValue_singleton (b : UInt8) :
    integerValue [b] = if b.toNat < 128 then (b.toNat : Int) else b.toNat - 256 := by
  have hsign : b < 0x80 ↔ b.toNat < 128 := UInt8.lt_iff_toNat_lt
  simp [integerValue, Octets.toNat, hsign]

/-- Another octet is a digit in base 256; the sign stays with the first one. -/
theorem integerValue_append_singleton (hne : bs ≠ []) (b : UInt8) :
    integerValue (bs ++ [b]) = 256 * integerValue bs + b.toNat := by
  obtain ⟨a, bs, rfl⟩ := List.exists_cons_of_ne_nil hne
  have hvalue := Octets.toNat_append_singleton (a :: bs) b
  have hpow : Nat.pow 256 (a :: bs ++ [b]).length = 256 * Nat.pow 256 (a :: bs).length := by
    rw [List.length_append, List.length_singleton, Nat.mul_comm]
    rfl
  rw [List.cons_append] at hvalue hpow ⊢
  simp only [integerValue, hvalue, hpow]
  by_cases ha : a < 0x80
  · rw [if_pos ha, if_pos ha]
    omega
  · rw [if_neg ha, if_neg ha]
    omega

/-! ## As few octets as needed -/

theorem isMinimalInteger_cons_cons {a b : UInt8} {bs : Octets} :
    isMinimalInteger (a :: b :: bs) = true ↔
      (a.toNat = 0 → 128 ≤ b.toNat) ∧ (a.toNat = 255 → b.toNat < 128) := by
  have hzero : a = 0x00 ↔ a.toNat = 0 := UInt8.toNat_inj.symm
  have hones : a = 0xFF ↔ a.toNat = 255 := UInt8.toNat_inj.symm
  have hlow : b < 0x80 ↔ b.toNat < 128 := UInt8.lt_iff_toNat_lt
  have hhigh : 0x80 ≤ b ↔ 128 ≤ b.toNat := UInt8.le_iff_toNat_le
  simp only [isMinimalInteger, Bool.and_eq_true, Bool.not_eq_true', Bool.and_eq_false_iff,
    beq_eq_false_iff_ne, decide_eq_false_iff_not, ne_eq, hzero, hones, hlow, hhigh]
  omega

theorem isMinimalInteger_of_append_singleton (hne : bs ≠ [])
    (h : isMinimalInteger (bs ++ [b]) = true) : isMinimalInteger bs = true := by
  rcases bs with _ | ⟨c, _ | ⟨d, bs⟩⟩
  · exact absurd rfl hne
  · rfl
  · exact h

/-- The numbers that one octet can hold are those that have one. -/
theorem length_eq_one_iff_small (hmin : isMinimalInteger bs = true) :
    bs.length = 1 ↔ -128 ≤ integerValue bs ∧ integerValue bs < 128 := by
  constructor
  · intro hone
    obtain ⟨b, rfl⟩ := List.length_eq_one_iff.1 hone
    have hb := b.toNat_lt
    rw [integerValue_singleton]
    split <;> omega
  · rintro ⟨hlow, hhigh⟩
    induction bs using List.reverseRecOn with
    | nil => cases hmin
    | append_singleton bs b ih =>
      by_cases hne : bs = []
      · rw [hne]
        rfl
      · -- The octets before the last hold 0 or -1 and are a single one, which can be spared.
        have hb := b.toNat_lt
        have hvalue := integerValue_append_singleton hne b
        have hone := ih (isMinimalInteger_of_append_singleton hne hmin) (by omega) (by omega)
        obtain ⟨a, rfl⟩ := List.length_eq_one_iff.1 hone
        have ha := a.toNat_lt
        obtain ⟨hzero, hones⟩ := isMinimalInteger_cons_cons.1 hmin
        rw [integerValue_singleton] at hvalue
        split at hvalue <;> omega

/-- Integers in as few octets as they need are told by their numbers. -/
theorem integerValue_inj (has : isMinimalInteger as = true) (hbs : isMinimalInteger bs = true)
    (h : integerValue as = integerValue bs) : as = bs := by
  induction as using List.reverseRecOn generalizing bs with
  | nil => cases has
  | append_singleton as a ih =>
    rcases List.eq_nil_or_concat' bs with rfl | ⟨bs, b, rfl⟩
    · cases hbs
    · have ha := a.toNat_lt
      have hb := b.toNat_lt
      have hone : (as ++ [a]).length = 1 ↔ (bs ++ [b]).length = 1 := by
        rw [length_eq_one_iff_small has, length_eq_one_iff_small hbs, h]
      have hnil : as = [] ↔ bs = [] := by simpa using hone
      by_cases hane : as = []
      · obtain rfl := hane
        obtain rfl := hnil.1 rfl
        rw [List.nil_append, List.nil_append, integerValue_singleton, integerValue_singleton] at h
        have hab : a.toNat = b.toNat := by split at h <;> split at h <;> omega
        rw [UInt8.toNat_inj.1 hab]
      · have hbne : bs ≠ [] := fun hbs => hane (hnil.2 hbs)
        rw [integerValue_append_singleton hane, integerValue_append_singleton hbne] at h
        have hinit := ih (isMinimalInteger_of_append_singleton hane has)
          (isMinimalInteger_of_append_singleton hbne hbs) (by omega)
        have hab : a.toNat = b.toNat := by omega
        rw [hinit, UInt8.toNat_inj.1 hab]

theorem ensures_readInteger : Ensures readInteger fun bs => isMinimalInteger bs = true := by
  refine .contentAs fun c bs h => ?_
  unfold integerContent? at h
  split at h
  · rename_i hmin
    rwa [← Option.some.inj h]
  · cases h

end Der

namespace X509

open Der

theorem ensures_readDraft : Ensures readDraft fun d => isMinimalInteger d.serial = true := by
  refine .within (.skip fun version => .bind ensures_readInteger fun serial hserial => ?_)
  refine .skip fun _ => .skip fun issuer => .skip fun _ => .skip fun subject => .skip fun _ => ?_
  exact .skip fun _ => .skip fun _ => .skip fun _ => .pure hserial

theorem ensures_readCertificate :
    Ensures readCertificate fun d => isMinimalInteger d.serial = true :=
  .within (.bind ensures_readDraft fun _ hdraft => .skip fun _ => .skip fun _ => .pure hdraft)

/-- The serial of a certificate has no octet to spare. -/
theorem Certificate.isMinimalInteger_serial {der : Octets} {c : Certificate}
    (h : Certificate.ofDer der = .ok c) : isMinimalInteger c.serial = true := by
  unfold Certificate.ofDer at h
  split at h
  · cases h
  · rename_i draft hread
    have hmin := ensures_readCertificate.whole hread
    split at h
    · cases h
    · cases h
      exact hmin

end X509

namespace Fixture

open X509

/-- The serial number in a fixture is the one text that writes in hex the number that the content
octets of the serial are in two's complement. It tells these octets. -/
theorem serial_exact {der der' : Octets} {pem pem' : String} {c c' : Certificate} {f f' : Fixture}
    (hc : Certificate.ofDer der = .ok c) (hc' : Certificate.ofDer der' = .ok c')
    (hf : ofCertificate pem c = .ok f) (hf' : ofCertificate pem' c' = .ok f') :
    (∃ text, f.serialNumber = .text text ∧ ∀ t, Hex.Writes t
      (BitVec.ofNat (8 * c.serial.length) (Octets.toNat c.serial)).toInt ↔ t = text) ∧
    (f.serialNumber = f'.serialNumber ↔ c.serial = c'.serial) := by
  obtain ⟨-, -, -, -, hserial, -⟩ := ofCertificate_eq_ok_iff.1 hf
  obtain ⟨-, -, -, -, hserial', -⟩ := ofCertificate_eq_ok_iff.1 hf'
  constructor
  · refine ⟨_, hserial, fun t => ?_⟩
    rw [← Der.integerValue_eq_toInt]
    exact Hex.writes_iff
  · rw [hserial, hserial', Value.text.injEq]
    constructor
    · intro htext
      exact Der.integerValue_inj (Certificate.isMinimalInteger_serial hc)
        (Certificate.isMinimalInteger_serial hc') (Hex.ofInt_inj htext)
    · intro hsame
      rw [Certificate.serialNumber, Certificate.serialNumber, hsame]

/-- With a zero octet in front, the octet 80 is 128, and without one it is -128. -/
theorem serial_exact_sample :
    ∃ (c c' : Certificate) (f f' : Fixture),
      Certificate.ofDer c.der = .ok c ∧ Certificate.ofDer c'.der = .ok c' ∧
      ofCertificate "" c = .ok f ∧ ofCertificate "" c' = .ok f' ∧
      c.serial = [0x00, 0x80] ∧ f.serialNumber = .text "0x80" ∧
      c'.serial = [0x80] ∧ f'.serialNumber = .text "-0x80" ∧ f.serialNumber ≠ f'.serialNumber := by
  let c := Sample.identified [0x00, 0x80] 0x0C [] []
  let c' := Sample.identified [0x80] 0x0C [] []
  have hc : Certificate.ofDer c.der = .ok c := by decide +kernel
  have hc' : Certificate.ofDer c'.der = .ok c' := by decide +kernel
  have hf : (ofCertificate "" c).isOk = true := by decide +kernel
  have hf' : (ofCertificate "" c').isOk = true := by decide +kernel
  obtain ⟨f, hf⟩ := isOk_iff_exists.1 hf
  obtain ⟨f', hf'⟩ := isOk_iff_exists.1 hf'
  obtain ⟨⟨text, htext, hwrites⟩, htells⟩ := serial_exact hc hc' hf hf'
  obtain ⟨⟨text', htext', hwrites'⟩, -⟩ := serial_exact hc' hc hf' hf
  obtain rfl : "0x80" = text := (hwrites _).1 (Hex.writes_iff.2 (by decide +kernel))
  obtain rfl : "-0x80" = text' := (hwrites' _).1 (Hex.writes_iff.2 (by decide +kernel))
  exact ⟨c, c', f, f', hc, hc', hf, hf', rfl, htext, rfl, htext', fun h => by cases htells.1 h⟩

end Fixture

end Specimen
