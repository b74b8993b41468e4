import Specimen.Embedded
import Specimen.Proofs.Armour

/-!
# The embedded certificate is what it is made from

The library armours a certificate as any certificate may be armoured, so its own armour is read
back. The fixture of the embedded certificate was loaded from such a text.

* `Armoured.ofDer`: the armour that the library writes.
* `Embedded.fixture_der`: the fixture has the encoding that was armoured.
* `Embedded.toDer_der`: the encoding passes through the reader of companion data.
-/

namespace Specimen

open X509 Pem

namespace Pem

theorem cut_ne_nil {width fuel : Nat} {bs : Octets} (hf : fuel ≠ 0) (hbs : bs ≠ []) :
    cut width fuel bs ≠ [] := by
  cases fuel with
  | zero => exact absurd rfl hf
  | succ fuel =>
    cases bs with
    | nil => exact absurd rfl hbs
    | cons b bs => simp [cut]

theorem ne_nil_of_mem_cut {width : Nat} (hw : 0 < width) {fuel : Nat} {bs l : Octets}
    (h : l ∈ cut width fuel bs) : l ≠ [] := by
  induction fuel generalizing bs with
  | zero => simp [cut] at h
  | succ fuel ih =>
    cases bs with
    | nil => simp [cut] at h
    | cons b bs =>
      rcases List.mem_cons.1 h with rfl | h
      · simp; omega
      · exact ih h

end Pem

namespace Armoured

variable {der : Octets}

theorem encode_ne_nil (hne : der ≠ []) : Base64.encode der ≠ [] := by
  intro h
  have hd := Base64.decodeStrict?_encode der
  rw [h, Base64.decodeStrict?, Option.some.injEq] at hd
  exact hne hd.symm

/-- The armour that the library writes: lines of sixty-four digits, each with a line feed. -/
def ofDer (der : Octets) (hne : der ≠ []) : Armoured der where
  front := []
  openingEnd := .lf
  body := (cut 64 (Base64.encode der).length (Base64.encode der)).map fun l => (l, .lf)
  back := [0x0A]
  front_ascii := by simp
  front_ends := by decide
  front_unmarked := by decide
  body_ne_nil := by
    have : Base64.encode der ≠ [] := encode_ne_nil hne
    simpa using cut_ne_nil (by simpa using this) this
  line_ne_nil := by
    intro l hl
    obtain ⟨l', hl', rfl⟩ := List.mem_map.1 hl
    exact ne_nil_of_mem_cut (by decide) hl'
  digits := by
    rw [List.flatMap_map, List.flatMap_id']
    exact flatten_cut (by decide) (Nat.le_refl _)
  back_ascii := by decide +kernel
  back_starts := by decide +kernel
  back_unmarked := by decide +kernel

theorem text_ofDer (hne : der ≠ []) : (ofDer der hne).text = armour Companion.label der := by
  simp [text, ofDer, armour, armourLines, linesText, List.flatMap_map, LineEnd.octets]

end Armoured

namespace Embedded

theorem isOk_der : (Certificate.ofDer der).isOk = true := by
  decide +kernel

/-- The embedded certificate has no mark of armour. -/
theorem isArmoured_der : isArmoured der = false := by
  decide +kernel

/-- The fixture has the encoding that was armoured. -/
theorem fixture_der : fixture.der = .ofOctets der := by
  obtain ⟨c, hc⟩ := isOk_iff_exists.1 isOk_der
  obtain ⟨c', hc', hf⟩ := Fixture.load_eq_ok_iff.1 load_fixture
  have hpem : (Armoured.ofDer der (by decide +kernel)).pem = pem := by
    rw [Armoured.pem, Armoured.text_ofDer, pem, Companion.label]
  have hload := (Armoured.ofDer der (by decide +kernel)).ofArmour_pem hc
  rw [hpem, hc', Except.ok.injEq] at hload
  rw [(Fixture.ofCertificate_eq_ok_iff.1 hf).2.1, hload, Certificate.ofDer_der hc]

theorem octets?_fixture_der : fixture.der.octets? = some der := by
  rw [fixture_der]
  rfl

/-- The encoding passes through the reader of companion data. -/
theorem toDer_der : Companion.toDer der = .ok der :=
  Companion.toDer_of_not_hasMark isOk_der (by rw [← isArmoured_iff, isArmoured_der]; decide)

end Embedded

end Specimen
