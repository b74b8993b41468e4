import Mathlib.Control.Monad.Basic
import Specimen.Companion
import Specimen.Proofs.FirstBlock
import Specimen.Proofs.Load
import Specimen.Proofs.Marks
import Specimen.Proofs.Sample

/-!
# Companion data that is a certificate already

Whether data is armour is decided before anything is read, by the two opening marks. A certificate
is binary and free to hold them, in a name for one; it is then read as armour.

* `toDer_eq_self_iff_not_hasMark`: a certificate passes through unchanged exactly if it has no
  mark. One that has a mark is refused, or a shorter certificate comes out of its inside.
* `marked_certificate_changes`: certificates to which either happens.
-/

namespace Specimen

namespace Companion

open X509 Pem

theorem check_eq_ok_iff {d : Octets} : check d = .ok () ↔ (Certificate.ofDer d).isOk = true := by
  unfold check
  rw [isOk_iff_exists]
  cases Certificate.ofDer d with
  | ok c => simp
  | error flaw => cases flaw <;> simp

/-- What comes out is a certificate. -/
theorem isOk_of_toDer {data d : Octets} (h : toDer data = .ok d) :
    (Certificate.ofDer d).isOk = true :=
  check_eq_ok_iff.1 (toDer_eq_ok_iff.1 h).2

/-- A certificate without a mark passes through. -/
theorem toDer_of_not_hasMark {d : Octets} (hd : (Certificate.ofDer d).isOk = true)
    (hm : ¬ HasMark d) : toDer d = .ok d := by
  rw [← isArmoured_iff] at hm
  exact toDer_eq_ok_iff.2 ⟨⟨.der, by simp [unarmour, hm]⟩, check_eq_ok_iff.2 hd⟩

/-- What comes out of data with a mark is shorter than the data. -/
theorem length_lt_of_toDer {data d : Octets} (hm : HasMark data) (h : toDer data = .ok d) :
    d.length < data.length := by
  obtain ⟨⟨e, hu⟩, -⟩ := toDer_eq_ok_iff.1 h
  unfold unarmour at hu
  rw [if_pos (isArmoured_iff.2 hm)] at hu
  split at hu
  · simp at hu
  · rename_i block hblock
    split at hu
    · simp only [Except.ok.injEq, Prod.mk.injEq] at hu
      rw [← hu.2]
      exact Block.length_data_lt hblock
    · simp at hu

theorem toDer_eq_self_iff {d : Octets} (hd : (Certificate.ofDer d).isOk = true) :
    toDer d = .ok d ↔ ¬ HasMark d := by
  refine ⟨fun h hm => ?_, toDer_of_not_hasMark hd⟩
  exact Nat.lt_irrefl _ (length_lt_of_toDer hm h)

/-- **Passing through.** A certificate, also one that came out of other data, passes through
unchanged exactly if it has no mark. Out of one with a mark comes at most a shorter certificate. -/
theorem toDer_eq_self_iff_not_hasMark {d : Octets}
    (hd : (Certificate.ofDer d).isOk = true ∨ ∃ data, toDer data = .ok d) :
    (toDer d = .ok d ↔ ¬ HasMark d) ∧
    ∀ e, HasMark d → toDer d = .ok e → e.length < d.length ∧ (Certificate.ofDer e).isOk = true := by
  have hok : (Certificate.ofDer d).isOk = true := by
    rcases hd with hd | ⟨data, h⟩
    · exact hd
    · exact isOk_of_toDer h
  exact ⟨toDer_eq_self_iff hok, fun e hm h => ⟨length_lt_of_toDer hm h, isOk_of_toDer h⟩⟩

/-- A certificate whose subject is an opening mark. -/
def markedSample : Octets :=
  Sample.certificate (Octets.ofAscii "-----BEGIN")

/-- A certificate whose subject is another certificate in armour. -/
def nestedSample : Octets :=
  Sample.certificate (0x0A :: armour label (Sample.certificate (Octets.ofAscii "S")))

theorem toDer_eq_self_iff_not_hasMark_sample :
    ((Certificate.ofDer markedSample).isOk = true ∧ toDer markedSample ≠ .ok markedSample) ∧
    (toDer (armour label markedSample) = .ok markedSample ∧
      toDer markedSample ≠ .ok markedSample) ∧
    (toDer nestedSample = .ok (Sample.certificate (Octets.ofAscii "S")) ∧
      (Sample.certificate (Octets.ofAscii "S")).length < nestedSample.length) := by
  have hm : HasMark markedSample := by decide +kernel
  have hn : HasMark nestedSample := by decide +kernel
  have hd : (Certificate.ofDer markedSample).isOk = true := by decide +kernel
  have hnd : (Certificate.ofDer nestedSample).isOk = true := by decide +kernel
  have ha : toDer (armour label markedSample) = .ok markedSample := by decide +kernel
  have hs : toDer nestedSample = .ok (Sample.certificate (Octets.ofAscii "S")) := by decide +kernel
  have h₁ := (toDer_eq_self_iff_not_hasMark (.inl hd)).1
  have h₂ := (toDer_eq_self_iff_not_hasMark (.inr ⟨_, ha⟩)).1
  have h₃ := (toDer_eq_self_iff_not_hasMark (.inl hnd)).2
  exact ⟨⟨hd, fun h => h₁.1 h hm⟩, ⟨ha, fun h => h₂.1 h hm⟩, hs, (h₃ _ hn hs).1⟩

/-- Certificates do not always pass through: one with a mark in its subject is refused, also when
it came out of armour itself, and instead of one with an armoured certificate in its subject that
other certificate comes out. -/
theorem marked_certificate_changes :
    ((Certificate.ofDer markedSample).isOk = true ∧
      toDer markedSample = .error (.armour .noBlock)) ∧
    toDer (armour label markedSample) = .ok markedSample ∧
    (Certificate.ofDer nestedSample).isOk = true ∧
      toDer nestedSample = .ok (Sample.certificate (Octets.ofAscii "S")) ∧
      Sample.certificate (Octets.ofAscii "S") ≠ nestedSample := by
  decide +kernel

end Companion

end Specimen
