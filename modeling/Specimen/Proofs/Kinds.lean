import Specimen.Pem.AllBlocks
import Specimen.Proofs.Base64

/-!
# Kinds of octets

Terminators are blanks, blanks are white space, and all white space is foreign to base64, so no
digit is any of this. The filler counts as a digit here.

* `isForeign_of_isBodySpace`: white space is foreign, whatever its kind.
* `decodeLenient_terminators`, `decodeLenient_spaces`: it may be left out for the lenient reader.
* `lt_of_isTerminator`, `lt_of_digit`: terminators and digits are ASCII.
-/

namespace Specimen.Pem

variable {b : UInt8}

/-! ## White space -/

theorem isTerminator_iff : isTerminator b = true ↔ b = 0x0A ∨ b = 0x0D := by
  simp [isTerminator]

theorem isBlank_of_isTerminator (h : isTerminator b = true) : isBlank b = true := by
  rcases isTerminator_iff.1 h with rfl | rfl <;> decide

theorem isBodySpace_of_isBlank (h : isBlank b = true) : isBodySpace b = true := by
  simp [isBodySpace, h]

/-- White space is foreign to base64. -/
theorem isForeign_of_isBodySpace (h : isBodySpace b = true) : Base64.isForeign b = true := by
  simp only [isBodySpace, isBlank, Bool.or_eq_true, beq_iff_eq] at h
  rcases h with ((((rfl | rfl) | rfl) | rfl) | rfl) | rfl <;> decide

theorem isForeign_of_isTerminator (h : isTerminator b = true) : Base64.isForeign b = true :=
  isForeign_of_isBodySpace (isBodySpace_of_isBlank (isBlank_of_isTerminator h))

theorem lt_of_isTerminator (h : isTerminator b = true) : b < 0x80 := by
  rcases isTerminator_iff.1 h with rfl | rfl <;> decide

/-- A terminator is not part of a mark. -/
theorem not_mem_of_isTerminator (h : isTerminator b = true) {mark : Octets} (hlf : 0x0A ∉ mark)
    (hcr : 0x0D ∉ mark) : b ∉ mark := by
  rcases isTerminator_iff.1 h with rfl | rfl
  · exact hlf
  · exact hcr

/-- Terminators may be left out for the lenient reader. -/
theorem decodeLenient_terminators (cs : Octets) :
    Base64.decodeLenient (cs.filter fun b => !isTerminator b) = Base64.decodeLenient cs :=
  Base64.decodeLenient_filter (fun _ h => isForeign_of_isTerminator (by simpa using h)) cs

/-- White space may be left out for the lenient reader. -/
theorem decodeLenient_spaces (cs : Octets) :
    Base64.decodeLenient (cs.filter fun b => !isBodySpace b) = Base64.decodeLenient cs :=
  Base64.decodeLenient_filter (fun _ h => isForeign_of_isBodySpace (by simpa using h)) cs

/-! ## Octets that are no white space -/

theorem isBodySpace_of_digit (h : Base64.isForeign b = false) : isBodySpace b = false := by
  rw [Bool.eq_false_iff]
  intro hs
  rw [isForeign_of_isBodySpace hs] at h
  exact absurd h (by decide)

theorem isBlank_of_digit (h : Base64.isForeign b = false) : isBlank b = false := by
  rw [Bool.eq_false_iff]
  intro hb
  rw [isForeign_of_isBodySpace (isBodySpace_of_isBlank hb)] at h
  exact absurd h (by decide)

theorem isTerminator_of_digit (h : Base64.isForeign b = false) : isTerminator b = false := by
  rw [Bool.eq_false_iff]
  intro ht
  rw [isForeign_of_isTerminator ht] at h
  exact absurd h (by decide)

theorem isTerminator_of_isLabelOctet (h : isLabelOctet b = true) : isTerminator b = false := by
  rw [Bool.eq_false_iff]
  intro ht
  rcases isTerminator_iff.1 ht with rfl | rfl <;> exact absurd h (by decide)

theorem lt_of_digit (h : Base64.isForeign b = false) : b < 0x80 := by
  by_cases hb : b < 0x80
  · exact hb
  · have hn : 128 ≤ b.toNat := by
      rw [UInt8.lt_iff_toNat_lt, Nat.not_lt] at hb
      exact hb
    have hp : b ≠ Base64.pad := by
      rintro rfl
      exact absurd hn (by decide)
    have hv : Base64.value? b = none := by
      unfold Base64.value?
      simp only
      repeat rw [if_neg (by omega)]
    rw [Base64.isForeign_iff.2 ⟨hp, hv⟩] at h
    exact absurd h (by decide)

end Specimen.Pem
