import Mathlib.Data.List.TakeWhile
import Specimen.Fixture.Load

/-!
# Loading, step by step

* `Certificate.ofDer_cases`: the three ends of reading a certificate.
* `asciiOctets_eq_ok_iff`: the texts that have octets, and the octets they have.
* `ofArmour_eq_ok_iff`: which certificate an armoured text holds.
* `ofCertificate_eq_ok_iff`: the fixture of a certificate, field by field.
* `ofCertificate_replacePem`: the armoured text is only kept, and decides about nothing else.
-/

namespace Specimen

open X509

theorem isOk_iff_exists {ε α : Type} {r : Except ε α} : r.isOk = true ↔ ∃ a, r = .ok a := by
  cases r <;> simp [Except.isOk, Except.toBool]

namespace X509

theorem Version.ofNumber?_eq_none {n : Nat} :
    Version.ofNumber? n = none ↔ n ≠ 0 ∧ n ≠ 2 := by
  unfold Version.ofNumber?
  split <;> simp_all

/-- The octets are a certificate, or out of order, or in order but for the version. -/
theorem Certificate.ofDer_cases (der : Octets) :
    (∃ c, ofDer der = .ok c) ∨
    (ofDer der = .error .malformed ∧ Der.whole readCertificate der = none) ∨
    ∃ draft, ofDer der = .error (.version draft.version) ∧
      Der.whole readCertificate der = some draft ∧ draft.version ≠ 0 ∧ draft.version ≠ 2 := by
  unfold ofDer
  cases hw : Der.whole readCertificate der with
  | none => exact .inr (.inl ⟨rfl, rfl⟩)
  | some draft =>
    cases hv : Version.ofNumber? draft.version with
    | none => exact .inr (.inr ⟨draft, by simp [hv], rfl, Version.ofNumber?_eq_none.1 hv⟩)
    | some v => exact .inl ⟨_, by simp only [hv]; rfl⟩

end X509

theorem asciiOctets_eq_ok_iff {cs : List Char} {bs : Octets} :
    asciiOctets cs = .ok bs ↔
      (∀ c ∈ cs, c.toNat < 128) ∧ cs.map (fun c => c.toNat.toUInt8) = bs := by
  have hall : cs.dropWhile (fun c => decide (c.toNat < 128)) = [] ↔ ∀ c ∈ cs, c.toNat < 128 := by
    simp [List.dropWhile_eq_nil_iff]
  rw [← hall]
  simp only [asciiOctets]
  cases cs.dropWhile fun c => decide (c.toNat < 128) with
  | nil => simp
  | cons c rest => simp

/-- The octets of a text are ASCII as the text is. -/
theorem lt_of_asciiOctets {cs : List Char} {bs : Octets} (h : asciiOctets cs = .ok bs) :
    ∀ b ∈ bs, b < 0x80 := by
  obtain ⟨hall, rfl⟩ := asciiOctets_eq_ok_iff.1 h
  intro b hb
  obtain ⟨c, hc, rfl⟩ := List.mem_map.1 hb
  have hlt := hall c hc
  rw [UInt8.lt_iff_toNat_lt]
  show c.toNat.toUInt8.toNat < 128
  rw [UInt8.toNat_ofNat']
  omega

/-- ASCII octets are the octets of the text that they write. -/
theorem asciiOctets_toLatin {bs : Octets} (h : ∀ b ∈ bs, b < 0x80) :
    asciiOctets (Octets.toLatin bs).toList = .ok bs := by
  have hnat : ∀ b : UInt8, (Char.ofNat b.toNat).toNat = b.toNat := by
    intro b
    have hb := b.toNat_lt
    have hv : b.toNat.isValidChar := .inl (by omega)
    rw [Char.ofNat, dif_pos hv]
    rfl
  rw [asciiOctets_eq_ok_iff, Octets.toLatin, String.toList_ofList]
  refine ⟨?_, ?_⟩
  · intro c hc
    obtain ⟨b, hb, rfl⟩ := List.mem_map.1 hc
    rw [hnat]
    exact UInt8.lt_iff_toNat_lt.1 (h b hb)
  · simp [Function.comp_def, hnat]

/-- An armoured text holds the certificate in the first block with a certificate's label, if all
blocks are in order. -/
theorem ofArmour_eq_ok_iff {text : List Char} {c : Certificate} :
    Certificate.ofArmour text = .ok c ↔ ∃ octets blocks b, asciiOctets text = .ok octets ∧
      Pem.Block.all? octets = some blocks ∧
      blocks.find? (fun b => isCertificateLabel b.label) = some b ∧
      Certificate.ofDer b.data = .ok c := by
  unfold Certificate.ofArmour
  cases ha : asciiOctets text with
  | error e => simp [bind, Except.bind]
  | ok octets =>
    simp only [bind, Except.bind, Except.ok.injEq]
    cases hall : Pem.Block.all? octets with
    | none => simp [hall]
    | some blocks =>
      cases blocks with
      | nil => simp [hall]
      | cons b bs =>
        cases hf : (b :: bs).find? fun b => isCertificateLabel b.label with
        | none => simp [hall, hf]
        | some b' =>
          cases hd : Certificate.ofDer b'.data with
          | error flaw => simp [hall, hf, hd]
          | ok c' => simp [hall, hf, hd]

namespace Fixture

theorem load_eq_ok_iff {pem : String} {f : Fixture} :
    load pem = .ok f ↔
      ∃ c, Certificate.ofArmour pem.toList = .ok c ∧ ofCertificate pem c = .ok f := by
  unfold load
  cases Certificate.ofArmour pem.toList with
  | error e => simp [bind, Except.bind]
  | ok c => simp [bind, Except.bind]

theorem load_toLatin (text : Octets) :
    load (Octets.toLatin text) =
      Certificate.ofArmour (text.map fun b => Char.ofNat b.toNat) >>=
        ofCertificate (Octets.toLatin text) := by
  simp [load, Octets.toLatin]

/-- The fixture of a certificate, field by field. -/
theorem ofCertificate_eq_ok_iff {pem : String} {c : Certificate} {f : Fixture} :
    ofCertificate pem c = .ok f ↔ f.pem = .text pem ∧ f.der = .ofOctets c.der ∧
      (∃ s, c.subjectText = .ok s ∧ f.subject = .text s) ∧
      (∃ s, c.issuerText = .ok s ∧ f.issuer = .text s) ∧
      f.serialNumber = .text (Hex.ofInt c.serialNumber) ∧
      f.sha256Fingerprint = .text (Hex.text (Sha256.digest c.der)) := by
  unfold ofCertificate
  cases hs : c.subjectText with
  | error flaw => simp
  | ok subject =>
    cases hi : c.issuerText with
    | error flaw => simp
    | ok issuer =>
      simp only [Except.ok.injEq, exists_eq_left']
      constructor
      · intro h
        split at h
        · rename_i g hg
          simp only [Except.ok.injEq] at h
          have hv := ofValues_eq_ok_iff.1 (h ▸ hg)
          exact ⟨hv .pem, hv .der, hv .subject, hv .issuer, hv .serialNumber,
            hv .sha256Fingerprint⟩
        · simp at h
      · rintro ⟨hp, hd, hsub, hiss, hn, hf⟩
        rw [ofValues_eq_ok_iff.2 fun k => ?_]
        cases k <;> assumption

/-- The armoured text is only kept. -/
theorem ofCertificate_replacePem {pem : String} {c : Certificate} {g : Fixture}
    (h : ofCertificate pem c = .ok g) (pem' : String) :
    ofCertificate pem' c = .ok { g with pem := .text pem' } := by
  obtain ⟨-, hd, hs, hi, hn, hf⟩ := ofCertificate_eq_ok_iff.1 h
  exact ofCertificate_eq_ok_iff.2 ⟨rfl, hd, hs, hi, hn, hf⟩

end Fixture

end Specimen
