import Specimen.Pem.Armour
import Specimen.Proofs.Decoding
import Specimen.Proofs.Load
import Specimen.Proofs.Truncation

/-!
# How loading a text ends

Loading takes a text apart in five stages: its characters, its blocks, the encoding of the
certificate, its version, and its two names. A text with a fault in it is meant to be refused, and
all but two faults are told of as refusals. An unknown version and a bit string in the wrong
attribute are told of otherwise.

* `Fixture.load_cases`: every end of loading, and which texts come to it.
* `Fixture.loading_foreseen_iff`: a text is loaded or refused, unless its certificate has one of
  the two faults.
* `Fixture.unforeseen_faults`: certificates that have them.
-/

namespace Specimen

open X509

/-- The flaws that are told of as a refusal of the text. -/
def LoadFlaw.isRefusal : LoadFlaw → Bool
  | .notAscii _ _ _ | .noBlocks | .noCertificate => true
  | .certificate .malformed => true
  | .certificate (.version _) => false
  | .name .unreadable | .name .empty | .name .duplicate => true
  | .name .misplacedBits => false
  | .fixture .emptyDer => true
  | .fixture _ | .notText _ | .notOctets _ => false

theorem LoadFlaw.isRefusal_name_iff {flaw : NameFlaw} :
    (LoadFlaw.name flaw).isRefusal = true ↔ flaw ≠ .misplacedBits := by
  cases flaw <;> simp [isRefusal]

namespace Fixture

variable {text : String} {b : Pem.Block} {c : Certificate}

/-! ## The block that is loaded -/

/-- The text is ASCII, its blocks are in order, and `b` is the first one labelled as a
certificate. -/
def HoldsBlock (text : String) (b : Pem.Block) : Prop :=
  ∃ octets blocks, asciiOctets text.toList = .ok octets ∧ Pem.Block.all? octets = some blocks ∧
    blocks.find? (fun b => isCertificateLabel b.label) = some b

theorem ofArmour_of_holdsBlock (h : HoldsBlock text b) :
    Certificate.ofArmour text.toList = (Certificate.ofDer b.data).mapError .certificate := by
  obtain ⟨octets, blocks, ha, hall, hf⟩ := h
  have hne : blocks ≠ [] := by
    rintro rfl
    cases hf
  unfold Certificate.ofArmour
  simp only [ha, hall, hf, bind, Except.bind]
  cases Certificate.ofDer b.data <;> rfl

/-- Without such a block a text is refused. -/
theorem holdsBlock_or_refused (text : String) : (∃ b, HoldsBlock text b) ∨
    ∃ flaw, Certificate.ofArmour text.toList = .error flaw ∧ flaw.isRefusal = true := by
  unfold Certificate.ofArmour
  cases ha : asciiOctets text.toList with
  | error flaw =>
    refine .inr ⟨flaw, rfl, ?_⟩
    unfold asciiOctets at ha
    dsimp only at ha
    split at ha
    · cases ha
    · cases ha
      rfl
  | ok octets =>
    simp only [bind, Except.bind]
    cases hall : Pem.Block.all? octets with
    | none => exact .inr ⟨.noBlocks, rfl, rfl⟩
    | some blocks =>
      cases hf : blocks.find? fun b => isCertificateLabel b.label with
      | some b => exact .inl ⟨b, octets, blocks, ha, hall, hf⟩
      | none =>
        cases blocks with
        | nil => exact .inr ⟨.noBlocks, rfl, rfl⟩
        | cons b bs =>
          refine .inr ⟨.noCertificate, ?_, rfl⟩
          simp only [hf]

/-! ## Faults that are told of otherwise -/

/-- The certificate in the text is in order but for its version, which is neither 0 nor 2. -/
def HoldsUnknownVersion (text : String) : Prop :=
  ∃ b draft, HoldsBlock text b ∧ Der.whole readCertificate b.data = some draft ∧
    draft.version ≠ 0 ∧ draft.version ≠ 2

/-- The certificate in the text is in order, but its subject misplaces a bit string, or the subject
can be decoded and the issuer misplaces one. -/
def HoldsMisplacedBits (text : String) : Prop :=
  ∃ b c, HoldsBlock text b ∧ Certificate.ofDer b.data = .ok c ∧
    (Name.MisplacesBits c.subject ∨
      (Name.ofRaw c.subject).isOk = true ∧ Name.MisplacesBits c.issuer)

/-! ## The fixture of a certificate -/

/-- Nothing but a flaw in a name keeps a certificate from giving a fixture. -/
theorem ofCertificate_cases (pem : String) (hc : c.der ≠ []) :
    (∃ f, ofCertificate pem c = .ok f) ∨ ∃ flaw, ofCertificate pem c = .error (.name flaw) := by
  unfold ofCertificate
  cases c.subjectText with
  | error flaw => exact .inr ⟨flaw, rfl⟩
  | ok subject =>
    cases c.issuerText with
    | error flaw => exact .inr ⟨flaw, rfl⟩
    | ok issuer =>
      have htrue : (Value.ofOctets c.der).isTruthy = true := by
        simpa [Value.ofOctets, Value.isTruthy] using hc
      exact .inl ⟨⟨.text pem, .ofOctets c.der, .text subject, .text issuer,
        .text (Hex.ofInt c.serialNumber), .text (Hex.text (Sha256.digest c.der)), htrue⟩,
        by simp [ofValues, htrue]⟩

/-- The subject is decoded before the issuer. -/
theorem ofCertificate_eq_name_iff {pem : String} {flaw : NameFlaw} :
    ofCertificate pem c = .error (.name flaw) ↔ Name.ofRaw c.subject = .error flaw ∨
      (Name.ofRaw c.subject).isOk = true ∧ Name.ofRaw c.issuer = .error flaw := by
  unfold ofCertificate Certificate.subjectText Certificate.issuerText
  cases Name.ofRaw c.subject with
  | error e => simp [Except.map, Except.isOk, Except.toBool]
  | ok subject =>
    cases Name.ofRaw c.issuer with
    | error e => simp [Except.map, Except.isOk, Except.toBool]
    | ok issuer =>
      refine iff_of_false ?_ (by simp)
      simp only [Except.map]
      split
      · nofun
      · nofun

/-! ## The ends of loading -/

theorem load_of_error {flaw : CertificateFlaw} (h : HoldsBlock text b)
    (hc : Certificate.ofDer b.data = .error flaw) : load text = .error (.certificate flaw) := by
  unfold load
  rw [ofArmour_of_holdsBlock h, hc]
  rfl

theorem load_of_ok (h : HoldsBlock text b) (hc : Certificate.ofDer b.data = .ok c) :
    load text = ofCertificate text c := by
  unfold load
  rw [ofArmour_of_holdsBlock h, hc]
  rfl

/-- A text is loaded, refused, or found to have one of the two faults. -/
theorem load_cases (text : String) :
    (∃ f d, load text = .ok f ∧ f.der = .ofOctets d ∧ d ≠ [] ∧ (Certificate.ofDer d).isOk = true) ∨
    (∃ flaw, load text = .error flaw ∧ flaw.isRefusal = true) ∨
    (∃ n, load text = .error (.certificate (.version n)) ∧ HoldsUnknownVersion text) ∨
    load text = .error (.name .misplacedBits) ∧ HoldsMisplacedBits text := by
  rcases holdsBlock_or_refused text with ⟨b, hb⟩ | ⟨flaw, hflaw, href⟩
  · rcases Certificate.ofDer_cases b.data with ⟨c, hc⟩ | ⟨hc, -⟩ | ⟨draft, hc, hw, hv⟩
    · have hder := Certificate.ofDer_der hc
      have hok : (Certificate.ofDer c.der).isOk = true := by
        rw [hder, hc]
        rfl
      have hne : c.der ≠ [] := Certificate.ne_nil_of_isOk hok
      rcases ofCertificate_cases text hne with ⟨f, hf⟩ | ⟨flaw, hflaw⟩
      · have hload := (load_of_ok hb hc).trans hf
        exact .inl ⟨f, c.der, hload, (ofCertificate_eq_ok_iff.1 hf).2.1, hne, hok⟩
      · have hload := (load_of_ok hb hc).trans hflaw
        by_cases hbits : flaw = .misplacedBits
        · subst hbits
          have hwhere := ofCertificate_eq_name_iff.1 hflaw
          rw [Name.ofRaw_eq_misplaced_iff, Name.ofRaw_eq_misplaced_iff] at hwhere
          exact .inr (.inr (.inr ⟨hload, b, c, hb, hc, hwhere⟩))
        · exact .inr (.inl ⟨_, hload, LoadFlaw.isRefusal_name_iff.2 hbits⟩)
    · exact .inr (.inl ⟨_, load_of_error hb hc, rfl⟩)
    · exact .inr (.inr (.inl ⟨_, load_of_error hb hc, b, draft, hb, hw, hv⟩))
  · refine .inr (.inl ⟨flaw, ?_, href⟩)
    unfold load
    rw [hflaw]
    rfl

theorem load_eq_version_iff :
    (∃ n, load text = .error (.certificate (.version n))) ↔ HoldsUnknownVersion text := by
  constructor
  · rintro ⟨n, hn⟩
    rcases load_cases text with ⟨f, d, h, -⟩ | ⟨flaw, h, href⟩ | ⟨n, -, h⟩ | ⟨h, -⟩
    · cases hn.symm.trans h
    · cases hn.symm.trans h
      cases href
    · exact h
    · cases hn.symm.trans h
  · rintro ⟨b, draft, hb, hw, hv⟩
    refine ⟨draft.version, load_of_error hb ?_⟩
    simp [Certificate.ofDer, hw, Version.ofNumber?_eq_none.2 hv]

theorem load_eq_misplaced_iff :
    load text = .error (.name .misplacedBits) ↔ HoldsMisplacedBits text := by
  constructor
  · intro hl
    rcases load_cases text with ⟨f, d, h, -⟩ | ⟨flaw, h, href⟩ | ⟨n, h, -⟩ | ⟨-, h⟩
    · cases hl.symm.trans h
    · cases hl.symm.trans h
      cases href
    · cases hl.symm.trans h
    · exact h
  · rintro ⟨b, c, hb, hc, hwhere⟩
    rw [load_of_ok hb hc, ofCertificate_eq_name_iff, Name.ofRaw_eq_misplaced_iff,
      Name.ofRaw_eq_misplaced_iff]
    exact hwhere

/-- **The ends of loading.** A text is loaded or refused, unless its certificate has an unknown
version or misplaces a bit string in a name; each of these is told of by its own flaw. A fixture
that is loaded keeps the text, and its encoding is that of a certificate. -/
theorem loading_foreseen_iff (text : String) :
    (((∃ f d, load text = .ok f ∧ f.pem = .text text ∧ f.der = .ofOctets d ∧ d ≠ [] ∧
          (Certificate.ofDer d).isOk = true) ∨
        ∃ flaw, load text = .error flaw ∧ flaw.isRefusal = true) ↔
      ¬ (HoldsUnknownVersion text ∨ HoldsMisplacedBits text)) ∧
    ((∃ n, load text = .error (.certificate (.version n))) ↔ HoldsUnknownVersion text) ∧
    (load text = .error (.name .misplacedBits) ↔ HoldsMisplacedBits text) := by
  refine ⟨?_, load_eq_version_iff, load_eq_misplaced_iff⟩
  rw [← load_eq_version_iff, ← load_eq_misplaced_iff]
  rcases load_cases text with ⟨f, d, h, hd⟩ | ⟨flaw, h, href⟩ | ⟨n, h, -⟩ | ⟨h, -⟩
  · exact iff_of_true (.inl ⟨f, d, h, load_pem h, hd⟩) (by simp [h])
  · refine iff_of_true (.inr ⟨flaw, h, href⟩) ?_
    rw [h]
    rintro (⟨n, hn⟩ | hn)
    · cases hn
      cases href
    · cases hn
      cases href
  · refine iff_of_false ?_ (not_not_intro (.inl ⟨n, h⟩))
    rw [h]
    rintro (⟨f, d, hf, -⟩ | ⟨flaw, hflaw, href⟩)
    · cases hf
    · cases hflaw
      cases href
  · refine iff_of_false ?_ (not_not_intro (.inr h))
    rw [h]
    rintro (⟨f, d, hf, -⟩ | ⟨flaw, hflaw, href⟩)
    · cases hf
    · cases hflaw
      cases href

/-- A certificate in armour whose version is unknown. -/
def unknownVersionSample : Octets :=
  Pem.armour Companion.label (Sample.certificateOfVersion 1 (Octets.ofAscii "S"))

/-- A certificate in armour with a bit string for a common name. -/
def misplacedBitsSample : Octets :=
  Pem.armour Companion.label
    (Sample.certificateOf [0x01] (Sample.name (Octets.ofAscii "I"))
      (Sample.nameOf [0x55, 0x04, 0x03] 0x03 [0x00, 0x41]))

theorem load_unknownVersionSample :
    load (Octets.toLatin unknownVersionSample) = .error (.certificate (.version 1)) := by
  have harmour : Certificate.ofArmour (unknownVersionSample.map fun b => Char.ofNat b.toNat) =
      .error (.certificate (.version 1)) := by decide +kernel
  rw [load_toLatin, harmour]
  rfl

theorem load_misplacedBitsSample :
    load (Octets.toLatin misplacedBitsSample) = .error (.name .misplacedBits) := by
  have hsubject : (Certificate.ofArmour (misplacedBitsSample.map fun b => Char.ofNat b.toNat)).map
      (fun c => Name.ofRaw c.subject) = .ok (.error .misplacedBits) := by decide +kernel
  rw [load_toLatin]
  cases hc : Certificate.ofArmour (misplacedBitsSample.map fun b => Char.ofNat b.toNat) with
  | error flaw =>
    rw [hc] at hsubject
    cases hsubject
  | ok c =>
    rw [hc] at hsubject
    exact ofCertificate_eq_name_iff.2 (.inl (Except.ok.inj hsubject))

theorem loading_foreseen_iff_sample :
    HoldsUnknownVersion (Octets.toLatin unknownVersionSample) ∧
    HoldsMisplacedBits (Octets.toLatin misplacedBitsSample) ∧
    ¬ ∃ flaw, load (Octets.toLatin misplacedBitsSample) = .error flaw ∧ flaw.isRefusal = true := by
  obtain ⟨-, hversion, -⟩ := loading_foreseen_iff (Octets.toLatin unknownVersionSample)
  obtain ⟨hends, -, hbits⟩ := loading_foreseen_iff (Octets.toLatin misplacedBitsSample)
  have hmisplaced := hbits.1 load_misplacedBitsSample
  refine ⟨hversion.1 ⟨1, load_unknownVersionSample⟩, hmisplaced, ?_⟩
  intro href
  exact hends.1 (.inr href) (.inr hmisplaced)

/-- A text with a certificate of version 2, or with a bit string for a common name, is not loaded,
and neither is it refused as a text with a fault in it is meant to be. -/
theorem unforeseen_faults :
    (load (Octets.toLatin unknownVersionSample) = .error (.certificate (.version 1)) ∧
      (LoadFlaw.certificate (.version 1)).isRefusal = false) ∧
    load (Octets.toLatin misplacedBitsSample) = .error (.name .misplacedBits) ∧
      (LoadFlaw.name .misplacedBits).isRefusal = false :=
  ⟨⟨load_unknownVersionSample, rfl⟩, load_misplacedBitsSample, rfl⟩

end Fixture

end Specimen
