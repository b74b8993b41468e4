import Specimen.Fixture.Load

/-!
# Companion data

A companion file holds a certificate, either in its distinguished encoding or in armour, and
whichever it is, `toDer` gives the encoding. Which of the two data is taken for is decided first;
the certificate is read after that.

* `toDer_eq_ok_iff` — what comes out is a certificate.
-/

namespace Specimen

open X509

/-- The ways in which companion data comes. -/
inductive Encoding where
  | pem
  | der
  deriving DecidableEq, Repr

/-- The name of an encoding. -/
def Encoding.name : Encoding → String
  | .pem => "pem"
  | .der => "der"

/-- What is wrong with companion data. -/
inductive CompanionFlaw where
  /-- Octets were expected. -/
  | notOctets (kind : Kind)
  /-- The armour cannot be read. -/
  | armour (flaw : Pem.Flaw)
  /-- The armour is labelled as something else. -/
  | wrongLabel (label : Octets)
  /-- The data is no certificate. -/
  | notCertificate
  /-- The certificate has an unknown version. -/
  | version (number : Nat)
  deriving DecidableEq, Repr

/-- The name of a kind with the module it belongs to, if that is not the common one. -/
def Kind.qualifiedName : Kind → String
  | .path => "pathlib.PosixPath"
  | kind => kind.name

/-- The wording of a flaw. -/
def CompanionFlaw.message : CompanionFlaw → String
  | .notOctets kind => "byte_string must be a byte string, not " ++ kind.qualifiedName
  | .armour flaw => "Malformed PEM armour: " ++ flaw.message
  | .wrongLabel label =>
    "Expected a CERTIFICATE PEM block, got " ++ Text.quoted (Octets.toLatin label)
  | .notCertificate =>
    "Data is not a DER X.509 certificate: " ++ CertificateFlaw.malformed.message
  | .version n => (CertificateFlaw.version n).message

namespace Companion

/-- The label of armoured certificates. -/
def label : Octets := Octets.ofAscii "CERTIFICATE"

/-- How companion data is encoded, and the data without armour. -/
def unarmour (data : Octets) : Except CompanionFlaw (Encoding × Octets) :=
  if Pem.isArmoured data then
    match Pem.Block.first data with
    | .error flaw => .error (.armour flaw)
    | .ok block =>
      if block.label = label then .ok (.pem, block.data) else .error (.wrongLabel block.label)
  else .ok (.der, data)

/-- Nothing, if data is a certificate. -/
def check (der : Octets) : Except CompanionFlaw Unit :=
  match Certificate.ofDer der with
  | .ok _ => .ok ()
  | .error .malformed => .error .notCertificate
  | .error (.version n) => .error (.version n)

/-- The encoding of the certificate in companion data. -/
def toDer (data : Octets) : Except CompanionFlaw Octets :=
  match unarmour data with
  | .error flaw => .error flaw
  | .ok (_, der) =>
    match check der with
    | .error flaw => .error flaw
    | .ok () => .ok der

/-- The octets of a value that holds plain ones. -/
def octetsOf : Value → Except CompanionFlaw Octets
  | .octets .fixed data => .ok data
  | v => .error (.notOctets v.kind)

/-- What comes out is what the data holds without its armour, and a certificate. -/
theorem toDer_eq_ok_iff {data der : Octets} :
    toDer data = .ok der ↔ (∃ e, unarmour data = .ok (e, der)) ∧ check der = .ok () := by
  unfold toDer
  cases hu : unarmour data with
  | error flaw => simp
  | ok p =>
    obtain ⟨e, d⟩ := p
    cases hc : check d with
    | error flaw =>
      simp only [hc, Except.ok.injEq, Prod.mk.injEq]
      constructor
      · intro h; simp at h
      · rintro ⟨⟨e', -, rfl⟩, h⟩; simp [hc] at h
    | ok u =>
      simp only [hc, Except.ok.injEq, Prod.mk.injEq]
      constructor
      · rintro rfl; exact ⟨⟨e, rfl, rfl⟩, hc⟩
      · rintro ⟨⟨e', -, rfl⟩, -⟩; rfl

end Companion

end Specimen
