import Specimen.X509.Algorithm
import Specimen.X509.NameText

/-!
# Certificates

A certificate is read from the distinguished encoding alone: every part has to be in order, and no
octet may be left over. The contents of extensions are not looked at. The version is judged after
everything else.

* `Certificate.ofDer_der` — a certificate knows the octets it was read from.
-/

namespace Specimen.X509

open Der

/-- The versions of certificates. -/
inductive Version where
  | v1
  | v3
  deriving DecidableEq, Repr

/-- A certificate. -/
structure Certificate where
  /-- The octets it was read from. -/
  der : Octets
  version : Version
  /-- The content octets of the serial number. -/
  serial : Octets
  issuer : RawName
  subject : RawName
  deriving DecidableEq, Repr

/-- Why octets are no certificate. -/
inductive CertificateFlaw where
  /-- The encoding is not in order. -/
  | malformed
  /-- All is in order but for the version. -/
  | version (number : Nat)
  deriving DecidableEq, Repr

/-- The wording of a flaw. -/
def CertificateFlaw.message : CertificateFlaw → String
  | .malformed => "error parsing asn1 value"
  | .version n => toString n ++ " is not a valid X509 version"

/-- The parts of a certificate before its version is judged. -/
structure Draft where
  version : Nat
  serial : Octets
  issuer : RawName
  subject : RawName

/-- Reads the version number, which is 0 when it is left out and may not be written then. -/
def readVersion : Reader Nat := do
  match ← optional (.contextOuter 0) (within (.contextOuter 0) (readNatural 256)) with
  | some 0 => failure
  | some n => pure n
  | none => pure 0

/-- Reads an extension: its kind, whether it is critical, which is not written when it is not, and
a content that is not looked at. -/
def readExtension : Reader Unit :=
  within .sequence do
    let _ ← Oid.read
    if (← optional .boolean readBoolean) = some false then failure
    let _ ← readOctetString

/-- Reads the parts of a certificate that are signed. -/
def readDraft : Reader Draft :=
  within .sequence do
    let version ← readVersion
    let serial ← readInteger
    let _ ← readAlgorithm
    let issuer ← readName
    within .sequence do
      let _ ← readTime
      let _ ← readTime
    let subject ← readName
    within .sequence do
      let _ ← readAlgorithm
      let _ ← readBitString
    let _ ← optional (.contextInner 1) (contentAs (.contextInner 1) bitString?)
    let _ ← optional (.contextInner 2) (contentAs (.contextInner 2) bitString?)
    let _ ← optional (.contextOuter 3)
      (within (.contextOuter 3) (contentAs .sequence (many readExtension)))
    pure ⟨version, serial, issuer, subject⟩

/-- Reads a certificate: the signed parts, the algorithm of the signature, and the signature. -/
def readCertificate : Reader Draft :=
  within .sequence do
    let draft ← readDraft
    let _ ← readAlgorithm
    let _ ← readBitString
    pure draft

/-- The version with a given number. -/
def Version.ofNumber? : Nat → Option Version
  | 0 => some .v1
  | 2 => some .v3
  | _ => none

/-- The name of a version. -/
def Version.name : Version → String
  | .v1 => "v1"
  | .v3 => "v3"

/-- The certificate that octets encode. -/
def Certificate.ofDer (der : Octets) : Except CertificateFlaw Certificate :=
  match whole readCertificate der with
  | none => .error .malformed
  | some d =>
    match Version.ofNumber? d.version with
    | none => .error (.version d.version)
    | some v => .ok ⟨der, v, d.serial, d.issuer, d.subject⟩

/-- The serial number. -/
def Certificate.serialNumber (c : Certificate) : Int :=
  integerValue c.serial

/-- The text of the subject, if its attributes can be decoded. -/
def Certificate.subjectText (c : Certificate) : Except NameFlaw String :=
  (Name.ofRaw c.subject).map Name.text

/-- The text of the issuer, if its attributes can be decoded. -/
def Certificate.issuerText (c : Certificate) : Except NameFlaw String :=
  (Name.ofRaw c.issuer).map Name.text

/-- A certificate knows the octets it was read from. -/
theorem Certificate.ofDer_der {bs : Octets} {c : Certificate} (h : Certificate.ofDer bs = .ok c) :
    c.der = bs := by
  unfold Certificate.ofDer at h
  split at h
  · simp at h
  · split at h
    · simp at h
    · simp only [Except.ok.injEq] at h; rw [← h]

end Specimen.X509
