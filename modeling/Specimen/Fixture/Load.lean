import Specimen.Fixture
import Specimen.Pem.AllBlocks
import Specimen.Sha256
import Specimen.X509.Certificate

/-!
# Fixtures from certificates

A fixture is loaded from an armoured text: the text is ASCII, every complete block of it is in
order, and the first block labelled as a certificate holds one. Reading the certificate and
decoding its names are two steps; each can fail by itself.

* `ofCertificate` — the fixture of a certificate that has been read.
* `load_pem` — a fixture loaded from a text has that text.
-/

namespace Specimen

open X509

/-- Why no certificate or fixture can be had from a value. -/
inductive LoadFlaw where
  /-- An armoured text was expected. -/
  | notText (kind : Kind)
  /-- Plain octets were expected. -/
  | notOctets (kind : Kind)
  /-- Characters from `first` to `last` are not ASCII. -/
  | notAscii (char : Char) (first last : Nat)
  /-- The text has no block, or one that is out of order. -/
  | noBlocks
  /-- No block is labelled as a certificate. -/
  | noCertificate
  | certificate (flaw : CertificateFlaw)
  | name (flaw : NameFlaw)
  | fixture (flaw : FixtureFlaw)
  deriving DecidableEq, Repr

/-- The wording of a flaw. -/
def LoadFlaw.message : LoadFlaw → String
  | .notText kind => Text.quoted kind.name ++ " object has no attribute 'encode'"
  | .notOctets .none => "'None' is not an instance of 'bytes'"
  | .notOctets kind => Text.quoted kind.name ++ " object is not an instance of 'bytes'"
  | .notAscii c i j =>
    let place :=
      if i = j then
        "character '" ++ String.ofList (Text.escapeCode c.toNat) ++ "' in position " ++ toString i
      else "characters in position " ++ toString i ++ "-" ++ toString j
    "'ascii' codec can't encode " ++ place ++ ": ordinal not in range(128)"
  | .noBlocks => "Unable to load PEM file"
  | .noCertificate =>
    "Valid PEM but no BEGIN CERTIFICATE/END CERTIFICATE delimiters. " ++
      "Are you sure this is a certificate?"
  | .certificate flaw => flaw.message
  | .name flaw => flaw.message
  | .fixture flaw => flaw.message

/-- The octets of an ASCII text; otherwise the first run of characters that are not ASCII. -/
def asciiOctets (cs : List Char) : Except LoadFlaw Octets :=
  let ascii := fun c : Char => decide (c.toNat < 128)
  match cs.dropWhile ascii with
  | [] => .ok (cs.map fun c => c.toNat.toUInt8)
  | c :: rest =>
    let first := (cs.takeWhile ascii).length
    .error (.notAscii c first (first + (rest.takeWhile fun c => !ascii c).length))

/-- The labels of blocks that hold certificates. -/
def isCertificateLabel (label : Octets) : Bool :=
  label == Octets.ofAscii "CERTIFICATE" || label == Octets.ofAscii "X509 CERTIFICATE"

/-- The certificate in an armoured text. -/
def Certificate.ofArmour (text : List Char) : Except LoadFlaw Certificate := do
  let octets ← asciiOctets text
  match Pem.Block.all? octets with
  | none => .error .noBlocks
  | some [] => .error .noBlocks
  | some blocks =>
    match blocks.find? fun b => isCertificateLabel b.label with
    | none => .error .noCertificate
    | some b =>
      match Certificate.ofDer b.data with
      | .ok c => .ok c
      | .error flaw => .error (.certificate flaw)

/-- The certificate encoded by a value, which has to be plain octets. -/
def Certificate.ofValue : Value → Except LoadFlaw Certificate
  | .octets .fixed der =>
    match Certificate.ofDer der with
    | .ok c => .ok c
    | .error flaw => .error (.certificate flaw)
  | v => .error (.notOctets v.kind)

namespace Fixture

/-- The fixture of a certificate, its subject decoded before its issuer. -/
def ofCertificate (pem : String) (c : Certificate) : Except LoadFlaw Fixture :=
  match c.subjectText with
  | .error flaw => .error (.name flaw)
  | .ok subject =>
    match c.issuerText with
    | .error flaw => .error (.name flaw)
    | .ok issuer =>
      let values : Field → Value
        | .pem => .text pem
        | .der => .ofOctets c.der
        | .subject => .text subject
        | .issuer => .text issuer
        | .serialNumber => .text (Hex.ofInt c.serialNumber)
        | .sha256Fingerprint => .text (Hex.text (Sha256.digest c.der))
      match ofValues values with
      | .ok f => .ok f
      | .error flaw => .error (.fixture flaw)

/-- The fixture loaded from an armoured text. -/
def load (pem : String) : Except LoadFlaw Fixture := do
  let c ← Certificate.ofArmour pem.toList
  ofCertificate pem c

/-- The fixture loaded from a value, which has to be a text. -/
def loadValue : Value → Except LoadFlaw Fixture
  | .text pem => load pem
  | v => .error (.notText v.kind)

theorem ofCertificate_pem {pem : String} {c : Certificate} {f : Fixture}
    (h : ofCertificate pem c = .ok f) : f.pem = .text pem := by
  unfold ofCertificate at h
  split at h
  · simp at h
  · split at h
    · simp at h
    · simp only [ofValues] at h
      split at h
      · rename_i hv
        split at hv
        · simp only [Except.ok.injEq] at hv h
          rw [← h, ← hv]
        · simp at hv
      · simp at h

/-- A fixture loaded from a text has that text. -/
theorem load_pem {pem : String} {f : Fixture} (h : load pem = .ok f) : f.pem = .text pem := by
  unfold load at h
  cases hc : Certificate.ofArmour pem.toList with
  | error e => simp [hc, bind, Except.bind] at h
  | ok c => exact ofCertificate_pem (by simpa [hc, bind, Except.bind] using h)

end Fixture

end Specimen
