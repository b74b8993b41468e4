import Specimen.Companion.File

/-!
# Providers

A provider serves a fixture, the embedded one unless it is given another, and looks after its
companion file. It also turns hex strings into octets and streams.

* `companionMatches` — whether the companion file holds the provider's certificate.
* `ofSettings_certificatePath` — a provider made from settings has their path.
-/

namespace Specimen

open Run

/-- A provider. -/
structure Provider where
  /-- Tells providers apart. -/
  number : Nat
  folder : Path
  filename : Value
  /-- The fixture, if it is not the embedded one. -/
  given : Option Fixture := none

namespace Provider

/-- The fixture that a provider serves. -/
def fixture (p : Provider) : Fixture :=
  p.given.getD Embedded.fixture

/-- The path a value stands for. -/
def folderOf : Value → Except CallFlaw Path
  | .text s => .ok (Path.ofText s)
  | .path p => .ok p
  | .octets .fixed _ => .error .octetsPath
  | v => .error (.notPath v.kind)

/-- The provider that settings describe. -/
def ofSettings (number : Nat) (s : Settings) : Provider :=
  { number, folder := s.resourceFolder, filename := .text s.certificateFilename }

/-- Where the companion file is. -/
def certificatePath (p : Provider) : Except CallFlaw Path :=
  Companion.joinPath p.folder p.filename

/-- Opens the companion file for reading. -/
def openCompanion (p : Provider) : Run Stream := do
  let path ← ofExcept .call p.certificatePath
  Companion.openFile path

/-- The certificate in the companion file. -/
def companionDer (p : Provider) : Run Octets := do
  let path ← ofExcept .call p.certificatePath
  Companion.read path

/-- Whether the companion file holds the same certificate as the fixture. -/
def companionMatches (p : Provider) : Run Bool := do
  let der ← p.companionDer
  pure ((Value.ofOctets der).same p.fixture.der)

/-- Writes the companion file anew. -/
def writeCompanion (p : Provider) : Run Path :=
  Companion.write p.folder p.fixture p.filename

/-- The fixture's certificate, read afresh. -/
def certificate (p : Provider) : Except LoadFlaw X509.Certificate :=
  Certificate.ofValue p.fixture.der

/-- A stream over the octets that pieces of a hex string write. -/
def streamOf (parts : Value) : Except Hex.InputFlaw Stream :=
  (Hex.decodeParts parts).map .ofOctets

/-- A provider made from settings has their path. -/
theorem ofSettings_certificatePath (number : Nat) (s : Settings) :
    (ofSettings number s).certificatePath = .ok s.certificatePath := rfl

end Provider

end Specimen
