import Specimen.X509.Certificate

/-!
# Sample certificates

Certificates of a hundred octets or so, which differ in the version they name, in the serial number
and in the names. They serve where a statement is shown to speak of something.

* `certificate`: the encoding of a certificate with given subject.
* `certificateOfVersion`: the same, with the content of the version element.
* `certificateOf`: a certificate with the content of the serial number and with both names.
* `identified`: a certificate as it is read, with unique identifiers for its names.
-/

namespace Specimen.Sample

/-- The octets of a length below 65536. -/
def lengthOctets (n : Nat) : Octets :=
  if n < 0x80 then [n.toUInt8]
  else if n < 0x100 then [0x81, n.toUInt8]
  else [0x82, (n / 0x100).toUInt8, n.toUInt8]

/-- An element with a tag of one octet. -/
def element (tag : UInt8) (content : Octets) : Octets :=
  tag :: lengthOctets content.length ++ content

/-- A sequence of elements. -/
def sequence (elements : List Octets) : Octets :=
  element 0x30 elements.flatten

/-- The identifier of a signature algorithm without parameters. -/
def algorithm : Octets :=
  sequence [element 0x06 [0x2B, 0x65, 0x70]]

/-- A name with a common name only. -/
def name (common : Octets) : Octets :=
  sequence [element 0x31 (sequence [element 0x06 [0x55, 0x04, 0x03], element 0x0C common])]

/-- A time in January, in a year of two digits. -/
def time (year : String) : Octets :=
  element 0x17 (Octets.ofAscii year ++ Octets.ofAscii "0101000000Z")

/-- A certificate whose version element holds the given number. -/
def certificateOfVersion (version : UInt8) (subject : Octets) : Octets :=
  let signed := sequence
    [element 0xA0 (element 0x02 [version]), element 0x02 [0x01], algorithm,
      name (Octets.ofAscii "I"), sequence [time "20", time "30"], name subject,
      sequence [algorithm, element 0x03 [0x00, 0x01, 0x02]]]
  sequence [signed, algorithm, element 0x03 (0x00 :: Octets.ofAscii "sigsigsi")]

/-- A certificate of version 3. -/
def certificate (subject : Octets) : Octets :=
  certificateOfVersion 2 subject

/-- A name with a single attribute: its kind, and its value under a tag. -/
def nameOf (kind : Octets) (tag : UInt8) (value : Octets) : Octets :=
  sequence [element 0x31 (sequence [element 0x06 kind, element tag value])]

/-- A certificate of version 3 with a given serial number and given names. -/
def certificateOf (serial issuer subject : Octets) : Octets :=
  let signed := sequence
    [element 0xA0 (element 0x02 [0x02]), element 0x02 serial, algorithm, issuer,
      sequence [time "20", time "30"], subject,
      sequence [algorithm, element 0x03 [0x00, 0x01, 0x02]]]
  sequence [signed, algorithm, element 0x03 (0x00 :: Octets.ofAscii "sigsigsi")]

/-- A certificate with unique identifiers for its names, both of the same type. -/
def identified (serial : Octets) (kind : UInt8) (issuer subject : Octets) : X509.Certificate where
  der := certificateOf serial (nameOf [0x55, 0x04, 0x2D] kind issuer)
    (nameOf [0x55, 0x04, 0x2D] kind subject)
  version := .v3
  serial := serial
  issuer := [[⟨X509.uniqueIdentifier, .primitive kind.toNat, issuer⟩]]
  subject := [[⟨X509.uniqueIdentifier, .primitive kind.toNat, subject⟩]]

end Specimen.Sample
