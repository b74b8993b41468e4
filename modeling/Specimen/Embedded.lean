import Specimen.Fixture.Load
import Specimen.Pem.Armour

/-!
# The embedded certificate

One certificate comes with the library: an end-entity certificate with the common name `EE2`,
issued by a test authority and valid for thirty minutes of 2011. Nothing here judges it; it is
there to be read, written and compared. Its armour is written by the library itself.

* `loaded_isOk` — the armoured certificate loads.
* `load_fixture` — the fixture is what loading it gives.
-/

namespace Specimen.Embedded

/-- The encoded certificate in groups of thirty-two octets, its last octet left out. -/
def groups : List Nat :=
  [0x3082033d30820225a003020102020103300d06092a864886f70d010104050030,
    0x3d31133011060a0992268993f22c64011916036f726731193017060a09922689,
    0x93f22c6401191609727562792d6c616e67310b300906035504030c024341301e,
    0x170d3131313032393135333633325a170d3131313032393136303633325a303e,
    0x31133011060a0992268993f22c64011916036f726731193017060a0992268993,
    0xf22c6401191609727562792d6c616e67310c300a06035504030c034545323081,
    0x9f300d06092a864886f70d010101050003818d0030818902818100cbc2c4b0d4,
    0x40a73ed4fe3e43a01e170603bd67c02dbf9cbf395411a746a0f13aa8d587b0b1,
    0x68a3c44581ec93804f0a41376ebb5384f59cf648c711043bb9ff58d6b6c2cf49,
    0x5ac8da87cb2c101152c59a9d5ca48b7f43781e2eff190fda62868c0a243c8c0e,
    0x237a02b614999733bd6e3defa314dfe979e04ea517f25f144539870203010001,
    0xa381ca3081c7300e0603551d0f0101ff0404030205e0301d0603551d0e041604,
    0x14d1fef9fbf8ae1bc160cbfa03e2596dd873089213304f0603551d2304483046,
    0xa141a43f303d31133011060a0992268993f22c64011916036f72673119301706,
    0x0a0992268993f22c6401191609727562792d6c616e67310b300906035504030c,
    0x02434182010130270603551d250420301e06082b0601050507030206082b0601,
    0x050507030406082b06010505070303301c0603551d1104153013811165653240,
    0x727562792d6c616e672e6f7267300d06092a864886f70d010104050003820101,
    0x0012c92804bd9d7148de274fddd5d7b3c9f880b06b587c9a69c925c278fc82f5,
    0x6836d61020809738363fcd02edcdf8f1490c65ace52d9f4b984f325435cf8d2d,
    0xf73c1337150e19925a1abe9ac08513284be7e90171e163d9923c7fd3ae43cee6,
    0xcf2d72a84d63c4fd5fb060d9dc2aa7cbcea326fc11ccf5ba3643ed905cd2e996,
    0x1ed3d0d70d99d4b993fc915a67e0f8adbc79a3fd754a9782c6c65ade6d17aa22,
    0x7fa6d8ae3abb15244040e193b475e92025e8df765bbbc8fe55ebf7c69575f178,
    0x3b39abce8a6fb7e5db8edbc9ced0cd8691b41bf71e9618003b3371fdeab7c25f,
    0x3da8721afbdbef55b159d017585076a2cfeeb8ffd2aac0101e03ae89ea4ee5ec]

/-- The octets of a group. -/
def octetsOfGroup (n : Nat) : Octets :=
  (List.range 32).map fun i => (n / Nat.pow 256 (31 - i)).toUInt8

/-- The encoded certificate. -/
def der : Octets :=
  groups.flatMap octetsOfGroup ++ [0x2D]

/-- The armoured certificate. -/
def pem : String :=
  Octets.toLatin (Pem.armour (Octets.ofAscii "CERTIFICATE") der)

/-- What loading the armoured certificate gives. -/
def loaded : Except LoadFlaw Fixture :=
  Fixture.load pem

theorem loaded_eq : loaded =
    Certificate.ofArmour ((Pem.armour (Octets.ofAscii "CERTIFICATE") der).map fun b =>
      Char.ofNat b.toNat) >>= Fixture.ofCertificate pem := by
  simp [loaded, Fixture.load, pem, Octets.toLatin]

/-- The armoured certificate loads. -/
theorem loaded_isOk : loaded.isOk = true := by
  rw [loaded_eq]
  decide +kernel

/-- The value of a result that is in order. -/
def valueOf (r : Except ε α) (h : r.isOk = true) : α :=
  match r with
  | .ok a => a
  | .error _ => absurd h (by simp [Except.isOk, Except.toBool])

theorem eq_ok_valueOf (r : Except ε α) (h : r.isOk = true) : r = .ok (valueOf r h) := by
  cases r with
  | ok a => rfl
  | error e => exact absurd h (by simp [Except.isOk, Except.toBool])

/-- The fixture of the embedded certificate. -/
def fixture : Fixture :=
  valueOf loaded loaded_isOk

/-- The fixture is what loading the armoured certificate gives. -/
theorem load_fixture : Fixture.load pem = .ok fixture :=
  eq_ok_valueOf loaded loaded_isOk

end Specimen.Embedded
