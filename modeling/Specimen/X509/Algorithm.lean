import Specimen.Oid
import Specimen.Der.Primitive

/-!
# Algorithm identifiers

An algorithm identifier is an object identifier with parameters. What the parameters have to look
like depends on the algorithm: `Parameters.ofOid` gives the form, and `readAlgorithm` holds the
parameters to it. An algorithm that is not listed may have any one element, or none.

* `Parameters.ofOid_eq_any` — what holds for an algorithm that is not listed.
* `readAlgorithm` — reads one identifier; parameters may hold further ones.
-/

namespace Specimen.X509

open Der

/-- The forms that parameters of an algorithm take. -/
inductive Parameters where
  /-- Any one element, or nothing. -/
  | any
  /-- Nothing at all. -/
  | absent
  /-- A null element, or nothing. -/
  | optionalNull
  /-- A named curve, a null element or a sequence, and never nothing. -/
  | curve
  /-- The choices of the probabilistic signature scheme, or nothing. -/
  | probabilistic
  /-- The three numbers of a signature group. -/
  | signatureGroup
  /-- The numbers of a key agreement group with its subgroup. -/
  | agreementSubgroup
  /-- The prime and the generator of a key agreement group. -/
  | agreementGroup
  /-- A derivation function and a cipher. -/
  | passwordScheme
  /-- Salt, rounds, key length and pseudorandom function. -/
  | passwordDerivation
  /-- Salt and the four costs of a memory-hard derivation. -/
  | memoryHardDerivation
  /-- An initial vector of so many octets. -/
  | initialVector (octets : Nat)
  /-- An optional version and an initial vector of eight octets. -/
  | versionedVector
  /-- Eight octets of salt, and rounds. -/
  | shortSaltRounds
  /-- Salt of any length, and rounds. -/
  | saltRounds
  deriving DecidableEq, Repr

namespace Parameters

/-- Digests, with the form of their parameters. -/
def digests : List (List Nat × Parameters) :=
  [([1, 3, 14, 3, 2, 26], .optionalNull)] ++
    [1, 2, 3, 4, 7, 8, 9, 10].map fun k => ([2, 16, 840, 1, 101, 3, 4, 2, k], .optionalNull)

/-- Signatures and keys on curves. -/
def curves : List (List Nat × Parameters) :=
  [110, 111, 112, 113].map (fun k => ([1, 3, 101, k], .absent)) ++
    [1, 2, 3, 4].map (fun k => ([1, 2, 840, 10045, 4, 3, k], .absent)) ++
    [9, 10, 11, 12].map (fun k => ([2, 16, 840, 1, 101, 3, 4, 3, k], .absent)) ++
    [([1, 2, 840, 10045, 2, 1], .curve)]

/-- Signatures and keys with a modulus of two primes. -/
def twoPrimes : List (List Nat × Parameters) :=
  [1, 5, 11, 12, 13, 14].map (fun k => ([1, 2, 840, 113549, 1, 1, k], .optionalNull)) ++
    [13, 14, 15, 16].map (fun k => ([2, 16, 840, 1, 101, 3, 4, 3, k], .optionalNull)) ++
    [([1, 3, 14, 3, 2, 29], .optionalNull), ([1, 2, 840, 113549, 1, 1, 10], .probabilistic)]

/-- Signatures and keys in groups of integers. -/
def groups : List (List Nat × Parameters) :=
  [([1, 2, 840, 10040, 4, 3], .absent), ([1, 2, 840, 10040, 4, 1], .signatureGroup),
    ([1, 2, 840, 10046, 2, 1], .agreementSubgroup),
    ([1, 2, 840, 113549, 1, 3, 1], .agreementGroup)] ++
    [1, 2, 3, 4].map fun k => ([2, 16, 840, 1, 101, 3, 4, 3, k], .absent)

/-- Encryption under a password, and the ciphers it uses. -/
def passwords : List (List Nat × Parameters) :=
  [7, 8, 9, 10, 11].map (fun k => ([1, 2, 840, 113549, 2, k], .optionalNull)) ++
    [2, 22, 42].map (fun k => ([2, 16, 840, 1, 101, 3, 4, 1, k], .initialVector 16)) ++
    [([1, 2, 840, 113549, 3, 7], .initialVector 8), ([1, 2, 840, 113549, 3, 2], .versionedVector),
      ([1, 2, 840, 113549, 1, 5, 13], .passwordScheme),
      ([1, 2, 840, 113549, 1, 5, 12], .passwordDerivation),
      ([1, 3, 6, 1, 4, 1, 11591, 4, 11], .memoryHardDerivation),
      ([1, 2, 840, 113549, 1, 5, 3], .shortSaltRounds),
      ([1, 2, 840, 113549, 1, 12, 1, 3], .saltRounds),
      ([1, 2, 840, 113549, 1, 12, 1, 6], .saltRounds)]

/-- The algorithms whose parameters have a fixed form. -/
def known : List (List Nat × Parameters) :=
  digests ++ curves ++ twoPrimes ++ groups ++ passwords

/-- The form of the parameters of an algorithm. -/
def ofOid (o : Oid) : Parameters :=
  (known.lookup o.arcs).getD .any

theorem ofOid_eq_any {o : Oid} (h : known.lookup o.arcs = none) : ofOid o = .any := by
  simp [ofOid, h]

end Parameters

/-- Reads a value in an outer context tag if the tag comes next; the value meant by leaving it out
may not be written. -/
def unlessDefault (n : Nat) (r : Reader α) (isDefault : α → Bool) : Reader Unit := fun bs =>
  match optional (.contextOuter n) (within (.contextOuter n) r) bs with
  | some (some a, rest) => if isDefault a then none else some ((), rest)
  | some (none, rest) => some ((), rest)
  | none => none

/-- The content of the identifier of the digest that is meant by leaving it out: the oldest one of
`Parameters.digests` with a null element. -/
def defaultDigest : Octets :=
  [0x06, 0x05, 0x2B, 0x0E, 0x03, 0x02, 0x1A, 0x05, 0x00]

/-- The content of the mask generator meant by leaving it out: it uses the default digest. -/
def defaultMask : Octets :=
  [0x06, 0x09, 0x2A, 0x86, 0x48, 0x86, 0xF7, 0x0D, 0x01, 0x01, 0x08, 0x30, 0x09] ++ defaultDigest

/-- The content of the pseudorandom function meant by leaving it out. -/
def defaultPseudorandom : Octets :=
  [0x06, 0x08, 0x2A, 0x86, 0x48, 0x86, 0xF7, 0x0D, 0x02, 0x07, 0x05, 0x00]

/-- Reads an element, holds its content to a reader and gives the content. -/
def checked (tag : Tag) (r : Reader α) : Reader Octets :=
  contentAs tag fun c => (whole r c).map fun _ => c

/-- Reads any element, unless the text is at its end. -/
def readAny : Reader Unit := fun bs =>
  match bs with
  | [] => some ((), [])
  | b :: bs => (readElement (b :: bs)).map fun (_, rest) => ((), rest)

/-- Reads a named curve, a null element or a sequence. -/
def readCurve : Reader Unit := fun bs =>
  match readElement bs with
  | some (e, rest) =>
    if e.tag = .oid then (Oid.ofContent? e.content).map fun _ => ((), rest)
    else if e.tag = .null then (null? e.content).map fun _ => ((), rest)
    else if e.tag = .sequence then some ((), rest)
    else none
  | none => none

/-- Reads parameters of a given form; `identifier` reads the content of an identifier. -/
def readParameters (identifier : Reader Oid) : Parameters → Reader Unit
  | .any => readAny
  | .absent => pure ()
  | .optionalNull => do let _ ← optional .null (contentAs .null null?)
  | .curve => readCurve
  | .probabilistic => do
    let _ ← optional .sequence <| within .sequence do
      unlessDefault 0 (checked .sequence identifier) (· == defaultDigest)
      unlessDefault 1 (checked .sequence do let _ ← Oid.read; within .sequence identifier)
        (· == defaultMask)
      unlessDefault 2 (readNatural (Nat.pow 2 16)) (· == 20)
      let _ ← optional (.contextOuter 3) (within (.contextOuter 3) (readNatural 256))
  | .signatureGroup => within .sequence do
    let _ ← readAnyNatural
    let _ ← readAnyNatural
    let _ ← readAnyNatural
  | .agreementSubgroup => within .sequence do
    let _ ← readAnyNatural
    let _ ← readAnyNatural
    let _ ← readAnyNatural
    let _ ← optional .integer readAnyNatural
    let _ ← optional .sequence (content .sequence)
  | .agreementGroup => within .sequence do
    let _ ← readAnyNatural
    let _ ← readAnyNatural
    let _ ← optional .integer (readNatural (Nat.pow 2 32))
  | .passwordScheme => within .sequence do
    let _ ← within .sequence identifier
    let _ ← within .sequence identifier
  | .passwordDerivation => within .sequence do
    let _ ← readOctetString
    let _ ← readNatural (Nat.pow 2 64)
    let _ ← optional .integer (readNatural (Nat.pow 2 64))
    let f ← optional .sequence (checked .sequence identifier)
    if f = some defaultPseudorandom then failure
  | .memoryHardDerivation => within .sequence do
    let _ ← readOctetString
    let _ ← readNatural (Nat.pow 2 64)
    let _ ← readNatural (Nat.pow 2 64)
    let _ ← readNatural (Nat.pow 2 64)
    let _ ← optional .integer (readNatural (Nat.pow 2 32))
  | .initialVector n => do let _ ← readOctetsOfLength n
  | .versionedVector => within .sequence do
    let _ ← optional .integer (readNatural (Nat.pow 2 32))
    let _ ← readOctetsOfLength 8
  | .shortSaltRounds => within .sequence do
    let _ ← readOctetsOfLength 8
    let _ ← readNatural (Nat.pow 2 64)
  | .saltRounds => within .sequence do
    let _ ← readOctetString
    let _ ← readNatural (Nat.pow 2 64)

/-- Reads the content of an identifier whose parameters hold others to a depth below `depth`. -/
def identifierWithin : Nat → Reader Oid
  | 0 => failure
  | depth + 1 => do
    let o ← Oid.read
    readParameters (identifierWithin depth) (Parameters.ofOid o)
    pure o

/-- Reads an algorithm identifier. Each level of nesting takes an octet or more, so the length of
the text bounds the depth. -/
def readAlgorithm : Reader Oid := fun bs =>
  within .sequence (identifierWithin bs.length) bs

end Specimen.X509
