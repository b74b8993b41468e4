import Specimen.Value.Display
import Specimen.Value.Equality

/-!
# Fixtures

A fixture holds a certificate for tests: its armoured text, its encoding, and what tests like to
compare. It is made from named fields, all six of them, never has an empty encoding, and does not
change: a different one is made by replacing fields. Fields may hold values of any kind; the
library itself fills them with texts and octets.

* `ofValues_eq_ok_iff` — the fixture that is made from values.
* `act_fst` — only replacing leads to another fixture.
-/

namespace Specimen

/-- The fields of a fixture. -/
inductive Field where
  | pem
  | der
  | subject
  | issuer
  | serialNumber
  | sha256Fingerprint
  deriving DecidableEq, Repr

/-- The name of a field. -/
def Field.name : Field → String
  | .pem => "pem"
  | .der => "der"
  | .subject => "subject"
  | .issuer => "issuer"
  | .serialNumber => "serial_number"
  | .sha256Fingerprint => "sha256_fingerprint"

/-- The fields in their order. -/
def Field.all : List Field :=
  [.pem, .der, .subject, .issuer, .serialNumber, .sha256Fingerprint]

/-- The field with a given name. -/
def Field.ofName? (s : String) : Option Field :=
  Field.all.find? (·.name == s)

/-- A certificate for tests. -/
structure Fixture where
  pem : Value
  der : Value
  subject : Value
  issuer : Value
  serialNumber : Value
  sha256Fingerprint : Value
  /-- The encoding is not empty. -/
  der_isTruthy : der.isTruthy = true

/-- What can go wrong with a fixture. -/
inductive FixtureFlaw where
  /-- Fields are missing. -/
  | missing (fields : List Field)
  /-- There is no field of this name. -/
  | unexpected (name : String)
  /-- The encoding is empty. -/
  | emptyDer
  /-- There is nothing of this name to read. -/
  | unknown (name : String)
  /-- A field cannot be set. -/
  | frozen (field : Field)
  /-- A field cannot be removed. -/
  | kept (field : Field)
  /-- What is no field cannot be set or removed either. -/
  | closed
  /-- The encoding is of a kind without a length. -/
  | noLength (kind : Kind)
  /-- A field is of a kind without a hash. -/
  | noHash (kind : Kind)
  deriving DecidableEq, Repr

namespace FixtureFlaw

/-- Names between quotes, with commas and a final `and`. -/
def listText : List String → String
  | [] => ""
  | [a] => Text.quoted a
  | [a, b] => Text.quoted a ++ " and " ++ Text.quoted b
  | names => ", ".intercalate (names.dropLast.map Text.quoted) ++ ", and " ++
      Text.quoted (names.getLast?.getD "")

/-- The wording of a flaw. -/
def message : FixtureFlaw → String
  | .missing fields =>
    let noun := if fields.length = 1 then " argument: " else " arguments: "
    "CertificateFixture.__init__() missing " ++ toString fields.length ++ " required positional" ++
      noun ++ listText (fields.map Field.name)
  | .unexpected name =>
    -- The fixture that is being made goes by the name `self`.
    let problem := if name = "self" then "multiple values for" else "an unexpected keyword"
    "CertificateFixture.__init__() got " ++ problem ++ " argument '" ++ name ++ "'"
  | .emptyDer => "CertificateFixture requires non-empty DER bytes"
  | .unknown name => "'CertificateFixture' object has no attribute '" ++ name ++ "'"
  | .frozen field => "cannot assign to field " ++ Text.quoted field.name
  | .kept field => "cannot delete field " ++ Text.quoted field.name
  | .closed => "super(type, obj): obj must be an instance or subtype of type"
  | .noLength kind => "object of type " ++ Text.quoted kind.name ++ " has no len()"
  | .noHash kind => "unhashable type: " ++ Text.quoted kind.name

end FixtureFlaw

namespace Fixture

/-- The value of a field. -/
def get (f : Fixture) : Field → Value
  | .pem => f.pem
  | .der => f.der
  | .subject => f.subject
  | .issuer => f.issuer
  | .serialNumber => f.serialNumber
  | .sha256Fingerprint => f.sha256Fingerprint

/-- The fixture with given values, unless its encoding is empty. -/
def ofValues (v : Field → Value) : Except FixtureFlaw Fixture :=
  if h : (v .der).isTruthy = true then
    .ok ⟨v .pem, v .der, v .subject, v .issuer, v .serialNumber, v .sha256Fingerprint, h⟩
  else .error .emptyDer

/-- The first name that is not a field's. -/
def firstUnexpected? (fields : List (String × Value)) : Option String :=
  (fields.find? fun p => (Field.ofName? p.1).isNone).map (·.1)

/-- The fields that have no value. -/
def missingFields (fields : List (String × Value)) : List Field :=
  Field.all.filter fun k => (fields.lookup k.name).isNone

/-- The fixture with named fields. Names that are no field are looked for first, then missing
fields. -/
def ofFields (fields : List (String × Value)) : Except FixtureFlaw Fixture :=
  match firstUnexpected? fields with
  | some name => .error (.unexpected name)
  | none =>
    match missingFields fields with
    | [] => ofValues fun k => (fields.lookup k.name).getD .none
    | missing => .error (.missing missing)

/-- All fields by name. -/
def toFields (f : Fixture) : List (String × Value) :=
  Field.all.map fun k => (k.name, f.get k)

/-- The fixture with some fields replaced. -/
def replace (f : Fixture) (changes : List (String × Value)) : Except FixtureFlaw Fixture :=
  ofFields (changes ++ f.toFields.filter fun p => (changes.lookup p.1).isNone)

/-- How long the encoding is. -/
def size (f : Fixture) : Except FixtureFlaw Nat :=
  match f.der.size? with
  | some n => .ok n
  | none => .error (.noLength f.der.kind)

/-- The text of a fixture, which leaves out the armoured text and the encoding. -/
def display (f : Fixture) : String :=
  let shown := [Field.subject, .issuer, .serialNumber, .sha256Fingerprint]
  "CertificateFixture(" ++
    ", ".intercalate (shown.map fun k => k.name ++ "=" ++ (f.get k).display) ++ ")"

/-- Whether two fixtures are equal field by field. -/
def same (f g : Fixture) : Bool :=
  Field.all.all fun k => (f.get k).same (g.get k)

/-- What the hash of a fixture depends on, if all fields have one that can be compared. -/
def hashKey? (f : Fixture) : Except FixtureFlaw (Option (List (List Int))) :=
  match Value.hashKeys? (Field.all.map f.get) with
  | .ok keys => .ok keys
  | .error kind => .error (.noHash kind)

/-! ## Actions -/

/-- What a test can do with a fixture. -/
inductive Action where
  | size
  | display
  | get (name : String)
  | set (name : String)
  | delete (name : String)
  | compare (fields : List (String × Value))
  | replace (changes : List (String × Value))

/-- What an action answers. -/
inductive Answer where
  | count (n : Nat)
  | text (s : String)
  | value (v : Value)
  | comparison (equal sameHash : Bool)

/-- Reads a field, or the length of the encoding, by name. -/
def read (f : Fixture) (name : String) : Except FixtureFlaw Answer :=
  match Field.ofName? name with
  | some k => .ok (.value (f.get k))
  | none => if name = "size" then f.size.map .count else .error (.unknown name)

/-- Compares two fixtures and their hashes. -/
def comparison (f g : Fixture) : Except FixtureFlaw Answer := do
  let kf ← f.hashKey?
  let kg ← g.hashKey?
  pure (.comparison (f.same g) (kf.isSome && kf == kg))

/-- The fixture after an action, and the answer. -/
def act (f : Fixture) : Action → Fixture × Except FixtureFlaw Answer
  | .size => (f, f.size.map .count)
  | .display => (f, .ok (.text f.display))
  | .get name => (f, f.read name)
  | .set name =>
    (f, .error (match Field.ofName? name with | some k => .frozen k | none => .closed))
  | .delete name =>
    (f, .error (match Field.ofName? name with | some k => .kept k | none => .closed))
  | .compare fields =>
    (f, match ofFields fields with | .ok g => f.comparison g | .error e => .error e)
  | .replace changes =>
    match f.replace changes with
    | .ok g => (g, .ok (.text g.display))
    | .error e => (f, .error e)

/-- The answers to actions one after another. -/
def actAll (f : Fixture) : List Action → List (Except FixtureFlaw Answer)
  | [] => []
  | a :: as => (f.act a).2 :: actAll (f.act a).1 as

/-! ## Laws -/

/-- From values a fixture is made exactly if the encoding is not empty. -/
theorem ofValues_isOk_iff (v : Field → Value) :
    (ofValues v).isOk = true ↔ (v .der).isTruthy = true := by
  unfold ofValues
  split <;> simp_all [Except.isOk, Except.toBool]

/-- The fixture with given values is the one that has them. -/
theorem ofValues_eq_ok_iff {v : Field → Value} {f : Fixture} :
    ofValues v = .ok f ↔ ∀ k, f.get k = v k := by
  unfold ofValues
  constructor
  · intro h k
    split at h
    · simp only [Except.ok.injEq] at h
      rw [← h]
      cases k <;> rfl
    · simp at h
  · intro h
    have hv : v = f.get := funext fun k => (h k).symm
    subst hv
    exact dif_pos f.der_isTruthy

/-- Only replacing leads to another fixture. -/
theorem act_fst (f : Fixture) (a : Action) (h : ∀ changes, a ≠ .replace changes) :
    (f.act a).1 = f := by
  cases a <;> first | rfl | exact absurd rfl (h _)

end Fixture

end Specimen
