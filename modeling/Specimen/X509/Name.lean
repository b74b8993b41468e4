import Specimen.Oid
import Specimen.Text.Utf8
import Specimen.Text.Wide

/-!
# Distinguished names

A name is a sequence of relative names, each a set of attributes. Reading a certificate only looks
at the shape of a name and at the text of three string types. `Name.ofRaw` decodes the attributes,
where the rest of the rules apply.

* `Name.ofRaw` — the name of the raw attributes, or the first rule they break.
* `RelativeName.isSet_iff` — no two attributes of a relative name are the same.
-/

namespace Specimen.X509

open Der

/-! ## Names as they are encoded -/

/-- An attribute with its value left encoded. -/
structure RawAttribute where
  kind : Oid
  value : Element
  deriving DecidableEq, Repr

/-- A name with its values left encoded. -/
abbrev RawName := List (List RawAttribute)

/-- Whether an octet may stand in a printable string. -/
def isPrintableOctet (b : UInt8) : Bool :=
  let n := b.toNat
  (65 ≤ n && n ≤ 90) || (97 ≤ n && n ≤ 122) || (48 ≤ n && n ≤ 57) ||
    (Octets.ofAscii " '()+,-./:=?").contains b

/-- The text of the three string types that are checked as soon as they are read; of any other
value nothing is known yet. -/
def strictText? (e : Element) : Option (Option (List Char)) :=
  if e.tag = .primitive 0x13 then
    if e.content.all isPrintableOctet then
      some (some (e.content.map fun b => Char.ofNat b.toNat))
    else none
  else if e.tag = .primitive 0x1E then (Text.decodeUtf16? e.content).map some
  else if e.tag = .primitive 0x1C then (Text.decodeUtf32? e.content).map some
  else some none

/-- Reads an attribute. -/
def readAttribute : Reader RawAttribute :=
  within .sequence do
    let kind ← Oid.read
    let value ← readElement
    if (strictText? value).isNone then failure
    pure ⟨kind, value⟩

/-- Whether octet strings stand in ascending order, equal ones allowed. -/
def isAscending : List Octets → Bool
  | a :: b :: bs => !(b < a) && isAscending (b :: bs)
  | _ => true

/-- Reads an element and gives the octets it was encoded in. -/
def readEncoded : Reader Octets := fun bs =>
  (readElement bs).map fun (_, rest) => (bs.take (bs.length - rest.length), rest)

/-- Reads the attributes of a relative name. A set is encoded with its elements in ascending
order. -/
def readRelativeName : Reader (List RawAttribute) :=
  contentAs .set fun c =>
    match many readAttribute c, many readEncoded c with
    | some attributes, some encodings => if isAscending encodings then some attributes else none
    | _, _ => none

/-- Reads a name. -/
def readName : Reader RawName :=
  contentAs .sequence (many readRelativeName)

/-! ## Names decoded -/

/-- The value of an attribute. -/
inductive AttributeValue where
  | text (s : String)
  | bits (bs : Octets)
  deriving DecidableEq, Repr

/-- An attribute of a relative name. -/
structure Attribute where
  kind : Oid
  value : AttributeValue
  deriving DecidableEq, Repr

/-- A relative name. -/
abbrev RelativeName := List Attribute

/-- A distinguished name. -/
abbrev Name := List RelativeName

/-- The rules that an encoded name can break. -/
inductive NameFlaw where
  /-- A value has a type that holds no text, or text that cannot be read. -/
  | unreadable
  /-- A bit string stands in an attribute other than the unique identifier. -/
  | misplacedBits
  /-- A relative name has no attribute. -/
  | empty
  /-- An attribute occurs twice in a relative name. -/
  | duplicate
  deriving DecidableEq, Repr

/-- The wording of a flaw. -/
def NameFlaw.message : NameFlaw → String
  | .unreadable => "error parsing asn1 value"
  | .misplacedBits => "oid must be X500_UNIQUE_IDENTIFIER for BitString type."
  | .empty => "a relative distinguished name cannot be empty"
  | .duplicate => "duplicate attributes are not allowed"

/-- The one attribute whose value is a bit string. -/
def uniqueIdentifier : Oid := ⟨[2, 5, 4, 45]⟩

/-- The numbers of the universal types that an attribute value may have, the bit string left
out. -/
def textTypes : List Nat :=
  [0x04, 0x0C, 0x12, 0x13, 0x14, 0x16, 0x17, 0x18, 0x1A, 0x1C, 0x1E]

/-- The value of an attribute. Texts other than the strict three are read as UTF-8, whatever their
type says. -/
def AttributeValue.ofRaw (a : RawAttribute) : Except NameFlaw AttributeValue :=
  if a.value.tag = .bitString then
    if a.kind = uniqueIdentifier then .ok (.bits a.value.content) else .error .misplacedBits
  else if textTypes.any fun n => a.value.tag = .primitive n then
    match strictText? a.value with
    | some (some cs) => .ok (.text (String.ofList cs))
    | some none =>
      match Text.Utf8.decode a.value.content with
      | .ok cs => .ok (.text (String.ofList cs))
      | .error _ => .error .unreadable
    | none => .error .unreadable
  else .error .unreadable

/-- An attribute with its value decoded. -/
def Attribute.ofRaw (a : RawAttribute) : Except NameFlaw Attribute :=
  (AttributeValue.ofRaw a).map (⟨a.kind, ·⟩)

/-- Whether no attribute occurs twice. -/
def RelativeName.isSet : RelativeName → Bool
  | [] => true
  | a :: as => !as.contains a && isSet as

/-- A relative name: all attributes are decoded before their number is looked at. -/
def RelativeName.ofRaw (as : List RawAttribute) : Except NameFlaw RelativeName := do
  let as ← as.mapM Attribute.ofRaw
  if as.isEmpty then .error .empty
  else if !RelativeName.isSet as then .error .duplicate
  else .ok as

/-- A name, its relative names decoded one after another. -/
def Name.ofRaw (n : RawName) : Except NameFlaw Name :=
  n.mapM RelativeName.ofRaw

theorem RelativeName.isSet_iff (as : RelativeName) : isSet as = true ↔ as.Nodup := by
  induction as with
  | nil => simp [isSet]
  | cons a as ih => simp [isSet, ih]

end Specimen.X509
