import Specimen.Value

/-!
# Equality of values

Numbers of all kinds, truth values among them, are compared by what they amount to, and octets by
themselves whatever their form. A text equals only a text, a list only a list. A table equals
another one with the same entries in any order. A stream equals nothing but itself, and two streams
handed over are never the same one.

`Value.hashKey?` gives what the hash of a value depends on. Equal values have equal keys, and
values with different keys are taken to have different hashes.

* `same_text_iff`, `same_int_iff` — equality on the plain kinds.
-/

namespace Specimen.Value

open Number

/-- A number, if the value is one: an integer or a binary one. -/
def number? : Value → Option (Int ⊕ Binary64)
  | .int n => some (.inl n)
  | .bool b => some (.inl (if b then 1 else 0))
  | .float x => some (.inr x)
  | _ => Option.none

/-- Whether two numbers amount to the same. -/
def sameNumber : Int ⊕ Binary64 → Int ⊕ Binary64 → Bool
  | .inl a, .inl b => a == b
  | .inl a, .inr y => y.isInt a
  | .inr x, .inl b => x.isInt b
  | .inr x, .inr y => x.same y

/-- Equality of values that hold no others. -/
def samePlain (v w : Value) : Bool :=
  match v, w with
  | .text s, .text t => s == t
  | .none, .none => true
  | .octets _ a, .octets _ b => a == b
  | .path p, .path q => p == q
  | v, w =>
    match number? v, number? w with
    | some a, some b => sameNumber a b
    | _, _ => false

/-- Whether each item passes the test in its place. -/
def allPass : List (Value → Bool) → List Value → Bool
  | [], [] => true
  | p :: ps, w :: ws => p w && allPass ps ws
  | _, _ => false

/-- Whether each pair of tests is passed by some entry of a table. -/
def entriesPass (keyTests valueTests : List (Value → Bool)) (keys values : List Value) : Bool :=
  (keyTests.zip valueTests).all fun (p, q) => (keys.zip values).any fun (k, v) => p k && q v

mutual

/-- Whether two values are equal. -/
def same : Value → Value → Bool
  | .list a, w => match w with
    | .list b => allPass (tests a) b
    | _ => false
  | .tuple a, w => match w with
    | .tuple b => allPass (tests a) b
    | _ => false
  | .table ks vs, w => match w with
    | .table ks' vs' => ks.length == ks'.length && entriesPass (tests ks) (tests vs) ks' vs'
    | _ => false
  | v, w => samePlain v w

/-- The tests for being equal to each of the values. -/
def tests : List Value → List (Value → Bool)
  | [] => []
  | v :: vs => same v :: tests vs

end

theorem same_text_iff (s t : String) : same (.text s) (.text t) = true ↔ s = t := by
  simp [same, samePlain]

theorem same_int_iff (m n : Int) : same (.int m) (.int n) = true ↔ m = n := by
  simp [same, samePlain, number?, sameNumber]

/-! ## Tables -/

/-- Puts a value under a key: a key that is there stays and gets the new value. -/
def putEntry (key value : Value) : List (Value × Value) → List (Value × Value)
  | [] => [(key, value)]
  | e :: es => if same e.1 key then (e.1, value) :: es else e :: putEntry key value es

/-- The table of entries put in one after another. -/
def ofEntries (entries : List (Value × Value)) : Value :=
  let es := entries.foldl (fun es e => putEntry e.1 e.2 es) []
  .table (es.map (·.1)) (es.map (·.2))

/-! ## Hash keys -/

/-- The modulus of the hashes of numbers. -/
def hashModulus : Nat := Nat.pow 2 61 - 1

/-- The hash of a number by its sign and the residue of its magnitude; -1 is not used. -/
def numberHash (negative : Bool) (residue : Nat) : Int :=
  let h : Int := if negative then -(residue : Int) else residue
  if h = -1 then -2 else h

/-- The hash of a binary number, unless it is no number. -/
def binaryHash? : Binary64 → Option Int
  | .nan => Option.none
  | .infinity negative => some (if negative then -314159 else 314159)
  | .finite negative m e =>
    some (numberHash negative (m * Nat.pow 2 (e % 61).toNat % hashModulus))

/-- The octets in which a text is held: as few for each character as its widest one needs, the low
one first. -/
def textBuffer (cs : List Char) : List Int :=
  let width := if cs.all (·.toNat < 0x100) then 1 else if cs.all (·.toNat < 0x10000) then 2 else 4
  cs.flatMap fun c => (List.range width).map fun k => ((c.toNat / Nat.pow 256 k % 256 : Nat) : Int)

/-- The key of a buffer; an empty one has the hash of zero. -/
def bufferKey (buffer : List Int) : List Int :=
  if buffer.isEmpty then [1, 0] else 0 :: buffer.length :: buffer

/-- The key of a tuple of keys. -/
def tupleKey (keys : List (List Int)) : List Int :=
  3 :: keys.length :: keys.flatten

/-- The key of a path: the tuple of its anchor, if it has one, and its parts. -/
def pathKey (p : Path) : List Int :=
  let anchor := Path.anchorText p.anchor
  let parts := if anchor = "" then p.parts else anchor :: p.parts
  tupleKey (parts.map fun s => bufferKey (textBuffer s.toList))

mutual

/-- What the hash of a value depends on. There is none for a value that can change, whose kind is
the error, and no comparable one for a value that is equal to itself alone. -/
def hashKey? : Value → Except Kind (Option (List Int))
  | .text s => .ok (some (bufferKey (textBuffer s.toList)))
  | .int n => .ok (some [1, numberHash (n < 0) (n.natAbs % hashModulus)])
  | .bool b => .ok (some [1, if b then 1 else 0])
  | .none => .ok (some [2])
  | .float x => .ok ((binaryHash? x).map fun h => [1, h])
  | .octets .array _ => .error .octetArray
  | .octets _ bs => .ok (some (bufferKey (bs.map fun b => (b.toNat : Int))))
  | .list _ => .error .list
  | .tuple items => (hashKeys? items).map fun keys => keys.map tupleKey
  | .stream _ => .ok Option.none
  | .table _ _ => .error .table
  | .path p => .ok (some (pathKey p))

/-- The keys of values, the first that has none deciding. -/
def hashKeys? : List Value → Except Kind (Option (List (List Int)))
  | [] => .ok (some [])
  | v :: vs =>
    match hashKey? v with
    | .error k => .error k
    | .ok key =>
      match hashKeys? vs with
      | .error k => .error k
      | .ok keys => .ok (match key, keys with
        | some k, some ks => some (k :: ks)
        | _, _ => Option.none)

end

end Specimen.Value
