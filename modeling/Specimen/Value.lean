import Specimen.Number.Binary64
import Specimen.Octets
import Specimen.Path
import Specimen.Value.Kind

/-!
# Values

What a test may hand to the library: texts, numbers, octets, paths and collections of values. The
library asks a value for its kind, whether it counts as true, how long it is and what it yields
when it is run through.

* `isTruthy_iff_size` — a value that has a length counts as true unless the length is zero.
-/

namespace Specimen

/-- The three ways to hold octets. -/
inductive OctetForm where
  | fixed
  | array
  | view
  deriving DecidableEq, Repr

/-- A value handed over by a test. -/
inductive Value where
  | text (s : String)
  | int (n : Int)
  | bool (b : Bool)
  | none
  | float (x : Number.Binary64)
  | octets (form : OctetForm) (bs : Octets)
  | list (items : List Value)
  | tuple (items : List Value)
  /-- Items that can be run through once. -/
  | stream (items : List Value)
  /-- Keys, with a value for each of them. -/
  | table (keys : List Value) (values : List Value)
  | path (p : Path)

namespace Value

instance : Inhabited Value := ⟨.none⟩

/-- The kind of a value. -/
def kind : Value → Kind
  | .text _ => .text
  | .int _ => .int
  | .bool _ => .bool
  | .none => .none
  | .float _ => .float
  | .octets .fixed _ => .octets
  | .octets .array _ => .octetArray
  | .octets .view _ => .octetView
  | .list _ => .list
  | .tuple _ => .tuple
  | .stream _ => .stream
  | .table _ _ => .table
  | .path _ => .path

/-- How many parts a value has, if it has a length. -/
def size? : Value → Option Nat
  | .text s => some s.toList.length
  | .octets _ bs => some bs.length
  | .list items => some items.length
  | .tuple items => some items.length
  | .table keys _ => some keys.length
  | _ => Option.none

/-- Whether a value counts as true: nothing, zero and what is empty do not. -/
def isTruthy : Value → Bool
  | .text s => !s.toList.isEmpty
  | .int n => n != 0
  | .bool b => b
  | .none => false
  | .float x => !x.isZero
  | .octets _ bs => !bs.isEmpty
  | .list items => !items.isEmpty
  | .tuple items => !items.isEmpty
  | .stream _ => true
  | .table keys _ => !keys.isEmpty
  | .path _ => true

/-- What a value yields when it is run through: a text its characters, octets their numbers, a
table its keys. -/
def items? : Value → Option (List Value)
  | .text s => some (s.toList.map fun c => .text (String.ofList [c]))
  | .octets _ bs => some (bs.map fun b => .int b.toNat)
  | .list items => some items
  | .tuple items => some items
  | .stream items => some items
  | .table keys _ => some keys
  | _ => Option.none

/-- The octets of a value of any of the three forms. -/
def octets? : Value → Option Octets
  | .octets _ bs => some bs
  | _ => Option.none

/-- The value of plain octets. -/
def ofOctets (bs : Octets) : Value :=
  .octets .fixed bs

/-- A value that has a length counts as true unless the length is zero. -/
theorem isTruthy_iff_size {v : Value} {n : Nat} (h : v.size? = some n) :
    v.isTruthy = true ↔ n ≠ 0 := by
  cases v <;> simp_all [size?, isTruthy] <;> subst h <;> simp

end Value

end Specimen
