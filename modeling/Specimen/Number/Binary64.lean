import Specimen.Octets

/-!
# Binary floating-point numbers

A finite number is a mantissa below `2 ^ 53` times a power of two that is at least `2 ^ -1074`.
Decimal text is rounded to the nearest such number, a tie going to the even mantissa. A number is
written with the fewest digits that read back as the same number.

* `roundDiv_exact` — a quotient without remainder is not rounded.
* `ofText?`, `text` — reading and writing.
-/

namespace Specimen.Number

/-- A number of the binary format of sixty-four bits. -/
inductive Binary64 where
  | nan
  | infinity (negative : Bool)
  | finite (negative : Bool) (mantissa : Nat) (exponent : Int)
  deriving DecidableEq, Repr

/-- The quotient rounded to the nearest number, a tie to the even one. -/
def roundDiv (num den : Nat) : Nat :=
  let q := num / den
  let r := num % den
  if 2 * r < den ∨ (2 * r = den ∧ q % 2 = 0) then q else q + 1

/-- A ratio times a power of two, as a ratio. -/
def scaled (num den : Nat) (e : Int) : Nat × Nat :=
  if 0 ≤ e then (num * Nat.pow 2 e.toNat, den) else (num, den * Nat.pow 2 (-e).toNat)

namespace Binary64

/-- The least exponent. -/
def minExponent : Int := -1074

/-- The greatest exponent. -/
def maxExponent : Int := 971

/-- The number nearest to a ratio. -/
def ofRatio (negative : Bool) (num den : Nat) : Binary64 :=
  if num = 0 then .finite negative 0 minExponent
  else
    let guess : Int := (Nat.log2 num : Int) - Nat.log2 den - 52
    let (n, d) := scaled num den (-guess)
    let e := max minExponent (if n / d < Nat.pow 2 52 then guess - 1 else guess)
    let (n, d) := scaled num den (-e)
    let m := roundDiv n d
    let (m, e) := if m = Nat.pow 2 53 then (Nat.pow 2 52, e + 1) else (m, e)
    if maxExponent < e then .infinity negative else .finite negative m e

/-! ## Reading -/

/-- The number that decimal digits write; none if there are none or another character is among
them. -/
def digits? (cs : List Char) : Option Nat :=
  if cs.isEmpty || !cs.all Char.isDigit then none
  else some (cs.foldl (fun n c => n * 10 + (c.toNat - 48)) 0)

/-- An exponent with or without a sign. -/
def exponent? : List Char → Option Int
  | '-' :: cs => (digits? cs).map fun n => -(n : Int)
  | '+' :: cs => (digits? cs).map fun n => (n : Int)
  | cs => (digits? cs).map fun n => (n : Int)

/-- The number written by digits with a point and an exponent, both of them optional. -/
def magnitude? (negative : Bool) (cs : List Char) : Option Binary64 :=
  let isMark := fun c => c = 'e' ∨ c = 'E'
  let body := cs.takeWhile fun c => !isMark c
  let tail := cs.dropWhile fun c => !isMark c
  let whole := body.takeWhile (· ≠ '.')
  let fraction := (body.dropWhile (· ≠ '.')).drop 1
  match digits? (whole ++ fraction), (if tail.isEmpty then some 0 else exponent? (tail.drop 1)) with
  | some n, some e =>
    let k := e - fraction.length
    if 0 ≤ k then some (ofRatio negative (n * Nat.pow 10 k.toNat) 1)
    else some (ofRatio negative n (Nat.pow 10 (-k).toNat))
  | _, _ => none

/-- A number without its sign: digits, or a word for one of the values that are not finite. -/
def unsigned? (negative : Bool) (cs : List Char) : Option Binary64 :=
  let word := String.ofList (cs.map Char.toLower)
  if word = "inf" ∨ word = "infinity" then some (.infinity negative)
  else if word = "nan" then some .nan
  else magnitude? negative cs

/-- The number a text writes. -/
def ofText? (s : String) : Option Binary64 :=
  match s.toList with
  | '-' :: cs => unsigned? true cs
  | '+' :: cs => unsigned? false cs
  | cs => unsigned? false cs

/-! ## Writing -/

/-- The ratio of a mantissa times a power of two. -/
def ratio (m : Nat) (e : Int) : Nat × Nat :=
  scaled m 1 e

/-- How many digits stand before the point of a ratio at least one tenth of a power of ten: the
least `k ≥ from` with the ratio below `10 ^ k`, at most `fuel` steps on. -/
def placesFrom (num den : Nat) : Nat → Int → Int
  | 0, k => k
  | fuel + 1, k =>
    let below :=
      if 0 ≤ k then num < den * Nat.pow 10 k.toNat else num * Nat.pow 10 (-k).toNat < den
    if below then k else placesFrom num den fuel (k + 1)

/-- Whether `q * 10 ^ p` reads back as the number with mantissa `m` and exponent `e`: it lies
between the middles to its neighbours, which belong to it if the mantissa is even. -/
def readsBack (m : Nat) (e : Int) (q : Nat) (p : Int) : Bool :=
  let below := if m = Nat.pow 2 52 ∧ minExponent < e then 1 else 2
  let (lowNum, lowDen) := ratio (4 * m - below) (e - 2)
  let (highNum, highDen) := ratio (4 * m + 2) (e - 2)
  let (num, den) := if 0 ≤ p then (q * Nat.pow 10 p.toNat, 1) else (q, Nat.pow 10 (-p).toNat)
  let overLow := lowNum * den < num * lowDen || (m % 2 = 0 && lowNum * den = num * lowDen)
  let underHigh := num * highDen < highNum * den || (m % 2 = 0 && num * highDen = highNum * den)
  overLow && underHigh

/-- The neighbour of a number on the grid of the multiples of `10 ^ p` that reads back, the nearer
one of two. -/
def onGrid? (m : Nat) (e p : Int) : Option Nat :=
  let (num, den) := ratio m e
  let (num, den) :=
    if 0 ≤ p then (num, den * Nat.pow 10 p.toNat) else (num * Nat.pow 10 (-p).toNat, den)
  let q := num / den
  let r := num % den
  match readsBack m e q p, readsBack m e (q + 1) p with
  | true, true => some (if 2 * r < den ∨ (2 * r = den ∧ q % 2 = 0) then q else q + 1)
  | true, false => some q
  | false, true => some (q + 1)
  | false, false => none

/-- The fewest digits that read back, from `n` on, with the power of ten of the last one; at most
`fuel` attempts. -/
def shortestFrom (m : Nat) (e places : Int) : Nat → Nat → Nat × Int
  | 0, n => (m, places - n)
  | fuel + 1, n =>
    match onGrid? m e (places - n) with
    | some q => (q, places - n)
    | none => shortestFrom m e places fuel (n + 1)

/-- Digits without zeros at the end, and the power of ten they are taken times. -/
def trimZeros : Nat → Nat → Int → Nat × Int
  | 0, q, p => (q, p)
  | fuel + 1, q, p => if q ≠ 0 ∧ q % 10 = 0 then trimZeros fuel (q / 10) (p + 1) else (q, p)

/-- Digits times a power of ten, written positionally if the first digit stands at most four
places after the point and at most sixteen before it, otherwise with an exponent of two digits or
more. -/
def decimalText (q : Nat) (p : Int) : List Char :=
  let ds := Nat.toDigits 10 q
  let point := (ds.length : Int) + p
  if q = 0 then ['0', '.', '0']
  else if -3 ≤ point ∧ point ≤ 16 then
    if point ≤ 0 then '0' :: '.' :: (List.replicate (-point).toNat '0' ++ ds)
    else
      let k := point.toNat
      let whole := ds.take k ++ List.replicate (k - ds.length) '0'
      let fraction := ds.drop k
      whole ++ '.' :: (if fraction.isEmpty then ['0'] else fraction)
  else
    let e := point - 1
    let digits := Nat.toDigits 10 e.natAbs
    let fraction := ds.drop 1
    ds.take 1 ++ (if fraction.isEmpty then [] else '.' :: fraction) ++
      'e' :: (if e < 0 then '-' else '+') :: (List.replicate (2 - digits.length) '0' ++ digits)

/-- The text of a number. -/
def text : Binary64 → String
  | .nan => "nan"
  | .infinity negative => if negative then "-inf" else "inf"
  | .finite negative m e =>
    let sign := if negative then ['-'] else []
    if m = 0 then String.ofList (sign ++ decimalText 0 0)
    else
      let (num, den) := ratio m e
      let places := placesFrom num den 700 (-330)
      let (q, p) := shortestFrom m e places 17 1
      let (q, p) := trimZeros 20 q p
      String.ofList (sign ++ decimalText q p)

/-! ## Comparing -/

/-- The exact value of a finite number as a ratio. -/
def value? : Binary64 → Option (Int × Nat)
  | .finite negative m e =>
    let (num, den) := ratio m e
    some (if negative then -(num : Int) else num, den)
  | _ => none

/-- Whether two numbers are equal: zero has one value, and a number that is none equals nothing. -/
def same : Binary64 → Binary64 → Bool
  | .nan, _ => false
  | _, .nan => false
  | .infinity a, .infinity b => a == b
  | x, y =>
    match x.value?, y.value? with
    | some (a, b), some (c, d) => a * d == c * b
    | _, _ => false

/-- Whether a number equals an integer. -/
def isInt (x : Binary64) (n : Int) : Bool :=
  match x.value? with
  | some (a, b) => a == n * b
  | none => false

/-- Whether a number is zero. -/
def isZero (x : Binary64) : Bool :=
  x.isInt 0

end Binary64

theorem roundDiv_exact {num den : Nat} (hd : 0 < den) (h : num % den = 0) :
    roundDiv num den = num / den := by
  unfold roundDiv
  simp only [h]
  split
  · rfl
  · omega

end Specimen.Number
