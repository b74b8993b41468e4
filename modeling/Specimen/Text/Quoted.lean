import Specimen.Octets
import Specimen.Hex
import Specimen.Text.Printable

/-!
# Quoted text

Messages show a text between quotes: single quotes, unless the text holds a single quote and no
double quote. A backslash and the quote in use get a backslash; line feed, carriage return and tab
are `\n`, `\r`, `\t`; any other character that is not printable is written by its code point in
two, four or eight hex digits. Octets are shown the same way, one character for each octet and
only ASCII as it is; an array of octets has its single quotes escaped whichever quotes surround it.

* `quoteMark_eq_double_iff` — when double quotes are used.
* `escape_of_plain` — a printable character other than backslash and quote stands for itself.
-/

namespace Specimen.Text

/-- The quote that surrounds a text. -/
def quoteMark (cs : List Char) : Char :=
  if cs.contains '\x27' && !cs.contains '\x22' then '\x22' else '\x27'

/-- A number in lower-case hex, filled with zeros to a width. -/
def hexPadded (width n : Nat) : List Char :=
  let digits := Nat.toDigits 16 n
  List.replicate (width - digits.length) '0' ++ digits

/-- A backslash, a letter and the code point in as many digits as the letter asks for. -/
def escapeCode (n : Nat) : List Char :=
  if n < 0x100 then '\\' :: 'x' :: hexPadded 2 n
  else if n < 0x10000 then '\\' :: 'u' :: hexPadded 4 n
  else '\\' :: 'U' :: hexPadded 8 n

/-- One character between the quotes `quote`, if those characters that satisfy `plain` stand for
themselves. -/
def escapeWith (plain : Char → Bool) (quote c : Char) : List Char :=
  if c = quote ∨ c = '\\' then ['\\', c]
  else if c = '\n' then ['\\', 'n']
  else if c = '\r' then ['\\', 'r']
  else if c = '\t' then ['\\', 't']
  else if plain c then [c]
  else escapeCode c.toNat

/-- One character of a quoted text. -/
def escape (quote c : Char) : List Char :=
  escapeWith isPrintable quote c

/-- The characters of a text between quotes. -/
def quotedChars (cs : List Char) : List Char :=
  let quote := quoteMark cs
  quote :: cs.flatMap (escape quote) ++ [quote]

/-- A text between quotes. -/
def quoted (s : String) : String :=
  String.ofList (quotedChars s.toList)

/-- Octets between quotes, marked by a `b`; `escaped` is the quote that gets a backslash, as far as
it depends on the quote in use. -/
def markedOctets (escaped : Char → Char) (bs : Octets) : String :=
  let cs := bs.map fun b => Char.ofNat b.toNat
  let quote := quoteMark cs
  let plain := fun c : Char => decide (32 ≤ c.toNat ∧ c.toNat < 127)
  String.ofList ('b' :: quote :: cs.flatMap (escapeWith plain (escaped quote)) ++ [quote])

/-- Octets between quotes, marked by a `b`. -/
def quotedOctets (bs : Octets) : String :=
  markedOctets id bs

/-- Octets between quotes, marked by a `b`, with a backslash before every single quote. -/
def quotedArray (bs : Octets) : String :=
  markedOctets (fun _ => '\x27') bs

theorem quoteMark_eq_double_iff (cs : List Char) :
    quoteMark cs = '\x22' ↔ '\x27' ∈ cs ∧ '\x22' ∉ cs := by
  unfold quoteMark
  split <;> simp_all

theorem escape_of_plain {quote c : Char} (hp : isPrintable c = true) (hq : c ≠ quote)
    (hb : c ≠ '\\') : escape quote c = [c] := by
  have h1 : c ≠ '\n' := by rintro rfl; revert hp; decide
  have h2 : c ≠ '\r' := by rintro rfl; revert hp; decide
  have h3 : c ≠ '\t' := by rintro rfl; revert hp; decide
  simp [escape, escapeWith, hq, hb, h1, h2, h3, hp]

end Specimen.Text
