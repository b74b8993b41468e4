import Specimen.X509.Name

/-!
# Names as text

A name is written with its relative names in reverse, a comma between them and a plus sign between
the attributes of one. Nine kinds of attribute have short names; the others are written by their
numbers. In a text, the characters that the notation uses get a backslash, as do a sign `#` or a
space at the beginning and a space at the end. A bit string is written in hex after a sign `#`.

* `escapeChar_eq_self` — any other character stands for itself.
* `Name.text` — the text of a name.
-/

namespace Specimen.X509

/-- The kinds of attribute that have short names. -/
def shortNames : List (List Nat × String) :=
  [([2, 5, 4, 3], "CN"), ([2, 5, 4, 7], "L"), ([2, 5, 4, 8], "ST"), ([2, 5, 4, 10], "O"),
    ([2, 5, 4, 11], "OU"), ([2, 5, 4, 6], "C"), ([2, 5, 4, 9], "STREET"),
    ([0, 9, 2342, 19200300, 100, 1, 25], "DC"), ([0, 9, 2342, 19200300, 100, 1, 1], "UID")]

/-- The short name of a kind of attribute, or its numbers. -/
def kindText (o : Oid) : String :=
  (shortNames.lookup o.arcs).getD o.text

/-- The characters that the notation uses. -/
def isSpecial (c : Char) : Bool :=
  ['\\', '\x22', '+', ',', ';', '<', '>'].contains c

/-- A character inside a value. -/
def escapeChar (c : Char) : List Char :=
  if isSpecial c then ['\\', c]
  else if c = '\x00' then ['\\', '0', '0']
  else [c]

/-- Puts a backslash in front of a sign `#` or a space at the beginning. -/
def escapeFirst : List Char → List Char
  | [] => []
  | c :: cs => if c = '#' ∨ c = ' ' then '\\' :: c :: cs else c :: cs

/-- Puts a backslash in front of a space at the end. -/
def escapeLast (cs : List Char) : List Char :=
  if cs.getLast? = some ' ' then cs.dropLast ++ ['\\', ' '] else cs

/-- A text as a value. A single space is both first and last, and gets two backslashes. -/
def escapeText (cs : List Char) : List Char :=
  escapeLast (escapeFirst (cs.flatMap escapeChar))

/-- A value; an empty one is written as nothing. -/
def valueText : AttributeValue → List Char
  | .text s => escapeText s.toList
  | .bits [] => []
  | .bits bs => '#' :: Hex.encode bs

/-- An attribute: its kind, an equals sign and its value. -/
def Attribute.text (a : Attribute) : String :=
  kindText a.kind ++ "=" ++ String.ofList (valueText a.value)

/-- A relative name. -/
def RelativeName.text (as : RelativeName) : String :=
  "+".intercalate (as.map Attribute.text)

/-- A distinguished name. -/
def Name.text (n : Name) : String :=
  ",".intercalate (n.reverse.map RelativeName.text)

theorem escapeChar_eq_self {c : Char} (hs : isSpecial c = false) (h0 : c ≠ '\x00') :
    escapeChar c = [c] := by
  simp [escapeChar, hs, h0]

end Specimen.X509
