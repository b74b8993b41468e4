import Specimen.Octets

/-!
# Lines of armoured text

Armour is read line by line. A line ends at a line feed or a carriage return; as empty lines do
not count, the pair of both ends one line too.

* `lines_terminator` — a terminator ends the line before it, if there is one.
* `beginLabel?` — the label of a line that opens a block.
-/

namespace Specimen.Pem

/-- Line feed or carriage return. -/
def isTerminator (b : UInt8) : Bool :=
  b == 0x0A || b == 0x0D

/-- The line collected so far, unless it is empty, in front of the others. -/
def finishLine (line : Octets) (rest : List Octets) : List Octets :=
  if line.isEmpty then rest else line.reverse :: rest

/-- The lines that are not empty, the first continuing `line`, which is kept in reverse. -/
def linesFrom (line : Octets) : Octets → List Octets
  | [] => finishLine line []
  | b :: bs =>
    if isTerminator b then finishLine line (linesFrom [] bs) else linesFrom (b :: line) bs

/-- The lines of a text that are not empty. -/
def lines (bs : Octets) : List Octets :=
  linesFrom [] bs

/-- Four dashes. -/
def fourDashes : Octets := [0x2D, 0x2D, 0x2D, 0x2D]

/-- Five dashes. -/
def fiveDashes : Octets := 0x2D :: fourDashes

/-- Four dashes and a space. -/
def spacedDashes : Octets := fourDashes ++ [0x20]

/-- The word that opens a block. -/
def beginWord : Octets := Octets.ofAscii "BEGIN"

/-- Whether an octet may stand in the label of a block: capitals, digits and the space. -/
def isLabelOctet (b : UInt8) : Bool :=
  (0x41 ≤ b && b ≤ 0x5A) || (0x30 ≤ b && b ≤ 0x39) || b == 0x20

/-- The text after the opening dashes and the word `BEGIN`. -/
def afterBegin? (line : Octets) : Option Octets :=
  if (fiveDashes ++ beginWord ++ [0x20]).isPrefixOf line then some (line.drop 11)
  else if (spacedDashes ++ beginWord ++ [0x20]).isPrefixOf line then some (line.drop 11)
  else none

/-- The label of a line that opens a block: as long as it can be, followed by five dashes or by a
space and four dashes. Anything may follow those. -/
def beginLabel? (line : Octets) : Option Octets :=
  match afterBegin? line with
  | none => none
  | some rest =>
    let label := rest.takeWhile isLabelOctet
    let tail := rest.dropWhile isLabelOctet
    if !label.isEmpty && fiveDashes.isPrefixOf tail then some label
    else if 2 ≤ label.length && label.getLast? == some 0x20 && fourDashes.isPrefixOf tail then
      some label.dropLast
    else none

/-- Whether a line closes a block: it starts with five dashes or with four and a space. -/
def isClosing (line : Octets) : Bool :=
  fiveDashes.isPrefixOf line || spacedDashes.isPrefixOf line

/-- A header line has a colon. -/
def isHeader (line : Octets) : Bool :=
  line.contains 0x3A

theorem linesFrom_terminator {b : UInt8} (h : isTerminator b = true) (line bs : Octets) :
    linesFrom line (b :: bs) = finishLine line (linesFrom [] bs) := by
  simp [linesFrom, h]

/-- A terminator in front, or a second one in a row, makes no difference. -/
theorem lines_terminator {b : UInt8} (h : isTerminator b = true) (bs : Octets) :
    lines (b :: bs) = lines bs := by
  simp [lines, linesFrom_terminator h, finishLine]

end Specimen.Pem
