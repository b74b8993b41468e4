import Specimen.Pem.FirstBlock

/-!
# All blocks of a text

The reader used for certificate literals. It pays no attention to lines: a block is everything
from `-----BEGIN ` to the dashes after the matching `-----END `. Every complete block of the text
has to be in order; one that is not completed is passed over.

A mark is searched for by counting how much of it the last octets matched; an octet that does not
continue the count starts it afresh at the next octet, so a mark right after a dash is missed.

* `seek_after` — what a search returns is followed by the mark.
-/

namespace Specimen.Pem

/-- Searches for `mark`, of which `todo` is still to be matched; `seen` holds the octets passed,
in reverse. Gives the octets up to and with the mark, in reverse, and the rest. -/
def seekFrom (mark : Octets) (todo seen : Octets) : Octets → Option (Octets × Octets)
  | [] => none
  | b :: bs =>
    match todo with
    | [] => none
    | [t] => if b = t then some (b :: seen, bs) else seekFrom mark mark (b :: seen) bs
    | t :: ts =>
      if b = t then seekFrom mark ts (b :: seen) bs else seekFrom mark mark (b :: seen) bs

/-- The octets before the first `mark` found, and those after it. -/
def seek? (mark text : Octets) : Option (Octets × Octets) :=
  (seekFrom mark mark [] text).map fun (seen, rest) => ((seen.drop mark.length).reverse, rest)

/-- The mark that opens a block. -/
def beginMark : Octets := fiveDashes ++ Octets.ofAscii "BEGIN "

/-- The mark that closes a block. -/
def endMark : Octets := fiveDashes ++ Octets.ofAscii "END "

/-- Space, tab, line feed and carriage return. -/
def isBlank (b : UInt8) : Bool :=
  b == 0x20 || b == 0x09 || b == 0x0A || b == 0x0D

/-- The white space that a body may hold: the blanks, vertical tab and form feed. -/
def isBodySpace (b : UInt8) : Bool :=
  isBlank b || b == 0x0B || b == 0x0C

/-- A block as it stands in the text. -/
structure RawBlock where
  beginLabel : Octets
  body : Octets
  endLabel : Octets

/-- The first complete block of a text, and the text after it. -/
def rawBlock? (text : Octets) : Option (RawBlock × Octets) := do
  let (_, text) ← seek? beginMark text
  let (label, text) ← seek? fiveDashes text
  let (body, text) ← seek? endMark (text.dropWhile isBlank)
  let (endLabel, text) ← seek? fiveDashes text
  pure (⟨label, body, endLabel⟩, text.dropWhile isBlank)

/-- The complete blocks of a text, at most `fuel` of them. -/
def rawBlocksWithin : Nat → Octets → List RawBlock
  | 0, _ => []
  | fuel + 1, text =>
    match rawBlock? text with
    | none => []
    | some (b, rest) => b :: rawBlocksWithin fuel rest

/-- The complete blocks of a text. A block has some octets, so no text has more blocks than
octets. -/
def rawBlocks (text : Octets) : List RawBlock :=
  rawBlocksWithin text.length text

/-- The header lines of a body and its data. Headers end at an empty line. -/
def splitHeaders (body : Octets) : Octets × Octets :=
  match seek? [0x0A, 0x0A] body with
  | some p => p
  | none => (seek? [0x0D, 0x0A, 0x0D, 0x0A] body).getD ([], body)

/-- The lines of a header text; a line feed at the end begins no further line. -/
def headerLines (headers : Octets) : List Octets :=
  let rec go (line : Octets) : Octets → List Octets
    | [] => if line.isEmpty then [] else [line]
    | b :: bs => if b = 0x0A then line :: go [] bs else go (b :: line) bs
  go [] headers

/-- The block in the text, if it is in order: one label at both ends, headers with colons, data in
strict base64. -/
def Block.ofRaw? (raw : RawBlock) : Option Block :=
  let (headers, data) := splitHeaders raw.body
  if raw.beginLabel.isEmpty || raw.beginLabel != raw.endLabel then none
  else if !(headerLines headers).all isHeader then none
  else (Base64.decodeStrict? (data.filter fun b => !isBodySpace b)).map (⟨raw.beginLabel, ·⟩)

/-- All blocks of a text, if each of them is in order. -/
def Block.all? (text : Octets) : Option (List Block) :=
  (rawBlocks text).mapM Block.ofRaw?

private theorem seekFrom_after {mark todo seen text : Octets} {p : Octets × Octets}
    (h : seekFrom mark todo seen text = some p) : p.1.reverse ++ p.2 = seen.reverse ++ text := by
  induction text generalizing todo seen with
  | nil => simp [seekFrom] at h
  | cons b bs ih =>
    unfold seekFrom at h
    split at h
    · simp at h
    · split at h
      · simp only [Option.some.injEq] at h; subst h; simp
      · simpa using ih h
    · split at h <;> simpa using ih h

/-- Nothing is lost: what a search has passed, the mark included, and the rest make up the text. -/
theorem seek_after {mark text : Octets} {seen rest : Octets}
    (h : seekFrom mark mark [] text = some (seen, rest)) : seen.reverse ++ rest = text := by
  simpa using seekFrom_after h

end Specimen.Pem
