import Specimen.Environment
import Specimen.Text.Blank
import Specimen.Text.Utf8

/-!
# Settings files

A settings file assigns texts to names, one assignment to a line: a name, an equals sign and a
value. The word `export` may stand in front, a comment behind. A value between quotes may run over
lines and has escapes; one without quotes ends with its line or before a comment. A name without an
equals sign has no value, and a line that is no assignment is passed over. In a value, `${name}`
stands for what the name was assigned before or, failing that, for a variable of the environment,
and `${name:-text}` gives a text for the case that there is neither.

* `parse` — the assignments of a text, in order.
* `assignments` — the final value of each name.
-/

namespace Specimen.EnvFile

/-! ## The grammar -/

/-- What remains of a text after a piece of it has been recognised; on failure, what remains after
the last piece that was. -/
inductive Step (α : Type) where
  | done (a : α) (rest : List Char)
  | stuck (rest : List Char)

/-- Line ends written as line feeds. -/
def unifyLines : List Char → List Char
  | '\r' :: '\n' :: cs => '\n' :: unifyLines cs
  | '\r' :: cs => '\n' :: unifyLines cs
  | c :: cs => c :: unifyLines cs
  | [] => []

/-- The text after the word `export` and white space, if it begins so. -/
def skipExport (cs : List Char) : List Char :=
  let word := ['e', 'x', 'p', 'o', 'r', 't']
  if word.isPrefixOf cs then
    match cs.drop word.length with
    | c :: rest => if Text.isInlineBlank c then rest.dropWhile Text.isInlineBlank else cs
    | [] => cs
  else cs

/-- The text between quotes, up to a quote without a backslash in front of it; if there is none, up
to the last quote there is. -/
def quotedText? (quote : Char) : List Char → Option (List Char × List Char)
  | [] => none
  | c :: cs =>
    if c = quote then some ([], cs)
    else if c = '\\' then
      match cs with
      | d :: ds =>
        if d = quote then
          match quotedText? quote ds with
          | some (value, rest) => some (c :: d :: value, rest)
          | none => some ([c], ds)
        else (quotedText? quote (d :: ds)).map fun (value, rest) => (c :: value, rest)
      | [] => none
    else (quotedText? quote cs).map fun (value, rest) => (c :: value, rest)

/-- A name: between single quotes, or up to an equals sign, a number sign or white space. A comment
has none. -/
def readName (cs : List Char) : Step (Option String) :=
  match cs with
  | '#' :: _ => .done none cs
  | '\x27' :: rest =>
    let name := rest.takeWhile (· ≠ '\x27')
    match rest.dropWhile (· ≠ '\x27') with
    | _ :: after => if name.isEmpty then .stuck cs else .done (some (String.ofList name)) after
    | [] => .stuck cs
  | _ =>
    let inName := fun c => c ≠ '=' ∧ c ≠ '#' ∧ Text.isBlank c = false
    let name := cs.takeWhile inName
    if name.isEmpty then .stuck cs
    else .done (some (String.ofList name)) (cs.dropWhile inName)

/-- What a backslash and a letter stand for between double quotes. -/
def doubleEscapes : List (Char × Char) :=
  [('\\', '\\'), ('\x27', '\x27'), ('\x22', '\x22'), ('a', '\x07'), ('b', '\x08'), ('f', '\x0c'),
    ('n', '\n'), ('r', '\r'), ('t', '\t'), ('v', '\x0b')]

/-- What a backslash and a character stand for between single quotes. -/
def singleEscapes : List (Char × Char) :=
  [('\\', '\\'), ('\x27', '\x27')]

/-- A text with its escapes resolved; a backslash in front of another character stays. -/
def unescape (escapes : List (Char × Char)) : List Char → List Char
  | [] => []
  | '\\' :: c :: cs =>
    match escapes.lookup c with
    | some d => d :: unescape escapes cs
    | none => '\\' :: unescape escapes (c :: cs)
  | c :: cs => c :: unescape escapes cs

/-- A line up to white space and a number sign after it. -/
def cutComment : List Char → List Char
  | [] => []
  | c :: cs =>
    if Text.isBlank c && (cs.dropWhile Text.isBlank).head? == some '#' then []
    else c :: cutComment cs

/-- A text without white space at its end. -/
def trimEnd (cs : List Char) : List Char :=
  (cs.reverse.dropWhile Text.isBlank).reverse

/-- Whether a character ends a line. -/
def isLineEnd (c : Char) : Bool :=
  c == '\n' || c == '\r'

/-- A value after an equals sign and white space. -/
def readValue (cs : List Char) : Step (List Char) :=
  match cs with
  | [] => .done [] []
  | c :: rest =>
    if c = '\x27' then
      match quotedText? c rest with
      | some (value, rest) => .done (unescape singleEscapes value) rest
      | none => .stuck cs
    else if c = '\x22' then
      match quotedText? c rest with
      | some (value, rest) => .done (unescape doubleEscapes value) rest
      | none => .stuck cs
    else if isLineEnd c then .done [] cs
    else .done (trimEnd (cutComment (cs.takeWhile fun c => !isLineEnd c)))
      (cs.dropWhile fun c => !isLineEnd c)

/-- The rest of a text after a comment, if one comes next. -/
def skipComment (cs : List Char) : List Char :=
  match cs.dropWhile Text.isInlineBlank with
  | '#' :: rest => rest.dropWhile fun c => !isLineEnd c
  | _ => cs

/-- The rest of a text after the end of a line, if white space alone stands in front of it. -/
def lineEnd? (cs : List Char) : Option (List Char) :=
  match cs.dropWhile Text.isInlineBlank with
  | [] => some []
  | c :: rest => if isLineEnd c then some rest else none

/-- The rest of a text after the line it begins with. -/
def skipLine (cs : List Char) : List Char :=
  (cs.dropWhile fun c => !isLineEnd c).drop 1

/-- A name with its value, if it has one. -/
structure Assignment where
  name : String
  value : Option (List Char)
  deriving DecidableEq, Repr

/-- The value after a name, if an equals sign follows it. -/
def readAssigned (cs : List Char) : Step (Option (List Char)) :=
  match cs.dropWhile Text.isInlineBlank with
  | '=' :: rest =>
    let rest := rest.dropWhile Text.isInlineBlank
    match readValue rest with
    | .done value rest => .done (some value) rest
    | .stuck rest => .stuck rest
  | rest => .done none rest

/-- The assignment that a text begins with, after white space of any kind. -/
def readAssignment (cs : List Char) : Step (Option Assignment) :=
  match readName (skipExport cs) with
  | .stuck rest => .stuck rest
  | .done name rest =>
    match readAssigned rest with
    | .stuck rest => .stuck rest
    | .done value rest =>
      let rest := skipComment rest
      match lineEnd? rest with
      | some rest => .done (name.map (⟨·, value⟩)) rest
      | none => .stuck rest

/-- The assignments of a text, at most `fuel` lines of it. -/
def parseWithin : Nat → List Char → List Assignment
  | 0, _ => []
  | fuel + 1, cs =>
    match cs.dropWhile Text.isBlank with
    | [] => []
    | c :: cs =>
      match readAssignment (c :: cs) with
      | .done (some a) rest => a :: parseWithin fuel rest
      | .done none rest => parseWithin fuel rest
      | .stuck rest => parseWithin fuel (skipLine rest)

/-- The assignments of a text. Each line that is read has a character or more. -/
def parse (cs : List Char) : List Assignment :=
  parseWithin (cs.length + 1) cs

/-! ## References -/

/-- A piece of a value. -/
inductive Piece where
  | plain (c : Char)
  | reference (name : String) (default : List Char)

/-- A reference, after the dollar sign and the brace, and the rest of the text. -/
def reference? (cs : List Char) : Option (Piece × List Char) :=
  let name := cs.takeWhile fun c => c ≠ '\x7d' ∧ c ≠ ':'
  match cs.dropWhile fun c => c ≠ '\x7d' ∧ c ≠ ':' with
  | '\x7d' :: rest => some (.reference (String.ofList name) [], rest)
  | ':' :: '-' :: rest =>
    let default := rest.takeWhile (· ≠ '\x7d')
    match rest.dropWhile (· ≠ '\x7d') with
    | _ :: after => some (.reference (String.ofList name) default, after)
    | [] => none
  | _ => none

/-- The pieces of a value, at most `fuel` of them. -/
def piecesWithin : Nat → List Char → List Piece
  | 0, _ => []
  | _, [] => []
  | fuel + 1, c :: cs =>
    match c, cs with
    | '$', '\x7b' :: rest =>
      match reference? rest with
      | some (piece, rest) => piece :: piecesWithin fuel rest
      | none => .plain c :: piecesWithin fuel cs
    | _, _ => .plain c :: piecesWithin fuel cs

/-- The pieces of a value. -/
def pieces (cs : List Char) : List Piece :=
  piecesWithin cs.length cs

/-- The text of a piece, `earlier` values going before variables. -/
def Piece.resolve (environment : Environment) (earlier : Register (Option String)) :
    Piece → List Char
  | .plain c => [c]
  | .reference name default =>
    match earlier.lookup name with
    | some value => (value.getD "").toList
    | none =>
      match environment.lookup name with
      | some value => value.toList
      | none => default

/-- The value of each name after all assignments, in the order of the names' first ones. -/
def resolve (environment : Environment) (assigned : List Assignment) :
    Register (Option String) :=
  assigned.foldl (fun earlier a =>
    earlier.put a.name (a.value.map fun cs =>
      String.ofList ((pieces cs).flatMap (Piece.resolve environment earlier)))) []

/-- The value of each name in a settings file. -/
def assignments (environment : Environment) (octets : Octets) :
    Except Text.Utf8.Flaw (Register (Option String)) :=
  (Text.Utf8.decode octets).map fun cs => resolve environment (parse (unifyLines cs))

end Specimen.EnvFile
