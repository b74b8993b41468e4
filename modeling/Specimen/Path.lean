/-!
# Paths

A path is an anchor and a list of parts. Text is taken apart at slashes; empty parts and single
points fall away, so a path has one form. Two slashes at the front, and no more than two, are an
anchor of their own.

* `ofText_name` — a text that can be a file name is the single part of a relative path.
* `parts_join_here` — a path joined with a relative one has the parts of both.
-/

namespace Specimen

/-- Where a path starts. -/
inductive Anchor where
  | here
  | root
  | doubleRoot
  deriving DecidableEq, Repr

/-- A path. -/
structure Path where
  anchor : Anchor
  parts : List String
  deriving DecidableEq, Repr

namespace Path

/-- The pieces of a text between slashes, the first continuing `piece`, which is kept in
reverse. -/
def piecesFrom (piece : List Char) : List Char → List (List Char)
  | [] => [piece.reverse]
  | c :: cs => if c = '/' then piece.reverse :: piecesFrom [] cs else piecesFrom (c :: piece) cs

/-- The pieces of a text between slashes. -/
def pieces (cs : List Char) : List (List Char) :=
  piecesFrom [] cs

/-- The anchor of a text by the slashes in front. -/
def anchorOf (cs : List Char) : Anchor :=
  match (cs.takeWhile (· = '/')).length with
  | 0 => .here
  | 2 => .doubleRoot
  | _ => .root

/-- Whether a piece is a part of a path. -/
def isPart (cs : List Char) : Bool :=
  !cs.isEmpty && cs != ['.']

/-- The path that a text writes. -/
def ofText (s : String) : Path :=
  ⟨anchorOf s.toList, ((pieces s.toList).filter isPart).map String.ofList⟩

/-- The slashes of an anchor. -/
def anchorText : Anchor → String
  | .here => ""
  | .root => "/"
  | .doubleRoot => "//"

/-- The text of a path; the path of nothing is a point. -/
def text (p : Path) : String :=
  if p.anchor = .here ∧ p.parts = [] then "."
  else anchorText p.anchor ++ "/".intercalate p.parts

/-- A path seen from another one; a path with an anchor stays what it is. -/
def join (p q : Path) : Path :=
  if q.anchor = .here then ⟨p.anchor, p.parts ++ q.parts⟩ else q

/-- The last part, or nothing. -/
def name (p : Path) : String :=
  p.parts.getLast?.getD ""

/-- The path without its last part; a path without parts is its own parent. -/
def parent (p : Path) : Path :=
  ⟨p.anchor, p.parts.dropLast⟩

/-- Whether a text is a file name and nothing else: the name of its own path, and not one of the
two points that name directories. -/
def isBareName (s : String) : Bool :=
  (ofText s).name == s && s != "." && s != ".."

theorem piecesFrom_of_no_slash {cs : List Char} (h : '/' ∉ cs) (piece : List Char) :
    piecesFrom piece cs = [piece.reverse ++ cs] := by
  induction cs generalizing piece with
  | nil => simp [piecesFrom]
  | cons c cs ih =>
    simp only [List.mem_cons, not_or] at h
    have hc : c ≠ '/' := fun e => h.1 e.symm
    simp [piecesFrom, hc, ih h.2]

/-- A text without slashes, not empty and not a point, is the single part of a relative path. -/
theorem ofText_name {s : String} (hs : '/' ∉ s.toList) (he : s ≠ "") (hp : s ≠ ".") :
    ofText s = ⟨.here, [s]⟩ := by
  have h1 : anchorOf s.toList = .here := by
    cases hc : s.toList with
    | nil => rfl
    | cons c cs =>
      rw [hc] at hs
      simp only [List.mem_cons, not_or] at hs
      have : c ≠ '/' := fun e => hs.1 e.symm
      simp [anchorOf, this]
  have h2 : isPart s.toList = true := by
    have he' : s.toList ≠ [] := fun e => he (String.toList_inj.1 (by simpa using e))
    have hp' : s.toList ≠ ['.'] := fun e => hp (String.toList_inj.1 (by simpa using e))
    simp [isPart, he', hp']
  simp [ofText, h1, pieces, piecesFrom_of_no_slash hs, h2]

/-- A path joined with one that starts here is written with the parts of both. -/
theorem parts_join_here {p q : Path} (h : q.anchor = .here) :
    (p.join q).parts = p.parts ++ q.parts := by
  simp [join, h]

end Path

end Specimen
