import Specimen.Text.Quoted
import Specimen.Value

/-!
# Values as text

How a value is shown in messages: texts between quotes, octets between quotes with a mark in front,
collections with their items between brackets.
-/

namespace Specimen.Value

/-- Octets in one of their forms. -/
def showOctets (form : OctetForm) (bs : Octets) : String :=
  match form with
  | .fixed => Text.quotedOctets bs
  | .array => "bytearray(" ++ Text.quotedArray bs ++ ")"
  | .view => "<memory>"

/-- Items with commas between them; a single item of a tuple has a comma after it. -/
def showTuple (items : List String) : String :=
  match items with
  | [s] => "(" ++ s ++ ",)"
  | _ => "(" ++ ", ".intercalate items ++ ")"

/-- Keys and values with a colon between them. -/
def showEntries (keys values : List String) : String :=
  "\x7b" ++ ", ".intercalate (List.zipWith (fun k v => k ++ ": " ++ v) keys values) ++ "\x7d"

mutual

/-- The text of a value. -/
def display : Value → String
  | .text s => Text.quoted s
  | .int n => toString n
  | .bool b => if b then "True" else "False"
  | .none => "None"
  | .float x => x.text
  | .octets form bs => showOctets form bs
  | .list items => "[" ++ ", ".intercalate (displayAll items) ++ "]"
  | .tuple items => showTuple (displayAll items)
  | .stream _ => "<generator>"
  | .table keys values => showEntries (displayAll keys) (displayAll values)
  | .path p => "PosixPath(" ++ Text.quoted p.text ++ ")"

/-- The texts of values. -/
def displayAll : List Value → List String
  | [] => []
  | v :: vs => display v :: displayAll vs

end

end Specimen.Value
