/-!
# Kinds of values

A test hands values of any kind to the library. `Kind` names them; `Kind.name` is the spelling
that messages use.
-/

namespace Specimen

/-- What sort of value a caller handed over. -/
inductive Kind where
  | text
  | int
  | bool
  | none
  | float
  | octets
  | octetArray
  | octetView
  | list
  | tuple
  | stream
  | table
  | path
  deriving DecidableEq, Repr

namespace Kind

/-- The spelling of a kind in messages. -/
def name : Kind → String
  | .text => "str"
  | .int => "int"
  | .bool => "bool"
  | .none => "NoneType"
  | .float => "float"
  | .octets => "bytes"
  | .octetArray => "bytearray"
  | .octetView => "memoryview"
  | .list => "list"
  | .tuple => "tuple"
  | .stream => "generator"
  | .table => "dict"
  | .path => "PosixPath"

end Kind

end Specimen
