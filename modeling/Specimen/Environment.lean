import Specimen.Register

/-!
# The environment

The environment holds variables. A name is not empty and holds no equals sign, and neither a name
nor a value holds a null character.

* `set_lookup` — a variable that was set has the value it was set to.
-/

namespace Specimen

/-- Variables in the order in which they were first set. -/
abbrev Environment := Register String

/-- Why a variable cannot be set. -/
inductive VariableFlaw where
  /-- A null character stands in the name or in the value. -/
  | null
  /-- An equals sign stands in the name. -/
  | equalsSign
  /-- The name is empty. -/
  | noName
  deriving DecidableEq, Repr

/-- The wording of a flaw. -/
def VariableFlaw.message : VariableFlaw → String
  | .null => "embedded null byte"
  | .equalsSign => "illegal environment variable name"
  | .noName => "[Errno 22] Invalid argument"

namespace Environment

/-- What is wrong with a name and a value, if anything is. -/
def flaw? (name value : String) : Option VariableFlaw :=
  if name.toList.contains '\x00' || value.toList.contains '\x00' then some .null
  else if name.toList.contains '=' then some .equalsSign
  else if name = "" then some .noName
  else none

/-- Sets a variable. -/
def set (name value : String) (vs : Environment) : Except VariableFlaw Environment :=
  match flaw? name value with
  | some flaw => .error flaw
  | none => .ok (Register.put name value vs)

/-- A variable that was set has the value it was set to. -/
theorem set_lookup {name value : String} {vs ws : Environment} (h : vs.set name value = .ok ws) :
    ws.lookup name = some value := by
  unfold set at h
  split at h
  · simp at h
  · simp only [Except.ok.injEq] at h
    rw [← h]
    exact Register.lookup_put name value vs

end Environment

end Specimen
