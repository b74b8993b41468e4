import Specimen.World

/-!
# Methods of a provider

The methods by which a provider is used have names, and four of them are also functions on the
default provider. A call gives as many arguments as the method takes.

* `argument_eq_ok_iff` — the calls that are in order.
* `ofName?_name` — a method is found by its name.
-/

namespace Specimen.Provider

/-- The methods of a provider. -/
inductive Method where
  | certificate
  | certificatePem
  | certificateFixture
  | certificateX509
  | certificateIo
  | companionDer
  | companionMatches
  | writeCompanion
  | bytes
  | bytesToIo
  deriving DecidableEq, Repr

/-- The name of a method. -/
def Method.name : Method → String
  | .certificate => "certificate"
  | .certificatePem => "certificate_pem"
  | .certificateFixture => "certificate_fixture"
  | .certificateX509 => "certificate_x509"
  | .certificateIo => "certificate_io"
  | .companionDer => "companion_der"
  | .companionMatches => "companion_matches"
  | .writeCompanion => "write_companion"
  | .bytes => "bytes"
  | .bytesToIo => "bytes_to_io"

/-- All methods. -/
def Method.all : List Method :=
  [.certificate, .certificatePem, .certificateFixture, .certificateX509, .certificateIo,
    .companionDer, .companionMatches, .writeCompanion, .bytes, .bytesToIo]

/-- The methods that are also functions on the default provider. -/
def Method.functions : List Method :=
  [.certificate, .certificateIo, .bytesToIo, .bytes]

/-- The method with a given name. -/
def Method.ofName? (s : String) : Option Method :=
  Method.all.find? (·.name == s)

/-- The method that a function with a given name stands for. -/
def Method.ofFunction? (s : String) : Option Method :=
  Method.functions.find? (·.name == s)

/-- Whether a method takes an argument. -/
def Method.takesParts (m : Method) : Bool :=
  m = .bytes || m = .bytesToIo

/-- The argument of a call, nothing for a method that takes none. The function is called `spelling`
in complaints, which count `hidden` further arguments. -/
def argument (m : Method) (spelling : String) (hidden : Nat) (args : List Value) :
    Except CallFlaw Value :=
  let takes := if m.takesParts then 1 else 0
  match args with
  | [] => if m.takesParts then .error (.missingArgument spelling "hex_parts") else .ok .none
  | [v] =>
    if m.takesParts then .ok v else .error (.extraArguments spelling (takes + hidden) (1 + hidden))
  | _ => .error (.extraArguments spelling (takes + hidden) (args.length + hidden))

theorem Method.ofName?_name (m : Method) : Method.ofName? m.name = some m := by
  cases m <;> decide

/-- A call is in order if it gives one argument to a method that takes one, and none to another. -/
theorem argument_eq_ok_iff {m : Method} {spelling : String} {hidden : Nat} {args : List Value}
    {v : Value} : argument m spelling hidden args = .ok v ↔
      if m.takesParts then args = [v] else args = [] ∧ v = .none := by
  unfold argument
  match args with
  | [] => cases m.takesParts <;> simp [eq_comm]
  | [w] => cases m.takesParts <;> simp
  | _ :: _ :: _ => cases m.takesParts <;> simp

end Specimen.Provider
