import Specimen.Regenerate

/-!
# Commands of a session

What a session can be asked to do, and what it answers. Providers and streams go by the names under
which the session keeps them.

* `Command` — the requests.
* `Reply` — the answers.
-/

namespace Specimen

/-- Where a provider's fixture comes from. -/
inductive FixtureSource where
  | embedded
  | pem (text : Value)
  | fields (fields : Register Value)

/-- What a session can be asked to do. -/
inductive Command where
  | writeFile (path : Path) (data : Octets)
  | makeFolder (path : Path)
  | makeLink (path : Path) (target : String)
  | remove (path : Path)
  | read (path : Path)
  | tree
  | setVariable (name value : String)
  | dropVariable (name : String)
  | settings (given : Register Value)
  | provider (name : String) (folder filename : Option Value) (fixture : FixtureSource)
  | providerFromSettings (name : String) (given : Register Value)
  | defaultProvider (name : String)
  | forgetDefault
  /-- Calls a method of a provider; a stream that it gives is kept under a name. -/
  | call (provider : String) (method : String) (args : List Value) (stream : String)
  /-- Calls a function on the default provider. -/
  | callDefault (function : String) (args : List Value) (stream : String)
  /-- Calls a stream by the name of a call. -/
  | callStream (stream : String) (call : String) (args : List Value)
  | openCompanion (path : Path) (stream : String)
  | readCompanion (path : Path)
  /-- Takes the armour off companion data, if it has one. -/
  | decodeCompanion (data : Value)
  | writeCompanion (folder : Path) (filename : Option Value)
  | configure (args : List Value)
  | note (event : Event)
  | regenerate
  | version

/-- What a session answers. -/
inductive Reply where
  | nothing
  | count (n : Nat)
  | text (s : String)
  | flag (b : Bool)
  | octets (bs : Octets)
  | value (v : Value)
  | lines (ls : List String)
  | stream (name : String)
  | settings (s : Settings)
  | fixture (f : Fixture) (der : Octets) (embedded : Bool)
  | certificate (version : X509.Version) (serial : Int) (subject issuer : String)
  | default (path : Path) (sameAsEarlier : List Bool)
  | outcome (o : Regenerate.Outcome)

end Specimen
