import Specimen.Embedded
import Specimen.World

/-!
# The companion file

The copy of a fixture's encoding on disk. It is opened for reading, read back with its armour taken
off, and written anew. Each of these notes an event.

* `decode_on_fst` — decoding data in order gives the certificate in it.
-/

namespace Specimen.Companion

open Run

/-- Opens a companion file for reading. -/
def openFile (p : Path) : Run Stream := do
  let w ← get
  let file ← ofExcept .disk (w.disk.openFile p)
  note .companion .debug "fixture.companion_opened" [("path", .text p.text)]
  pure (.ofFile file)

/-- The encoding of the certificate in companion data, noting what the data is taken for. -/
def decode (data : Octets) : Run Octets := do
  let (encoding, der) ← ofExcept .companion (unarmour data)
  note .companion .debug "fixture.companion_encoding" [("encoding", .text encoding.name)]
  ofExcept .companion (check der)
  pure der

/-- The encoding of the certificate in a companion file. -/
def read (p : Path) : Run Octets := do
  let w ← get
  let data ← ofExcept .disk (w.disk.readFile p)
  decode data

/-- The path of a part in a folder. -/
def joinPath (folder : Path) : Value → Except CallFlaw Path
  | .text s => .ok (folder.join (Path.ofText s))
  | .path p => .ok (folder.join p)
  | v => .error (.notJoinable v.kind)

/-- Writes the encoding of a fixture to a file in a folder, which is made if it is missing. -/
def write (folder : Path) (fixture : Fixture) (filename : Value) : Run Path := do
  makeFolders folder
  let p ← ofExcept .call (joinPath folder filename)
  match fixture.der.octets? with
  | none => throw (.call (.notWritable fixture.der.kind))
  | some der =>
    changeDisk (·.writeFile p der)
    note .companion .info "fixture.companion_written"
      [("path", .text p.text), ("size", .int der.length), ("sha256", fixture.sha256Fingerprint)]
    pure p

/-- Decoding companion data that is in order gives what `toDer` gives. -/
theorem decode_on_fst {data der : Octets} (h : toDer data = .ok der) (w : World) :
    ((decode data).on w).1 = .ok der := by
  obtain ⟨⟨e, hu⟩, hc⟩ := toDer_eq_ok_iff.1 h
  simp [decode, on_bind, hu, hc, -bind_pure_comp]

end Specimen.Companion
