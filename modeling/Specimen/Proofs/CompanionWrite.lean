import Specimen.Proofs.Writing
import Specimen.Proofs.Reading

/-!
# What writing a companion file does

Writing makes the folder, forms the path and writes the encoding, in this order. Each of the three
can fail, and only a write that goes well touches a file: the one that the path of the companion
file leads to afterwards.

* `Disk.FileUpdated`: one file has got a content, and all others are as they were.
* `Companion.write_on`: what a write gives and notes, by what it does to the disk.
* `Companion.write_cases`: the write by its steps.
* `Provider.file?`: the file of a provider, which stays the same one as long as no entry is lost.
* `Provider.writeCompanion_cases`: what a write comes to, and what it did to the disk.
-/

namespace Specimen

/-! ## Changes to the disk -/

namespace Disk

variable {d d' d₁ : Disk} {loc : Location} {n : Nat} {bs : Octets} {p : Path}

/-- The file `n` has got the content `bs`. All other files are where they were, with the contents
they had, and no entry is gone. -/
structure FileUpdated (d d' : Disk) (n : Nat) (bs : Octets) : Prop where
  home : d'.home = d.home
  keeps : d'.Extends d
  content : d'.content n = bs
  content_elsewhere : ∀ m, m ≠ n → d'.content m = d.content m
  file_iff : ∀ m, m ≠ n → ∀ l, d'.entryAt? l = some (.file m) ↔ d.entryAt? l = some (.file m)
  sound : d'.Sound

theorem Extends.trans {d'' : Disk} (h' : d''.Extends d') (h : d'.Extends d) : d''.Extends d :=
  fun loc e he => h' loc e (h loc e he)

/-- Folders may have been made before the file was written. -/
theorem FoldersAdded.fileUpdated (hf : FoldersAdded d d₁) (h : FileWritten d₁ d' loc n bs) :
    FileUpdated d d' n bs where
  home := h.home.trans hf.home
  keeps := h.extends.trans hf.extends
  content := h.content
  content_elsewhere m hm := (h.content_elsewhere m hm).trans (hf.content m)
  file_iff _ hm _ := (h.file_iff hm).trans hf.file_iff
  sound := h.sound

end Disk

namespace Run

@[simp]
theorem on_set (w' w : World) : (set w' : Run Unit).on w = (.ok (), w') := rfl

theorem on_makeFolders (p : Path) (w : World) :
    (makeFolders p).on w = ((w.disk.makeFolders w.ascents p).2.mapError .disk,
      { w with disk := (w.disk.makeFolders w.ascents p).1 }) := by
  unfold makeFolders
  rw [on_bind, on_get]
  show (ofExcept .disk (w.disk.makeFolders w.ascents p).2).on
    { w with disk := (w.disk.makeFolders w.ascents p).1 } = _
  cases (w.disk.makeFolders w.ascents p).2 <;> rfl

theorem on_changeDisk (f : Disk → Except DiskFlaw Disk) (w : World) :
    (changeDisk f).on w = match f w.disk with
      | .ok d => (.ok (), { w with disk := d })
      | .error flaw => (.error (.disk flaw), w) := by
  unfold changeDisk
  rw [on_bind, on_get]
  cases h : f w.disk <;> simp [on_bind, h]

end Run

/-! ## The steps of a write -/

namespace Companion

/-- What is noted of a write that goes well. -/
def writtenEvent (fixture : Fixture) (path : Path) (der : Octets) : Event :=
  ⟨.info, "fixture.companion_written", [("path", .text path.text), ("size", .int der.length),
    ("sha256", fixture.sha256Fingerprint)]⟩

/-- What a write makes of the disk, and the path and the encoding that it writes. -/
def writeTo (d : Disk) (ascents : Nat) (folder : Path) (fixture : Fixture) (filename : Value) :
    Disk × Except Fault (Path × Octets) :=
  match d.makeFolders ascents folder with
  | (d, .error flaw) => (d, .error (.disk flaw))
  | (d, .ok ()) =>
    match joinPath folder filename, fixture.der.octets? with
    | .error flaw, _ => (d, .error (.call flaw))
    | .ok _, none => (d, .error (.call (.notWritable fixture.der.kind)))
    | .ok path, some der =>
      match d.writeFile path der with
      | .ok d => (d, .ok (path, der))
      | .error flaw => (d, .error (.disk flaw))

variable {folder path : Path} {fixture : Fixture} {filename : Value} {der : Octets} {d : Disk}
  {w : World}

theorem write_on (folder : Path) (fixture : Fixture) (filename : Value) (w : World) :
    (write folder fixture filename).on w =
      match writeTo w.disk w.ascents folder fixture filename with
      | (d, .ok (path, der)) => (.ok path, { w with
          disk := d, console := w.console.note .companion (writtenEvent fixture path der) })
      | (d, .error fault) => (.error fault, { w with disk := d }) := by
  unfold write writeTo
  rw [Run.on_bind, Run.on_makeFolders]
  rcases w.disk.makeFolders w.ascents folder with ⟨made, flaw | u⟩
  · rfl
  · cases hp : joinPath folder filename with
    | error flaw => simp [Run.on_bind, Except.mapError]
    | ok path =>
      cases hder : fixture.der.octets? with
      | none => simp [Run.on_bind, Except.mapError]
      | some der =>
        cases hw : made.writeFile path der <;>
          simp [Run.on_bind, Run.on_changeDisk, Except.mapError, hw, writtenEvent,
            -bind_pure_comp]

theorem writeTo_of_steps (hmade : (w.disk.makeFolders w.ascents folder).2 = .ok ())
    (hp : joinPath folder filename = .ok path) (hder : fixture.der.octets? = some der)
    (hw : (w.disk.makeFolders w.ascents folder).1.writeFile path der = .ok d) :
    writeTo w.disk w.ascents folder fixture filename = (d, .ok (path, der)) := by
  unfold writeTo
  generalize w.disk.makeFolders w.ascents folder = r at hmade hw
  obtain ⟨made, r⟩ := r
  obtain rfl : r = .ok () := hmade
  simp only [hp, hder, hw]

/-- A write that no step of which fails. -/
theorem write_of_steps (hmade : (w.disk.makeFolders w.ascents folder).2 = .ok ())
    (hp : joinPath folder filename = .ok path) (hder : fixture.der.octets? = some der)
    (hw : (w.disk.makeFolders w.ascents folder).1.writeFile path der = .ok d) :
    ∃ e, (write folder fixture filename).on w =
      (.ok path, { w with disk := d, console := w.console.note .companion e }) := by
  refine ⟨writtenEvent fixture path der, ?_⟩
  rw [write_on, writeTo_of_steps hmade hp hder hw]

/-- A write goes through all its steps, or it ends with the folders that have been made. -/
theorem write_cases (folder : Path) (fixture : Fixture) (filename : Value) (w : World) :
    (∃ path der d e, (w.disk.makeFolders w.ascents folder).2 = .ok () ∧
      joinPath folder filename = .ok path ∧ fixture.der.octets? = some der ∧
      (w.disk.makeFolders w.ascents folder).1.writeFile path der = .ok d ∧
      (write folder fixture filename).on w =
        (.ok path, { w with disk := d, console := w.console.note .companion e })) ∨
    ∃ fault, (write folder fixture filename).on w =
      (.error fault, { w with disk := (w.disk.makeFolders w.ascents folder).1 }) := by
  rw [write_on, writeTo]
  rcases w.disk.makeFolders w.ascents folder with ⟨made, flaw | u⟩
  · exact .inr ⟨_, rfl⟩
  · cases joinPath folder filename with
    | error flaw => exact .inr ⟨_, rfl⟩
    | ok path =>
      cases fixture.der.octets? with
      | none => exact .inr ⟨_, rfl⟩
      | some der =>
        cases hw : made.writeFile path der with
        | error flaw => exact .inr ⟨.disk flaw, by simp only [hw]⟩
        | ok d => exact .inl ⟨path, der, d, _, rfl, rfl, rfl, hw, by simp only [hw]; rfl⟩

end Companion

namespace Provider

variable {p : Provider} {d d' : Disk} {w : World} {n : Nat}

/-- A provider that has been given no fixture serves the embedded one. -/
theorem fixture_of_notGiven (h : p.given = none) : p.fixture = Embedded.fixture := by
  rw [fixture, h, Option.getD_none]

/-- The file that the path of a provider leads to. -/
def file? (p : Provider) (d : Disk) : Option Nat :=
  match p.certificatePath with
  | .ok path => (d.openFile path).toOption.join
  | .error _ => none

theorem file?_eq_some_iff :
    p.file? d = some n ↔ ∃ path, p.certificatePath = .ok path ∧ d.openFile path = .ok (some n) := by
  unfold file?
  cases p.certificatePath with
  | error flaw => simp
  | ok path => cases h : d.openFile path <;> simp [Except.toOption, h]

theorem file?_eq_none {path : Path} (hp : p.certificatePath = .ok path)
    (ho : d.openFile path = .ok none) : p.file? d = none := by
  simp [file?, hp, ho, Except.toOption]

/-- Reading gives what `toDer` gives on the content of the provider's file. -/
theorem companionDer_of_file? (h : p.file? w.disk = some n) :
    (p.companionDer.on w).1 =
      (Companion.toDer (w.disk.content n)).mapError .companion := by
  obtain ⟨path, hp, ho⟩ := file?_eq_some_iff.1 h
  rw [companionDer_of_readFile hp (Disk.readFile_of_openFile ho)]
  rfl

@[simp]
theorem same_ofOctets (a b : Octets) : (Value.ofOctets a).same (.ofOctets b) = (a == b) := by
  simp [Value.ofOctets, Value.same, Value.samePlain]

/-- Comparing goes by the same content. -/
theorem companionMatches_of_file? (h : p.file? w.disk = some n) {own : Octets}
    (hown : p.fixture.der = .ofOctets own) :
    (p.companionMatches.on w).1 =
      ((Companion.toDer (w.disk.content n)).mapError .companion).map (· == own) := by
  rw [companionMatches_on_fst, companionDer_of_file? h, hown]
  simp

/-- A write ends with a file updated, the one of the provider, or with folders added at most: if
it fails, and if the path leads to a sink. -/
theorem writeCompanion_cases (p : Provider) (hd : w.disk.Sound) :
    (∃ path n der w', p.writeCompanion.on w = (.ok path, w') ∧ p.certificatePath = .ok path ∧
      p.file? w'.disk = some n ∧ p.fixture.der.octets? = some der ∧
      Disk.FileUpdated w.disk w'.disk n der) ∨
    (∃ path w', p.writeCompanion.on w = (.ok path, w') ∧ p.certificatePath = .ok path ∧
      w'.disk.openFile path = .ok none ∧ Disk.FoldersAdded w.disk w'.disk) ∨
    ∃ fault w', p.writeCompanion.on w = (.error fault, w') ∧
      Disk.FoldersAdded w.disk w'.disk := by
  have hf := Disk.makeFolders_foldersAdded w.disk w.ascents p.folder
  rcases Companion.write_cases p.folder p.fixture p.filename w with
    ⟨path, der, d, e, -, hp, hder, hw, hon⟩ | ⟨fault, hon⟩
  · rcases Disk.writeFile_cases (hf.sound hd) hw with ⟨loc, n, hwritten, hl⟩ | ⟨rfl, loc, hl⟩
    · exact .inl ⟨path, n, der, _, hon, hp,
        file?_eq_some_iff.2 ⟨path, hp, Disk.openFile_of_write hl⟩, hder, hf.fileUpdated hwritten⟩
    · exact .inr (.inl ⟨path, _, hon, hp, Disk.openFile_of_write_sink hl, hf⟩)
  · exact .inr (.inr ⟨fault, _, hon, hf⟩)

end Provider

end Specimen
