import Specimen.Proofs.LastWrite
import Specimen.Proofs.Regenerating

/-!
# Sessions keep their disk sound

That every file has a content is asked of a disk by what is shown about writing. It holds of a disk
without files, and no command of a session breaks it, whether it goes through a provider or not.

* `Act.keeps_perform`: a command that changes the disk by itself.
* `Session.sound_next`, `Session.sound_after`: any command, and a run of them.
-/

namespace Specimen

/-- The disk of a world is sound. -/
def World.Sound (w : World) : Prop :=
  w.disk.Sound

/-- The disk of a session is sound. -/
def Session.Sound (s : Session) : Prop :=
  s.world.disk.Sound

namespace Run

theorem keeps_makeFolders (p : Path) : Keeps World.Sound (makeFolders p) := by
  intro w hw
  show World.Sound ((makeFolders p).on w).2
  rw [on_makeFolders]
  exact Disk.sound_makeFolders hw w.ascents p

theorem keeps_changeDisk {f : Disk → Except DiskFlaw Disk}
    (hf : ∀ d d', d.Sound → f d = .ok d' → d'.Sound) : Keeps World.Sound (changeDisk f) := by
  intro w hw
  show World.Sound ((changeDisk f).on w).2
  rw [on_changeDisk]
  cases h : f w.disk with
  | ok d => exact hf w.disk d hw h
  | error flaw => exact hw

end Run

theorem Companion.keeps_write (folder : Path) (fixture : Fixture) (filename : Value) :
    Keeps World.Sound (Companion.write folder fixture filename) := by
  intro w hw
  show World.Sound ((Companion.write folder fixture filename).on w).2
  have hmade := Disk.sound_makeFolders hw w.ascents folder
  rcases write_cases folder fixture filename w with
    ⟨path, der, d, e, -, -, -, hd, hon⟩ | ⟨e, hon⟩
  · rw [hon]
    exact Disk.sound_writeFile hmade hd
  · rw [hon]
    exact hmade

theorem Regenerate.keeps_run (number : Nat) : Keeps World.Sound (Regenerate.run number) := by
  intro w hw
  show World.Sound ((Regenerate.run number).on w).2
  have hend := run_ending number hw
  generalize (Regenerate.run number).on w = r at hend
  cases hend with
  | wrongSettings hs => exact hw
  | settled hs hend =>
    cases hend with
    | done hfile hdisk hconsole => exact hdisk.sound
    | refused hdisk => exact hdisk.sound hw
    | fault hdisk => exact hdisk.sound hw

namespace Act

theorem keeps_ofRun {r : Run α} (h : Keeps World.Sound r) : Keeps Session.Sound (ofRun r) := by
  intro s hs
  rw [run_ofRun]
  exact h s.world hs

/-- A command that may change the disk, and not through a provider, keeps it sound. -/
theorem keeps_perform {c : Command} (hd : c.isDirect = true) :
    Keeps Session.Sound (perform c) := by
  cases c with
  | writeFile path data =>
    exact .bind (keeps_ofRun (Run.keeps_makeFolders _)) fun _ =>
      .bind (keeps_ofRun (Run.keeps_changeDisk fun _ _ => Disk.sound_writeFile)) fun _ => .pure _
  | makeFolder path => exact .bind (keeps_ofRun (Run.keeps_makeFolders _)) fun _ => .pure _
  | makeLink path target =>
    exact .bind (keeps_ofRun (Run.keeps_changeDisk fun _ _ => Disk.sound_makeLink)) fun _ =>
      .pure _
  | remove path =>
    exact .bind (keeps_ofRun (Run.keeps_changeDisk fun _ _ => Disk.sound_remove)) fun _ => .pure _
  | writeCompanion folder filename =>
    exact .bind (keeps_ofRun (Companion.keeps_write _ _ _)) fun _ => .pure _
  | regenerate =>
    exact .bind .get fun _ => .bind (keeps_ofRun (Regenerate.keeps_run _)) fun _ => .pure _
  | _ => simp [Command.isDirect] at hd

end Act

namespace Session

variable {s : Session}

theorem sound_next (hs : s.Sound) (c : Command) : (s.next c).Sound := by
  cases hd : c.isDirect with
  | false => exact (next_rewritten hs hd).sound
  | true => exact Act.keeps_perform hd s.silent hs

/-- **Soundness.** A session whose disk is sound keeps it so, whatever commands it is given. -/
theorem sound_after (hs : s.Sound) (cs : List Command) : (s.after cs).Sound := by
  induction cs generalizing s with
  | nil => exact hs
  | cons c cs ih => exact ih (sound_next hs c)

end Session

end Specimen
