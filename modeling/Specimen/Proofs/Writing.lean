import Specimen.Proofs.Contents

/-!
# What a write does, and what it leaves

Making folders adds folders and does nothing else. Writing a file concerns one place of the disk
and the content of one file. A path is walked in one way when a file is written and in another when
it is read; the second walk ends where the first one did.

* `FoldersMade`: the disk has changed by new folders at most, those on a path;
  `makeFolders_foldersMade`.
* `FileWritten`: one file has got a content, and may be new; `writeFile_cases`.
* `makeFolders_of_look`, `writeFile_writeFile`: what has been made or written is left as it is.
* `readFile_writeFile`: if a path leads to a file after a write, reading it gives what was written.
-/

namespace Specimen.Disk

variable {d d' d'' : Disk} {p : Path} {loc : Location} {n : Nat} {bs : Octets}

/-! ## Folders -/

/-- The disk has changed by new folders at most. -/
structure FoldersAdded (d d' : Disk) : Prop where
  home : d'.home = d.home
  contents : d'.contents = d.contents
  entry : ∀ loc, d'.entryAt? loc = d.entryAt? loc ∨
    d.entryAt? loc = none ∧ d'.entryAt? loc = some .folder

theorem FoldersAdded.refl (d : Disk) : FoldersAdded d d :=
  ⟨rfl, rfl, fun _ => .inl rfl⟩

theorem FoldersAdded.trans (h : FoldersAdded d d') (h' : FoldersAdded d' d'') :
    FoldersAdded d d'' := by
  refine ⟨h'.home.trans h.home, h'.contents.trans h.contents, fun loc => ?_⟩
  rcases h'.entry loc with he' | ⟨hn', hf'⟩
  · rw [he']
    exact h.entry loc
  · rcases h.entry loc with he | ⟨hn, hf⟩
    · exact .inr ⟨he ▸ hn', hf'⟩
    · rw [hf] at hn'
      exact absurd hn' (by simp)

theorem FoldersAdded.extends (h : FoldersAdded d d') : d'.Extends d := by
  intro loc e he
  rcases h.entry loc with hl | ⟨hn, -⟩
  · rw [hl, he]
  · rw [hn] at he
    exact absurd he (by simp)

/-- No file is new, and none is gone. -/
theorem FoldersAdded.file_iff (h : FoldersAdded d d') :
    d'.entryAt? loc = some (.file n) ↔ d.entryAt? loc = some (.file n) := by
  rcases h.entry loc with hl | ⟨hn, hf⟩
  · rw [hl]
  · simp [hn, hf]

theorem FoldersAdded.content (h : FoldersAdded d d') (n : Nat) : d'.content n = d.content n := by
  rw [Disk.content, Disk.content, h.contents]

theorem FoldersAdded.sound (h : FoldersAdded d d') (hd : d.Sound) : d'.Sound := by
  intro loc n hn
  rw [h.contents]
  exact hd loc n (h.file_iff.1 hn)

/-- A path above `p` leads to a folder, or `p` itself does. -/
def NamedAbove (d : Disk) (p : Path) (loc : Location) : Prop :=
  ∃ q : Path, q.Above p ∧ d.locate .look q = .ok (.taken loc .folder)

theorem NamedAbove.of_extends (h : d.NamedAbove p loc) (hd : d'.Extends d)
    (hh : d'.home = d.home) : d'.NamedAbove p loc := by
  obtain ⟨q, hq, hl⟩ := h
  exact ⟨q, hq, locate_of_extends hd hh hl⟩

/-- The disk has changed by new folders at most, and a path above `p` leads to each of them. -/
structure FoldersMade (d d' : Disk) (p : Path) : Prop extends FoldersAdded d d' where
  named : ∀ loc, d.entryAt? loc = none → d'.entryAt? loc = some .folder → d'.NamedAbove p loc

theorem FoldersMade.refl (d : Disk) (p : Path) : FoldersMade d d p where
  toFoldersAdded := .refl d
  named loc hnone hfolder := by
    rw [hnone] at hfolder
    exact absurd hfolder (by simp)

/-- A folder that has been made is the one that its path leads to. -/
theorem makeFolder_eq_ok (h : d.makeFolder p = .ok d') :
    ∃ loc, d.entryAt? loc = none ∧ loc ≠ [] ∧ d' = d.insert loc .folder ∧
      d'.locate .look p = .ok (.taken loc .folder) := by
  unfold makeFolder at h
  split at h
  · simp at h
  · rename_i loc slash hl
    obtain rfl := Except.ok.inj h
    have hfits : d.entryAt? loc = none := locate_fits hl
    have hne := ne_nil_of_vacant (locate_fits hl)
    have hnew : (d.insert loc .folder).entryAt? loc = some .folder := by
      rw [entryAt?_insert d _ hne, if_pos rfl]
    exact ⟨loc, hfits, hne, rfl,
      locate_settles (.look _) (extends_insert hfits .folder) rfl (.folder hnew) hl⟩
  · simp at h

theorem FoldersMade.makeFolder {q : Path} (hq : q.Above p) (h : FoldersMade d d' p)
    (hmade : d'.makeFolder q = .ok d'') : FoldersMade d d'' p := by
  obtain ⟨loc, hnone, hne, rfl, hlook⟩ := makeFolder_eq_ok hmade
  have hadded : FoldersAdded d' (d'.insert loc .folder) := by
    refine ⟨rfl, rfl, fun l => ?_⟩
    rw [entryAt?_insert d' _ hne]
    by_cases hl : l = loc
    · exact .inr ⟨hl ▸ hnone, if_pos hl⟩
    · exact .inl (if_neg hl)
  refine ⟨h.toFoldersAdded.trans hadded, fun l hl hfolder => ?_⟩
  by_cases hloc : l = loc
  · exact ⟨q, hq, hloc ▸ hlook⟩
  · rw [entryAt?_insert d' _ hne, if_neg hloc] at hfolder
    exact (h.named l hl hfolder).of_extends hadded.extends rfl

/-- Making folders adds folders that paths above lead to, also on the way to a failure, and does
nothing else. -/
theorem makeFolders_foldersMade (d : Disk) (ascents : Nat) (p : Path) :
    FoldersMade d (d.makeFolders ascents p).1 p :=
  makeFolders_keeps (P := (FoldersMade d · p)) (fun hq h => h.makeFolder hq) (.refl d p) ascents

theorem makeFolders_foldersAdded (d : Disk) (ascents : Nat) (p : Path) :
    FoldersAdded d (d.makeFolders ascents p).1 :=
  (makeFolders_foldersMade d ascents p).toFoldersAdded

theorem sound_makeFolders (hd : d.Sound) (ascents : Nat) (p : Path) :
    (d.makeFolders ascents p).1.Sound :=
  (makeFolders_foldersAdded d ascents p).sound hd

/-! ## Files -/

/-- The file `n` has got the content `bs`. It stands at `loc`, where it may be new; nothing else
has changed. -/
structure FileWritten (d d' : Disk) (loc : Location) (n : Nat) (bs : Octets) : Prop where
  home : d'.home = d.home
  entry : d'.entryAt? loc = some (.file n)
  entry_before : d.entryAt? loc = some (.file n) ∨
    d.entryAt? loc = none ∧ n = d.contents.length
  entry_elsewhere : ∀ l, l ≠ loc → d'.entryAt? l = d.entryAt? l
  content : d'.content n = bs
  content_elsewhere : ∀ m, m ≠ n → d'.content m = d.content m
  sound : d'.Sound

theorem fileWritten_setContent (hd : d.Sound) (he : d.entryAt? loc = some (.file n))
    (bs : Octets) : FileWritten d (d.setContent n bs) loc n bs where
  home := rfl
  entry := he
  entry_before := .inl he
  entry_elsewhere _ _ := rfl
  content := content_setContent (hd loc n he) bs
  content_elsewhere m hm := by simp [Disk.content, setContent, Ne.symm hm]
  sound := hd.setContent n bs

theorem fileWritten_newFile (hd : d.Sound) (hn : d.entryAt? loc = none) (hne : loc ≠ [])
    (bs : Octets) : FileWritten d (d.newFile loc bs) loc d.contents.length bs where
  home := rfl
  entry := entryAt?_newFile d hne bs
  entry_before := .inr ⟨hn, rfl⟩
  entry_elsewhere l hl := entryAt?_insert_ne d (.file d.contents.length) hl
  content := content_newFile d loc bs
  content_elsewhere m hm := by
    by_cases hlt : m < d.contents.length
    · simp [Disk.content, newFile, List.getElem?_append_left hlt]
    · have hlong : (d.contents ++ [bs]).length ≤ m := by
        rw [List.length_append, List.length_singleton]
        omega
      rw [Disk.content, Disk.content, newFile, List.getElem?_eq_none hlong,
        List.getElem?_eq_none (Nat.le_of_not_lt hlt)]
  sound := hd.newFile hne bs

theorem FileWritten.extends (h : FileWritten d d' loc n bs) : d'.Extends d := by
  intro l e he
  by_cases hl : l = loc
  · subst hl
    rcases h.entry_before with hb | ⟨hb, -⟩
    · rw [h.entry, ← hb, he]
    · rw [hb] at he
      exact absurd he (by simp)
  · rw [h.entry_elsewhere l hl, he]

/-- A file with another number stands where it stood, and has the content it had. -/
theorem FileWritten.file_iff (h : FileWritten d d' loc n bs) {l : Location} {m : Nat}
    (hm : m ≠ n) : d'.entryAt? l = some (.file m) ↔ d.entryAt? l = some (.file m) := by
  by_cases hl : l = loc
  · subst hl
    rw [h.entry]
    rcases h.entry_before with hb | ⟨hb, -⟩
    · rw [hb]
    · simp [hb, Ne.symm hm]
  · rw [h.entry_elsewhere l hl]

/-- A path that leads to a file. -/
theorem openFile_eq_some_iff :
    d.openFile p = .ok (some n) ↔ ∃ loc, d.locate .look p = .ok (.taken loc (.file n)) := by
  constructor
  · intro h
    unfold openFile at h
    split at h
    · rename_i loc m hl
      simp only [Except.ok.injEq, Option.some.injEq] at h
      exact ⟨loc, h ▸ hl⟩
    all_goals simp at h
  · rintro ⟨loc, hl⟩
    simp [openFile, hl]

theorem openFile_of_write (h : d.locate .write p = .ok (.taken loc (.file n))) :
    d.openFile p = .ok (some n) :=
  openFile_eq_some_iff.2 ⟨loc, locate_look_of_write h⟩

theorem openFile_of_write_sink (h : d.locate .write p = .ok (.taken loc .sink)) :
    d.openFile p = .ok none := by
  rw [openFile, locate_look_of_write h]

/-- A write that goes well concerns one file, to which the path leads afterwards, or nothing at
all; then the path leads to a sink. -/
theorem writeFile_cases (hd : d.Sound) (h : d.writeFile p bs = .ok d') :
    (∃ loc n, FileWritten d d' loc n bs ∧ d'.locate .write p = .ok (.taken loc (.file n))) ∨
    (d' = d ∧ ∃ loc, d.locate .write p = .ok (.taken loc .sink)) := by
  unfold writeFile at h
  split at h
  · rename_i loc m hl
    obtain rfl := Except.ok.inj h
    have hfits : d.entryAt? loc = some (.file m) := (locate_fits hl).resolve_left (by simp)
    exact .inl ⟨loc, m, fileWritten_setContent hd hfits bs,
      locate_settles .write (extends_setContent d m bs) rfl (.taken loc _ (by simp)) hl⟩
  · simp at h
  · rename_i loc e hfile hfolder hl
    obtain rfl := Except.ok.inj h
    cases e with
    | file m => exact absurd rfl (hfile m)
    | folder => exact absurd rfl hfolder
    | link target =>
      have hwalk := (spot_eq_ok_iff.1 (locate_eq_ok_iff.1 hl).2).2
      exact absurd (walk_link hwalk) (by simp)
    | sink => exact .inr ⟨rfl, loc, hl⟩
  · rename_i loc slash hl
    obtain rfl := Except.ok.inj h
    have hfits := locate_fits hl
    have hne := ne_nil_of_vacant hfits
    exact .inl ⟨loc, _, fileWritten_newFile hd hfits hne bs, locate_settles .write
      (extends_newFile hfits bs) rfl (.file rfl (entryAt?_newFile d hne bs)) hl⟩
  · simp at h

theorem readFile_of_openFile {file : Option Nat} (h : d.openFile p = .ok file) :
    d.readFile p = .ok (d.contentOf file) := by
  rw [readFile, h]
  rfl

theorem sound_writeFile (hd : d.Sound) (h : d.writeFile p bs = .ok d') : d'.Sound := by
  rcases writeFile_cases hd h with ⟨loc, n, hw, -⟩ | ⟨rfl, -⟩
  · exact hw.sound
  · exact hd

theorem exists_openFile_of_isFile (h : d.isFile p = .ok true) :
    ∃ n, d.openFile p = .ok (some n) := by
  unfold isFile status at h
  split at h
  · rename_i loc e hl
    cases e with
    | file n => exact ⟨n, openFile_eq_some_iff.2 ⟨loc, hl⟩⟩
    | _ => simp [Except.map] at h
  all_goals simp [Except.map] at h

/-- If a path leads to a file after a write, reading it gives what was written. It may lead to a
sink, which swallows what is written. -/
theorem readFile_writeFile (hd : d.Sound) (h : d.writeFile p bs = .ok d')
    (hf : d'.isFile p = .ok true) : d'.readFile p = .ok bs := by
  obtain ⟨n, hn⟩ := exists_openFile_of_isFile hf
  rcases writeFile_cases hd h with ⟨loc, m, hw, hl⟩ | ⟨rfl, loc, hl⟩
  · rw [readFile_of_openFile (openFile_of_write hl), contentOf, hw.content]
  · rw [openFile_of_write_sink hl] at hn
    simp at hn

end Specimen.Disk
