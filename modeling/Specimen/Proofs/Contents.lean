import Specimen.Proofs.Walk
import Specimen.Register

/-!
# Files and their contents

The contents of files are kept apart from the entries, under the numbers of the files. A disk is
sound if no file is without a content; changes to entries and contents keep it so.

* `Sound`: every file has a content.
* `Making`: what comes of making folders; `makeFolders_keeps`: what each new folder keeps is kept.
-/

namespace Specimen

namespace Path

variable {p q r : Path}

/-- A path with the first parts of another one, or all of them. -/
structure Above (q p : Path) : Prop where
  anchor : q.anchor = p.anchor
  parts : q.parts <+: p.parts

theorem Above.refl (p : Path) : p.Above p :=
  ⟨rfl, List.prefix_refl _⟩

theorem Above.parent (p : Path) : p.parent.Above p :=
  ⟨rfl, List.dropLast_prefix _⟩

theorem Above.trans (h : q.Above p) (h' : p.Above r) : q.Above r :=
  ⟨h.anchor.trans h'.anchor, h.parts.trans h'.parts⟩

end Path

namespace Disk

variable {d d' : Disk} {loc : Location} {p : Path}

/-! ## Soundness -/

/-- Every file has a content. -/
def Sound (d : Disk) : Prop :=
  ∀ loc n, d.entryAt? loc = some (.file n) → n < d.contents.length

/-- It is enough to look at the entries as they are listed. -/
theorem sound_of_entries (h : ∀ e ∈ d.entries, ∀ n, e.2 = .file n → n < d.contents.length) :
    d.Sound := by
  intro loc n hn
  unfold entryAt? at hn
  split at hn
  · simp at hn
  · obtain ⟨l₁, l₂, hl, -⟩ := List.lookup_eq_some_iff.1 hn
    exact h (loc, .file n) (by simp [hl]) n rfl

theorem entryAt?_insert_ne (d : Disk) {l loc : Location} (e : Entry) (hne : l ≠ loc) :
    (d.insert loc e).entryAt? l = d.entryAt? l := by
  have hb : (l == loc) = false := by simp [hne]
  simp [entryAt?, Disk.insert, List.lookup_cons, hb]

theorem entryAt?_insert (d : Disk) {l loc : Location} (e : Entry) (hne : loc ≠ []) :
    (d.insert loc e).entryAt? l = if l = loc then some e else d.entryAt? l := by
  by_cases hl : l = loc
  · simp [hl, hne, entryAt?, Disk.insert]
  · rw [if_neg hl, entryAt?_insert_ne d e hl]

theorem Sound.insert (h : d.Sound) {e : Entry} (he : ∀ n, e ≠ .file n) (hne : loc ≠ []) :
    (d.insert loc e).Sound := by
  intro l n hn
  rw [entryAt?_insert d e hne] at hn
  split at hn
  · simp only [Option.some.injEq] at hn
    exact absurd hn (he n)
  · exact h l n hn

theorem Sound.newFile (h : d.Sound) (hne : loc ≠ []) (bs : Octets) : (d.newFile loc bs).Sound := by
  intro l n hn
  have hn : (d.insert loc (.file d.contents.length)).entryAt? l = some (.file n) := hn
  rw [entryAt?_insert d _ hne] at hn
  have hlength : (d.newFile loc bs).contents.length = d.contents.length + 1 := by
    simp [Disk.newFile]
  split at hn
  · simp only [Option.some.injEq, Entry.file.injEq] at hn
    omega
  · have := h l n hn
    omega

theorem Sound.setContent (h : d.Sound) (m : Nat) (bs : Octets) : (d.setContent m bs).Sound := by
  intro l n hn
  have := h l n hn
  simpa [Disk.setContent] using this

theorem Sound.erase (h : d.Sound) (loc : Location) : (d.erase loc).Sound := by
  intro l n hn
  refine h l n ?_
  unfold entryAt? Disk.erase at hn
  unfold entryAt?
  split at hn
  · simp at hn
  · rename_i hl
    rw [lookup_filter_fst (· != loc)] at hn
    split at hn
    · rwa [if_neg hl]
    · simp at hn

/-- A vacant location is not the root. -/
theorem ne_nil_of_vacant {slash : Bool} (h : d.Fits (.vacant loc slash)) : loc ≠ [] := by
  rintro rfl
  simp [Fits] at h

/-! ## Making folders -/

theorem settle_fst (d : Disk) (p : Path) (flaw : DiskFlaw) : (d.settle p flaw).1 = d := by
  unfold settle
  split
  · split <;> rfl
  · rfl

/-- What comes of making a folder and those above it. -/
inductive Making : Disk → Path → Disk × Except DiskFlaw Unit → Prop where
  | made {d d' : Disk} {p : Path} (h : d.makeFolder p = .ok d') : Making d p (d', .ok ())
  /-- A folder above is missing, and there is no way up. -/
  | missing {d : Disk} {p : Path} (text : String) :
      Making d p (d, .error (.refused .notFound text))
  /-- A folder above is missing, and there is no room for another call. -/
  | tooDeep {d : Disk} {p : Path} : Making d p (d, .error .tooDeep)
  /-- Something else stands in the way: the folder itself, or a reason to give up. -/
  | settled {d : Disk} {p : Path} {flaw : DiskFlaw} (h : d.makeFolder p = .error flaw) :
      Making d p (d.settle p flaw)
  | failedAbove {d d' : Disk} {p : Path} {flaw : DiskFlaw}
      (h : Making d p.parent (d', .error flaw)) : Making d p (d', .error flaw)
  /-- The folder above has been made, and the folder is tried once more. -/
  | again {d d' : Disk} {p : Path} {r : Disk × Except DiskFlaw Unit}
      (h : Making d p.parent (d', .ok ())) (h' : Making d' p r) : Making d p r

theorem making_makeFolders (d : Disk) (ascents : Nat) (p : Path) :
    Making d p (d.makeFolders ascents p) := by
  induction ascents generalizing p with
  | zero =>
    rw [makeFolders]
    split
    · rename_i h
      exact .made h
    · split
      · exact .missing _
      · exact .tooDeep
    · rename_i h
      exact .settled h
  | succ ascents ih =>
    rw [makeFolders]
    split
    · rename_i h
      exact .made h
    · split
      · exact .missing _
      · have habove := ih p.parent
        generalize d.makeFolders ascents p.parent = r at habove ⊢
        obtain ⟨d₁, flaw | u⟩ := r
        · exact .failedAbove habove
        · refine .again habove ?_
          simp only
          split
          · rename_i h
            exact .made h
          · exact .missing _
          · rename_i h
            exact .settled h
    · rename_i h
      exact .settled h

/-- What each new folder keeps is kept by all folders that are made, also on the way to a
failure. They are made by the path `top` and by those above it. -/
theorem Making.keeps {P : Disk → Prop} {top : Path} {r : Disk × Except DiskFlaw Unit}
    (hstep : ∀ {d d' : Disk} {q : Path}, q.Above top → P d → d.makeFolder q = .ok d' → P d')
    (h : Making d p r) (hp : p.Above top) (hd : P d) : P r.1 := by
  induction h with
  | made h => exact hstep hp hd h
  | missing text => exact hd
  | tooDeep => exact hd
  | settled h =>
    rw [settle_fst]
    exact hd
  | failedAbove h ih => exact ih ((Path.Above.parent _).trans hp) hd
  | again h h' ih ih' => exact ih' hp (ih ((Path.Above.parent _).trans hp) hd)

theorem makeFolders_keeps {P : Disk → Prop}
    (hstep : ∀ {d d' : Disk} {q : Path}, q.Above p → P d → d.makeFolder q = .ok d' → P d')
    (hd : P d) (ascents : Nat) : P (d.makeFolders ascents p).1 :=
  (making_makeFolders d ascents p).keeps hstep (.refl p) hd

/-! ## Folders that are there -/

theorem sound_makeLink {target : String} (hd : d.Sound) (h : d.makeLink target p = .ok d') :
    d'.Sound := by
  unfold makeLink at h
  split at h
  · simp at h
  · split at h
    · simp at h
    · split at h
      · simp at h
      · split at h
        · simp at h
        · rename_i hs
          split at h
          · simp at h
          · simp only [Except.ok.injEq] at h
            have hfits := walk_fits (spot_eq_ok_iff.1 hs).2
            exact h ▸ hd.insert (by simp) (ne_nil_of_vacant hfits)
        · simp at h

theorem sound_remove (hd : d.Sound) (h : d.remove p = .ok d') : d'.Sound := by
  unfold remove at h
  split at h
  · simp at h
  · simp only [Except.ok.injEq] at h
    exact h ▸ hd.erase _
  · simp at h
  · simp at h

/-! ## Entries -/

theorem entryAt?_newFile (d : Disk) {loc : Location} (hne : loc ≠ []) (bs : Octets) :
    (d.newFile loc bs).entryAt? loc = some (.file d.contents.length) := by
  show (d.insert loc (.file d.contents.length)).entryAt? loc = _
  rw [entryAt?_insert d _ hne, if_pos rfl]

theorem extends_setContent (d : Disk) (m : Nat) (bs : Octets) : (d.setContent m bs).Extends d :=
  fun _ _ he => he

/-- A new entry hides no other one. -/
theorem extends_insert (h : d.entryAt? loc = none) (e : Entry) : (d.insert loc e).Extends d := by
  intro l e' he
  have hne : l ≠ loc := by
    rintro rfl
    rw [h] at he
    exact absurd he (by simp)
  rw [entryAt?_insert_ne d _ hne, he]

theorem extends_newFile (h : d.entryAt? loc = none) (bs : Octets) :
    (d.newFile loc bs).Extends d :=
  extends_insert h _

end Disk

end Specimen
