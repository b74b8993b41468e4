import Specimen.Proofs.Load
import Specimen.Proofs.PassThrough
import Specimen.Provider

/-!
# How reading a companion file ends

Reading is meant to end in one of three ways: with a result, with a refusal of the disk, or with a
complaint about the encoding of what stands in the file. There are three more ways: the path
cannot be formed, it has a null character, or the file holds a certificate of an unknown version,
which is judged when everything else has been found in order.

* `companionDer_of_readFile`, `companionDer_of_refused`: what reading gives, by the content of the
  file or the refusal of the disk; `companionMatches_on_fst`: comparing ends as reading does.
* `reading_foreseen_iff`: reading ends as it is meant to exactly if none of the three is the case.
* `unknown_version_unforeseen`: a certificate with which it does not.
-/

namespace Specimen

open X509

/-- A complaint about the encoding of the data. -/
def CompanionFlaw.isEncoding : CompanionFlaw → Bool
  | .armour _ | .wrongLabel _ | .notCertificate => true
  | .notOctets _ | .version _ => false

/-! ## The ends of `toDer` -/

namespace Companion

/-- The data is in order but for its version, which is neither 0 nor 2. -/
def HasUnknownVersion (data : Octets) : Prop :=
  ∃ e der draft, unarmour data = .ok (e, der) ∧ Der.whole readCertificate der = some draft ∧
    draft.version ≠ 0 ∧ draft.version ≠ 2

/-- What the data is taken for is complained about as an encoding. -/
theorem isEncoding_of_unarmour {data : Octets} {flaw : CompanionFlaw}
    (h : unarmour data = .error flaw) : flaw.isEncoding = true := by
  unfold unarmour at h
  split at h
  · split at h
    · simp only [Except.error.injEq] at h
      rw [← h]; rfl
    · split at h
      · simp at h
      · simp only [Except.error.injEq] at h
        rw [← h]; rfl
  · simp at h

/-- The three ends of judging a certificate. -/
theorem check_cases (der : Octets) :
    (check der = .ok () ∧ (Certificate.ofDer der).isOk = true) ∨
    (check der = .error .notCertificate ∧ Der.whole readCertificate der = none) ∨
    ∃ draft, check der = .error (.version draft.version) ∧
      Der.whole readCertificate der = some draft ∧ draft.version ≠ 0 ∧ draft.version ≠ 2 := by
  rcases Certificate.ofDer_cases der with ⟨c, hc⟩ | ⟨hc, hw⟩ | ⟨draft, hc, hw, hv⟩
  · exact .inl ⟨by simp [check, hc], by rw [hc]; rfl⟩
  · exact .inr (.inl ⟨by simp [check, hc], hw⟩)
  · exact .inr (.inr ⟨draft, by simp [check, hc], hw, hv⟩)

theorem toDer_of_unarmour {data der : Octets} {e : Encoding} (h : unarmour data = .ok (e, der)) :
    toDer data = (check der).map fun _ => der := by
  unfold toDer
  simp only [h]
  cases check der <;> rfl

/-- The three ends of `toDer`: a certificate, a complaint about the encoding, and an unknown
version. -/
theorem toDer_cases (data : Octets) :
    (∃ d, toDer data = .ok d ∧ (Certificate.ofDer d).isOk = true ∧ ¬ HasUnknownVersion data) ∨
    (∃ flaw, toDer data = .error flaw ∧ flaw.isEncoding = true ∧ ¬ HasUnknownVersion data) ∨
    ∃ n, toDer data = .error (.version n) ∧ HasUnknownVersion data := by
  cases hu : unarmour data with
  | error flaw =>
    refine .inr (.inl ⟨flaw, by simp [toDer, hu], isEncoding_of_unarmour hu, ?_⟩)
    rintro ⟨e, der, draft, hd, -⟩
    simp [hu] at hd
  | ok p =>
    obtain ⟨e, der⟩ := p
    have ht := toDer_of_unarmour hu
    rcases check_cases der with ⟨hc, hok⟩ | ⟨hc, hw⟩ | ⟨draft, hc, hw, hv⟩
    · refine .inl ⟨der, by simp [ht, hc, Except.map], hok, ?_⟩
      rintro ⟨e', der', draft, hd, hw, hv⟩
      simp only [hu, Except.ok.injEq, Prod.mk.injEq] at hd
      obtain ⟨-, rfl⟩ := hd
      simp [Certificate.ofDer, hw, Version.ofNumber?_eq_none.2 hv, Except.isOk, Except.toBool]
        at hok
    · refine .inr (.inl ⟨.notCertificate, by simp [ht, hc, Except.map], rfl, ?_⟩)
      rintro ⟨e', der', draft, hd, hw', -⟩
      simp only [hu, Except.ok.injEq, Prod.mk.injEq] at hd
      obtain ⟨-, rfl⟩ := hd
      simp [hw] at hw'
    · exact .inr (.inr ⟨draft.version, by simp [ht, hc, Except.map], e, der, draft, hu, hw, hv⟩)

/-- A certificate or a complaint about the encoding comes of all data without an unknown version,
and of no other. -/
theorem toDer_foreseen_iff (data : Octets) :
    ((∃ d, toDer data = .ok d ∧ (Certificate.ofDer d).isOk = true) ∨
      ∃ flaw, toDer data = .error flaw ∧ flaw.isEncoding = true) ↔ ¬ HasUnknownVersion data := by
  rcases toDer_cases data with ⟨d, ht, hd, hv⟩ | ⟨flaw, ht, hf, hv⟩ | ⟨n, ht, hv⟩
  · exact iff_of_true (.inl ⟨d, ht, hd⟩) hv
  · exact iff_of_true (.inr ⟨flaw, ht, hf⟩) hv
  · refine iff_of_false ?_ (not_not_intro hv)
    rintro (⟨d, hd, -⟩ | ⟨flaw, hf, he⟩)
    · simp [ht] at hd
    · simp only [ht, Except.error.injEq] at hf
      simp [← hf, CompanionFlaw.isEncoding] at he

/-- The complaint about an unknown version comes of exactly the data that has one. -/
theorem toDer_eq_version_iff (data : Octets) :
    (∃ n, toDer data = .error (.version n)) ↔ HasUnknownVersion data := by
  rcases toDer_cases data with ⟨d, ht, -, hv⟩ | ⟨flaw, ht, hf, hv⟩ | ⟨n, ht, hv⟩
  · exact iff_of_false (by simp [ht]) hv
  · refine iff_of_false ?_ hv
    rintro ⟨n, hn⟩
    simp only [ht, Except.error.injEq] at hn
    simp [hn, CompanionFlaw.isEncoding] at hf
  · exact iff_of_true ⟨n, ht⟩ hv

/-! ## Reading in a world -/

/-- Decoding companion data gives what `toDer` gives, and notes an event. -/
theorem decode_on_fst_eq (data : Octets) (w : World) :
    ((decode data).on w).1 = (toDer data).mapError .companion := by
  cases hu : unarmour data with
  | error flaw => simp [decode, toDer, Run.on_bind, hu, Except.mapError, -bind_pure_comp]
  | ok p =>
    obtain ⟨e, der⟩ := p
    cases hc : check der with
    | error flaw =>
      simp [decode, toDer, Run.on_bind, hu, hc, Except.mapError, -bind_pure_comp]
    | ok u => simp [decode, toDer, Run.on_bind, hu, hc, Except.mapError, -bind_pure_comp]

/-- Reading a file gives what the disk refuses, or what `toDer` gives on its content. -/
theorem read_on_fst (path : Path) (w : World) :
    ((read path).on w).1 = match w.disk.readFile path with
      | .error flaw => .error (.disk flaw)
      | .ok data => (toDer data).mapError .companion := by
  unfold read
  cases hr : w.disk.readFile path with
  | error flaw => simp [Run.on_bind, hr]
  | ok data => simp [Run.on_bind, hr, decode_on_fst_eq]

end Companion

namespace Disk

variable {d : Disk} {purpose : Purpose} {p : Path} {flaw : DiskFlaw}

/-- A walk that ends somewhere is along a path without a null character. -/
theorem hasNull_of_locate {s : Spot} (h : d.locate purpose p = .ok s) : hasNull p.text = false := by
  unfold locate at h
  split at h
  · simp at h
  · rename_i hn
    simpa using hn

/-- It is the disk that refuses, unless the path has a null character. -/
theorem isRefusal_of_locate (h : d.locate purpose p = .error flaw) :
    flaw.isRefusal = true ↔ hasNull p.text = false := by
  unfold locate at h
  split at h
  · rename_i hn
    simp only [Except.error.injEq] at h
    simp [← h, hn, DiskFlaw.isRefusal]
  · rename_i hn
    split at h
    · simp at h
    · simp only [Except.error.injEq] at h
      simp [← h, hn, DiskFlaw.isRefusal]

theorem isRefusal_of_readFile (h : d.readFile p = .error flaw) :
    flaw.isRefusal = true ↔ hasNull p.text = false := by
  cases hl : d.locate .look p with
  | error e =>
    simp only [readFile, openFile, hl, Except.map, Except.error.injEq] at h
    rw [← h]
    exact isRefusal_of_locate hl
  | ok s =>
    simp only [hasNull_of_locate hl, iff_true]
    rcases s with ⟨loc, _ | n | target | _⟩ | ⟨loc, slash⟩ <;>
      simp only [readFile, openFile, hl, Except.map, Except.error.injEq, reduceCtorEq] at h
    · rw [← h]; rfl
    · rw [← h]; rfl

/-- What stands in a file can be had only along a path without a null character. -/
theorem hasNull_of_readFile {data : Octets} (h : d.readFile p = .ok data) :
    hasNull p.text = false := by
  cases hl : d.locate .look p with
  | error e => simp [readFile, openFile, hl, Except.map] at h
  | ok s => exact hasNull_of_locate hl

/-- A path that leads to no entry is refused as such. -/
theorem readFile_of_vacant {loc : Location} {slash : Bool}
    (h : d.locate .look p = .ok (.vacant loc slash)) :
    d.readFile p = .error (.refused .notFound p.text) := by
  simp [readFile, openFile, h, Except.map]

end Disk

namespace Provider

variable {p : Provider} {w : World}

theorem companionDer_of_noPath {flaw : CallFlaw} (hp : p.certificatePath = .error flaw) :
    (p.companionDer.on w).1 = .error (.call flaw) := by
  rw [companionDer, hp, Run.on_bind, Run.on_ofExcept_error]

theorem companionDer_of_path {path : Path} (hp : p.certificatePath = .ok path) :
    p.companionDer.on w = (Companion.read path).on w := by
  rw [companionDer, hp, Run.on_bind, Run.on_ofExcept_ok]

/-- What the disk refuses is not wrapped. -/
theorem companionDer_of_refused {path : Path} {flaw : DiskFlaw}
    (hp : p.certificatePath = .ok path) (hr : w.disk.readFile path = .error flaw) :
    (p.companionDer.on w).1 = .error (.disk flaw) := by
  rw [companionDer_of_path hp, Companion.read_on_fst, hr]

/-- A file that can be read gives what `toDer` gives on its content. -/
theorem companionDer_of_readFile {path : Path} {data : Octets} (hp : p.certificatePath = .ok path)
    (hr : w.disk.readFile path = .ok data) :
    (p.companionDer.on w).1 = (Companion.toDer data).mapError .companion := by
  rw [companionDer_of_path hp, Companion.read_on_fst, hr]

/-- Comparing ends as reading does. -/
theorem companionMatches_on_fst (p : Provider) (w : World) :
    (p.companionMatches.on w).1 =
      (p.companionDer.on w).1.map fun der => (Value.ofOctets der).same p.fixture.der := by
  unfold companionMatches
  rw [Run.on_bind]
  generalize p.companionDer.on w = r
  obtain ⟨e | der, w'⟩ := r <;> rfl

/-! ## Ends that are meant, and others -/

/-- The ends that reading is meant to have: a result, a refusal of the disk, or a complaint about
the encoding. -/
def Foreseen {α : Type} : Except Fault α → Prop
  | .ok _ => True
  | .error (.disk flaw) => flaw.isRefusal = true
  | .error (.companion flaw) => flaw.isEncoding = true
  | .error _ => False

/-- What reading is not prepared for. -/
inductive Unforeseen (p : Provider) (w : World) : Prop where
  /-- The name of the file can be no part of a path. -/
  | noPath {flaw : CallFlaw} (h : p.certificatePath = .error flaw)
  /-- The path has a null character. -/
  | null {path : Path} (h : p.certificatePath = .ok path) (hn : Disk.hasNull path.text = true)
  /-- The file holds a certificate of an unknown version. -/
  | version {path : Path} {data : Octets} (h : p.certificatePath = .ok path)
      (hr : w.disk.readFile path = .ok data) (hv : Companion.HasUnknownVersion data)

@[simp]
theorem foreseen_ok {α : Type} (a : α) : Foreseen (.ok a) := trivial

@[simp]
theorem foreseen_disk {α : Type} (flaw : DiskFlaw) :
    Foreseen (.error (.disk flaw) : Except Fault α) ↔ flaw.isRefusal = true := Iff.rfl

@[simp]
theorem foreseen_companion {α : Type} (flaw : CompanionFlaw) :
    Foreseen (.error (.companion flaw) : Except Fault α) ↔ flaw.isEncoding = true := Iff.rfl

theorem foreseen_map {α β : Type} (f : α → β) (r : Except Fault α) :
    Foreseen (r.map f) ↔ Foreseen r := by
  rcases r with (flaw | a)
  · cases flaw <;> exact Iff.rfl
  · exact Iff.rfl

theorem foreseen_companionDer_iff (p : Provider) (w : World) :
    Foreseen (p.companionDer.on w).1 ↔ ¬ p.Unforeseen w := by
  cases hp : p.certificatePath with
  | error flaw =>
    rw [companionDer_of_noPath hp]
    exact iff_of_false id (not_not_intro (.noPath hp))
  | ok path =>
    cases hr : w.disk.readFile path with
    | error flaw =>
      rw [companionDer_of_refused hp hr, foreseen_disk, Disk.isRefusal_of_readFile hr,
        ← Bool.not_eq_true]
      refine not_congr ⟨.null hp, ?_⟩
      rintro (⟨h⟩ | ⟨h, hn⟩ | ⟨h, hd, -⟩) <;> simp_all
    | ok data =>
      have hcause : p.Unforeseen w ↔ Companion.HasUnknownVersion data := by
        refine ⟨?_, .version hp hr⟩
        rintro (⟨h⟩ | ⟨h, hn⟩ | ⟨h, hd, hv⟩) <;> simp_all [Disk.hasNull_of_readFile hr]
      rw [companionDer_of_readFile hp hr, hcause]
      rcases Companion.toDer_cases data with ⟨d, ht, -, hv⟩ | ⟨flaw, ht, hf, hv⟩ | ⟨n, ht, hv⟩
      · simp [ht, hv, Except.mapError]
      · simp [ht, hv, hf, Except.mapError]
      · simp [ht, hv, Except.mapError, CompanionFlaw.isEncoding]

theorem foreseen_companionMatches_iff (p : Provider) (w : World) :
    Foreseen (p.companionMatches.on w).1 ↔ ¬ p.Unforeseen w := by
  rw [companionMatches_on_fst, foreseen_map, foreseen_companionDer_iff]

/-- **The ends of reading.** Out of companion data comes a certificate or a complaint about the
encoding, unless all but the version is in order, which is another complaint then. The two
readings of a provider end as they are meant to exactly if the path can be formed and has no null
character, and the file, if there is one, holds no certificate of an unknown version. What the
disk refuses is passed on as it is, a missing file in particular. -/
theorem reading_foreseen_iff (data : Octets) (p : Provider) (w : World) :
    (((∃ d, Companion.toDer data = .ok d ∧ (Certificate.ofDer d).isOk = true) ∨
        ∃ flaw, Companion.toDer data = .error flaw ∧ flaw.isEncoding = true) ↔
      ¬ Companion.HasUnknownVersion data) ∧
    (Companion.HasUnknownVersion data → ∃ n, Companion.toDer data = .error (.version n)) ∧
    (Foreseen (p.companionDer.on w).1 ↔ ¬ p.Unforeseen w) ∧
    (Foreseen (p.companionMatches.on w).1 ↔ ¬ p.Unforeseen w) ∧
    (∀ path flaw, p.certificatePath = .ok path → w.disk.readFile path = .error flaw →
      (p.companionDer.on w).1 = .error (.disk flaw) ∧
        (p.companionMatches.on w).1 = .error (.disk flaw)) ∧
    ∀ path loc slash, p.certificatePath = .ok path →
      w.disk.locate .look path = .ok (.vacant loc slash) →
      (p.companionDer.on w).1 = .error (.disk (.refused .notFound path.text)) ∧
        (p.companionMatches.on w).1 = .error (.disk (.refused .notFound path.text)) := by
  have hrefused : ∀ path flaw, p.certificatePath = .ok path →
      w.disk.readFile path = .error flaw →
      (p.companionDer.on w).1 = .error (.disk flaw) ∧
        (p.companionMatches.on w).1 = .error (.disk flaw) := by
    intro path flaw hp hr
    have h := companionDer_of_refused hp hr
    exact ⟨h, by rw [companionMatches_on_fst, h]; rfl⟩
  exact ⟨Companion.toDer_foreseen_iff data, (Companion.toDer_eq_version_iff data).2,
    foreseen_companionDer_iff p w, foreseen_companionMatches_iff p w, hrefused,
    fun path loc slash hp hl => hrefused path _ hp (Disk.readFile_of_vacant hl)⟩

/-- A certificate of version 2, which the library does not know. -/
def version2Sample : Octets :=
  Sample.certificateOfVersion 1 (Octets.ofAscii "S")

/-- A provider whose companion file stands in the folder in which paths start. -/
def homeSample : Provider :=
  { number := 0, folder := ⟨.here, []⟩, filename := .text "certificate.cer" }

/-- A world without any files but for the companion file, if there is one. -/
def worldSample (content : Option Octets) : World :=
  { disk :=
      { home := []
        entries := content.toList.map fun _ => (["certificate.cer"], .file 0)
        contents := content.toList }
    settingsFile := ⟨.here, [".env"]⟩
    resourceFolder := ⟨.here, []⟩
    ascents := 9 }

theorem certificatePath_homeSample :
    homeSample.certificatePath = .ok ⟨.here, ["certificate.cer"]⟩ := by
  decide +kernel

theorem toDer_version2Sample : Companion.toDer version2Sample = .error (.version 1) := by
  decide +kernel

theorem readFile_worldSample (content : Octets) :
    (worldSample content).disk.readFile ⟨.here, ["certificate.cer"]⟩ = .ok content := rfl

theorem reading_foreseen_iff_sample :
    (Companion.HasUnknownVersion version2Sample ∧
      (¬ ∃ d, Companion.toDer version2Sample = .ok d) ∧
      ∃ n, Companion.toDer version2Sample = .error (.version n)) ∧
    (homeSample.Unforeseen (worldSample version2Sample) ∧
      ¬ Foreseen (homeSample.companionMatches.on (worldSample version2Sample)).1) ∧
    (homeSample.companionMatches.on (worldSample none)).1 =
      .error (.disk (.refused .notFound "certificate.cer")) := by
  obtain ⟨h₁, h₂, -, h₃, -⟩ :=
    reading_foreseen_iff version2Sample homeSample (worldSample version2Sample)
  obtain ⟨-, -, -, -, -, h₄⟩ := reading_foreseen_iff version2Sample homeSample (worldSample none)
  have hv := (Companion.toDer_eq_version_iff _).1 ⟨1, toDer_version2Sample⟩
  have hp := certificatePath_homeSample
  have hu : homeSample.Unforeseen (worldSample version2Sample) :=
    .version hp (readFile_worldSample version2Sample) hv
  have hl : (worldSample none).disk.locate .look ⟨.here, ["certificate.cer"]⟩ =
      .ok (.vacant ["certificate.cer"] false) := by decide +kernel
  refine ⟨⟨hv, ?_, h₂ hv⟩, ⟨hu, mt h₃.1 (not_not_intro hu)⟩, (h₄ _ _ _ hp hl).2⟩
  rintro ⟨d, hd⟩
  exact h₁.1 (.inl ⟨d, hd, Companion.isOk_of_toDer hd⟩) hv

/-- A certificate of version 2 is neither read nor complained about as an encoding, and reading
the companion file that holds it ends as it is not meant to. -/
theorem unknown_version_unforeseen :
    Companion.toDer version2Sample = .error (.version 1) ∧
    (CompanionFlaw.version 1).isEncoding = false ∧
    (homeSample.companionDer.on (worldSample version2Sample)).1 =
      .error (.companion (.version 1)) ∧
    ¬ Foreseen (homeSample.companionDer.on (worldSample version2Sample)).1 := by
  have hc : (homeSample.companionDer.on (worldSample version2Sample)).1 =
      .error (.companion (.version 1)) := by
    rw [companionDer_of_readFile certificatePath_homeSample (readFile_worldSample _),
      toDer_version2Sample]
    rfl
  refine ⟨toDer_version2Sample, rfl, hc, ?_⟩
  rw [hc, foreseen_companion]
  decide

end Provider

end Specimen
