import Specimen.Proofs.AllBlocks
import Specimen.Proofs.FirstBlock
import Specimen.Proofs.Load
import Specimen.Proofs.Writing
import Specimen.Proofs.Reading

/-!
# Where the two readers of armour agree

The loader takes the first block with a certificate's label, wherever it stands; the reader of
companion data goes by lines. They agree on a text in which the block that the loader takes stands
in lines of its own, with no other opening line before it.

* `Pem.Place.InLines`: what is asked of the place of the block.
* `Pem.Place.first_of_inLines`: a block in lines is what the reader of the first block gives.
* `readers_agree`: companion data with a text that loads is the certificate that was loaded.
* `readers_disagree`: texts that load and are refused as companion data, one for each thing asked.
-/

namespace Specimen

open X509

namespace Pem.Place

/-- What of the body carries data. -/
def data (p : Place) : Octets :=
  (splitHeaders p.body).2

/-- What stands between the opening dashes and the data: blanks, and headers if there are any. -/
def between (p : Place) : Octets :=
  p.gap ++ p.body.take (p.body.length - p.data.length)

/-- The block is labelled `CERTIFICATE` and stands in lines. The text in front consists of whole
lines, none of which opens a block; the data starts on a later line than the opening mark, and no
line before it lacks a colon, unless there are no headers at all; the closing mark starts a
line. -/
structure InLines (p : Place) : Prop where
  label : p.label = Companion.label
  front_ends : EndsLine p.front
  front_opens : ∀ l ∈ lines p.front, beginLabel? l = none
  data_below : ∃ b ∈ p.between, isTerminator b = true
  headers : p.between = p.gap ∨
    ∀ l ∈ lines (p.between.dropWhile fun b => !isTerminator b), isHeader l = true
  body_ends : EndsLine p.body

variable {p : Place}

/-- Which of the things asked for are the case, in order. -/
def conditions (p : Place) : List Bool :=
  [p.label = Companion.label, EndsLine p.front, ∀ l ∈ lines p.front, beginLabel? l = none,
    ∃ b ∈ p.between, isTerminator b = true,
    p.between = p.gap ∨
      ∀ l ∈ lines (p.between.dropWhile fun b => !isTerminator b), isHeader l = true,
    EndsLine p.body]

theorem all_conditions_iff : p.conditions.all id = true ↔ p.InLines := by
  simp only [conditions, List.all_cons, List.all_nil, id, Bool.and_eq_true, decide_eq_true_eq,
    and_true]
  exact ⟨fun ⟨h₁, h₂, h₃, h₄, h₅, h₆⟩ => ⟨h₁, h₂, h₃, h₄, h₅, h₆⟩,
    fun ⟨h₁, h₂, h₃, h₄, h₅, h₆⟩ => ⟨h₁, h₂, h₃, h₄, h₅, h₆⟩⟩

instance (p : Place) : Decidable p.InLines :=
  decidable_of_iff _ all_conditions_iff

/-- The data ends the body, and lines end before it if there are headers. -/
theorem between_cases (p : Place) : p.between ++ p.data = p.gap ++ p.body ∧
    (p.between = p.gap ∨ p.between ≠ p.gap ∧ EndsLine p.between) := by
  have hsplit : ∀ before : Octets, p.body = before ++ p.data →
      p.body.take (p.body.length - p.data.length) = before := by
    intro before h
    rw [h]
    simp
  rcases splitHeaders_cases p.body with h | ⟨gap, hne, hends, h⟩
  · have hd : p.data = p.body := by rw [data, h]
    simp [between, hd]
  · have hb := hsplit ((splitHeaders p.body).1 ++ gap) h
    have hbetween : p.between = p.gap ++ ((splitHeaders p.body).1 ++ gap) := by rw [between, hb]
    refine ⟨?_, .inr ⟨?_, ?_⟩⟩
    · rw [hbetween, List.append_assoc]
      exact congrArg (p.gap ++ ·) h.symm
    · rw [hbetween]
      simp [hne]
    · rw [hbetween, ← List.append_assoc]
      exact hends.append hne _

/-- The lines of a block in lines up to its data: the rest of the opening line, header lines, and
blanks in front of the data. -/
theorem InLines.between_eq (h : p.InLines) (hgap : ∀ b ∈ p.gap, isBlank b = true) :
    ∃ rest t headers blanks, p.between = rest ++ t :: (headers ++ blanks) ∧
      (∀ b ∈ rest, isTerminator b = false) ∧ isTerminator t = true ∧ EndsLine headers ∧
      (∀ l ∈ lines headers, isHeader l = true) ∧ ∀ b ∈ blanks, isBlank b = true := by
  have hcut := List.takeWhile_append_dropWhile (p := fun b => !isTerminator b) (l := p.between)
  have hrest : ∀ b ∈ p.between.takeWhile (fun b => !isTerminator b), isTerminator b = false := by
    intro b hb
    simpa using List.all_eq_true.1 List.all_takeWhile b hb
  have hheaders := h.headers
  cases hd : p.between.dropWhile fun b => !isTerminator b with
  | nil =>
    obtain ⟨b, hb, ht⟩ := h.data_below
    rw [hd, List.append_nil] at hcut
    rw [hrest b (by rw [hcut]; exact hb)] at ht
    exact absurd ht (by decide)
  | cons t more =>
    have ht : isTerminator t = true := by
      have := List.head?_dropWhile_not (fun b => !isTerminator b) p.between
      simpa [hd] using this
    rw [hd] at hcut hheaders
    rw [lines_terminator ht] at hheaders
    rcases p.between_cases.2 with hb | ⟨hb, hends⟩
    · refine ⟨_, t, [], more, hcut.symm, hrest, ht, by simp [EndsLine], by simp, fun b hm => ?_⟩
      refine hgap b ?_
      rw [← hb, ← hcut]
      simp [hm]
    · refine ⟨_, t, more, [], by simpa using hcut.symm, hrest, ht, ?_, hheaders.resolve_left hb,
        by simp⟩
      rw [← hcut] at hends
      have htail : EndsLine ([t] ++ more) := hends.of_append
      exact htail.of_append

/-- Octets that the strict reader takes together with white space. -/
theorem mem_data {d : Octets}
    (h : Base64.decodeStrict? (p.data.filter fun b => !isBodySpace b) = some d) :
    ∀ b ∈ p.data, isBodySpace b = true ∨ Base64.isForeign b = false := by
  intro b hb
  cases hs : isBodySpace b with
  | true => exact .inl rfl
  | false =>
    exact .inr (Base64.not_isForeign_of_decodeStrict? h b (List.mem_filter.2 ⟨hb, by simp [hs]⟩))

theorem ne_of_data {b : UInt8} (h : isBodySpace b = true ∨ Base64.isForeign b = false) :
    b ≠ 0x3A ∧ b ≠ 0x2D := by
  constructor <;> rintro rfl <;> rcases h with h | h <;> exact absurd h (by decide)

theorem data_ends (h : EndsLine p.body) : EndsLine p.data := by
  rcases splitHeaders_cases p.body with hs | ⟨gap, -, -, hb⟩
  · rwa [data, hs]
  · rw [hb] at h
    exact h.of_append

/-- A block in lines is what the reader of the first block gives. -/
theorem first_of_inLines (h : p.InLines) (hgap : ∀ b ∈ p.gap, isBlank b = true)
    (hascii : ∀ b ∈ p.text, b < 0x80) {d : Octets} (hne : d ≠ [])
    (hd : Base64.decodeStrict? (p.data.filter fun b => !isBodySpace b) = some d) :
    Block.first p.text = .ok ⟨Companion.label, d⟩ := by
  obtain ⟨rest, t, headers, blanks, hbetween, hrest, ht, hends, hheaders, hblanks⟩ :=
    h.between_eq hgap
  have hspaces : ∀ b ∈ blanks, isBodySpace b = true := fun b hb =>
    isBodySpace_of_isBlank (hblanks b hb)
  have htext : p.text = p.front ++ (beginLine Companion.label ++ rest ++
      t :: (headers ++ (blanks ++ p.data ++ (fiveDashes ++ (Octets.ofAscii "END " ++
        (p.endLabel ++ fiveDashes ++ p.back)))))) := by
    have hbegin : beginLine Companion.label = beginMark ++ Companion.label ++ fiveDashes := by
      decide
    have hb : rest ++ t :: (headers ++ blanks) ++ p.data = p.gap ++ p.body := by
      rw [← hbetween]
      exact p.between_cases.1
    calc p.text = p.front ++ (beginLine Companion.label ++ (p.gap ++ p.body) ++
          (fiveDashes ++ (Octets.ofAscii "END " ++ (p.endLabel ++ fiveDashes ++ p.back)))) := by
          simp [text, inner, h.label, hbegin, endMark]
      _ = _ := by
          rw [← hb]
          simp
  have hdata : ∀ b ∈ blanks ++ p.data, b ≠ 0x3A ∧ b ≠ 0x2D := by
    intro b hb
    rcases List.mem_append.1 hb with hb | hb
    · exact ne_of_data (.inl (hspaces b hb))
    · exact ne_of_data (mem_data hd b hb)
  have hcarried : Base64.decodeLenient (blanks ++ p.data) = .ok d := by
    have hnone : blanks.filter (fun b => !isBodySpace b) = [] := by
      simpa [List.filter_eq_nil_iff] using hspaces
    rw [← decodeLenient_spaces, List.filter_append, hnone, List.nil_append]
    exact Base64.decodeLenient_of_strict hd
  have hlast : EndsLine (blanks ++ p.data) := by
    refine (data_ends h.body_ends).append ?_ blanks
    intro hnil
    rw [hnil] at hd
    simp only [List.filter_nil, Base64.decodeStrict?, Option.some.injEq] at hd
    exact hne hd.symm
  rw [htext]
  refine Block.first_eq h.front_ends h.front_opens (by decide) (by decide +kernel) hrest ht hends
    hheaders ?_ hlast hdata hcarried hne
  intro b hb
  refine hascii b ?_
  rw [htext]
  simp [hb]

end Pem.Place

/-! ## Loading and reading the same text -/

/-- A text that loads has a place for the block that was loaded. -/
theorem Fixture.exists_place_of_load {pem : String} {f : Fixture} (h : load pem = .ok f) :
    ∃ text p d, asciiOctets pem.toList = .ok text ∧
      (Pem.places text).find? (fun p => isCertificateLabel p.label) = some p ∧
      f.der = .ofOctets d ∧ (Certificate.ofDer d).isOk = true ∧
      Base64.decodeStrict? (p.data.filter fun b => !Pem.isBodySpace b) = some d := by
  obtain ⟨c, hc, hf⟩ := load_eq_ok_iff.1 h
  obtain ⟨text, blocks, b, ha, hall, hb, hd⟩ := ofArmour_eq_ok_iff.1 hc
  obtain ⟨p, hp, hraw⟩ := Pem.find?_of_all? hall hb
  have hder := (ofCertificate_eq_ok_iff.1 hf).2.1
  rw [Certificate.ofDer_der hd] at hder
  exact ⟨text, p, b.data, ha, hp, hder, isOk_iff_exists.2 ⟨c, hd⟩, (Pem.ofRaw?_eq_some hraw).2.2⟩

/-- A text with a block is a given certificate as companion data exactly if that is what the first
block carries under its label. -/
theorem Companion.toDer_iff_first {text d : Octets} {p : Pem.Place} (hp : p ∈ Pem.places text)
    (hok : (Certificate.ofDer d).isOk = true) :
    toDer text = .ok d ↔ Pem.Block.first text = .ok ⟨label, d⟩ := by
  have hmark : Pem.HasMark text := by
    have hm : Pem.fiveDashes ++ Pem.beginWord <:+: Pem.beginMark := by decide
    rw [← Pem.text_of_mem_places hp]
    exact .inl (hm.trans ⟨p.front, p.inner, rfl⟩)
  rw [toDer_eq_ok_iff, check_eq_ok_iff, and_iff_left hok, unarmour,
    if_pos (Pem.isArmoured_iff.2 hmark)]
  cases Pem.Block.first text with
  | error flaw => simp
  | ok block =>
    obtain ⟨l, data⟩ := block
    by_cases hl : l = label
    · simp [hl]
    · simp [hl]

/-- A certificate that stands in lines is what the first block carries. -/
theorem Pem.Place.first_of_mem_places {text d : Octets} {p : Place} (hp : p ∈ places text)
    (hascii : ∀ b ∈ text, b < 0x80) (hok : (Certificate.ofDer d).isOk = true)
    (hd : Base64.decodeStrict? (p.data.filter fun b => !isBodySpace b) = some d)
    (h : p.InLines) : Block.first text = .ok ⟨Companion.label, d⟩ := by
  have hne : d ≠ [] := by
    rintro rfl
    exact absurd hok (by decide)
  rw [← text_of_mem_places hp] at hascii ⊢
  exact first_of_inLines h (gap_of_mem_places hp) hascii hne hd

/-- A provider finds its own certificate in a companion file exactly if it is that as companion
data. -/
theorem Provider.companionMatches_iff {p : Provider} {w : World} {path : Path} {text d : Octets}
    (hp : p.certificatePath = .ok path) (hr : w.disk.readFile path = .ok text)
    (hd : p.fixture.der = .ofOctets d) :
    (p.companionMatches.on w).1 = .ok true ↔ Companion.toDer text = .ok d := by
  rw [companionMatches_on_fst, companionDer_of_readFile hp hr, hd]
  cases Companion.toDer text with
  | error flaw => simp [Except.mapError, Except.map]
  | ok d' => simp [Except.mapError, Except.map, Value.ofOctets, Value.same, Value.samePlain]

/-- **Agreement of the readers.** A text that loads is the loaded certificate as companion data
exactly if its first block by lines is labelled as a certificate and carries it. That is so if the
block that was loaded, which has its place in the text, stands in lines there. A provider of the
loaded fixture finds its own certificate in a companion file that holds the text, or to which the
text has been written, exactly if the two readers agree. -/
theorem readers_agree {pem : String} {f : Fixture} (h : Fixture.load pem = .ok f) :
    ∃ text p d, asciiOctets pem.toList = .ok text ∧ f.pem = .text pem ∧
      (Pem.places text).find? (fun p => isCertificateLabel p.label) = some p ∧
      f.der = .ofOctets d ∧
      (Companion.toDer text = .ok d ↔ Pem.Block.first text = .ok ⟨Companion.label, d⟩) ∧
      (p.InLines → Companion.toDer text = .ok d) ∧
      ∀ (provider : Provider) (w : World) path, provider.fixture = f →
        provider.certificatePath = .ok path →
        (w.disk.readFile path = .ok text →
          ((provider.companionMatches.on w).1 = .ok true ↔ Companion.toDer text = .ok d)) ∧
        ∀ disk, w.disk.Sound → w.disk.writeFile path text = .ok disk →
          disk.isFile path = .ok true →
          ((provider.companionMatches.on { w with disk }).1 = .ok true ↔
            Companion.toDer text = .ok d) := by
  obtain ⟨text, p, d, ha, hfind, hder, hok, hd⟩ := Fixture.exists_place_of_load h
  have hp := List.mem_of_find?_eq_some hfind
  have hiff := Companion.toDer_iff_first hp hok
  refine ⟨text, p, d, ha, Fixture.load_pem h, hfind, hder, hiff, fun hin => ?_, ?_⟩
  · exact hiff.2 (Pem.Place.first_of_mem_places hp (lt_of_asciiOctets ha) hok hd hin)
  · intro provider w path hfix hpath
    rw [← hfix] at hder
    refine ⟨fun hr => Provider.companionMatches_iff hpath hr hder, fun disk hs hw hf => ?_⟩
    exact Provider.companionMatches_iff hpath (Disk.readFile_writeFile hs hw hf) hder

/-! ## Texts on which the readers agree, and others -/

/-- The certificate in the texts below. -/
def innerSample : Octets :=
  Sample.certificate (Octets.ofAscii "S")

/-- A text that loads: parts of a block and what stands around them. -/
def blockSample (front afterOpening headers afterData back : Octets) : Octets :=
  front ++ Pem.beginLine Companion.label ++ afterOpening ++ headers ++ Base64.encode innerSample ++
    afterData ++ Pem.endLine Companion.label ++ back

/-- A block in lines, with a header, between some text and another block. -/
def agreeingSample : Octets :=
  blockSample (Octets.ofAscii "of: S" ++ [0x0D, 0x0A]) [0x0A]
    (Octets.ofAscii "A: b" ++ [0x0A, 0x0A]) [0x0D]
    (0x0A :: Pem.armour (Octets.ofAscii "OTHER") [])

theorem inLines_agreeingSample : ∀ p,
    (Pem.places agreeingSample).find? (fun p => isCertificateLabel p.label) = some p →
      p.InLines := by
  have h : ((Pem.places agreeingSample).find? fun p => isCertificateLabel p.label).all
      (fun p => decide p.InLines) = true := by decide +kernel
  intro p hp
  simpa [hp] using h

theorem readers_agree_sample :
    ∃ f, Fixture.load (Octets.toLatin agreeingSample) = .ok f ∧
      Companion.toDer agreeingSample = .ok innerSample ∧
      (({ Provider.homeSample with given := some f }).companionMatches.on
        (Provider.worldSample agreeingSample)).1 = .ok true := by
  have hload : (Fixture.load (Octets.toLatin agreeingSample)).isOk = true := by
    rw [Fixture.load_toLatin]
    decide +kernel
  have hinner : Companion.toDer agreeingSample = .ok innerSample := by decide +kernel
  obtain ⟨f, hf⟩ := isOk_iff_exists.1 hload
  obtain ⟨text, p, d, ha, -, hp, -, -, hin, hmatches⟩ := readers_agree hf
  have htext : agreeingSample = text :=
    Except.ok.inj ((asciiOctets_toLatin (by decide +kernel)).symm.trans ha)
  subst htext
  have ht := hin (inLines_agreeingSample p hp)
  refine ⟨f, hf, hinner, ?_⟩
  exact ((hmatches { Provider.homeSample with given := some f } _ _ rfl
    Provider.certificatePath_homeSample).1 (Provider.readFile_worldSample _)).2 ht

/-- Texts that load, in each of which one thing keeps the block from standing in lines: its label;
an opening mark within a line; another block before it; data on the opening line; a header that
holds a carriage return; a closing mark within a line. -/
def disagreeingSamples : List Octets :=
  [Pem.armour (Octets.ofAscii "X509 CERTIFICATE") innerSample,
    blockSample [0x20] [0x0A] [] [0x0A] [],
    blockSample (Pem.armour (Octets.ofAscii "OTHER") []) [0x0A] [] [0x0A] [],
    blockSample [] [] [] [0x0A] [],
    blockSample [] [0x0A] (Octets.ofAscii "A:" ++ [0x0D] ++ Octets.ofAscii "B" ++ [0x0A, 0x0A])
      [0x0A] [],
    blockSample [] [0x0A] [] [] [0x0A]]

/-- The readers do not always agree: each of these texts loads, the block that is loaded lacks one
of the things asked for and no other, a different one in each text, and the text is refused as
companion data. -/
theorem readers_disagree :
    (disagreeingSamples.zipIdx.all fun (text, i) =>
      (Fixture.load (Octets.toLatin text)).isOk && !(Companion.toDer text).isOk &&
        ((Pem.places text).find? fun p => isCertificateLabel p.label).any fun p =>
          p.conditions == (List.range 6).map (· != i)) = true := by
  simp only [Fixture.load_toLatin]
  decide +kernel

end Specimen
