import Mathlib.Data.List.Chain
import Specimen.Proofs.AllBlocks
import Specimen.Proofs.FirstBlock
import Specimen.Proofs.Load
import Specimen.Proofs.PassThrough

/-!
# Certificates in armour

A certificate may be armoured by anyone: its digits are cut into lines of any width, the lines end
as they like, and there is text in front of the block and after it. Both readers take it back.

* `Armoured`: such a text, with what is asked of its parts.
* `splitHeaders_linesText`: no empty line stands among lines that are not empty, so a body has no
  headers.
* `toDer_armoured`, `ofArmour_armoured`: what the readers give on it.
-/

namespace Specimen

open X509 Pem

/-- The ways in which a line ends. -/
inductive LineEnd where
  | lf
  | cr
  | crlf
  deriving DecidableEq, Repr

/-- The terminators of a line end. -/
def LineEnd.octets : LineEnd → Octets
  | .lf => [0x0A]
  | .cr => [0x0D]
  | .crlf => [0x0D, 0x0A]

/-- Lines with their ends. -/
def linesText (ls : List (Octets × LineEnd)) : Octets :=
  ls.flatMap fun l => l.1 ++ l.2.octets

/-- A certificate in armour, with text around it. The text in front consists of whole lines and has
no opening mark; the text after it starts on a new line and has none of five dashes. -/
structure Armoured (der : Octets) where
  front : Octets
  openingEnd : LineEnd
  body : List (Octets × LineEnd)
  back : Octets
  front_ascii : ∀ b ∈ front, b < 0x80
  front_ends : EndsLine front
  front_unmarked : ¬ HasMark front
  body_ne_nil : body ≠ []
  line_ne_nil : ∀ l ∈ body, l.1 ≠ []
  digits : body.flatMap (·.1) = Base64.encode der
  back_ascii : ∀ b ∈ back, b < 0x80
  back_starts : ∀ b, back.head? = some b → isTerminator b = true
  back_unmarked : ¬ fiveDashes ++ beginWord <:+: back

/-- The armoured text. -/
def Armoured.text {der : Octets} (a : Armoured der) : Octets :=
  a.front ++ beginLine Companion.label ++ a.openingEnd.octets ++ linesText a.body ++
    endLine Companion.label ++ a.back

/-! ## Line ends -/

namespace LineEnd

theorem isTerminator_of_mem (e : LineEnd) : ∀ b ∈ e.octets, isTerminator b = true := by
  cases e <;> decide +kernel

/-- A line end is one terminator, with a second one after it or none. -/
theorem octets_eq (e : LineEnd) : ∃ t more, e.octets = t :: more ∧ isTerminator t = true ∧
    EndsLine more ∧ lines more = [] := by
  cases e
  · exact ⟨_, [], rfl, by decide, by simp [EndsLine], rfl⟩
  · exact ⟨_, [], rfl, by decide, by simp [EndsLine], rfl⟩
  · exact ⟨_, [0x0A], rfl, by decide, by simp [EndsLine, isTerminator], rfl⟩

end LineEnd

/-! ## Lines of digits -/

/-- Lines that are not empty and have no foreign octet. -/
def AreDigits (ls : List (Octets × LineEnd)) : Prop :=
  ∀ l ∈ ls, l.1 ≠ [] ∧ ∀ b ∈ l.1, Base64.isForeign b = false

/-- No line feed is followed by another terminator. -/
def Unspaced (bs : Octets) : Prop :=
  bs.IsChain fun a b => a = 0x0A → isTerminator b = false

theorem unspaced_of_digits {bs : Octets} (h : ∀ b ∈ bs, Base64.isForeign b = false) :
    Unspaced bs := by
  refine List.isChain_iff_getElem.2 fun i hi ha => ?_
  exact isTerminator_of_digit (h _ (List.getElem_mem _))

theorem LineEnd.unspaced (e : LineEnd) : Unspaced e.octets := by
  cases e <;> simp [LineEnd.octets, Unspaced]

theorem head?_linesText {ls : List (Octets × LineEnd)} (h : AreDigits ls) :
    ∀ b ∈ (linesText ls).head?, Base64.isForeign b = false := by
  intro b hb
  cases ls with
  | nil => simp [linesText] at hb
  | cons l ls =>
    obtain ⟨hne, hl⟩ := h l (by simp)
    obtain ⟨d, ds, hd⟩ := List.exists_cons_of_ne_nil hne
    simp only [linesText, List.flatMap_cons, hd, List.cons_append, List.head?_cons,
      Option.mem_def, Option.some.injEq] at hb
    exact hl b (by simp [hd, hb])

/-- An end of a line is followed by a digit or by nothing, so no line is empty. -/
theorem unspaced_linesText {ls : List (Octets × LineEnd)} (h : AreDigits ls) :
    Unspaced (linesText ls) := by
  induction ls with
  | nil => exact .nil
  | cons l ls ih =>
    simp only [AreDigits, List.mem_cons, forall_eq_or_imp] at h
    obtain ⟨⟨hne, hl⟩, hls⟩ := h
    have hline : Unspaced (l.1 ++ l.2.octets) := by
      refine (unspaced_of_digits hl).append l.2.unspaced fun x hx y hy hlf => ?_
      have := hl x (List.mem_of_getLast? hx)
      exact absurd (hlf ▸ this) (by decide)
    refine hline.append (ih hls) fun x hx y hy hlf => ?_
    exact isTerminator_of_digit (head?_linesText hls y hy)

/-- A body without empty lines has no headers. -/
theorem splitHeaders_of_unspaced {bs : Octets} (h : Unspaced bs) : splitHeaders bs = ([], bs) := by
  have h₁ : ¬ [0x0A, 0x0A] <:+: bs := by
    intro hi
    have hc := List.IsChain.infix h hi
    simp [isTerminator] at hc
  have h₂ : ¬ [0x0D, 0x0A, 0x0D, 0x0A] <:+: bs := by
    intro hi
    have hc := List.IsChain.infix h hi
    simp [isTerminator] at hc
  simp [splitHeaders, seek?_eq_none h₁, seek?_eq_none h₂]

/-- Leaving out the ends of the lines leaves the digits. -/
theorem filter_linesText {keep : UInt8 → Bool}
    (hdigit : ∀ b, Base64.isForeign b = false → keep b = true)
    (hend : ∀ b, isTerminator b = true → keep b = false) {ls : List (Octets × LineEnd)}
    (h : AreDigits ls) : (linesText ls).filter keep = ls.flatMap (·.1) := by
  induction ls with
  | nil => rfl
  | cons l ls ih =>
    simp only [AreDigits, List.mem_cons, forall_eq_or_imp] at h
    obtain ⟨⟨-, hl⟩, hls⟩ := h
    have h₁ : l.1.filter keep = l.1 := List.filter_eq_self.2 fun b hb => hdigit b (hl b hb)
    have h₂ : l.2.octets.filter keep = [] := by
      rw [List.filter_eq_nil_iff]
      intro b hb
      simp [hend b (l.2.isTerminator_of_mem b hb)]
    have ih := ih hls
    unfold linesText at ih ⊢
    rw [List.flatMap_cons, List.filter_append, List.filter_append, h₁, h₂, ih]
    simp

theorem endsLine_linesText (ls : List (Octets × LineEnd)) : EndsLine (linesText ls) := by
  rcases List.eq_nil_or_concat ls with rfl | ⟨init, l, rfl⟩
  · simp [linesText, EndsLine]
  · obtain ⟨t, more, he, ht, hmore, -⟩ := l.2.octets_eq
    have hlast : EndsLine l.2.octets := fun b hb =>
      l.2.isTerminator_of_mem b (List.mem_of_getLast? hb)
    have hne : l.2.octets ≠ [] := by simp [he]
    simpa [linesText] using hlast.append hne (linesText init ++ l.1)

theorem mem_linesText {ls : List (Octets × LineEnd)} (h : AreDigits ls) :
    ∀ b ∈ linesText ls, isTerminator b = true ∨ Base64.isForeign b = false := by
  intro b hb
  obtain ⟨l, hl, hb⟩ := List.mem_flatMap.1 hb
  rcases List.mem_append.1 hb with hb | hb
  · exact .inr ((h l hl).2 b hb)
  · exact .inl (l.2.isTerminator_of_mem b hb)

/-- Nothing else that is foreign stands in lines of digits. -/
theorem not_mem_linesText {ls : List (Octets × LineEnd)} (h : AreDigits ls) {b : UInt8}
    (ht : isTerminator b = false) (hf : Base64.isForeign b = true) : b ∉ linesText ls := by
  intro hb
  rcases mem_linesText h b hb with hb | hb
  · simp [ht] at hb
  · simp [hf] at hb

/-! ## What the readers give -/

namespace Armoured

variable {der : Octets} (a : Armoured der)

theorem areDigits : AreDigits a.body := by
  intro l hl
  refine ⟨a.line_ne_nil l hl, fun b hb => ?_⟩
  have : b ∈ a.body.flatMap (·.1) := List.mem_flatMap.2 ⟨l, hl, hb⟩
  rw [a.digits] at this
  exact Base64.not_isForeign_of_mem_encode this

theorem linesText_ne_nil : linesText a.body ≠ [] := by
  obtain ⟨l, ls, hb⟩ := List.exists_cons_of_ne_nil a.body_ne_nil
  have := a.line_ne_nil l (by simp [hb])
  simp [linesText, hb, this]

theorem der_ne_nil (a : Armoured der) : der ≠ [] := by
  intro h
  subst h
  have hd := a.digits
  obtain ⟨l, ls, hb⟩ := List.exists_cons_of_ne_nil a.body_ne_nil
  have hl := a.line_ne_nil l (by simp [hb])
  simp [hb, Base64.encode, hl] at hd

/-- The lenient reader takes the digits out of the body. -/
theorem decodeLenient_body : Base64.decodeLenient (linesText a.body) = .ok der := by
  have hkeep : ∀ b, Base64.isForeign b = false → (!isTerminator b) = true := fun b hb => by
    simp [isTerminator_of_digit hb]
  rw [← decodeLenient_terminators, filter_linesText hkeep (by simp) a.areDigits, a.digits]
  exact Base64.decodeLenient_of_strict (Base64.decodeStrict?_encode der)

/-- The reader of the first block takes the block as it was written. -/
theorem first_text : Block.first a.text = .ok ⟨Companion.label, der⟩ := by
  obtain ⟨t, more, he, ht, hmore, hlines⟩ := a.openingEnd.octets_eq
  have hskip : ∀ l ∈ lines a.front, beginLabel? l = none := by
    intro l hl
    have hi := infix_of_mem_lines hl
    exact beginLabel?_eq_none (fun h => a.front_unmarked (.inl (h.trans hi)))
      fun h => a.front_unmarked (.inr (h.trans hi))
  have hascii : ∀ b ∈ more, b < 0x80 := by
    intro b hb
    exact lt_of_isTerminator (a.openingEnd.isTerminator_of_mem b (by simp [he, hb]))
  have hdata : ∀ b ∈ linesText a.body, b ≠ 0x3A ∧ b ≠ 0x2D := by
    intro b hb
    constructor
    · rintro rfl; exact not_mem_linesText a.areDigits (by decide) (by decide) hb
    · rintro rfl; exact not_mem_linesText a.areDigits (by decide) (by decide) hb
  have htext : a.text = a.front ++ (beginLine Companion.label ++ [] ++
      t :: (more ++ (linesText a.body ++ (fiveDashes ++
        (Octets.ofAscii "END" ++ 0x20 :: Companion.label ++ fiveDashes ++ a.back))))) := by
    simp [text, he, endLine]
  rw [htext]
  exact Block.first_eq a.front_ends hskip (by decide) (by decide +kernel) (by simp) ht hmore
    (by simp [hlines]) hascii (endsLine_linesText a.body) hdata a.decodeLenient_body a.der_ne_nil

theorem hasMark_text : HasMark a.text := by
  refine .inl ⟨a.front, 0x20 :: Companion.label ++ fiveDashes ++ a.openingEnd.octets ++
    linesText a.body ++ endLine Companion.label ++ a.back, ?_⟩
  simp [text, beginLine]

theorem toDer_text (h : (Certificate.ofDer der).isOk = true) :
    Companion.toDer a.text = .ok der := by
  refine Companion.toDer_eq_ok_iff.2 ⟨⟨.pem, ?_⟩, Companion.check_eq_ok_iff.2 h⟩
  simp [Companion.unarmour, isArmoured_iff.2 a.hasMark_text, a.first_text]

/-- Where the block stands. -/
def place : Place :=
  ⟨a.front, Companion.label, a.openingEnd.octets, linesText a.body, Companion.label, a.back⟩

theorem text_place : a.place.text = a.text := by
  have hb : beginLine Companion.label = beginMark ++ Companion.label ++ fiveDashes := by decide
  have he : endLine Companion.label = endMark ++ Companion.label ++ fiveDashes := by decide
  simp [place, Place.text, Place.inner, text, hb, he]

theorem place?_text_eq : place? a.text = some a.place := by
  rw [← a.text_place]
  have hlabel : (0x2D : UInt8) ∉ Companion.label := by decide
  have hdash : (0x2D : UInt8) ∉ linesText a.body :=
    not_mem_linesText a.areDigits (by decide) (by decide)
  refine place?_text ?_ ?_ hlabel ?_ ?_ a.linesText_ne_nil ?_ ?_ hlabel
  · have hm : fiveDashes ++ beginWord <:+: beginMark := by decide
    exact fun h => a.front_unmarked (.inl (hm.trans h))
  · exact fun b hb => not_mem_of_isTerminator (a.front_ends b hb) (by decide) (by decide)
  · exact fun b hb => isBlank_of_isTerminator (a.openingEnd.isTerminator_of_mem b hb)
  · exact fun b hb => isBlank_of_digit (head?_linesText a.areDigits b hb)
  · exact fun h => hdash (h.subset (by decide))
  · exact fun b hb =>
      not_mem_of_isTerminator (endsLine_linesText a.body b hb) (by decide) (by decide)

/-- The reader of all blocks finds the block and no other. -/
theorem all?_text : Block.all? a.text = some [⟨Companion.label, der⟩] := by
  have hback : ¬ beginMark <:+: a.back := by
    have hm : fiveDashes ++ beginWord <:+: beginMark := by decide
    exact fun h => a.back_unmarked (hm.trans h)
  have hraw : Block.ofRaw? a.place.raw = some ⟨Companion.label, der⟩ := by
    have hs := splitHeaders_of_unspaced (unspaced_linesText a.areDigits)
    have hkeep : ∀ b, Base64.isForeign b = false → (!isBodySpace b) = true := fun b hb => by
      simp [isBodySpace_of_digit hb]
    have hspace : ∀ b, isTerminator b = true → (!isBodySpace b) = false := fun b hb => by
      simp [isBodySpace_of_isBlank (isBlank_of_isTerminator hb)]
    have hd := Base64.decodeStrict?_encode der
    rw [← a.digits, ← filter_linesText hkeep hspace a.areDigits] at hd
    have hlabel : Companion.label.isEmpty = false := by decide
    simp [Block.ofRaw?, place, Place.raw, hs, headerLines, headerLines.go, hd, hlabel]
  have hplace := a.place?_text_eq
  rw [← a.text_place] at hplace ⊢
  rw [Block.all?, rawBlocks_text hplace hback]
  simp [hraw]

theorem text_ascii : ∀ b ∈ a.text, b < 0x80 := by
  have hfront := a.front_ascii
  have hback := a.back_ascii
  have hbegin : ∀ b ∈ beginLine Companion.label, b < 0x80 := by decide +kernel
  have hend : ∀ b ∈ endLine Companion.label, b < 0x80 := by decide +kernel
  have hopening : ∀ b ∈ a.openingEnd.octets, b < 0x80 := fun b hb =>
    lt_of_isTerminator (a.openingEnd.isTerminator_of_mem b hb)
  have hbody : ∀ b ∈ linesText a.body, b < 0x80 := fun b hb =>
    (mem_linesText a.areDigits b hb).elim lt_of_isTerminator lt_of_digit
  simp only [text, List.mem_append]
  rintro b (((((hb | hb) | hb) | hb) | hb) | hb)
  · exact hfront b hb
  · exact hbegin b hb
  · exact hopening b hb
  · exact hbody b hb
  · exact hend b hb
  · exact hback b hb

/-- The text as a string. -/
def pem : String :=
  Octets.toLatin a.text

theorem ofArmour_pem {c : Certificate} (h : Certificate.ofDer der = .ok c) :
    Certificate.ofArmour a.pem.toList = .ok c := by
  have hlabel : isCertificateLabel Companion.label = true := by decide
  exact ofArmour_eq_ok_iff.2 ⟨a.text, _, ⟨Companion.label, der⟩,
    asciiOctets_toLatin a.text_ascii, a.all?_text, by simp [hlabel], h⟩

/-- **Both readers undo armour.** However a certificate is armoured, and whatever text is around
the block, the reader of companion data gives its encoding back, and the loader the fixture that the
certificate alone has, with the armoured text in it. -/
theorem readers_undo_armour {c : Certificate} (h : Certificate.ofDer der = .ok c) :
    asciiOctets a.pem.toList = .ok a.text ∧ Companion.toDer a.text = .ok der ∧
    ∀ g, Fixture.ofCertificate "" c = .ok g → ∃ f, Fixture.load a.pem = .ok f ∧
      f.pem = .text a.pem ∧ f.der = .ofOctets der ∧ f.subject = g.subject ∧
      f.issuer = g.issuer ∧ f.serialNumber = g.serialNumber ∧
      f.sha256Fingerprint = g.sha256Fingerprint := by
  refine ⟨asciiOctets_toLatin a.text_ascii, a.toDer_text (isOk_iff_exists.2 ⟨c, h⟩),
    fun g hg => ?_⟩
  have hf := Fixture.ofCertificate_replacePem hg a.pem
  have hd : g.der = .ofOctets der := by
    rw [(Fixture.ofCertificate_eq_ok_iff.1 hg).2.1, Certificate.ofDer_der h]
  exact ⟨_, Fixture.load_eq_ok_iff.2 ⟨c, a.ofArmour_pem h, hf⟩, rfl, hd, rfl, rfl, rfl, rfl⟩

/-- The certificate of a sample, in lines of different widths and ends, with text around it. -/
def sample : Armoured (Sample.certificate (Octets.ofAscii "S")) :=
  let digits := Base64.encode (Sample.certificate (Octets.ofAscii "S"))
  { front := Octets.ofAscii "subject=S" ++ [0x0D]
    openingEnd := .crlf
    body := [(digits.take 1, .cr), ((digits.drop 1).take 70, .crlf), (digits.drop 71, .lf)]
    back := 0x0A :: Octets.ofAscii "---- BEGIN OTHER ----"
    front_ascii := by decide +kernel
    front_ends := by decide +kernel
    front_unmarked := by decide +kernel
    body_ne_nil := by simp
    line_ne_nil := by decide +kernel
    digits := by decide +kernel
    back_ascii := by decide +kernel
    back_starts := by decide +kernel
    back_unmarked := by decide +kernel }

theorem readers_undo_armour_sample :
    (∃ c, Certificate.ofDer (Sample.certificate (Octets.ofAscii "S")) = .ok c ∧
      (Fixture.ofCertificate "" c).isOk = true) ∧
    Companion.toDer sample.text = .ok (Sample.certificate (Octets.ofAscii "S")) ∧
    ∃ f, Fixture.load sample.pem = .ok f ∧
      f.der = .ofOctets (Sample.certificate (Octets.ofAscii "S")) := by
  have hread : (Certificate.ofDer (Sample.certificate (Octets.ofAscii "S"))).toOption.map
      (fun c => (Fixture.ofCertificate "" c).isOk) = some true := by decide +kernel
  obtain ⟨c, hc⟩ : ∃ c, Certificate.ofDer (Sample.certificate (Octets.ofAscii "S")) = .ok c :=
    isOk_iff_exists.1 (by decide +kernel)
  simp only [hc, Except.toOption, Option.map_some, Option.some.injEq] at hread
  obtain ⟨g, hg⟩ := isOk_iff_exists.1 hread
  obtain ⟨-, hd, hload⟩ := sample.readers_undo_armour hc
  obtain ⟨f, hf, -, hfd, -⟩ := hload g hg
  exact ⟨⟨c, hc, hread⟩, hd, f, hf, hfd⟩

end Armoured

end Specimen
