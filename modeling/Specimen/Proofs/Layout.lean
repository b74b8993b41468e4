import Mathlib.Control.Monad.Basic
import Mathlib.Logic.Relation
import Specimen.Companion.File
import Specimen.Proofs.FirstBlock
import Specimen.Proofs.Marks
import Specimen.Proofs.Sample

/-!
# The layout of armoured data

What comes of armoured data is settled by the lines of its first block. How the lines end, how many
empty ones stand between them, what stands before the block and what comes after it is layout.

* `Pem.relaid_iff`: texts have the same lines exactly if they differ in layout only.
* `Pem.hasMark_iff_lines`: a mark stands in a line of its own.
* `Pem.BlockLines.IsFirstOf.ofLines_eq`: the first block of a text, by the lines it consists of.
* `Companion.outcome_by_first_block`: which changes of a text leave the outcome as it is.
-/

namespace Specimen

namespace Pem

variable {bs xs ys t data mark : Octets}

/-! ## Texts with the same lines -/

/-- What ends a line: a line feed, a carriage return, or the pair of both. -/
inductive IsBreak : Octets → Prop where
  | lineFeed : IsBreak [0x0A]
  | carriageReturn : IsBreak [0x0D]
  | pair : IsBreak [0x0D, 0x0A]

/-- One change of the layout of a text: a line ends in another way, an empty line is put in where a
line starts, or the last line is ended too. -/
inductive Relays : Octets → Octets → Prop where
  | exchange {t t' : Octets} (xs ys : Octets) (ht : IsBreak t) (ht' : IsBreak t') :
      Relays (xs ++ (t ++ ys)) (xs ++ (t' ++ ys))
  | insert {xs t : Octets} (ys : Octets) (hxs : EndsLine xs) (ht : IsBreak t) :
      Relays (xs ++ ys) (xs ++ (t ++ ys))
  | finish {t : Octets} (xs : Octets) (ht : IsBreak t) : Relays xs (xs ++ t)

/-- Two texts that differ in layout only: changes lead from one to the other, in both
directions. -/
def Relaid : Octets → Octets → Prop :=
  Relation.EqvGen Relays

/-- A line that is ended is not continued by what comes after. -/
theorem IsBreak.lines_append_append (ht : IsBreak t) (xs ys : Octets) :
    lines (xs ++ (t ++ ys)) = lines xs ++ lines ys := by
  cases ht with
  | lineFeed => exact lines_append_terminator rfl xs ys
  | carriageReturn => exact lines_append_terminator rfl xs ys
  | pair =>
    show lines (xs ++ 0x0D :: 0x0A :: ys) = _
    rw [lines_append_terminator rfl, lines_terminator rfl]

theorem Relays.lines_eq (h : Relays xs ys) : lines xs = lines ys := by
  cases h with
  | exchange xs ys ht ht' => rw [ht.lines_append_append, ht'.lines_append_append]
  | insert ys hxs ht => rw [lines_append hxs, ht.lines_append_append]
  | finish _ ht => simpa using (ht.lines_append_append xs []).symm

theorem Relaid.lines_eq (h : Relaid xs ys) : lines xs = lines ys := by
  induction h with
  | rel xs ys h => exact h.lines_eq
  | refl xs => rfl
  | symm xs ys _ ih => exact ih.symm
  | trans xs ys zs _ _ ih ih' => exact ih.trans ih'

/-- Lines one after the other, each ended by a line feed. -/
def ended (ls : List Octets) : Octets :=
  ls.flatMap (· ++ [0x0A])

theorem endsLine_concat (xs : Octets) : EndsLine (xs ++ [0x0A]) := by
  simp [EndsLine, isTerminator]

/-- The text is brought into the layout of `ended` from its start on: what is done ends a line, and
`line`, kept in reverse, has been passed over since. -/
theorem relaid_ended_linesFrom {done : Octets} (hdone : EndsLine done) (line bs : Octets) :
    Relaid (done ++ (line.reverse ++ bs)) (done ++ ended (linesFrom line bs)) := by
  induction bs generalizing done line with
  | nil =>
    by_cases hline : line = []
    · subst hline
      exact .refl _
    · have hlast : ended (linesFrom line []) = line.reverse ++ [0x0A] := by
        simp [linesFrom, finishLine, hline, ended]
      rw [hlast, List.append_nil, ← List.append_assoc]
      exact .rel _ _ (.finish _ .lineFeed)
  | cons b bs ih =>
    by_cases hb : isTerminator b = true
    · have hbreak : IsBreak [b] := by
        rcases isTerminator_iff.1 hb with rfl | rfl
        · exact .lineFeed
        · exact .carriageReturn
      by_cases hline : line = []
      · -- An empty line, which is taken out.
        subst hline
        rw [linesFrom_terminator hb]
        have hout := Relation.EqvGen.rel _ _ (Relays.insert bs hdone hbreak)
        exact .trans _ _ _ (.symm _ _ hout) (ih hdone [])
      · have hfirst : done ++ ended (linesFrom line (b :: bs)) =
            done ++ line.reverse ++ [0x0A] ++ ended (linesFrom [] bs) := by
          simp [linesFrom_terminator hb, finishLine, hline, ended]
        have hexchange := Relays.exchange (done ++ line.reverse) bs hbreak .lineFeed
        have hnext := ih (endsLine_concat (done ++ line.reverse)) []
        rw [hfirst]
        refine .trans _ _ _ ?_ hnext
        simpa using Relation.EqvGen.rel _ _ hexchange
    · have hnext := ih hdone (b :: line)
      simpa [linesFrom, hb] using hnext

theorem relaid_ended (bs : Octets) : Relaid bs (ended (lines bs)) := by
  have hnil : EndsLine [] := by simp [EndsLine]
  simpa [lines] using relaid_ended_linesFrom hnil [] bs

/-- Texts differ in layout only exactly if they have the same lines. -/
theorem relaid_iff : Relaid xs ys ↔ lines xs = lines ys := by
  refine ⟨Relaid.lines_eq, fun h => ?_⟩
  have hys := relaid_ended ys
  rw [← h] at hys
  exact .trans _ _ _ (relaid_ended xs) (.symm _ _ hys)

/-! ## Marks and lines -/

/-- A line that has been begun is the first one. -/
theorem exists_linesFrom_cons {line : Octets} (hline : line ≠ []) (bs : Octets) :
    ∃ tail rest, linesFrom line bs = (line.reverse ++ tail) :: rest := by
  induction bs generalizing line with
  | nil => exact ⟨[], [], by simp [linesFrom, finishLine, hline]⟩
  | cons b bs ih =>
    by_cases hb : isTerminator b = true
    · exact ⟨[], linesFrom [] bs, by simp [linesFrom_terminator hb, finishLine, hline]⟩
    · obtain ⟨tail, rest, h⟩ := ih (List.cons_ne_nil b line)
      exact ⟨b :: tail, rest, by simp [linesFrom, hb, h]⟩

/-- An unbroken piece of a text stands in one of its lines. -/
theorem exists_mem_linesFrom (hne : mark ≠ []) (hmark : ∀ b ∈ mark, isTerminator b = false)
    (line xs ys : Octets) : ∃ l ∈ linesFrom line (xs ++ (mark ++ ys)), mark <:+: l := by
  induction xs generalizing line with
  | nil =>
    have hbegun : mark.reverse ++ line ≠ [] := by simp [hne]
    obtain ⟨tail, rest, h⟩ := exists_linesFrom_cons hbegun ys
    rw [List.nil_append, linesFrom_unbroken hmark, h]
    exact ⟨_, List.mem_cons_self, line.reverse, tail, by simp⟩
  | cons x xs ih =>
    rw [List.cons_append, linesFrom]
    split
    · obtain ⟨l, hl, hin⟩ := ih []
      rw [finishLine_eq]
      exact ⟨l, List.mem_append_right _ hl, hin⟩
    · exact ih (x :: line)

theorem infix_iff_exists_mem_lines (hne : mark ≠ []) (hmark : ∀ b ∈ mark, isTerminator b = false) :
    mark <:+: bs ↔ ∃ l ∈ lines bs, mark <:+: l := by
  constructor
  · rintro ⟨xs, ys, rfl⟩
    rw [List.append_assoc]
    exact exists_mem_linesFrom hne hmark [] xs ys
  · rintro ⟨l, hl, h⟩
    exact h.trans (infix_of_mem_lines hl)

/-- Data has a mark exactly if one of its lines has. -/
theorem hasMark_iff_lines : HasMark data ↔ ∃ l ∈ lines data, HasMark l := by
  have hfive : ∀ b ∈ fiveDashes ++ beginWord, isTerminator b = false := by decide +kernel
  have hspaced : ∀ b ∈ spacedDashes ++ beginWord, isTerminator b = false := by decide +kernel
  unfold HasMark
  rw [infix_iff_exists_mem_lines (by decide) hfive, infix_iff_exists_mem_lines (by decide) hspaced]
  constructor
  · rintro (⟨l, hl, h⟩ | ⟨l, hl, h⟩)
    · exact ⟨l, hl, .inl h⟩
    · exact ⟨l, hl, .inr h⟩
  · rintro ⟨l, hl, h | h⟩
    · exact .inl ⟨l, hl, h⟩
    · exact .inr ⟨l, hl, h⟩

theorem hasMark_of_beginLabel? {l : Octets} (h : beginLabel? l ≠ none) : HasMark l := by
  obtain ⟨label, hlabel⟩ := Option.ne_none_iff_exists'.1 h
  rcases infix_of_beginLabel? hlabel with hp | hp
  · exact .inl ((List.prefix_append _ _).trans hp).isInfix
  · exact .inr ((List.prefix_append _ _).trans hp).isInfix

/-! ## The lines of the first block -/

/-- The lines of a block up to its closing line. -/
structure BlockLines where
  opening : Octets
  headers : List Octets
  body : List Octets

namespace BlockLines

variable {b : BlockLines} {front rest ls ls' : List Octets} {closing : Octets}

/-- The lines are those of the first block, with `front` before it and `closing` after it: nothing
is opened before, the headers go on as long as there are any, and so does the body to the first
line that closes it. -/
structure IsFirst (b : BlockLines) (front : List Octets) (closing : Octets) : Prop where
  front : ∀ l ∈ front, beginLabel? l = none
  opening : beginLabel? b.opening ≠ none
  headers : ∀ l ∈ b.headers, isHeader l = true
  no_header : ∀ l, (b.body ++ [closing]).head? = some l → isHeader l = false
  body : ∀ l ∈ b.body, isClosing l = false
  closing : isClosing closing = true

/-- The lines hold a whole block, and `b` is the first one. -/
def IsFirstOf (b : BlockLines) (ls : List Octets) : Prop :=
  ∃ front closing rest, b.IsFirst front closing ∧
    ls = front ++ b.opening :: (b.headers ++ (b.body ++ closing :: rest))

/-- What is read of a block, by its lines alone. -/
def read (b : BlockLines) : Except Flaw Block :=
  match dropHeaders b.headers with
  | .error f => .error f
  | .ok _ =>
    match Base64.decodeLenient b.body.flatten with
    | .error f => .error (.base64 f)
    | .ok data => .ok ⟨(beginLabel? b.opening).getD [], data⟩

/-- Headers are judged by themselves, and what comes after them is kept. -/
theorem dropHeaders_append_eq {hs ds : List Octets} (hh : ∀ l ∈ hs, isHeader l = true)
    (hd : ∀ l, ds.head? = some l → isHeader l = false) :
    dropHeaders (hs ++ ds) = (dropHeaders hs).map fun _ => ds := by
  induction hs with
  | nil =>
    cases ds with
    | nil => rfl
    | cons d ds => simp [dropHeaders, hd d rfl, Except.map]
  | cons l hs ih =>
    simp only [List.mem_cons, forall_eq_or_imp] at hh
    rw [List.cons_append, dropHeaders, dropHeaders, if_pos hh.1, if_pos hh.1]
    cases firstNonAscii? 0 l with
    | none => exact ih hh.2
    | some p => rfl

/-- The first block is read from its own lines, whatever comes before and after them. -/
theorem IsFirstOf.ofLines_eq (h : b.IsFirstOf ls) : Block.ofLines ls = b.read := by
  obtain ⟨front, closing, rest, hb, rfl⟩ := h
  obtain ⟨label, hlabel⟩ := Option.ne_none_iff_exists'.1 hb.opening
  have hhead : ∀ l, (b.body ++ closing :: rest).head? = some l → isHeader l = false := by
    intro l hl
    refine hb.no_header l ?_
    cases hbody : b.body <;> simpa [hbody] using hl
  rw [Block.ofLines_skip hb.front, Block.ofLines, firstBegin?, hlabel, read, hlabel]
  simp only [dropHeaders_append_eq hb.headers hhead]
  cases dropHeaders b.headers with
  | error f => rfl
  | ok ds =>
    have hbody := body?_append hb.body hb.closing rest
    cases hdata : Base64.decodeLenient b.body.flatten <;> simp [Except.map, hbody, hdata]

/-- Lines of which a block has been read hold a whole one. -/
theorem exists_isFirstOf {block : Block} (h : Block.ofLines ls = .ok block) :
    ∃ b : BlockLines, b.IsFirstOf ls := by
  unfold Block.ofLines at h
  split at h
  · simp at h
  · rename_i label rest hbegin
    obtain ⟨front, opening, rfl, hopening, hfront⟩ := firstBegin?_eq_some hbegin
    split at h
    · simp at h
    · rename_i inner hdrop
      obtain ⟨headers, rfl, hheaders, hhead⟩ := dropHeaders_eq_ok hdrop
      split at h
      · simp at h
      · rename_i body hbody
        obtain ⟨ds, closing, after, rfl, -, hds, hclosing⟩ := body?_eq_some hbody
        refine ⟨⟨opening, headers, ds⟩, front, closing, after, ⟨hfront, by simp [hopening],
          hheaders, fun l hl => hhead l ?_, hds, hclosing⟩, rfl⟩
        cases ds <;> simpa using hl

/-- A block that is whole stays the first one whatever comes after it. -/
theorem IsFirstOf.append (h : b.IsFirstOf ls) (more : List Octets) : b.IsFirstOf (ls ++ more) := by
  obtain ⟨front, closing, rest, hb, rfl⟩ := h
  exact ⟨front, closing, rest ++ more, hb, by simp⟩

/-- Data with a block has a mark. -/
theorem IsFirstOf.hasMark (h : b.IsFirstOf (lines data)) : HasMark data := by
  obtain ⟨front, closing, rest, hb, hlines⟩ := h
  exact hasMark_iff_lines.2 ⟨b.opening, by simp [hlines], hasMark_of_beginLabel? hb.opening⟩

end BlockLines

end Pem

namespace Companion

open Pem

variable {data other : Octets} {b : BlockLines}

/-! ## What comes of armoured data -/

/-- Two data come to the same: a certificate or a flaw, with the event that is noted. -/
structure SameOutcome (data other : Octets) : Prop where
  toDer : toDer other = toDer data
  decode : ∀ w, (decode other).on w = (decode data).on w

theorem unarmour_of_hasMark (h : HasMark data) :
    unarmour data = match Block.ofLines (lines data) with
      | .error flaw => .error (.armour flaw)
      | .ok block =>
        if block.label = label then .ok (.pem, block.data)
        else .error (.wrongLabel block.label) := by
  unfold unarmour Block.first
  exact if_pos (isArmoured_iff.2 h)

/-- Armoured data with the same first block comes to the same. -/
theorem sameOutcome_of_ofLines (h : HasMark data) (h' : HasMark other)
    (heq : Block.ofLines (lines other) = Block.ofLines (lines data)) : SameOutcome data other := by
  have hunarmour : unarmour other = unarmour data := by
    rw [unarmour_of_hasMark h, unarmour_of_hasMark h', heq]
  constructor
  · unfold toDer
    rw [hunarmour]
  · intro w
    unfold decode
    rw [hunarmour]

theorem sameOutcome_of_lines (h : HasMark data) (hlines : lines other = lines data) :
    SameOutcome data other := by
  have h' : HasMark other := by
    rw [hasMark_iff_lines, hlines]
    exact hasMark_iff_lines.1 h
  exact sameOutcome_of_ofLines h h' (by rw [hlines])

/-- What stands in front and opens nothing is passed over. -/
theorem sameOutcome_front (h : HasMark data) {front : Octets} (hends : EndsLine front)
    (hskip : ∀ l ∈ lines front, beginLabel? l = none) : SameOutcome data (front ++ data) := by
  refine sameOutcome_of_ofLines h (h.of_infix (List.suffix_append front data).isInfix) ?_
  rw [lines_append hends, Block.ofLines_skip hskip]

/-- Data with the same first block, whole in both, comes to the same. -/
theorem sameOutcome_of_isFirstOf (h : b.IsFirstOf (lines data)) (h' : b.IsFirstOf (lines other)) :
    SameOutcome data other :=
  sameOutcome_of_ofLines h.hasMark h'.hasMark (h'.ofLines_eq.trans h.ofLines_eq.symm)

/-- A block can have been read only of lines that hold it whole. -/
theorem exists_isFirstOf_of_toDer (h : HasMark data) {der : Octets} (hder : toDer data = .ok der) :
    ∃ b : BlockLines, b.IsFirstOf (lines data) := by
  obtain ⟨⟨e, hu⟩, -⟩ := toDer_eq_ok_iff.1 hder
  rw [unarmour_of_hasMark h] at hu
  cases hblock : Block.ofLines (lines data) with
  | error flaw => simp [hblock] at hu
  | ok block => exact BlockLines.exists_isFirstOf hblock

/-- **The first block decides.** What comes of data with a mark, be it a certificate or a flaw, does
not depend on the layout: it is the same for all texts with the same lines that are not empty. It
does not depend on lines in front that open nothing. If the first block is whole, which it is
whenever a certificate comes out, then whatever is appended after the end of a line makes no
difference either, and the lines of that block are all it depends on. -/
theorem outcome_by_first_block (h : HasMark data) :
    (∀ other, (Relaid data other ↔ lines other = lines data) ∧
      (Relaid data other → SameOutcome data other)) ∧
    (∀ front, EndsLine front → (∀ l ∈ lines front, beginLabel? l = none) →
      SameOutcome data (front ++ data)) ∧
    (∀ der, toDer data = .ok der → ∃ b : BlockLines, b.IsFirstOf (lines data)) ∧
    ∀ b : BlockLines, b.IsFirstOf (lines data) →
      (∀ t more, IsBreak t → SameOutcome data (data ++ (t ++ more))) ∧
      (EndsLine data → ∀ more, SameOutcome data (data ++ more)) ∧
      ∀ other, b.IsFirstOf (lines other) → SameOutcome data other := by
  refine ⟨fun other => ⟨?_, fun hr => ?_⟩, fun front => sameOutcome_front h,
    fun der => exists_isFirstOf_of_toDer h, fun b hb => ?_⟩
  · rw [relaid_iff, eq_comm]
  · exact sameOutcome_of_lines h hr.lines_eq.symm
  · refine ⟨fun t more ht => ?_, fun hends more => ?_, fun other => sameOutcome_of_isFirstOf hb⟩
    · refine sameOutcome_of_isFirstOf hb ?_
      rw [ht.lines_append_append]
      exact hb.append _
    · refine sameOutcome_of_isFirstOf hb ?_
      rw [lines_append hends]
      exact hb.append _

/-- A certificate in armour. -/
def armouredSample : Octets :=
  armour label (Sample.certificate (Octets.ofAscii "S"))

/-- The lines of the block of the sample. -/
def blockSample : BlockLines :=
  let digits := Base64.encode (Sample.certificate (Octets.ofAscii "S"))
  ⟨beginLine label, [], cut 64 digits.length digits⟩

theorem isFirstOf_blockSample : blockSample.IsFirstOf (lines armouredSample) := by
  refine ⟨[], endLine label, [], ⟨by simp, by decide +kernel, by simp [blockSample], ?_,
    by decide +kernel, by decide +kernel⟩, by decide +kernel⟩
  intro l hl
  have hbody : ∀ l ∈ blockSample.body ++ [endLine label], isHeader l = false := by decide +kernel
  exact hbody l (List.mem_of_mem_head? hl)

/-- The sample with carriage returns, with text in front of it, and with another block begun after
it. -/
theorem outcome_by_first_block_sample :
    let cert := Sample.certificate (Octets.ofAscii "S")
    toDer (armouredSample.map fun b => if b = 0x0A then 0x0D else b) = .ok cert ∧
    toDer (Octets.ofAscii "Data:\r\n\r" ++ armouredSample) = .ok cert ∧
    toDer (armouredSample ++ Octets.ofAscii "-----BEGIN OTHER-----") = .ok cert := by
  intro cert
  have hcert : toDer armouredSample = .ok cert := by decide +kernel
  have hmark : HasMark armouredSample := by decide +kernel
  obtain ⟨hrelaid, hfront, -, hblock⟩ := outcome_by_first_block hmark
  obtain ⟨-, hmore, -⟩ := hblock blockSample isFirstOf_blockSample
  refine ⟨?_, ?_, ?_⟩
  · obtain ⟨hlines, hsame⟩ := hrelaid (armouredSample.map fun b => if b = 0x0A then 0x0D else b)
    exact (hsame (hlines.2 (by decide +kernel))).toDer.trans hcert
  · exact (hfront _ (by decide +kernel) (by decide +kernel)).toDer.trans hcert
  · exact (hmore (by decide +kernel) _).toDer.trans hcert

end Companion

end Specimen
