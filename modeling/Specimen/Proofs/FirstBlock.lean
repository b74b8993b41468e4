import Specimen.Pem.Armour
import Specimen.Pem.FirstBlock
import Specimen.Proofs.Kinds
import Specimen.Proofs.Lines

/-!
# The first block, line by line

* `Block.ofLines_block`: on an opening line, header lines, body lines and a closing line, the
  reader gives the label and what the body carries, and looks at nothing after the closing line.
* `Block.first_eq`: the same of a text.
* `beginLabel?_beginLine`: a line that opens a block gives its label, whatever follows the dashes.
* `beginLabel?_eq_none`: a line without an opening mark opens nothing.
* `Block.length_data_lt`: a block carries fewer octets than the text that it was read from.
-/

namespace Specimen.Pem

/-! ## Opening lines -/

theorem isLabelOctet_dash : isLabelOctet 0x2D = false := rfl

private theorem takeWhile_label {label : Octets} (h : ∀ b ∈ label, isLabelOctet b = true)
    (rest : Octets) :
    (label ++ fiveDashes ++ rest).takeWhile isLabelOctet = label ∧
      (label ++ fiveDashes ++ rest).dropWhile isLabelOctet = fiveDashes ++ rest := by
  have hd : fiveDashes ++ rest = 0x2D :: (fourDashes ++ rest) := rfl
  rw [List.append_assoc, List.takeWhile_append_of_pos h, List.dropWhile_append_of_pos h, hd]
  simp [isLabelOctet_dash]

/-- A line that opens a block gives its label, whatever follows the dashes. -/
theorem beginLabel?_beginLine {label : Octets} (hne : label ≠ [])
    (h : ∀ b ∈ label, isLabelOctet b = true) (rest : Octets) :
    beginLabel? (beginLine label ++ rest) = some label := by
  have hafter : afterBegin? (beginLine label ++ rest) = some (label ++ fiveDashes ++ rest) := by
    have hcut : beginLine label ++ rest =
        fiveDashes ++ beginWord ++ [0x20] ++ (label ++ fiveDashes ++ rest) := by
      simp [beginLine]
    have hlen : (fiveDashes ++ beginWord ++ [0x20]).length = 11 := by decide
    have hp : (fiveDashes ++ beginWord ++ [0x20]).isPrefixOf (beginLine label ++ rest) = true := by
      rw [List.isPrefixOf_iff_prefix, hcut]
      exact List.prefix_append _ _
    rw [afterBegin?, if_pos hp, hcut, ← hlen, List.drop_left]
  obtain ⟨ht, hd⟩ := takeWhile_label h rest
  have hp : fiveDashes.isPrefixOf (fiveDashes ++ rest) = true := by
    rw [List.isPrefixOf_iff_prefix]
    exact List.prefix_append _ _
  unfold beginLabel?
  rw [hafter]
  simp only [ht, hd, hp]
  simp [hne]

/-- A line that opens a block starts with one of the two opening marks. -/
theorem infix_of_beginLabel? {line label : Octets} (h : beginLabel? line = some label) :
    fiveDashes ++ beginWord ++ [0x20] <+: line ∨ spacedDashes ++ beginWord ++ [0x20] <+: line := by
  unfold beginLabel? afterBegin? at h
  split at h
  · simp at h
  · rename_i rest hr
    split at hr
    · rename_i hp
      exact .inl (List.isPrefixOf_iff_prefix.1 hp)
    · split at hr
      · rename_i hp
        exact .inr (List.isPrefixOf_iff_prefix.1 hp)
      · simp at hr

/-- A line without an opening mark opens nothing. -/
theorem beginLabel?_eq_none {line : Octets} (h₁ : ¬ fiveDashes ++ beginWord <:+: line)
    (h₂ : ¬ spacedDashes ++ beginWord <:+: line) : beginLabel? line = none := by
  cases h : beginLabel? line with
  | none => rfl
  | some label =>
    rcases infix_of_beginLabel? h with hp | hp
    · exact absurd ((List.prefix_append _ _).trans hp).isInfix h₁
    · exact absurd ((List.prefix_append _ _).trans hp).isInfix h₂

/-! ## A block that stands in lines -/

theorem dropHeaders_append {hs ds : List Octets} (hh : ∀ l ∈ hs, isHeader l = true)
    (ha : ∀ l ∈ hs, firstNonAscii? 0 l = none) (hd : ∀ l, ds.head? = some l → isHeader l = false) :
    dropHeaders (hs ++ ds) = .ok ds := by
  induction hs with
  | nil =>
    cases ds with
    | nil => rfl
    | cons d ds => simp [dropHeaders, hd d rfl]
  | cons l hs ih =>
    simp only [List.mem_cons, forall_eq_or_imp] at hh ha
    simp [dropHeaders, hh.1, ha.1, ih hh.2 ha.2]

theorem body?_append {ds : List Octets} (hd : ∀ l ∈ ds, isClosing l = false) {close : Octets}
    (hc : isClosing close = true) (rest : List Octets) :
    body? (ds ++ close :: rest) = some ds.flatten := by
  induction ds with
  | nil => simp [body?, hc]
  | cons d ds ih =>
    simp only [List.mem_cons, forall_eq_or_imp] at hd
    simp [body?, hd.1, ih hd.2]

/-- A block that stands in lines: the reader gives its label and what its body carries. -/
theorem Block.ofLines_block {front headers body rest : List Octets}
    {opening closing label data : Octets} (hfront : ∀ l ∈ front, beginLabel? l = none)
    (hopening : beginLabel? opening = some label) (hheader : ∀ l ∈ headers, isHeader l = true)
    (hascii : ∀ l ∈ headers, firstNonAscii? 0 l = none) (hbody : ∀ l ∈ body, isHeader l = false)
    (hne : body ≠ []) (hdash : ∀ l ∈ body, isClosing l = false)
    (hclosing : isClosing closing = true) (hdata : Base64.decodeLenient body.flatten = .ok data) :
    Block.ofLines (front ++ opening :: (headers ++ (body ++ closing :: rest))) =
      .ok ⟨label, data⟩ := by
  have hhead : ∀ l, (body ++ closing :: rest).head? = some l → isHeader l = false := by
    intro l hl
    obtain ⟨d, ds, rfl⟩ := List.exists_cons_of_ne_nil hne
    simp only [List.cons_append, List.head?_cons, Option.some.injEq] at hl
    exact hbody l (by simp [hl])
  rw [Block.ofLines_skip hfront]
  unfold Block.ofLines firstBegin?
  simp only [hopening, dropHeaders_append hheader hascii hhead, body?_append hdash hclosing rest,
    hdata]

/-! ## A block that stands in a text -/

theorem firstNonAscii?_eq_none {l : Octets} (h : ∀ b ∈ l, b < 0x80) (i : Nat) :
    firstNonAscii? i l = none := by
  induction l generalizing i with
  | nil => rfl
  | cons b l ih =>
    simp only [List.mem_cons, forall_eq_or_imp] at h
    simp [firstNonAscii?, h.1, ih h.2]

theorem isHeader_eq_false {l : Octets} (h : 0x3A ∉ l) : isHeader l = false := by
  simpa [isHeader] using h

/-- A line without dashes closes nothing. -/
theorem isClosing_eq_false {l : Octets} (h : 0x2D ∉ l) : isClosing l = false := by
  have hd : ∀ mark : Octets, mark.head? = some 0x2D → mark.isPrefixOf l = false := by
    intro mark hm
    rw [Bool.eq_false_iff, Ne, List.isPrefixOf_iff_prefix]
    exact fun hp => h (hp.subset (List.mem_of_mem_head? hm))
  simp [isClosing, hd fiveDashes rfl, hd spacedDashes rfl]

theorem isTerminator_of_mem_beginLine {label : Octets} (h : ∀ b ∈ label, isLabelOctet b = true) :
    ∀ b ∈ beginLine label, isTerminator b = false := by
  have hmark : ∀ b ∈ fiveDashes ++ beginWord ++ [0x20], isTerminator b = false := by
    decide +kernel
  intro b hb
  have hcases : b ∈ label ∨ b ∈ fiveDashes ++ beginWord ++ [0x20] := by
    simp only [beginLine, List.mem_append, List.mem_cons, List.not_mem_nil] at hb ⊢
    grind
  rcases hcases with hb | hb
  · exact isTerminator_of_isLabelOctet (h b hb)
  · exact hmark b hb

/-- A block that stands in a text: whole lines that open nothing, an opening line, whole header
lines, whole lines of data without colon or dash, and dashes. -/
theorem Block.first_eq {front label rest headers data after d : Octets} {t : UInt8}
    (hfront : EndsLine front) (hskip : ∀ l ∈ lines front, beginLabel? l = none)
    (hlabel : label ≠ []) (hoctets : ∀ b ∈ label, isLabelOctet b = true)
    (hrest : ∀ b ∈ rest, isTerminator b = false) (ht : isTerminator t = true)
    (hheaders : EndsLine headers) (hheader : ∀ l ∈ lines headers, isHeader l = true)
    (hascii : ∀ b ∈ headers, b < 0x80) (hends : EndsLine data)
    (hdata : ∀ b ∈ data, b ≠ 0x3A ∧ b ≠ 0x2D) (hd : Base64.decodeLenient data = .ok d)
    (hne : d ≠ []) :
    Block.first (front ++ (beginLine label ++ rest ++
      t :: (headers ++ (data ++ (fiveDashes ++ after))))) = .ok ⟨label, d⟩ := by
  have hopening : ∀ b ∈ beginLine label ++ rest, isTerminator b = false := by
    intro b hb
    rcases List.mem_append.1 hb with hb | hb
    · exact isTerminator_of_mem_beginLine hoctets b hb
    · exact hrest b hb
  have hcarried : Base64.decodeLenient (lines data).flatten = .ok d := by
    rw [flatten_lines, decodeLenient_terminators, hd]
  have hbody : lines data ≠ [] := by
    intro h
    rw [h, List.flatten_nil, show Base64.decodeLenient [] = .ok [] from rfl,
      Except.ok.injEq] at hcarried
    exact hne hcarried.symm
  have hdashes : ∀ b ∈ fiveDashes, isTerminator b = false := by decide +kernel
  unfold Block.first
  rw [lines_append hfront, lines_line (by simp [beginLine, fiveDashes]) hopening ht,
    lines_append hheaders, lines_append hends, lines_unbroken_append (by decide) hdashes]
  refine Block.ofLines_block hskip (beginLabel?_beginLine hlabel hoctets rest) hheader ?_ ?_ hbody
    ?_ ?_ hcarried
  · exact fun l hl => firstNonAscii?_eq_none (fun b hb => hascii b (mem_of_mem_lines hl hb).1) 0
  · exact fun l hl => isHeader_eq_false fun hb => (hdata _ (mem_of_mem_lines hl hb).1).1 rfl
  · exact fun l hl => isClosing_eq_false fun hb => (hdata _ (mem_of_mem_lines hl hb).1).2 rfl
  · simp [isClosing]

/-! ## The parts of a block that has been read -/

theorem firstBegin?_eq_some {ls rest : List Octets} {label : Octets}
    (h : firstBegin? ls = some (label, rest)) :
    ∃ front opening, ls = front ++ opening :: rest ∧ beginLabel? opening = some label ∧
      ∀ l ∈ front, beginLabel? l = none := by
  induction ls with
  | nil => simp [firstBegin?] at h
  | cons l ls ih =>
    rw [firstBegin?] at h
    split at h
    · rename_i found hl
      simp only [Option.some.injEq, Prod.mk.injEq] at h
      obtain ⟨rfl, rfl⟩ := h
      exact ⟨[], l, rfl, hl, by simp⟩
    · rename_i hl
      obtain ⟨front, opening, rfl, hopening, hfront⟩ := ih h
      exact ⟨l :: front, opening, rfl, hopening, by simpa [hl] using hfront⟩

theorem dropHeaders_eq_ok {ls rest : List Octets} (h : dropHeaders ls = .ok rest) :
    ∃ headers, ls = headers ++ rest ∧ (∀ l ∈ headers, isHeader l = true) ∧
      ∀ l, rest.head? = some l → isHeader l = false := by
  induction ls with
  | nil =>
    obtain rfl : [] = rest := Except.ok.inj h
    exact ⟨[], rfl, by simp, by simp⟩
  | cons l ls ih =>
    rw [dropHeaders] at h
    split at h
    · rename_i hl
      split at h
      · simp at h
      · obtain ⟨headers, rfl, hheaders, hrest⟩ := ih h
        exact ⟨l :: headers, rfl, by simpa [hl] using hheaders, hrest⟩
    · rename_i hl
      obtain rfl : l :: ls = rest := Except.ok.inj h
      exact ⟨[], rfl, by simp, by simpa using hl⟩

theorem body?_eq_some {ls : List Octets} {body : Octets} (h : body? ls = some body) :
    ∃ ds closing rest, ls = ds ++ closing :: rest ∧ ds.flatten = body ∧
      (∀ l ∈ ds, isClosing l = false) ∧ isClosing closing = true := by
  induction ls generalizing body with
  | nil => simp [body?] at h
  | cons l ls ih =>
    rw [body?] at h
    split at h
    · rename_i hl
      exact ⟨[], l, ls, rfl, Option.some.inj h, by simp, hl⟩
    · rename_i hl
      obtain ⟨body, hbody, rfl⟩ := Option.map_eq_some_iff.1 h
      obtain ⟨ds, closing, rest, rfl, rfl, hds, hclosing⟩ := ih hbody
      exact ⟨l :: ds, closing, rest, rfl, rfl, by simpa [hl] using hds, hclosing⟩

/-- A block carries fewer octets than the text that it was read from: its opening line carries
nothing, and base64 does not shorten. -/
theorem Block.length_data_lt {text : Octets} {b : Block} (h : Block.first text = .ok b) :
    b.data.length < text.length := by
  unfold Block.first Block.ofLines at h
  split at h
  · simp at h
  · rename_i label rest hbegin
    obtain ⟨front, opening, hls, -, -⟩ := firstBegin?_eq_some hbegin
    split at h
    · simp at h
    · rename_i body hdrop
      obtain ⟨headers, hrest, -, -⟩ := dropHeaders_eq_ok hdrop
      split at h
      · simp at h
      · rename_i digits hbody
        split at h
        · simp at h
        · rename_i data hdata
          obtain ⟨ds, closing, after, hds, rfl, -, -⟩ := body?_eq_some hbody
          simp only [Except.ok.injEq] at h
          subst h
          have hopening : opening ≠ [] := ne_nil_of_mem_lines (by rw [hls]; simp)
          have hpos := List.length_pos_iff.2 hopening
          have hlines : (lines text).flatten.length ≤ text.length := by
            rw [flatten_lines]
            exact List.length_filter_le _ _
          have hdecoded := Base64.length_le_of_decodeLenient hdata
          rw [hls, hrest, hds] at hlines
          simp only [List.flatten_append, List.flatten_cons, List.length_append] at hlines
          show data.length < text.length
          omega

end Specimen.Pem
