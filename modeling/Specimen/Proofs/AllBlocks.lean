import Specimen.Proofs.Lines
import Specimen.Proofs.Marks

/-!
# Where the blocks of a text stand

The reader of all blocks returns labels and bodies, and says nothing of their places. A place holds
everything around a block too, so that it gives the text back.

* `map_raw_places`: the blocks at the places of a text are those that the reader finds.
* `text_of_mem_places`: a place gives the text back.
* `place?_text`: a block is found where it stands, if no mark comes before its own.
* `find?_of_all?`: the first block with a label of some kind, in the text and among what was read.
-/

namespace Specimen.Pem

/-- A block and what stands around it: the text in front of its opening mark, the blanks after its
opening dashes, and the text after its closing dashes. -/
structure Place where
  front : Octets
  label : Octets
  gap : Octets
  body : Octets
  endLabel : Octets
  back : Octets
  deriving DecidableEq

namespace Place

/-- The block at a place. -/
def raw (p : Place) : RawBlock :=
  ⟨p.label, p.body, p.endLabel⟩

/-- What comes after the opening mark. -/
def inner (p : Place) : Octets :=
  p.label ++ fiveDashes ++ (p.gap ++ (p.body ++ endMark ++ (p.endLabel ++ fiveDashes ++ p.back)))

/-- The text in which the place is. -/
def text (p : Place) : Octets :=
  p.front ++ beginMark ++ p.inner

/-- The text that is left to be read after the block. -/
def rest (p : Place) : Octets :=
  p.back.dropWhile isBlank

/-- The place in a longer text. -/
def after (passed : Octets) (p : Place) : Place :=
  { p with front := passed ++ p.front }

/-- What of its text the block has used up, the blanks after it included. -/
def used (p : Place) : Octets :=
  p.text.take (p.text.length - p.rest.length)

@[simp]
theorem raw_after (passed : Octets) (p : Place) : (p.after passed).raw = p.raw := rfl

@[simp]
theorem text_after (passed : Octets) (p : Place) : (p.after passed).text = passed ++ p.text := by
  simp [after, text, inner]

theorem rest_suffix (p : Place) : p.rest <:+ p.text := by
  have hb : p.rest <:+ p.back := List.dropWhile_suffix isBlank
  refine hb.trans ⟨p.front ++ beginMark ++ (p.label ++ fiveDashes ++
    (p.gap ++ (p.body ++ endMark ++ (p.endLabel ++ fiveDashes)))), ?_⟩
  simp [text, inner]

theorem used_append_rest (p : Place) : p.used ++ p.rest = p.text := by
  obtain ⟨before, h⟩ := p.rest_suffix
  rw [used, ← h]
  simp

theorem length_rest_lt (p : Place) : p.rest.length < p.text.length := by
  have hb : p.rest.length ≤ p.back.length := (List.dropWhile_suffix isBlank).length_le
  simp only [text, inner, List.length_append, beginMark, fiveDashes, fourDashes,
    List.length_cons]
  omega

end Place

/-- The place of the first complete block. -/
def place? (text : Octets) : Option Place := do
  let (front, text) ← seek? beginMark text
  let (label, text) ← seek? fiveDashes text
  let (body, rest) ← seek? endMark (text.dropWhile isBlank)
  let (endLabel, back) ← seek? fiveDashes rest
  pure ⟨front, label, text.takeWhile isBlank, body, endLabel, back⟩

/-- The places of the complete blocks after the text `passed`, at most `fuel` of them. -/
def placesWithin : Nat → Octets → Octets → List Place
  | 0, _, _ => []
  | fuel + 1, passed, text =>
    match place? text with
    | none => []
    | some p => p.after passed :: placesWithin fuel (passed ++ p.used) p.rest

/-- The places of the complete blocks of a text. -/
def places (text : Octets) : List Place :=
  placesWithin text.length [] text

theorem rawBlock?_eq (text : Octets) :
    rawBlock? text = (place? text).map fun p => (p.raw, p.rest) := by
  unfold rawBlock? place?
  rcases seek? beginMark text with _ | ⟨front, t₁⟩
  · rfl
  · rcases h₁ : seek? fiveDashes t₁ with _ | ⟨label, t₂⟩
    · simp [h₁]
    · rcases h₂ : seek? endMark (t₂.dropWhile isBlank) with _ | ⟨body, t₃⟩
      · simp [h₁, h₂]
      · rcases h₃ : seek? fiveDashes t₃ with _ | ⟨endLabel, t₄⟩
        · simp [h₁, h₂, h₃]
        · simp [h₁, h₂, h₃, Place.raw, Place.rest]

theorem text_of_place? {text : Octets} {p : Place} (h : place? text = some p) : p.text = text := by
  unfold place? at h
  simp only [Option.bind_eq_bind, Option.bind_eq_some_iff, Option.pure_def, Option.some.injEq,
    Prod.exists] at h
  obtain ⟨front, t₁, h₁, label, t₂, h₂, body, t₃, h₃, endLabel, t₄, h₄, rfl⟩ := h
  simp only [Place.text, Place.inner]
  rw [seek?_eq_some h₁, seek?_eq_some h₂, ← seek?_eq_some h₄, ← seek?_eq_some h₃,
    List.takeWhile_append_dropWhile]

theorem map_raw_placesWithin (fuel : Nat) (passed text : Octets) :
    (placesWithin fuel passed text).map Place.raw = rawBlocksWithin fuel text := by
  induction fuel generalizing passed text with
  | zero => rfl
  | succ fuel ih =>
    rw [placesWithin, rawBlocksWithin, rawBlock?_eq]
    cases place? text with
    | none => rfl
    | some p => simp [ih]

/-- The blocks at the places of a text are those that the reader finds. -/
theorem map_raw_places (text : Octets) : (places text).map Place.raw = rawBlocks text :=
  map_raw_placesWithin text.length [] text

theorem text_of_mem_placesWithin {fuel : Nat} {passed text : Octets} {p : Place}
    (h : p ∈ placesWithin fuel passed text) : p.text = passed ++ text := by
  induction fuel generalizing passed text with
  | zero => simp [placesWithin] at h
  | succ fuel ih =>
    rw [placesWithin] at h
    cases hq : place? text with
    | none => simp [hq] at h
    | some q =>
      simp only [hq, List.mem_cons] at h
      have hqt := text_of_place? hq
      rcases h with rfl | h
      · rw [Place.text_after, hqt]
      · rw [ih h, List.append_assoc, Place.used_append_rest, hqt]

/-- A place gives the text back. -/
theorem text_of_mem_places {text : Octets} {p : Place} (h : p ∈ places text) : p.text = text := by
  simpa using text_of_mem_placesWithin h

theorem gap_of_mem_placesWithin {fuel : Nat} {passed text : Octets} {p : Place}
    (h : p ∈ placesWithin fuel passed text) : ∀ b ∈ p.gap, isBlank b = true := by
  induction fuel generalizing passed text with
  | zero => simp [placesWithin] at h
  | succ fuel ih =>
    rw [placesWithin] at h
    cases hq : place? text with
    | none => simp [hq] at h
    | some q =>
      simp only [hq, List.mem_cons] at h
      rcases h with rfl | h
      · unfold place? at hq
        simp only [Option.bind_eq_bind, Option.bind_eq_some_iff, Option.pure_def,
          Option.some.injEq, Prod.exists] at hq
        obtain ⟨_, _, -, _, t, -, _, _, -, _, _, -, rfl⟩ := hq
        exact List.all_eq_true.1 List.all_takeWhile
      · exact ih h

/-- Between the opening dashes and the body of a block stand blanks. -/
theorem gap_of_mem_places {text : Octets} {p : Place} (h : p ∈ places text) :
    ∀ b ∈ p.gap, isBlank b = true :=
  gap_of_mem_placesWithin h

/-! ## Finding a block where it stands -/

/-- A mark of dashes is found right after a text without dashes. -/
theorem seek?_fiveDashes {label : Octets} (h : 0x2D ∉ label) (after : Octets) :
    seek? fiveDashes (label ++ fiveDashes ++ after) = some (label, after) := by
  refine seek?_append after (by decide) (fun hi => h (hi.subset (by decide))) fun b hb hm => ?_
  have hd : b = 0x2D := by simpa [fiveDashes, fourDashes] using hm
  exact h (hd ▸ List.mem_of_getLast? hb)

/-- A block is found where it stands, if no mark comes before its own and none is run into. -/
theorem place?_text {p : Place} (hfront : ¬ beginMark <:+: p.front)
    (hopens : ∀ b, p.front.getLast? = some b → b ∉ beginMark) (hlabel : 0x2D ∉ p.label)
    (hgap : ∀ b ∈ p.gap, isBlank b = true) (hhead : ∀ b, p.body.head? = some b → isBlank b = false)
    (hne : p.body ≠ []) (hbody : ¬ endMark <:+: p.body)
    (hcloses : ∀ b, p.body.getLast? = some b → b ∉ endMark) (hend : 0x2D ∉ p.endLabel) :
    place? p.text = some p := by
  obtain ⟨b, bs, hb⟩ := List.exists_cons_of_ne_nil hne
  have hblank : isBlank b = false := hhead b (by simp [hb])
  have hcut : ∀ after, (p.gap ++ (p.body ++ after)).takeWhile isBlank = p.gap ∧
      (p.gap ++ (p.body ++ after)).dropWhile isBlank = p.body ++ after := by
    intro after
    rw [List.takeWhile_append_of_pos hgap, List.dropWhile_append_of_pos hgap, hb]
    simp [hblank]
  unfold place? Place.text
  rw [seek?_append _ (by decide) hfront hopens]
  simp only [Place.inner, Option.bind_eq_bind, Option.bind_some, seek?_fiveDashes hlabel]
  rw [List.append_assoc p.body, (hcut _).1, (hcut _).2, ← List.append_assoc p.body,
    seek?_append _ (by decide) hbody hcloses]
  simp only [Option.bind_some, seek?_fiveDashes hend, Option.pure_def]

/-- A text with one block and no opening mark after it. -/
theorem rawBlocks_text {p : Place} (h : place? p.text = some p) (hback : ¬ beginMark <:+: p.back) :
    rawBlocks p.text = [p.raw] := by
  have hmark : seek? beginMark p.rest = none :=
    seek?_eq_none fun hi => hback (hi.trans (List.dropWhile_suffix isBlank).isInfix)
  have hrest : place? p.rest = none := by simp [place?, hmark]
  have hnone : ∀ fuel, rawBlocksWithin fuel p.rest = [] := by
    intro fuel
    cases fuel with
    | zero => rfl
    | succ fuel => simp [rawBlocksWithin, rawBlock?_eq, hrest]
  have hlength := p.length_rest_lt
  unfold rawBlocks
  obtain ⟨n, hn⟩ : ∃ n, p.text.length = n + 1 := ⟨p.text.length - 1, by omega⟩
  rw [hn, rawBlocksWithin, rawBlock?_eq, h]
  simp [hnone]

/-! ## What a block carries -/

/-- Headers and data make up the body. If there are headers, lines end between the two. -/
theorem splitHeaders_cases (body : Octets) :
    splitHeaders body = ([], body) ∨ ∃ gap, gap ≠ [] ∧ EndsLine gap ∧
      body = (splitHeaders body).1 ++ gap ++ (splitHeaders body).2 := by
  unfold splitHeaders
  cases h₁ : seek? [0x0A, 0x0A] body with
  | some p => exact .inr ⟨[0x0A, 0x0A], by simp, by simp [EndsLine, isTerminator], seek?_eq_some h₁⟩
  | none =>
    cases h₂ : seek? [0x0D, 0x0A, 0x0D, 0x0A] body with
    | some p =>
      exact .inr ⟨[0x0D, 0x0A, 0x0D, 0x0A], by simp, by simp [EndsLine, isTerminator],
        seek?_eq_some h₂⟩
    | none => exact .inl rfl

theorem ofRaw?_eq_some {raw : RawBlock} {b : Block} (h : Block.ofRaw? raw = some b) :
    b.label = raw.beginLabel ∧ raw.beginLabel = raw.endLabel ∧
      Base64.decodeStrict? ((splitHeaders raw.body).2.filter fun b => !isBodySpace b) =
        some b.data := by
  simp only [Block.ofRaw?] at h
  split at h
  · simp at h
  · rename_i hlabel
    simp only [Bool.or_eq_true, List.isEmpty_iff, bne_iff_ne, ne_eq, not_or,
      Decidable.not_not] at hlabel
    split at h
    · simp at h
    · obtain ⟨carried, hd, rfl⟩ := Option.map_eq_some_iff.1 h
      exact ⟨rfl, hlabel.2, hd⟩

/-- The first block with a label of some kind, among what was read and in the text. -/
theorem find?_of_mapM {q : Octets → Bool} {ps : List Place} {blocks : List Block} {b : Block}
    (h : (ps.map Place.raw).mapM Block.ofRaw? = some blocks)
    (hb : blocks.find? (fun b => q b.label) = some b) :
    ∃ p, ps.find? (fun p => q p.label) = some p ∧ Block.ofRaw? p.raw = some b := by
  induction ps generalizing blocks with
  | nil =>
    simp only [List.map_nil, List.mapM_nil, Option.pure_def, Option.some.injEq] at h
    simp [← h] at hb
  | cons p ps ih =>
    rw [List.map_cons, List.mapM_cons] at h
    simp only [Option.bind_eq_bind, Option.bind_eq_some_iff, Option.pure_def,
      Option.some.injEq] at h
    obtain ⟨c, hc, cs, hcs, rfl⟩ := h
    have hlabel : c.label = p.label := (ofRaw?_eq_some hc).1
    rw [List.find?_cons, hlabel] at hb
    rw [List.find?_cons]
    cases hq : q p.label with
    | true =>
      simp only [hq, Option.some.injEq] at hb ⊢
      exact ⟨p, rfl, hb ▸ hc⟩
    | false =>
      simp only [hq] at hb ⊢
      exact ih hcs hb

/-- The first block with a label of some kind stands at the first such place of the text. -/
theorem find?_of_all? {q : Octets → Bool} {text : Octets} {blocks : List Block} {b : Block}
    (h : Block.all? text = some blocks) (hb : blocks.find? (fun b => q b.label) = some b) :
    ∃ p, (places text).find? (fun p => q p.label) = some p ∧ Block.ofRaw? p.raw = some b := by
  rw [Block.all?, ← map_raw_places] at h
  exact find?_of_mapM h hb

end Specimen.Pem
