import Specimen.Proofs.Guarded
import Specimen.Proofs.HexInverse
import Specimen.X509.NameText

/-!
# Values and their texts

A text is written as a value with backslashes, of which the first and the last character get more
than the others. Read from the front, each character tells how far it goes, so the text can be read
back; and a separator is seen only where there is one.

* `escapeText_inj`: a text is told by the way it is written as a value.
* `valueText_eq_iff`: so is a bit string, but for the empty one.
* `guarded_valueText`: the separators in a value are guarded.
-/

namespace Specimen.X509

variable {p : Char → Bool} {c d sep : Char} {cs ds x y : List Char}

/-! ## Characters with backslashes -/

/-- How a character is written when `p` tells which ones get a backslash. -/
def written (p : Char → Bool) (c : Char) : List Char :=
  if p c then ['\\', c] else if c = '\x00' then ['\\', '0', '0'] else [c]

/-- The characters that get a backslash at the beginning of a value. -/
def isSpecialFirst (c : Char) : Bool :=
  isSpecial c || c == '#' || c == ' '

/-- The character at the beginning of a text, and what follows it. -/
def readWritten : List Char → Option (Char × List Char)
  | [] => none
  | '\\' :: '0' :: '0' :: cs => some ('\x00', cs)
  | '\\' :: c :: cs => some (c, cs)
  | c :: cs => some (c, cs)

theorem written_cases (p : Char → Bool) (c : Char) :
    p c = true ∧ written p c = ['\\', c] ∨
    c = '\x00' ∧ written p c = ['\\', '0', '0'] ∨
    p c = false ∧ written p c = [c] := by
  unfold written
  by_cases hp : p c = true
  · exact .inl ⟨hp, if_pos hp⟩
  · rw [if_neg hp]
    by_cases h0 : c = '\x00'
    · exact .inr (.inl ⟨h0, if_pos h0⟩)
    · exact .inr (.inr ⟨Bool.not_eq_true _ ▸ hp, if_neg h0⟩)

theorem written_ne_nil (p : Char → Bool) (c : Char) : written p c ≠ [] := by
  rcases written_cases p c with ⟨-, hw⟩ | ⟨-, hw⟩ | ⟨-, hw⟩ <;> simp [hw]

/-- A character is read back if the backslash gets a backslash and the digit zero gets none. -/
theorem readWritten_written (hback : p '\\' = true) (hzero : p '0' = false) (c : Char)
    (x : List Char) : readWritten (written p c ++ x) = some (c, x) := by
  rcases written_cases p c with ⟨hc, hw⟩ | ⟨rfl, hw⟩ | ⟨hc, hw⟩
  · have hne : c ≠ '0' := by
      rintro rfl
      rw [hzero] at hc
      cases hc
    rw [hw]
    simp [readWritten, hne]
  · rw [hw]
    rfl
  · have hne : c ≠ '\\' := by
      rintro rfl
      rw [hback] at hc
      cases hc
    rw [hw]
    simp [readWritten, hne]

theorem written_append_inj (hback : p '\\' = true) (hzero : p '0' = false)
    (h : written p c ++ x = written p d ++ y) : c = d ∧ x = y := by
  have hread := congrArg readWritten h
  rw [readWritten_written hback hzero, readWritten_written hback hzero] at hread
  exact Prod.mk.inj (Option.some.inj hread)

theorem guarded_written (hback : p '\\' = true) (hzero : p '0' = false) (hsep : p sep = true)
    (c : Char) : Guarded sep (written p c) := by
  have hne : sep ≠ '0' := by
    rintro rfl
    rw [hzero] at hsep
    cases hsep
  rcases written_cases p c with ⟨hc, hw⟩ | ⟨rfl, hw⟩ | ⟨hc, hw⟩ <;> rw [hw]
  · exact .escaped .nil
  · exact .escaped (.plain (by decide) hne.symm .nil)
  · refine .plain ?_ ?_ .nil
    · rintro rfl
      rw [hback] at hc
      cases hc
    · rintro rfl
      rw [hsep] at hc
      cases hc

theorem written_isSpecial : escapeChar = written isSpecial := rfl

theorem flatMap_escapeChar_cons_ne_nil (c : Char) (cs : List Char) :
    (c :: cs).flatMap escapeChar ≠ [] := by
  rw [List.flatMap_cons, written_isSpecial]
  exact List.append_ne_nil_of_left_ne_nil (written_ne_nil _ c) _

theorem flatMap_escapeChar_inj (h : cs.flatMap escapeChar = ds.flatMap escapeChar) : cs = ds := by
  induction cs generalizing ds with
  | nil =>
    cases ds with
    | nil => rfl
    | cons d ds => exact absurd h.symm (flatMap_escapeChar_cons_ne_nil d ds)
  | cons c cs ih =>
    cases ds with
    | nil => exact absurd h (flatMap_escapeChar_cons_ne_nil c cs)
    | cons d ds =>
      rw [List.flatMap_cons, List.flatMap_cons, written_isSpecial] at h
      obtain ⟨rfl, hrest⟩ := written_append_inj rfl rfl h
      rw [ih hrest]

/-! ## Texts as values -/

/-- The first character is written with more of them special than the others. -/
theorem escapeFirst_flatMap (c : Char) (cs : List Char) :
    escapeFirst ((c :: cs).flatMap escapeChar) =
      written isSpecialFirst c ++ cs.flatMap escapeChar := by
  rw [List.flatMap_cons]
  by_cases hfirst : c = '#' ∨ c = ' '
  · rcases hfirst with rfl | rfl <;> rfl
  · have hspecial : isSpecialFirst c = isSpecial c := by
      have hsign : (c == '#') = false := beq_eq_false_iff_ne.2 fun h => hfirst (.inl h)
      have hspace : (c == ' ') = false := beq_eq_false_iff_ne.2 fun h => hfirst (.inr h)
      simp [isSpecialFirst, hsign, hspace]
    have hw : written isSpecialFirst c = escapeChar c := by
      unfold written escapeChar
      rw [hspecial]
    rw [hw]
    rcases written_cases isSpecial c with ⟨-, hc⟩ | ⟨rfl, hc⟩ | ⟨-, hc⟩
    · rw [written_isSpecial, hc]
      rfl
    · rfl
    · rw [written_isSpecial, hc]
      simp [escapeFirst, hfirst]

theorem escapeFirst_flatMap_cons_ne_nil (c : Char) (cs : List Char) :
    escapeFirst ((c :: cs).flatMap escapeChar) ≠ [] := by
  rw [escapeFirst_flatMap]
  exact List.append_ne_nil_of_left_ne_nil (written_ne_nil _ c) _

theorem escapeFirst_flatMap_inj (h : escapeFirst (cs.flatMap escapeChar) =
    escapeFirst (ds.flatMap escapeChar)) : cs = ds := by
  cases cs with
  | nil =>
    cases ds with
    | nil => rfl
    | cons d ds => exact absurd h.symm (escapeFirst_flatMap_cons_ne_nil d ds)
  | cons c cs =>
    cases ds with
    | nil => exact absurd h (escapeFirst_flatMap_cons_ne_nil c cs)
    | cons d ds =>
      rw [escapeFirst_flatMap, escapeFirst_flatMap] at h
      obtain ⟨rfl, hrest⟩ := written_append_inj rfl rfl h
      rw [flatMap_escapeChar_inj hrest]

theorem getLast?_escapeLast (cs : List Char) : (escapeLast cs).getLast? = cs.getLast? := by
  unfold escapeLast
  split
  · rename_i h
    rw [h]
    simp
  · rfl

/-- Whether the last space got a backslash is seen at the end. -/
theorem escapeLast_inj (h : escapeLast cs = escapeLast ds) : cs = ds := by
  have hlast : cs.getLast? = ds.getLast? := by
    rw [← getLast?_escapeLast, h, getLast?_escapeLast]
  unfold escapeLast at h
  rw [hlast] at h
  by_cases hspace : ds.getLast? = some ' '
  · rw [if_pos hspace, if_pos hspace] at h
    have hinit : cs.dropLast = ds.dropLast := List.append_cancel_right h
    rw [← List.dropLast_append_getLast? ' ' (hlast.trans hspace), hinit,
      List.dropLast_append_getLast? ' ' hspace]
  · rwa [if_neg hspace, if_neg hspace] at h

/-- A text is told by the way it is written as a value. -/
theorem escapeText_inj (h : escapeText cs = escapeText ds) : cs = ds :=
  escapeFirst_flatMap_inj (escapeLast_inj h)

/-- No text is written with a bare sign `#` in front. -/
theorem head?_escapeText (cs : List Char) : (escapeText cs).head? ≠ some '#' := by
  have hlast : ∀ x, (escapeLast x).head? = some '#' → x.head? = some '#' := by
    intro x hx
    unfold escapeLast at hx
    split at hx
    · cases x with
      | nil => simp at hx
      | cons c x =>
        cases x with
        | nil => simp at hx
        | cons d x => simpa using hx
    · exact hx
  intro h
  have hfirst := hlast _ h
  cases cs with
  | nil => simp [escapeFirst] at hfirst
  | cons c cs =>
    rw [escapeFirst_flatMap] at hfirst
    rcases written_cases isSpecialFirst c with ⟨-, hw⟩ | ⟨rfl, hw⟩ | ⟨hc, hw⟩
    · rw [hw] at hfirst
      simp at hfirst
    · simp [hw] at hfirst
    · rw [hw] at hfirst
      simp only [List.cons_append, List.head?_cons, Option.some.injEq] at hfirst
      subst hfirst
      cases hc

theorem guarded_escapeLast (hsep : sep ≠ ' ') (h : Guarded sep cs) :
    Guarded sep (escapeLast cs) := by
  have hcons : ∀ c d cs, escapeLast (c :: d :: cs) = c :: escapeLast (d :: cs) := by
    intro c d cs
    unfold escapeLast
    rw [List.getLast?_cons_cons, List.dropLast_cons_cons]
    split <;> rfl
  induction h with
  | nil => exact .nil
  | @plain c cs hc hne h ih =>
    cases cs with
    | nil =>
      by_cases hspace : c = ' '
      · subst hspace
        exact .escaped .nil
      · simpa [escapeLast, hspace] using Guarded.plain hc hne .nil
    | cons d cs =>
      rw [hcons]
      exact .plain hc hne ih
  | @escaped c cs h ih =>
    cases cs with
    | nil =>
      by_cases hspace : c = ' '
      · -- The space has a backslash already, which is guarded by the new one.
        subst hspace
        exact .escaped (.plain (by decide) hsep.symm .nil)
      · simpa [escapeLast, hspace] using Guarded.escaped .nil
    | cons d cs =>
      rw [hcons, hcons]
      exact .escaped ih

/-- The separators of the notation are guarded in every text. -/
theorem guarded_escapeText (hsep : isSpecial sep = true) (cs : List Char) :
    Guarded sep (escapeText cs) := by
  have hbody : ∀ cs : List Char, Guarded sep (cs.flatMap escapeChar) := by
    intro cs
    induction cs with
    | nil => exact .nil
    | cons c cs ih => exact (guarded_written rfl rfl hsep c).append ih
  have hspace : sep ≠ ' ' := by
    rintro rfl
    cases hsep
  apply guarded_escapeLast hspace
  cases cs with
  | nil => exact .nil
  | cons c cs =>
    rw [escapeFirst_flatMap]
    refine (guarded_written rfl rfl ?_ c).append (hbody cs)
    simp [isSpecialFirst, hsep]

/-! ## Values -/

/-- A value with the empty bit string taken for the empty text. -/
def AttributeValue.normal : AttributeValue → AttributeValue
  | .bits [] => .text ""
  | v => v

theorem AttributeValue.normal_cases (v : AttributeValue) :
    (∃ s, v.normal = .text s ∧ valueText v = escapeText s.toList) ∨
    ∃ b bs, v.normal = .bits (b :: bs) ∧ valueText v = '#' :: Hex.encode (b :: bs) := by
  rcases v with s | (_ | ⟨b, bs⟩)
  · exact .inl ⟨s, rfl, rfl⟩
  · exact .inl ⟨"", rfl, rfl⟩
  · exact .inr ⟨b, bs, rfl, rfl⟩

/-- A value is told by the way it is written, the empty ones excepted. -/
theorem valueText_eq_iff {v w : AttributeValue} :
    valueText v = valueText w ↔ v.normal = w.normal := by
  have hdiffer : ∀ (s : String) (bs : Octets), escapeText s.toList ≠ '#' :: Hex.encode bs := by
    intro s bs h
    exact head?_escapeText s.toList (by rw [h]; rfl)
  rcases v.normal_cases with ⟨s, hs, hv⟩ | ⟨b, bs, hbs, hv⟩ <;>
    rcases w.normal_cases with ⟨t, ht, hw⟩ | ⟨d, ds, hds, hw⟩ <;> rw [hv, hw]
  · rw [hs, ht, AttributeValue.text.injEq]
    refine ⟨fun h => String.toList_inj.1 (escapeText_inj h), ?_⟩
    rintro rfl
    rfl
  · rw [hs, hds]
    exact iff_of_false (hdiffer s _) nofun
  · rw [hbs, ht]
    exact iff_of_false (hdiffer t _).symm nofun
  · rw [hbs, hds, AttributeValue.bits.injEq]
    constructor
    · intro h
      have hread := congrArg Hex.decode (List.cons.inj h).2
      rw [Hex.decode_encode, Hex.decode_encode] at hread
      exact Except.ok.inj hread
    · intro h
      rw [h]

theorem guarded_valueText (hsep : isSpecial sep = true) (v : AttributeValue) :
    Guarded sep (valueText v) := by
  rcases v.normal_cases with ⟨s, -, hv⟩ | ⟨b, bs, -, hv⟩ <;> rw [hv]
  · exact guarded_escapeText hsep _
  · have hdigits : ∀ c ∈ '#' :: Hex.lowerDigits, isSpecial c = false :=
      forall_mem_of_all (by decide +kernel)
    have hback : isSpecial '\\' = true := rfl
    refine .of_forall fun c hc => ?_
    have hplain : isSpecial c = false := by
      apply hdigits
      rcases List.mem_cons.1 hc with rfl | hc
      · simp
      · exact List.mem_cons_of_mem _ (Hex.mem_lowerDigits_of_mem_encode hc)
    constructor
    · rintro rfl
      rw [hback] at hplain
      cases hplain
    · rintro rfl
      rw [hsep] at hplain
      cases hplain

end Specimen.X509
