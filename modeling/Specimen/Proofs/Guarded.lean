import Mathlib.Data.List.Basic

/-!
# Separators and backslashes

A text is cut at a separator unless a backslash stands in front of it. Pieces in which the
separator is guarded in this way can be told apart again after they have been put together.

* `Guarded.append_inj`: the first separator that is not guarded ends the first piece.
* `intercalate_inj`, `intercalate_inj_of_ne_nil`: the pieces between separators are unique.
-/

namespace Specimen

/-- The separator stands in the text only behind backslashes. A backslash takes the character after
it along, whichever it is, so the text does not end with one that guards nothing. -/
inductive Guarded (sep : Char) : List Char → Prop where
  | nil : Guarded sep []
  | plain {c : Char} {cs : List Char} : c ≠ '\\' → c ≠ sep → Guarded sep cs → Guarded sep (c :: cs)
  | escaped {c : Char} {cs : List Char} : Guarded sep cs → Guarded sep ('\\' :: c :: cs)

variable {sep : Char} {a b t u cs : List Char} {as bs : List (List Char)}

namespace Guarded

theorem append (ha : Guarded sep a) (hb : Guarded sep b) : Guarded sep (a ++ b) := by
  induction ha with
  | nil => exact hb
  | plain hc hsep _ ih => exact .plain hc hsep ih
  | escaped _ ih => exact .escaped ih

theorem of_forall (h : ∀ c ∈ cs, c ≠ '\\' ∧ c ≠ sep) : Guarded sep cs := by
  induction cs with
  | nil => exact .nil
  | cons c cs ih =>
    obtain ⟨hc, hsep⟩ := h c (by simp)
    exact .plain hc hsep (ih fun d hd => h d (by simp [hd]))

/-- A guarded text ends where the first separator follows, or nothing. -/
theorem append_inj (hsep : sep ≠ '\\') (ha : Guarded sep a) (hb : Guarded sep b)
    (ht : ∀ c ∈ t.head?, c = sep) (hu : ∀ c ∈ u.head?, c = sep) (h : a ++ t = b ++ u) :
    a = b ∧ t = u := by
  induction ha generalizing b with
  | nil =>
    cases hb with
    | nil => exact ⟨rfl, h⟩
    | plain _ hne _ => exact absurd (ht _ (by simp [show t = _ from h])) hne
    | escaped _ => exact absurd (ht _ (by simp [show t = _ from h])).symm hsep
  | plain hc hne _ ih =>
    cases hb with
    | nil => exact absurd (hu _ (by simp [← show _ = u from h])) hne
    | plain _ _ hb =>
      obtain ⟨rfl, hrest⟩ := List.cons.inj h
      obtain ⟨rfl, rfl⟩ := ih hb hrest
      exact ⟨rfl, rfl⟩
    | escaped _ => exact absurd (List.cons.inj h).1 hc
  | escaped _ ih =>
    cases hb with
    | nil => exact absurd (hu _ (by simp [← show _ = u from h])).symm hsep
    | plain hc _ _ => exact absurd (List.cons.inj h).1.symm hc
    | escaped hb =>
      obtain ⟨rfl, hrest⟩ := List.cons.inj (List.cons.inj h).2
      obtain ⟨rfl, rfl⟩ := ih hb hrest
      exact ⟨rfl, rfl⟩

end Guarded

/-! ## Pieces put together -/

/-- Every piece but the first has a separator in front of it. -/
theorem intercalate_cons_eq (sep : Char) (a : List Char) (as : List (List Char)) :
    [sep].intercalate (a :: as) = a ++ as.flatMap (sep :: ·) := by
  induction as generalizing a with
  | nil => simp
  | cons b as ih =>
    rw [List.intercalate_cons_cons, ih b]
    simp

theorem mem_intercalate {c : Char} (h : c ∈ [sep].intercalate as) : c = sep ∨ ∃ a ∈ as, c ∈ a := by
  cases as with
  | nil => simp at h
  | cons a as =>
    rw [intercalate_cons_eq] at h
    rcases List.mem_append.1 h with h | h
    · exact .inr ⟨a, by simp, h⟩
    · obtain ⟨b, hb, hc⟩ := List.mem_flatMap.1 h
      rcases List.mem_cons.1 hc with rfl | hc
      · exact .inl rfl
      · exact .inr ⟨b, by simp [hb], hc⟩

/-- Another separator may be put between guarded texts. -/
theorem Guarded.intercalate {other : Char} (hother : other ≠ '\\') (hne : other ≠ sep)
    (h : ∀ a ∈ as, Guarded sep a) : Guarded sep ([other].intercalate as) := by
  induction as with
  | nil => exact .nil
  | cons a as ih =>
    have ha := h a (by simp)
    have has := ih fun b hb => h b (by simp [hb])
    cases as with
    | nil => simpa using ha
    | cons b as =>
      rw [List.intercalate_cons_cons, List.append_assoc]
      exact ha.append (.plain hother hne has)

theorem pieces_inj (hsep : sep ≠ '\\') (has : ∀ x ∈ a :: as, Guarded sep x)
    (hbs : ∀ x ∈ b :: bs, Guarded sep x)
    (h : a ++ as.flatMap (sep :: ·) = b ++ bs.flatMap (sep :: ·)) : a :: as = b :: bs := by
  have hhead : ∀ l : List (List Char), ∀ c ∈ (l.flatMap (sep :: ·)).head?, c = sep := by
    intro l c hc
    cases l with
    | nil => simp at hc
    | cons x l => simpa using hc.symm
  induction as generalizing a b bs with
  | nil =>
    obtain ⟨rfl, hrest⟩ := Guarded.append_inj hsep (has a (by simp)) (hbs b (by simp)) (hhead _)
      (hhead _) h
    cases bs with
    | nil => rfl
    | cons y bs => simp at hrest
  | cons x as ih =>
    obtain ⟨rfl, hrest⟩ := Guarded.append_inj hsep (has a (by simp)) (hbs b (by simp)) (hhead _)
      (hhead _) h
    cases bs with
    | nil => simp at hrest
    | cons y bs =>
      have hxy : x ++ as.flatMap (sep :: ·) = y ++ bs.flatMap (sep :: ·) := by simpa using hrest
      rw [ih (fun z hz => has z (List.mem_cons_of_mem _ hz))
        (fun z hz => hbs z (List.mem_cons_of_mem _ hz)) hxy]

/-- Guarded pieces can be told apart after they have been put together, if there are some. -/
theorem intercalate_inj (hsep : sep ≠ '\\') (has : ∀ a ∈ as, Guarded sep a)
    (hbs : ∀ b ∈ bs, Guarded sep b) (hane : as ≠ []) (hbne : bs ≠ [])
    (h : [sep].intercalate as = [sep].intercalate bs) : as = bs := by
  obtain ⟨a, as, rfl⟩ := List.exists_cons_of_ne_nil hane
  obtain ⟨b, bs, rfl⟩ := List.exists_cons_of_ne_nil hbne
  rw [intercalate_cons_eq, intercalate_cons_eq] at h
  exact pieces_inj hsep has hbs h

/-- Pieces that are not empty can be told apart even from no piece at all. -/
theorem intercalate_inj_of_ne_nil (hsep : sep ≠ '\\') (has : ∀ a ∈ as, Guarded sep a ∧ a ≠ [])
    (hbs : ∀ b ∈ bs, Guarded sep b ∧ b ≠ [])
    (h : [sep].intercalate as = [sep].intercalate bs) : as = bs := by
  have hnil : ∀ l : List (List Char), (∀ a ∈ l, Guarded sep a ∧ a ≠ []) →
      [sep].intercalate l = [] → l = [] := by
    intro l hl hempty
    cases l with
    | nil => rfl
    | cons a l =>
      rw [intercalate_cons_eq] at hempty
      exact absurd (List.append_eq_nil_iff.1 hempty).1 (hl a (by simp)).2
  by_cases hane : as = []
  · subst hane
    rw [List.intercalate_nil] at h
    exact (hnil bs hbs h.symm).symm
  · by_cases hbne : bs = []
    · subst hbne
      rw [List.intercalate_nil] at h
      exact hnil as has h
    · exact intercalate_inj hsep (fun a ha => (has a ha).1) (fun b hb => (hbs b hb).1) hane hbne h

end Specimen
