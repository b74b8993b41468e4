import Specimen.Pem.AllBlocks

/-!
# Marks in a text

Two searches look for a mark in a text. `Octets.occurs` asks whether the mark stands anywhere;
`Pem.seek?` passes over the text once, counting how much of the mark the last octets matched.

* `Octets.occurs_iff`: the first search finds exactly the infixes.
* `Pem.seek?_eq_some`: what the second search gives is cut from the text at a mark.
* `Pem.seek?_append`: the second search finds a mark that no other one precedes, provided that the
  octet in front of it is none of the mark's: the count then starts afresh.
* `Pem.seek?_eq_none`: it finds nothing in a text without the mark.
-/

namespace Specimen

theorem Octets.occurs_iff {needle bs : Octets} : occurs needle bs = true ↔ needle <:+: bs := by
  induction bs with
  | nil => simp [occurs]
  | cons b bs ih => simp [occurs, List.infix_cons_iff, ih]

namespace Pem

/-- One of the two opening marks stands somewhere in the data. -/
def HasMark (data : Octets) : Prop :=
  fiveDashes ++ beginWord <:+: data ∨ spacedDashes ++ beginWord <:+: data

theorem HasMark.of_infix {data other : Octets} (h : HasMark data) (hin : data <:+: other) :
    HasMark other :=
  h.imp (·.trans hin) (·.trans hin)

/-- Data is taken for armour exactly if it has an opening mark. -/
theorem isArmoured_iff {data : Octets} : isArmoured data = true ↔ HasMark data := by
  rw [isArmoured, Bool.or_eq_true, Octets.occurs_iff, Octets.occurs_iff, HasMark]

instance (data : Octets) : Decidable (HasMark data) :=
  decidable_of_iff _ isArmoured_iff

/-! ## A search that has matched part of the mark -/

/-- One octet: it continues the match, completes it, or starts it afresh at the octet after. -/
theorem seekFrom_cons {mark ts seen bs : Octets} {t b : UInt8} :
    seekFrom mark (t :: ts) seen (b :: bs) =
      if b = t then
        if ts = [] then some (b :: seen, bs) else seekFrom mark ts (b :: seen) bs
      else seekFrom mark mark (b :: seen) bs := by
  cases ts with
  | nil => simp [seekFrom]
  | cons t' ts => simp [seekFrom]

/-- What a search has seen when it ends with the mark, if what it has seen before ends with the
part matched. -/
private theorem seekFrom_mark (done : Octets) {mark todo seen text : Octets} {p : Octets × Octets}
    (hm : mark = done ++ todo) (hs : done.reverse <+: seen)
    (h : seekFrom mark todo seen text = some p) : mark.reverse <+: p.1 := by
  induction text generalizing done todo seen with
  | nil => simp [seekFrom] at h
  | cons b bs ih =>
    cases todo with
    | nil => simp [seekFrom] at h
    | cons t ts =>
      rw [seekFrom_cons] at h
      split at h
      · rename_i hbt
        have hnext : (done ++ [t]).reverse <+: b :: seen := by
          simp [hbt, List.cons_prefix_cons, hs]
        split at h
        · rename_i hts
          subst hts
          simp only [Option.some.injEq] at h
          rw [← h, hm]
          exact hnext
        · exact ih (done ++ [t]) (by simp [hm]) hnext h
      · exact ih [] rfl (by simp) h

/-- A search passes over a text in which the mark is not completed, and keeps what it has matched
at the end of it. -/
private theorem seekFrom_pass {mark todo : Octets} (done seen before rest : Octets)
    (hm : mark = done ++ todo) (ht : todo ≠ []) (hn : ¬ mark <:+: done ++ before) :
    ∃ done' todo', mark = done' ++ todo' ∧ todo' ≠ [] ∧ done' <:+ done ++ before ∧
      seekFrom mark todo seen (before ++ rest) =
        seekFrom mark todo' (before.reverse ++ seen) rest := by
  induction before generalizing done todo seen with
  | nil => exact ⟨done, todo, hm, ht, by simp, by simp⟩
  | cons b bs ih =>
    obtain ⟨t, ts, rfl⟩ := List.exists_cons_of_ne_nil ht
    rw [List.cons_append, seekFrom_cons]
    by_cases hbt : b = t
    · subst hbt
      by_cases hts : ts = []
      · subst hts
        exact absurd ⟨[], bs, by simp [hm]⟩ hn
      · obtain ⟨done', todo', h1, h2, h3, h4⟩ :=
          ih (done ++ [b]) (b :: seen) (by simp [hm]) hts (by simpa using hn)
        refine ⟨done', todo', h1, h2, by simpa using h3, ?_⟩
        rw [if_pos rfl, if_neg hts, h4]
        simp
    · -- The match is given up, and the octet that broke it is not looked at again.
      have hn' : ¬ mark <:+: [] ++ bs := fun h =>
        hn (h.trans ⟨done ++ [b], [], by simp⟩)
      have hne : mark ≠ [] := by simp [hm]
      obtain ⟨done', todo', h1, h2, h3, h4⟩ := ih [] (b :: seen) rfl hne hn'
      refine ⟨done', todo', h1, h2, h3.trans ⟨done ++ [b], by simp⟩, ?_⟩
      rw [if_neg hbt, h4]
      simp

/-- A search finds the rest of the mark if that comes next. -/
private theorem seekFrom_todo {mark todo : Octets} (seen after : Octets) (ht : todo ≠ []) :
    seekFrom mark todo seen (todo ++ after) = some (todo.reverse ++ seen, after) := by
  induction todo generalizing seen with
  | nil => exact absurd rfl ht
  | cons t ts ih =>
    rw [List.cons_append, seekFrom_cons, if_pos rfl]
    split
    · rename_i hts
      simp [hts]
    · rename_i hts
      rw [ih (t :: seen) hts]
      simp

/-! ## The search from the start -/

variable {mark text before after : Octets}

/-- What a search gives is cut from the text at a mark. -/
theorem seek?_eq_some (h : seek? mark text = some (before, after)) :
    text = before ++ mark ++ after := by
  unfold seek? at h
  obtain ⟨⟨seen, rest⟩, hs, he⟩ := Option.map_eq_some_iff.1 h
  obtain ⟨older, hseen⟩ := seekFrom_mark [] rfl (by simp) hs
  simp only [Prod.mk.injEq] at he
  obtain ⟨rfl, rfl⟩ := he
  have ha := seek_after hs
  simp only at hseen
  rw [← ha, ← hseen]
  simp

/-- A search finds nothing in a text without the mark. -/
theorem seek?_eq_none (h : ¬ mark <:+: text) : seek? mark text = none := by
  cases hs : seek? mark text with
  | none => rfl
  | some p => exact absurd ⟨p.1, p.2, (seek?_eq_some hs).symm⟩ h

/-- A search finds a mark that no other precedes and in front of which the count starts afresh. -/
theorem seek?_append (after : Octets) (hm : mark ≠ []) (hn : ¬ mark <:+: before)
    (hl : ∀ b, before.getLast? = some b → b ∉ mark) :
    seek? mark (before ++ mark ++ after) = some (before, after) := by
  obtain ⟨done, todo, hdt, -, hd, he⟩ :=
    seekFrom_pass [] [] before (mark ++ after) (List.nil_append mark).symm hm (by simpa using hn)
  rw [List.nil_append] at hd
  -- Nothing is matched at the end of `before`, since its last octet is foreign to the mark.
  have hdone : done = [] := by
    rcases List.eq_nil_or_concat done with h | ⟨ds, b, rfl⟩
    · exact h
    · obtain ⟨older, ho⟩ := hd
      have hb : before.getLast? = some b := by simp [← ho]
      exact absurd (by simp [hdt]) (hl b hb)
  have htodo : todo = mark := by simp [hdt, hdone]
  rw [seek?, List.append_assoc, he, htodo, seekFrom_todo _ _ hm]
  simp

end Pem

end Specimen
