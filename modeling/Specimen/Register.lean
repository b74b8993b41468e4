/-!
# Registers

A register keeps one value under each name, the names in the order in which they were first used.

* `lookup_filter_fst` — what is found when some keys are taken away.
* `lookup_put` — what was put last is found.
* `lookup_put_ne` — other names are not touched.
-/

namespace Specimen

/-- What is found when only the entries with some of the keys are kept. -/
theorem lookup_filter_fst [BEq α] [LawfulBEq α] (keep : α → Bool) (es : List (α × β)) (a : α) :
    (es.filter fun p => keep p.1).lookup a = if keep a then es.lookup a else none := by
  induction es with
  | nil => simp
  | cons p es ih =>
    obtain ⟨b, v⟩ := p
    rw [List.filter_cons, List.lookup_cons]
    by_cases ha : a = b
    · subst ha
      cases hk : keep a with
      | true => simp
      | false => simp [ih, hk]
    · have hne : (a == b) = false := by simp [ha]
      cases hk : keep b with
      | true => simp [List.lookup_cons, hne, ih]
      | false => simp [hne, ih]

/-- Values under names. -/
abbrev Register (α : Type) := List (String × α)

namespace Register

/-- Puts a value under a name; a name that is there keeps its place. -/
def put (name : String) (value : α) : Register α → Register α
  | [] => [(name, value)]
  | p :: ps => if p.1 = name then (name, value) :: ps else p :: put name value ps

/-- Takes a name away. -/
def drop (name : String) (r : Register α) : Register α :=
  r.filter fun p => p.1 != name

theorem lookup_put (name : String) (value : α) (r : Register α) :
    (put name value r).lookup name = some value := by
  induction r with
  | nil => simp [put]
  | cons p ps ih =>
    by_cases h : p.1 = name
    · simp [put, h]
    · have h' : (name == p.1) = false := by simpa using fun e => h e.symm
      rw [put, if_neg h, List.lookup_cons, h', ih]

theorem lookup_put_ne {name other : String} (hne : other ≠ name) (value : α) (r : Register α) :
    (put name value r).lookup other = r.lookup other := by
  have hb : (other == name) = false := by simpa using hne
  induction r with
  | nil => simp [put, List.lookup_cons, hb]
  | cons p ps ih =>
    by_cases h : p.1 = name
    · rw [put, if_pos h, List.lookup_cons, List.lookup_cons, hb, h, hb]
    · rw [put, if_neg h, List.lookup_cons, List.lookup_cons, ih]

end Register

end Specimen
