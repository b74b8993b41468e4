import Specimen.Pem.Line

/-!
# The lines of a text

Cutting a text into lines drops the terminators and the empty lines, and nothing else.

* `flatten_lines`: the lines run together are the text without its terminators.
* `lines_append`: where a line ends, a text may be cut in two and each part read alone.
* `lines_unbroken_append`: a text that starts without a terminator starts with a line that goes on
  to the first one.
* `infix_of_mem_lines`: a line is an unbroken piece of the text.
-/

namespace Specimen.Pem

/-- The text ends where a line ends: it is empty, or a terminator is its last octet. -/
def EndsLine (bs : Octets) : Prop :=
  ∀ b, bs.getLast? = some b → isTerminator b = true

instance (bs : Octets) : Decidable (EndsLine bs) :=
  decidable_of_iff (bs.getLast?.all isTerminator = true) (by
    unfold EndsLine
    cases bs.getLast? <;> simp)

theorem EndsLine.eq_concat {bs : Octets} (h : EndsLine bs) :
    bs = [] ∨ ∃ cs t, bs = cs ++ [t] ∧ isTerminator t = true := by
  rcases List.eq_nil_or_concat bs with hb | ⟨cs, t, rfl⟩
  · exact .inl hb
  · exact .inr ⟨cs, t, List.concat_eq_append, h t (by simp)⟩

/-- What ends with the end of a line ends there with any text in front. -/
theorem EndsLine.append {ys : Octets} (h : EndsLine ys) (hne : ys ≠ []) (xs : Octets) :
    EndsLine (xs ++ ys) := by
  intro b hb
  rw [List.getLast?_append, List.getLast?_eq_some_getLast hne, Option.some_or,
    ← List.getLast?_eq_some_getLast hne] at hb
  exact h b hb

theorem EndsLine.of_append {xs ys : Octets} (h : EndsLine (xs ++ ys)) : EndsLine ys := by
  intro b hb
  exact h b (by rw [List.getLast?_append, hb, Option.some_or])

/-- The line collected so far only comes in front of what is read next. -/
theorem finishLine_eq (line : Octets) (rest : List Octets) :
    finishLine line rest = finishLine line [] ++ rest := by
  unfold finishLine
  split <;> simp

theorem linesFrom_append_terminator {t : UInt8} (h : isTerminator t = true) (line xs ys : Octets) :
    linesFrom line (xs ++ t :: ys) = linesFrom line xs ++ linesFrom [] ys := by
  induction xs generalizing line with
  | nil => rw [List.nil_append, linesFrom_terminator h, finishLine_eq, linesFrom]
  | cons x xs ih =>
    rw [List.cons_append, linesFrom, linesFrom]
    split
    · rw [ih, finishLine_eq line (linesFrom [] xs ++ _), finishLine_eq line (linesFrom [] xs)]
      simp
    · exact ih (x :: line)

/-- A terminator ends a line, whatever comes before and after it. -/
theorem lines_append_terminator {t : UInt8} (h : isTerminator t = true) (xs ys : Octets) :
    lines (xs ++ t :: ys) = lines xs ++ lines ys :=
  linesFrom_append_terminator h [] xs ys

@[simp]
theorem lines_nil : lines [] = [] := rfl

/-- Where a line ends, a text may be cut in two. -/
theorem lines_append {xs : Octets} (h : EndsLine xs) (ys : Octets) :
    lines (xs ++ ys) = lines xs ++ lines ys := by
  rcases h.eq_concat with rfl | ⟨cs, t, rfl, ht⟩
  · simp
  · rw [List.append_assoc, List.singleton_append, lines_append_terminator ht,
      lines_append_terminator ht, lines_nil, List.append_nil]

theorem linesFrom_unbroken {xs : Octets} (h : ∀ b ∈ xs, isTerminator b = false)
    (line ys : Octets) : linesFrom line (xs ++ ys) = linesFrom (xs.reverse ++ line) ys := by
  induction xs generalizing line with
  | nil => rfl
  | cons x xs ih =>
    simp only [List.mem_cons, forall_eq_or_imp] at h
    rw [List.cons_append, linesFrom, if_neg (by simp [h.1]), ih h.2]
    simp

/-- A text that starts without a terminator starts with a line. -/
theorem lines_unbroken_append {xs : Octets} (hne : xs ≠ []) (h : ∀ b ∈ xs, isTerminator b = false)
    (ys : Octets) :
    lines (xs ++ ys) = (xs ++ ys.takeWhile fun b => !isTerminator b) ::
      lines (ys.dropWhile fun b => !isTerminator b) := by
  have hfirst : ∀ b ∈ xs ++ ys.takeWhile (fun b => !isTerminator b), isTerminator b = false := by
    intro b hb
    rcases List.mem_append.1 hb with hb | hb
    · exact h b hb
    · simpa using List.all_eq_true.1 List.all_takeWhile b hb
  have hcut : xs ++ ys = xs ++ ys.takeWhile (fun b => !isTerminator b) ++
      ys.dropWhile fun b => !isTerminator b := by
    rw [List.append_assoc, List.takeWhile_append_dropWhile]
  have hline : xs ++ ys.takeWhile (fun b => !isTerminator b) ≠ [] := by simp [hne]
  generalize xs ++ ys.takeWhile (fun b => !isTerminator b) = line at hfirst hcut hline ⊢
  rw [hcut, lines, linesFrom_unbroken hfirst]
  -- The rest is empty or starts with a terminator; either ends the line.
  cases hd : ys.dropWhile fun b => !isTerminator b with
  | nil => simp [linesFrom, finishLine, hline]
  | cons t ts =>
    have ht : isTerminator t = true := by
      have := List.head?_dropWhile_not (fun b => !isTerminator b) ys
      simpa [hd] using this
    rw [linesFrom_terminator ht, lines_terminator ht, finishLine_eq]
    simp [finishLine, hline, lines]

/-- A line, its terminator and the lines after it. -/
theorem lines_line {line : Octets} (hne : line ≠ []) (h : ∀ b ∈ line, isTerminator b = false)
    {t : UInt8} (ht : isTerminator t = true) (rest : Octets) :
    lines (line ++ t :: rest) = line :: lines rest := by
  rw [lines_unbroken_append hne h]
  simp [ht, lines_terminator ht]

/-! ## What the lines hold -/

private theorem flatten_linesFrom (line bs : Octets) :
    (linesFrom line bs).flatten = line.reverse ++ bs.filter fun b => !isTerminator b := by
  have hfinish : ∀ l : Octets, (finishLine l []).flatten = l.reverse := by
    intro l
    cases l <;> simp [finishLine]
  induction bs generalizing line with
  | nil => simp [linesFrom, hfinish]
  | cons b bs ih =>
    rw [linesFrom]
    split
    · rename_i hb
      rw [finishLine_eq, List.flatten_append, hfinish, ih]
      simp [hb]
    · rename_i hb
      rw [ih]
      simp [hb]

/-- The lines run together are the text without its terminators. -/
theorem flatten_lines (bs : Octets) :
    (lines bs).flatten = bs.filter fun b => !isTerminator b := by
  rw [lines, flatten_linesFrom]
  rfl

private theorem mem_finishLine {line l : Octets} (h : l ∈ finishLine line []) :
    l ≠ [] ∧ l = line.reverse := by
  cases line with
  | nil => simp [finishLine] at h
  | cons b line =>
    simp only [finishLine, List.isEmpty_cons, Bool.false_eq_true, if_false,
      List.mem_singleton] at h
    exact ⟨by simp [h], h⟩

private theorem mem_linesFrom {line bs l : Octets} (h : l ∈ linesFrom line bs) :
    l ≠ [] ∧ l <:+: line.reverse ++ bs := by
  induction bs generalizing line with
  | nil =>
    obtain ⟨hne, rfl⟩ := mem_finishLine h
    exact ⟨hne, by simp⟩
  | cons b bs ih =>
    rw [linesFrom] at h
    split at h
    · rw [finishLine_eq] at h
      rcases List.mem_append.1 h with h | h
      · obtain ⟨hne, rfl⟩ := mem_finishLine h
        exact ⟨hne, List.infix_append' [] _ _⟩
      · obtain ⟨hne, hi⟩ := ih h
        exact ⟨hne, hi.trans ⟨line.reverse ++ [b], [], by simp⟩⟩
    · simpa using ih h

theorem ne_nil_of_mem_lines {bs l : Octets} (h : l ∈ lines bs) : l ≠ [] :=
  (mem_linesFrom h).1

/-- A line is an unbroken piece of the text. -/
theorem infix_of_mem_lines {bs l : Octets} (h : l ∈ lines bs) : l <:+: bs :=
  (mem_linesFrom h).2

/-- An octet of a line is an octet of the text, and no terminator. -/
theorem mem_of_mem_lines {bs l : Octets} {b : UInt8} (h : l ∈ lines bs) (hb : b ∈ l) :
    b ∈ bs ∧ isTerminator b = false := by
  have : b ∈ (lines bs).flatten := List.mem_flatten.2 ⟨l, h, hb⟩
  rw [flatten_lines, List.mem_filter] at this
  simpa using this

end Specimen.Pem
