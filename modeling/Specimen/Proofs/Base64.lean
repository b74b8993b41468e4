import Specimen.Base64

/-!
# The two readers of base64 compared

A foreign octet is neither a digit nor the filler. The strict reader takes no text that has one;
the lenient reader passes over it.

* `decodeLenient_of_strict`: what the strict reader takes, the lenient one reads alike.
* `decodeLenient_filter`: foreign octets may be left out for the lenient reader.
* `length_le_of_decodeLenient`: no text carries more octets than it has.
-/

namespace Specimen.Base64

/-- An octet that carries nothing: no digit, and not the filler. -/
def isForeign (b : UInt8) : Bool :=
  b != pad && (value? b).isNone

theorem isForeign_iff {b : UInt8} : isForeign b = true ↔ b ≠ pad ∧ value? b = none := by
  simp [isForeign]

theorem isForeign_of_value? {b : UInt8} {n : Nat} (h : value? b = some n) :
    isForeign b = false := by
  simp [isForeign, h]

/-! ## Lengths -/

theorem length_pack_le (ns : List Nat) : (pack ns).length ≤ ns.length := by
  fun_induction pack ns <;> simp_all
  omega

theorem length_scan_le (count pads : Nat) (cs : Octets) :
    (scan count pads cs).1.length ≤ cs.length := by
  fun_induction scan count pads cs <;> simp_all <;> omega

/-- No text carries more octets than it has. -/
theorem length_le_of_decodeLenient {cs bs : Octets} (h : decodeLenient cs = .ok bs) :
    bs.length ≤ cs.length := by
  have hs := length_scan_le 0 0 cs
  have hp := length_pack_le (scan 0 0 cs).1
  unfold decodeLenient at h
  generalize scan 0 0 cs = r at h hs hp
  obtain ⟨ns, full⟩ := r
  have hb : bs = pack ns := by
    cases full with
    | true => simpa using h.symm
    | false =>
      simp only at h
      split at h
      · simpa using h.symm
      · split at h <;> simp at h
  rw [hb]
  exact Nat.le_trans hp hs

/-! ## Foreign octets -/

theorem scan_filter {p : UInt8 → Bool} (hp : ∀ b, p b = false → isForeign b = true)
    (count pads : Nat) (cs : Octets) : scan count pads (cs.filter p) = scan count pads cs := by
  induction cs generalizing count pads with
  | nil => rfl
  | cons b cs ih =>
    cases hb : p b with
    | true => simp only [List.filter_cons, hb, if_true, scan, ih]
    | false =>
      obtain ⟨hne, hv⟩ := isForeign_iff.1 (hp b hb)
      rw [scan_foreign hne hv, List.filter_cons, if_neg (by simp [hb]), ih]

/-- Foreign octets may be left out for the lenient reader. -/
theorem decodeLenient_filter {p : UInt8 → Bool} (hp : ∀ b, p b = false → isForeign b = true)
    (cs : Octets) : decodeLenient (cs.filter p) = decodeLenient cs := by
  rw [decodeLenient, decodeLenient, scan_filter hp]

/-! ## The strict reader -/

/-- What the last group carries, and what its octets are. -/
theorem lastGroup?_cases {a b c d : UInt8} {bs : Octets} (h : lastGroup? a b c d = some bs) :
    ∃ x y, value? a = some x ∧ value? b = some y ∧
      ((c = pad ∧ d = pad ∧ bs = pack [x, y]) ∨
        (∃ z, c ≠ pad ∧ value? c = some z ∧ d = pad ∧ bs = pack [x, y, z]) ∨
        ∃ z w, c ≠ pad ∧ value? c = some z ∧ d ≠ pad ∧ value? d = some w ∧
          bs = pack [x, y, z, w]) := by
  unfold lastGroup? at h
  split at h
  · rename_i x y hx hy
    refine ⟨x, y, hx, hy, ?_⟩
    split at h
    · rename_i hc
      split at h
      · rename_i hd
        simp only [Option.some.injEq] at h
        exact .inl ⟨hc, hd.1, h.symm⟩
      · simp at h
    · rename_i hc
      split at h
      · simp at h
      · rename_i z hz
        split at h
        · rename_i hd
          split at h
          · simp only [Option.some.injEq] at h
            exact .inr (.inl ⟨z, hc, hz, hd, h.symm⟩)
          · simp at h
        · rename_i hd
          obtain ⟨w, hw, rfl⟩ := Option.map_eq_some_iff.1 h
          exact .inr (.inr ⟨z, w, hc, hz, hd, hw, rfl⟩)
  · simp at h

/-- The strict reader takes no text with a foreign octet. -/
theorem not_isForeign_of_decodeStrict? {cs bs : Octets} (h : decodeStrict? cs = some bs) :
    ∀ b ∈ cs, isForeign b = false := by
  fun_induction decodeStrict? cs generalizing bs with
  | case1 => simp
  | case2 a b c d =>
    obtain ⟨x, y, hx, hy, hcd⟩ := lastGroup?_cases h
    have hp : isForeign pad = false := by decide
    rcases hcd with ⟨rfl, rfl, -⟩ | ⟨z, -, hz, rfl, -⟩ | ⟨z, w, -, hz, -, hw, -⟩ <;>
      simp_all [isForeign_of_value?]
  | case3 a b c d e es x y z w hd hc hb ha ih =>
    obtain ⟨rest, hr, -⟩ := Option.map_eq_some_iff.1 h
    have hes := ih hr
    simp only [List.mem_cons, forall_eq_or_imp] at hes ⊢
    exact ⟨isForeign_of_value? ha, isForeign_of_value? hb, isForeign_of_value? hc,
      isForeign_of_value? hd, hes⟩
  | case4 => simp at h
  | case5 => simp at h

theorem pad_ne_of_value? {b : UInt8} {n : Nat} (h : value? b = some n) : b ≠ pad := by
  rintro rfl
  simp [value?, pad] at h

/-- A digit is counted and kept. -/
theorem scan_digit {b : UInt8} {n : Nat} (h : value? b = some n) (count pads : Nat)
    (bs : Octets) :
    scan count pads (b :: bs) =
      (n :: (scan (count + 1) 0 bs).1, (scan (count + 1) 0 bs).2) := by
  simp [scan, pad_ne_of_value? h, h]

/-- Two or three digits may be followed by padding, which ends the text when it is complete. -/
theorem scan_pad {count : Nat} (h : 2 ≤ count % 4) (pads : Nat) (bs : Octets) :
    scan count pads (pad :: bs) =
      if 4 ≤ count % 4 + (pads + 1) then ([], true) else scan count (pads + 1) bs := by
  rw [scan, if_pos rfl, if_pos h]

/-- At a group boundary the lenient reader reads a strict text to its end: to a complete padding,
or to the end of a group. -/
private theorem scan_of_strict {cs bs : Octets} (h : decodeStrict? cs = some bs) (count pads : Nat)
    (hc : count % 4 = 0) :
    pack (scan count pads cs).1 = bs ∧
      ((scan count pads cs).2 = false → (scan count pads cs).1.length % 4 = 0) := by
  fun_induction decodeStrict? cs generalizing bs count pads with
  | case1 =>
    simp only [Option.some.injEq] at h
    simp [scan, pack, ← h]
  | case2 a b c d =>
    obtain ⟨x, y, hx, hy, hcd⟩ := lastGroup?_cases h
    rw [scan_digit hx, scan_digit hy]
    rcases hcd with ⟨rfl, rfl, rfl⟩ | ⟨z, -, hz, rfl, rfl⟩ | ⟨z, w, -, hz, -, hw, rfl⟩
    · rw [scan_pad (by omega), if_neg (by omega), scan_pad (by omega), if_pos (by omega)]
      simp
    · rw [scan_digit hz, scan_pad (by omega), if_pos (by omega)]
      simp
    · rw [scan_digit hz, scan_digit hw]
      simp [scan]
  | case3 a b c d e es x y z w hd hz hb ha ih =>
    obtain ⟨rest, hr, rfl⟩ := Option.map_eq_some_iff.1 h
    obtain ⟨hp, hl⟩ := ih hr (count + 1 + 1 + 1 + 1) 0 (by omega)
    rw [scan_digit ha, scan_digit hb, scan_digit hz, scan_digit hd]
    refine ⟨?_, fun hf => ?_⟩
    · simp only [pack, hp, List.cons_append, List.nil_append]
    · have := hl hf
      simp only [List.length_cons]
      omega
  | case4 => simp at h
  | case5 => simp at h

/-- What the strict reader takes, the lenient one reads alike. -/
theorem decodeLenient_of_strict {cs bs : Octets} (h : decodeStrict? cs = some bs) :
    decodeLenient cs = .ok bs := by
  obtain ⟨hp, hl⟩ := scan_of_strict h 0 0 rfl
  unfold decodeLenient
  generalize scan 0 0 cs = r at hp hl
  obtain ⟨ns, full⟩ := r
  cases full with
  | true => simp [← hp]
  | false => simp [← hp, hl rfl]

/-! ## Writing -/

/-- What is written has no foreign octet. -/
theorem not_isForeign_of_mem_encode {bs : Octets} {b : UInt8} (h : b ∈ encode bs) :
    isForeign b = false :=
  not_isForeign_of_decodeStrict? (decodeStrict?_encode bs) b h

end Specimen.Base64
