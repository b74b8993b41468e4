import Mathlib.Data.List.Basic
import Mathlib.Data.List.Induction
import Specimen.Proofs.HexInverse

/-!
# Numbers in hex

There is one text that writes a number in hex: a minus sign if the number is negative, then `0x`,
then digits in lower case, the first of which is a zero only if no other follows.

* `writesNat_iff`: the digits of a natural number.
* `writes_iff`: the text of a number is the one that `ofInt` gives.
* `ofInt_inj`: a number is told by its text.
-/

namespace Specimen.Hex

variable {cs ds : List Char} {c : Char} {n : Nat}

/-- The number that digits write in base 16. -/
def digitsValue (ds : List Char) : Nat :=
  ds.foldl (fun n c => 16 * n + (digitValue? c).getD 0) 0

theorem digitsValue_append_singleton (ds : List Char) (c : Char) :
    digitsValue (ds ++ [c]) = 16 * digitsValue ds + (digitValue? c).getD 0 := by
  simp [digitsValue]

/-- Digits in lower case that write a natural number, without zeros in front. -/
structure WritesNat (ds : List Char) (n : Nat) : Prop where
  ne_nil : ds ≠ []
  lower : ∀ c ∈ ds, c ∈ lowerDigits
  value : digitsValue ds = n
  zero_alone : ds.head? = some '0' → ds = ['0']

/-- A text that writes a number: the sign of a negative one, `0x`, and digits. -/
def Writes (text : String) (v : Int) : Prop :=
  ∃ ds, text.toList = (if v < 0 then ['-'] else []) ++ '0' :: 'x' :: ds ∧ WritesNat ds v.natAbs

/-! ## Digits -/

theorem digitValue?_digitChar (h : n < 16) : digitValue? n.digitChar = some n := by
  have key : ∀ m : Fin 16, digitValue? (Nat.digitChar m) = some m.val := by decide
  exact key ⟨n, h⟩

theorem digitChar_mem_lowerDigits (h : n < 16) : n.digitChar ∈ lowerDigits := by
  have key : ∀ m : Fin 16, Nat.digitChar m ∈ lowerDigits := by decide
  exact key ⟨n, h⟩

/-- A digit in lower case is the one that its value is written with. -/
theorem exists_of_mem_lowerDigits (h : c ∈ lowerDigits) : ∃ n < 16, c = n.digitChar := by
  obtain ⟨m, hm⟩ :=
    forall_mem_of_all (P := fun c => ∃ m : Fin 16, c = Nat.digitChar m) (by decide +kernel) c h
  exact ⟨m.val, m.isLt, hm⟩

theorem writesNat_singleton (h : n < 16) : WritesNat [n.digitChar] n where
  ne_nil := List.cons_ne_nil _ _
  lower := by
    intro c hc
    rw [List.mem_singleton.1 hc]
    exact digitChar_mem_lowerDigits h
  value := by
    rw [← List.nil_append [n.digitChar], digitsValue_append_singleton, digitValue?_digitChar h]
    simp [digitsValue]
  zero_alone := by
    intro hzero
    rw [Option.some.inj hzero]

/-- Another digit is put behind those of a number above zero. -/
theorem WritesNat.append {d : Nat} (h : WritesNat ds n) (hn : 0 < n) (hd : d < 16) :
    WritesNat (ds ++ [d.digitChar]) (16 * n + d) where
  ne_nil := List.append_ne_nil_of_left_ne_nil h.ne_nil _
  lower := by
    intro c hc
    rcases List.mem_append.1 hc with hc | hc
    · exact h.lower c hc
    · rw [List.mem_singleton.1 hc]
      exact digitChar_mem_lowerDigits hd
  value := by
    rw [digitsValue_append_singleton, h.value, digitValue?_digitChar hd, Option.getD_some]
  zero_alone := by
    intro hzero
    rw [List.head?_append_of_ne_nil _ h.ne_nil] at hzero
    have hvalue := h.value
    rw [h.zero_alone hzero] at hvalue
    exact absurd hvalue (Nat.ne_of_lt hn)

theorem writesNat_toDigits (n : Nat) : WritesNat (Nat.toDigits 16 n) n := by
  induction n using Nat.strongRecOn with
  | ind n ih =>
    by_cases hn : n < 16
    · rw [Nat.toDigits_of_lt_base hn]
      exact writesNat_singleton hn
    · have happend := (ih (n / 16) (by omega)).append (by omega) (Nat.mod_lt n (by omega : 0 < 16))
      rwa [← Nat.toDigits_of_base_le (by omega) (by omega), Nat.div_add_mod] at happend

/-- Digits that go on do not begin with a zero. -/
theorem WritesNat.head?_ne_zero (h : WritesNat (ds ++ [c]) n) (hds : ds ≠ []) :
    ds.head? ≠ some '0' := by
  intro hzero
  have halone := h.zero_alone (by rw [List.head?_append_of_ne_nil _ hds, hzero])
  have hlen := congrArg List.length halone
  simp only [List.length_append, List.length_cons, List.length_nil] at hlen
  exact hds (List.eq_nil_of_length_eq_zero (by omega))

/-- There are no other digits for a number. -/
theorem WritesNat.eq_toDigits (h : WritesNat ds n) : ds = Nat.toDigits 16 n := by
  induction ds using List.reverseRecOn generalizing n with
  | nil => exact absurd rfl h.ne_nil
  | append_singleton ds c ih =>
    obtain ⟨d, hd, rfl⟩ := exists_of_mem_lowerDigits (h.lower c (by simp))
    have hvalue := h.value
    rw [digitsValue_append_singleton, digitValue?_digitChar hd, Option.getD_some] at hvalue
    by_cases hds : ds = []
    · subst hds
      have hn : d = n := by simpa [digitsValue] using hvalue
      rw [← hn, Nat.toDigits_of_lt_base hd, List.nil_append]
    · have hfirst := h.head?_ne_zero hds
      have hinit : WritesNat ds (digitsValue ds) :=
        ⟨hds, fun c hc => h.lower c (List.mem_append_left _ hc), rfl, fun hzero =>
          absurd hzero hfirst⟩
      have hdigits := ih hinit
      -- Only zero is written with a zero in front.
      have hpos : digitsValue ds ≠ 0 := by
        intro hzero
        rw [hzero] at hdigits
        rw [hdigits] at hfirst
        exact hfirst rfl
      rw [← hvalue, ← Nat.toDigits_append_toDigits (by omega) (Nat.pos_of_ne_zero hpos) hd,
        Nat.toDigits_of_lt_base hd, ← hdigits]

/-- One string of digits writes a natural number. -/
theorem writesNat_iff : WritesNat ds n ↔ ds = Nat.toDigits 16 n := by
  constructor
  · exact WritesNat.eq_toDigits
  · rintro rfl
    exact writesNat_toDigits n

/-! ## Numbers -/

theorem toList_ofInt (v : Int) : (ofInt v).toList =
    (if v < 0 then ['-'] else []) ++ '0' :: 'x' :: Nat.toDigits 16 v.natAbs := by
  unfold ofInt
  by_cases hv : v < 0
  · simp [hv]
  · simp [hv]

/-- One text writes a number. -/
theorem writes_iff {text : String} {v : Int} : Writes text v ↔ text = ofInt v := by
  rw [← String.toList_inj, toList_ofInt]
  constructor
  · rintro ⟨ds, htext, hds⟩
    rw [htext, writesNat_iff.1 hds]
  · intro htext
    exact ⟨_, htext, writesNat_iff.2 rfl⟩

/-- A number is told by its text. -/
theorem ofInt_inj {v w : Int} (h : ofInt v = ofInt w) : v = w := by
  have hlist := congrArg String.toList h
  rw [toList_ofInt, toList_ofInt] at hlist
  have hdigits : ∀ m n : Nat, Nat.toDigits 16 m = Nat.toDigits 16 n → m = n := by
    intro m n hmn
    rw [← (writesNat_toDigits m).value, hmn, (writesNat_toDigits n).value]
  -- The first character tells the sign.
  by_cases hv : v < 0
  · by_cases hw : w < 0
    · rw [if_pos hv, if_pos hw] at hlist
      have := hdigits _ _ (by simpa using hlist)
      omega
    · simp [hv, hw] at hlist
  · by_cases hw : w < 0
    · simp [hv, hw] at hlist
    · rw [if_neg hv, if_neg hw] at hlist
      have := hdigits _ _ (by simpa using hlist)
      omega

end Specimen.Hex
