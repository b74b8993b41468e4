import Specimen.Octets

/-!
# Hex digits

Two hex digits write one octet, the high half first. Writing uses lower case; reading accepts
both cases and nothing else. The pairs are read by a reader that would also pass over white space
between them, so a text is judged before it is read.

* `digitValue?_digit` — every digit written reads back as its value.
* `readPairs_of_digits` — the reader of pairs refuses no text that has been judged well.
* `decode_encode` — what is written reads back.
* `decode_eq_ok_iff` — the text accepted has even length and hex digits only.
-/

namespace Specimen

/-- Why a text is not a hex string. -/
inductive Hex.Flaw where
  /-- An odd number of digits. -/
  | oddLength (digits : Nat)
  /-- A character that is no hex digit, with its offset. -/
  | illegal (char : Char) (offset : Nat)
  /-- The reader of pairs misses a digit at an offset. -/
  | noDigit (offset : Nat)
  deriving DecidableEq, Repr

namespace Hex

/-- The digit for a number below sixteen. -/
def digit (n : Nat) : Char :=
  if n < 10 then Char.ofNat (48 + n) else Char.ofNat (87 + n)

/-- The value of a hex digit of either case. -/
def digitValue? (c : Char) : Option Nat :=
  if '0' ≤ c ∧ c ≤ '9' then some (c.toNat - 48)
  else if 'a' ≤ c ∧ c ≤ 'f' then some (c.toNat - 87)
  else if 'A' ≤ c ∧ c ≤ 'F' then some (c.toNat - 55)
  else none

/-- The two digits of one octet. -/
def pair (b : UInt8) : List Char :=
  [digit (b.toNat / 16), digit (b.toNat % 16)]

/-- The lower-case digits of an octet string. -/
def encode (bs : Octets) : List Char :=
  bs.flatMap pair

/-- The first character that is no hex digit, with its offset counted from `i`. -/
def firstIllegal? (i : Nat) : List Char → Option (Char × Nat)
  | [] => none
  | c :: cs => if (digitValue? c).isSome then firstIllegal? (i + 1) cs else some (c, i)

/-- The octets written by successive pairs of digits. -/
def octetsOfDigits : List Char → Octets
  | h :: l :: cs =>
    (16 * (digitValue? h).getD 0 + (digitValue? l).getD 0).toUInt8 :: octetsOfDigits cs
  | _ => []

/-- Judges a hex string: the length first, then the characters from the left. -/
def check (cs : List Char) : Except Flaw Unit :=
  if cs.length % 2 ≠ 0 then .error (.oddLength cs.length)
  else match firstIllegal? 0 cs with
    | some (c, i) => .error (.illegal c i)
    | none => .ok ()

/-- White space as the reader of pairs knows it. -/
def isSpace (c : Char) : Bool :=
  c == ' ' || ('\t' ≤ c && c ≤ '\r')

/-- The octets of pairs of digits, the first character having the offset `i`. White space may stand
in front of a pair, but not within one. -/
def readPairsFrom (i : Nat) : List Char → Except Flaw Octets
  | [] => .ok []
  | c :: cs =>
    if isSpace c then readPairsFrom (i + 1) cs
    else
      match digitValue? c, cs with
      | none, _ => .error (.noDigit i)
      | some _, [] => .error (.noDigit (i + 1))
      | some high, d :: ds =>
        match digitValue? d with
        | none => .error (.noDigit (i + 1))
        | some low => (readPairsFrom (i + 2) ds).map ((16 * high + low).toUInt8 :: ·)

/-- The octets of pairs of digits. A character outside ASCII is looked for before any pair is
read. -/
def readPairs (cs : List Char) : Except Flaw Octets :=
  match cs.findIdx? (fun c => decide (128 ≤ c.toNat)) with
  | some i => .error (.noDigit i)
  | none => readPairsFrom 0 cs

/-- Reads a hex string, which is judged first. -/
def decode (cs : List Char) : Except Flaw Octets :=
  match check cs with
  | .error flaw => .error flaw
  | .ok () => readPairs cs

/-- The text of an octet string in hex. -/
def text (bs : Octets) : String :=
  String.ofList (encode bs)

/-- A number in hex: `0x`, digits without leading zeros, and a minus sign in front of a negative
one. -/
def ofInt (n : Int) : String :=
  let digits := "0x" ++ String.ofList (Nat.toDigits 16 n.natAbs)
  if n < 0 then "-" ++ digits else digits

/-! ## Reading back -/

theorem digitValue?_digit {n : Nat} (h : n < 16) : digitValue? (digit n) = some n := by
  have : ∀ m : Fin 16, digitValue? (digit m) = some m.val := by decide
  exact this ⟨n, h⟩

theorem firstIllegal?_eq_none_iff {i : Nat} {cs : List Char} :
    firstIllegal? i cs = none ↔ ∀ c ∈ cs, (digitValue? c).isSome := by
  induction cs generalizing i with
  | nil => simp [firstIllegal?]
  | cons c cs ih =>
    by_cases h : (digitValue? c).isSome <;> simp [firstIllegal?, h, ih]

/-- A text is judged well exactly if it has even length and hex digits only. -/
theorem check_eq_ok_iff {cs : List Char} :
    check cs = .ok () ↔ cs.length % 2 = 0 ∧ ∀ c ∈ cs, (digitValue? c).isSome := by
  rw [← firstIllegal?_eq_none_iff (i := 0)]
  unfold check
  by_cases hl : cs.length % 2 = 0
  · cases hf : firstIllegal? 0 cs <;> simp [hl]
  · simp [hl]

/-- A hex digit is in ASCII and no white space. -/
theorem plain_of_digitValue? {c : Char} (h : (digitValue? c).isSome) :
    c.toNat < 128 ∧ isSpace c = false := by
  have hr : 48 ≤ c.toNat ∧ c.toNat ≤ 102 := by
    simp only [digitValue?, Char.le_def, UInt32.le_iff_toNat_le] at h
    change (if 48 ≤ c.toNat ∧ c.toNat ≤ 57 then some (c.toNat - 48)
      else if 97 ≤ c.toNat ∧ c.toNat ≤ 102 then some (c.toNat - 87)
      else if 65 ≤ c.toNat ∧ c.toNat ≤ 70 then some (c.toNat - 55) else none).isSome at h
    split at h
    · omega
    · split at h
      · omega
      · split at h
        · omega
        · simp at h
  refine ⟨by omega, ?_⟩
  have hs : c ≠ ' ' := by
    rintro rfl
    exact absurd hr.1 (by decide)
  have ht : ¬ c ≤ '\r' := by
    rw [Char.le_def, UInt32.le_iff_toNat_le]
    show ¬ c.toNat ≤ 13
    omega
  simp [isSpace, hs, ht]

/-- Induction along the pairs of a text, which may leave one character over. -/
theorem pairs_induction {P : List Char → Prop} (nil : P []) (single : ∀ c, P [c])
    (pair : ∀ h l cs, P cs → P (h :: l :: cs)) (cs : List Char) : P cs := by
  induction cs using octetsOfDigits.induct with
  | case1 h l cs ih => exact pair h l cs ih
  | case2 cs hn =>
    rcases cs with _ | ⟨h, _ | ⟨l, cs⟩⟩
    · exact nil
    · exact single h
    · exact absurd rfl (hn h l cs)

theorem readPairsFrom_of_digits {cs : List Char} (i : Nat) (hl : cs.length % 2 = 0)
    (hd : ∀ c ∈ cs, (digitValue? c).isSome) : readPairsFrom i cs = .ok (octetsOfDigits cs) := by
  induction cs using pairs_induction generalizing i with
  | nil => rfl
  | single c => simp at hl
  | pair h l cs ih =>
    obtain ⟨high, hh⟩ := Option.isSome_iff_exists.1 (hd h (by simp))
    obtain ⟨low, hlow⟩ := Option.isSome_iff_exists.1 (hd l (by simp))
    have hs := (plain_of_digitValue? (hd h (by simp))).2
    have hrest : readPairsFrom (i + 2) cs = .ok (octetsOfDigits cs) := by
      refine ih (i + 2) ?_ fun c hc => hd c (by simp [hc])
      simp only [List.length_cons] at hl
      omega
    simp [readPairsFrom, octetsOfDigits, hs, hh, hlow, hrest, Except.map]

/-- The reader of pairs refuses no text of even length that has hex digits only. -/
theorem readPairs_of_digits {cs : List Char} (hl : cs.length % 2 = 0)
    (hd : ∀ c ∈ cs, (digitValue? c).isSome) : readPairs cs = .ok (octetsOfDigits cs) := by
  have hascii : cs.findIdx? (fun c => decide (128 ≤ c.toNat)) = none := by
    rw [List.findIdx?_eq_none_iff]
    intro c hc
    have := (plain_of_digitValue? (hd c hc)).1
    simp
    omega
  rw [readPairs, hascii]
  exact readPairsFrom_of_digits 0 hl hd

/-- The text accepted has even length and hex digits only. -/
theorem decode_eq_ok_iff {cs : List Char} {bs : Octets} :
    decode cs = .ok bs ↔
      cs.length % 2 = 0 ∧ (∀ c ∈ cs, (digitValue? c).isSome) ∧ octetsOfDigits cs = bs := by
  rw [← and_assoc, ← check_eq_ok_iff, decode]
  cases hc : check cs with
  | error flaw => simp
  | ok u =>
    obtain ⟨hl, hd⟩ := check_eq_ok_iff.1 hc
    simp [readPairs_of_digits hl hd]

theorem octetsOfDigits_encode (bs : Octets) : octetsOfDigits (encode bs) = bs := by
  induction bs with
  | nil => rfl
  | cons b bs ih =>
    have hb : b.toNat < 256 := b.toNat_lt
    have hc : encode (b :: bs) =
        digit (b.toNat / 16) :: digit (b.toNat % 16) :: encode bs := rfl
    rw [hc, octetsOfDigits, ih, digitValue?_digit (by omega), digitValue?_digit (by omega)]
    congr 1
    apply UInt8.toNat_inj.1
    simp only [Option.getD_some, Nat.toUInt8_eq, UInt8.toNat_ofNat']
    omega

theorem mem_encode_isSome {bs : Octets} {c : Char} (h : c ∈ encode bs) :
    (digitValue? c).isSome := by
  simp only [encode, List.mem_flatMap, pair] at h
  obtain ⟨b, -, hc⟩ := h
  have hb : b.toNat < 256 := b.toNat_lt
  simp only [List.mem_cons, List.not_mem_nil, or_false] at hc
  rcases hc with rfl | rfl
  · rw [digitValue?_digit (by omega)]; rfl
  · rw [digitValue?_digit (by omega)]; rfl

theorem length_encode (bs : Octets) : (encode bs).length = 2 * bs.length := by
  induction bs with
  | nil => rfl
  | cons b bs ih =>
    have hc : (encode (b :: bs)).length = 2 + (encode bs).length := by
      simp [encode, pair]; omega
    rw [hc, ih, List.length_cons]; omega

/-- What is written reads back. -/
theorem decode_encode (bs : Octets) : decode (encode bs) = .ok bs := by
  refine decode_eq_ok_iff.2 ⟨?_, fun _ h => mem_encode_isSome h, octetsOfDigits_encode bs⟩
  rw [length_encode]; omega

end Hex

end Specimen
