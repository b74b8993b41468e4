import Specimen.Hex.Pieces

/-!
# What comes of a hex string in pieces

Pieces are judged in a fixed order: whether all of them are texts, whether the text they make up
has an even length, and whether it has hex digits only. `PiecesOutcome` says so without a word on
how they are read; the reader of pairs at the end, which is more lenient, has no say.

* `joinFrom_eq_ok_iff`, `joinFrom_eq_error_iff`: when pieces can be joined, and which one is
  complained about otherwise.
* `decode_eq_error_iff`: which complaint there is about a text.
* `octetsOfDigits_eq_iff`: the octets that digits write, each one by its place.
* `decodeParts_eq_iff_outcome`: reading pieces ends as `PiecesOutcome` says, and in no other way.
-/

namespace Specimen

/-- What holds of each of the first 128 characters holds of every character in ASCII. -/
theorem forall_ascii {P : Char → Prop} (h : ∀ n : Fin 128, P (Char.ofNat n)) {c : Char}
    (hc : c.toNat < 128) : P c := by
  have := h ⟨c.toNat, hc⟩
  rwa [Char.ofNat_toNat] at this

/-- A test that all items of a list pass. -/
theorem forall_mem_of_all {P : α → Prop} [DecidablePred P] {l : List α}
    (h : l.all (fun a => decide (P a)) = true) : ∀ a ∈ l, P a := by
  simpa using h

theorem Value.kind_eq_text_iff {v : Value} : v.kind = .text ↔ ∃ s, v = .text s := by
  constructor
  · intro h
    cases v with
    | text s => exact ⟨s, rfl⟩
    | octets form bs => cases form <;> simp [Value.kind] at h
    | _ => simp [Value.kind] at h
  · rintro ⟨s, rfl⟩
    rfl

namespace Hex

/-! ## Digits -/

/-- The hex digits, those from ten on in both cases. -/
def digits : List Char :=
  ['0', '1', '2', '3', '4', '5', '6', '7', '8', '9', 'a', 'b', 'c', 'd', 'e', 'f',
    'A', 'B', 'C', 'D', 'E', 'F']

/-- The value of a hex digit: its place among the digits, those in upper case counted once more. -/
def value (c : Char) : Nat :=
  if digits.idxOf c < 16 then digits.idxOf c else digits.idxOf c - 6

/-- A digit is read as its value, and any other character as nothing. -/
theorem digitValue?_eq (c : Char) :
    digitValue? c = if c ∈ digits then some (value c) else none := by
  by_cases h : c.toNat < 128
  · exact forall_ascii (P := fun c => digitValue? c = if c ∈ digits then some (value c) else none)
      (by decide +kernel) h
  · have hd : c ∉ digits := fun hc =>
      h (forall_mem_of_all (P := fun d => d.toNat < 128) (by decide +kernel) c hc)
    have hv : ¬ (digitValue? c).isSome := fun hs => h (plain_of_digitValue? hs).1
    rw [if_neg hd, ← Option.not_isSome_iff_eq_none]
    exact hv

theorem isSome_digitValue?_iff {c : Char} : (digitValue? c).isSome ↔ c ∈ digits := by
  rw [digitValue?_eq]
  split <;> simp_all

theorem value_lt (c : Char) (h : c ∈ digits) : value c < 16 :=
  forall_mem_of_all (P := fun d => value d < 16) (by decide +kernel) c h

/-! ## The octets that digits write -/

theorem length_octetsOfDigits {cs : List Char} (hl : cs.length % 2 = 0) :
    2 * (octetsOfDigits cs).length = cs.length := by
  induction cs using pairs_induction with
  | nil => rfl
  | single c => simp at hl
  | pair h l cs ih =>
    simp only [List.length_cons] at hl
    have := ih (by omega)
    simp only [octetsOfDigits, List.length_cons]
    omega

/-- An octet is written by the two digits at its place. -/
theorem getElem?_octetsOfDigits {cs : List Char} (hd : ∀ c ∈ cs, c ∈ digits) {i : Nat}
    {h l : Char} (hh : cs[2 * i]? = some h) (hl : cs[2 * i + 1]? = some l) :
    (octetsOfDigits cs)[i]?.map UInt8.toNat = some (16 * value h + value l) := by
  induction cs using pairs_induction generalizing i with
  | nil => simp at hh
  | single c =>
    have : 2 * i + 1 < [c].length := (List.getElem?_eq_some_iff.1 hl).1
    simp at this
  | pair a b cs ih =>
    have hcs : ∀ c ∈ cs, c ∈ digits := fun c hc => hd c (by simp [hc])
    cases i with
    | zero =>
      simp only [Nat.mul_zero, List.getElem?_cons_zero, Option.some.injEq] at hh
      simp only [Nat.mul_zero, Nat.zero_add, List.getElem?_cons_succ, List.getElem?_cons_zero,
        Option.some.injEq] at hl
      subst hh hl
      have ha := value_lt a (hd a (by simp))
      have hb := value_lt b (hd b (by simp))
      simp only [octetsOfDigits, digitValue?_eq, hd a (by simp), hd b (by simp), if_true,
        Option.getD_some, List.getElem?_cons_zero, Option.map_some, Option.some.injEq,
        Nat.toUInt8_eq, UInt8.toNat_ofNat']
      omega
    | succ i =>
      rw [octetsOfDigits, List.getElem?_cons_succ]
      have h2 : 2 * (i + 1) = 2 * i + 1 + 1 := by omega
      rw [h2] at hh hl
      exact ih hcs (by simpa using hh) (by simpa using hl)

/-- The octets that digits write are told by their number and by the digits at their places. -/
theorem octetsOfDigits_eq_iff {cs : List Char} {bs : Octets} (hl : cs.length % 2 = 0)
    (hd : ∀ c ∈ cs, c ∈ digits) :
    octetsOfDigits cs = bs ↔ 2 * bs.length = cs.length ∧
      ∀ i h l, cs[2 * i]? = some h → cs[2 * i + 1]? = some l →
        bs[i]?.map UInt8.toNat = some (16 * value h + value l) := by
  constructor
  · rintro rfl
    exact ⟨length_octetsOfDigits hl, fun i h l hh hlow => getElem?_octetsOfDigits hd hh hlow⟩
  · rintro ⟨hlen, hb⟩
    have hlen' := length_octetsOfDigits hl
    refine List.ext_getElem (by omega) fun i hi hi' => ?_
    have hh : 2 * i < cs.length := by omega
    have hlow : 2 * i + 1 < cs.length := by omega
    have h₁ := getElem?_octetsOfDigits hd (List.getElem?_eq_getElem hh)
      (List.getElem?_eq_getElem hlow)
    have h₂ := hb i _ _ (List.getElem?_eq_getElem hh) (List.getElem?_eq_getElem hlow)
    rw [← h₂, List.getElem?_eq_getElem hi, List.getElem?_eq_getElem hi'] at h₁
    simpa [UInt8.toNat_inj] using h₁

/-! ## Complaints -/

/-- The character complained about is the first one that is no digit. -/
theorem firstIllegal?_eq_some_iff {cs : List Char} {k n : Nat} {c : Char} :
    firstIllegal? k cs = some (c, n) ↔ ∃ i, n = k + i ∧ cs[i]? = some c ∧ c ∉ digits ∧
      ∀ j < i, ∀ d, cs[j]? = some d → d ∈ digits := by
  induction cs generalizing k with
  | nil => simp [firstIllegal?]
  | cons d ds ih =>
    by_cases hd : d ∈ digits
    · rw [firstIllegal?, if_pos (isSome_digitValue?_iff.2 hd), ih]
      constructor
      · rintro ⟨i, hn, hc, hnd, hfirst⟩
        refine ⟨i + 1, by omega, by simpa using hc, hnd, fun j hj e he => ?_⟩
        cases j with
        | zero =>
          simp only [List.getElem?_cons_zero, Option.some.injEq] at he
          exact he ▸ hd
        | succ j => exact hfirst j (by omega) e (by simpa using he)
      · rintro ⟨i, hn, hc, hnd, hfirst⟩
        cases i with
        | zero =>
          simp only [List.getElem?_cons_zero, Option.some.injEq] at hc
          exact absurd (hc ▸ hd) hnd
        | succ i =>
          refine ⟨i, by omega, by simpa using hc, hnd, fun j hj e he => ?_⟩
          exact hfirst (j + 1) (by omega) e (by simpa using he)
    · rw [firstIllegal?, if_neg (mt isSome_digitValue?_iff.1 hd)]
      simp only [Option.some.injEq, Prod.mk.injEq]
      constructor
      · rintro ⟨rfl, rfl⟩
        exact ⟨0, rfl, rfl, hd, fun j hj => absurd hj (by omega)⟩
      · rintro ⟨i, hn, hc, -, hfirst⟩
        cases i with
        | zero => exact ⟨by simpa using hc, by omega⟩
        | succ i => exact absurd (hfirst 0 (by omega) d rfl) hd

/-- There are two complaints about a text: its length, and its first character that is no digit. -/
theorem decode_eq_error_iff {cs : List Char} {flaw : Flaw} :
    decode cs = .error flaw ↔
      (cs.length % 2 = 1 ∧ flaw = .oddLength cs.length) ∨
      (cs.length % 2 = 0 ∧ ∃ i c, cs[i]? = some c ∧ c ∉ digits ∧
        (∀ j < i, ∀ d, cs[j]? = some d → d ∈ digits) ∧ flaw = .illegal c i) := by
  by_cases hl : cs.length % 2 = 0
  · have hodd : ¬ cs.length % 2 = 1 := by omega
    cases hf : firstIllegal? 0 cs with
    | none =>
      have hall := firstIllegal?_eq_none_iff.1 hf
      have hok : decode cs = .ok (octetsOfDigits cs) := decode_eq_ok_iff.2 ⟨hl, hall, rfl⟩
      rw [hok]
      refine iff_of_false (by simp) ?_
      rintro (⟨h, -⟩ | ⟨-, i, c, hc, hnd, -⟩)
      · exact hodd h
      · exact hnd (isSome_digitValue?_iff.1 (hall c (List.mem_of_getElem? hc)))
    | some p =>
      obtain ⟨c, n⟩ := p
      obtain ⟨i, hn, hc, hnd, hfirst⟩ := firstIllegal?_eq_some_iff.1 hf
      have hn : n = i := by omega
      subst hn
      have he : decode cs = .error (.illegal c n) := by simp [decode, check, hl, hf]
      rw [he, Except.error.injEq]
      constructor
      · rintro rfl
        exact .inr ⟨hl, n, c, hc, hnd, hfirst, rfl⟩
      · rintro (⟨h, -⟩ | ⟨-, j, d, hd, hnd', hfirst', rfl⟩)
        · exact absurd h hodd
        · have hj : firstIllegal? 0 cs = some (d, j) :=
            firstIllegal?_eq_some_iff.2 ⟨j, by omega, hd, hnd', hfirst'⟩
          rw [hf, Option.some.injEq, Prod.mk.injEq] at hj
          rw [hj.1, hj.2]
  · have hodd : cs.length % 2 = 1 := by omega
    simp [decode, check, hodd, eq_comm]

variable {vs : List Value}

/-- Pieces can be joined exactly if they are texts. -/
theorem joinFrom_eq_ok_iff {k : Nat} {cs : List Char} :
    joinFrom k vs = .ok cs ↔
      ∃ ss : List String, vs = ss.map .text ∧ cs = ss.flatMap String.toList := by
  constructor
  · intro h
    induction vs generalizing k cs with
    | nil =>
      simp only [joinFrom, Except.ok.injEq] at h
      exact ⟨[], rfl, h.symm⟩
    | cons v vs ih =>
      cases v with
      | text s =>
        rw [joinFrom] at h
        cases hj : joinFrom (k + 1) vs with
        | error e => simp [hj, Except.map] at h
        | ok ds =>
          obtain ⟨ss, rfl, rfl⟩ := ih hj
          simp only [hj, Except.map, Except.ok.injEq] at h
          exact ⟨s :: ss, rfl, by simp [← h]⟩
      | _ => simp [joinFrom] at h
  · rintro ⟨ss, rfl, rfl⟩
    exact joinFrom_texts k ss

/-- The piece complained about is the first one that is no text. -/
theorem joinFrom_eq_error_iff {k : Nat} {flaw : InputFlaw} :
    joinFrom k vs = .error flaw ↔ ∃ i v, vs[i]? = some v ∧ v.kind ≠ .text ∧
      (∀ j < i, ∀ u, vs[j]? = some u → u.kind = .text) ∧ flaw = .pieceNotText (k + i) v.kind := by
  induction vs generalizing k with
  | nil => simp [joinFrom]
  | cons v vs ih =>
    by_cases hv : v.kind = .text
    · obtain ⟨s, rfl⟩ := Value.kind_eq_text_iff.1 hv
      have hmap : joinFrom k (.text s :: vs) = .error flaw ↔ joinFrom (k + 1) vs = .error flaw := by
        rw [joinFrom]
        cases joinFrom (k + 1) vs <;> simp [Except.map]
      rw [hmap, ih]
      constructor
      · rintro ⟨i, u, hu, hk, hfirst, rfl⟩
        refine ⟨i + 1, u, by simpa using hu, hk, fun j hj w hw => ?_, by congr 1; omega⟩
        cases j with
        | zero =>
          simp only [List.getElem?_cons_zero, Option.some.injEq] at hw
          exact hw ▸ hv
        | succ j => exact hfirst j (by omega) w (by simpa using hw)
      · rintro ⟨i, u, hu, hk, hfirst, rfl⟩
        cases i with
        | zero =>
          simp only [List.getElem?_cons_zero, Option.some.injEq] at hu
          exact absurd (hu ▸ hv) hk
        | succ i =>
          refine ⟨i, u, by simpa using hu, hk, fun j hj w hw => ?_, by congr 1; omega⟩
          exact hfirst (j + 1) (by omega) w (by simpa using hw)
    · have he : joinFrom k (v :: vs) = .error (.pieceNotText k v.kind) := by
        cases v with
        | text s => exact absurd rfl hv
        | _ => rfl
      rw [he, Except.error.injEq]
      constructor
      · rintro rfl
        exact ⟨0, v, rfl, hv, fun j hj => absurd hj (by omega), rfl⟩
      · rintro ⟨i, u, hu, -, hfirst, rfl⟩
        cases i with
        | zero =>
          simp only [List.getElem?_cons_zero, Option.some.injEq] at hu
          rw [hu, Nat.add_zero]
        | succ i => exact absurd (hfirst 0 (by omega) v rfl) hv

/-! ## Outcomes -/

/-- What comes of pieces: a complaint about the first piece that is no text; else, of the text `t`
that they make up, a complaint about its length, or about its first character that is no digit
with the place of it in `t`, or the octets that its digits write two by two. -/
inductive PiecesOutcome (vs : List Value) : Except InputFlaw Octets → Prop where
  | notText {i : Nat} {v : Value} (hv : vs[i]? = some v) (hk : v.kind ≠ .text)
      (hfirst : ∀ j < i, ∀ u, vs[j]? = some u → u.kind = .text) :
      PiecesOutcome vs (.error (.pieceNotText i v.kind))
  | oddLength {ss : List String} {t : List Char} (hs : vs = ss.map .text)
      (ht : t = ss.flatMap String.toList) (hl : t.length % 2 = 1) :
      PiecesOutcome vs (.error (.digits (.oddLength t.length)))
  | illegal {ss : List String} {t : List Char} {i : Nat} {c : Char} (hs : vs = ss.map .text)
      (ht : t = ss.flatMap String.toList) (hl : t.length % 2 = 0) (hc : t[i]? = some c)
      (hd : c ∉ digits) (hfirst : ∀ j < i, ∀ d, t[j]? = some d → d ∈ digits) :
      PiecesOutcome vs (.error (.digits (.illegal c i)))
  | octets {ss : List String} {t : List Char} {bs : Octets} (hs : vs = ss.map .text)
      (ht : t = ss.flatMap String.toList) (hl : t.length % 2 = 0) (hd : ∀ c ∈ t, c ∈ digits)
      (hlen : 2 * bs.length = t.length)
      (hb : ∀ i h l, t[2 * i]? = some h → t[2 * i + 1]? = some l →
        bs[i]?.map UInt8.toNat = some (16 * value h + value l)) :
      PiecesOutcome vs (.ok bs)

theorem decodeParts_of_join_error {parts : Value} {flaw : InputFlaw}
    (h : parts.items? = some vs) (hj : joinFrom 0 vs = .error flaw) :
    decodeParts parts = .error flaw := by
  simp [decodeParts, join, h, hj, bind, Except.bind]

theorem decodeParts_of_join_ok {parts : Value} {t : List Char}
    (h : parts.items? = some vs) (hj : joinFrom 0 vs = .ok t) :
    decodeParts parts = (decode t).mapError .digits := by
  simp only [decodeParts, join, h, hj, bind, Except.bind, decodeChars]
  cases decode t <;> rfl

/-- The outcome is what reading ends with. -/
theorem decodeParts_of_outcome {parts : Value} {r : Except InputFlaw Octets}
    (h : parts.items? = some vs) (ho : PiecesOutcome vs r) : decodeParts parts = r := by
  cases ho with
  | @notText i v hv hk hfirst =>
    refine decodeParts_of_join_error h ?_
    exact joinFrom_eq_error_iff.2 ⟨i, v, hv, hk, hfirst, by rw [Nat.zero_add]⟩
  | oddLength hs ht hl =>
    rw [decodeParts_of_join_ok h (joinFrom_eq_ok_iff.2 ⟨_, hs, ht⟩),
      decode_eq_error_iff.2 (.inl ⟨hl, rfl⟩)]
    rfl
  | illegal hs ht hl hc hd hfirst =>
    rw [decodeParts_of_join_ok h (joinFrom_eq_ok_iff.2 ⟨_, hs, ht⟩),
      decode_eq_error_iff.2 (.inr ⟨hl, _, _, hc, hd, hfirst, rfl⟩)]
    rfl
  | octets hs ht hl hd hlen hb =>
    rw [decodeParts_of_join_ok h (joinFrom_eq_ok_iff.2 ⟨_, hs, ht⟩),
      decode_eq_ok_iff.2 ⟨hl, fun c hc => isSome_digitValue?_iff.2 (hd c hc),
        (octetsOfDigits_eq_iff hl hd).2 ⟨hlen, hb⟩⟩]
    rfl

/-- Reading ends with an outcome. -/
theorem outcome_decodeParts {parts : Value} (h : parts.items? = some vs) :
    PiecesOutcome vs (decodeParts parts) := by
  cases hj : joinFrom 0 vs with
  | error flaw =>
    rw [decodeParts_of_join_error h hj]
    obtain ⟨i, v, hv, hk, hfirst, rfl⟩ := joinFrom_eq_error_iff.1 hj
    rw [Nat.zero_add]
    exact .notText hv hk hfirst
  | ok t =>
    rw [decodeParts_of_join_ok h hj]
    obtain ⟨ss, hs, ht⟩ := joinFrom_eq_ok_iff.1 hj
    cases hd : decode t with
    | error flaw =>
      rcases decode_eq_error_iff.1 hd with ⟨hl, rfl⟩ | ⟨hl, i, c, hc, hnd, hfirst, rfl⟩
      · exact .oddLength hs ht hl
      · exact .illegal hs ht hl hc hnd hfirst
    | ok bs =>
      obtain ⟨hl, hall, ho⟩ := decode_eq_ok_iff.1 hd
      have hdigits : ∀ c ∈ t, c ∈ digits := fun c hc => isSome_digitValue?_iff.1 (hall c hc)
      obtain ⟨hlen, hb⟩ := (octetsOfDigits_eq_iff hl hdigits).1 ho
      exact .octets hs ht hl hdigits hlen hb

/-- **The outcome of pieces.** Whatever can be run through as pieces of a hex string, reading it
ends with exactly the outcome that its pieces have. In particular the reader of pairs refuses no
text that has been judged well. -/
theorem decodeParts_eq_iff_outcome (parts : Value) (h : parts.items? = some vs)
    (r : Except InputFlaw Octets) :
    (decodeParts parts = r ↔ PiecesOutcome vs r) ∧
      ∀ t, check t = .ok () → ∃ bs, readPairs t = .ok bs := by
  refine ⟨⟨?_, decodeParts_of_outcome h⟩, fun t ht => ?_⟩
  · rintro rfl
    exact outcome_decodeParts h
  · obtain ⟨hl, hd⟩ := check_eq_ok_iff.1 ht
    exact ⟨_, readPairs_of_digits hl hd⟩

theorem decodeParts_eq_iff_outcome_sample :
    PiecesOutcome [.text "d", .text "", .text "eA", .text "D"] (.ok [0xDE, 0xAD]) ∧
    PiecesOutcome [.text "0", .text "0 ", .text "g"] (.error (.digits (.illegal ' ' 2))) ∧
    PiecesOutcome [.text "+", .text "0g"] (.error (.digits (.oddLength 3))) ∧
    PiecesOutcome [.text "g", .int 7, .none] (.error (.pieceNotText 1 .int)) := by
  refine ⟨?_, ?_, ?_, ?_⟩
  · exact (decodeParts_eq_iff_outcome (.list _) rfl _).1.1 rfl
  · exact (decodeParts_eq_iff_outcome (.tuple _) rfl _).1.1 rfl
  · exact (decodeParts_eq_iff_outcome (.stream _) rfl _).1.1 rfl
  · exact (decodeParts_eq_iff_outcome (.table _ []) rfl _).1.1 rfl

end Hex

end Specimen
