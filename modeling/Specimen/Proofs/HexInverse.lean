import Mathlib.Control.Monad.Basic
import Specimen.Proofs.HexOutcome
import Specimen.Text.Upper

/-!
# Writing and reading hex strings

Writing octets and reading them back are inverse to each other, up to the letter case of what is
read and to the places where it is cut.

* `decode_eq_ok_iff_lower`: a text is read as given octets exactly if it is what they are written
  as, once its letters are in lower case.
* `exists_encode_iff`: what octets are written as.
* `writing_and_reading`: both directions, for all that counts as a hex string or as its pieces.
-/

namespace Specimen

/-! ## Letter case -/

/-- A character that is no capital letter in ASCII has itself as its lower case. -/
theorem toLower_of_not_capital {c : Char} (h : ¬ ('A' ≤ c ∧ c ≤ 'Z')) : c.toLower = c :=
  dif_neg h

theorem toLower_of_not_ascii {c : Char} (h : ¬ c.toNat < 128) : c.toLower = c := by
  refine toLower_of_not_capital fun hc => h ?_
  have hz : c.toNat ≤ 90 := UInt32.le_iff_toNat_le.1 hc.2
  omega

theorem Text.toList_lowerAscii (s : String) :
    (lowerAscii s).toList = s.toList.map Char.toLower := by
  have key : (fun c : Char => if 'A' ≤ c ∧ c ≤ 'Z' then Char.ofNat (c.toNat + 32) else c) =
      Char.toLower := by
    funext c
    by_cases h : c.toNat < 128
    · exact forall_ascii
        (P := fun c => (if 'A' ≤ c ∧ c ≤ 'Z' then Char.ofNat (c.toNat + 32) else c) = c.toLower)
        (by decide) h
    · rw [toLower_of_not_ascii h, if_neg]
      rintro ⟨-, hz⟩
      have hz : c.toNat ≤ 90 := UInt32.le_iff_toNat_le.1 hz
      omega
  rw [lowerAscii, String.toList_ofList, key]

theorem Text.lowerAscii_eq_iff {s t : String} :
    lowerAscii s = t ↔ s.toList.map Char.toLower = t.toList := by
  rw [← Text.toList_lowerAscii, String.toList_inj]

namespace Hex

/-- Reading does not look at letter case. -/
theorem digitValue?_toLower (c : Char) : digitValue? c.toLower = digitValue? c := by
  by_cases h : c.toNat < 128
  · exact forall_ascii (P := fun c => digitValue? c.toLower = digitValue? c) (by decide) h
  · rw [toLower_of_not_ascii h]

theorem octetsOfDigits_map_toLower (cs : List Char) :
    octetsOfDigits (cs.map Char.toLower) = octetsOfDigits cs := by
  induction cs using pairs_induction with
  | nil => rfl
  | single c => rfl
  | pair h l cs ih => simp only [List.map_cons, octetsOfDigits, digitValue?_toLower, ih]

theorem decode_map_toLower_iff {cs : List Char} {bs : Octets} :
    decode (cs.map Char.toLower) = .ok bs ↔ decode cs = .ok bs := by
  rw [decode_eq_ok_iff, decode_eq_ok_iff, octetsOfDigits_map_toLower, List.length_map]
  simp only [List.mem_map, forall_exists_index, and_imp, forall_apply_eq_imp_iff₂,
    digitValue?_toLower]

/-! ## Writing what was read -/

/-- A digit is written, in lower case, for its value. -/
theorem digit_value {c : Char} (h : c ∈ digits) : digit (value c) = c.toLower :=
  forall_mem_of_all (P := fun d => digit (value d) = d.toLower) (by decide +kernel) c h

theorem pair_of_digits {h l : Char} (hh : h ∈ digits) (hl : l ∈ digits) :
    pair (16 * value h + value l).toUInt8 = [h.toLower, l.toLower] := by
  have h16 := value_lt h hh
  have l16 := value_lt l hl
  have hn : ((16 * value h + value l).toUInt8).toNat = 16 * value h + value l := by
    rw [Nat.toUInt8_eq, UInt8.toNat_ofNat']
    omega
  have hhigh : (16 * value h + value l) / 16 = value h := by omega
  have hlow : (16 * value h + value l) % 16 = value l := by omega
  rw [pair, hn, hhigh, hlow, digit_value hh, digit_value hl]

/-- Digits that are read and written again are in lower case. -/
theorem encode_octetsOfDigits {cs : List Char} (hl : cs.length % 2 = 0)
    (hd : ∀ c ∈ cs, c ∈ digits) : encode (octetsOfDigits cs) = cs.map Char.toLower := by
  induction cs using pairs_induction with
  | nil => rfl
  | single c => simp at hl
  | pair h l cs ih =>
    have hh : h ∈ digits := hd h (by simp)
    have hlow : l ∈ digits := hd l (by simp)
    have hrest : encode (octetsOfDigits cs) = cs.map Char.toLower := by
      refine ih ?_ fun c hc => hd c (by simp [hc])
      simp only [List.length_cons] at hl
      omega
    have hpair := pair_of_digits hh hlow
    rw [octetsOfDigits, encode, List.flatMap_cons]
    change pair _ ++ encode (octetsOfDigits cs) = _
    rw [hrest, digitValue?_eq, digitValue?_eq, if_pos hh, if_pos hlow, Option.getD_some,
      Option.getD_some, hpair]
    rfl

/-- A text is read as given octets exactly if it is, in lower case, what they are written as. -/
theorem decode_eq_ok_iff_lower {cs : List Char} {bs : Octets} :
    decode cs = .ok bs ↔ cs.map Char.toLower = encode bs := by
  constructor
  · intro h
    obtain ⟨hl, hd, rfl⟩ := decode_eq_ok_iff.1 h
    exact (encode_octetsOfDigits hl fun c hc => isSome_digitValue?_iff.1 (hd c hc)).symm
  · intro h
    rw [← decode_map_toLower_iff, h]
    exact decode_encode bs

/-- The digits in which octets are written. -/
def lowerDigits : List Char :=
  digits.take 16

theorem mem_lowerDigits_of_mem_encode {bs : Octets} {c : Char} (h : c ∈ encode bs) :
    c ∈ lowerDigits := by
  simp only [encode, List.mem_flatMap, pair, List.mem_cons, List.not_mem_nil, or_false] at h
  obtain ⟨b, -, hc⟩ := h
  have hb : b.toNat < 256 := b.toNat_lt
  have key : ∀ n : Fin 16, digit n ∈ lowerDigits := by decide
  rcases hc with rfl | rfl
  · exact key ⟨b.toNat / 16, by omega⟩
  · exact key ⟨b.toNat % 16, by omega⟩

/-- What octets are written as: an even number of digits in lower case. -/
theorem exists_encode_iff {cs : List Char} :
    (∃ bs, encode bs = cs) ↔ cs.length % 2 = 0 ∧ ∀ c ∈ cs, c ∈ lowerDigits := by
  constructor
  · rintro ⟨bs, rfl⟩
    refine ⟨?_, fun c hc => mem_lowerDigits_of_mem_encode hc⟩
    rw [length_encode]
    omega
  · rintro ⟨hl, hd⟩
    have hdigits : ∀ c ∈ cs, c ∈ digits := fun c hc => List.mem_of_mem_take (hd c hc)
    have hlower : cs.map Char.toLower = cs := by
      rw [List.map_congr_left fun c hc =>
        forall_mem_of_all (P := fun d => d.toLower = d) (by decide +kernel) c (hd c hc),
        List.map_id']
    exact ⟨octetsOfDigits cs, by rw [encode_octetsOfDigits hl hdigits, hlower]⟩

/-! ## Values -/

theorem decodeValue_eq_ok_iff {t : String} {b : Octets} :
    decodeValue (.text t) = .ok b ↔ decode t.toList = .ok b := by
  rw [decodeValue, decodeChars]
  cases decode t.toList <;> simp

theorem decodeParts_eq_ok_iff {parts : Value} {ss : List String} {b : Octets}
    (h : parts.items? = some (ss.map .text)) :
    decodeParts parts = .ok b ↔ decode (ss.flatMap String.toList) = .ok b := by
  rw [decodeParts_of_join_ok h (joinFrom_texts 0 ss)]
  cases decode (ss.flatMap String.toList) <;> simp [Except.mapError]

/-- A text that is run through as pieces yields its characters. -/
theorem items?_text (t : String) :
    (Value.text t).items? = some ((t.toList.map fun c => String.ofList [c]).map .text) := by
  simp [Value.items?, Function.comp_def]

theorem flatMap_singletons (cs : List Char) :
    (cs.map fun c => String.ofList [c]).flatMap String.toList = cs := by
  induction cs with
  | nil => rfl
  | cons c cs ih =>
    rw [List.map_cons, List.flatMap_cons, ih, String.toList_ofList, List.cons_append,
      List.nil_append]

/-- **Writing and reading are inverse.** All octets can be written. What is written for them, with
its letters in any case, is read as them: as a text, as the characters of that text, and as pieces
into which it is cut in any way. What is read and written again is the text in lower case. Hence
two texts that are read give the same octets exactly if they differ in letter case at most; and the
texts that are written are those of an even number of digits in lower case. -/
theorem writing_and_reading :
    (∀ form b, ∃ s, encodeValue (.octets form b) = .ok s ∧ ∀ t, Text.lowerAscii t = s →
      decodeValue (.text t) = .ok b ∧ decodeParts (.text t) = .ok b ∧
      ∀ (ss : List String) (parts : Value), parts.items? = some (ss.map .text) →
        ss.flatMap String.toList = t.toList → decodeParts parts = .ok b) ∧
    (∀ t b, decodeValue (.text t) = .ok b →
      encodeValue (.ofOctets b) = .ok (Text.lowerAscii t)) ∧
    (∀ t u b c, decodeValue (.text t) = .ok b → decodeValue (.text u) = .ok c →
      (b = c ↔ Text.lowerAscii t = Text.lowerAscii u)) ∧
    ∀ form s, (∃ b, encodeValue (.octets form b) = .ok s) ↔
      s.toList.length % 2 = 0 ∧ ∀ c ∈ s.toList, c ∈ lowerDigits := by
  have hread : ∀ t b, decodeValue (.text t) = .ok b → Text.lowerAscii t = text b := by
    intro t b h
    rw [Text.lowerAscii_eq_iff, text, String.toList_ofList]
    exact decode_eq_ok_iff_lower.1 (decodeValue_eq_ok_iff.1 h)
  refine ⟨fun form b => ⟨text b, rfl, fun t ht => ?_⟩, fun t b h => ?_, fun t u b c hb hc => ?_,
    fun form s => ?_⟩
  · have hd : decode t.toList = .ok b := by
      rw [Text.lowerAscii_eq_iff, text, String.toList_ofList] at ht
      exact decode_eq_ok_iff_lower.2 ht
    have hpieces : ∀ (ss : List String) (parts : Value), parts.items? = some (ss.map .text) →
        ss.flatMap String.toList = t.toList → decodeParts parts = .ok b := by
      intro ss parts hp hs
      rw [decodeParts_eq_ok_iff hp, hs, hd]
    exact ⟨decodeValue_eq_ok_iff.2 hd, hpieces _ _ (items?_text t) (flatMap_singletons _), hpieces⟩
  · rw [hread t b h]
    rfl
  · rw [hread t b hb, hread u c hc]
    refine ⟨fun h => by rw [h], fun h => ?_⟩
    have he : encode b = encode c := String.ofList_inj.1 h
    rw [← octetsOfDigits_encode b, he, octetsOfDigits_encode]
  · rw [← exists_encode_iff]
    refine exists_congr fun b => ?_
    simp only [encodeValue, Value.octets?, Except.ok.injEq, text]
    rw [← String.toList_inj, String.toList_ofList]

theorem writing_and_reading_sample :
    encodeValue (.ofOctets [0xDE, 0xAD]) = .ok "dead" ∧
    decodeParts (.tuple [.text "D", .text "", .text "eA", .text "d"]) = .ok [0xDE, 0xAD] ∧
    decodeParts (.text "dEAD") = .ok [0xDE, 0xAD] ∧
    encodeValue (.ofOctets [0xDE, 0xAD]) = .ok (Text.lowerAscii "DeaD") ∧
    Text.lowerAscii "DeaD" = Text.lowerAscii "dEAd" := by
  obtain ⟨hwrite, hread, hsame, -⟩ := writing_and_reading
  obtain ⟨s, hs, hback⟩ := hwrite .fixed [0xDE, 0xAD]
  have hdead : s = "dead" := (Except.ok.inj hs).symm
  subst hdead
  refine ⟨hs, ?_, (hback "dEAD" (by decide +kernel)).2.1, hread _ _ (by rfl), ?_⟩
  · exact (hback "DeAd" (by decide +kernel)).2.2 ["D", "", "eA", "d"] _ rfl (by decide +kernel)
  · exact (hsame "DeaD" "dEAd" [0xDE, 0xAD] _ (by rfl) (by rfl)).1 rfl

end Hex

end Specimen
