import Specimen.Proofs.Decoding
import Specimen.Proofs.Sample
import Specimen.Proofs.ValueText

/-!
# Names and their texts

The text of a name tells the name: which relative names it consists of, which attributes these
have, and which values. Only the type of a value is not told, and an empty bit string is written
as an empty text is.

* `kindText_inj`: a kind of attribute is told by its short name or its numbers.
* `Name.text_eq_iff`: which names have the same text.
* `Fixture.names_identified`: the same for the names in fixtures.
-/

namespace Specimen.X509

variable {c sep : Char}

/-! ## Kinds of attribute -/

/-- The characters of short names and of numbers with points between them. -/
def isKindChar (c : Char) : Bool :=
  c.isAlphanum || c == '.'

theorem isDigit_of_mem_toString {n : Nat} (h : c ∈ (toString n).toList) : c.isDigit = true := by
  rw [Nat.toString_eq_repr, Nat.repr_eq_ofList_toDigits, String.toList_ofList] at h
  exact Nat.isDigit_of_mem_toDigits (by decide) (by decide) h

theorem toList_toString_ne_nil (n : Nat) : (toString n).toList ≠ [] := by
  rw [Nat.toString_eq_repr, Nat.repr_eq_ofList_toDigits, String.toList_ofList]
  exact Nat.toDigits_ne_nil

theorem toList_toString_inj {m n : Nat} (h : (toString m).toList = (toString n).toList) :
    m = n := by
  have hdigits : Nat.toDigits 10 m = Nat.toDigits 10 n := by
    simpa [Nat.toString_eq_repr, Nat.repr_eq_ofList_toDigits] using h
  calc
    m = Nat.ofDigitChars 10 (Nat.toDigits 10 m) 0 := Nat.ofDigitChars_ten_toDigits.symm
    _ = Nat.ofDigitChars 10 (Nat.toDigits 10 n) 0 := by rw [hdigits]
    _ = n := Nat.ofDigitChars_ten_toDigits

theorem toList_text_oid (o : Oid) :
    o.text.toList = ['.'].intercalate (o.arcs.map fun n => (toString n).toList) := by
  rw [Oid.text, String.toList_intercalate, List.map_map]
  rfl

theorem mem_text_oid {o : Oid} (h : c ∈ o.text.toList) : c = '.' ∨ c.isDigit = true := by
  rw [toList_text_oid] at h
  rcases mem_intercalate h with h | ⟨a, ha, hc⟩
  · exact .inl h
  · obtain ⟨n, -, rfl⟩ := List.mem_map.1 ha
    exact .inr (isDigit_of_mem_toString hc)

/-- A path of numbers is told by its text. -/
theorem text_oid_inj {o o' : Oid} (h : o.text = o'.text) : o = o' := by
  have hpieces : ∀ ns : List Nat, ∀ a ∈ ns.map fun n => (toString n).toList,
      Guarded '.' a ∧ a ≠ [] := by
    intro ns a ha
    obtain ⟨n, -, rfl⟩ := List.mem_map.1 ha
    refine ⟨.of_forall fun c hc => ?_, toList_toString_ne_nil n⟩
    have hdigit := isDigit_of_mem_toString hc
    constructor
    · rintro rfl
      cases hdigit
    · rintro rfl
      cases hdigit
  have hmap : Function.Injective fun n : Nat => (toString n).toList :=
    fun _ _ => toList_toString_inj
  have htext := congrArg String.toList h
  rw [toList_text_oid, toList_text_oid] at htext
  have harcs := intercalate_inj_of_ne_nil (by decide) (hpieces o.arcs) (hpieces o'.arcs) htext
  cases o
  cases o'
  rw [Oid.mk.injEq]
  exact List.map_injective_iff.2 hmap harcs

theorem kindText_cases (o : Oid) :
    (o.arcs, kindText o) ∈ shortNames ∨ kindText o = o.text := by
  unfold kindText
  cases hl : shortNames.lookup o.arcs with
  | none => exact .inr rfl
  | some s =>
    obtain ⟨l₁, l₂, heq, -⟩ := List.lookup_eq_some_iff.1 hl
    exact .inl (by simp [heq])

theorem isKindChar_of_mem_kindText {o : Oid} (h : c ∈ (kindText o).toList) :
    isKindChar c = true := by
  rcases kindText_cases o with hmem | htext
  · have hnames : ∀ q ∈ shortNames, q.2.toList.all isKindChar = true := by decide +kernel
    exact List.all_eq_true.1 (hnames _ hmem) c h
  · rw [htext] at h
    rcases mem_text_oid h with rfl | hdigit
    · rfl
    · simp [isKindChar, Char.isAlphanum, hdigit]

/-- A kind of attribute is told by its short name or its numbers. -/
theorem kindText_inj {o o' : Oid} (h : kindText o = kindText o') : o = o' := by
  have hletter : ∀ q ∈ shortNames, ∀ o : Oid, q.2 ≠ o.text := by
    intro q hq o hqo
    have hnames : ∀ q ∈ shortNames,
        q.2.toList.any (fun c => c != '.' && !c.isDigit) = true := by decide +kernel
    obtain ⟨c, hc, hother⟩ := List.any_eq_true.1 (hnames q hq)
    rw [hqo] at hc
    rcases mem_text_oid hc with rfl | hdigit
    · exact absurd hother (by decide)
    · simp [hdigit] at hother
  rcases kindText_cases o with hmem | htext <;> rcases kindText_cases o' with hmem' | htext'
  · have hnames : ∀ q ∈ shortNames, ∀ q' ∈ shortNames, q.2 = q'.2 → q.1 = q'.1 := by decide +kernel
    have harcs := hnames _ hmem _ hmem' h
    cases o
    cases o'
    rw [Oid.mk.injEq]
    exact harcs
  · exact absurd (h.trans htext') (hletter _ hmem o')
  · exact absurd (h.symm.trans htext) (hletter _ hmem' o)
  · exact text_oid_inj (htext.symm.trans (h.trans htext'))

theorem guarded_kindText (hsep : isKindChar sep = false) (o : Oid) :
    Guarded sep (kindText o).toList := by
  refine .of_forall fun c hc => ?_
  have hkind := isKindChar_of_mem_kindText hc
  constructor
  · rintro rfl
    cases hkind
  · rintro rfl
    rw [hsep] at hkind
    cases hkind

/-! ## Attributes -/

/-- An attribute with its value normal. -/
def Attribute.normal (a : Attribute) : Attribute :=
  { a with value := a.value.normal }

theorem Attribute.toList_text (a : Attribute) :
    a.text.toList = (kindText a.kind).toList ++ '=' :: valueText a.value := by
  simp [Attribute.text]

theorem Attribute.text_ne_nil (a : Attribute) : a.text.toList ≠ [] := by
  rw [toList_text]
  simp

/-- An attribute is told by its text: the first equals sign ends the kind. -/
theorem Attribute.text_eq_iff {a b : Attribute} : a.text = b.text ↔ a.normal = b.normal := by
  obtain ⟨o, v⟩ := a
  obtain ⟨o', w⟩ := b
  rw [← String.toList_inj, toList_text, toList_text, Attribute.normal, Attribute.normal,
    Attribute.mk.injEq, ← valueText_eq_iff]
  constructor
  · intro h
    have hguarded : ∀ o : Oid, Guarded '=' (kindText o).toList := guarded_kindText rfl
    obtain ⟨hkind, hvalue⟩ := Guarded.append_inj (by decide) (hguarded o) (hguarded o')
      (by simp) (by simp) h
    exact ⟨kindText_inj (String.toList_inj.1 hkind), (List.cons.inj hvalue).2⟩
  · rintro ⟨rfl, hvalue⟩
    show _ ++ '=' :: valueText v = _ ++ '=' :: valueText w
    rw [hvalue]

theorem Attribute.guarded_text (hkind : isKindChar sep = false) (hsep : isSpecial sep = true)
    (a : Attribute) : Guarded sep a.text.toList := by
  have hne : '=' ≠ sep := by
    rintro rfl
    cases hsep
  rw [toList_text]
  exact (guarded_kindText hkind _).append (.plain (by decide) hne (guarded_valueText hsep _))

/-! ## Names -/

/-- A relative name with its values normal. -/
def RelativeName.normal (as : RelativeName) : RelativeName :=
  as.map Attribute.normal

/-- A name with its values normal. -/
def Name.normal (n : Name) : Name :=
  n.map RelativeName.normal

/-- Lists are told apart by the images of their elements as the elements are. -/
theorem map_eq_map_iff {α β γ : Type} {f : α → β} {g : α → γ} {as bs : List α}
    (h : ∀ a ∈ as, ∀ b ∈ bs, (f a = f b ↔ g a = g b)) :
    as.map f = bs.map f ↔ as.map g = bs.map g := by
  induction as generalizing bs with
  | nil => simp [eq_comm]
  | cons a as ih =>
    cases bs with
    | nil => simp
    | cons b bs =>
      have hhead := h a (by simp) b (by simp)
      have htail : as.map f = bs.map f ↔ as.map g = bs.map g := ih fun a ha b hb =>
        h a (List.mem_cons_of_mem _ ha) b (List.mem_cons_of_mem _ hb)
      simp only [List.map_cons, List.cons.injEq, hhead, htail]

theorem RelativeName.toList_text (as : RelativeName) :
    (RelativeName.text as).toList = ['+'].intercalate (as.map fun a => a.text.toList) := by
  rw [RelativeName.text, String.toList_intercalate, List.map_map]
  rfl

/-- A relative name is told by its text, unless it has no attribute. -/
theorem RelativeName.text_eq_iff {as bs : RelativeName} (hane : as ≠ []) (hbne : bs ≠ []) :
    RelativeName.text as = RelativeName.text bs ↔ as.normal = bs.normal := by
  have hguarded : ∀ l : RelativeName, ∀ x ∈ l.map fun a => a.text.toList, Guarded '+' x := by
    intro l x hx
    obtain ⟨a, -, rfl⟩ := List.mem_map.1 hx
    exact a.guarded_text rfl rfl
  have hpieces : as.map (fun a => a.text.toList) = bs.map (fun a => a.text.toList) ↔
      as.normal = bs.normal :=
    map_eq_map_iff fun a _ b _ => String.toList_inj.trans Attribute.text_eq_iff
  rw [← hpieces, ← String.toList_inj, toList_text, toList_text]
  refine ⟨fun h => ?_, fun h => by rw [h]⟩
  exact intercalate_inj (by decide) (hguarded as) (hguarded bs) (by simpa using hane)
    (by simpa using hbne) h

theorem RelativeName.text_ne_nil {as : RelativeName} (hne : as ≠ []) :
    (RelativeName.text as).toList ≠ [] := by
  obtain ⟨a, as, rfl⟩ := List.exists_cons_of_ne_nil hne
  rw [toList_text, List.map_cons, intercalate_cons_eq]
  exact List.append_ne_nil_of_left_ne_nil a.text_ne_nil _

theorem RelativeName.guarded_text (as : RelativeName) :
    Guarded ',' (RelativeName.text as).toList := by
  rw [toList_text]
  refine .intercalate (by decide) (by decide) fun x hx => ?_
  obtain ⟨a, -, rfl⟩ := List.mem_map.1 hx
  exact a.guarded_text rfl rfl

theorem Name.toList_text (n : Name) : (Name.text n).toList =
    [','].intercalate (n.reverse.map fun as => (RelativeName.text as).toList) := by
  rw [Name.text, String.toList_intercalate, List.map_map]
  rfl

/-- A name is told by its text, if no relative name is without attributes. -/
theorem Name.text_eq_iff {m n : Name} (hm : ∀ as ∈ m, as ≠ []) (hn : ∀ as ∈ n, as ≠ []) :
    Name.text m = Name.text n ↔ m.normal = n.normal := by
  have hguarded : ∀ l : Name, (∀ as ∈ l, as ≠ []) →
      ∀ x ∈ l.reverse.map fun as => (RelativeName.text as).toList, Guarded ',' x ∧ x ≠ [] := by
    intro l hl x hx
    obtain ⟨as, has, rfl⟩ := List.mem_map.1 hx
    exact ⟨RelativeName.guarded_text as,
      RelativeName.text_ne_nil (hl as (List.mem_reverse.1 has))⟩
  have hpieces : m.map (fun as => (RelativeName.text as).toList) =
      n.map (fun as => (RelativeName.text as).toList) ↔ m.normal = n.normal :=
    map_eq_map_iff fun as has bs hbs =>
      String.toList_inj.trans (RelativeName.text_eq_iff (hm as has) (hn bs hbs))
  rw [← hpieces, ← String.toList_inj, toList_text, toList_text]
  constructor
  · intro h
    have hrev := intercalate_inj_of_ne_nil (by decide) (hguarded m hm) (hguarded n hn) h
    rwa [List.map_reverse, List.map_reverse, List.reverse_inj] at hrev
  · intro h
    rw [List.map_reverse, List.map_reverse, h]

/-- A text that can be given is the text of the decoded name. -/
theorem Name.exists_of_text {raw : RawName} {s : String}
    (h : (Name.ofRaw raw).map Name.text = .ok s) :
    ∃ n, Name.ofRaw raw = .ok n ∧ s = Name.text n := by
  cases hn : Name.ofRaw raw with
  | error flaw =>
    rw [hn] at h
    cases h
  | ok n =>
    rw [hn] at h
    cases h
    exact ⟨n, rfl, rfl⟩

end Specimen.X509

namespace Specimen.Fixture

open X509

/-- The texts in a fixture are those of the decoded names, all of whose relative names have
attributes. -/
theorem exists_names {pem : String} {c : Certificate} {f : Fixture}
    (h : ofCertificate pem c = .ok f) :
    ∃ subject issuer : Name, Name.ofRaw c.subject = .ok subject ∧ Name.ofRaw c.issuer = .ok issuer ∧
      f.subject = .text subject.text ∧ f.issuer = .text issuer.text ∧
      (∀ as ∈ subject, as ≠ []) ∧ ∀ as ∈ issuer, as ≠ [] := by
  obtain ⟨-, -, ⟨s, hs, hfs⟩, ⟨i, hi, hfi⟩, -, -⟩ := ofCertificate_eq_ok_iff.1 h
  obtain ⟨subject, hsubject, rfl⟩ := Name.exists_of_text hs
  obtain ⟨issuer, hissuer, rfl⟩ := Name.exists_of_text hi
  exact ⟨subject, issuer, hsubject, hissuer, hfs, hfi, Name.ne_nil_of_ofRaw hsubject,
    Name.ne_nil_of_ofRaw hissuer⟩

/-- Two fixtures have the same subject exactly if the decoded subjects have the same relative names
with the same attributes, an empty bit string being no other value than an empty text. So it is
with the issuers. -/
theorem names_identified {pem pem' : String} {c c' : Certificate} {f f' : Fixture}
    (h : ofCertificate pem c = .ok f) (h' : ofCertificate pem' c' = .ok f') :
    ∃ subject issuer subject' issuer' : Name,
      Name.ofRaw c.subject = .ok subject ∧ Name.ofRaw c.issuer = .ok issuer ∧
      Name.ofRaw c'.subject = .ok subject' ∧ Name.ofRaw c'.issuer = .ok issuer' ∧
      (f.subject = f'.subject ↔ subject.normal = subject'.normal) ∧
      (f.issuer = f'.issuer ↔ issuer.normal = issuer'.normal) := by
  obtain ⟨s, i, hs, hi, hfs, hfi, hsne, hine⟩ := exists_names h
  obtain ⟨s', i', hs', hi', hfs', hfi', hsne', hine'⟩ := exists_names h'
  refine ⟨s, i, s', i', hs, hi, hs', hi', ?_, ?_⟩
  · rw [hfs, hfs', Value.text.injEq]
    exact Name.text_eq_iff hsne hsne'
  · rw [hfi, hfi', Value.text.injEq]
    exact Name.text_eq_iff hine hine'

/-- A text that looks like a bit string in hex is not taken for one, but an empty text is. -/
theorem names_identified_sample :
    ∃ (c c' : Certificate) (f f' : Fixture),
      Certificate.ofDer c.der = .ok c ∧ Certificate.ofDer c'.der = .ok c' ∧
      ofCertificate "" c = .ok f ∧ ofCertificate "" c' = .ok f' ∧
      f.subject = f'.subject ∧ c.subject ≠ c'.subject ∧ f.issuer ≠ f'.issuer := by
  let c := Sample.identified [0x01] 0x0C (Octets.ofAscii "#41") []
  let c' := Sample.identified [0x01] 0x03 [0x41] []
  have hf : (ofCertificate "" c).isOk = true := by decide +kernel
  have hf' : (ofCertificate "" c').isOk = true := by decide +kernel
  obtain ⟨f, hf⟩ := isOk_iff_exists.1 hf
  obtain ⟨f', hf'⟩ := isOk_iff_exists.1 hf'
  obtain ⟨s, i, s', i', hs, hi, hs', hi', hsubject, hissuer⟩ := names_identified hf hf'
  have ht : Name.ofRaw c.subject = .ok [[⟨uniqueIdentifier, .text ""⟩]] := by decide +kernel
  have ht' : Name.ofRaw c'.subject = .ok [[⟨uniqueIdentifier, .bits []⟩]] := by decide +kernel
  have hj : Name.ofRaw c.issuer = .ok [[⟨uniqueIdentifier, .text "#41"⟩]] := by decide +kernel
  have hj' : Name.ofRaw c'.issuer = .ok [[⟨uniqueIdentifier, .bits [0x41]⟩]] := by decide +kernel
  obtain rfl := Except.ok.inj (hs.symm.trans ht)
  obtain rfl := Except.ok.inj (hs'.symm.trans ht')
  obtain rfl := Except.ok.inj (hi.symm.trans hj)
  obtain rfl := Except.ok.inj (hi'.symm.trans hj')
  refine ⟨c, c', f, f', by decide +kernel, by decide +kernel, hf, hf', hsubject.2 rfl,
    by decide +kernel, fun h => ?_⟩
  exact absurd (hissuer.1 h) (by decide +kernel)

end Specimen.Fixture
