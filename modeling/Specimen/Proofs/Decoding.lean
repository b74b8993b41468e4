import Specimen.Proofs.Load

/-!
# How the names of a certificate are decoded

A name is decoded from the left, relative name by relative name and attribute by attribute, and
the first rule that is broken ends it.

* `mapM_eq_error_iff`: a list is refused for the first element that is.
* `Name.ofRaw_eq_misplaced_iff`: when a bit string in the wrong attribute ends the decoding.
* `Name.ne_nil_of_ofRaw`: a decoded relative name has an attribute.
-/

namespace Specimen

section Lists

variable {ε α β : Type} {f : α → Except ε β} {x : α} {l : List α}

theorem mapM_cons_of_error {e : ε} (hx : f x = .error e) : (x :: l).mapM f = .error e := by
  rw [List.mapM_cons, hx]
  rfl

theorem mapM_cons_of_ok {b : β} (hx : f x = .ok b) :
    (x :: l).mapM f = (l.mapM f).map (b :: ·) := by
  rw [List.mapM_cons, hx]
  cases l.mapM f <;> rfl

/-- A list is refused for its first element that is refused. -/
theorem mapM_eq_error_iff {e : ε} : l.mapM f = .error e ↔
    ∃ front a back, l = front ++ a :: back ∧ (∀ y ∈ front, (f y).isOk = true) ∧ f a = .error e := by
  induction l with
  | nil =>
    constructor
    · nofun
    · rintro ⟨front, a, back, h, -⟩
      simp at h
  | cons x l ih =>
    cases hx : f x with
    | error e' =>
      rw [mapM_cons_of_error hx]
      constructor
      · intro h
        exact ⟨[], x, l, rfl, nofun, hx.trans (congrArg Except.error (Except.error.inj h))⟩
      · rintro ⟨front, a, back, h, hfront, ha⟩
        cases front with
        | nil =>
          obtain ⟨rfl, rfl⟩ := List.cons.inj h
          exact congrArg Except.error (Except.error.inj (hx.symm.trans ha))
        | cons y front =>
          obtain ⟨rfl, -⟩ := List.cons.inj h
          have hy := hfront x (by simp)
          rw [hx] at hy
          cases hy
    | ok b =>
      have hrest : (x :: l).mapM f = .error e ↔ l.mapM f = .error e := by
        rw [mapM_cons_of_ok hx]
        cases l.mapM f with
        | error e' => exact Iff.rfl
        | ok bs => exact iff_of_false nofun nofun
      rw [hrest, ih]
      constructor
      · rintro ⟨front, a, back, rfl, hfront, ha⟩
        refine ⟨x :: front, a, back, rfl, ?_, ha⟩
        intro y hy
        rcases List.mem_cons.1 hy with rfl | hy
        · rw [hx]
          rfl
        · exact hfront y hy
      · rintro ⟨front, a, back, h, hfront, ha⟩
        cases front with
        | nil =>
          obtain ⟨rfl, -⟩ := List.cons.inj h
          rw [hx] at ha
          cases ha
        | cons y front =>
          obtain ⟨rfl, rfl⟩ := List.cons.inj h
          exact ⟨front, a, back, rfl, fun y hy => hfront y (by simp [hy]), ha⟩

theorem exists_of_mem_mapM {l' : List β} (h : l.mapM f = .ok l') {b : β} (hb : b ∈ l') :
    ∃ a ∈ l, f a = .ok b := by
  induction l generalizing l' with
  | nil =>
    cases h
    simp at hb
  | cons x l ih =>
    cases hx : f x with
    | error e =>
      rw [mapM_cons_of_error hx] at h
      cases h
    | ok c =>
      rw [mapM_cons_of_ok hx] at h
      cases hl : l.mapM f with
      | error e =>
        rw [hl] at h
        cases h
      | ok cs =>
        rw [hl] at h
        cases h
        rcases List.mem_cons.1 hb with rfl | hb
        · exact ⟨x, by simp, hx⟩
        · obtain ⟨a, ha, hab⟩ := ih hl hb
          exact ⟨a, by simp [ha], hab⟩

end Lists

namespace X509

/-- The value of an attribute other than the unique identifier is a bit string. -/
def RawAttribute.IsMisplaced (a : RawAttribute) : Prop :=
  a.value.tag = .bitString ∧ a.kind ≠ uniqueIdentifier

theorem Attribute.ofRaw_eq_misplaced_iff {a : RawAttribute} :
    Attribute.ofRaw a = .error .misplacedBits ↔ a.IsMisplaced := by
  unfold Attribute.ofRaw AttributeValue.ofRaw RawAttribute.IsMisplaced
  by_cases ht : a.value.tag = .bitString
  · by_cases hk : a.kind = uniqueIdentifier
    · simp [ht, hk, Except.map]
    · simp [ht, hk, Except.map]
  · have hne : ∀ e : Except NameFlaw AttributeValue, e ≠ .error .misplacedBits →
        e.map (⟨a.kind, ·⟩ : AttributeValue → Attribute) ≠ .error .misplacedBits := by
      intro e he h
      cases e with
      | ok v => cases h
      | error flaw =>
        cases h
        exact he rfl
    refine iff_of_false ?_ fun h => ht h.1
    rw [if_neg ht]
    apply hne
    split
    · split
      · nofun
      · split
        · nofun
        · nofun
      · nofun
    · nofun

/-- Decoding a relative name comes upon a misplaced bit string, all attributes in front of it being
in order. How many attributes there are, and whether two are the same, is looked at later. -/
def RelativeName.MisplacesBits (as : List RawAttribute) : Prop :=
  ∃ front a back, as = front ++ a :: back ∧ (∀ x ∈ front, (Attribute.ofRaw x).isOk = true) ∧
    a.IsMisplaced

/-- Decoding a name comes upon a misplaced bit string, all relative names in front of it being in
order. -/
def Name.MisplacesBits (n : RawName) : Prop :=
  ∃ front as back, n = front ++ as :: back ∧
    (∀ x ∈ front, (RelativeName.ofRaw x).isOk = true) ∧ RelativeName.MisplacesBits as

/-- The attributes are decoded, then counted and compared. -/
theorem RelativeName.ofRaw_eq_bind (as : List RawAttribute) :
    RelativeName.ofRaw as = (as.mapM Attribute.ofRaw).bind fun bs =>
      if bs.isEmpty then .error .empty
      else if !RelativeName.isSet bs then .error .duplicate else .ok bs := rfl

theorem RelativeName.ofRaw_eq_misplaced_iff {as : List RawAttribute} :
    RelativeName.ofRaw as = .error .misplacedBits ↔ RelativeName.MisplacesBits as := by
  have hdecode : RelativeName.ofRaw as = .error .misplacedBits ↔
      as.mapM Attribute.ofRaw = .error .misplacedBits := by
    rw [RelativeName.ofRaw_eq_bind]
    cases as.mapM Attribute.ofRaw with
    | error flaw => exact Iff.rfl
    | ok bs =>
      refine iff_of_false ?_ nofun
      show ¬ (if bs.isEmpty then _ else if !RelativeName.isSet bs then _ else _) = _
      split
      · nofun
      · split <;> nofun
  rw [hdecode, mapM_eq_error_iff]
  simp only [Attribute.ofRaw_eq_misplaced_iff, RelativeName.MisplacesBits]

/-- A bit string in the wrong attribute ends the decoding of a name if everything in front of it
can be decoded. -/
theorem Name.ofRaw_eq_misplaced_iff {n : RawName} :
    Name.ofRaw n = .error .misplacedBits ↔ Name.MisplacesBits n := by
  unfold Name.ofRaw
  rw [mapM_eq_error_iff]
  simp only [RelativeName.ofRaw_eq_misplaced_iff, Name.MisplacesBits]

theorem RelativeName.ne_nil_of_ofRaw {as : List RawAttribute} {r : RelativeName}
    (h : RelativeName.ofRaw as = .ok r) : r ≠ [] := by
  rw [RelativeName.ofRaw_eq_bind] at h
  cases hm : as.mapM Attribute.ofRaw with
  | error flaw =>
    rw [hm] at h
    cases h
  | ok bs =>
    rw [hm] at h
    cases bs with
    | nil => cases h
    | cons b bs =>
      change (if !RelativeName.isSet (b :: bs) then _ else _) = _ at h
      split at h
      · cases h
      · cases h
        exact List.cons_ne_nil b bs

/-- No relative name of a decoded name is empty. -/
theorem Name.ne_nil_of_ofRaw {raw : RawName} {n : Name} (h : Name.ofRaw raw = .ok n) :
    ∀ r ∈ n, r ≠ [] := by
  intro r hr
  obtain ⟨as, -, has⟩ := exists_of_mem_mapM h hr
  exact RelativeName.ne_nil_of_ofRaw has

end X509

end Specimen
