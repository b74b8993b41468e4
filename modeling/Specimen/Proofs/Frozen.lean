import Specimen.Fixture
import Specimen.Register

/-!
# Fixtures stay as they are

A fixture is made from its six fields if its encoding counts as true. It is never changed after
that: to set or to remove something is refused, and replacing fields makes another fixture, which
has to pass the same check. Several fixtures stand here in the order in which they came about, so
that what becomes of one can be told from what becomes of the others.

* `ofFields_eq_ok_iff`, `ofFields_of_complete`: from what fields a fixture is made.
* `replace_eq_ok_iff`, `replace_cases`: what replacing gives, and when it is refused.
* `actOn_cases`, `isPrefix_actAllOn`: one action on a fixture among others, and a run of them.
* `actNewest_eq`: actions one after another, each on the fixture that the last one led to.
* `fixtures_stay`: what holds of every fixture after a run.
-/

namespace Specimen

theorem Field.mem_all (k : Field) : k ∈ Field.all := by
  cases k <;> decide

theorem Field.ofName?_eq_some_iff {s : String} {k : Field} :
    Field.ofName? s = some k ↔ k.name = s := by
  constructor
  · intro h
    simpa using List.find?_some h
  · rintro rfl
    cases k <;> decide

theorem Field.ofName?_eq_none_iff {s : String} :
    Field.ofName? s = none ↔ ∀ k : Field, k.name ≠ s := by
  rw [Option.eq_none_iff_forall_ne_some]
  simp [Field.ofName?_eq_some_iff]

namespace Fixture

variable {f g : Fixture} {fields changes : List (String × Value)}

/-! ## From fields -/

/-- All names are names of fields. -/
def Known (fields : List (String × Value)) : Prop :=
  ∀ p ∈ fields, ∃ k : Field, k.name = p.1

/-- All names are names of fields, and every field has a value. -/
structure Complete (fields : List (String × Value)) : Prop where
  known : Known fields
  given : ∀ k : Field, (fields.lookup k.name).isSome = true

theorem firstUnexpected?_eq_none_iff : firstUnexpected? fields = none ↔ Known fields := by
  simp [firstUnexpected?, Known, Field.ofName?_eq_none_iff]

theorem missingFields_eq_nil_iff :
    missingFields fields = [] ↔ ∀ k : Field, (fields.lookup k.name).isSome = true := by
  simp [missingFields, List.filter_eq_nil_iff, Field.mem_all]

theorem ofFields_of_not_known (h : ¬ Known fields) :
    ∃ name, ofFields fields = .error (.unexpected name) := by
  rw [← firstUnexpected?_eq_none_iff] at h
  obtain ⟨name, hname⟩ := Option.ne_none_iff_exists'.1 h
  exact ⟨name, by simp only [ofFields, hname]⟩

theorem ofFields_of_complete (h : Complete fields) :
    ofFields fields = ofValues fun k => (fields.lookup k.name).getD .none := by
  simp only [ofFields, firstUnexpected?_eq_none_iff.2 h.known, missingFields_eq_nil_iff.2 h.given]

theorem complete_of_ofFields (h : ofFields fields = .ok f) : Complete fields := by
  unfold ofFields at h
  cases hu : firstUnexpected? fields with
  | some name => simp [hu] at h
  | none =>
    cases hm : missingFields fields with
    | nil => exact ⟨firstUnexpected?_eq_none_iff.1 hu, missingFields_eq_nil_iff.1 hm⟩
    | cons k ks => simp [hu, hm] at h

/-- A fixture is made from complete fields, and has their values. -/
theorem ofFields_eq_ok_iff : ofFields fields = .ok f ↔
    Complete fields ∧ ∀ k : Field, fields.lookup k.name = some (f.get k) := by
  constructor
  · intro h
    have hc := complete_of_ofFields h
    refine ⟨hc, fun k => ?_⟩
    rw [ofFields_of_complete hc] at h
    obtain ⟨v, hv⟩ := Option.isSome_iff_exists.1 (hc.given k)
    rw [ofValues_eq_ok_iff.1 h k, hv, Option.getD_some]
  · rintro ⟨hc, hv⟩
    rw [ofFields_of_complete hc, ofValues_eq_ok_iff]
    intro k
    rw [hv k, Option.getD_some]

/-- Complete fields make a fixture if the encoding counts as true; that it does not is the only
thing that can be wrong with them. -/
theorem ofFields_cases (h : Complete fields) : ∃ v, fields.lookup Field.der.name = some v ∧
    ((v.isTruthy = true ∧ ∃ f, ofFields fields = .ok f) ∨
      v.isTruthy = false ∧ ofFields fields = .error .emptyDer) := by
  obtain ⟨v, hv⟩ := Option.isSome_iff_exists.1 (h.given .der)
  have hder : (fields.lookup Field.der.name).getD .none = v := by rw [hv, Option.getD_some]
  refine ⟨v, hv, ?_⟩
  rw [ofFields_of_complete h, ← hder]
  by_cases ht : ((fields.lookup Field.der.name).getD .none).isTruthy = true
  · exact .inl ⟨ht, _, dif_pos ht⟩
  · exact .inr ⟨by simpa using ht, dif_neg ht⟩

/-! ## Replacing -/

/-- What a fixture with some fields replaced is made from: the new values, and the old ones in all
other fields. -/
theorem lookup_replaced (f : Fixture) (changes : List (String × Value)) (k : Field) :
    (changes ++ f.toFields.filter fun p => (changes.lookup p.1).isNone).lookup k.name =
      some ((changes.lookup k.name).getD (f.get k)) := by
  have hold : f.toFields.lookup k.name = some (f.get k) := by cases k <;> rfl
  rw [List.lookup_append, lookup_filter_fst fun name => (changes.lookup name).isNone, hold]
  cases changes.lookup k.name <;> rfl

theorem complete_replaced_iff : Complete
    (changes ++ f.toFields.filter fun p => (changes.lookup p.1).isNone) ↔ Known changes := by
  constructor
  · intro h p hp
    exact h.known p (List.mem_append_left _ hp)
  · intro h
    refine ⟨fun p hp => ?_, fun k => by rw [lookup_replaced]; rfl⟩
    rcases List.mem_append.1 hp with hp | hp
    · exact h p hp
    · obtain ⟨k, -, rfl⟩ := List.mem_map.1 (List.mem_filter.1 hp).1
      exact ⟨k, rfl⟩

/-- Replacing gives the fixture that has the new values, and the old ones in all other fields. -/
theorem replace_eq_ok_iff : f.replace changes = .ok g ↔
    Known changes ∧ ∀ k : Field, g.get k = (changes.lookup k.name).getD (f.get k) := by
  unfold replace
  rw [ofFields_eq_ok_iff, complete_replaced_iff]
  simp only [lookup_replaced, Option.some.injEq, eq_comm]

/-- Replacing is refused if there is no field of some name, or if the new encoding does not count
as true. -/
theorem replace_cases (f : Fixture) (changes : List (String × Value)) :
    (∃ g, f.replace changes = .ok g) ∨
    (¬ Known changes ∧ ∃ name, f.replace changes = .error (.unexpected name)) ∨
    Known changes ∧ (∃ v, changes.lookup Field.der.name = some v ∧ v.isTruthy = false) ∧
      f.replace changes = .error .emptyDer := by
  by_cases hk : Known changes
  · obtain ⟨v, hv, hcases⟩ := ofFields_cases (complete_replaced_iff (f := f).2 hk)
    rcases hcases with ⟨-, g, hg⟩ | ⟨hfalse, he⟩
    · exact .inl ⟨g, hg⟩
    · refine .inr (.inr ⟨hk, ⟨v, ?_, hfalse⟩, he⟩)
      rw [lookup_replaced, Option.some.injEq] at hv
      cases hc : changes.lookup Field.der.name with
      | some w => rw [← hv, hc, Option.getD_some]
      | none =>
        -- The old encoding cannot be at fault.
        rw [hc, Option.getD_none] at hv
        exact absurd (hv ▸ hfalse) (by simp [get, f.der_isTruthy])
  · have hnot : ¬ Known (changes ++ f.toFields.filter fun p => (changes.lookup p.1).isNone) :=
      fun h => hk fun p hp => h p (List.mem_append_left _ hp)
    exact .inr (.inl ⟨hk, ofFields_of_not_known hnot⟩)

/-! ## One fixture among others -/

/-- The fixtures after an action on the one at a place, and the answer. What replacing gives comes
behind the others, and in all other cases the fixture stays at its place as the action leaves it. -/
def actOn (fs : List Fixture) (i : Nat) (a : Action) :
    List Fixture × Option (Except FixtureFlaw Answer) :=
  match fs[i]? with
  | none => (fs, none)
  | some f =>
    match a, f.act a with
    | .replace _, (g, .ok answer) => (fs ++ [g], some (.ok answer))
    | _, (g, answer) => (fs.set i g, some answer)

/-- The fixtures after actions one after another, each on the one at its place. -/
def actAllOn (fs : List Fixture) : List (Nat × Action) → List Fixture
  | [] => fs
  | (i, a) :: as => actAllOn (actOn fs i a).1 as

/-- The answers to actions one after another, each on the newest fixture. -/
def actNewest (fs : List Fixture) : List Action → List (Option (Except FixtureFlaw Answer))
  | [] => []
  | a :: as => (actOn fs (fs.length - 1) a).2 :: actNewest (actOn fs (fs.length - 1) a).1 as

variable {fs : List Fixture} {i : Nat} {a : Action}

theorem set_self (h : fs[i]? = some f) : fs.set i f = fs := by
  obtain ⟨hi, rfl⟩ := List.getElem?_eq_some_iff.1 h
  exact List.set_getElem_self hi

/-- An action that does not replace leaves all fixtures as they are. -/
theorem actOn_of_not_replace (h : fs[i]? = some f) (ha : ∀ changes, a ≠ .replace changes) :
    actOn fs i a = (fs, some (f.act a).2) := by
  have hact := act_fst f a ha
  unfold actOn
  cases a with
  | replace changes => exact absurd rfl (ha changes)
  | _ => simp only [h, hact, set_self h]

theorem actOn_replace_of_ok (h : fs[i]? = some f) (hg : f.replace changes = .ok g) :
    actOn fs i (.replace changes) = (fs ++ [g], some (.ok (.text g.display))) := by
  simp only [actOn, h, act, hg]

theorem actOn_replace_of_error {flaw : FixtureFlaw} (h : fs[i]? = some f)
    (hg : f.replace changes = .error flaw) :
    actOn fs i (.replace changes) = (fs, some (.error flaw)) := by
  simp only [actOn, h, act, hg, set_self h]

/-- An action leaves all fixtures as they are, and at most adds one. -/
theorem actOn_cases (fs : List Fixture) (i : Nat) (a : Action) :
    (actOn fs i a).1 = fs ∨ ∃ g, (actOn fs i a).1 = fs ++ [g] := by
  cases h : fs[i]? with
  | none => exact .inl (by simp only [actOn, h])
  | some f =>
    cases a with
    | replace changes =>
      cases hg : f.replace changes with
      | ok g => exact .inr ⟨g, by rw [actOn_replace_of_ok h hg]⟩
      | error flaw => exact .inl (by rw [actOn_replace_of_error h hg])
    | _ => exact .inl (by rw [actOn_of_not_replace h (by simp)])

theorem isPrefix_actAllOn (fs : List Fixture) (as : List (Nat × Action)) :
    fs <+: actAllOn fs as := by
  induction as generalizing fs with
  | nil => exact List.prefix_refl fs
  | cons p as ih =>
    obtain ⟨i, a⟩ := p
    have hfirst : fs <+: (actOn fs i a).1 := by
      rcases actOn_cases fs i a with h | ⟨g, h⟩
      · exact ⟨[], by rw [h, List.append_nil]⟩
      · exact ⟨[g], h.symm⟩
    exact hfirst.trans (ih _)

/-- A fixture stays where it is, with all its fields, whatever is done with it and with others. -/
theorem getElem?_actAllOn (h : fs[i]? = some f) (as : List (Nat × Action)) :
    (actAllOn fs as)[i]? = some f := by
  obtain ⟨made, hmade⟩ := isPrefix_actAllOn fs as
  obtain ⟨hi, -⟩ := List.getElem?_eq_some_iff.1 h
  rw [← hmade, List.getElem?_append_left hi, h]

/-- Actions one after another are the actions on the newest fixture. -/
theorem actNewest_eq (fs : List Fixture) (f : Fixture) (as : List Action) :
    actNewest (fs ++ [f]) as = (f.actAll as).map some := by
  induction as generalizing fs f with
  | nil => rfl
  | cons a as ih =>
    have hlast : (fs ++ [f])[(fs ++ [f]).length - 1]? = some f := by simp
    rw [actNewest, actAll, List.map_cons]
    by_cases ha : ∃ changes, a = .replace changes
    · obtain ⟨changes, rfl⟩ := ha
      cases hg : f.replace changes with
      | ok g => simp only [actOn_replace_of_ok hlast hg, act, hg, ih]
      | error flaw => simp only [actOn_replace_of_error hlast hg, act, hg, ih]
    · have hnot : ∀ changes, a ≠ .replace changes := fun changes h => ha ⟨changes, h⟩
      simp only [actOn_of_not_replace hlast hnot, act_fst f a hnot, ih]

/-! ## What holds of every fixture -/

/-- The text of a fixture leaves out the armoured text and the encoding. -/
theorem display_congr (h : ∀ k, k ≠ .pem → k ≠ .der → f.get k = g.get k) :
    f.display = g.display := by
  have hsubject := h .subject (by simp) (by simp)
  have hissuer := h .issuer (by simp) (by simp)
  have hserial := h .serialNumber (by simp) (by simp)
  have hfingerprint := h .sha256Fingerprint (by simp) (by simp)
  unfold display
  simp only [List.map_cons, hsubject, hissuer, hserial, hfingerprint, List.map_nil]

/-- A fixture among others is frozen: its encoding counts as true, nothing can be set or removed,
looking at it and comparing it do nothing, and replacing either does nothing but complain or makes
a further fixture, which differs in the named fields alone. -/
structure FrozenAt (fs : List Fixture) (i : Nat) (f : Fixture) : Prop where
  truthy : f.der.isTruthy = true
  kept : ∀ a, (∀ changes, a ≠ .replace changes) → (actOn fs i a).1 = fs
  set : ∀ name, ∃ flaw, actOn fs i (.set name) = (fs, some (.error flaw))
  delete : ∀ name, ∃ flaw, actOn fs i (.delete name) = (fs, some (.error flaw))
  replaced : ∀ changes, Known changes →
    (∀ v, changes.lookup Field.der.name = some v → v.isTruthy = true) →
    ∃ g, actOn fs i (.replace changes) = (fs ++ [g], some (.ok (.text g.display))) ∧
      ∀ k : Field, g.get k = (changes.lookup k.name).getD (f.get k)
  unknown : ∀ changes, ¬ Known changes →
    ∃ name, actOn fs i (.replace changes) = (fs, some (.error (.unexpected name)))
  emptied : ∀ changes v, Known changes → changes.lookup Field.der.name = some v →
    v.isTruthy = false → actOn fs i (.replace changes) = (fs, some (.error .emptyDer))

theorem frozenAt (h : fs[i]? = some f) : FrozenAt fs i f where
  truthy := f.der_isTruthy
  kept a ha := by rw [actOn_of_not_replace h ha]
  set name := ⟨_, actOn_of_not_replace h (by simp)⟩
  delete name := ⟨_, actOn_of_not_replace h (by simp)⟩
  replaced changes hknown hder := by
    rcases replace_cases f changes with ⟨g, hg⟩ | ⟨hnot, -⟩ | ⟨-, ⟨v, hv, hfalse⟩, -⟩
    · exact ⟨g, actOn_replace_of_ok h hg, (replace_eq_ok_iff.1 hg).2⟩
    · exact absurd hknown hnot
    · exact absurd (hder v hv) (by simp [hfalse])
  unknown changes hnot := by
    rcases replace_cases f changes with ⟨g, hg⟩ | ⟨-, name, he⟩ | ⟨hknown, -⟩
    · exact absurd (replace_eq_ok_iff.1 hg).1 hnot
    · exact ⟨name, actOn_replace_of_error h he⟩
    · exact absurd hknown hnot
  emptied changes v hknown hv hfalse := by
    rcases replace_cases f changes with ⟨g, hg⟩ | ⟨hnot, -⟩ | ⟨-, -, he⟩
    · have hder : g.der = v := by
        rw [← Option.getD_some (a := v) (b := f.get .der), ← hv]
        exact (replace_eq_ok_iff.1 hg).2 .der
      exact absurd g.der_isTruthy (by simp [hder, hfalse])
    · exact absurd hknown hnot
    · exact actOn_replace_of_error h he

/-- **Fixtures stay as they are.** Complete fields make a fixture with their values, exactly if the
encoding counts as true; it is told if it does not. Whatever is done with some fixtures and with
what comes of them, each of them is still there with the fields that it had, all of them are
frozen, and the run in which each action is on the newest one is that of the actions one after
another. Fixtures that differ only in the armoured text and the encoding have the same text. -/
theorem fixtures_stay (fs : List Fixture) (as : List (Nat × Action)) :
    (∀ fields, Complete fields → ∃ v, fields.lookup Field.der.name = some v ∧
      (v.isTruthy = true ∧
          (∃ f, ofFields fields = .ok f ∧ ∀ k : Field, fields.lookup k.name = some (f.get k)) ∨
        v.isTruthy = false ∧ ofFields fields = .error .emptyDer)) ∧
    (∀ (i : Nat) f, fs[i]? = some f → (actAllOn fs as)[i]? = some f) ∧
    (∀ (i : Nat) f, (actAllOn fs as)[i]? = some f → FrozenAt (actAllOn fs as) i f) ∧
    (∀ f later, actNewest [f] later = (f.actAll later).map some) ∧
    ∀ f g : Fixture, (∀ k, k ≠ .pem → k ≠ .der → f.get k = g.get k) → f.display = g.display := by
  refine ⟨fun fields h => ?_, fun i f h => getElem?_actAllOn h as, fun i f h => frozenAt h,
    fun f later => ?_, fun f g h => display_congr h⟩
  · obtain ⟨v, hv, ⟨ht, f, hf⟩ | hfalse⟩ := ofFields_cases h
    · exact ⟨v, hv, .inl ⟨ht, f, hf, (ofFields_eq_ok_iff.1 hf).2⟩⟩
    · exact ⟨v, hv, .inr hfalse⟩
  · rw [← actNewest_eq [] f later, List.nil_append]

/-- Fields with a given encoding. -/
def fieldsSample (der : Value) : List (String × Value) :=
  [("der", der), ("pem", .text "P"), ("subject", .text "CN=a"), ("issuer", .text "CN=b"),
    ("serial_number", .text "0x1"), ("sha256_fingerprint", .text "00")]

/-- The fixture with the octets 30 00 for an encoding. -/
def fixtureSample : Fixture :=
  ⟨.text "P", .ofOctets [0x30, 0x00], .text "CN=a", .text "CN=b", .text "0x1", .text "00", rfl⟩

/-- Refused actions, then one field replaced, and refused actions on both fixtures. -/
def actionsSample : List (Nat × Fixture.Action) :=
  [(0, .set "der"), (0, .replace [("der", .octets .array [])]), (0, .replace [("self", .none)]),
    (0, .replace [("subject", .text "CN=c")]), (1, .delete "subject"), (0, .set "size"),
    (1, .replace [("der", .int 0), ("issuer", .none)])]

theorem complete_fieldsSample (der : Value) : Complete (fieldsSample der) where
  known := firstUnexpected?_eq_none_iff.1 rfl
  given k := by cases k <;> rfl

theorem fixtures_stay_sample :
    (∃ f, ofFields (fieldsSample (.ofOctets [0x30, 0x00])) = .ok f) ∧
    ofFields (fieldsSample (.ofOctets [])) = .error .emptyDer ∧
    (actAllOn [fixtureSample] actionsSample)[0]? = some fixtureSample ∧
    ∃ g, (actAllOn [fixtureSample] actionsSample)[1]? = some g ∧ g.subject = .text "CN=c" ∧
      FrozenAt (actAllOn [fixtureSample] actionsSample) 1 g := by
  obtain ⟨hmade, hstays, hfrozen, -⟩ := fixtures_stay [fixtureSample] actionsSample
  refine ⟨?_, ?_, hstays 0 _ rfl, _, rfl, rfl, hfrozen 1 _ rfl⟩
  · have hcomplete := complete_fieldsSample (.ofOctets [0x30, 0x00])
    obtain ⟨v, hv, ⟨-, f, hf, -⟩ | ⟨hfalse, -⟩⟩ := hmade _ hcomplete
    · exact ⟨f, hf⟩
    · cases hv
      cases hfalse
  · obtain ⟨v, hv, ⟨htrue, -⟩ | ⟨-, he⟩⟩ := hmade _ (complete_fieldsSample (.ofOctets []))
    · cases hv
      cases htrue
    · exact he

end Fixture

end Specimen
