import Specimen.Der.Primitive

/-!
# Laws of readers

The octets in front of an element tell how far it goes: the tag ends with the first octet below
128, the length says how many octets it has itself, and the content has as many as the length
says. So an element can be read whatever follows it, and not from fewer octets.

* `SelfDelimiting`: what a reader uses tells where it ends. `SelfDelimiting.bind` puts two such
  readers one after the other.
* `SelfDelimiting.readElement`, `SelfDelimiting.within`: elements are read so, whatever reads their
  content.
* `Takes.whole_cut`, `Takes.whole_append`: a text read to its end can neither be cut nor continued.
* `Ensures`: what holds of everything that a reader reads, put together along its parts.
-/

namespace Specimen.Der

variable {α β : Type} {r : Reader α} {f : α → Reader β} {bs used rest : Octets}

/-! ## Readers one after another -/

theorem bind_apply (r : Reader α) (f : α → Reader β) (bs : Octets) :
    (r >>= f) bs = (r bs).bind fun p => f p.1 p.2 := rfl

/-- The second reader starts where the first one ends. -/
theorem bind_eq_some_iff {b : β} : (r >>= f) bs = some (b, rest) ↔
    ∃ a mid, r bs = some (a, mid) ∧ f a mid = some (b, rest) := by
  rw [bind_apply, Option.bind_eq_some_iff, Prod.exists]

theorem pure_eq_some_iff {a b : α} :
    (pure a : Reader α) bs = some (b, rest) ↔ a = b ∧ bs = rest := by
  show some (a, bs) = some (b, rest) ↔ _
  rw [Option.some.injEq, Prod.mk.injEq]

theorem failure_ne_some {p : α × Octets} : (failure : Reader α) bs ≠ some p := by
  intro h
  cases h

/-- What is read to the end leaves nothing. -/
theorem whole_eq_some_iff {a : α} : whole r bs = some a ↔ r bs = some (a, []) := by
  unfold whole
  constructor
  · intro h
    split at h
    · rename_i heq
      rwa [Option.some.inj h] at heq
    · cases h
  · intro h
    rw [show r.run bs = some (a, []) from h]

theorem contentAs_eq_bind (tag : Tag) (g : Octets → Option α) :
    contentAs tag g = content tag >>= fun c => ((g c).elim failure pure : Reader α) := by
  funext bs
  unfold contentAs
  rw [bind_apply]
  cases content tag bs with
  | none => rfl
  | some p =>
    obtain ⟨c, rest⟩ := p
    show (g c).map (·, rest) = ((g c).elim failure pure : Reader α) rest
    cases g c <;> rfl

/-! ## Readers that know where to end -/

/-- Of the octets `used` the reader needs every one, and it reads `a` from them whatever
follows. -/
structure Takes (r : Reader α) (used : Octets) (a : α) : Prop where
  reads (rest : Octets) : r (used ++ rest) = some (a, rest)
  needs {cut : Octets} : cut <+: used → cut ≠ used → r cut = none

/-- All that the reader reads is taken from the front. -/
def SelfDelimiting (r : Reader α) : Prop :=
  ∀ ⦃bs a rest⦄, r bs = some (a, rest) → ∃ used, bs = used ++ rest ∧ Takes r used a

/-- A prefix of two texts together ends within the first, or behind it. -/
theorem prefix_append_cases {cut first second : Octets} (h : cut <+: first ++ second) :
    cut <+: first ∧ cut ≠ first ∨ ∃ cut', cut' <+: second ∧ cut = first ++ cut' := by
  rcases List.prefix_or_prefix_of_prefix h (List.prefix_append first second) with h' | ⟨cut', rfl⟩
  · by_cases heq : cut = first
    · exact .inr ⟨[], List.nil_prefix, by rw [heq, List.append_nil]⟩
    · exact .inl ⟨h', heq⟩
  · exact .inr ⟨cut', (List.prefix_append_right_inj first).1 h, rfl⟩

namespace Takes

theorem pure (a : α) : Takes (Pure.pure a : Reader α) [] a where
  reads _ := rfl
  needs hcut hne := absurd (List.prefix_nil.1 hcut) hne

theorem bind {a : α} {b : β} {more : Octets} (hr : Takes r used a) (hf : Takes (f a) more b) :
    Takes (r >>= f) (used ++ more) b where
  reads rest := by
    rw [List.append_assoc]
    exact bind_eq_some_iff.2 ⟨a, more ++ rest, hr.reads _, hf.reads rest⟩
  needs := by
    intro cut hcut hne
    rcases prefix_append_cases hcut with ⟨hshort, hne'⟩ | ⟨cut', hcut', rfl⟩
    · rw [bind_apply, hr.needs hshort hne']
      rfl
    · rw [bind_apply, hr.reads]
      exact hf.needs hcut' fun h => hne (congrArg (used ++ ·) h)

/-- A text that is read to its end cannot be read to the end of any shorter part. -/
theorem whole_cut {a : α} {cut : Octets} (h : Takes r used a) (hcut : cut <+: used)
    (hne : cut ≠ used) : whole r cut = none := by
  rw [Option.eq_none_iff_forall_ne_some]
  intro b hb
  rw [whole_eq_some_iff, h.needs hcut hne] at hb
  cases hb

/-- Nor is there anything that could be added to it. -/
theorem whole_append {a : α} {more : Octets} (h : Takes r used a) (hne : more ≠ []) :
    whole r (used ++ more) = none := by
  rw [Option.eq_none_iff_forall_ne_some]
  intro b hb
  rw [whole_eq_some_iff, h.reads] at hb
  exact hne (Prod.mk.inj (Option.some.inj hb)).2

end Takes

namespace SelfDelimiting

theorem pure (a : α) : SelfDelimiting (Pure.pure a : Reader α) := by
  intro bs a' rest h
  obtain ⟨rfl, rfl⟩ := pure_eq_some_iff.1 h
  exact ⟨[], rfl, .pure a⟩

theorem failure : SelfDelimiting (failure : Reader α) := by
  intro bs a rest h
  exact absurd h failure_ne_some

theorem bind (hr : SelfDelimiting r) (hf : ∀ a, SelfDelimiting (f a)) :
    SelfDelimiting (r >>= f) := by
  intro bs b rest h
  obtain ⟨a, mid, h₁, h₂⟩ := bind_eq_some_iff.1 h
  obtain ⟨used, rfl, ha⟩ := hr h₁
  obtain ⟨more, rfl, hb⟩ := hf a h₂
  exact ⟨used ++ more, (List.append_assoc ..).symm, ha.bind hb⟩

theorem ite {c : Prop} [Decidable c] {r s : Reader α} (hr : SelfDelimiting r)
    (hs : SelfDelimiting s) : SelfDelimiting (if c then r else s) := by
  split
  · exact hr
  · exact hs

/-- A text read to its end is taken as a whole. -/
theorem takes_of_whole {a : α} (hr : SelfDelimiting r) (h : whole r bs = some a) :
    Takes r bs a := by
  obtain ⟨used, rfl, ht⟩ := hr (whole_eq_some_iff.1 h)
  rwa [List.append_nil]

end SelfDelimiting

/-! ## Single octets, and octets counted -/

/-- Reads one octet. -/
def readOctet : Reader UInt8
  | [] => none
  | b :: bs => some (b, bs)

/-- Reads a given number of octets. -/
def readOctets (n : Nat) : Reader Octets := fun bs =>
  if bs.length < n then none else some (bs.take n, bs.drop n)

theorem Takes.readOctet (b : UInt8) : Takes readOctet [b] b where
  reads _ := rfl
  needs := by
    intro cut hcut hne
    rcases List.prefix_cons_iff.1 hcut with rfl | ⟨t, rfl, ht⟩
    · rfl
    · rw [List.prefix_nil.1 ht] at hne
      exact absurd rfl hne

theorem SelfDelimiting.readOctet : SelfDelimiting readOctet := by
  intro bs b rest h
  cases bs with
  | nil => cases h
  | cons c bs =>
    obtain ⟨rfl, rfl⟩ := Prod.mk.inj (Option.some.inj h)
    exact ⟨[c], rfl, .readOctet c⟩

theorem Takes.readOctets (c : Octets) : Takes (readOctets c.length) c c where
  reads rest := by
    unfold Der.readOctets
    rw [if_neg (by rw [List.length_append]; omega), List.take_left, List.drop_left]
  needs := by
    intro cut hcut hne
    have hle := hcut.length_le
    have hlen : cut.length ≠ c.length := fun h => hne (hcut.eq_of_length h)
    exact if_pos (by omega)

theorem SelfDelimiting.readOctets (n : Nat) : SelfDelimiting (readOctets n) := by
  intro bs c rest h
  unfold Der.readOctets at h
  split at h
  · cases h
  · rename_i hn
    obtain ⟨rfl, rfl⟩ := Prod.mk.inj (Option.some.inj h)
    have hlen : (bs.take n).length = n := by
      rw [List.length_take]
      omega
    refine ⟨bs.take n, (List.take_append_drop n bs).symm, ?_⟩
    have ht := Takes.readOctets (bs.take n)
    rwa [hlen] at ht

/-! ## Tags, lengths and elements -/

theorem readBase128From_eq_bind (bound n : Nat) :
    readBase128From bound n = readOctet >>= fun b =>
      if bound ≤ n * 128 + b.toNat % 128 then failure
      else if b < 0x80 then pure (n * 128 + b.toNat % 128)
      else readBase128From bound (n * 128 + b.toNat % 128) := by
  funext bs
  cases bs with
  | nil => rfl
  | cons b bs =>
    by_cases hm : bound ≤ n * 128 + b.toNat % 128
    · simp [readBase128From, bind_apply, readOctet, hm]
      rfl
    · by_cases hb : b < 0x80
      · simp [readBase128From, bind_apply, readOctet, hm, hb]
        rfl
      · simp [readBase128From, bind_apply, readOctet, hm, hb]

/-- The number goes on behind every octet but one below 128. -/
theorem SelfDelimiting.readBase128From (bound n : Nat) :
    SelfDelimiting (readBase128From bound n) := by
  intro bs
  induction bs generalizing n with
  | nil =>
    intro k rest h
    cases h
  | cons b bs ih =>
    intro k rest h
    rw [readBase128From_eq_bind] at h ⊢
    obtain ⟨c, mid, h₁, h₂⟩ := bind_eq_some_iff.1 h
    obtain ⟨rfl, rfl⟩ := Prod.mk.inj (Option.some.inj h₁)
    by_cases hm : bound ≤ n * 128 + b.toNat % 128
    · rw [if_pos hm] at h₂
      exact absurd h₂ failure_ne_some
    · rw [if_neg hm] at h₂
      by_cases hb : b < 0x80
      · rw [if_pos hb] at h₂
        obtain ⟨rfl, rfl⟩ := pure_eq_some_iff.1 h₂
        refine ⟨[b], rfl, (Takes.readOctet b).bind ?_⟩
        rw [if_neg hm, if_pos hb]
        exact .pure _
      · rw [if_neg hb] at h₂
        obtain ⟨used, rfl, ht⟩ := ih _ h₂
        refine ⟨b :: used, rfl, (Takes.readOctet b).bind ?_⟩
        rwa [if_neg hm, if_neg hb]

theorem SelfDelimiting.readBase128 (bound : Nat) : SelfDelimiting (readBase128 bound) := by
  intro bs k rest h
  cases bs with
  | nil => cases h
  | cons b bs =>
    rw [Der.readBase128] at h
    by_cases hb : b = 0x80
    · rw [if_pos hb] at h
      cases h
    · rw [if_neg hb] at h
      obtain ⟨used, hused, ht⟩ := SelfDelimiting.readBase128From bound 0 h
      -- A number has an octet or more, and the first one is the one looked at.
      cases used with
      | nil => cases ht.reads []
      | cons c used =>
        obtain ⟨rfl, rfl⟩ := List.cons.inj hused
        refine ⟨b :: used, rfl, fun rest => ?_, ?_⟩
        · rw [List.cons_append, Der.readBase128, if_neg hb]
          exact ht.reads rest
        · intro cut hcut hne
          rcases List.prefix_cons_iff.1 hcut with rfl | ⟨t, rfl, -⟩
          · rfl
          · rw [Der.readBase128, if_neg hb]
            exact ht.needs hcut hne

theorem readTag_eq_bind : readTag = readOctet >>= fun b =>
    let constructed := decide (b.toNat / 32 % 2 = 1)
    if b.toNat % 32 = 31 then
      readBase128 (Nat.pow 2 32) >>= fun n =>
        if n < 31 then failure else pure ⟨.ofOctet b, constructed, n⟩
    else pure ⟨.ofOctet b, constructed, b.toNat % 32⟩ := by
  funext bs
  cases bs with
  | nil => rfl
  | cons b bs =>
    by_cases hlow : b.toNat % 32 = 31
    · simp only [readTag, bind_apply, readOctet, Option.bind_some, hlow, if_true]
      cases readBase128 (Nat.pow 2 32) bs with
      | none => rfl
      | some p =>
        obtain ⟨n, rest⟩ := p
        by_cases hn : n < 31
        · simp [hn]
          rfl
        · simp [hn]
          rfl
    · simp only [readTag, bind_apply, readOctet, Option.bind_some, hlow, if_false]
      rfl

theorem SelfDelimiting.readTag : SelfDelimiting readTag := by
  rw [readTag_eq_bind]
  refine .bind .readOctet fun b => .ite ?_ (.pure _)
  exact .bind (.readBase128 _) fun n => .ite .failure (.pure _)

theorem readLength_eq_bind : readLength = readOctet >>= fun b =>
    if b < 0x80 then pure b.toNat
    else
      let k := b.toNat - 0x80
      if k = 0 ∨ 4 < k then failure
      else readOctets k >>= fun c =>
        let n := Octets.toNat c
        if n < 0x80 ∨ n < Nat.pow 256 (k - 1) then failure else pure n := by
  funext bs
  cases bs with
  | nil => rfl
  | cons b bs =>
    by_cases hb : b < 0x80
    · simp only [readLength, bind_apply, readOctet, Option.bind_some, hb, if_true]
      rfl
    · simp only [readLength, bind_apply, readOctet, Option.bind_some, hb, if_false]
      by_cases hk : b.toNat - 0x80 = 0 ∨ 4 < b.toNat - 0x80
      · rw [if_pos (by omega), if_pos hk]
        rfl
      · rw [if_neg hk, bind_apply, readOctets]
        by_cases hlen : bs.length < b.toNat - 0x80
        · rw [if_pos (by omega), if_pos hlen]
          rfl
        · rw [if_neg (by omega), if_neg hlen, Option.bind_some]
          dsimp only
          split
          · rfl
          · rfl

/-- How many octets a length has is told by its first one. -/
theorem SelfDelimiting.readLength : SelfDelimiting readLength := by
  rw [readLength_eq_bind]
  refine .bind .readOctet fun b => .ite (.pure _) (.ite .failure ?_)
  exact .bind (.readOctets _) fun c => .ite .failure (.pure _)

theorem readElement_eq_bind : readElement = readTag >>= fun tag =>
    readLength >>= fun n => readOctets n >>= fun c => pure ⟨tag, c⟩ := by
  funext bs
  unfold readElement
  rw [bind_apply]
  cases readTag bs with
  | none => rfl
  | some p =>
    obtain ⟨tag, bs⟩ := p
    simp only [Option.bind_some]
    rw [bind_apply]
    cases readLength bs with
    | none => rfl
    | some p =>
      obtain ⟨n, bs⟩ := p
      simp only [Option.bind_some, bind_apply, readOctets]
      split <;> rfl

/-- How far an element goes is told by its tag and its length. -/
theorem SelfDelimiting.readElement : SelfDelimiting readElement := by
  rw [readElement_eq_bind]
  refine .bind .readTag fun tag => .bind .readLength fun n => ?_
  exact .bind (.readOctets n) fun c => .pure _

theorem content_eq_bind (tag : Tag) : content tag = readElement >>= fun e =>
    if e.tag = tag then pure e.content else failure := by
  funext bs
  unfold content
  rw [bind_apply]
  cases readElement bs with
  | none => rfl
  | some p =>
    simp only [Option.bind_some]
    split <;> rfl

theorem SelfDelimiting.content (tag : Tag) : SelfDelimiting (content tag) := by
  rw [content_eq_bind]
  exact .bind .readElement fun e => .ite (.pure _) .failure

theorem SelfDelimiting.contentAs (tag : Tag) (g : Octets → Option α) :
    SelfDelimiting (contentAs tag g) := by
  rw [contentAs_eq_bind]
  refine .bind (.content tag) fun c => ?_
  cases g c with
  | none => exact .failure
  | some a => exact .pure a

theorem SelfDelimiting.within (tag : Tag) (r : Reader α) : SelfDelimiting (within tag r) :=
  SelfDelimiting.contentAs tag (whole r)

/-! ## What is read -/

/-- Everything that the reader reads has a property. -/
def Ensures (r : Reader α) (P : α → Prop) : Prop :=
  ∀ ⦃bs a rest⦄, r bs = some (a, rest) → P a

namespace Ensures

variable {P : α → Prop} {Q : β → Prop}

theorem pure {a : α} (h : P a) : Ensures (Pure.pure a) P := by
  intro bs b rest hread
  obtain ⟨rfl, -⟩ := pure_eq_some_iff.1 hread
  exact h

/-- The second reader may rely on what the first one ensures. -/
theorem bind (hr : Ensures r P) (hf : ∀ a, P a → Ensures (f a) Q) : Ensures (r >>= f) Q := by
  intro bs b rest hread
  obtain ⟨a, mid, ha, hb⟩ := bind_eq_some_iff.1 hread
  exact hf a (hr ha) hb

/-- Nothing has to be known of what the first reader reads. -/
theorem skip (hf : ∀ a, Ensures (f a) Q) : Ensures (r >>= f) Q :=
  bind (P := fun _ => True) (fun _ _ _ _ => trivial) fun a _ => hf a

theorem whole {a : α} (hr : Ensures r P) (h : whole r bs = some a) : P a :=
  hr (whole_eq_some_iff.1 h)

theorem contentAs {tag : Tag} {g : Octets → Option α} (hg : ∀ c a, g c = some a → P a) :
    Ensures (contentAs tag g) P := by
  rw [contentAs_eq_bind]
  refine .skip fun c => ?_
  cases hc : g c with
  | none => exact fun _ _ _ hread => absurd hread failure_ne_some
  | some a => exact .pure (hg c a hc)

theorem within {tag : Tag} (hr : Ensures r P) : Ensures (within tag r) P :=
  .contentAs fun _ _ hread => hr.whole hread

end Ensures

end Specimen.Der
