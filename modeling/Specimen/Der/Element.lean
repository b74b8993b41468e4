import Specimen.Octets

/-!
# Elements of the distinguished encoding

An element is a tag, a length and as many octets of content. Tags and lengths have one encoding
each: a long tag only for numbers from 31 on, a long length only where the short one does not do,
and neither with leading zeros. Readers take an octet string and give what they read with the
octets after it.

* `readElement_split` — an element read and the rest make up the text.
* `whole` — reads a text to its end.
-/

namespace Specimen.Der

/-- A reader of the beginning of an octet string. -/
abbrev Reader := StateT Octets Option

/-- What a reader reads from a text that it uses up. -/
def whole (r : Reader α) (bs : Octets) : Option α :=
  match r.run bs with
  | some (a, []) => some a
  | _ => none

/-- The class of a tag. -/
inductive TagClass where
  | universal
  | application
  | context
  | secret
  deriving DecidableEq, Repr

/-- A tag: its class, whether the content consists of elements, and its number. -/
structure Tag where
  tagClass : TagClass
  constructed : Bool
  number : Nat
  deriving DecidableEq, Repr

namespace Tag

/-- A universal tag whose content is no list of elements. -/
def primitive (n : Nat) : Tag := ⟨.universal, false, n⟩

/-- A context tag around elements. -/
def contextOuter (n : Nat) : Tag := ⟨.context, true, n⟩

/-- A context tag in place of a primitive one. -/
def contextInner (n : Nat) : Tag := ⟨.context, false, n⟩

def boolean : Tag := primitive 1
def integer : Tag := primitive 2
def bitString : Tag := primitive 3
def octetString : Tag := primitive 4
def null : Tag := primitive 5
def oid : Tag := primitive 6
def utcTime : Tag := primitive 23
def generalizedTime : Tag := primitive 24
def sequence : Tag := ⟨.universal, true, 16⟩
def set : Tag := ⟨.universal, true, 17⟩

end Tag

/-- A tag with its content. -/
structure Element where
  tag : Tag
  content : Octets
  deriving DecidableEq, Repr

/-- Reads a number in base 128, the high bit marking every octet but the last, `n` read so far.
The number has to stay below `bound`. -/
def readBase128From (bound n : Nat) : Octets → Option (Nat × Octets)
  | [] => none
  | b :: bs =>
    let m := n * 128 + b.toNat % 128
    if bound ≤ m then none
    else if b < 0x80 then some (m, bs)
    else readBase128From bound m bs

/-- Reads a number below `bound` in base 128 without leading zeros. -/
def readBase128 (bound : Nat) : Octets → Option (Nat × Octets)
  | [] => none
  | b :: bs => if b = 0x80 then none else readBase128From bound 0 (b :: bs)

/-- The class that the two high bits of a tag octet tell. -/
def TagClass.ofOctet (b : UInt8) : TagClass :=
  if b < 0x40 then .universal
  else if b < 0x80 then .application
  else if b < 0xC0 then .context
  else .secret

/-- Reads a tag. Numbers from 31 on stand in base 128 after the first octet. -/
def readTag : Reader Tag
  | [] => none
  | b :: bs =>
    let constructed := decide (b.toNat / 32 % 2 = 1)
    let low := b.toNat % 32
    if low = 31 then
      match readBase128 (Nat.pow 2 32) bs with
      | some (n, rest) => if n < 31 then none else some (⟨.ofOctet b, constructed, n⟩, rest)
      | none => none
    else some (⟨.ofOctet b, constructed, low⟩, bs)

/-- Reads a length: below 128 in one octet, otherwise in as few octets as it needs, at most four,
after an octet that counts them. -/
def readLength : Reader Nat
  | [] => none
  | b :: bs =>
    if b < 0x80 then some (b.toNat, bs)
    else
      let k := b.toNat - 0x80
      let n := Octets.toNat (bs.take k)
      if k = 0 ∨ 4 < k ∨ bs.length < k then none
      else if n < 0x80 ∨ n < Nat.pow 256 (k - 1) then none
      else some (n, bs.drop k)

/-- Reads an element. -/
def readElement : Reader Element := fun bs =>
  match readTag bs with
  | none => none
  | some (tag, bs) =>
    match readLength bs with
    | none => none
    | some (n, bs) => if bs.length < n then none else some (⟨tag, bs.take n⟩, bs.drop n)

/-- Reads an element with a given tag and gives its content. -/
def content (tag : Tag) : Reader Octets := fun bs =>
  match readElement bs with
  | some (e, rest) => if e.tag = tag then some (e.content, rest) else none
  | none => none

/-- Reads the content of an element with a given tag to its end. -/
def within (tag : Tag) (r : Reader α) : Reader α := fun bs =>
  match content tag bs with
  | some (c, rest) => (whole r c).map (·, rest)
  | none => none

/-- Reads the content of an element with a given tag by a function on all of it. -/
def contentAs (tag : Tag) (f : Octets → Option α) : Reader α := fun bs =>
  match content tag bs with
  | some (c, rest) => (f c).map (·, rest)
  | none => none

/-- Reads an element that may be missing: it is there exactly if its tag comes next. -/
def optional (tag : Tag) (r : Reader α) : Reader (Option α) := fun bs =>
  match readTag bs with
  | some (t, _) =>
    if t = tag then (r bs).map fun (a, rest) => (some a, rest) else some (none, bs)
  | none => some (none, bs)

/-- Repeats a reader until the text is used up, at most `fuel` times. -/
def manyWithin (r : Reader α) : Nat → Octets → Option (List α)
  | _, [] => some []
  | 0, _ :: _ => none
  | fuel + 1, b :: bs =>
    match r (b :: bs) with
    | some (a, rest) => (manyWithin r fuel rest).map (a :: ·)
    | none => none

/-- All that a reader reads from a text. An element has two octets or more, so the length of the
text bounds their number. -/
def many (r : Reader α) (bs : Octets) : Option (List α) :=
  manyWithin r bs.length bs

/-! ## What was read -/

theorem readBase128From_drop {bound n k : Nat} {bs rest : Octets}
    (h : readBase128From bound n bs = some (k, rest)) : ∃ i, rest = bs.drop i := by
  induction bs generalizing n with
  | nil => simp [readBase128From] at h
  | cons b bs ih =>
    simp only [readBase128From] at h
    split at h
    · simp at h
    · split at h
      · simp only [Option.some.injEq, Prod.mk.injEq] at h
        exact ⟨1, by simp [h.2]⟩
      · obtain ⟨i, hi⟩ := ih h
        exact ⟨i + 1, by simpa using hi⟩

theorem readBase128_drop {bound k : Nat} {bs rest : Octets}
    (h : readBase128 bound bs = some (k, rest)) : ∃ i, rest = bs.drop i := by
  cases bs with
  | nil => simp [readBase128] at h
  | cons b bs =>
    rw [readBase128] at h
    split at h
    · simp at h
    · exact readBase128From_drop h

theorem readTag_drop {bs rest : Octets} {tag : Tag} (h : readTag bs = some (tag, rest)) :
    ∃ i, rest = bs.drop i := by
  cases bs with
  | nil => simp [readTag] at h
  | cons b bs =>
    rw [readTag] at h
    split at h
    · split at h
      · rename_i hb
        split at h
        · simp at h
        · obtain ⟨i, hi⟩ := readBase128_drop hb
          simp only [Option.some.injEq, Prod.mk.injEq] at h
          exact ⟨i + 1, by rw [← h.2, hi]; rfl⟩
      · simp at h
    · simp only [Option.some.injEq, Prod.mk.injEq] at h
      exact ⟨1, by simp [h.2]⟩

theorem readLength_drop {bs rest : Octets} {n : Nat} (h : readLength bs = some (n, rest)) :
    ∃ i, rest = bs.drop i := by
  cases bs with
  | nil => simp [readLength] at h
  | cons b bs =>
    simp only [readLength] at h
    split at h
    · simp only [Option.some.injEq, Prod.mk.injEq] at h
      exact ⟨1, by simp [h.2]⟩
    · split at h
      · simp at h
      · split at h
        · simp at h
        · simp only [Option.some.injEq, Prod.mk.injEq] at h
          exact ⟨b.toNat - 0x80 + 1, by rw [← h.2, List.drop_succ_cons]⟩

/-- The content of an element and the rest after it end the text. -/
theorem readElement_split {bs rest : Octets} {e : Element}
    (h : readElement bs = some (e, rest)) : ∃ i, e.content ++ rest = bs.drop i := by
  simp only [readElement] at h
  split at h
  · simp at h
  · rename_i ht
    obtain ⟨i, rfl⟩ := readTag_drop ht
    split at h
    · simp at h
    · rename_i hl
      obtain ⟨j, rfl⟩ := readLength_drop hl
      split at h
      · simp at h
      · simp only [Option.some.injEq, Prod.mk.injEq] at h
        refine ⟨i + j, ?_⟩
        rw [← h.1, ← h.2, List.take_append_drop, List.drop_drop]

end Specimen.Der
