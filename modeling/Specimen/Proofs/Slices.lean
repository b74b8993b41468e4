import Specimen.Stream

/-!
# Slices

An open stream hands out the octets that lie behind it slice by slice, from the first one on. A
stream in memory does so by its position. A file reader takes blocks ahead of what is asked for,
and that makes no difference to what it hands out, as long as its file stays as it is.

* `Octets.flatten_slices`: consecutive slices are all that is asked for together.
* `FileReader.InStep`: a reader that has handed out so much of its file; reading keeps it in step.
* `Stream.Stands`: an open stream that has handed out so much of what lies behind it.
* `Stream.Stands.read`, `Stream.Stands.tell`: what it answers then.
-/

namespace Specimen

/-! ## Slices of octets -/

namespace Octets

/-- The octets from an offset on: as many as are asked for, or all of them. -/
def slice (bs : Octets) (d : Nat) : Option Nat → Octets
  | none => bs.drop d
  | some n => (bs.drop d).take n

/-- Slices one after another from an offset on. -/
def slices (bs : Octets) (d : Nat) : List (Option Nat) → List Octets
  | [] => []
  | n :: ns => bs.slice d n :: bs.slices (d + (bs.slice d n).length) ns

/-- What several amounts come to. If one of them is all that there is, so is this. -/
def total : List (Option Nat) → Option Nat
  | [] => some 0
  | n :: ns => do pure ((← n) + (← total ns))

variable (bs : Octets) (d : Nat)

theorem drop_length_take (n : Nat) : bs.drop (bs.take n).length = bs.drop n := by
  rw [List.drop_eq_drop_iff, List.length_take]
  omega

/-- Slices one after another are one slice of all that is asked for. -/
theorem flatten_slices (ns : List (Option Nat)) :
    (bs.slices d ns).flatten = bs.slice d (total ns) := by
  induction ns generalizing d with
  | nil => simp [slices, total, slice]
  | cons n ns ih =>
    rw [slices, List.flatten_cons, ih, total]
    cases n with
    | none =>
      have hend : bs.drop (d + (bs.drop d).length) = [] := by
        rw [← List.drop_drop, List.drop_length]
      cases total ns <;> simp [slice, hend, -List.length_drop]
    | some n =>
      have hdrop : bs.drop (d + ((bs.drop d).take n).length) = (bs.drop d).drop n := by
        rw [← List.drop_drop, drop_length_take]
      rw [slice]
      cases total ns with
      | none => simp only [slice, hdrop, Option.bind_eq_bind, Option.bind_some, Option.bind_none,
          List.take_append_drop]
      | some m => simp only [slice, hdrop, Option.bind_eq_bind, Option.bind_some, Option.pure_def,
          List.take_add]

/-- As much as there is, or more, is all that there is. -/
theorem slice_of_length_le {n : Option Nat} (h : ∀ k, n = some k → bs.length ≤ k) :
    bs.slice 0 n = bs := by
  cases n with
  | none => rfl
  | some k => exact List.take_of_length_le (h k rfl)

end Octets

/-! ## File readers -/

namespace FileReader

variable {r : FileReader} {bs : Octets} {d n : Nat}

/-- A reader that has handed out the first `d` octets of its file: what it has read ahead comes
next, and what it has not read comes after that. -/
structure InStep (r : FileReader) (bs : Octets) (d : Nat) : Prop where
  rest : bs.drop d = r.ahead ++ bs.drop r.offset
  offset : r.offset = d + r.ahead.length

theorem InStep.position (h : r.InStep bs d) : r.position = d := by
  rw [FileReader.position, h.offset, Nat.add_sub_cancel]

theorem inStep_restart (r : FileReader) (bs : Octets) (d : Nat) : (r.restart d).InStep bs d where
  rest := by simp [restart, ahead]
  offset := by simp [restart, ahead]

/-- A buffer that has just been filled. -/
theorem inStep_fill (file : Option Nat) (bs : Octets) (d n : Nat) :
    InStep ⟨file, (bs.drop d).take n, 0, d + ((bs.drop d).take n).length⟩ bs d where
  rest := by
    rw [← List.drop_drop, Octets.drop_length_take]
    exact (List.take_append_drop n _).symm
  offset := by simp [ahead]

/-- Handing out some of what was read ahead. -/
theorem InStep.handOut (h : r.InStep bs d) (hn : n ≤ r.ahead.length) :
    InStep { r with used := r.used + n } bs (d + n) := by
  have hahead : ahead { r with used := r.used + n } = r.ahead.drop n := by
    simp [ahead, Nat.add_comm]
  refine ⟨?_, ?_⟩
  · rw [hahead, ← List.drop_drop, h.rest, List.drop_append_of_le_length hn]
  · rw [hahead, List.length_drop, h.offset]
    omega

/-- Reading all that is left. -/
theorem InStep.readAll (h : r.InStep bs d) :
    (r.readAll bs).1 = bs.drop d ∧ (r.readAll bs).2.InStep bs (d + (bs.drop d).length) := by
  have hd : r.offset + (bs.drop r.offset).length = d + (bs.drop d).length := by
    rw [h.rest, List.length_append, h.offset, Nat.add_assoc]
  refine ⟨h.rest.symm, ?_⟩
  rw [FileReader.readAll, hd]
  exact inStep_restart _ _ _

/-- Octets straight from the file are all that is wanted if the file ends there or no more is
wanted. -/
theorem take_of_ends {xs : Octets} {k n : Nat} (hkn : k ≤ n)
    (h : (xs.take k).length < k ∨ n - (xs.take k).length = 0) : xs.take n = xs.take k := by
  rw [List.length_take] at h
  rw [List.take_eq_take_iff]
  omega

/-- Octets straight from the file, and a few more from a buffer that is filled behind them. -/
theorem take_of_fill (xs : Octets) (k : Nat) {left : Nat} (h : left ≤ block) :
    xs.take (k + left) = xs.take k ++ ((xs.drop k).take block).take left := by
  rw [List.take_add, List.take_take, Nat.min_eq_left h]

/-- Reading more than was read ahead. -/
theorem InStep.readSome_of_lt (h : r.InStep bs d) (hn : r.ahead.length < n) :
    (r.readSome bs n).1 = (bs.drop d).take n ∧
      (r.readSome bs n).2.InStep bs (d + ((bs.drop d).take n).length) := by
  obtain ⟨wanted, hwanted⟩ : ∃ k, k = n - r.ahead.length := ⟨_, rfl⟩
  obtain ⟨whole, hwhole⟩ : ∃ k, k = wanted - wanted % block := ⟨_, rfl⟩
  obtain ⟨direct, hdirect⟩ : ∃ xs, xs = (bs.drop r.offset).take whole := ⟨_, rfl⟩
  have htake : (bs.drop d).take n = r.ahead ++ (bs.drop r.offset).take wanted := by
    rw [h.rest, List.take_append, List.take_of_length_le (by omega), hwanted]
  have hoffset (xs : Octets) : d + (r.ahead ++ xs).length = r.offset + xs.length := by
    rw [List.length_append, h.offset, Nat.add_assoc]
  rw [FileReader.readSome, if_neg (by omega), htake, hoffset]
  dsimp only
  rw [← hwanted, ← hwhole, ← hdirect]
  by_cases hends : direct.length < whole ∨ wanted - direct.length = 0
  · -- The buffer stays empty.
    rw [if_pos hends, take_of_ends (by omega) (hdirect ▸ hends), ← hdirect]
    exact ⟨rfl, inStep_restart _ _ _⟩
  · -- The blocks are all there, and part of a further one is wanted.
    obtain ⟨left, hleft⟩ : ∃ k, wanted = whole + k := ⟨_, (Nat.add_sub_cancel' (by omega)).symm⟩
    have hlength : direct.length = whole := by
      have := List.length_take_le whole (bs.drop r.offset)
      rw [hdirect] at hends ⊢
      omega
    have hblock : left ≤ block := by
      have := Nat.mod_lt wanted (show 0 < block by decide)
      omega
    rw [if_neg hends, hlength, hleft, take_of_fill _ _ hblock, ← hdirect, Nat.add_sub_cancel_left,
      List.drop_drop, List.length_append, hlength, List.length_take, ← Nat.add_assoc]
    refine ⟨List.append_assoc _ _ _, ?_⟩
    have hfill := inStep_fill r.file bs (r.offset + whole) block
    simpa [ahead] using hfill.handOut (Nat.min_le_right left _)

/-- Reading `n` octets, or fewer at the end. -/
theorem InStep.readSome (h : r.InStep bs d) (n : Nat) :
    (r.readSome bs n).1 = (bs.drop d).take n ∧
      (r.readSome bs n).2.InStep bs (d + ((bs.drop d).take n).length) := by
  by_cases hn : n ≤ r.ahead.length
  · have htake : (bs.drop d).take n = r.ahead.take n := by
      rw [h.rest, List.take_append_of_le_length hn]
    rw [FileReader.readSome, if_pos hn, htake, List.length_take_of_le hn]
    exact ⟨rfl, h.handOut hn⟩
  · exact h.readSome_of_lt (by omega)

theorem file_readSome (r : FileReader) (bs : Octets) (n : Nat) :
    (r.readSome bs n).2.file = r.file := by
  rw [FileReader.readSome]
  dsimp only
  split
  · rfl
  · split <;> rfl

end FileReader

/-! ## Streams -/

/-- What backs a stream: octets of its own, or a file. -/
inductive Backing where
  | memory
  | file (number : Option Nat)

/-- A file has some octets as its content. What a stream has of its own does not change. -/
def Backing.Holds (contentOf : Option Nat → Octets) (bs : Octets) : Backing → Prop
  | .memory => True
  | .file number => contentOf number = bs

/-- Amounts that are granted however much there is: one has to fit where lengths are kept, and
there has to be room for what is read from a file. -/
def Backing.Grants (limits : Stream.Limits) : Backing → Option Nat → Prop
  | _, none => True
  | .memory, some n => (n : Int) < Stream.limit
  | .file _, some n => n ≤ limits.room

/-- Whether a flaw is that more is asked for than can be measured or kept. -/
def StreamFlaw.isExcess : StreamFlaw → Bool
  | .tooLarge _ _ | .noMemory => true
  | _ => false

namespace Stream

/-- The amount that the arguments of a read stand for: a number of octets, or all that is left. -/
def amount? : List Value → Option (Option Nat)
  | [] | [.none] => some none
  | [v] => do
    let n ← int? v
    if n = -1 then some none else if 0 ≤ n then some (some n.toNat) else none
  | _ => none

/-- An open stream that has handed out the first `d` of the octets that lie behind it. -/
inductive Stands (bs : Octets) (d : Nat) : Backing → Stream → Prop
  | memory : Stands bs d .memory ⟨.memory ⟨bs, d⟩, false⟩
  | file {r : FileReader} (h : r.InStep bs d) : Stands bs d (.file r.file) ⟨.file r, false⟩

variable {args : List Value} {n : Option Nat} {backing : Backing} {stream : Stream} {bs : Octets}
  {d : Nat} {limits : Limits} {contentOf : Option Nat → Octets}

theorem amount?_eq_some_none_iff : amount? args = some none ↔
    args = [] ∨ args = [.none] ∨ ∃ v, args = [v] ∧ int? v = some (-1) := by
  match args with
  | [] => simp [amount?]
  | _ :: _ :: _ => simp [amount?]
  | [v] => cases v <;> simp [amount?, int?]

theorem amount?_eq_some_some_iff {n : Nat} :
    amount? args = some (some n) ↔ ∃ v, args = [v] ∧ int? v = some n := by
  match args with
  | [] => simp [amount?]
  | _ :: _ :: _ => simp [amount?]
  | [v] =>
    cases v with
    | int k => simp [amount?, int?]; grind
    | bool b => simp [amount?, int?]; grind
    | _ => simp [amount?, int?]

theorem stands_ofOctets (bs : Octets) : Stands bs 0 .memory (ofOctets bs) :=
  .memory

theorem stands_ofFile (file : Option Nat) (bs : Octets) : Stands bs 0 (.file file) (ofFile file) :=
  .file (FileReader.inStep_restart { file := file } bs 0)

theorem atMost_of_amount? (h : amount? args = some n) : atMost .read 1 args = .ok () := by
  refine if_pos ?_
  cases n with
  | none => rcases amount?_eq_some_none_iff.1 h with rfl | rfl | ⟨v, rfl, -⟩ <;> simp
  | some n =>
    obtain ⟨v, rfl, -⟩ := amount?_eq_some_some_iff.1 h
    simp

theorem countArg_singleton {v : Value} {k : Int} (hv : int? v = some k) : countArg [v] =
    if -limit ≤ k ∧ k < limit then .ok (some k)
    else .error (.tooLarge "cannot fit 'int' into an index-sized integer" false) := by
  cases v <;> simp_all [countArg, int?]

/-- All that is left is asked for without a number or by a negative one. -/
theorem countArg_of_all (h : amount? args = some none) :
    countArg args = .ok none ∨ countArg args = .ok (some (-1)) := by
  rcases amount?_eq_some_none_iff.1 h with rfl | rfl | ⟨v, rfl, hv⟩
  · exact .inl rfl
  · exact .inl rfl
  · exact .inr ((countArg_singleton hv).trans (if_pos (by simp [limit])))

theorem countArg_of_some {n : Nat} (h : amount? args = some (some n)) : countArg args =
    if (n : Int) < limit then .ok (some n)
    else .error (.tooLarge "cannot fit 'int' into an index-sized integer" false) := by
  obtain ⟨v, rfl, hv⟩ := amount?_eq_some_some_iff.1 h
  have hn : -limit ≤ (n : Int) := by simp [limit]
  simp [countArg_singleton hv, hn]

theorem Stands.tell (h : Stands bs d backing stream) (limits : Limits)
    (contentOf : Option Nat → Octets) :
    stream.call limits contentOf .tell [] = .ok (.count d, stream) := by
  cases h with
  | memory => rfl
  | @file r h =>
    show _ = Except.ok (StreamAnswer.count d, _)
    rw [← h.position]
    rfl

/-- A stream in memory refuses an amount that is no count, and gives what there is otherwise. -/
theorem call_read_memory (h : amount? args = some n) :
    call ⟨.memory ⟨bs, d⟩, false⟩ limits contentOf .read args =
      (countArg args).map fun _ => (.octets (bs.slice d n),
        ⟨.memory ⟨bs, d + (bs.slice d n).length⟩, false⟩) := by
  cases n with
  | none =>
    rcases countArg_of_all h with hn | hn <;>
      simp [call, callMemory, atMost_of_amount? h, hn, whileOpen, Memory.read, Octets.slice,
        bind, Except.bind, pure, Except.pure, Except.map]
  | some n =>
    have hn := countArg_of_some h
    have hpos : ¬ (n : Int) < 0 := by omega
    split at hn <;>
      simp [call, callMemory, atMost_of_amount? h, hn, hpos, whileOpen, Memory.read,
        Octets.slice, bind, Except.bind, pure, Except.pure, Except.map]

variable {r : FileReader}

theorem call_readAll_file (h : amount? args = some none) :
    call ⟨.file r, false⟩ limits contentOf .read args =
      .ok (.octets (r.readAll (contentOf r.file)).1,
        ⟨.file (r.readAll (contentOf r.file)).2, false⟩) := by
  rcases countArg_of_all h with hn | hn <;>
    simp [call, callFile, atMost_of_amount? h, hn, whileOpen, bind, Except.bind, pure, Except.pure]

theorem call_readSome_file {n : Nat} (h : amount? args = some (some n)) :
    call ⟨.file r, false⟩ limits contentOf .read args = (countArg args).bind fun _ =>
      (FileReader.tryRead limits r (contentOf r.file) n).map fun p =>
        (.octets p.1, ⟨.file p.2, false⟩) := by
  have hn := countArg_of_some h
  have hpos : ¬ (n : Int) < -1 := by omega
  split at hn
  · simp [call, callFile, atMost_of_amount? h, hn, hpos, whileOpen, bind, Except.bind, pure,
      Except.pure, Except.map]
  · simp [call, callFile, atMost_of_amount? h, hn, bind, Except.bind]

/-- A reader refuses only what there is no room for. -/
theorem tryRead_cases (limits : Limits) (r : FileReader) (content : Octets) (n : Nat) :
    FileReader.tryRead limits r content n = .ok (r.readSome content n) ∨
      ¬ n ≤ limits.room ∧ ∃ flaw, flaw.isExcess = true ∧
        FileReader.tryRead limits r content n = .error flaw := by
  rw [FileReader.tryRead]
  split
  · exact .inl rfl
  · rename_i hn
    refine .inr ⟨fun h => hn (.inr h), ?_⟩
    split
    · exact ⟨_, rfl, rfl⟩
    · exact ⟨_, rfl, rfl⟩

/-- An open stream answers a read with the next slice, and stands behind it then. It refuses only
what is too much to be granted. -/
theorem Stands.read (h : Stands bs d backing stream) (hc : backing.Holds contentOf bs)
    (ha : amount? args = some n) :
    (∃ after, stream.call limits contentOf .read args = .ok (.octets (bs.slice d n), after) ∧
      Stands bs (d + (bs.slice d n).length) backing after) ∨
    ¬ backing.Grants limits n ∧ ∃ flaw, flaw.isExcess = true ∧
      stream.call limits contentOf .read args = .error flaw := by
  cases h with
  | memory =>
    rw [call_read_memory ha]
    cases n with
    | none => rcases countArg_of_all ha with hn | hn <;> rw [hn] <;> exact .inl ⟨_, rfl, .memory⟩
    | some n =>
      by_cases hlimit : (n : Int) < limit
      · rw [countArg_of_some ha, if_pos hlimit]
        exact .inl ⟨_, rfl, .memory⟩
      · rw [countArg_of_some ha, if_neg hlimit]
        exact .inr ⟨hlimit, _, rfl, rfl⟩
  | @file r h =>
    obtain rfl : contentOf r.file = bs := hc
    cases n with
    | none =>
      rw [call_readAll_file ha, h.readAll.1]
      exact .inl ⟨_, rfl, .file h.readAll.2⟩
    | some n =>
      rw [call_readSome_file ha, countArg_of_some ha]
      by_cases hlimit : (n : Int) < limit
      · rw [if_pos hlimit]
        rcases tryRead_cases limits r (contentOf r.file) n with
          hr | ⟨hroom, flaw, hflaw, hr⟩ <;> rw [hr]
        · obtain ⟨hread, hafter⟩ := h.readSome n
          have hafter := Stands.file hafter
          rw [FileReader.file_readSome] at hafter
          exact .inl ⟨_, by rw [Octets.slice, ← hread]; rfl, hafter⟩
        · exact .inr ⟨hroom, flaw, hflaw, rfl⟩
      · rw [if_neg hlimit]
        have hroom : ¬ n ≤ limits.room := by
          have := limits.room_lt
          omega
        exact .inr ⟨hroom, _, rfl, rfl⟩

end Stream

end Specimen
