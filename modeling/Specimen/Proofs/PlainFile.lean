import Specimen.Settings.EnvFile

/-!
# Settings files without references

A value depends on the environment, and on earlier assignments, only through references. A settings
file in which the mark of a reference does not stand has none, whatever it quotes and escapes, for
the values are pieces of the file, and resolving escapes brings no mark about.

* `plain_of_mem_parse`: the values in a file without the mark are without it.
* `resolve_eq_map`: they are assigned as they stand, in any environment.
-/

namespace Specimen

/-- A new name comes last in a register. -/
theorem Register.put_of_new {α : Type} {name : String} {r : Register α}
    (h : ∀ p ∈ r, p.1 ≠ name) (value : α) : r.put name value = r ++ [(name, value)] := by
  induction r with
  | nil => rfl
  | cons p r ih =>
    rw [Register.put, if_neg (h p (by simp)), ih fun q hq => h q (by simp [hq]), List.cons_append]

namespace EnvFile

variable {cs ds value rest : List Char} {c : Char}

/-! ## The mark of a reference -/

/-- The mark with which a reference begins. -/
def referenceMark : List Char := ['$', '\x7b']

/-- The mark of a reference does not stand in a text. -/
def Plain (cs : List Char) : Prop :=
  ¬ referenceMark <:+: cs

theorem Plain.of_piece (h : Plain cs) (hi : ds <:+: cs) : Plain ds :=
  fun hm => h (hm.trans hi)

theorem plain_nil : Plain [] := by
  simp [Plain, referenceMark]

theorem plain_cons_iff :
    Plain (c :: cs) ↔ (c = '$' → cs.head? ≠ some '\x7b') ∧ Plain cs := by
  have hmark : referenceMark <+: c :: cs ↔ c = '$' ∧ cs.head? = some '\x7b' := by
    cases cs <;> simp [referenceMark, eq_comm]
  rw [Plain, List.infix_cons_iff, hmark, not_or, not_and, Plain]

theorem head?_unifyLines (h : (unifyLines cs).head? = some '\x7b') :
    cs.head? = some '\x7b' := by
  fun_cases unifyLines cs with
  | case1 cs => simp [unifyLines] at h
  | case2 cs h1 => simp [unifyLines] at h
  | case3 c cs h1 h2 => simpa [unifyLines, h1, h2] using h
  | case4 => simp [unifyLines] at h

theorem plain_unifyLines (h : Plain cs) : Plain (unifyLines cs) := by
  fun_induction unifyLines cs with
  | case1 cs ih =>
    exact plain_cons_iff.2 ⟨by simp, ih (plain_cons_iff.1 (plain_cons_iff.1 h).2).2⟩
  | case2 cs h1 ih => exact plain_cons_iff.2 ⟨by simp, ih (plain_cons_iff.1 h).2⟩
  | case3 c cs h1 h2 ih =>
    obtain ⟨hc, hcs⟩ := plain_cons_iff.1 h
    exact plain_cons_iff.2 ⟨fun he hh => hc he (head?_unifyLines hh), ih hcs⟩
  | case4 => exact plain_nil

/-- No escape stands for a character of the mark. -/
def Harmless (escapes : List (Char × Char)) : Prop :=
  ∀ c d, escapes.lookup c = some d → d ∉ referenceMark

theorem harmless_of_all {escapes : List (Char × Char)}
    (h : escapes.all (fun p => !referenceMark.contains p.2) = true) : Harmless escapes := by
  intro c d hd
  obtain ⟨l₁, l₂, hl, -⟩ := List.lookup_eq_some_iff.1 hd
  have := List.all_eq_true.1 h (c, d) (by simp [hl])
  simpa using this

theorem harmless_doubleEscapes : Harmless doubleEscapes :=
  harmless_of_all (by decide)

theorem harmless_singleEscapes : Harmless singleEscapes :=
  harmless_of_all (by decide)

variable {escapes : List (Char × Char)}

theorem head?_unescape (hesc : Harmless escapes) (h : (unescape escapes cs).head? = some '\x7b') :
    cs.head? = some '\x7b' := by
  fun_cases unescape escapes cs with
  | case1 => simp [unescape] at h
  | case2 c cs d hd =>
    have hne := hesc c d hd
    simp only [unescape, hd, List.head?_cons, Option.some.injEq] at h
    simp [h, referenceMark] at hne
  | case3 c cs hd => simp [unescape, hd] at h
  | case4 c cs h1 => simpa [unescape] using h

theorem plain_unescape (hesc : Harmless escapes) (h : Plain cs) : Plain (unescape escapes cs) := by
  fun_induction unescape escapes cs with
  | case1 => exact plain_nil
  | case2 c cs d hd ih =>
    have hne := hesc c d hd
    refine plain_cons_iff.2 ⟨?_, ih (plain_cons_iff.1 (plain_cons_iff.1 h).2).2⟩
    rintro rfl
    simp [referenceMark] at hne
  | case3 c cs hd ih => exact plain_cons_iff.2 ⟨by simp, ih (plain_cons_iff.1 h).2⟩
  | case4 c cs h1 ih =>
    obtain ⟨hc, hcs⟩ := plain_cons_iff.1 h
    exact plain_cons_iff.2 ⟨fun he hh => hc he (head?_unescape hesc hh), ih hcs⟩

/-! ## Values are pieces of the file -/

/-- What remains of a text, whether or not a piece of it has been recognised. -/
def Step.remaining {α : Type} : Step α → List Char
  | .done _ rest => rest
  | .stuck rest => rest

theorem quotedText?_pieces {quote : Char} (h : quotedText? quote cs = some (value, rest)) :
    value <+: cs ∧ rest <:+ cs := by
  fun_induction quotedText? quote cs generalizing value rest with
  | case1 => simp at h
  | case2 cs =>
    simp only [Option.some.injEq, Prod.mk.injEq] at h
    obtain ⟨rfl, rfl⟩ := h
    exact ⟨List.nil_prefix, List.suffix_cons _ _⟩
  | case3 ds v r hv hq ih =>
    simp only [Option.some.injEq, Prod.mk.injEq] at h
    obtain ⟨rfl, rfl⟩ := h
    obtain ⟨hv, hr⟩ := ih hv
    exact ⟨List.cons_prefix_cons.2 ⟨rfl, List.cons_prefix_cons.2 ⟨rfl, hv⟩⟩,
      hr.trans <| (List.suffix_cons _ _).trans (List.suffix_cons _ _)⟩
  | case4 ds hv hq ih =>
    simp only [Option.some.injEq, Prod.mk.injEq] at h
    obtain ⟨rfl, rfl⟩ := h
    exact ⟨List.cons_prefix_cons.2 ⟨rfl, List.nil_prefix⟩,
      (List.suffix_cons _ _).trans (List.suffix_cons _ _)⟩
  | case5 d ds hd hq ih =>
    obtain ⟨⟨v, r⟩, hv, heq⟩ := Option.map_eq_some_iff.1 h
    simp only [Prod.mk.injEq] at heq
    obtain ⟨rfl, rfl⟩ := heq
    obtain ⟨hv, hr⟩ := ih hv
    exact ⟨List.cons_prefix_cons.2 ⟨rfl, hv⟩, hr.trans (List.suffix_cons _ _)⟩
  | case6 => simp at h
  | case7 c cs hc hb ih =>
    obtain ⟨⟨v, r⟩, hv, heq⟩ := Option.map_eq_some_iff.1 h
    simp only [Prod.mk.injEq] at heq
    obtain ⟨rfl, rfl⟩ := heq
    obtain ⟨hv, hr⟩ := ih hv
    exact ⟨List.cons_prefix_cons.2 ⟨rfl, hv⟩, hr.trans (List.suffix_cons _ _)⟩

theorem skipExport_suffix (cs : List Char) : skipExport cs <:+ cs := by
  unfold skipExport
  simp only
  split
  · split
    · rename_i c rest hd
      split
      · exact (List.dropWhile_suffix _).trans <| (List.suffix_cons c rest).trans <|
          hd ▸ List.drop_suffix _ cs
      · exact List.suffix_refl cs
    · exact List.suffix_refl cs
  · exact List.suffix_refl cs

theorem remaining_readName (cs : List Char) : (readName cs).remaining <:+ cs := by
  unfold readName
  split
  · exact List.suffix_refl _
  · rename_i rest
    simp only
    split
    · rename_i c after hd
      split
      · exact List.suffix_refl _
      · exact (List.suffix_cons c after).trans <| (hd ▸ List.dropWhile_suffix _).trans <|
          List.suffix_cons _ _
    · exact List.suffix_refl _
  · simp only
    split
    · exact List.suffix_refl _
    · exact List.dropWhile_suffix _

theorem remaining_readValue (cs : List Char) : (readValue cs).remaining <:+ cs := by
  unfold readValue
  split
  · exact List.suffix_refl _
  · rename_i c rest
    split
    · split
      · rename_i h
        exact (quotedText?_pieces h).2.trans (List.suffix_cons c rest)
      · exact List.suffix_refl _
    · split
      · split
        · rename_i h
          exact (quotedText?_pieces h).2.trans (List.suffix_cons c rest)
        · exact List.suffix_refl _
      · split
        · exact List.suffix_refl _
        · exact List.dropWhile_suffix _

theorem trimEnd_piece (cs : List Char) : trimEnd cs <+: cs := by
  unfold trimEnd
  rw [← List.reverse_suffix, List.reverse_reverse]
  exact List.dropWhile_suffix _

theorem cutComment_piece (cs : List Char) : cutComment cs <+: cs := by
  fun_induction cutComment cs with
  | case1 => exact List.nil_prefix
  | case2 c cs h => exact List.nil_prefix
  | case3 c cs h ih => exact List.cons_prefix_cons.2 ⟨rfl, ih⟩

/-- A value without quotes is a piece of the file, and one in quotes is so up to escapes. -/
theorem plain_of_readValue (hcs : Plain cs) (h : readValue cs = .done value rest) :
    Plain value := by
  unfold readValue at h
  split at h
  · simp only [Step.done.injEq] at h
    exact h.1 ▸ plain_nil
  · rename_i c tail
    have htail : Plain tail := (plain_cons_iff.1 hcs).2
    split at h
    · split at h
      · rename_i quoted rest hq
        simp only [Step.done.injEq] at h
        exact h.1 ▸ plain_unescape harmless_singleEscapes
          (htail.of_piece (quotedText?_pieces hq).1.isInfix)
      · simp at h
    · split at h
      · split at h
        · rename_i quoted rest hq
          simp only [Step.done.injEq] at h
          exact h.1 ▸ plain_unescape harmless_doubleEscapes
            (htail.of_piece (quotedText?_pieces hq).1.isInfix)
        · simp at h
      · split at h
        · simp only [Step.done.injEq] at h
          exact h.1 ▸ plain_nil
        · simp only [Step.done.injEq] at h
          have hpiece := (trimEnd_piece _).trans <| (cutComment_piece _).trans <|
            List.takeWhile_prefix (l := c :: tail) (fun c => !isLineEnd c)
          exact h.1 ▸ hcs.of_piece hpiece.isInfix

theorem remaining_readAssigned (cs : List Char) : (readAssigned cs).remaining <:+ cs := by
  unfold readAssigned
  split
  · rename_i rest hd
    have hrest := remaining_readValue (rest.dropWhile Text.isInlineBlank)
    simp only
    split <;> rename_i hv <;> rw [hv] at hrest <;>
      exact hrest.trans <| (List.dropWhile_suffix _).trans <| (List.suffix_cons _ _).trans <|
        hd ▸ List.dropWhile_suffix _
  · exact List.dropWhile_suffix _

theorem plain_of_readAssigned (hcs : Plain cs) (h : readAssigned cs = .done (some value) rest) :
    Plain value := by
  unfold readAssigned at h
  split at h
  · rename_i tail hd
    have htail : tail.dropWhile Text.isInlineBlank <:+ cs :=
      (List.dropWhile_suffix _).trans <| (List.suffix_cons _ _).trans <|
        hd ▸ List.dropWhile_suffix _
    simp only at h
    split at h
    · rename_i v r hv
      simp only [Step.done.injEq, Option.some.injEq] at h
      exact plain_of_readValue (hcs.of_piece htail.isInfix) (h.1 ▸ hv)
    · simp at h
  · simp at h

theorem skipComment_suffix (cs : List Char) : skipComment cs <:+ cs := by
  unfold skipComment
  split
  · rename_i rest hd
    exact (List.dropWhile_suffix _).trans <| (List.suffix_cons _ _).trans <|
      hd ▸ List.dropWhile_suffix _
  · exact List.suffix_refl cs

theorem lineEnd?_suffix (h : lineEnd? cs = some rest) : rest <:+ cs := by
  unfold lineEnd? at h
  split at h
  · simp only [Option.some.injEq] at h
    exact h ▸ List.nil_suffix
  · rename_i c tail hd
    split at h
    · simp only [Option.some.injEq] at h
      exact h ▸ (List.suffix_cons c tail).trans (hd ▸ List.dropWhile_suffix _)
    · simp at h

theorem skipLine_suffix (cs : List Char) : skipLine cs <:+ cs :=
  (List.drop_suffix _ _).trans (List.dropWhile_suffix _)

theorem remaining_readAssignment (cs : List Char) : (readAssignment cs).remaining <:+ cs := by
  have hname := (remaining_readName (skipExport cs)).trans (skipExport_suffix cs)
  unfold readAssignment
  split
  · rename_i hn
    rwa [hn] at hname
  · rename_i name rest hn
    rw [hn] at hname
    have hassigned := (remaining_readAssigned rest).trans hname
    split
    · rename_i ha
      rwa [ha] at hassigned
    · rename_i value after ha
      rw [ha] at hassigned
      have hcomment := (skipComment_suffix after).trans hassigned
      simp only
      split
      · rename_i hl
        exact (lineEnd?_suffix hl).trans hcomment
      · exact hcomment

theorem plain_of_readAssignment {a : Assignment} (hcs : Plain cs)
    (h : readAssignment cs = .done (some a) rest) (hv : a.value = some value) : Plain value := by
  have hname := (remaining_readName (skipExport cs)).trans (skipExport_suffix cs)
  unfold readAssignment at h
  split at h
  · simp at h
  · rename_i name after hn
    rw [hn] at hname
    split at h
    · simp at h
    · rename_i v r ha
      simp only at h
      split at h
      · simp only [Step.done.injEq, Option.map_eq_some_iff] at h
        obtain ⟨⟨name', -, rfl⟩, -⟩ := h
        obtain rfl : v = some value := hv
        exact plain_of_readAssigned (hcs.of_piece hname.isInfix) ha
      · simp at h

theorem plain_of_mem_parseWithin {fuel : Nat} {a : Assignment} (hcs : Plain cs)
    (ha : a ∈ parseWithin fuel cs) (hv : a.value = some value) : Plain value := by
  induction fuel generalizing cs with
  | zero => simp [parseWithin] at ha
  | succ fuel ih =>
    rw [parseWithin] at ha
    split at ha
    · simp at ha
    · rename_i c tail hd
      have hblank : Plain (c :: tail) := hcs.of_piece (hd ▸ (List.dropWhile_suffix _).isInfix)
      have hrest := remaining_readAssignment (c :: tail)
      split at ha
      · rename_i b rest hb
        rw [hb] at hrest
        rcases List.mem_cons.1 ha with rfl | ha
        · exact plain_of_readAssignment hblank hb hv
        · exact ih (hblank.of_piece hrest.isInfix) ha
      · rename_i rest hb
        rw [hb] at hrest
        exact ih (hblank.of_piece hrest.isInfix) ha
      · rename_i rest hb
        rw [hb] at hrest
        exact ih (hblank.of_piece ((skipLine_suffix rest).trans hrest).isInfix) ha

/-- The values in a file without the mark are without it. -/
theorem plain_of_mem_parse {a : Assignment} (hcs : Plain cs) (ha : a ∈ parse cs)
    (hv : a.value = some value) : Plain value :=
  plain_of_mem_parseWithin hcs ha hv

/-! ## Values without references -/

theorem piecesWithin_of_plain {fuel : Nat} (hcs : Plain cs) (hfuel : cs.length ≤ fuel) :
    piecesWithin fuel cs = cs.map .plain := by
  induction cs generalizing fuel with
  | nil => cases fuel <;> simp [piecesWithin]
  | cons c cs ih =>
    obtain ⟨hmark, hcs⟩ := plain_cons_iff.1 hcs
    cases fuel with
    | zero => simp at hfuel
    | succ fuel =>
      rw [List.map_cons, ← ih hcs (by simpa using hfuel), piecesWithin]
      rintro rest rfl rfl
      exact hmark rfl rfl

theorem flatMap_resolve_of_plain (hcs : Plain cs) (environment : Environment)
    (earlier : Register (Option String)) :
    (pieces cs).flatMap (Piece.resolve environment earlier) = cs := by
  rw [pieces, piecesWithin_of_plain hcs (Nat.le_refl _)]
  simp [List.flatMap_map, Piece.resolve]

/-- An assignment as it stands. -/
def Assignment.literal (a : Assignment) : String × Option String :=
  (a.name, a.value.map String.ofList)

/-- Values without references are assigned as they stand, in any environment. -/
theorem resolve_eq_map {assigned : List Assignment}
    (hplain : ∀ a ∈ assigned, ∀ value, a.value = some value → Plain value)
    (hnames : (assigned.map Assignment.name).Nodup) (environment : Environment) :
    resolve environment assigned = assigned.map Assignment.literal := by
  suffices h : ∀ (earlier : Register (Option String)),
      (∀ p ∈ earlier, ∀ a ∈ assigned, p.1 ≠ a.name) →
      assigned.foldl (fun earlier a =>
        earlier.put a.name (a.value.map fun cs =>
          String.ofList ((pieces cs).flatMap (Piece.resolve environment earlier)))) earlier =
        earlier ++ assigned.map Assignment.literal by
    simpa [resolve] using h [] (by simp)
  induction assigned with
  | nil => simp
  | cons a as ih =>
    intro earlier hnew
    simp only [List.map_cons, List.nodup_cons, List.mem_map, not_exists, not_and] at hnames
    have hvalue : (a.value.map fun cs =>
        String.ofList ((pieces cs).flatMap (Piece.resolve environment earlier))) =
          a.literal.2 := by
      cases hv : a.value with
      | none => simp [Assignment.literal, hv]
      | some value =>
        rw [Option.map_some, flatMap_resolve_of_plain (hplain a (by simp) value hv),
          Assignment.literal, hv, Option.map_some]
    rw [List.foldl_cons, hvalue, Register.put_of_new fun p hp => hnew p hp a (by simp),
      ih (fun b hb => hplain b (by simp [hb])) hnames.2]
    · simp [Assignment.literal]
    · intro p hp b hb
      rcases List.mem_append.1 hp with hp | hp
      · exact hnew p hp b (by simp [hb])
      · obtain rfl := List.mem_singleton.1 hp
        exact fun he => hnames.1 b hb he.symm

end EnvFile

end Specimen
