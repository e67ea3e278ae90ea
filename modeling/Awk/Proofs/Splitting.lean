import Awk.Record

/-!
# Splitting and joining

What the splitters that divide at characters do to a text, and how joining undoes it.
-/

namespace Awk

namespace Text

/-! ## At characters of a class -/

theorem splitBy_eq_splitOnP (p : Char → Bool) (cs : List Char) : splitBy p cs = cs.splitOnP p := by
  induction cs with
  | nil => rfl
  | cons c cs ih =>
    rw [List.splitOnP_cons_eq_if_modifyHead, splitBy, ih]
    split
    · rfl
    · cases h : cs.splitOnP p with
      | nil => exact absurd h (List.splitOnP_ne_nil p cs)
      | cons piece pieces => rfl

theorem splitBy_eq_splitOn (c : Char) (cs : List Char) : splitBy (· == c) cs = cs.splitOn c := by
  rw [splitBy_eq_splitOnP, List.splitOn_eq_splitOnP]

theorem intercalate_splitBy (c : Char) (cs : List Char) :
    [c].intercalate (splitBy (· == c) cs) = cs := by
  rw [splitBy_eq_splitOn]
  exact List.intercalate_splitOn c

/-- Pieces without separators are found again if a separator stands between any two. -/
theorem splitBy_intercalate {p : Char → Bool} {c : Char} (hc : p c) {pieces : List (List Char)}
    (hne : pieces ≠ []) (hfree : ∀ piece ∈ pieces, ∀ d ∈ piece, p d = false) :
    splitBy p ([c].intercalate pieces) = pieces := by
  rw [splitBy_eq_splitOnP]
  induction pieces with
  | nil => exact absurd rfl hne
  | cons piece pieces ih =>
    obtain ⟨hpiece, hpieces⟩ := List.forall_mem_cons.mp hfree
    cases pieces with
    | nil => simpa using List.splitOnP_eq_singleton hpiece
    | cons next pieces =>
      have hjoin : [c].intercalate (piece :: next :: pieces) =
          piece ++ c :: [c].intercalate (next :: pieces) := by
        simp [List.intercalate_cons_cons]
      rw [hjoin, List.splitOnP_append_cons_of_forall_mem hpiece c hc,
        ih (List.cons_ne_nil _ _) hpieces]

/-! ## Runs -/

/-- No character of a class stands from position `i` to below `j`. -/
def Free (p : Char → Bool) (cs : List Char) (i j : Nat) : Prop :=
  ∀ k c, i ≤ k → k < j → cs[k]? = some c → p c = false

/-- A part that is free of a class, and of which no larger part is. -/
structure IsMaximal (p : Char → Bool) (cs : List Char) (i j : Nat) : Prop where
  le : i ≤ j
  within : j ≤ cs.length
  free : Free p cs i j
  maximal : ∀ i' j', i' ≤ i → j ≤ j' → j' ≤ cs.length → Free p cs i' j' → i' = i ∧ j' = j

/-- A part is maximal if it cannot grow by one character. -/
theorem isMaximal_iff {p : Char → Bool} {cs : List Char} {i j : Nat} :
    IsMaximal p cs i j ↔ i ≤ j ∧ j ≤ cs.length ∧ Free p cs i j ∧
      (∀ i', i = i' + 1 → ∃ c, cs[i']? = some c ∧ p c) ∧
      (j < cs.length → ∃ c, cs[j]? = some c ∧ p c) := by
  constructor
  · intro h
    refine ⟨h.le, h.within, h.free, ?_, ?_⟩
    · rintro i' rfl
      have hlt : i' < cs.length := by
        have := h.le
        have := h.within
        omega
      refine ⟨cs[i'], List.getElem?_eq_getElem hlt, ?_⟩
      cases hp : p cs[i'] with
      | true => rfl
      | false =>
        have hfree : Free p cs i' j := by
          intro k c hk hj hc
          by_cases hki : k = i'
          · subst hki
            obtain ⟨-, rfl⟩ := List.getElem?_eq_some_iff.mp hc
            exact hp
          · exact h.free k c (by omega) hj hc
        have := (h.maximal i' j (by omega) (Nat.le_refl j) h.within hfree).1
        omega
    · intro hlt
      refine ⟨cs[j], List.getElem?_eq_getElem hlt, ?_⟩
      cases hp : p cs[j] with
      | true => rfl
      | false =>
        have hfree : Free p cs i (j + 1) := by
          intro k c hk hj hc
          by_cases hkj : k = j
          · subst hkj
            obtain ⟨-, rfl⟩ := List.getElem?_eq_some_iff.mp hc
            exact hp
          · exact h.free k c hk (by omega) hc
        have := (h.maximal i (j + 1) (Nat.le_refl i) (by omega) hlt hfree).2
        omega
  · rintro ⟨hle, hwithin, hfree, hleft, hright⟩
    refine ⟨hle, hwithin, hfree, fun i' j' hi hj hlen hfree' => ⟨?_, ?_⟩⟩
    · by_cases hlt : i' = i
      · exact hlt
      · obtain ⟨c, hc, hp⟩ := hleft (i - 1) (by omega)
        rw [hfree' (i - 1) c (by omega) (by omega) hc] at hp
        cases hp
    · by_cases hlt : j' = j
      · exact hlt
      · obtain ⟨c, hc, hp⟩ := hright (by omega)
        rw [hfree' j c (by omega) (by omega) hc] at hp
        cases hp

/-- Where the pieces of a text start and stop. -/
def spans (p : Char → Bool) : List Char → List (Nat × Nat)
  | [] => [(0, 0)]
  | c :: cs =>
    let later := (spans p cs).map fun s => (s.1 + 1, s.2 + 1)
    if p c then (0, 0) :: later else (0, (later.head?.getD (1, 1)).2) :: later.tail

/-- The first piece starts where the text does. -/
theorem spans_eq_cons (p : Char → Bool) (cs : List Char) :
    ∃ j later, spans p cs = (0, j) :: later := by
  cases cs with
  | nil => exact ⟨0, [], rfl⟩
  | cons c cs =>
    unfold spans
    split
    · exact ⟨0, _, rfl⟩
    · exact ⟨_, _, rfl⟩

theorem spans_cons_of_pos {p : Char → Bool} {c : Char} (hc : p c) (cs : List Char) :
    spans p (c :: cs) = (0, 0) :: (spans p cs).map fun s => (s.1 + 1, s.2 + 1) := by
  rw [spans, if_pos hc]

theorem spans_cons_of_neg {p : Char → Bool} {c : Char} (hc : p c = false) {cs : List Char} {j : Nat}
    {later : List (Nat × Nat)} (h : spans p cs = (0, j) :: later) :
    spans p (c :: cs) = (0, j + 1) :: later.map fun s => (s.1 + 1, s.2 + 1) := by
  rw [spans, if_neg (by simp [hc]), h]
  rfl

/-- The characters of a part. -/
def part (cs : List Char) (s : Nat × Nat) : List Char := (cs.drop s.1).take (s.2 - s.1)

theorem splitBy_eq_spans (p : Char → Bool) (cs : List Char) :
    splitBy p cs = (spans p cs).map (part cs) := by
  induction cs with
  | nil => rfl
  | cons c cs ih =>
    have hshift : ∀ ss : List (Nat × Nat),
        (ss.map fun s => (s.1 + 1, s.2 + 1)).map (part (c :: cs)) = ss.map (part cs) := by
      intro ss
      simp [part, Nat.add_sub_add_right]
    obtain ⟨j, later, hspans⟩ := spans_eq_cons p cs
    cases hc : p c with
    | true => simp [splitBy, hc, spans_cons_of_pos hc, hshift, ih, part]
    | false =>
      rw [spans_cons_of_neg hc hspans, List.map_cons, hshift, splitBy, ih, hspans]
      simp [hc, part]

theorem spans_pairwise (p : Char → Bool) (cs : List Char) :
    (spans p cs).Pairwise fun s t => s.2 < t.1 := by
  induction cs with
  | nil => exact List.pairwise_singleton _ _
  | cons c cs ih =>
    obtain ⟨j, later, hspans⟩ := spans_eq_cons p cs
    have hshift : ∀ {ss : List (Nat × Nat)}, ss.Pairwise (fun s t => s.2 < t.1) →
        (ss.map fun s => (s.1 + 1, s.2 + 1)).Pairwise fun s t => s.2 < t.1 :=
      fun h => h.map _ fun s t hst => Nat.succ_lt_succ hst
    cases hc : p c with
    | true =>
      rw [spans_cons_of_pos hc]
      refine List.pairwise_cons.mpr ⟨fun s hs => ?_, hshift ih⟩
      obtain ⟨t, -, rfl⟩ := List.mem_map.mp hs
      exact Nat.succ_pos t.1
    | false =>
      rw [spans_cons_of_neg hc hspans]
      rw [hspans] at ih
      obtain ⟨hfirst, hlater⟩ := List.pairwise_cons.mp ih
      refine List.pairwise_cons.mpr ⟨fun s hs => ?_, hshift hlater⟩
      obtain ⟨t, ht, rfl⟩ := List.mem_map.mp hs
      exact Nat.succ_lt_succ (hfirst t ht)

section Maximal

variable {p : Char → Bool} {c : Char} {cs : List Char} {i j : Nat}

theorem free_succ : Free p (c :: cs) (i + 1) (j + 1) ↔ Free p cs i j := by
  constructor
  · intro h k d hi hj hd
    exact h (k + 1) d (by omega) (by omega) (by simpa using hd)
  · intro h k d hi hj hd
    obtain ⟨k, rfl⟩ : ∃ l, k = l + 1 := ⟨k - 1, by omega⟩
    exact h k d (by omega) (by omega) (by simpa using hd)

theorem free_zero_succ : Free p (c :: cs) 0 (j + 1) ↔ p c = false ∧ Free p cs 0 j := by
  constructor
  · intro h
    refine ⟨h 0 c (Nat.le_refl 0) (Nat.succ_pos j) rfl, fun k d _ hj hd => ?_⟩
    exact h (k + 1) d (Nat.zero_le _) (by omega) (by simpa using hd)
  · rintro ⟨hc, h⟩ k d - hj hd
    cases k with
    | zero =>
      obtain rfl : c = d := by simpa using hd
      exact hc
    | succ k => exact h k d (Nat.zero_le k) (by omega) (by simpa using hd)

/-- A part behind the first character. -/
theorem isMaximal_succ :
    IsMaximal p (c :: cs) (i + 1) (j + 1) ↔ IsMaximal p cs i j ∧ (i = 0 → p c) := by
  simp only [isMaximal_iff, free_succ, List.length_cons, Nat.add_le_add_iff_right,
    Nat.add_lt_add_iff_right, List.getElem?_cons_succ, Nat.add_right_cancel_iff]
  constructor
  · rintro ⟨hle, hwithin, hfree, hleft, hright⟩
    refine ⟨⟨hle, hwithin, hfree, ?_, hright⟩, ?_⟩
    · rintro i' rfl
      simpa using hleft (i' + 1) rfl
    · rintro rfl
      simpa using hleft 0 rfl
  · rintro ⟨⟨hle, hwithin, hfree, hleft, hright⟩, hfirst⟩
    refine ⟨hle, hwithin, hfree, ?_, hright⟩
    rintro i' rfl
    cases i with
    | zero => simpa using hfirst rfl
    | succ i => simpa using hleft i rfl

/-- A part at the start. -/
theorem isMaximal_zero : IsMaximal p (c :: cs) 0 j ↔
    p c ∧ j = 0 ∨ p c = false ∧ ∃ j', j = j' + 1 ∧ IsMaximal p cs 0 j' := by
  cases j with
  | zero =>
    have hnone : Free p (c :: cs) 0 0 := fun k _ _ hk => absurd hk (Nat.not_lt_zero k)
    simp [isMaximal_iff, hnone]
  | succ j =>
    simp only [isMaximal_iff, free_zero_succ, List.length_cons, Nat.add_le_add_iff_right,
      Nat.add_lt_add_iff_right, List.getElem?_cons_succ]
    grind

end Maximal

/-- The pieces of a text are its maximal parts. -/
theorem mem_spans (p : Char → Bool) (cs : List Char) (i j : Nat) :
    (i, j) ∈ spans p cs ↔ IsMaximal p cs i j := by
  induction cs generalizing i j with
  | nil =>
    have hnone : Free p [] i j := fun _ _ _ _ h => nomatch h
    simp only [spans, List.mem_singleton, Prod.mk.injEq, isMaximal_iff, hnone, List.length_nil]
    constructor
    · rintro ⟨rfl, rfl⟩
      simp
    · rintro ⟨hle, hwithin, -, -, -⟩
      omega
  | cons c cs ih =>
    obtain ⟨l, later, hspans⟩ := spans_eq_cons p cs
    have hlater : ∀ t ∈ later, 0 < t.1 := by
      have hpairwise := spans_pairwise p cs
      rw [hspans] at hpairwise
      intro t ht
      exact Nat.zero_lt_of_lt ((List.pairwise_cons.mp hpairwise).1 t ht)
    have hnever : ∀ i, ¬IsMaximal p (c :: cs) (i + 1) 0 := fun i h => nomatch h.le
    cases hc : p c with
    | true =>
      rw [spans_cons_of_pos hc]
      cases i with
      | zero => simp [isMaximal_zero, hc]
      | succ i =>
        cases j with
        | zero => simp [hnever]
        | succ j => simp [isMaximal_succ, hc, ih]
    | false =>
      rw [spans_cons_of_neg hc hspans]
      cases i with
      | zero =>
        simp only [isMaximal_zero, hc, ← ih, hspans]
        have hnone : ∀ j, (0, j) ∉ later := fun j h => nomatch hlater _ h
        simp [hnone]
      | succ i =>
        cases j with
        | zero => simp [hnever]
        | succ j =>
          -- The first piece has grown to the left, so what started the text is not maximal now.
          have hne : (i, j) ∈ later → i ≠ 0 := fun h => Nat.ne_of_gt (hlater _ h)
          rw [isMaximal_succ, ← ih, hspans, hc]
          simp only [List.mem_cons, Prod.mk.injEq, Nat.add_one_ne_zero, false_and, false_or,
            List.mem_map, Nat.add_right_cancel_iff, Prod.exists, exists_eq_right_right,
            exists_eq_right, Bool.false_eq_true, imp_false]
          grind

end Text

namespace FieldSplitter

open Text (IsMaximal spans part)

/-! ## Splitters -/

theorem split_eq_iff {s : FieldSplitter} {text : String} {fields : List String} :
    s.split text = fields ↔ s.splitChars text.toList = fields.map String.toList := by
  unfold split
  constructor
  · rintro rfl
    simp [Function.comp_def]
  · intro h
    simp [h, Function.comp_def]

theorem literal_splitChars (c : Char) {text : List Char} (h : text ≠ []) :
    (literal c).splitChars text = Text.splitBy (· == c) text := by
  rw [splitChars, if_neg (by simpa using h)]

theorem intercalate_literal (c : Char) (text : String) :
    (String.singleton c).intercalate ((literal c).split text) = text := by
  apply String.toList_inj.mp
  rw [String.toList_intercalate, ← split_eq_iff.mp rfl, String.toList_singleton]
  by_cases h : text.toList = []
  · rw [h]
    rfl
  · rw [literal_splitChars c h]
    exact Text.intercalate_splitBy c text.toList

/-- The text that is made of one empty field has no fields. -/
theorem literal_intercalate {c : Char} {fields : List String} (hne : fields ≠ [""])
    (hfree : ∀ field ∈ fields, c ∉ field.toList) :
    (literal c).split ((String.singleton c).intercalate fields) = fields := by
  rw [split_eq_iff, String.toList_intercalate, String.toList_singleton]
  by_cases hnil : fields = []
  · rw [hnil]
    rfl
  · have htext : [c].intercalate (fields.map String.toList) ≠ [] := by
      match fields, hnil, hne with
      | [field], _, hne => simpa [String.toList_eq_nil_iff] using hne
      | first :: next :: more, _, _ => simp [List.intercalate_cons_cons]
    rw [literal_splitChars c htext]
    refine Text.splitBy_intercalate (by simp) (by simpa using hnil) ?_
    simp only [List.forall_mem_map, beq_eq_false_iff_ne]
    rintro field hfield d hd rfl
    exact hfree field hfield hd

theorem blanks_splitChars (text : List Char) :
    blanks.splitChars text = (Text.splitBy isBlank text).filter (!·.isEmpty) := by
  cases text with
  | nil => rfl
  | cons c text => rfl

theorem blanks_intercalate {fields : List String}
    (hfree : ∀ field ∈ fields, field ≠ "" ∧ ∀ c ∈ field.toList, isBlank c = false) :
    blanks.split (" ".intercalate fields) = fields := by
  rw [split_eq_iff, String.toList_intercalate, blanks_splitChars]
  by_cases hnil : fields = []
  · rw [hnil]
    rfl
  · have hpieces : Text.splitBy isBlank ([' '].intercalate (fields.map String.toList)) =
        fields.map String.toList := by
      refine Text.splitBy_intercalate rfl (by simpa using hnil) ?_
      simp only [List.forall_mem_map]
      exact fun field hfield => (hfree field hfield).2
    show (Text.splitBy isBlank ([' '].intercalate (fields.map String.toList))).filter _ = _
    rw [hpieces, List.filter_eq_self, List.forall_mem_map]
    intro field hfield
    simpa using (hfree field hfield).1

/-- The fields between blanks are the maximal runs without any, in order. -/
theorem blanks_runs (text : String) :
    ∃ runs : List (Nat × Nat), runs.Pairwise (fun s t => s.2 < t.1) ∧
      (∀ i j, (i, j) ∈ runs ↔ i < j ∧ IsMaximal isBlank text.toList i j) ∧
      blanks.split text = runs.map fun s => String.ofList (part text.toList s) := by
  refine ⟨(spans isBlank text.toList).filter fun s => s.1 < s.2, ?_, fun i j => ?_, ?_⟩
  · exact (Text.spans_pairwise isBlank text.toList).filter _
  · rw [List.mem_filter, Text.mem_spans, decide_eq_true_iff]
    exact And.comm
  · have hempty : ∀ s ∈ spans isBlank text.toList,
        (!(part text.toList s).isEmpty) = decide (s.1 < s.2) := by
      intro s hs
      have hwithin := ((Text.mem_spans isBlank text.toList s.1 s.2).mp hs).within
      have hlength : (part text.toList s).length = s.2 - s.1 := by
        rw [part, List.length_take, List.length_drop]
        omega
      rw [Bool.eq_iff_iff, Bool.not_eq_true', List.isEmpty_eq_false_iff, decide_eq_true_iff,
        ← List.length_pos_iff, hlength]
      omega
    rw [split, blanks_splitChars, Text.splitBy_eq_spans, List.filter_map, List.map_map,
      Function.comp_def, Function.comp_def, List.filter_congr hempty]

theorem characters_split (text : String) :
    characters.split text = text.toList.map String.singleton := by
  rw [split_eq_iff, List.map_map]
  have hsingle : String.toList ∘ String.singleton = fun c => [c] := by
    funext c
    exact String.toList_singleton c
  rw [hsingle]
  cases text.toList with
  | nil => rfl
  | cons c cs => rfl

theorem join_characters (text : String) : String.join (characters.split text) = text := by
  apply String.toList_inj.mp
  rw [String.toList_join, characters_split, List.flatMap_map]
  simp only [String.toList_singleton]
  induction text.toList with
  | nil => rfl
  | cons c cs ih => rw [List.flatMap_cons, ih, List.singleton_append]

end FieldSplitter
end Awk
