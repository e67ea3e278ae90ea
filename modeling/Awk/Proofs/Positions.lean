import Awk.Evaluation.Builtin
import Awk.Proofs.Computation
import Awk.Proofs.Paragraphs
import Awk.Proofs.WholeSums

/-!
# Positions in a text

Positions are doubles that count characters from one.  Below `2 ^ 53` characters, which is more
than a memory holds, positions and their differences are exact.  There a part of a text, the first
match of a regular expression and the first occurrence of a word agree on them.
-/

namespace Awk

namespace Text

/-! ## Characters by position -/

/-- The characters whose positions, counted from one, have a property. -/
def charactersAt (p : Int → Bool) (cs : List Char) : List Char :=
  ((cs.zipIdx 1).filter fun q => p q.2).map Prod.fst

/-- Only the positions of the text matter. -/
theorem charactersAt_congr {p q : Int → Bool} {cs : List Char}
    (h : ∀ i : Int, 1 ≤ i → i ≤ cs.length → p i = q i) : charactersAt p cs = charactersAt q cs := by
  refine congrArg (List.map Prod.fst) (List.filter_congr ?_)
  rintro ⟨c, i⟩ hmem
  obtain ⟨hlow, hhigh, -⟩ := List.mem_zipIdx hmem
  exact h i (by omega) (by omega)

theorem filter_zipIdx_between (low high k : Nat) (cs : List Char) :
    ((cs.zipIdx k).filter fun q => decide (low ≤ q.2 ∧ q.2 < high)).map Prod.fst =
      (cs.drop (low - k)).take (high - max low k) := by
  induction cs generalizing k with
  | nil => simp
  | cons c cs ih =>
    rw [List.zipIdx_cons, List.filter_cons]
    by_cases hlow : low ≤ k
    · rw [Nat.sub_eq_zero_of_le hlow, Nat.max_eq_right hlow, List.drop_zero]
      have hrest := ih (k + 1)
      rw [Nat.sub_eq_zero_of_le (Nat.le_succ_of_le hlow),
        Nat.max_eq_right (Nat.le_succ_of_le hlow), List.drop_zero] at hrest
      by_cases hhigh : k < high
      · obtain ⟨n, hn⟩ : ∃ n, high - k = n + 1 := ⟨high - (k + 1), by omega⟩
        rw [if_pos (decide_eq_true ⟨hlow, hhigh⟩), List.map_cons, hrest, hn, List.take_succ_cons]
        congr 2
        omega
      · rw [if_neg (by simp [hhigh]), hrest, Nat.sub_eq_zero_of_le (by omega),
          Nat.sub_eq_zero_of_le (by omega), List.take_zero, List.take_zero]
    · obtain ⟨n, hn⟩ : ∃ n, low - k = n + 1 := ⟨low - (k + 1), by omega⟩
      rw [if_neg (by simp [hlow]), ih, hn, List.drop_succ_cons]
      congr 2 <;> omega

/-- The characters between two positions are next to each other. -/
theorem charactersAt_between (low high : Int) (cs : List Char) :
    charactersAt (fun i => low ≤ i ∧ i < high) cs =
      (cs.drop (low.toNat - 1)).take (high.toNat - max low.toNat 1) := by
  rw [← filter_zipIdx_between, charactersAt]
  refine congrArg (List.map Prod.fst) (List.filter_congr ?_)
  rintro ⟨c, i⟩ hmem
  obtain ⟨hlow, -, -⟩ := List.mem_zipIdx hmem
  exact decide_eq_decide.mpr (by omega)

/-! ## Parts of a text -/

section

variable {start stop : Double} {cs : List Char}

/-- One more than the size of a text. -/
theorem last_isWhole {size : Nat} (h : size < 2 ^ 53) :
    (Double.ofNat size + 1.0).IsWhole (size + 1) :=
  (Double.ofNat_isWhole h).add Double.one_isWhole (by omega)

/-- As many characters are dropped as there are before a position, on or before the text. -/
theorem dropped_of_le {low : Int} (h : low ≤ 2 ^ 53) :
    min 0xffffffffffffffff (max low 1).toNat - 1 = low.toNat - 1 := by
  omega

theorem slice_between {low high : Int} (hstart : start.IsWhole low) (hstop : stop.IsWhole high)
    (hsize : cs.length < 2 ^ 53) :
    slice start stop cs.length cs = charactersAt (fun i => low ≤ i ∧ i < high) cs := by
  have hfirst := hstart.max Double.one_isWhole
  have hend := hstop.min (last_isWhole hsize)
  rw [charactersAt_between, slice]
  generalize (if start < 1.0 then 1.0 else start) = first at hfirst ⊢
  generalize (if Double.ofNat cs.length + 1.0 < stop then Double.ofNat cs.length + 1.0
    else stop) = until' at hend ⊢
  by_cases hempty : min high (cs.length + 1) ≤ max low 1
  · rw [if_pos ((hend.le_iff hfirst).mpr hempty)]
    by_cases hbehind : cs.length ≤ low.toNat - 1
    · rw [List.drop_eq_nil_of_le hbehind, List.take_nil]
    · rw [Nat.sub_eq_zero_of_le (by omega), List.take_zero]
  · have hlength := hend.sub hfirst (by omega)
    have hlow : low ≤ 2 ^ 53 := by omega
    -- The end of the part is that of the text, if this comes first.
    have hcount : (min high (cs.length + 1) - max low 1).toNat =
        min (high.toNat - max low.toNat 1) (cs.length - (low.toNat - 1)) := by
      omega
    have hfits : cs.length - (low.toNat - 1) ≤ 0xffffffffffffffff := by omega
    rw [if_neg (mt (hend.le_iff hfirst).mp hempty), hfirst.toNat64, hlength.toNat64,
      dropped_of_le hlow, hcount, Nat.min_eq_right ((Nat.min_le_right _ _).trans hfits),
      List.take_eq_take_iff, List.length_drop, Nat.min_assoc, Nat.min_self]

/-- A part has no characters from before its start. -/
theorem length_slice_le (hstart : ¬start < 1.0) (size : Nat) :
    (slice start stop size cs).length ≤ cs.length - (start.toNat64 - 1) := by
  rw [slice, if_neg hstart]
  generalize (if Double.ofNat size + 1.0 < stop then Double.ofNat size + 1.0
    else stop) = until'
  split
  · exact Nat.zero_le _
  · rw [List.length_take, List.length_drop]
    exact Nat.min_le_right _ _

end

section

variable {s : String} {x y : Double} {m n : Int}

theorem substring_between (hs : s.length < 2 ^ 53) (hx : x.IsWhole m) (hy : y.IsWhole n)
    (hsum : (x + y).IsWhole (m + n)) :
    (substring s x (some y)).toList = charactersAt (fun i => m ≤ i ∧ i < m + n) s.toList := by
  rw [← String.length_toList] at hs
  rw [substring, Double.round_of_isWhole hx]
  rw [Double.round_of_isWhole hy, hx.isNaN, hsum.isNaN, if_neg (by decide), String.toList_ofList,
    ← String.length_toList, slice_between hx hsum hs]

theorem substring_from (hs : s.length < 2 ^ 53) (hx : x.IsWhole m) :
    (substring s x none).toList = charactersAt (fun i => m ≤ i) s.toList := by
  have hlast := last_isWhole hs
  rw [← String.length_toList] at hs
  rw [substring, Double.round_of_isWhole hx]
  rw [hx.isNaN, hlast.isNaN, if_neg (by decide), String.toList_ofList]
  rw [← String.length_toList] at hlast ⊢
  rw [slice_between hx hlast hs]
  exact charactersAt_congr fun i _ hi => decide_eq_decide.mpr (by omega)

/-- A part that starts in the text has no more characters than the text from there. -/
theorem length_substring_le (hx : x.IsWhole m) (hpos : 0 < m) (y : Double) :
    (substring s x (some y)).length ≤ s.length - (min 0xffffffffffffffff m.toNat - 1) := by
  have hstart : ¬x < 1.0 := mt (hx.lt_iff Double.one_isWhole).mp (by omega)
  rw [substring, Double.round_of_isWhole hx]
  split
  · exact Nat.zero_le _
  · rw [String.length_ofList, ← hx.toNat64, ← @String.length_toList s]
    exact length_slice_le hstart _

end

/-! ## Occurrences of a word -/

/-- A word stands at a position, counted from one. -/
def OccursAt (word text : List Char) (k : Nat) : Prop :=
  ∃ front rest, text = front ++ word ++ rest ∧ front.length + 1 = k

theorem occursAt_succ {word text : List Char} {i : Nat} (hi : i ≤ text.length) :
    OccursAt word text (i + 1) ↔ word <+: text.drop i := by
  constructor
  · rintro ⟨front, rest, rfl, hlength⟩
    cases hlength
    rw [List.append_assoc, List.drop_left]
    exact List.prefix_append _ _
  · rintro ⟨rest, hrest⟩
    refine ⟨text.take i, rest, ?_, ?_⟩
    · rw [List.append_assoc, hrest, List.take_append_drop]
    · rw [List.length_take, Nat.min_eq_left hi]

theorem OccursAt.le {word text : List Char} {k : Nat} (h : OccursAt word text k) :
    1 ≤ k ∧ k + word.length ≤ text.length + 1 := by
  obtain ⟨front, rest, rfl, rfl⟩ := h
  simp only [List.length_append]
  omega

/-- The position of the first occurrence, or zero. -/
def position (word text : List Char) : Nat :=
  match indexOf? word text with
  | some i => i + 1
  | none => 0

variable {word text : List Char}

/-- The first occurrence begins in the text, or right behind it. -/
theorem le_length_of_indexOf? {i : Nat} (h : indexOf? word text = some i) : i ≤ text.length := by
  refine Nat.le_of_not_lt fun hlt => ?_
  obtain ⟨rest, hrest⟩ := drop_of_indexOf? h
  rw [List.drop_eq_nil_of_le hlt.le] at hrest
  have hword : word = [] := (List.append_eq_nil_iff.mp hrest.symm).1
  refine not_prefix_drop_of_indexOf? h (Nat.zero_lt_of_lt hlt) ?_
  rw [hword]
  exact List.nil_prefix

theorem position_eq_zero_iff : position word text = 0 ↔ ∀ k, ¬OccursAt word text k := by
  rw [position]
  cases hindex : indexOf? word text with
  | none =>
    refine iff_of_true rfl fun k => ?_
    rintro ⟨front, rest, htext, -⟩
    exact not_infix_of_indexOf? hindex ⟨front, rest, htext.symm⟩
  | some i =>
    refine iff_of_false (Nat.succ_ne_zero i) fun hnone => hnone (i + 1) ?_
    obtain ⟨rest, hrest⟩ := drop_of_indexOf? hindex
    exact (occursAt_succ (le_length_of_indexOf? hindex)).mpr ⟨rest, hrest.symm⟩

/-- The position of a word is where it occurs first. -/
theorem position_eq_iff {k : Nat} (hk : 0 < k) :
    position word text = k ↔ OccursAt word text k ∧ ∀ j, j < k → ¬OccursAt word text j := by
  have hfirst : ∀ i, indexOf? word text = some i →
      OccursAt word text (i + 1) ∧ ∀ j, j < i + 1 → ¬OccursAt word text j := by
    intro i hindex
    have hlength := le_length_of_indexOf? hindex
    obtain ⟨rest, hrest⟩ := drop_of_indexOf? hindex
    refine ⟨(occursAt_succ hlength).mpr ⟨rest, hrest.symm⟩, fun j hj hoccurs => ?_⟩
    obtain ⟨l, rfl⟩ := Nat.exists_eq_succ_of_ne_zero (Nat.pos_iff_ne_zero.mp hoccurs.le.1)
    exact not_prefix_drop_of_indexOf? hindex (Nat.lt_of_succ_lt_succ hj)
      ((occursAt_succ (by omega)).mp hoccurs)
  cases hindex : indexOf? word text with
  | none =>
    have hzero : position word text = 0 := by rw [position, hindex]
    rw [hzero]
    exact iff_of_false hk.ne fun h => position_eq_zero_iff.mp hzero k h.1
  | some i =>
    have hposition : position word text = i + 1 := by rw [position, hindex]
    rw [hposition]
    obtain ⟨hoccurs, hleast⟩ := hfirst i hindex
    constructor
    · rintro rfl
      exact ⟨hoccurs, hleast⟩
    · rintro ⟨hoccurs', hleast'⟩
      have hle : i + 1 ≤ k := Nat.le_of_not_lt fun hlt => hleast k hlt hoccurs'
      have hge : k ≤ i + 1 := Nat.le_of_not_lt fun hlt => hleast' (i + 1) hlt hoccurs
      omega

/-- The empty word stands at the first position, and others end in the text. -/
theorem position_le : position word text ≤ max 1 text.length := by
  by_cases hzero : position word text = 0
  · omega
  obtain ⟨hoccurs, hleast⟩ := (position_eq_iff (Nat.pos_of_ne_zero hzero)).mp rfl
  have hfits := hoccurs.le.2
  by_cases hempty : word = []
  · subst hempty
    have hfirst : OccursAt [] text 1 := ⟨[], text, rfl, rfl⟩
    have := Nat.le_of_not_lt fun hlt => hleast 1 hlt hfirst
    omega
  · have := List.length_pos_of_ne_nil hempty
    omega

/-- A word occurs at a position where a part as long as the word is the word. -/
theorem occursAt_iff_substring {s t : String} (hs : s.length < 2 ^ 53) {x : Double} {k : Nat}
    (hx : x.IsWhole k) (hk : 0 < k) (hne : t ≠ "" ∨ k ≤ s.length + 1) :
    OccursAt t.toList s.toList k ↔ substring s x (some (Double.ofNat t.length)) = t := by
  obtain ⟨i, rfl⟩ := Nat.exists_eq_succ_of_ne_zero hk.ne'
  -- Where the word fits into the text the end of the part is exact.
  have hpart : i + t.length ≤ s.length →
      (substring s x (some (Double.ofNat t.length))).toList =
        (s.toList.drop i).take t.length := by
    intro hfits
    have hlength : (Double.ofNat t.length).IsWhole t.length := Double.ofNat_isWhole (by omega)
    rw [substring_between hs hx hlength (hx.add hlength (by omega)), charactersAt_between]
    congr 2
    omega
  constructor
  · intro hoccurs
    have hle := hoccurs.le.2
    rw [String.length_toList, String.length_toList] at hle
    obtain ⟨rest, hrest⟩ := (occursAt_succ (by rw [String.length_toList]; omega)).mp hoccurs
    refine String.toList_inj.mp ?_
    rw [hpart (by omega), ← hrest, ← @String.length_toList t, List.take_left]
  · intro heq
    have hbound := length_substring_le (s := s) hx (by omega) (Double.ofNat t.length)
    rw [heq] at hbound
    have hfits : i + t.length ≤ s.length := by
      rcases hne with hne | hle
      · have hpos : t.length ≠ 0 := mt String.length_eq_zero_iff.mp hne
        omega
      · omega
    refine (occursAt_succ (by rw [String.length_toList]; omega)).mpr ?_
    rw [← heq, hpart hfits]
    exact List.take_prefix _ _

/-- The position of a word is the first one where a part as long as the word is the word. -/
theorem position_eq_iff_substring {s t : String} (hs : s.length < 2 ^ 53) {x : Double} {k : Nat}
    (hx : x.IsWhole k) (hk : 0 < k) :
    position t.toList s.toList = k ↔
      substring s x (some (Double.ofNat t.length)) = t ∧
        ∀ j, j < k → ¬OccursAt t.toList s.toList j := by
  rw [position_eq_iff hk]
  by_cases hne : t ≠ "" ∨ k ≤ s.length + 1
  · rw [occursAt_iff_substring hs hx hk hne]
  · -- The empty word occurs before.
    obtain ⟨hempty, hbehind⟩ := not_or.mp hne
    have hfirst : OccursAt t.toList s.toList 1 := by
      rw [not_ne_iff.mp hempty]
      exact ⟨[], s.toList, rfl, rfl⟩
    exact iff_of_false (fun h => h.2 1 (by omega) hfirst) fun h => h.2 1 (by omega) hfirst

end Text

namespace Builtin

open Eval

/-! ## Matches -/

/-- Position and length of a match select the text of the match. -/
theorem matchPosition_found {re : Regex} {s : String} (hs : s.length < 2 ^ 53) {span : Regex.Span}
    (h : re.find? s.toList = some span) :
    (matchPosition re s).1.IsWhole (span.start + 1) ∧
      (Text.substring s (matchPosition re s).1 (some (matchPosition re s).2)).toList =
        (s.toList.drop span.start).take (span.stop - span.start) := by
  obtain ⟨-, hle, hstop⟩ := re.between h
  have hend : span.stop ≤ s.length := by
    rw [← String.length_toList]
    exact hstop.trans (Nat.zero_add _).le
  have hposition : matchPosition re s =
      (Double.ofNat span.start + 1.0, Double.ofNat (span.stop - span.start)) := by
    rw [matchPosition, h]
  have hstart : (Double.ofNat span.start + 1.0).IsWhole (span.start + 1) :=
    Text.last_isWhole (by omega)
  have hlength : (Double.ofNat (span.stop - span.start)).IsWhole (span.stop - span.start : Nat) :=
    Double.ofNat_isWhole (by omega)
  rw [hposition]
  refine ⟨hstart, ?_⟩
  have hfirst : ((span.start : Int) + 1).toNat = span.start + 1 := by omega
  have hcount : ((span.start : Int) + 1 + (span.stop - span.start : Nat)).toNat -
      max (span.start + 1) 1 = span.stop - span.start := by omega
  rw [Text.substring_between hs hstart hlength (hstart.add hlength (by omega)),
    Text.charactersAt_between, hfirst, hcount, Nat.add_sub_cancel]

theorem matchPosition_none {re : Regex} {s : String} (h : re.find? s.toList = none) :
    matchPosition re s = (0.0, -1.0) := by
  rw [matchPosition, h]

/-! ## Calls -/

section

variable {self : Meaning} {e word start length pattern : Expr} {place : Location}
  {m m₁ m₂ m₃ : Machine} {s t : String} {x y : Double}

theorem call_substr_from (hs : self.text e m = .ok s m₁) (hx : self.number start m₁ = .ok x m₂) :
    call self .substr [e, start] place m = .ok (.ofText (Text.substring s x none)) m₂ := by
  show callSubstr self e start none m = _
  rw [callSubstr, bind_of_ok hs, bind_of_ok hx]
  rfl

theorem call_substr (hs : self.text e m = .ok s m₁) (hx : self.number start m₁ = .ok x m₂)
    (hy : self.number length m₂ = .ok y m₃) :
    call self .substr [e, start, length] place m =
      .ok (.ofText (Text.substring s x (some y))) m₃ := by
  show callSubstr self e start (some length) m = _
  rw [callSubstr, bind_of_ok hs, bind_of_ok hx]
  dsimp only
  rw [bind_of_ok hy]
  rfl

theorem call_index (hs : self.text e m = .ok s m₁) (ht : self.text word m₁ = .ok t m₂) :
    call self .index [e, word] place m =
      .ok (.ofNat (Text.position t.toList s.toList)) m₂ := by
  show callIndex self e word m = _
  rw [callIndex, bind_of_ok hs, bind_of_ok ht, Text.position]
  cases Text.indexOf? t.toList s.toList <;> rfl

theorem call_match {re : Regex} {source : String} (hs : self.text e m = .ok s m₁)
    (hpattern : self.pattern pattern m₁ = .ok source m₂) (hre : regexOf source m₂ = .ok re m₃) :
    call self .matchFirst [e, pattern] place m =
      .ok (.num (matchPosition re s).1)
        { m₃ with scope := { m₃.scope with rstart := (matchPosition re s).1
                                           rlength := (matchPosition re s).2 } } := by
  show callMatch self e pattern m = _
  rw [callMatch, bind_of_ok hs, bind_of_ok hpattern, bind_of_ok hre]
  rfl

end

end Builtin

/-- A part of a text is what stands at its positions, for whole numbers whose sum is exact.  A match
tells its position, and with its length selects the text that was matched; without a match there are
a zero and minus one.  A word has the first position where a part as long as the word is the word,
and zero if there is none. -/
theorem positions_agree (s : String) (hs : s.length < 2 ^ 53) :
    (∀ (x y : Double) (m n : Int), x.IsWhole m → y.IsWhole n → (x + y).IsWhole (m + n) →
      (Text.substring s x (some y)).toList =
        Text.charactersAt (fun i => m ≤ i ∧ i < m + n) s.toList) ∧
    (∀ (x : Double) (m : Int), x.IsWhole m →
      (Text.substring s x none).toList = Text.charactersAt (fun i => m ≤ i) s.toList) ∧
    (∀ (re : Regex) (span : Regex.Span), re.find? s.toList = some span →
      (Builtin.matchPosition re s).1.IsWhole (span.start + 1) ∧
      (Text.substring s (Builtin.matchPosition re s).1
        (some (Builtin.matchPosition re s).2)).toList =
          (s.toList.drop span.start).take (span.stop - span.start)) ∧
    (∀ re : Regex, re.find? s.toList = none → Builtin.matchPosition re s = (0.0, -1.0)) ∧
    (∀ (t : String) (x : Double) (k : Nat), 0 < k → x.IsWhole k →
      (Text.position t.toList s.toList = k ↔
        Text.substring s x (some (Double.ofNat t.length)) = t ∧
          ∀ j, j < k → ¬Text.OccursAt t.toList s.toList j)) ∧
    (∀ t : String,
      (Text.position t.toList s.toList = 0 ↔ ∀ k, ¬Text.OccursAt t.toList s.toList k) ∧
      (Double.ofNat (Text.position t.toList s.toList)).IsWhole
        (Text.position t.toList s.toList)) ∧
    ∀ (self : Meaning) (e : Expr) (place : Location) (m m₁ : Machine), self.text e m = .ok s m₁ →
      (∀ start x m₂, self.number start m₁ = .ok x m₂ →
        Builtin.call self .substr [e, start] place m =
          .ok (.ofText (Text.substring s x none)) m₂ ∧
        ∀ length y m₃, self.number length m₂ = .ok y m₃ →
          Builtin.call self .substr [e, start, length] place m =
            .ok (.ofText (Text.substring s x (some y))) m₃) ∧
      (∀ word t m₂, self.text word m₁ = .ok t m₂ →
        Builtin.call self .index [e, word] place m =
          .ok (.ofNat (Text.position t.toList s.toList)) m₂) ∧
      ∀ pattern source m₂ re m₃, self.pattern pattern m₁ = .ok source m₂ →
        Eval.regexOf source m₂ = .ok re m₃ →
        Builtin.call self .matchFirst [e, pattern] place m =
          .ok (.num (Builtin.matchPosition re s).1)
            { m₃ with scope := { m₃.scope with rstart := (Builtin.matchPosition re s).1
                                               rlength := (Builtin.matchPosition re s).2 } } := by
  refine ⟨fun x y m n => Text.substring_between hs, fun x m => Text.substring_from hs,
    fun re span => Builtin.matchPosition_found hs, fun re => Builtin.matchPosition_none,
    fun t x k hk hx => Text.position_eq_iff_substring hs hx hk,
    fun t => ⟨Text.position_eq_zero_iff, Double.ofNat_isWhole ?_⟩,
    fun self e place m m₁ htext => ⟨fun start x m₂ hx => ⟨Builtin.call_substr_from htext hx,
      fun length y m₃ => Builtin.call_substr htext hx⟩, fun word t m₂ => Builtin.call_index htext,
      fun pattern source m₂ re m₃ => Builtin.call_match htext⟩⟩
  have hle := @Text.position_le t.toList s.toList
  rw [String.length_toList] at hle
  omega

/-- The second of three characters, one of which takes two bytes. -/
theorem positions_agree_accented :
    "aéb".length < 2 ^ 53 ∧
      (Text.substring "aéb" 2.0 (some 1.0)).toList =
        Text.charactersAt (fun i => 2 ≤ i ∧ i < 2 + 1) "aéb".toList := by
  have htwo : (2.0 : Double).IsWhole 2 :=
    ⟨⟨false, 0x10000000000000, -51⟩, rfl, by decide, by decide⟩
  exact ⟨by decide, (positions_agree "aéb" (by decide)).1 2.0 1.0 2 1 htwo Double.one_isWhole
    (htwo.add Double.one_isWhole (by decide))⟩

end Awk
