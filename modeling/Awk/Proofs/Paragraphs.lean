import Awk.Proofs.SplitRecords
import Mathlib.Data.List.DropRight
import Mathlib.Data.List.SplitBy

/-!
# Paragraphs

Paragraphs are told from the whole text: newlines at its ends are taken off, and it is cut at its
maximal runs of two newlines or more (`paragraphs`).  A reader finds them line by line.  One read
of a paragraph makes a `Cut` of the text that remains, and a cut takes the first of the paragraphs
and leaves the others.
-/

namespace Awk

namespace Text

/-- No occurrence begins before the first one. -/
theorem not_prefix_drop_of_indexOf? {word text : List Char} {i j : Nat}
    (h : indexOf? word text = some i) (hj : j < i) : ¬word <+: text.drop j := by
  fun_induction indexOf? word text generalizing i j with
  | case1 hempty =>
    cases h
    omega
  | case2 hempty => cases h
  | case3 c cs hword =>
    cases h
    omega
  | case4 c cs hword ih =>
    obtain ⟨k, hk, rfl⟩ := Option.map_eq_some_iff.mp h
    cases j with
    | zero =>
      intro hfront
      exact hword (List.isPrefixOf_iff_prefix.mpr hfront)
    | succ j => exact ih hk (by omega)

theorem not_infix_of_indexOf? {word text : List Char} (h : indexOf? word text = none) :
    ¬word <:+: text := by
  fun_induction indexOf? word text with
  | case1 hempty => cases h
  | case2 hempty =>
    intro hinside
    exact hempty (List.isEmpty_iff.mpr (List.infix_nil.mp hinside))
  | case3 c cs hword => cases h
  | case4 c cs hword ih =>
    intro hinside
    rcases List.infix_cons_iff.mp hinside with hfront | hinside
    · exact hword (List.isPrefixOf_iff_prefix.mpr hfront)
    · exact ih (Option.map_eq_none_iff.mp h) hinside

/-- Up to the end of the first occurrence there is no other. -/
theorem not_infix_take_of_indexOf? {word text : List Char} {i n : Nat}
    (h : indexOf? word text = some i) (hn : n < i + word.length) : ¬word <:+: text.take n := by
  rintro ⟨front, back, hword⟩
  have hlength := congrArg List.length hword
  simp only [List.length_append, List.length_take] at hlength
  have hfront : word <+: (text.take n).drop front.length := by
    rw [← hword, List.append_assoc, List.drop_left]
    exact List.prefix_append ..
  refine not_prefix_drop_of_indexOf? h (j := front.length) (by omega) (hfront.trans ?_)
  rw [List.drop_take]
  exact List.take_prefix ..

end Text

namespace Reader

open Text.Utf8 (decode)

/-! ## The paragraphs of a text -/

def trimNewlines (text : List Char) : List Char :=
  (text.dropWhile (· == '\n')).rdropWhile (· == '\n')

/-- The maximal runs of newlines, and of other characters, one after the other. -/
def runs (text : List Char) : List (List Char) :=
  text.splitBy fun a b => (a == '\n') == (b == '\n')

/-- A run that parts two paragraphs. -/
def isGap (run : List Char) : Bool := 2 ≤ run.length && run.all (· == '\n')

/-- The blocks of a text between the gaps in it, newlines at its ends apart. -/
def paragraphs (text : List Char) : List (List Char) :=
  (((runs (trimNewlines text)).splitOnP isGap).map List.flatten).filter (· ≠ [])

/-- Neither begins nor ends with a newline. -/
structure Trimmed (text : List Char) : Prop where
  head : text.head? ≠ some '\n'
  last : text.getLast? ≠ some '\n'

/-- What a paragraph looks like. -/
structure IsParagraph (record : List Char) : Prop extends Trimmed record where
  ne_nil : record ≠ []
  noBlankLine : ¬['\n', '\n'] <:+: record

theorem Newlines.append {a b : List Char} (ha : Newlines a) (hb : Newlines b) :
    Newlines (a ++ b) := by
  intro c hc
  rcases List.mem_append.mp hc with hc | hc
  · exact ha c hc
  · exact hb c hc

theorem dropWhile_newlines_append {front : List Char} (h : Newlines front) (text : List Char) :
    (front ++ text).dropWhile (· == '\n') = text.dropWhile (· == '\n') :=
  List.dropWhile_append_of_pos fun c hc => beq_iff_eq.mpr (h c hc)

theorem dropWhile_of_head {text : List Char} (h : text.head? ≠ some '\n') :
    text.dropWhile (· == '\n') = text := by
  cases text with
  | nil => rfl
  | cons c cs =>
    have hc : ¬(c == '\n') = true := by simpa using h
    exact List.dropWhile_cons_of_neg hc

theorem head?_dropWhile_newlines (text : List Char) :
    (text.dropWhile (· == '\n')).head? ≠ some '\n' := by
  intro h
  have hnot := List.head?_dropWhile_not (· == '\n') text
  rw [h] at hnot
  simp at hnot

theorem trimNewlines_append {lead mid trail : List Char} (hlead : Newlines lead)
    (hmid : Trimmed mid) (htrail : Newlines trail) :
    trimNewlines (lead ++ (mid ++ trail)) = mid := by
  have hback : Newlines trail.reverse := fun c hc => htrail c (List.mem_reverse.mp hc)
  have hlast : mid.reverse.head? ≠ some '\n' := by
    rw [List.head?_reverse]
    exact hmid.last
  have hmidtrail : (mid ++ trail).rdropWhile (· == '\n') = mid := by
    rw [List.rdropWhile, List.reverse_append, dropWhile_newlines_append hback,
      dropWhile_of_head hlast, List.reverse_reverse]
  rw [trimNewlines, dropWhile_newlines_append hlead]
  cases mid with
  | nil =>
    rw [List.nil_append, List.rdropWhile_eq_nil_iff]
    exact fun c hc => beq_iff_eq.mpr (htrail c ((List.dropWhile_sublist _).mem hc))
  | cons c cs =>
    rw [dropWhile_of_head (by simpa using hmid.head), hmidtrail]

/-- A text is its trimmed part with newlines around it. -/
theorem exists_trimmed (text : List Char) : ∃ lead mid trail, Newlines lead ∧ Trimmed mid ∧
    Newlines trail ∧ text = lead ++ (mid ++ trail) := by
  let body := text.dropWhile (· == '\n')
  refine ⟨text.takeWhile (· == '\n'), body.rdropWhile (· == '\n'), body.rtakeWhile (· == '\n'),
    newlines_takeWhile text, ⟨?_, ?_⟩, ?_, ?_⟩
  · intro hhead
    obtain ⟨rest, hrest⟩ := List.rdropWhile_prefix (· == '\n') body
    refine head?_dropWhile_newlines text ?_
    show body.head? = some '\n'
    rw [← hrest, List.head?_append, hhead]
    rfl
  · rw [List.rdropWhile, List.getLast?_reverse]
    exact head?_dropWhile_newlines body.reverse
  · intro c hc
    have hnewline := List.mem_rtakeWhile_imp (p := (· == '\n')) hc
    exact beq_iff_eq.mp hnewline
  · rw [List.rdropWhile_append_rtakeWhile, List.takeWhile_append_dropWhile]

/-! ## Paragraphs by their runs -/

/-- A run of two newlines or more stands by itself between texts that neither end nor begin with a
newline. -/
theorem runs_append {record gap mid : List Char} (hrecord : Trimmed record) (hmid : Trimmed mid)
    (hgap : Newlines gap) (hne : gap ≠ []) :
    runs (record ++ (gap ++ mid)) = runs record ++ gap :: runs mid := by
  have hchain : gap.IsChain fun a b => ((a == '\n') == (b == '\n')) = true := by
    refine List.isChain_iff_getElem.mpr fun i hi => ?_
    simp [hgap _ (List.getElem_mem _)]
  have hends : ∀ x ∈ gap.getLast?, ∀ y ∈ mid.head?, ((x == '\n') == (y == '\n')) = false := by
    rintro x hx y hy
    have hxn : x = '\n' := hgap x (List.mem_of_mem_getLast? hx)
    have hyn : y ≠ '\n' := fun h => hmid.head (h ▸ hy)
    simp [hxn, hyn]
  have hbegins : ∀ x ∈ record.getLast?, ∀ y ∈ (gap ++ mid).head?,
      ((x == '\n') == (y == '\n')) = false := by
    rintro x hx y hy
    have hxn : x ≠ '\n' := fun h => hrecord.last (h ▸ hx)
    rw [List.head?_append_of_ne_nil _ hne] at hy
    have hyn : y = '\n' := hgap y (List.mem_of_mem_head? hy)
    simp [hxn, hyn]
  rw [runs, List.splitBy_append hbegins, List.splitBy_append hends,
    List.splitBy_of_isChain hne hchain]
  rfl

/-- A run of a text without a blank line is no gap. -/
theorem isGap_eq_false {record run : List Char} (h : ¬['\n', '\n'] <:+: record)
    (hrun : run ∈ runs record) : isGap run = false := by
  refine Bool.eq_false_iff.mpr fun hgap => h ?_
  obtain ⟨hlength, hall⟩ := Bool.and_eq_true_iff.mp hgap
  have hinside : run <:+: record := by
    rw [← List.flatten_splitBy (fun a b => (a == '\n') == (b == '\n')) record]
    exact List.infix_of_mem_flatten hrun
  have hnewlines := List.all_eq_true.mp hall
  obtain ⟨a, b, rest, rfl⟩ : ∃ a b rest, run = a :: b :: rest := by
    match run, decide_eq_true_iff.mp hlength with
    | a :: b :: rest, _ => exact ⟨a, b, rest, rfl⟩
  have ha : a = '\n' := beq_iff_eq.mp (hnewlines a (by simp))
  have hb : b = '\n' := beq_iff_eq.mp (hnewlines b (by simp))
  rw [ha, hb] at hinside
  exact List.IsInfix.trans ⟨[], rest, rfl⟩ hinside

theorem newlines_nil : Newlines [] := List.forall_mem_nil _

theorem paragraphs_of_newlines {text : List Char} (h : Newlines text) : paragraphs text = [] := by
  have htrim := trimNewlines_append h (⟨by simp, by simp⟩ : Trimmed []) newlines_nil
  rw [List.append_nil, List.append_nil] at htrim
  rw [paragraphs, htrim]
  rfl

theorem flatten_runs (text : List Char) : (runs text).flatten = text := List.flatten_splitBy _ text

/-- The last paragraph. -/
theorem paragraphs_last {lead record trail : List Char} (hlead : Newlines lead)
    (hrecord : IsParagraph record) (htrail : Newlines trail) :
    paragraphs (lead ++ (record ++ trail)) = [record] := by
  have hruns : (runs record).splitOnP isGap = [runs record] :=
    List.splitOnP_eq_singleton fun run => isGap_eq_false hrecord.noBlankLine
  rw [paragraphs, trimNewlines_append hlead hrecord.toTrimmed htrail, hruns, List.map_singleton,
    flatten_runs, List.filter_singleton]
  simp [hrecord.ne_nil]

/-- A paragraph that a blank line ends, with more text behind. -/
theorem paragraphs_first {lead record : List Char} (hlead : Newlines lead)
    (hrecord : IsParagraph record) (rest : List Char) :
    paragraphs (lead ++ (record ++ '\n' :: '\n' :: rest)) = record :: paragraphs rest := by
  obtain ⟨lead', mid, trail, hlead', hmid, htrail, rfl⟩ := exists_trimmed rest
  let gap := '\n' :: '\n' :: lead'
  have hgap : Newlines gap := .append (a := ['\n', '\n']) (by simp [Newlines]) hlead'
  have htext : record ++ '\n' :: '\n' :: (lead' ++ (mid ++ trail)) =
      record ++ (gap ++ (mid ++ trail)) := rfl
  have hrest : trimNewlines (lead' ++ (mid ++ trail)) = mid :=
    trimNewlines_append hlead' hmid htrail
  rw [htext]
  by_cases hnone : mid = []
  · -- Only newlines follow.
    subst hnone
    rw [List.nil_append, paragraphs_last hlead hrecord (hgap.append htrail),
      paragraphs_of_newlines (hlead'.append htrail)]
  · have hwhole : Trimmed (record ++ (gap ++ mid)) := by
      refine ⟨?_, ?_⟩
      · rw [List.head?_append_of_ne_nil _ hrecord.ne_nil]
        exact hrecord.head
      · rw [← List.append_assoc, List.getLast?_append_of_ne_nil _ hnone]
        exact hmid.last
    have htrim := trimNewlines_append hlead hwhole htrail
    rw [List.append_assoc, List.append_assoc] at htrim
    have hsplit : (runs record ++ gap :: runs mid).splitOnP isGap =
        runs record :: (runs mid).splitOnP isGap := by
      refine List.splitOnP_append_cons_of_forall_mem
        (fun run => isGap_eq_false hrecord.noBlankLine) gap ?_ (runs mid)
      simpa [isGap, gap, Newlines] using hlead'
    rw [paragraphs, htrim, runs_append hrecord.toTrimmed hmid hgap (by simp [gap]), hsplit,
      List.map_cons, flatten_runs, List.filter_cons_of_pos (by simp [hrecord.ne_nil]), paragraphs,
      hrest]

/-! ## One read -/

/-- What one read makes of a text: the paragraph that it gives, and the text that it leaves. -/
inductive Cut (text : List Char) : Option (List Char) → List Char → Prop where
  | nothing : Newlines text → Cut text none []
  | last {lead record trail : List Char} : Newlines lead → IsParagraph record → Newlines trail →
      text = lead ++ (record ++ trail) → Cut text (some record) []
  | first {lead record rest : List Char} : Newlines lead → IsParagraph record →
      text = lead ++ (record ++ '\n' :: '\n' :: rest) → Cut text (some record) rest

theorem Cut.skip {lead text rest : List Char} {record : Option (List Char)}
    (h : Cut text record rest) (hlead : Newlines lead) : Cut (lead ++ text) record rest := by
  cases h with
  | nothing htext => exact .nothing (hlead.append htext)
  | last hlead' hrecord htrail htext =>
    refine .last (hlead.append hlead') hrecord htrail ?_
    rw [htext, List.append_assoc]
  | first hlead' hrecord htext =>
    refine .first (hlead.append hlead') hrecord ?_
    rw [htext, List.append_assoc]

/-- A cut takes the first paragraph and leaves the others. -/
theorem Cut.paragraphs_eq {text rest : List Char} {record : Option (List Char)}
    (h : Cut text record rest) :
    record = (paragraphs text).head? ∧ paragraphs rest = (paragraphs text).tail := by
  cases h with
  | nothing htext =>
    rw [paragraphs_of_newlines htext, paragraphs_of_newlines newlines_nil]
    exact ⟨rfl, rfl⟩
  | last hlead hrecord htrail htext =>
    rw [htext, paragraphs_last hlead hrecord htrail, paragraphs_of_newlines newlines_nil]
    exact ⟨rfl, rfl⟩
  | first hlead hrecord htext =>
    rw [htext, paragraphs_first hlead hrecord]
    exact ⟨rfl, rfl⟩

/-- A read that ends without failure in a cut. -/
def CutsParagraph (text : List Char) (result : Outcome × Reader) : Prop :=
  ∃ record, result.1 = .ok record ∧ Cut text record result.2.remaining

/-- Before the first blank line of a text that does not begin with a newline is a paragraph. -/
theorem isParagraph_take {text : List Char} {i : Nat} (hhead : text.head? ≠ some '\n')
    (hi : Text.indexOf? ['\n', '\n'] text = some i) : IsParagraph (text.take i) := by
  obtain ⟨rest, hrest⟩ := Text.drop_of_indexOf? hi
  have hnot : ¬['\n', '\n'] <:+: text.take (i + 1) :=
    Text.not_infix_take_of_indexOf? hi (by simp)
  have htake : text.take (i + 1) = text.take i ++ ['\n'] := by
    have hsplit := congrArg (List.take (i + 1)) (List.take_append_drop i text)
    rw [hrest] at hsplit
    have hle : i ≤ text.length := by
      have hlength := congrArg List.length hrest
      rw [List.length_drop, List.length_append] at hlength
      simp only [List.length_cons] at hlength
      omega
    rw [← hsplit, List.take_append, List.take_take, List.length_take, Nat.min_eq_left hle]
    simp
  rw [htake] at hnot
  refine ⟨⟨?_, ?_⟩, ?_, ?_⟩
  · intro h
    refine hhead ?_
    rw [← List.take_append_drop i text, List.head?_append, h]
    rfl
  · intro hlast
    obtain ⟨front, hfront⟩ := List.getLast?_eq_some_iff.mp hlast
    rw [hfront] at hnot
    exact hnot ⟨front, [], by simp⟩
  · intro hnil
    have hzero : text = '\n' :: '\n' :: rest := by
      rw [← List.take_append_drop i text, hnil, hrest]
      rfl
    exact hhead (by rw [hzero]; rfl)
  · exact fun hinside => hnot (hinside.trans (List.prefix_append ..).isInfix)

theorem splitOff_cutsParagraph {r : Reader} {start stop : Nat}
    (hhead : r.remaining.head? ≠ some '\n') (h : findBlankLine? r = some (start, stop)) :
    CutsParagraph r.remaining (r.splitOff start stop) := by
  obtain ⟨i, hi, heq⟩ := Option.map_eq_some_iff.mp h
  obtain ⟨rfl, rfl⟩ := Prod.mk.inj heq
  obtain ⟨rest, hrest⟩ := Text.drop_of_indexOf? hi
  have hbuffer : r.buffer = r.buffer.take i ++ '\n' :: '\n' :: r.buffer.drop (i + 2) := by
    have hbehind : r.buffer.drop (i + 2) = rest := by
      rw [← List.drop_drop, hrest]
      rfl
    rw [hbehind]
    exact (List.take_append_drop i r.buffer).symm.trans (congrArg (r.buffer.take i ++ ·) hrest)
  have hne : r.buffer ≠ [] := by
    rw [hbuffer]
    simp
  rw [remaining, List.head?_append_of_ne_nil _ hne] at hhead
  refine ⟨r.buffer.take i, rfl, .first newlines_nil (isParagraph_take hhead hi) ?_⟩
  show r.buffer ++ r.lines.flatMap decode =
    r.buffer.take i ++ '\n' :: '\n' :: (r.buffer.drop (i + 2) ++ r.lines.flatMap decode)
  rw [← List.cons_append, ← List.cons_append, ← List.append_assoc, ← hbuffer]

/-- At the end of the input only the newlines there do not belong to the paragraph. -/
theorem takeLastParagraph_cutsParagraph {r : Reader} (hlines : r.lines = [])
    (hhead : r.remaining.head? ≠ some '\n') (hne : r.remaining ≠ [])
    (h : findBlankLine? r = none) : CutsParagraph r.remaining r.takeLastParagraph := by
  have hrest : { r with buffer := [] }.remaining = [] := remaining_of_lines_nil hlines
  rw [remaining_of_lines_nil hlines] at hhead hne ⊢
  have hnot : ¬['\n', '\n'] <:+: r.buffer :=
    Text.not_infix_of_indexOf? (Option.map_eq_none_iff.mp h)
  obtain ⟨lead, record, trail, hlead, hrecord, htrail, hbuffer⟩ := exists_trimmed r.buffer
  have htaken : r.takeLastParagraph = (.ok (some record), { r with buffer := [] }) := by
    have htrim : r.buffer.rdropWhile (· == '\n') = record := by
      have htrim := trimNewlines_append hlead hrecord htrail
      rw [← hbuffer, trimNewlines, dropWhile_of_head hhead] at htrim
      exact htrim
    rw [takeLastParagraph, takeRest, if_neg (by simpa using hne)]
    exact congrArg (fun record => (Except.ok (some record), { r with buffer := [] })) htrim
  have hparagraph : IsParagraph record := by
    refine ⟨hrecord, fun hnil => ?_, fun hinside => hnot (hinside.trans ?_)⟩
    · rw [hnil, List.nil_append] at hbuffer
      obtain ⟨c, hc⟩ := Option.ne_none_iff_exists'.mp (mt List.head?_eq_none_iff.mp hne)
      have hmem : c ∈ lead ++ trail := hbuffer ▸ List.mem_of_mem_head? hc
      exact hhead (by rw [hc, hlead.append htrail c hmem])
    · rw [hbuffer]
      exact (List.prefix_append ..).isInfix.trans (List.suffix_append ..).isInfix
  rw [htaken]
  refine ⟨some record, rfl, ?_⟩
  show Cut r.buffer (some record) { r with buffer := [] }.remaining
  rw [hrest]
  exact .last hlead hparagraph htrail hbuffer

theorem readParagraph_cutsParagraph {r : Reader} (hr : r.failure = none) :
    CutsParagraph r.remaining r.readParagraph := by
  obtain ⟨found, skipped, hfound, hskipped, htext, hr', hend, hsees⟩ := skipNewlines_spec hr
  unfold readParagraph
  rcases hrun : r.skipNewlines with ⟨result, r'⟩
  rw [hrun] at hfound htext hr' hend hsees
  dsimp only at hfound htext hr' hend hsees
  subst hfound
  rw [htext]
  cases found with
  | false =>
    refine ⟨none, rfl, ?_⟩
    dsimp only
    rw [hend rfl, List.append_nil]
    exact .nothing hskipped
  | true =>
    obtain ⟨c, rest, hc, hremaining⟩ := hsees rfl
    have hhead : r'.remaining.head? ≠ some '\n' := by
      rw [hremaining]
      simpa using hc
    have hne : r'.remaining ≠ [] := by
      rw [hremaining]
      exact List.cons_ne_nil c rest
    have hcuts : CutsParagraph r'.remaining (takeRecord findBlankLine? takeLastParagraph r') := by
      unfold takeRecord
      rw [hr']
      refine draw_spec (fun r₁ result _ hsame hf => ?_) (fun r₁ hlines _ hsame hf => ?_) rfl
      · obtain ⟨⟨start, stop⟩, hfound, rfl⟩ := Option.map_eq_some_iff.mp hf
        rw [show r'.remaining = r₁.remaining from hsame.symm] at hhead ⊢
        exact splitOff_cutsParagraph hhead hfound
      · rw [show r'.remaining = r₁.remaining from hsame.symm] at hhead hne ⊢
        exact takeLastParagraph_cutsParagraph hlines hhead hne (Option.map_eq_none_iff.mp hf)
    obtain ⟨record, hrecord, hcut⟩ := hcuts
    exact ⟨record, hrecord, hcut.skip hskipped⟩

theorem readsFirst_paragraph : ReadsFirst .paragraph paragraphs := by
  intro r hr
  obtain ⟨record, hrecord, hcut⟩ := readParagraph_cutsParagraph hr
  obtain ⟨hfirst, hothers⟩ := hcut.paragraphs_eq
  exact ⟨hfirst ▸ hrecord, hothers⟩

/-! ## The text around paragraphs -/

/-- The text is the records with newlines around them: some before the first and some behind each
one, two or more of them wherever another record follows. -/
def Spaced (text : List Char) (records : List (List Char)) : Prop :=
  ∃ lead gaps, gaps.length = records.length ∧ Newlines lead ∧ (∀ gap ∈ gaps, Newlines gap) ∧
    (∀ gap ∈ gaps.dropLast, 2 ≤ gap.length) ∧
    text = lead ++ (List.zipWith (· ++ ·) records gaps).flatten

theorem Spaced.cons {lead rest : List Char} {records : List (List Char)} (h : Spaced rest records)
    (hlead : Newlines lead) (record : List Char) :
    Spaced (lead ++ (record ++ '\n' :: '\n' :: rest)) (record :: records) := by
  obtain ⟨lead', gaps, hlength, hlead', hgaps, hwide, rfl⟩ := h
  let gap := '\n' :: '\n' :: lead'
  have hgap : Newlines gap := .append (a := ['\n', '\n']) (by simp [Newlines]) hlead'
  refine ⟨lead, gap :: gaps, by rw [List.length_cons, List.length_cons, hlength], hlead,
    List.forall_mem_cons.mpr ⟨hgap, hgaps⟩, ?_, ?_⟩
  · by_cases hnil : gaps = []
    · rw [hnil]
      exact List.forall_mem_nil _
    · rw [List.dropLast_cons_of_ne_nil hnil]
      exact List.forall_mem_cons.mpr ⟨by simp [gap], hwide⟩
  · rw [List.zipWith_cons_cons, List.flatten_cons, List.append_assoc]
    rfl

/-- A text in the buffer of a reader that has drawn all of its input is cut like any other. -/
theorem exists_cut (text : List Char) : ∃ record rest, Cut text record rest := by
  let r : Reader := { lines := [], failure := none, buffer := text }
  obtain ⟨record, -, hcut⟩ := readParagraph_cutsParagraph (r := r) rfl
  rw [show r.remaining = text from remaining_of_lines_nil rfl] at hcut
  exact ⟨record, _, hcut⟩

/-- By induction on the length of the text, cut by cut. -/
theorem paragraphs_spaced (text : List Char) :
    (∀ record ∈ paragraphs text, IsParagraph record) ∧ Spaced text (paragraphs text) := by
  induction hlength : text.length using Nat.strong_induction_on generalizing text with
  | _ n ih =>
    obtain ⟨record, rest, hcut⟩ := exists_cut text
    cases hcut with
    | nothing htext =>
      rw [paragraphs_of_newlines htext]
      exact ⟨List.forall_mem_nil _, text, [], rfl, htext, List.forall_mem_nil _,
        List.forall_mem_nil _, (List.append_nil text).symm⟩
    | @last lead record trail hlead hrecord htrail htext =>
      rw [htext, paragraphs_last hlead hrecord htrail]
      refine ⟨List.forall_mem_singleton.mpr hrecord, lead, [trail], rfl, hlead,
        List.forall_mem_singleton.mpr htrail, List.forall_mem_nil _, ?_⟩
      rw [List.zipWith_cons_cons, List.flatten_cons, List.zipWith_nil_left, List.flatten_nil,
        List.append_nil]
    | @first lead record rest hlead hrecord htext =>
      have hshorter : rest.length < n := by
        rw [← hlength, htext]
        simp only [List.length_append, List.length_cons]
        omega
      obtain ⟨hothers, hspaced⟩ := ih rest.length hshorter rest rfl
      rw [htext, paragraphs_first hlead hrecord]
      exact ⟨List.forall_mem_cons.mpr ⟨hrecord, hothers⟩, hspaced.cons hlead record⟩

/-- Reading paragraphs gives the blocks of the decoded input between its maximal runs of two or more
newlines, newlines at its ends apart.  None of them is empty, begins or ends with a newline or holds
two newlines in a row, and between two of them there were at least two newlines. -/
theorem paragraphs_read (bytes : List UInt8) :
    (Reader.ofStream (.ofBytes bytes)).Gives .paragraph (paragraphs (decode bytes)) ∧
      (∀ record ∈ paragraphs (decode bytes), IsParagraph record) ∧
      Spaced (decode bytes) (paragraphs (decode bytes)) := by
  have hgives := gives_of_read readsFirst_paragraph (r := Reader.ofStream (.ofBytes bytes)) rfl
  rw [remaining_ofBytes] at hgives
  exact ⟨hgives, paragraphs_spaced (decode bytes)⟩

end Reader
end Awk
