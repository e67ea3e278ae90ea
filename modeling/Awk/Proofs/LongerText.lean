import Awk.Proofs.Spans

/-!
# Matches in a longer text

A text that ends with a newline is continued.  Whether the first match that is not empty
stays the first one depends on the expression: a thread that is preferred and has not ended
with the text may go on behind it.  No thread of an expression that takes no newline does, so
for such an expression a match that ends before the text does stays.
-/

namespace Awk
namespace Regex

open Text (CharSet)

/-- In a text of whole lines, a match that ends before the text does is the first one also if
more text follows. -/
def Steadfast (re : Regex) : Prop :=
  ∀ (head tail : List Char) (m : Span), head.getLast? = some '\n' →
    re.findNonEmpty? head = some m → m.stop < head.length →
    re.findNonEmpty? (head ++ tail) = some m

theorem Span.eq_of {m m' : Span} (hstart : m.start = m'.start) (hstop : m.stop = m'.stop) :
    m = m' := by
  cases m
  cases m'
  cases hstart
  cases hstop
  rfl

/-! ## Expressions that take no newline -/

namespace Node

/-- A match may take a newline. -/
def takesNewline : Node → Bool
  | empty | look _ => false
  | literal text => text.contains '\n'
  | set s _ => s.contains '\n'
  | group _ a | rep a _ _ _ => a.takesNewline
  | seq a b | alt a b => a.takesNewline || b.takesNewline

end Node

/-- No instruction takes a newline. -/
def Code.NewlineFree (code : Code) : Prop :=
  ∀ s next, Inst.char s next ∈ code → s.contains '\n' = false

namespace Code

theorem newlineFree_push {code : Code} {i : Inst} (h : code.NewlineFree)
    (hi : ∀ s next, i = .char s next → s.contains '\n' = false) :
    (code.push i).2.NewlineFree := by
  intro s next hmem
  rcases Array.mem_push.mp hmem with hmem | heq
  · exact h s next hmem
  · exact hi s next heq.symm

theorem newlineFree_setIfInBounds {code : Code} {place : Nat} {i : Inst} (h : code.NewlineFree)
    (hi : ∀ s next, i ≠ .char s next) : Code.NewlineFree (code.setIfInBounds place i) := by
  intro s next hmem
  rcases Array.mem_or_eq_of_mem_setIfInBounds hmem with hmem | heq
  · exact h s next hmem
  · exact absurd heq.symm (hi s next)

theorem fork_ne_char (greedy : Bool) (body exit : Nat) (s : CharSet) (next : Nat) :
    Code.fork greedy body exit ≠ .char s next := by
  cases greedy <;> exact fun h => by cases h

end Code

theorem single_contains_newline {c : Char} (h : c ≠ '\n') :
    (CharSet.single c).contains '\n' = false := by
  have hval : (CharSet.single c).contains '\n' =
      (decide (c.toNat ≤ '\n'.toNat) && decide ('\n'.toNat ≤ c.toNat)) := rfl
  have hne : c.toNat ≠ '\n'.toNat := fun heq => h (Char.toNat_inj.mp heq)
  rw [hval, ← Bool.decide_and]
  exact decide_eq_false (by omega)

namespace Node

/-- What keeps code free of instructions that take a newline. -/
def CompilesFree (compile : Nat → Code → Nat × Code) : Prop :=
  ∀ next code, Code.NewlineFree code → (compile next code).2.NewlineFree

theorem copies_free {compile : Nat → Code → Nat × Code} (h : CompilesFree compile) (n : Nat) :
    CompilesFree (copies compile n) := by
  induction n with
  | zero => exact fun _ _ hcode => hcode
  | succ n ih => exact fun next code hcode => ih _ _ (h next code hcode)

theorem optionalCopies_free {compile : Nat → Code → Nat × Code} (h : CompilesFree compile)
    (greedy : Bool) (exit n : Nat) : CompilesFree (optionalCopies compile greedy exit n) := by
  induction n with
  | zero => exact fun _ _ hcode => hcode
  | succ n ih =>
    intro next code hcode
    refine ih _ _ (Code.newlineFree_push (h next code hcode) fun s next heq => ?_)
    exact absurd heq (Code.fork_ne_char _ _ _ _ _)

theorem atLeastOnce_free {compile : Nat → Code → Nat × Code} (h : CompilesFree compile)
    (greedy : Bool) (next : Nat) {code : Code} (hcode : code.NewlineFree) :
    (atLeastOnce compile greedy next code).2.2.NewlineFree := by
  refine Code.newlineFree_setIfInBounds (h _ _ (Code.newlineFree_push hcode fun s next heq => ?_))
    fun s next => Code.fork_ne_char _ _ _ _ _
  cases heq

theorem compileText_free {text : List Char} (h : text.contains '\n' = false) :
    CompilesFree (compileText text) := by
  induction text with
  | nil => exact fun _ _ hcode => hcode
  | cons c cs ih =>
    intro next code hcode
    rw [List.contains_cons, Bool.or_eq_false_iff] at h
    refine Code.newlineFree_push (ih h.2 next code hcode) fun s next heq => ?_
    cases heq
    exact single_contains_newline fun heq => by rw [heq] at h; exact absurd h.1 (by decide)

/-- An expression that takes no newline has no instruction that does. -/
theorem compile_free {a : Node} (h : a.takesNewline = false) : CompilesFree a.compile := by
  induction a with
  | empty => exact fun _ _ hcode => hcode
  | literal text =>
    intro next code hcode
    exact compileText_free h next code hcode
  | set s _ =>
    intro next code hcode
    refine Code.newlineFree_push hcode fun s' next' heq => ?_
    cases heq
    exact h
  | look l =>
    intro next code hcode
    refine Code.newlineFree_push hcode fun s next heq => ?_
    cases heq
  | group index body ih => exact fun next code hcode => ih h next code hcode
  | rep body least most greedy ih =>
    intro next code hcode
    have hbody := ih h
    cases most with
    | none =>
      have honce := atLeastOnce_free hbody greedy next hcode
      cases least with
      | zero =>
        rw [compile]
        dsimp only
        split
        · exact honce
        · refine Code.newlineFree_push honce fun s next heq => ?_
          exact absurd heq (Code.fork_ne_char _ _ _ _ _)
      | succ n => exact copies_free hbody n _ _ honce
    | some most =>
      exact copies_free hbody least _ _
        (optionalCopies_free hbody greedy next (most - least) next code hcode)
  | seq first rest ihfirst ihrest =>
    intro next code hcode
    obtain ⟨hfirst, hrest⟩ := Bool.or_eq_false_iff.mp h
    exact ihfirst hfirst _ _ (ihrest hrest next code hcode)
  | alt first rest ihfirst ihrest =>
    intro next code hcode
    obtain ⟨hfirst, hrest⟩ := Bool.or_eq_false_iff.mp h
    refine Code.newlineFree_push (ihrest hrest next _ (ihfirst hfirst next code hcode))
      fun s next heq => ?_
    cases heq

end Node

theorem Automaton.ofNode_newlineFree {a : Node} (h : a.takesNewline = false) :
    (ofNode a).code.NewlineFree := by
  refine Node.compile_free h 0 #[.accept] fun s next hmem => ?_
  cases List.mem_singleton.mp (Array.mem_toList_iff.mpr hmem)

/-! ## The search behind the end of a text -/

/-- No thread goes on behind a newline. -/
theorem advanceThreads_newline {code : Code} (hcode : code.NewlineFree) (position : Nat)
    (ts moved : List Thread) :
    (advanceThreads code (some '\n') position ts moved).1 = moved.reverse := by
  induction ts with
  | nil => rfl
  | cons t ts ih =>
    unfold advanceThreads
    split
    · rfl
    · next s next c hchar hc =>
      cases hc
      have hfree := hcode s next (Array.mem_of_getElem? hchar)
      rw [if_neg (by rw [hfree]; exact Bool.false_ne_true)]
      exact ih
    · exact ih

namespace Automaton

/-- What one step of a search makes of threads and the best match so far. -/
def searchStep (a : Automaton) (before after : Option Char) (position : Nat) (threads : List Thread)
    (best : Option Span) : List Thread × Option Span :=
  let threads :=
    if best.isNone then threads ++ [{ pc := a.start, start := position }] else threads
  let waiting :=
    expand a.code before after (threads.length + 2 * a.code.size + 1) threads
      (Array.replicate a.code.size false) []
  let (moved, found) := advanceThreads a.code after position waiting []
  (moved, found <|> best)

theorem search_cons (a : Automaton) (before : Option Char) (position : Nat) (threads : List Thread)
    (best : Option Span) (c : Char) (cs : List Char) :
    search a before position threads best (c :: cs) =
      let step := searchStep a before (some c) position threads best
      if step.1.isEmpty && step.2.isSome then step.2
      else search a (some c) (position + 1) step.1 step.2 cs := by
  rw [search]
  rfl

theorem searchStep_newline {a : Automaton} (hcode : a.code.NewlineFree) (before : Option Char)
    (position : Nat) (threads : List Thread) (best : Option Span) :
    (searchStep a before (some '\n') position threads best).1 = [] :=
  advanceThreads_newline hcode position _ []

/-- A match that is found before the end of a text that ends with a newline is found as well if
more text follows.  The induction is on the text; at its last character all threads end. -/
theorem search_append {a : Automaton} (hcode : a.code.NewlineFree) {head : List Char}
    (hend : head.getLast? = some '\n') (tail : List Char) {before : Option Char} {position : Nat}
    {threads : List Thread} {best : Option Span} {m : Span}
    (hm : search a before position threads best head = some m)
    (hlt : m.stop < position + head.length) :
    search a before position threads best (head ++ tail) = some m := by
  induction head generalizing before position threads best with
  | nil => cases hend
  | cons c cs ih =>
    rw [search_cons] at hm
    rw [List.cons_append, search_cons]
    dsimp only at hm ⊢
    generalize hstep : searchStep a before (some c) position threads best = step at hm ⊢
    by_cases hdone : (step.1.isEmpty && step.2.isSome) = true
    · rw [if_pos hdone] at hm ⊢
      exact hm
    · rw [if_neg hdone] at hm ⊢
      by_cases hcs : cs = []
      · -- Nothing was found, so what is found at the very end begins there.
        subst hcs
        have hc : c = '\n' := Option.some.inj hend
        subst hc
        have hmoved : step.1 = [] := by
          rw [← hstep]
          exact searchStep_newline hcode before position threads best
        have hbest : step.2 = none := by
          rw [hmoved] at hdone
          exact Option.not_isSome_iff_eq_none.mp fun hsome => hdone hsome
        rw [hmoved, hbest] at hm
        have hbetween := search_between (Nat.le_refl (position + 1))
          (fun _ ht => absurd ht List.not_mem_nil) (fun _ h => by cases h) hm
        have hstart := hbetween.low_le
        have hstop := hbetween.start_le
        rw [List.length_singleton] at hlt
        omega
      · rw [List.getLast?_cons_of_ne_nil hcs] at hend
        rw [List.length_cons] at hlt
        exact ih hend hm (by omega)

end Automaton

/-! ## The first match that is not empty -/

namespace Point

/-- The same position with more text to follow. -/
def extend (p : Point) (tail : List Char) : Point := { p with rest := p.rest ++ tail }

theorem skip_index {p : Point} {n : Nat} (h : n ≤ p.rest.length) :
    (p.skip n).index = p.index + n := by
  fun_induction Point.skip p n with
  | case1 p => rfl
  | case2 p n hrest =>
    rw [hrest, List.length_nil] at h
    omega
  | case3 p n c cs hrest ih =>
    rw [hrest, List.length_cons] at h
    rw [ih (by show n ≤ cs.length; omega)]
    show p.index + 1 + n = _
    omega

theorem skip_rest (p : Point) (n : Nat) : (p.skip n).rest = p.rest.drop n := by
  fun_induction Point.skip p n with
  | case1 p => rfl
  | case2 p n hrest => rw [hrest, List.drop_nil]
  | case3 p n c cs hrest ih =>
    rw [ih, hrest]
    rfl

theorem index_le_skip (p : Point) (n : Nat) : p.index ≤ (p.skip n).index := by
  fun_induction Point.skip p n with
  | case1 p => exact Nat.le_refl _
  | case2 p n hrest => exact Nat.le_refl _
  | case3 p n c cs hrest ih => exact Nat.le_trans (Nat.le_succ _) ih

theorem getLast?_skip {p : Point} {n : Nat} (h : n < p.rest.length) :
    (p.skip n).rest.getLast? = p.rest.getLast? := by
  rw [skip_rest, List.getLast?_drop, if_neg (by omega)]

theorem skip_extend {p : Point} {n : Nat} (tail : List Char) (h : n ≤ p.rest.length) :
    (p.extend tail).skip n = (p.skip n).extend tail := by
  induction n generalizing p with
  | zero => rfl
  | succ n ih =>
    obtain ⟨index, before, rest⟩ := p
    cases rest with
    | nil => cases h
    | cons c cs =>
      have hle : n ≤ cs.length := Nat.le_of_succ_le_succ h
      exact @ih { index := index + 1, before := some c, rest := cs } hle

end Point

theorem findNonEmptyFrom?_succ {re : Regex} {fuel : Nat} {p : Point} {last : Option Nat} {m : Span}
    (h : re.findNonEmptyFrom? fuel p last = some m) :
    re.findNonEmptyFrom? (fuel + 1) p last = some m := by
  fun_induction findNonEmptyFrom? re fuel p last with
  | case1 => cases h
  | case2 => cases h
  | case3 => cases h
  | case4 fuel p last m' hfound hempty hlast hrest ih =>
    rw [findNonEmptyFrom?, hfound]
    dsimp only
    rw [if_pos hempty, if_pos hlast, if_neg hrest]
    exact ih h
  | case5 fuel p last m' hfound hempty hlast ih =>
    rw [findNonEmptyFrom?, hfound]
    dsimp only
    rw [if_pos hempty, if_neg hlast]
    exact ih h
  | case6 fuel p last m' hfound hempty =>
    rw [findNonEmptyFrom?, hfound]
    dsimp only
    rw [if_neg hempty]
    exact h

/-- A bound that is enough is enough also if it is higher. -/
theorem findNonEmptyFrom?_mono {re : Regex} {fuel fuel' : Nat} (hle : fuel ≤ fuel') {p : Point}
    {last : Option Nat} {m : Span} (h : re.findNonEmptyFrom? fuel p last = some m) :
    re.findNonEmptyFrom? fuel' p last = some m := by
  induction hle with
  | refl => exact h
  | step _ ih => exact findNonEmptyFrom?_succ ih

/-- A match is found at or behind the position where the search begins. -/
theorem findNonEmptyFrom?_low {re : Regex} {fuel : Nat} {p : Point} {last : Option Nat} {m : Span}
    (h : re.findNonEmptyFrom? fuel p last = some m) : p.index ≤ m.start := by
  fun_induction findNonEmptyFrom? re fuel p last with
  | case1 => cases h
  | case2 => cases h
  | case3 => cases h
  | case4 fuel p last m' hfound hempty hlast hrest ih =>
    exact Nat.le_trans (p.index_le_skip 1) (ih h)
  | case5 fuel p last m' hfound hempty hlast ih =>
    exact Nat.le_trans (p.index_le_skip (m'.stop - p.index)) (ih h)
  | case6 fuel p last m' hfound hempty =>
    cases h
    exact (re.between hfound).low_le

/-- From position to position the searches of a text and of a longer one agree, as long as what
they find ends before the end of the shorter text. -/
theorem findNonEmptyFrom?_append {a : Automaton} (hcode : a.code.NewlineFree) (tail : List Char)
    {fuel : Nat} {p : Point} {last : Option Nat} {m : Span}
    (hend : p.rest.getLast? = some '\n') (hat : ∀ k, last = some k → k = p.index)
    (h : (ofAutomaton a).findNonEmptyFrom? fuel p last = some m)
    (hlt : m.stop < p.index + p.rest.length) :
    (ofAutomaton a).findNonEmptyFrom? fuel (p.extend tail) last = some m := by
  have hsame : ∀ {p : Point} {m' : Span}, p.rest.getLast? = some '\n' →
      (ofAutomaton a).findFrom? p = some m' → m'.stop < p.index + p.rest.length →
      (ofAutomaton a).findFrom? (p.extend tail) = some m' :=
    fun hend hfound hlt => Automaton.search_append hcode hend tail hfound hlt
  fun_induction findNonEmptyFrom? (ofAutomaton a) fuel p last with
  | case1 => cases h
  | case2 => cases h
  | case3 => cases h
  | case4 fuel p last m' hfound hempty hlast hrest ih =>
    have hstop : m'.stop = p.index := hat _ (beq_iff_eq.mp hlast)
    have hlow := findNonEmptyFrom?_low h
    have hspan := (findNonEmptyFrom?_lt h).1
    have hpos : 1 ≤ p.rest.length := List.length_pos_iff.mpr fun hnil => hrest (by rw [hnil]; rfl)
    rw [Point.skip_index hpos] at hlow
    have hrest' : ¬ (p.extend tail).rest.isEmpty = true := by
      intro hnil
      have hnil := List.append_eq_nil_iff.mp (List.isEmpty_iff.mp hnil)
      exact hrest (List.isEmpty_iff.mpr hnil.1)
    rw [findNonEmptyFrom?, hsame hend hfound (by omega)]
    dsimp only
    rw [if_pos hempty, if_pos hlast, if_neg hrest', Point.skip_extend tail hpos]
    refine ih ?_ (fun k hk => by cases hk) h ?_
    · rw [Point.getLast?_skip (by omega)]
      exact hend
    · rw [Point.skip_end]
      exact hlt
  | case5 fuel p last m' hfound hempty hlast ih =>
    obtain ⟨hstart, hstop, hstop'⟩ := (ofAutomaton a).between hfound
    have hle : m'.stop - p.index ≤ p.rest.length := by omega
    have hindex : (p.skip (m'.stop - p.index)).index = m'.stop := by
      rw [Point.skip_index hle]
      omega
    have hlow := findNonEmptyFrom?_low h
    have hspan := (findNonEmptyFrom?_lt h).1
    rw [hindex] at hlow
    rw [findNonEmptyFrom?, hsame hend hfound (by omega)]
    dsimp only
    rw [if_pos hempty, if_neg hlast]
    show (ofAutomaton a).findNonEmptyFrom? fuel ((p.extend tail).skip (m'.stop - p.index)) _ = _
    rw [Point.skip_extend tail hle]
    refine ih ?_ (fun k hk => ?_) h ?_
    · rw [Point.getLast?_skip (by omega)]
      exact hend
    · cases hk
      exact hindex.symm
    · rw [Point.skip_end]
      exact hlt
  | case6 fuel p last m' hfound hempty =>
    cases h
    rw [findNonEmptyFrom?, hsame hend hfound hlt]
    dsimp only
    rw [if_neg hempty]

/-- A match of an expression that takes no newline stays where it is. -/
theorem steadfast_of_newlineFree {a : Automaton} (hcode : a.code.NewlineFree) :
    (ofAutomaton a).Steadfast := by
  intro head tail m hend hm hlt
  have hlonger : (ofAutomaton a).findNonEmptyFrom? (2 * head.length + 2)
      ((Point.start head).extend tail) none = some m := by
    refine findNonEmptyFrom?_append hcode tail hend (fun k hk => by cases hk) hm ?_
    rw [show (Point.start head).index + (Point.start head).rest.length = head.length from
      Nat.zero_add _]
    exact hlt
  refine findNonEmptyFrom?_mono ?_ hlonger
  rw [List.length_append]
  omega

end Regex
end Awk
