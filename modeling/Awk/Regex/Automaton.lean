import Awk.Regex.Program

/-!
# Running a program

All threads of a program run side by side, one character at a time, in order of
preference.  At each position a place of the program is entered once, by the
thread that prefers it most, so the work is bounded by the product of program and
text.  A thread that accepts ends those behind it.
-/

namespace Awk
namespace Regex

/-- A place in the program, and where in the text the thread began. -/
structure Thread where
  pc : Nat
  start : Nat
deriving Inhabited

/-- A match, as positions counted in characters. -/
structure Span where
  start : Nat
  stop : Nat
deriving DecidableEq, Repr

namespace Span

def isEmpty (m : Span) : Bool := m.start == m.stop

/-- A match between two positions. -/
structure Between (low high : Nat) (m : Span) : Prop where
  low_le : low ≤ m.start
  start_le : m.start ≤ m.stop
  stop_le : m.stop ≤ high

theorem Between.mono {low high high' : Nat} {m : Span} (h : m.Between low high)
    (hle : high ≤ high') : m.Between low high' :=
  ⟨h.low_le, h.start_le, Nat.le_trans h.stop_le hle⟩

end Span

/-- Follows instructions that take no character, most preferred first, until each
thread waits at one that does or accepts.  Every place entered adds at most two to
the stack, which bounds the fuel. -/
def expand (code : Code) (before after : Option Char) :
    Nat → List Thread → Array Bool → List Thread → List Thread
  | 0, _, _, done => done.reverse
  | _ + 1, [], _, done => done.reverse
  | fuel + 1, t :: stack, seen, done =>
    if (seen[t.pc]?).getD true then expand code before after fuel stack seen done
    else
      let seen := seen.setIfInBounds t.pc true
      match code[t.pc]? with
      | none => expand code before after fuel stack seen done
      | some .accept => expand code before after fuel stack seen (t :: done)
      | some (.char ..) => expand code before after fuel stack seen (t :: done)
      | some (.look l next) =>
        if l.holds before after then
          expand code before after fuel ({ t with pc := next } :: stack) seen done
        else expand code before after fuel stack seen done
      | some (.split first second) =>
        expand code before after fuel
          ({ t with pc := first } :: { t with pc := second } :: stack) seen done

/-- What the threads make of the next character: the threads that go on, and the
match of the most preferred one that accepts. -/
def advanceThreads (code : Code) (after : Option Char) (position : Nat) :
    List Thread → List Thread → List Thread × Option Span
  | [], moved => (moved.reverse, none)
  | t :: ts, moved =>
    match code[t.pc]?, after with
    | some .accept, _ => (moved.reverse, some { start := t.start, stop := position })
    | some (.char s next), some c =>
      advanceThreads code after position ts
        (if s.contains c then { t with pc := next } :: moved else moved)
    | _, _ => advanceThreads code after position ts moved

namespace Automaton

/-- Runs the threads through the rest of a text.  While nothing has matched, a new
thread starts at every position, less preferred than those before it. -/
def search (a : Automaton) (before : Option Char) (position : Nat) (threads : List Thread)
    (best : Option Span) (rest : List Char) : Option Span :=
  let after := rest.head?
  let threads :=
    if best.isNone then threads ++ [{ pc := a.start, start := position }] else threads
  let waiting :=
    expand a.code before after (threads.length + 2 * a.code.size + 1) threads
      (Array.replicate a.code.size false) []
  let (moved, found) := advanceThreads a.code after position waiting []
  let best := found <|> best
  match rest with
  | [] => best
  | c :: cs =>
    if moved.isEmpty && best.isSome then best
    else search a (some c) (position + 1) moved best cs

end Automaton

/-! ## Where matches lie

A thread keeps the position where it began, and none begins behind the position that the search has
reached.  So a match lies within the text that was searched, and does not end before it begins. -/

section

variable {P : Nat → Prop}

/-- Threads that go on have begun where those before them began. -/
theorem expand_starts {code : Code} {before after : Option Char} {fuel : Nat}
    {stack done : List Thread} {seen : Array Bool} (hstack : ∀ t ∈ stack, P t.start)
    (hdone : ∀ t ∈ done, P t.start) :
    ∀ t ∈ expand code before after fuel stack seen done, P t.start := by
  fun_induction expand code before after fuel stack seen done with
  | case1 => exact fun t ht => hdone t (List.mem_reverse.mp ht)
  | case2 => exact fun t ht => hdone t (List.mem_reverse.mp ht)
  | case3 fuel t stack seen done hseen ih
  | case4 fuel t stack seen done hseen seen' hcode ih
  | case8 fuel t stack seen done hseen seen' l next hcode hholds ih =>
    exact ih (List.forall_mem_cons.mp hstack).2 hdone
  | case5 fuel t stack seen done hseen seen' hcode ih
  | case6 fuel t stack seen done hseen seen' s next hcode ih =>
    obtain ⟨ht, hstack⟩ := List.forall_mem_cons.mp hstack
    exact ih hstack (List.forall_mem_cons.mpr ⟨ht, hdone⟩)
  | case7 fuel t stack seen done hseen seen' l next hcode hholds ih =>
    obtain ⟨ht, hstack⟩ := List.forall_mem_cons.mp hstack
    exact ih (List.forall_mem_cons.mpr ⟨ht, hstack⟩) hdone
  | case9 fuel t stack seen done hseen seen' first second hcode ih =>
    obtain ⟨ht, hstack⟩ := List.forall_mem_cons.mp hstack
    refine ih ?_ hdone
    exact List.forall_mem_cons.mpr ⟨ht, List.forall_mem_cons.mpr ⟨ht, hstack⟩⟩

/-- A match begins where its thread began and ends at the position of the search. -/
theorem advanceThreads_starts {code : Code} {after : Option Char} {position : Nat}
    {ts moved : List Thread} (hts : ∀ t ∈ ts, P t.start) (hmoved : ∀ t ∈ moved, P t.start) :
    (∀ t ∈ (advanceThreads code after position ts moved).1, P t.start) ∧
      ∀ m, (advanceThreads code after position ts moved).2 = some m →
        P m.start ∧ m.stop = position := by
  have hreversed : ∀ {moved : List Thread}, (∀ t ∈ moved, P t.start) →
      ∀ t ∈ moved.reverse, P t.start := fun h t ht => h t (List.mem_reverse.mp ht)
  fun_induction advanceThreads code after position ts moved with
  | case1 moved =>
    refine ⟨hreversed hmoved, fun m hm => ?_⟩
    cases hm
  | case2 t ts moved hcode =>
    refine ⟨hreversed hmoved, fun m hm => ?_⟩
    cases hm
    exact ⟨(List.forall_mem_cons.mp hts).1, rfl⟩
  | case3 t ts moved s next c hafter hcode ih =>
    subst hafter
    obtain ⟨ht, hts⟩ := List.forall_mem_cons.mp hts
    refine ih hts ?_
    split
    · exact List.forall_mem_cons.mpr ⟨ht, hmoved⟩
    · exact hmoved
  | case4 t ts moved haccept hchar ih => exact ih (List.forall_mem_cons.mp hts).2 hmoved

end

namespace Automaton

theorem newThread_between {a : Automaton} {low position : Nat} {threads : List Thread}
    {best : Option Span} (hlow : low ≤ position)
    (hthreads : ∀ t ∈ threads, low ≤ t.start ∧ t.start ≤ position) :
    ∀ t ∈ if best.isNone then threads ++ [{ pc := a.start, start := position }] else threads,
      low ≤ t.start ∧ t.start ≤ position := by
  split
  · intro t ht
    rcases List.mem_append.mp ht with ht | ht
    · exact hthreads t ht
    · rw [List.mem_singleton.mp ht]
      exact ⟨hlow, Nat.le_refl position⟩
  · exact hthreads

/-- What the threads make of one character: a match that they find replaces the best so
far. -/
theorem advance_between {code : Code} {before after : Option Char} {low position fuel : Nat}
    {threads moved : List Thread} {best found : Option Span} {seen : Array Bool}
    (hthreads : ∀ t ∈ threads, low ≤ t.start ∧ t.start ≤ position)
    (hbest : ∀ m, best = some m → m.Between low position)
    (hrun : advanceThreads code after position (expand code before after fuel threads seen []) [] =
      (moved, found)) :
    (∀ t ∈ moved, low ≤ t.start ∧ t.start ≤ position) ∧
      ∀ m, (found <|> best) = some m → m.Between low position := by
  have hnone : ∀ t ∈ ([] : List Thread), low ≤ t.start ∧ t.start ≤ position :=
    fun t ht => absurd ht List.not_mem_nil
  have hwaiting : ∀ t ∈ expand code before after fuel threads seen [],
      low ≤ t.start ∧ t.start ≤ position :=
    expand_starts (P := fun start => low ≤ start ∧ start ≤ position) hthreads hnone
  have hstarts := @advanceThreads_starts (fun start => low ≤ start ∧ start ≤ position) code after
    position _ [] hwaiting hnone
  rw [hrun] at hstarts
  refine ⟨hstarts.1, fun m hm => ?_⟩
  cases found with
  | none => exact hbest m hm
  | some m' =>
    cases hm
    obtain ⟨⟨hlow, hstart⟩, hstop⟩ := hstarts.2 m rfl
    exact ⟨hlow, by omega, by omega⟩

/-- The search keeps threads and matches between the position where it began and the one
it has reached. -/
theorem search_between {a : Automaton} {before : Option Char} {low position : Nat}
    {threads : List Thread} {best : Option Span} {rest : List Char} (hlow : low ≤ position)
    (hthreads : ∀ t ∈ threads, low ≤ t.start ∧ t.start ≤ position)
    (hbest : ∀ m, best = some m → m.Between low position) {m : Span}
    (hm : search a before position threads best rest = some m) :
    m.Between low (position + rest.length) := by
  fun_induction search a before position threads best rest with
  | case1 before position threads best threads' moved found best' after waiting hrun =>
    have hstep := advance_between (newThread_between hlow hthreads) hbest hrun
    exact hstep.2 m hm
  | case2 before position threads best threads' moved found best' c cs hdone after waiting hrun =>
    have hstep := advance_between (newThread_between hlow hthreads) hbest hrun
    exact (hstep.2 m hm).mono (Nat.le_add_right _ _)
  | case3 before position threads best threads' moved found best' c cs hgo after waiting hrun ih =>
    have hstep := advance_between (newThread_between hlow hthreads) hbest hrun
    have hnext := ih (Nat.le_succ_of_le hlow)
      (fun t ht => ⟨(hstep.1 t ht).1, Nat.le_succ_of_le (hstep.1 t ht).2⟩)
      (fun m hm => (hstep.2 m hm).mono (Nat.le_succ position)) hm
    rw [List.length_cons]
    exact hnext.mono (by omega)

end Automaton
end Regex
end Awk
