import Awk.Proofs.Descent

/-!
# How parsers go through statements

Outside of expressions brackets need not be balanced between one phrase and the next, but it is
still known of every list of things to print that no `>` stands behind it outside of brackets: the
expressions in the list do not take one, and a statement does not end at one.
-/

namespace Awk

/-! ## Redirections -/

namespace Token

namespace Kind

/-- What ends a statement other than the end of the text. -/
def endsStatement : Kind → Bool
  | mark .semicolon | mark .rightBrace | newline => true
  | _ => false

/-- By how much a token changes the depth in brackets. -/
def nesting : Kind → Int
  | mark .leftParen | mark .leftBracket => 1
  | mark .rightParen | mark .rightBracket => -1
  | _ => 0

theorem nesting_of_depth? {inPrint : Bool} {n j : Nat} {k : Kind}
    (h : k.depth? inPrint n = some j) : (n : Int) + k.nesting = j := by
  unfold depth? at h
  split at h
  case h_3 | h_4 =>
    split at h
    · cases h
    · cases h
      simp only [nesting]
      omega
  case h_5 =>
    split at h
    · cases h
    · cases h
      simp [nesting]
  case h_9 =>
    cases h
    unfold nesting
    split <;> simp_all
  all_goals
    cases h
    try simp [nesting]

theorem greater_of_depth? {inPrint : Bool} {n j : Nat} {k : Kind}
    (h : k.depth? inPrint n = some j) (hk : k.isMark .greater) : inPrint = true → n ≠ 0 := by
  rintro rfl rfl
  cases k with
  | mark m =>
    obtain rfl : m = .greater := by simpa [isMark] using hk
    cases h
  | _ => cases hk

end Kind

/-- Whether, behind a keyword `print`, a `>` comes at the depth of the keyword before the statement
ends there.  The depth is counted from that of the keyword. -/
def redirected : Int → List Token → Bool
  | _, [] => false
  | depth, t :: ts =>
    if t.kind.isEof then false
    else if depth = 0 ∧ t.kind.endsStatement then false
    else if depth = 0 ∧ t.kind.isMark .greater then true
    else redirected (depth + t.kind.nesting) ts

/-- A `>` that comes behind tokens of an expression is not one of them. -/
theorem redirected_of_depth? {inPrint : Bool} {i j : Nat} {ts : List Token}
    (h : depth? inPrint i ts = some j) {n : Int} (hn : 0 ≤ n) (hprint : inPrint = false → n ≠ 0)
    {rest : List Token} (hrest : redirected (n + i) (ts ++ rest)) : redirected (n + j) rest := by
  induction ts generalizing i with
  | nil =>
    cases h
    exact hrest
  | cons t ts ih =>
    obtain ⟨l, hl, hts⟩ := Option.bind_eq_some_iff.mp h
    refine ih hts ?_
    have hnesting := Kind.nesting_of_depth? hl
    rw [List.cons_append, redirected, if_neg (by simp [Kind.isEof_of_depth? hl])] at hrest
    split at hrest
    · cases hrest
    · split at hrest
      · next hgreater =>
        have hi := Kind.greater_of_depth? hl hgreater.2
        cases inPrint with
        | true =>
          have := hi rfl
          omega
        | false =>
          have := hprint rfl
          omega
      · have hdepth : n + i + t.kind.nesting = n + l := by omega
        rwa [hdepth] at hrest

/-- No list of things to print in the text has a redirection behind it. -/
def Undirected : List Token → Prop
  | [] => True
  | t :: ts => t.kind.isEof ∨ (t.kind.isPrint → redirected 0 ts = false) ∧ Undirected ts

theorem undirected_of_depth? {inPrint : Bool} {i j : Nat} {ts rest : List Token}
    (h : depth? inPrint i ts = some j) (hrest : Undirected rest) : Undirected (ts ++ rest) := by
  induction ts generalizing i with
  | nil => exact hrest
  | cons t ts ih =>
    obtain ⟨l, hl, hts⟩ := Option.bind_eq_some_iff.mp h
    exact .inr ⟨fun hprint => by simp [Kind.isPrint_of_depth? hl] at hprint, ih hts⟩

theorem undirected_atEnd {c : Cursor} (h : c.atEnd) : Undirected c.rest := by
  cases hrest : c.rest with
  | nil => trivial
  | cons t ts => exact .inl (by simpa [Cursor.atEnd, Cursor.kind?, hrest] using h)

theorem undirected_behind {before after : List Token} {t : Token}
    (h : Undirected (before ++ t :: after)) (hbefore : ∀ t ∈ before, t.kind.isEof = false)
    (ht : t.kind.isPrint) : redirected 0 after = false := by
  induction before with
  | nil =>
    rcases h with heof | ⟨hprint, -⟩
    · cases hk : t.kind <;> simp [hk, Kind.isEof, Kind.isPrint] at heof ht
    · exact hprint ht
  | cons b before ih =>
    obtain ⟨hb, hbefore⟩ := List.forall_mem_cons.mp hbefore
    rcases h with heof | ⟨-, h⟩
    · rw [hb] at heof
      cases heof
    · exact ih h hbefore

end Token

/-! ## Passing statements -/

namespace Cursor

/-- To pass at least `m` tokens, with no redirection in lists of things to print.  While a statement
is `unended`, that is known only if no redirection follows. -/
structure Passes (unended : Bool) (m : Nat) (c d : Cursor) : Prop where
  onward : c.Onward d
  length : d.rest.length + m ≤ c.rest.length
  undirected : (unended → Token.redirected 0 d.rest = false) → Token.Undirected d.rest →
    Token.Undirected c.rest

namespace Passes

variable {unended : Bool} {m n : Nat} {c d e : Cursor}

theorem refl (unended : Bool) (c : Cursor) : c.Passes unended 0 c :=
  ⟨.refl c, Nat.le_refl _, fun _ h => h⟩

theorem trans (h : c.Passes false m d) (h' : d.Passes unended n e) :
    c.Passes unended (m + n) e := by
  refine ⟨h.onward.trans h'.onward, ?_, fun hend hrest => h.undirected nofun ?_⟩
  · have := h.length
    have := h'.length
    omega
  · exact h'.undirected hend hrest

theorem mono (h : c.Passes unended m d) (hn : n ≤ m) : c.Passes unended n d :=
  ⟨h.onward, by have := h.length; omega, h.undirected⟩

end Passes

theorem TakesIn.passes {inPrint : Bool} {m i j : Nat} {c d : Cursor}
    (h : c.TakesIn inPrint m i j d) (unended : Bool) : c.Passes unended m d := by
  refine ⟨h.onward, h.length, fun _ hrest => ?_⟩
  obtain ⟨ts, hts, -, hdepth⟩ := h.tokens
  rw [hts]
  exact Token.undirected_of_depth? hdepth hrest

/-- To end a statement, at which no redirection follows. -/
structure Ends (c d : Cursor) : Prop where
  passes : c.Passes false 0 d
  undirected : Token.redirected 0 c.rest = false

theorem Passes.ends {m : Nat} {c d e : Cursor} (h : c.Passes true m d) (h' : d.Ends e) :
    c.Passes false m e := by
  refine ⟨h.onward.trans h'.passes.onward, ?_, fun _ hrest => ?_⟩
  · have := h.length
    have := h'.passes.length
    omega
  · exact h.undirected (fun _ => h'.undirected) (h'.passes.undirected nofun hrest)

/-- Behind a keyword, a list of things to print. -/
theorem Passes.printed {m : Nat} {c d : Cursor} {t : Token} {ts : List Token}
    (hc : c.rest = t :: ts) (ht : t.kind.isEof = false)
    (hd : ({ c with rest := ts } : Cursor).TakesIn true m 0 0 d) : c.Passes true 1 d := by
  have honward : c.Onward { c with rest := ts } := ⟨⟨[t], hc, by simpa using ht⟩, rfl, rfl⟩
  refine ⟨honward.trans hd.onward, ?_, fun hend hrest => ?_⟩
  · have hlength : d.rest.length ≤ ts.length := hd.onward.length_le
    rw [hc, List.length_cons]
    omega
  · obtain ⟨us, hus, -, hdepth⟩ := hd.tokens
    obtain rfl : ts = us ++ d.rest := hus
    rw [hc]
    refine .inr ⟨fun _ => ?_, Token.undirected_of_depth? hdepth hrest⟩
    -- A redirection behind the keyword would be one behind the list.
    cases hprinted : Token.redirected 0 (us ++ d.rest) with
    | false => rfl
    | true =>
      have hbehind : Token.redirected 0 d.rest = true :=
        Token.redirected_of_depth? (n := 0) hdepth (Int.le_refl 0) nofun hprinted
      exact hbehind.symm.trans (hend rfl)

end Cursor

/-- `x` passes at least `m` tokens like `y`. -/
abbrev PassesAlike (L : Location → Prop) (k : Nat) (unended : Bool) (m : Nat) {α : Type}
    (P : α → Prop) (x y : Parser α) (c : Cursor) : Prop :=
  Alike L k (Cursor.Passes unended m) P x y c

namespace PassesAlike

variable {L : Location → Prop} {k m n i j : Nat} {unended : Bool} {α β : Type} {P : α → Prop}
  {Q : β → Prop} {x y : Parser α} {f g : α → Parser β} {c : Cursor}

theorem of_reads (h : ReadsAlike L k m i j P x y c) (unended : Bool) :
    PassesAlike L k unended m P x y c :=
  h.mono (Nat.le_refl k) fun _ hd => hd.passes unended

theorem pure {a : α} (h : P a) : PassesAlike L k unended 0 P (pure a) (pure a) c :=
  .ends rfl (.refl unended c) h

theorem bind (hx : PassesAlike L k false n P x y c)
    (hf : ∀ a d, P a → PassesAlike L k unended m Q (f a) (g a) d) :
    PassesAlike L k unended m Q (x >>= f) (y >>= g) c :=
  hx.bind_of hf (Nat.le_add_right k 0) (fun _ hd => hd.onward) (fun _ hd => hd.onward.length_le)
    fun _ _ hd he => (hd.trans he).mono (Nat.le_add_left m n)

/-- What is passed first counts. -/
theorem first (hx : PassesAlike L k false m P x y c)
    (hf : ∀ a d, P a → PassesAlike L k unended 0 Q (f a) (g a) d) :
    PassesAlike L k unended m Q (x >>= f) (y >>= g) c :=
  hx.bind_of hf (Nat.le_add_right k 0) (fun _ hd => hd.onward) (fun _ hd => hd.onward.length_le)
    fun _ _ hd he => hd.trans he

/-- Behind a token that is passed, one token less is left. -/
theorem andThen (hx : PassesAlike L (k + 1) false 1 P x y c)
    (hf : ∀ a d, P a → PassesAlike L k unended 0 Q (f a) (g a) d) :
    PassesAlike L (k + 1) unended 1 Q (x >>= f) (y >>= g) c :=
  hx.bind_of hf (Nat.le_refl (k + 1)) (fun _ hd => hd.onward) (fun _ hd => hd.length)
    fun _ _ hd he => hd.trans he

/-- A turn of a loop, and the turns behind it. -/
theorem turn (hx : PassesAlike L k false 1 P x y c)
    (hf : ∀ a d, P a → PassesAlike L (k - 1) unended 0 Q (f a) (g a) d) :
    PassesAlike L k unended 0 Q (x >>= f) (y >>= g) c :=
  hx.bind_of hf (m := 1) (by omega) (fun _ hd => hd.onward) (fun _ hd => hd.length)
    fun _ _ hd he => (hd.trans he).mono (Nat.zero_le _)

/-- The end of a statement. -/
theorem ended (hx : PassesAlike L k true m P x y c)
    (hf : ∀ a d, P a → Alike L k Cursor.Ends Q (f a) (g a) d) :
    PassesAlike L k false m Q (x >>= f) (y >>= g) c :=
  hx.bind_of hf (Nat.le_add_right k 0) (fun _ hd => hd.onward) (fun _ hd => hd.onward.length_le)
    fun _ _ hd he => hd.ends he

theorem shorter (h : PassesAlike L k unended m P x y c) :
    PassesAlike L (k - 1) unended m P x y c :=
  h.mono (Nat.sub_le k 1) fun _ hd => hd

theorem tries {x : Parser Bool} {f g : Bool → Parser β} (hx : ReadsAlike.Tries i j x c)
    (htaken : ∀ d, PassesAlike L k unended 0 Q (f true) (g true) d)
    (hleft : PassesAlike L k unended 0 Q (f false) (g false) c) :
    PassesAlike L k unended 0 Q (x >>= f) (x >>= g) c := by
  obtain ⟨d, hd, hrun⟩ | hrun := hx
  · have hx : PassesAlike L k false 0 (· = true) x x c :=
      .ends hrun ((hd.mono (Nat.zero_le 1)).passes false) rfl
    refine hx.bind fun a d ha => ?_
    rw [ha]
    exact htaken d
  · exact .of_run (bind_of_ok hrun) (bind_of_ok hrun) hleft

theorem skipTerminators :
    PassesAlike L k unended 0 (fun _ => True) Parser.skipTerminators Parser.skipTerminators c := by
  refine .ends rfl ((Cursor.Takes.dropWhile (fun t ht inPrint i => ?_) 0 c).passes unended) trivial
  cases hk : t.kind with
  | newline => rfl
  | mark m =>
    obtain rfl : m = .semicolon := by
      simpa [hk, Token.Kind.isNewline, Token.Kind.isMark] using ht
    rfl
  | _ => simp [hk, Token.Kind.isNewline, Token.Kind.isMark] at ht

end PassesAlike

/-- `x` goes through a list of things to print like `y`. -/
abbrev PrintsAlike (L : Location → Prop) (k : Nat) {α : Type} (x y : Parser α) (c : Cursor) :
    Prop :=
  Alike L k (Cursor.TakesIn true 0 0 0) (fun _ => True) x y c

namespace PrintsAlike

variable {L : Location → Prop} {k : Nat} {α β : Type} {x y : Parser α} {f g : α → Parser β}
  {c : Cursor}

theorem pure (a : α) : PrintsAlike L k (pure a) (pure a) c := .ends rfl (.refl true 0 c) trivial

theorem bind (hx : PrintsAlike L k x y c) (hf : ∀ a d, PrintsAlike L k (f a) (g a) d) :
    PrintsAlike L k (x >>= f) (y >>= g) c :=
  hx.bind_of (fun a d _ => hf a d) (Nat.le_add_right k 0) (fun _ hd => hd.onward)
    (fun _ hd => hd.onward.length_le) fun _ _ hd he => hd.trans he

end PrintsAlike

/-- A keyword and the list of things to print behind it. -/
theorem PassesAlike.printed {L : Location → Prop} {k : Nat} {α : Type} {x y : Parser α} {c : Cursor}
    {kind : Token.Kind} (hkind : c.kind? = some kind) (heof : kind.isEof = false)
    (hx : ∀ d, PrintsAlike L k x y d) :
    PassesAlike L (k + 1) true 1 (fun _ => True) (do Parser.advance; x) (do Parser.advance; y)
      c := by
  obtain ⟨t, ts, hrest, rfl⟩ := kind?_eq_some hkind
  have hadvance : Alike L (k + 1) (fun _ d => d = { c with rest := ts }) (fun _ => True)
      Parser.advance Parser.advance c :=
    .ends (advance_run hrest heof) rfl trivial
  have hrefl := Cursor.TakesIn.refl true 0 { c with rest := ts }
  refine hadvance.bind_of (fun _ d _ => hx d) (m := 1) (Nat.le_refl _) ?_ ?_ ?_
  · rintro d rfl
    exact (Cursor.Passes.printed hrest heof hrefl).onward
  · rintro d rfl
    exact (Cursor.Passes.printed hrest heof hrefl).length
  · rintro d e rfl he
    exact .printed hrest heof he

namespace Grammar

open ReadsAlike (accept_tries acceptKeyword_tries)

/-! ## Statements -/

section Ends

variable {L : Location → Prop} {k : Nat} {c : Cursor}

theorem endOfStatement_ends :
    Alike L k Cursor.Ends (fun _ => True) endOfStatement endOfStatement c := by
  refine .get_bind fun _ => ?_
  have hleft : ∀ {kind : Token.Kind}, c.kind? = some kind → kind.endsStatement →
      Token.redirected 0 c.rest = false := by
    intro kind hkind hends
    obtain ⟨t, ts, hrest, rfl⟩ := kind?_eq_some hkind
    simp [hrest, Token.redirected, hends]
  have hended : ∀ {kind : Token.Kind}, c.kind? = some kind → kind.endsStatement →
      kind.depth? c.inPrint 0 = some 0 →
      Alike L k Cursor.Ends (fun _ => True) Parser.advance Parser.advance c := by
    intro kind hkind hends hdepth
    refine (ReadsAlike.advance hkind hdepth).mono (Nat.le_refl k) fun d hd => ?_
    exact ⟨(hd.mono (Nat.zero_le 1)).passes false, hleft hkind hends⟩
  have hend : Alike L k Cursor.Ends (fun _ => True)
      (unless c.atEnd do Parser.unexpected "end of statement")
      (unless c.atEnd do Parser.unexpected "end of statement") c := by
    cases hc : c.atEnd with
    | false => exact .unexpected _
    | true =>
      refine .ends rfl ⟨.refl false c, ?_⟩ trivial
      unfold Cursor.atEnd at hc
      split at hc
      · next kind hkind =>
        obtain ⟨t, ts, hrest, rfl⟩ := kind?_eq_some hkind
        simp [hrest, Token.redirected, hc]
      · next hkind =>
        have hrest : c.rest = [] := by simpa [Cursor.kind?] using hkind
        rw [hrest]
        rfl
  cases hkind : c.kind? with
  | none => exact hend
  | some kind =>
    cases kind with
    | newline => exact hended hkind rfl rfl
    | mark m =>
      cases m with
      | semicolon => exact hended hkind rfl rfl
      | rightBrace => exact .ends rfl ⟨.refl false c, hleft hkind rfl⟩ trivial
      | _ => exact hend
    | _ => exact hend

theorem endOfStatement_returns {α : Type} (a : α) :
    Alike L k Cursor.Ends (fun _ => True) (do endOfStatement; return a)
      (do endOfStatement; return a) c :=
  endOfStatement_ends.bind_of (fun _ _ _ => PassesAlike.pure trivial) (Nat.le_add_right k 0)
    (fun _ hd => hd.passes.onward) (fun _ hd => hd.passes.onward.length_le)
    fun _ _ hd he => ⟨hd.passes.trans he, hd.undirected⟩

theorem endOfStatement_alike :
    PassesAlike L k false 0 (fun _ => True) endOfStatement endOfStatement c :=
  endOfStatement_ends.mono (Nat.le_refl k) fun _ hd => hd.passes

end Ends

theorem rejectRedirection_alike {L : Location → Prop} {k : Nat} (c : Cursor) :
    PrintsAlike L k rejectRedirection rejectRedirection c := by
  refine .get_bind fun _ => ?_
  split
  case h_4 => exact PrintsAlike.pure ()
  all_goals exact .fail _

/-- A header of a loop over an array ends its parentheses. -/
theorem forInHeader?_takes {c d : Cursor} {var array : String}
    (h : forInHeader? c = some (var, array, d)) : c.Takes 0 1 0 d := by
  unfold forInHeader? at h
  split at h
  · next hrest =>
    cases h
    exact ⟨⟨[_, _, _, _], hrest, Nat.zero_le 4, rfl⟩, rfl, rfl⟩
  · cases h

/-- Parsers of nested phrases that parse alike. -/
structure Phrases.ParseAlike (L : Location → Prop) (k : Nat) (phrases other : Phrases) : Prop
    extends phrases.ReadAlike L k other where
  statement : ∀ c, PassesAlike L k false 1 (fun _ => True) phrases.statement other.statement c

theorem blockBody_alike {L : Location → Prop} {k n n' : Nat} {statement other : Parser Stmt}
    (hk : k ≤ n) (hn : n ≤ n')
    (hstatement : ∀ c, PassesAlike L k false 1 (fun _ => True) statement other c) (c : Cursor) :
    PassesAlike L k false 0 (fun _ => True) (blockBody statement n) (blockBody other n') c := by
  induction n generalizing n' k c with
  | zero =>
    obtain rfl : k = 0 := by omega
    exact Alike.zero (k := 0) (PassesAlike.pure trivial)
  | succ n ih =>
    obtain ⟨n', rfl⟩ : ∃ m, n' = m + 1 := ⟨n' - 1, by omega⟩
    refine .get_bind fun _ => ?_
    split
    · exact PassesAlike.pure trivial
    · split
      · exact .fail _
      · refine (hstatement c).turn fun _ _ _ => PassesAlike.skipTerminators.bind fun _ d _ => ?_
        exact (ih (by omega) (by omega) (fun c => (hstatement c).shorter) d).bind
          fun _ _ _ => .pure trivial

namespace Phrases.ReadAlike

variable {L : Location → Prop} {k n n' : Nat} {self other : Phrases}
  (h : self.ReadAlike L k other) (hk : k ≤ n) (hn : n ≤ n')

include h

theorem optionalExpression (c : Cursor) :
    ReadsAlike L k 0 0 0 (fun _ => True) (Grammar.optionalExpression self)
      (Grammar.optionalExpression other) c := by
  refine .get_bind fun _ => ?_
  split
  · exact (h.expression c).optional.mono (Nat.le_refl k) fun _ hd => hd.mono (Nat.zero_le 1)
  · exact ReadsAlike.pure trivial

theorem condition (c : Cursor) :
    ReadsAlike L k 0 0 0 (fun _ => True) (Grammar.condition self) (Grammar.condition other) c := by
  refine (ReadsAlike.expect (j := 1) fun _ => rfl).bind fun _ _ _ => ?_
  refine (ReadsAlike.nested (h.expression _)).bind fun _ _ _ => ?_
  exact (ReadsAlike.expect (j := 0) fun _ => rfl).bind fun _ _ _ => .pure trivial

/-- A clause of a loop header stands in its parentheses. -/
theorem forClause {terminator : Mark} {j : Nat}
    (hdepth : ∀ inPrint, (Token.Kind.mark terminator).depth? inPrint 1 = some j) (c : Cursor) :
    ReadsAlike L k 0 1 j (fun _ => True) (Grammar.forClause self terminator)
      (Grammar.forClause other terminator) c := by
  have hend : ∀ (clause : Option Expr) (d : Cursor), ReadsAlike L k 0 1 j (fun _ => True)
      (do Parser.expect terminator; Parser.skipNewlines; return clause)
      (do Parser.expect terminator; Parser.skipNewlines; return clause) d :=
    fun _ _ => (ReadsAlike.expect hdepth).bind fun _ _ _ =>
      ReadsAlike.skipNewlines.bind fun _ _ _ => .pure trivial
  refine .get_bind fun _ => ?_
  split
  · exact hend none c
  · exact (ReadsAlike.nested (h.expression _)).optional.bind fun clause d _ => hend clause d

include hk hn

/-- Arguments in parentheses are taken with the parentheses, or nothing is. -/
theorem printGroup? (c : Cursor) :
    PrintsAlike L k (Grammar.printGroup? self n) (Grammar.printGroup? other n') c := by
  cases hparen : c.isMark .leftParen with
  | false =>
    have hnone : ∀ self n, Grammar.printGroup? self n c = .ok none c := by
      intro self n
      simp [Grammar.printGroup?, hparen]
    refine .of_run (hnone self n) (hnone other n') ?_
    exact .ends (x := pure none) rfl (.refl true 0 c) trivial
  | true =>
    have hopen : c.TakesIn true 1 0 1 c.advance :=
      .advance (Cursor.kind?_of_isMark hparen) rfl
    intro hc
    obtain ⟨hsame, hend⟩ := ReadsAlike.withPrint (c := c.advance) false
      (expressionList_alike hk hn h.expression _) (hc.onward hopen.onward)
    simp only [Grammar.printGroup?, Parser.nested, if_pos hparen]
    refine ⟨fun hlt => ?_, ?_⟩
    · rw [hsame (Nat.lt_of_le_of_lt hopen.onward.length_le hlt)]
    · cases hrun : Parser.withPrint false (expressionList self.expression n) c.advance with
      -- The attempt is given up, with its error and all that it has read.
      | error e d => exact ⟨.refl true 0 c, trivial⟩
      | ok es d =>
        rw [hrun] at hend
        dsimp only
        by_cases hclose : (d.isMark .rightParen && atPrintEnd d.advance) = true
        · have hclosed : d.TakesIn true 1 1 0 d.advance :=
            .advance (Cursor.kind?_of_isMark (Bool.and_eq_true_iff.mp hclose).1) rfl
          rw [if_pos hclose]
          refine ⟨?_, trivial⟩
          exact ((hopen.trans (hend.1.nested true)).trans hclosed).mono (Nat.zero_le _)
        · rw [if_neg hclose]
          exact ⟨.refl true 0 c, trivial⟩

theorem printArguments (c : Cursor) :
    PrintsAlike L k (Grammar.printArguments self n) (Grammar.printArguments other n') c := by
  have hreject : ∀ (es : List Expr) (d : Cursor), PrintsAlike L k
      (do rejectRedirection; return es) (do rejectRedirection; return es) d :=
    fun es d => (rejectRedirection_alike d).bind fun _ _ => .pure es
  refine (h.printGroup? hk hn c).bind fun es d => ?_
  cases es with
  | some es => exact hreject es d
  | none =>
    refine .get_bind fun _ => ?_
    split
    · have hlist := ReadsAlike.withPrint (c := d) true
        (expressionList_alike hk hn h.expression _)
      exact PrintsAlike.bind hlist hreject
    · exact hreject [] d

theorem simpleStatement (c : Cursor) :
    PassesAlike L (k + 1) true 1 (fun _ => True) (Grammar.simpleStatement self n)
      (Grammar.simpleStatement other n') c := by
  have hexpr : ReadsAlike L (k + 1) 1 0 0 (fun _ => True)
      (do return Stmt.expr (← Grammar.assignment self n))
      (do return Stmt.expr (← Grammar.assignment other n')) c :=
    (h.assignment hk hn c).andThen fun _ _ _ => .pure trivial
  have hexpr := PassesAlike.of_reads hexpr true
  have hword : ∀ {w : Keyword}, c.kind? = some (.keyword w) →
      (Token.Kind.keyword w).depth? c.inPrint 0 = some 0 → ∀ {x y : Parser Stmt},
      (∀ d, ReadsAlike L k 0 0 0 (fun _ => True) x y d) →
      PassesAlike L (k + 1) true 1 (fun _ => True) (do Parser.advance; x)
        (do Parser.advance; y) c :=
    fun hkind hdepth _ _ hx =>
      .of_reads ((ReadsAlike.advance hkind hdepth).andThen fun _ d _ => hx d) true
  have hprint : ∀ {w : Keyword}, c.kind? = some (.keyword w) → ∀ {f : List Expr → Parser Stmt},
      (∀ es d, PrintsAlike L k (f es) (f es) d) →
      PassesAlike L (k + 1) true 1 (fun _ => True)
        (do Parser.advance; f (← Grammar.printArguments self n))
        (do Parser.advance; f (← Grammar.printArguments other n')) c :=
    fun hkind _ hf => .printed hkind rfl fun d => (h.printArguments hk hn d).bind hf
  refine .get_bind fun _ => ?_
  cases hkind : c.kind? with
  | none => exact .unexpected _
  | some kind =>
    cases kind with
    | keyword w =>
      cases w with
      | break_ | continue_ | next | nextFile => exact hword hkind rfl fun _ => .pure trivial
      | exit | return_ =>
        exact hword hkind rfl fun d => (h.optionalExpression d).bind fun _ _ _ => .pure trivial
      | delete =>
        refine hword hkind rfl fun d => ReadsAlike.expectIdentifier.bind fun _ d _ => ?_
        refine (accept_tries (fun _ => rfl) d).bind (Nat.le_succ k) (Nat.zero_le 1) (fun d => ?_) ?_
        · exact (h.subscripts hk hn d).bind fun _ _ _ => .pure trivial
        · exact (ReadsAlike.pure (P := fun _ => True) trivial).bind fun _ _ _ => .pure trivial
      | print => exact hprint hkind fun _ _ => .pure _
      | printf =>
        refine hprint hkind fun es _ => ?_
        cases es with
        | nil => exact .fail _
        | cons e es => exact .pure _
      | _ => exact hexpr
    | _ => exact hexpr

end Phrases.ReadAlike

namespace Phrases.ParseAlike

variable {L : Location → Prop} {k n n' : Nat} {self other : Phrases}
  (h : self.ParseAlike L k other) (hk : k ≤ n) (hn : n ≤ n')

include h

theorem loopBody (c : Cursor) :
    PassesAlike L k false 0 (fun _ => True) (Grammar.loopBody self) (Grammar.loopBody other) c := by
  refine .tries (accept_tries (i := 0) (fun _ => rfl) c) (fun _ => .pure trivial) ?_
  exact (PassesAlike.of_reads (i := 0) .skipNewlines false).bind fun _ d _ =>
    (h.statement d).mono (Nat.le_refl k) fun _ hd => hd.mono (Nat.zero_le 1)

/-- Without an `else`, what was skipped to look for one is left to be read again. -/
theorem ifStatement (place : Location) (c : Cursor) :
    PassesAlike L k false 0 (fun _ => True) (Grammar.ifStatement self place)
      (Grammar.ifStatement other place) c := by
  refine (PassesAlike.of_reads (h.condition c) false).bind fun test _ _ => ?_
  refine (PassesAlike.of_reads (i := 0) .skipNewlines false).bind fun _ d _ => ?_
  refine (h.statement d).bind fun ifTrue before _ => .get_bind fun _ => ?_
  have hskip : ∀ {β : Type} (f : Unit → Parser β), (Parser.skipTerminators >>= f) before = f () _ :=
    fun _ => bind_of_ok rfl
  obtain ⟨e, -, hrun⟩ | hrun := acceptKeyword_tries (i := 0) (w := .else_) (fun _ => rfl)
    { before with
      rest := before.rest.dropWhile fun t => t.kind.isNewline || t.kind.isMark .semicolon }
  · -- The `else` is known to be there, so it may as well be expected.
    have hexpect := bind_of_ok (f := fun taken => unless taken do
      Parser.unexpected (Token.Kind.keyword .else_).describe) hrun
    have helse : ∀ statement : Parser Stmt,
        (do Parser.skipTerminators
            if ← Parser.acceptKeyword .else_ then
              Parser.skipNewlines
              return Stmt.ifElse test ifTrue (some (← statement)) place
            else
              set before
              return .ifElse test ifTrue none place : Parser Stmt) before =
          (do Parser.skipTerminators
              Parser.expectKeyword .else_
              Parser.skipNewlines
              return Stmt.ifElse test ifTrue (some (← statement)) place : Parser Stmt) before := by
      intro statement
      rw [hskip, hskip, bind_of_ok hrun, Parser.expectKeyword, bind_of_ok hexpect]
      rfl
    refine .of_run (helse _) (helse _) (PassesAlike.skipTerminators.bind fun _ _ _ => ?_)
    refine (PassesAlike.of_reads (i := 0) (.expectKeyword fun _ => rfl) false).bind fun _ _ _ => ?_
    refine (PassesAlike.of_reads (i := 0) .skipNewlines false).bind fun _ d _ => ?_
    exact (h.statement d).bind fun _ _ _ => .pure trivial
  · have hnone : ∀ taken : Parser Stmt,
        (do Parser.skipTerminators
            if ← Parser.acceptKeyword .else_ then taken
            else
              set before
              return .ifElse test ifTrue none place : Parser Stmt) before =
          .ok (.ifElse test ifTrue none place) before := by
      intro taken
      rw [hskip, bind_of_ok hrun]
      rfl
    refine .of_run (hnone _) (hnone _) ?_
    exact PassesAlike.pure (a := Stmt.ifElse test ifTrue none place) trivial

theorem whileStatement (place : Location) (c : Cursor) :
    PassesAlike L k false 0 (fun _ => True) (Grammar.whileStatement self place)
      (Grammar.whileStatement other place) c :=
  (PassesAlike.of_reads (h.condition c) false).bind fun _ d _ =>
    (h.loopBody d).bind fun _ _ _ => .pure trivial

theorem doStatement (place : Location) (c : Cursor) :
    PassesAlike L k false 0 (fun _ => True) (Grammar.doStatement self place)
      (Grammar.doStatement other place) c := by
  refine (PassesAlike.of_reads (i := 0) .skipNewlines false).bind fun _ d _ => ?_
  refine (h.statement d).bind fun _ _ _ => PassesAlike.skipTerminators.bind fun _ _ _ => ?_
  refine (PassesAlike.of_reads (i := 0) (.expectKeyword fun _ => rfl) false).bind fun _ d _ => ?_
  refine (PassesAlike.of_reads (h.condition d) false).bind fun _ _ _ => ?_
  exact endOfStatement_alike.bind fun _ _ _ => .pure trivial

theorem forStatement (place : Location) (c : Cursor) :
    PassesAlike L k false 0 (fun _ => True) (Grammar.forStatement self place)
      (Grammar.forStatement other place) c := by
  refine (PassesAlike.of_reads (i := 0) (.expect fun _ => rfl) false).bind fun _ d _ => ?_
  refine .get_bind fun _ => ?_
  cases hheader : forInHeader? d with
  | some header =>
    obtain ⟨var, array, e⟩ := header
    have hset : PassesAlike L k false 0 (fun _ => True) (set e) (set e) d :=
      .ends rfl ((forInHeader?_takes hheader).passes false) trivial
    exact hset.bind fun _ d _ => (h.loopBody d).bind fun _ _ _ => .pure trivial
  | none =>
    refine (PassesAlike.of_reads (h.forClause (fun _ => rfl) d) false).bind fun _ d _ => ?_
    refine (PassesAlike.of_reads (h.forClause (fun _ => rfl) d) false).bind fun _ d _ => ?_
    refine (PassesAlike.of_reads (h.forClause (fun _ => rfl) d) false).bind fun _ d _ => ?_
    exact (h.loopBody d).bind fun _ _ _ => .pure trivial

include hk hn

theorem block (c : Cursor) :
    PassesAlike L (k + 1) false 1 (fun _ => True) (Grammar.block self n) (Grammar.block other n')
      c := by
  refine .place_bind fun _ => ?_
  refine (PassesAlike.of_reads (i := 0) (.expect fun _ => rfl) false).andThen fun _ _ _ => ?_
  refine PassesAlike.skipTerminators.bind fun _ d _ => ?_
  refine (blockBody_alike hk hn h.statement d).bind fun _ _ _ => ?_
  exact (PassesAlike.of_reads (i := 0) (.expect fun _ => rfl) false).bind fun _ _ _ => .pure trivial

theorem statementLevel (c : Cursor) :
    PassesAlike L (k + 1) false 1 (fun _ => True) (Grammar.statement self n)
      (Grammar.statement other n') c := by
  refine (PassesAlike.of_reads (i := 0) .skipNewlines false).bind fun _ d _ => ?_
  refine .get_bind fun _ => ?_
  have hword : ∀ {kind : Token.Kind}, d.kind? = some kind →
      kind.depth? d.inPrint 0 = some 0 → ∀ {x y : Parser Stmt},
      (∀ d, PassesAlike L k false 0 (fun _ => True) x y d) →
      PassesAlike L (k + 1) false 1 (fun _ => True) (do Parser.advance; x)
        (do Parser.advance; y) d :=
    fun hkind hdepth _ _ hx =>
      (PassesAlike.of_reads (.advance hkind hdepth) false).andThen fun _ d _ => hx d
  have hsimple : PassesAlike L (k + 1) false 1 (fun _ => True)
      (do let s ← Grammar.simpleStatement self n; endOfStatement; return s)
      (do let s ← Grammar.simpleStatement other n'; endOfStatement; return s) d :=
    (h.simpleStatement hk hn d).ended fun s _ _ => endOfStatement_returns s
  cases hkind : d.kind? with
  | none => exact hsimple
  | some kind =>
    cases kind with
    | mark m =>
      cases m with
      | semicolon => exact hword hkind rfl fun _ => .pure trivial
      | leftBrace =>
        exact (h.block hk hn d).andThen fun _ _ _ => .pure trivial
      | _ => exact hsimple
    | keyword w =>
      cases w with
      | if_ => exact hword hkind rfl fun d => h.ifStatement _ d
      | while_ => exact hword hkind rfl fun d => h.whileStatement _ d
      | for_ => exact hword hkind rfl fun d => h.forStatement _ d
      | do_ => exact hword hkind rfl fun d => h.doStatement _ d
      | _ => exact hsimple
    | _ => exact hsimple

end Phrases.ParseAlike
end Grammar
end Awk
