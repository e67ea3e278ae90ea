import Awk.Proofs.StatementDescent

/-!
# How parsers go through whole programs

A program is read rule by rule and function by function, each of which takes a token, up to the end
of the text.  With as many steps to nested phrases as there are tokens, and one more, no phrase is
nested too deep to be read.
-/

namespace Awk

namespace Cursor

/-- To go on to the end of a text, if there are fewer than `n` tokens. -/
structure Finishes (n : Nat) (c d : Cursor) : Prop where
  passes : c.Passes false 0 d
  atEnd : c.rest.length < n → d.atEnd

theorem Finishes.refl {c : Cursor} (h : c.atEnd) (n : Nat) : c.Finishes n c :=
  ⟨.refl false c, fun _ => h⟩

theorem Finishes.of_passes {m n : Nat} {c d e : Cursor} (h : c.Passes false m d)
    (h' : d.Finishes (n - m) e) : c.Finishes n e := by
  refine ⟨(h.trans h'.passes).mono (Nat.zero_le _), fun hn => h'.atEnd ?_⟩
  have := h.length
  omega

end Cursor

theorem PassesAlike.finishes {L : Location → Prop} {k m n : Nat} {α β : Type} {P : α → Prop}
    {Q : β → Prop} {x y : Parser α} {f g : α → Parser β} {c : Cursor}
    (hx : PassesAlike L k false m P x y c)
    (hf : ∀ a d, P a → Alike L (k - m) (Cursor.Finishes (n - m)) Q (f a) (g a) d) :
    Alike L k (Cursor.Finishes n) Q (x >>= f) (y >>= g) c :=
  hx.bind_of hf (m := m) (by omega) (fun _ hd => hd.onward) (fun _ hd => hd.length)
    fun _ _ hd he => .of_passes hd he

def Function.PlacedIn (L : Location → Prop) (f : Function) : Prop := L f.place

namespace Grammar

open ReadsAlike (accept_tries)

/-! ## Rules and functions -/

theorem parameters_alike {L : Location → Prop} {k n n' : Nat} (function : String)
    (seen : List String) (hk : k ≤ n) (hn : n ≤ n') (c : Cursor) :
    ReadsAlike L k 0 0 0 (fun _ => True) (parameters function n seen)
      (parameters function n' seen) c := by
  induction n generalizing n' k seen c with
  | zero =>
    obtain rfl : k = 0 := by omega
    exact Alike.zero (k := 0) (ReadsAlike.pure trivial)
  | succ n ih =>
    obtain ⟨n', rfl⟩ : ∃ m, n' = m + 1 := ⟨n' - 1, by omega⟩
    refine ReadsAlike.expectIdentifier.turn fun param d _ => ?_
    split
    · exact .fail _
    · refine (accept_tries (fun _ => rfl) d).bind (Nat.le_succ _) (Nat.zero_le 1) (fun d => ?_)
        (ReadsAlike.pure trivial)
      exact ih _ (by omega) (by omega) d

theorem functionName_alike {L : Location → Prop} {k : Nat} (c : Cursor) :
    ReadsAlike L k 0 0 0 (fun _ => True) functionName functionName c := by
  refine .get_bind fun _ => ?_
  cases hkind : c.kind? with
  | none => exact .unexpected _
  | some kind =>
    cases kind with
    | funcName name | identifier name =>
      exact (ReadsAlike.advance hkind rfl).bind fun _ _ _ => .pure trivial
    | builtin b => exact .fail _
    | _ => exact .unexpected _

/-- The action that a special pattern requires is looked for behind newlines. -/
theorem special_alike {L : Location → Prop} {k : Nat} (p : Pattern) (keyword : String)
    {kind : Token.Kind} {c : Cursor} (hkind : c.kind? = some kind)
    (hdepth : kind.depth? c.inPrint 0 = some 0) :
    ReadsAlike L k 1 0 0 (fun _ => True) (special p keyword) (special p keyword) c := by
  have hadvance : ReadsAlike L (k + 1) 1 0 0 (fun _ => True) Parser.advance Parser.advance c :=
    .advance hkind hdepth
  refine (hadvance.andThen fun _ _ _ => ?_).mono (Nat.le_succ k) fun _ hd => hd
  refine ReadsAlike.skipNewlines.bind fun _ _ _ => .get_bind fun _ => ?_
  split
  · exact ReadsAlike.pure trivial
  · exact .fail _

namespace Phrases.ParseAlike

variable {L : Location → Prop} {k m m' n n' : Nat} {self other : Phrases}
  (h : self.ParseAlike L k other) (hk : k ≤ n) (hn : n ≤ n')

include h

theorem test (c : Cursor) :
    ReadsAlike L k 1 0 0 (fun _ => True) (Grammar.test self) (Grammar.test other) c := by
  refine (h.expression c).first fun e _ _ => ?_
  split <;> exact ReadsAlike.pure trivial

theorem testOrRange (c : Cursor) :
    ReadsAlike L k 1 0 0 (fun _ => True) (Grammar.testOrRange self) (Grammar.testOrRange other)
      c := by
  refine (h.test c).first fun _ d _ => ?_
  refine (accept_tries (fun _ => rfl) d).bind (Nat.le_succ k) (Nat.zero_le 1) (fun d => ?_)
    (.pure trivial)
  refine ReadsAlike.skipNewlines.bind fun _ d _ => ?_
  exact (h.test d).bind fun _ _ _ => .pure trivial

include hk hn

theorem functionDefinition (c : Cursor) :
    PassesAlike L (k + 1) false 1 (Function.PlacedIn L) (Grammar.functionDefinition self n)
      (Grammar.functionDefinition other n') c := by
  refine .place_bind fun hplace => ?_
  refine (PassesAlike.of_reads (i := 0) (.expectKeyword fun _ => rfl) false).andThen fun _ d _ => ?_
  refine (PassesAlike.of_reads (functionName_alike d) false).bind fun name _ _ => ?_
  refine (PassesAlike.of_reads (i := 0) (.expect fun _ => rfl) false).bind fun _ d _ => ?_
  have hbody : ∀ (params : List String) (d : Cursor), PassesAlike L k false 0 (Function.PlacedIn L)
      (do Parser.expect .rightParen
          Parser.skipNewlines
          let body ← Grammar.block self n
          return { name, params, arrayParams := params.map fun _ => false, body, place := c.place })
      (do Parser.expect .rightParen
          Parser.skipNewlines
          let body ← Grammar.block other n'
          return { name, params, arrayParams := params.map fun _ => false, body, place := c.place })
      d := by
    intro params d
    refine (PassesAlike.of_reads (i := 1) (.expect fun _ => rfl) false).bind fun _ _ _ => ?_
    refine (PassesAlike.of_reads (i := 0) .skipNewlines false).bind fun _ d _ => ?_
    exact (h.block hk hn d).shorter.bind fun _ _ _ => .pure hplace
  refine .get_bind fun _ => ?_
  split
  · exact hbody [] d
  · exact (PassesAlike.of_reads (parameters_alike name [] hk hn d) false).bind
      fun params d _ => hbody params d

theorem rule (c : Cursor) :
    PassesAlike L k false 1 (fun _ => True) (Grammar.rule self n) (Grammar.rule other n') c := by
  have haction : ∀ (pattern : Option Pattern) (d : Cursor), PassesAlike L k false 1 (fun _ => True)
      (do return { pattern, action := some (← Grammar.block self n), place := c.place : Rule })
      (do return { pattern, action := some (← Grammar.block other n'), place := c.place : Rule })
      d :=
    fun _ d => (h.block hk hn d).shorter.first fun _ _ _ => .pure trivial
  have hrest : ∀ (pattern : Option Pattern) (d : Cursor), PassesAlike L k false 0 (fun _ => True)
      (do if (← get).isMark .leftBrace then
            return { pattern, action := some (← Grammar.block self n), place := c.place : Rule }
          else
            endOfStatement
            return { pattern, action := none, place := c.place })
      (do if (← get).isMark .leftBrace then
            return { pattern, action := some (← Grammar.block other n'), place := c.place : Rule }
          else
            endOfStatement
            return { pattern, action := none, place := c.place }) d := by
    intro pattern d
    refine .get_bind fun _ => ?_
    split
    · exact (haction pattern d).mono (Nat.le_refl k) fun _ hd => hd.mono (Nat.zero_le 1)
    · exact endOfStatement_alike.bind fun _ _ _ => .pure trivial
  have htest := (PassesAlike.of_reads (h.testOrRange c).optional false).first
    fun pattern d _ => hrest pattern d
  refine .get_bind fun _ => ?_
  cases hkind : c.kind? with
  | none => exact htest
  | some kind =>
    cases kind with
    | keyword w =>
      cases w with
      | begin_ | end_ =>
        exact (PassesAlike.of_reads (special_alike _ _ hkind rfl) false).first
          fun pattern d _ => hrest pattern d
      | _ => exact htest
    | mark mark =>
      cases mark with
      | leftBrace =>
        -- The brace that shows that there is no pattern is the token that the rule takes.
        have hbrace : c.isMark .leftBrace = true := by
          simp [Cursor.isMark, hkind, Token.Kind.isMark]
        have hnone : ∀ {x y : Parser Rule},
            (get >>= fun d : Cursor => if d.isMark .leftBrace then x else y) c = x c := by
          intro x y
          rw [bind_of_ok (get_run c), if_pos hbrace]
        exact .of_run hnone hnone (haction none c)
      | _ => exact htest
    | _ => exact htest

end Phrases.ParseAlike

/-! ## Programs -/

theorem items_alike {L : Location → Prop} {k m m' n n' : Nat} {self other : Phrases} (hk : k ≤ m)
    (hm : m ≤ m')
    (hfunction : ∀ c, PassesAlike L k false 1 (Function.PlacedIn L) (functionDefinition self n)
      (functionDefinition other n') c)
    (hrule : ∀ c, PassesAlike L k false 1 (fun _ => True) (rule self n) (rule other n') c)
    (p : Program) (c : Cursor) :
    Alike L k (Cursor.Finishes m) (fun _ => True) (items self n m p) (items other n' m' p) c := by
  induction m generalizing m' k p c with
  | zero =>
    obtain rfl : k = 0 := by omega
    have hnone : c.Finishes 0 c := ⟨.refl false c, nofun⟩
    exact Alike.zero (k := 0) (.ends (x := pure p) rfl hnone trivial)
  | succ m ih =>
    obtain ⟨m', rfl⟩ : ∃ m, m' = m + 1 := ⟨m' - 1, by omega⟩
    have hmore : ∀ (p : Program) (d : Cursor), Alike L (k - 1) (Cursor.Finishes m) (fun _ => True)
        (do Parser.skipTerminators; items self n m p)
        (do Parser.skipTerminators; items other n' m' p) d :=
      fun p d => PassesAlike.skipTerminators.finishes fun _ d _ =>
        ih (by omega) (by omega) (fun c => (hfunction c).shorter) (fun c => (hrule c).shorter) p d
    refine .get_bind fun _ => ?_
    by_cases hend : c.atEnd
    · simp only [hend, if_true]
      exact .ends (x := pure p) rfl (.refl hend _) trivial
    · simp only [hend, Bool.false_eq_true, if_false]
      split
      · refine (hfunction c).finishes fun f d hf => ?_
        split
        · exact .failAt hf _
        · exact hmore _ d
      · exact (hrule c).finishes fun _ d _ => hmore _ d

theorem Phrases.ParseAlike.program {L : Location → Prop} {k n n' : Nat} {self other : Phrases}
    (h : self.ParseAlike L k other) (hk : k ≤ n) (hn : n ≤ n') (c : Cursor) :
    Alike L k (Cursor.Finishes n) (fun _ => True) (Grammar.program self n)
      (Grammar.program other n') c :=
  PassesAlike.skipTerminators.finishes fun _ d _ =>
    items_alike hk hn (fun c => (h.functionDefinition hk hn c).shorter) (h.rule hk hn) _ d

/-- Parsers of phrases, from those of phrases nested in them, with `n` turns for each loop. -/
def level (self : Phrases) (n : Nat) : Phrases :=
  { expression := assignment self n
    unary := unary self n
    increment := increment self n
    field := field self n
    statement := statement self n }

/-- The parsers of nested phrases with any others in place of those that are not to be reached, and
with `turns` turns for each loop. -/
def phrasesOn (bottom : Phrases) (turns : Nat) : Nat → Phrases
  | 0 => bottom
  | depth + 1 => level (phrasesOn bottom turns depth) turns

theorem Phrases.ParseAlike.level {L : Location → Prop} {k n n' : Nat} {self other : Phrases}
    (h : self.ParseAlike L k other) (hk : k ≤ n) (hn : n ≤ n') :
    (level self n).ParseAlike L (k + 1) (level other n') where
  expression := h.assignment hk hn
  unary := h.unaryLevel hk hn
  increment := h.incrementLevel hk hn
  field := h.fieldLevel hk hn
  statement := h.statementLevel hk hn

/-- Where no text is short enough, parsers of nested phrases are like any others. -/
theorem Phrases.ParseAlike.zero {L : Location → Prop} {k : Nat} {self other : Phrases}
    (h : self.ParseAlike L k other) (other' : Phrases) : self.ParseAlike L 0 other' where
  expression c := (h.expression c).zero
  unary c := (h.unary c).zero
  increment c := (h.increment c).zero
  field c := (h.field c).zero
  statement c := (h.statement c).zero

theorem phrases_alike (L : Location → Prop) (bottom : Phrases) {turns n depth : Nat}
    (hturns : n ≤ turns) (hdepth : n ≤ depth) :
    (phrases n).ParseAlike L n (phrasesOn bottom turns depth) := by
  induction n generalizing depth with
  | zero =>
    exact
      { expression := fun _ => Alike.zero (k := 0) (.unexpected _)
        unary := fun _ => Alike.zero (k := 0) (.unexpected _)
        increment := fun _ => Alike.zero (k := 0) (.unexpected _)
        field := fun _ => Alike.zero (k := 0) (.unexpected _)
        statement := fun _ => Alike.zero (k := 0) (.unexpected _) }
  | succ n ih =>
    obtain ⟨depth, rfl⟩ : ∃ m, depth = m + 1 := ⟨depth - 1, by omega⟩
    exact (ih (by omega) (by omega)).level (Nat.le_refl n) (by omega)

end Grammar
end Awk
