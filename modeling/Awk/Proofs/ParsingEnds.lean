import Awk.Proofs.CursorMoves

/-!
# Parsing ends

On every list of tokens the parser comes to an end with a program or a syntax error at one of the
tokens.
-/

namespace Awk

/-- The places of tokens, and the start of the text if there are none. -/
def Token.Places (tokens : List Token) (place : Location) : Prop :=
  (∃ t ∈ tokens, t.place = place) ∨ tokens = [] ∧ place = .start

theorem Cursor.ofTokens_within (tokens : List Token) :
    (Cursor.ofTokens tokens).Within (Token.Places tokens) := by
  refine ⟨?_, fun t ht => .inl ⟨t, ht, rfl⟩⟩
  show Token.Places tokens ((tokens.getLast?.map (·.place)).getD .start)
  cases hlast : tokens.getLast? with
  | none => exact .inr ⟨List.getLast?_eq_none_iff.mp hlast, rfl⟩
  | some t => exact .inl ⟨t, List.mem_of_getLast? hlast, rfl⟩

namespace Grammar

/-- From the start of a text, more steps to nested phrases and more turns of loops than there are
tokens make no difference. -/
theorem program_ofTokens (tokens : List Token) (bottom : Phrases) {turns depth : Nat}
    (hturns : tokens.length < turns) (hdepth : tokens.length < depth) :
    program (phrasesOn bottom turns depth) turns (.ofTokens tokens) =
      program (phrases (tokens.length + 1)) (tokens.length + 1) (.ofTokens tokens) := by
  have h := phrases_alike (Token.Places tokens) bottom hturns hdepth
  have halike := h.program (Nat.le_refl _) hturns (.ofTokens tokens)
  exact ((halike (Cursor.ofTokens_within tokens)).1 (Nat.lt_succ_self _)).symm

/-- A program is read up to the end of the text, past no redirection.  Anything else is a syntax
error at a token. -/
theorem parseTokens_cases (tokens : List Token) :
    (∃ p, parseTokens tokens = .ok p ∧ Token.Undirected tokens) ∨
      ∃ fault place, parseTokens tokens = .error (.parse fault place) ∧
        Token.Places tokens place := by
  have h := phrases_alike (Token.Places tokens) (phrases 0) (Nat.le_refl (tokens.length + 1))
    (Nat.le_refl (tokens.length + 1))
  have halike := h.program (Nat.le_refl _) (Nat.le_refl _) (.ofTokens tokens)
  obtain ⟨-, hend⟩ := halike (Cursor.ofTokens_within tokens)
  cases hrun : program (phrases (tokens.length + 1)) (tokens.length + 1) (.ofTokens tokens) with
  | ok p d =>
    rw [hrun] at hend
    have hd : d.atEnd := hend.1.atEnd (Nat.lt_succ_self _)
    have hparsed : parseTokens tokens = .ok p.resolveArrayParams := by simp only [parseTokens, hrun]
    exact .inl ⟨_, hparsed, hend.1.passes.undirected nofun (Token.undirected_atEnd hd)⟩
  | error e d =>
    rw [hrun] at hend
    obtain ⟨⟨fault, place, rfl, hplace⟩, -⟩ := hend
    have hparsed : parseTokens tokens = .error (.parse fault place) := by
      simp only [parseTokens, hrun]
    exact .inr ⟨fault, place, hparsed, hplace⟩

/-- What is parsed is not empty. -/
def Consumes {α : Type} (x : Parser α) : Prop :=
  ∀ (c : Cursor) (a : α) (d : Cursor), x c = .ok a d → d.rest.length < c.rest.length

theorem Consumes.of_alike {k : Nat} {R : Cursor → Cursor → Prop} {α : Type} {P : α → Prop}
    {x y : Parser α} (h : ∀ c, Alike (fun _ => True) k R P x y c)
    (hR : ∀ c d, R c d → d.rest.length + 1 ≤ c.rest.length) : Consumes x := by
  intro c a d hrun
  obtain ⟨-, hend⟩ := h c ⟨trivial, fun _ _ => trivial⟩
  rw [hrun] at hend
  exact hR c d hend.1

/-- Parsing ends on every list of tokens, whatever the parsers of nested phrases would do that are
never reached, and it ends with a program or with a syntax error at a token.  Expressions,
statements, rules and functions consume tokens, and no parser moves past the end of a text. -/
theorem parsing_ends (tokens : List Token) :
    (∀ (bottom : Phrases) (turns depth : Nat), tokens.length < turns → tokens.length < depth →
      program (phrasesOn bottom turns depth) turns (.ofTokens tokens) =
        program (phrases (tokens.length + 1)) (tokens.length + 1) (.ofTokens tokens)) ∧
    ((∃ p, parseTokens tokens = .ok p) ∨
      ∃ fault place, parseTokens tokens = .error (.parse fault place) ∧
        Token.Places tokens place) ∧
    (∀ m n : Nat, Consumes (assignment (phrases m) n) ∧ Consumes (statement (phrases m) n) ∧
      Consumes (rule (phrases m) n) ∧ Consumes (functionDefinition (phrases m) n)) ∧
    ∀ (m n : Nat) {α : Type} (x : Parser α), Parses (phrases m) n x → ∀ c : Cursor,
      ∃ taken, c.rest = taken ++ (after x c).rest ∧ ∀ t ∈ taken, t.kind.isEof = false := by
  refine ⟨fun bottom turns depth => program_ofTokens tokens bottom, ?_, fun m n => ?_,
    fun m n α x hx c => (hx.moves c).tokens⟩
  · rcases parseTokens_cases tokens with ⟨p, hp, -⟩ | hfault
    · exact .inl ⟨p, hp⟩
    · exact .inr hfault
  · have h : (phrases m).ParseAlike (fun _ => True) 0 (phrases m) :=
      (phrases_alike _ (phrases 0) (Nat.le_refl m) (Nat.le_refl m)).zero _
    have hk := Nat.zero_le n
    have hn := Nat.le_refl n
    exact ⟨.of_alike (h.assignment hk hn) fun _ _ hd => hd.length,
      .of_alike (h.statementLevel hk hn) fun _ _ hd => hd.length,
      .of_alike (h.rule hk hn) fun _ _ hd => hd.length,
      .of_alike (h.functionDefinition hk hn) fun _ _ hd => hd.length⟩

end Grammar
end Awk
