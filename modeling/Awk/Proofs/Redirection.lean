import Awk.Proofs.ParsingEnds

/-!
# Redirections are rejected

A `>` behind a list of things to print is not a comparison and not accepted as anything else.
-/

namespace Awk
namespace Grammar

/-- A text in which a `>` follows a keyword `print` or `printf`, outside of brackets and before the
end of the statement, is a syntax error.  No parser leaves the print flag changed, whether it ends
well, fails, or goes back to try something else. -/
theorem redirection_rejected :
    (∀ (before behind : List Token) (keyword : Token), (∀ t ∈ before, t.kind.isEof = false) →
      keyword.kind.isPrint → Token.redirected 0 behind →
      ∃ fault place, parseTokens (before ++ keyword :: behind) = .error (.parse fault place)) ∧
    ∀ (m n : Nat) {α : Type} (x : Parser α), Parses (phrases m) n x → ∀ c : Cursor,
      (after x c).inPrint = c.inPrint := by
  refine ⟨fun before behind keyword hbefore hkeyword hredirected => ?_,
    fun m n α x hx c => (hx.moves c).inPrint⟩
  rcases parseTokens_cases (before ++ keyword :: behind) with ⟨p, -, hundirected⟩ | hfault
  · have hnone := Token.undirected_behind hundirected hbefore hkeyword
    rw [hredirected] at hnone
    cases hnone
  · obtain ⟨fault, place, hparsed, -⟩ := hfault
    exact ⟨fault, place, hparsed⟩

/-- A `>` in a branch of a conditional expression. -/
theorem redirection_rejected_in_branch :
    ∃ fault place, parseTokens
      ([⟨.mark .leftBrace, ⟨1, 1⟩⟩] ++ ⟨.keyword .print, ⟨1, 3⟩⟩ ::
        [⟨.identifier "a", ⟨1, 9⟩⟩, ⟨.mark .question, ⟨1, 11⟩⟩, ⟨.identifier "b", ⟨1, 13⟩⟩,
          ⟨.mark .colon, ⟨1, 15⟩⟩, ⟨.identifier "c", ⟨1, 17⟩⟩, ⟨.mark .greater, ⟨1, 19⟩⟩,
          ⟨.identifier "d", ⟨1, 21⟩⟩, ⟨.mark .rightBrace, ⟨1, 23⟩⟩]) =
      .error (.parse fault place) :=
  redirection_rejected.1 _ _ _ (by decide) rfl (by decide)

/-- In parentheses a `>` is a comparison, also if the list goes on behind them. -/
example :
    (parseTokens [⟨.mark .leftBrace, ⟨1, 1⟩⟩, ⟨.keyword .print, ⟨1, 3⟩⟩,
      ⟨.mark .leftParen, ⟨1, 9⟩⟩, ⟨.identifier "a", ⟨1, 10⟩⟩, ⟨.mark .greater, ⟨1, 12⟩⟩,
      ⟨.identifier "b", ⟨1, 14⟩⟩, ⟨.mark .rightParen, ⟨1, 15⟩⟩, ⟨.identifier "c", ⟨1, 17⟩⟩,
      ⟨.mark .rightBrace, ⟨1, 19⟩⟩]).toOption.isSome = true := by
  decide +kernel

end Grammar
end Awk
