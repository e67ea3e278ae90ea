import Awk.Grammar.Cursor
import Awk.Proofs.Computation

/-!
# Taking one token

What the parsers of single tokens do where the next token is known.
-/

namespace Awk

open Awk.Parser

variable {c : Cursor} {t : Token} {ts : List Token} {m : Mark}

theorem kind?_of_cons (h : c.rest = t :: ts) : c.kind? = some t.kind := by
  simp [Cursor.kind?, h]

theorem kind?_eq_some {k : Token.Kind} (h : c.kind? = some k) :
    ∃ t ts, c.rest = t :: ts ∧ t.kind = k := by
  obtain ⟨t, ht, hk⟩ := Option.map_eq_some_iff.mp h
  obtain ⟨ts, hts⟩ := List.head?_eq_some_iff.mp ht
  exact ⟨t, ts, hts, hk⟩

theorem kind?_at (c : Cursor) (t : Token) (ts : List Token) :
    ({ c with rest := t :: ts } : Cursor).kind? = some t.kind := rfl

theorem advance_run (h : c.rest = t :: ts) (hk : t.kind.isEof = false) :
    Parser.advance c = .ok () { c with rest := ts } := by
  have hadv : c.advance = { c with rest := ts } := by
    simp [Cursor.advance, Cursor.atEnd, kind?_of_cons h, hk, h]
  rw [← hadv]
  rfl

theorem accept_run (h : c.rest = t :: ts) (hk : t.kind = .mark m) :
    accept m c = .ok true { c with rest := ts } := by
  have hm : c.isMark m = true := by simp [Cursor.isMark, kind?_of_cons h, hk, Token.Kind.isMark]
  rw [accept, bind_of_ok (get_run c), if_pos hm,
    bind_of_ok (advance_run h (by simp [hk, Token.Kind.isEof]))]
  rfl

theorem accept_other (h : c.isMark m = false) : accept m c = .ok false c := by
  rw [accept, bind_of_ok (get_run c), if_neg (by simp [h])]
  rfl

theorem expect_run (h : c.rest = t :: ts) (hk : t.kind = .mark m) :
    expect m c = .ok () { c with rest := ts } := by
  rw [expect, bind_of_ok (accept_run h hk)]
  rfl

theorem acceptKeyword_run {w : Keyword} (h : c.rest = t :: ts) (hk : t.kind = .keyword w) :
    acceptKeyword w c = .ok true { c with rest := ts } := by
  have hm : c.isKeyword w = true := by
    simp [Cursor.isKeyword, kind?_of_cons h, hk, Token.Kind.isKeyword]
  rw [acceptKeyword, bind_of_ok (get_run c), if_pos hm,
    bind_of_ok (advance_run h (by simp [hk, Token.Kind.isEof]))]
  rfl

theorem acceptKeyword_other {w : Keyword} (h : c.isKeyword w = false) :
    acceptKeyword w c = .ok false c := by
  rw [acceptKeyword, bind_of_ok (get_run c), if_neg (by simp [h])]
  rfl

theorem expectIdentifier_run {name : String} (h : c.rest = t :: ts)
    (hk : t.kind = .identifier name) : expectIdentifier c = .ok name { c with rest := ts } := by
  rw [expectIdentifier, bind_of_ok (get_run c)]
  simp only [kind?_of_cons h, hk]
  rw [bind_of_ok (advance_run h (by simp [hk, Token.Kind.isEof]))]
  rfl

theorem skipNewlines_run (h : c.rest = t :: ts) (hk : t.kind.isNewline = false) :
    skipNewlines c = .ok () c := by
  have : c.rest.dropWhile (·.kind.isNewline) = c.rest := by simp [h, hk]
  show EStateM.Result.ok () { c with rest := c.rest.dropWhile (·.kind.isNewline) } = _
  rw [this]

theorem place_run (c : Cursor) : Parser.place c = .ok c.place c := rfl

end Awk
