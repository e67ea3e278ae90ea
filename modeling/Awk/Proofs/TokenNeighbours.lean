import Awk.Proofs.TokenPlaces

/-!
# Which tokens stand next to each other

What a slash is, and whether a newline counts, is settled by the token in front of it, and whether a
name is that of a function by the character behind it.  The scanner looks at the token that it has
read last, also where this was a newline that it dropped; no operand ends there, and none ends in
front of such a newline.  So the tokens of a text stand next to each other as a parser may expect
them to (`tokens_wellPlaced`).
-/

namespace Awk
namespace Scanner

variable {previous : Option Token} {before rest cs : List Char} {place place' : Location}
  {kind : Token.Kind} {afterOperand : Bool} {t u : Token} {ts : List Token}
  {result : Except Error (List Token)}

/-- A token between those in front of it and behind it, if there are any. -/
structure WellPlaced (previous : Option Token) (t : Token) (next : Option Token) : Prop where
  newline : t.kind = .newline → ∀ u, previous = some u →
    u.kind ∉ [.mark .leftBrace, .mark .and, .mark .or, .mark .comma, .mark .semicolon,
      .keyword .do_, .keyword .else_, .newline]
  call : ∀ name, t.kind = .funcName name → ∃ u, next = some u ∧ u.kind = .mark .leftParen
  division : t.kind = .mark .slash ∨ t.kind = .mark .slashAssign →
    ∃ u, previous = some u ∧ u.kind.endsOperand = true
  regex : ∀ pattern, t.kind = .regex pattern → ∀ u, previous = some u → u.kind.endsOperand = false

theorem WellPlaced.of_eof {next : Option Token} (h : t.kind = .eof) :
    WellPlaced previous t next := by
  constructor <;> simp [h]

theorem absorbsNewline_of_mem
    (h : kind ∈ [.mark .leftBrace, .mark .and, .mark .or, .mark .comma, .mark .semicolon,
      .keyword .do_, .keyword .else_, .newline]) : kind.absorbsNewline = true := by
  simp only [List.mem_cons, List.not_mem_nil, or_false] at h
  rcases h with rfl | rfl | rfl | rfl | rfl | rfl | rfl | rfl <;> rfl

/-! ## What a token tells of the text around it -/

/-- What is known where a token of some kind was read: whether an operand had ended in front of it,
and what follows it. -/
structure Tells (afterOperand : Bool) (kind : Token.Kind) (rest : List Char) : Prop where
  division : kind = .mark .slash ∨ kind = .mark .slashAssign → afterOperand = true
  regex : ∀ pattern, kind = .regex pattern → afterOperand = false
  call : ∀ name, kind = .funcName name → rest.head? = some '('

/-- No spelling of a mark is that of a slash. -/
theorem longest?_tells {s : String} {m : Mark} (h : Mark.longest? cs = some (s, m)) :
    Tells afterOperand (.mark m) rest where
  division hm := by
    have hspelled : ∀ p ∈ Mark.spellings, p.2 ≠ .slash ∧ p.2 ≠ .slashAssign := by decide
    obtain ⟨hslash, hassign⟩ := hspelled _ (List.mem_of_find?_eq_some h)
    rcases hm with hm | hm
    · exact absurd (Token.Kind.mark.inj hm) hslash
    · exact absurd (Token.Kind.mark.inj hm) hassign
  regex := nofun
  call := nofun

theorem wordKind_tells (word : String) (rest : List Char) :
    Tells afterOperand (wordKind word rest.head?) rest := by
  unfold wordKind
  split
  · exact ⟨nofun, nofun, nofun⟩
  · exact ⟨nofun, nofun, nofun⟩
  · split
    · next hnext => exact ⟨nofun, nofun, fun _ _ => hnext⟩
    · exact ⟨nofun, nofun, nofun⟩

theorem scanKind_tells (h : scanKind afterOperand place cs = .ok (kind, rest, place')) :
    Tells afterOperand kind rest := by
  cases cs with
  | nil =>
    cases h
    exact ⟨nofun, nofun, nofun⟩
  | cons c cs =>
    unfold scanKind at h
    dsimp only at h
    split at h
    · cases h
      exact ⟨nofun, nofun, nofun⟩
    · split at h
      · split at h
        · cases h
        · cases h
          exact ⟨nofun, nofun, nofun⟩
      · split at h
        · split at h
          · next hoperand =>
            split at h
            · cases h
              exact ⟨fun _ => hoperand, nofun, nofun⟩
            · cases h
              exact ⟨fun _ => hoperand, nofun, nofun⟩
          · next hoperand =>
            split at h
            · cases h
            · cases h
              exact ⟨nofun, fun _ _ => Bool.eq_false_iff.mpr hoperand, nofun⟩
        · split at h
          · unfold scanNumber at h
            dsimp only at h
            split at h
            · cases h
              exact ⟨nofun, nofun, nofun⟩
            · cases h
          · split at h
            · cases h
              exact wordKind_tells _ _
            · split at h
              · next hmark =>
                cases h
                exact longest?_tells hmark
              · cases h

/-! ## An opening parenthesis -/

theorem scanKind_leftParen (afterOperand : Bool) (place : Location) (cs : List Char) :
    scanKind afterOperand place ('(' :: cs) =
      .ok (.mark .leftParen, cs, place.advanceBy ['(']) := by
  have hnumber : startsNumber ('(' :: cs) = false := rfl
  have hmark : Mark.longest? ('(' :: cs) = some ("(", .leftParen) := rfl
  have hlength : "(".length = 1 := rfl
  simp [scanKind, hnumber, hmark, hlength, Text.isAsciiLetter]

theorem Blank.ne_leftParen {newlines : Bool} (h : Blank newlines cs) :
    cs.head? ≠ some '(' := by
  cases h with
  | newline _ hcomment =>
    rcases hcomment with rfl | ⟨body, rfl, -⟩
    · simp
    · simp
  | space hc => rcases hc with rfl | rfl | rfl <;> simp
  | _ => simp

theorem IsComment.ne_leftParen (h : IsComment cs) : cs.head? ≠ some '(' := by
  rcases h with rfl | ⟨body, rfl, -⟩
  · simp
  · simp

theorem eq_nil_of_head? {xs ys : List Char} {c : Char} (h : (xs ++ ys).head? = some c)
    (hxs : xs.head? ≠ some c) : xs = [] := by
  cases xs with
  | nil => rfl
  | cons => exact absurd h hxs

theorem exists_cons_of_map (h : result.map (t :: ·) = .ok ts) :
    ∃ ts', result = .ok ts' ∧ ts = t :: ts' := by
  cases result with
  | error => cases h
  | ok ts' =>
    cases h
    exact ⟨ts', rfl, rfl⟩

/-- Nothing stands between a parenthesis and its token. -/
theorem Laid.leftParen (h : Laid before previous cs result) (hcs : cs.head? = some '(')
    (hresult : result = .ok ts) : ∃ u, ts.head? = some u ∧ u.kind = .mark .leftParen := by
  cases h with
  | @token _ blank comment text rest _ t result hstands _ htext =>
    obtain ⟨ts, -, rfl⟩ := exists_cons_of_map hresult
    obtain rfl := eq_nil_of_head? hcs hstands.blanks.ne_leftParen
    rw [List.nil_append] at hcs
    obtain rfl := eq_nil_of_head? hcs hstands.comments.ne_leftParen
    rw [List.nil_append] at hcs
    obtain ⟨cs, hcs⟩ := List.head?_eq_some_iff.mp hcs
    obtain ⟨place', hread⟩ := hstands.read
    rw [hcs, scanKind_leftParen] at hread
    exact ⟨t, rfl, (Prod.mk.inj (Except.ok.inj hread)).1.symm⟩
  | eof hstands =>
    obtain rfl := eq_nil_of_head? hcs hstands.blanks.ne_leftParen
    exact absurd hcs hstands.comments.ne_leftParen
  | error => cases hresult

/-! ## All tokens of a layout -/

theorem Laid.ends_once (h : Laid before previous cs result) :
    ∀ {ts : List Token}, result = .ok ts →
      ∃ front last, ts = front ++ [last] ∧ last.kind = .eof ∧ ∀ t ∈ front, t.kind ≠ .eof := by
  induction h with
  | @token _ _ _ _ _ _ t result _ hkind _ _ _ ih =>
    intro ts hresult
    obtain ⟨ts, hrest, rfl⟩ := exists_cons_of_map hresult
    obtain ⟨front, last, rfl, hlast, hfront⟩ := ih hrest
    exact ⟨t :: front, last, rfl, hlast, List.forall_mem_cons.mpr ⟨hkind, hfront⟩⟩
  | @eof _ _ _ _ t _ hkind =>
    intro ts hresult
    cases hresult
    exact ⟨[], t, rfl, hkind, nofun⟩
  | error => exact fun hresult => nomatch hresult

/-- The token that a layout begins with, in front of those that follow it. -/
theorem TokenAt.wellPlaced {blank comment text : List Char}
    (h : TokenAt previous before blank comment text rest t) (hkept : absorbed previous t = false)
    (hnext : rest.head? = some '(' → ∃ u, ts.head? = some u ∧ u.kind = .mark .leftParen) :
    WellPlaced previous t ts.head? := by
  obtain ⟨place', hread⟩ := h.read
  have htells := scanKind_tells hread
  refine ⟨fun hnewline u hu hmem => ?_, fun name hname => hnext (htells.call name hname),
    fun hslash => ?_, fun pattern hregex u hu => ?_⟩
  · have habsorbed : absorbed previous t = true :=
      absorbed_iff.mpr ⟨hnewline, by rw [hu]; exact absorbsNewline_of_mem hmem⟩
    rw [hkept] at habsorbed
    cases habsorbed
  · exact (Option.any_eq_true ..).mp (htells.division hslash)
  · have hoperand := htells.regex pattern hregex
    rw [hu] at hoperand
    exact hoperand

theorem Laid.wellPlaced (h : Laid before previous cs result) :
    ∀ {ts : List Token}, result = .ok ts → ∀ front t back, ts = front ++ t :: back →
      WellPlaced (front.getLast?.or previous) t back.head? := by
  induction h with
  | @token _ _ _ _ _ previous t₀ result hstands _ _ hkept hrest ih =>
    intro ts hresult front t back hts
    obtain ⟨ts, hok, rfl⟩ := exists_cons_of_map hresult
    cases front with
    | nil =>
      obtain ⟨rfl, rfl⟩ := List.cons.inj hts
      exact hstands.wellPlaced hkept fun hnext => hrest.leftParen hnext hok
    | cons u front =>
      obtain ⟨rfl, htail⟩ := List.cons.inj hts
      have hplaced := ih hok front t back htail
      rw [List.getLast?_cons, Option.some_or]
      cases hlast : front.getLast? with
      | none => rwa [hlast] at hplaced
      | some => rwa [hlast] at hplaced
  | @eof _ _ _ _ t₀ _ hkind =>
    intro ts hresult front t back hts
    cases hresult
    have hmem : t ∈ [t₀] := hts ▸ List.mem_append_right front (.head _)
    exact .of_eof (List.mem_singleton.mp hmem ▸ hkind)
  | error => exact fun hresult => nomatch hresult

end Scanner

open Scanner

/-- The last token and no other marks the end.  Newlines, names of functions, slashes and regular
expressions stand where a parser may expect them. -/
theorem tokens_wellPlaced {source : String} {ts : List Token} (h : tokenize source = .ok ts) :
    (∃ front last, ts = front ++ [last] ∧ last.kind = .eof ∧ ∀ t ∈ front, t.kind ≠ .eof) ∧
      ∀ front t back, ts = front ++ t :: back → WellPlaced front.getLast? t back.head? := by
  have hlaid := tokenize_laid_start source
  refine ⟨hlaid.ends_once h, fun front t back hts => ?_⟩
  have hplaced := hlaid.wellPlaced h front t back hts
  rwa [Option.or_none] at hplaced

theorem tokens_wellPlaced_divided :
    tokenize "a/b" = .ok [⟨.identifier "a", ⟨1, 1⟩⟩, ⟨.mark .slash, ⟨1, 2⟩⟩,
        ⟨.identifier "b", ⟨1, 3⟩⟩, ⟨.eof, ⟨1, 4⟩⟩] ∧
      WellPlaced (some ⟨.identifier "a", ⟨1, 1⟩⟩) ⟨.mark .slash, ⟨1, 2⟩⟩
        (some ⟨.identifier "b", ⟨1, 3⟩⟩) :=
  have hread : tokenize "a/b" = .ok [⟨.identifier "a", ⟨1, 1⟩⟩, ⟨.mark .slash, ⟨1, 2⟩⟩,
      ⟨.identifier "b", ⟨1, 3⟩⟩, ⟨.eof, ⟨1, 4⟩⟩] := rfl
  ⟨hread, (tokens_wellPlaced hread).2 [_] _ [_, _] rfl⟩

end Awk
