import Awk.Proofs.PresetValues
import Awk.Session

/-!
# String literals

A literal is scanned twice: once to find the quote that closes it, and once to replace its escapes.
Both readings divide what stands between the quotes into the same glyphs, each a character for
itself or a backslash with the character behind it.  So a quote closes a literal unless a backslash
takes it along, and every text can be written as a literal that reads back as that text
(`literals_read_back`).
-/

namespace Awk
namespace Text

/-- What a literal is written with: a character for itself, or a backslash and the character that
it takes along. -/
inductive Glyph where
  | plain (c : Char)
  | escaped (c : Char)
deriving DecidableEq

namespace Glyph

def chars : Glyph → List Char
  | plain c => [c]
  | escaped c => ['\\', c]

/-- Whether a glyph can stand between the quotes of a literal. -/
def Inside : Glyph → Prop
  | plain c => c ≠ '"' ∧ c ≠ '\\' ∧ c ≠ '\n'
  | escaped _ => True

/-- The glyph that stands for a character in a quoted text. -/
def ofChar (c : Char) : Glyph :=
  if c = '\n' then escaped 'n' else if c = '\\' ∨ c = '"' then escaped c else plain c

end Glyph

/-- The characters that glyphs are written with. -/
def spell (gs : List Glyph) : List Char := gs.flatMap Glyph.chars

/-- Writes a text so that it reads back from a literal. -/
def quote (s : String) : String := String.ofList (spell (s.toList.map Glyph.ofChar))

theorem spell_nil : spell [] = [] := rfl

theorem spell_plain (c : Char) (gs : List Glyph) : spell (.plain c :: gs) = c :: spell gs := rfl

theorem spell_escaped (c : Char) (gs : List Glyph) :
    spell (.escaped c :: gs) = '\\' :: c :: spell gs := rfl

theorem spell_append (gs gs' : List Glyph) : spell (gs ++ gs') = spell gs ++ spell gs' :=
  List.flatMap_append

theorem Glyph.ofChar_escaped {c : Char} (h : c = '\\' ∨ c = '"') : ofChar c = escaped c := by
  rcases h with rfl | rfl <;> rfl

theorem Glyph.ofChar_plain {c : Char} (hnewline : c ≠ '\n') (h : ¬(c = '\\' ∨ c = '"')) :
    ofChar c = plain c := by
  rw [ofChar, if_neg hnewline, if_neg h]

theorem Glyph.ofChar_inside (c : Char) : (ofChar c).Inside := by
  by_cases hnewline : c = '\n'
  · rw [hnewline]
    trivial
  · by_cases h : c = '\\' ∨ c = '"'
    · rw [ofChar_escaped h]
      trivial
    · rw [ofChar_plain hnewline h]
      rw [not_or] at h
      exact ⟨h.2, h.1, hnewline⟩

/-! ## What glyphs stand for -/

/-- The number that octal digits write. -/
def octalNumber (ds : List Char) : Nat :=
  ds.foldl (fun n c => 8 * n + (c.toNat - '0'.toNat)) 0

/-- Glyphs and the text that they stand for.  An octal number has at most three digits, and as many
of them as follow each other.  A glyph of which nothing else is known keeps its backslash. -/
inductive Stands : List Glyph → List Char → Prop where
  | nil : Stands [] []
  | plain {c : Char} {gs : List Glyph} {t : List Char} :
      Stands gs t → Stands (.plain c :: gs) (c :: t)
  | continued {gs : List Glyph} {t : List Char} : Stands gs t → Stands (.escaped '\n' :: gs) t
  | letter {e c : Char} {gs : List Glyph} {t : List Char} : escapedChar? e = some c → Stands gs t →
      Stands (.escaped e :: gs) (c :: t)
  | octal {d : Char} {ds : List Char} {gs : List Glyph} {t : List Char} :
      (∀ c ∈ d :: ds, (octalValue? c).isSome) → ds.length ≤ 2 →
      (∀ c, gs.head? = some (.plain c) → (octalValue? c).isSome → ds.length = 2) → Stands gs t →
      Stands (.escaped d :: (ds.map .plain ++ gs)) (Char.ofNat (octalNumber (d :: ds)) :: t)
  | kept {e : Char} {gs : List Glyph} {t : List Char} : e ≠ '\n' → escapedChar? e = none →
      octalValue? e = none → Stands gs t → Stands (.escaped e :: gs) ('\\' :: e :: t)

theorem octalValue?_eq_some {c : Char} (h : (octalValue? c).isSome) :
    octalValue? c = some (c.toNat - '0'.toNat) := by
  unfold octalValue? at h ⊢
  split
  · rfl
  · next hc =>
    rw [if_neg hc] at h
    cases h

/-- No octal digit has another meaning behind a backslash. -/
theorem escapedChar?_octal {c : Char} (h : (octalValue? c).isSome) :
    escapedChar? c = none ∧ c ≠ '\n' := by
  have hrange : '0' ≤ c ∧ c ≤ '7' := by
    by_contra hc
    rw [octalValue?, if_neg hc] at h
    cases h
  obtain ⟨hlow, hhigh⟩ := hrange
  constructor
  · unfold escapedChar?
    split <;> first | rfl | exact absurd hhigh (by decide) | exact absurd hlow (by decide)
  · rintro rfl
    exact absurd hlow (by decide)

theorem unescapeChars_plain {c : Char} (h : c ≠ '\\') (cs : List Char) :
    unescapeChars (c :: cs) = c :: unescapeChars cs := by
  rw [unescapeChars.eq_def]
  dsimp only
  rw [if_pos h]

theorem unescapeChars_continued (cs : List Char) :
    unescapeChars ('\\' :: '\n' :: cs) = unescapeChars cs := by
  rw [unescapeChars.eq_def]
  rfl

theorem unescapeChars_letter {e c : Char} (h : escapedChar? e = some c) (cs : List Char) :
    unescapeChars ('\\' :: e :: cs) = c :: unescapeChars cs := by
  have hnewline : e ≠ '\n' := by
    rintro rfl
    cases h
  rw [unescapeChars.eq_def]
  dsimp only
  rw [if_neg (not_not_intro rfl), if_neg hnewline, h]

theorem unescapeChars_kept {e : Char} (hnewline : e ≠ '\n') (hletter : escapedChar? e = none)
    (hoctal : octalValue? e = none) (cs : List Char) :
    unescapeChars ('\\' :: e :: cs) = '\\' :: e :: unescapeChars cs := by
  rw [unescapeChars.eq_def]
  dsimp only
  rw [if_neg (not_not_intro rfl), if_neg hnewline, hletter, hoctal]

/-- An octal number takes as many digits as follow each other, three at most. -/
theorem unescapeChars_octal {d : Char} {ds cs : List Char}
    (hdigits : ∀ c ∈ d :: ds, (octalValue? c).isSome) (hshort : ds.length ≤ 2)
    (hlong : ∀ c, cs.head? = some c → (octalValue? c).isSome → ds.length = 2) :
    unescapeChars ('\\' :: d :: (ds ++ cs)) =
      Char.ofNat (octalNumber (d :: ds)) :: unescapeChars cs := by
  have hd := hdigits d (.head _)
  obtain ⟨hletter, hnewline⟩ := escapedChar?_octal hd
  rw [unescapeChars.eq_def]
  dsimp only
  rw [if_neg (not_not_intro rfl), if_neg hnewline, hletter, octalValue?_eq_some hd]
  have hstops : ds.length ≠ 2 → ∀ c, cs.head? = some c → octalValue? c = none :=
    fun hne c hc => Option.not_isSome_iff_eq_none.mp fun hsome => hne (hlong c hc hsome)
  match ds with
  | [] =>
    cases cs with
    | nil => simp [octalNumber, unescapeChars]
    | cons c cs =>
      have hc := hstops (by simp) c rfl
      simp [octalNumber, hc]
  | [d₁] =>
    have hd₁ := octalValue?_eq_some (hdigits d₁ (by simp))
    cases cs with
    | nil => simp [octalNumber, unescapeChars, hd₁]
    | cons c cs =>
      have hc := hstops (by simp) c rfl
      simp [octalNumber, hd₁, hc]
  | [d₁, d₂] =>
    have hd₁ := octalValue?_eq_some (hdigits d₁ (by simp))
    have hd₂ := octalValue?_eq_some (hdigits d₂ (by simp))
    have hnumber : octalNumber [d, d₁, d₂] =
        64 * (d.toNat - '0'.toNat) + 8 * (d₁.toNat - '0'.toNat) + (d₂.toNat - '0'.toNat) := by
      show 8 * (8 * (8 * 0 + (d.toNat - '0'.toNat)) + (d₁.toNat - '0'.toNat)) +
        (d₂.toNat - '0'.toNat) = _
      omega
    rw [hnumber]
    simp [hd₁, hd₂]

/-! ## Both readings of a literal -/

/-- A plain glyph is no backslash. -/
theorem Glyph.Inside.ne_backslash {c : Char} (h : (plain c).Inside) : c ≠ '\\' := h.2.1

theorem head?_spell {gs : List Glyph} {c : Char} (hgs : ∀ g ∈ gs, g.Inside)
    (h : (spell gs).head? = some c) (hc : c ≠ '\\') : gs.head? = some (.plain c) := by
  match gs, h with
  | .plain d :: gs, h =>
    cases h
    rfl
  | .escaped d :: gs, h =>
    cases h
    exact absurd rfl hc

theorem octalValue?_ne_backslash {c : Char} (h : (octalValue? c).isSome) : c ≠ '\\' := by
  rintro rfl
  cases h

theorem unescapeChars_of_stands {gs : List Glyph} {t : List Char} (h : Stands gs t)
    (hgs : ∀ g ∈ gs, g.Inside) : unescapeChars (spell gs) = t := by
  induction h with
  | nil => rfl
  | plain _ ih =>
    have hc := hgs _ (.head _)
    rw [spell_plain, unescapeChars_plain hc.ne_backslash, ih fun g hg => hgs g (.tail _ hg)]
  | continued _ ih =>
    rw [spell_escaped, unescapeChars_continued, ih fun g hg => hgs g (.tail _ hg)]
  | letter hletter _ ih =>
    rw [spell_escaped, unescapeChars_letter hletter, ih fun g hg => hgs g (.tail _ hg)]
  | kept hnewline hletter hoctal _ ih =>
    rw [spell_escaped, unescapeChars_kept hnewline hletter hoctal,
      ih fun g hg => hgs g (.tail _ hg)]
  | @octal d ds gs t hdigits hshort hlong _ ih =>
    have hrest : ∀ g ∈ gs, g.Inside := fun g hg => hgs g (.tail _ (List.mem_append_right _ hg))
    have hds : spell (ds.map .plain) = ds := by
      rw [spell, List.flatMap_map]
      exact List.flatMap_singleton' ds
    rw [spell_escaped, spell_append, hds, unescapeChars_octal hdigits hshort, ih hrest]
    intro c hc hoctal
    exact hlong c (head?_spell hrest hc (octalValue?_ne_backslash hoctal)) hoctal

/-- As many digits as follow each other, `n` at most. -/
theorem exists_digits (n : Nat) (gs : List Glyph) :
    ∃ (ds : List Char) (gs' : List Glyph), gs = ds.map .plain ++ gs' ∧
      (∀ c ∈ ds, (octalValue? c).isSome) ∧ ds.length ≤ n ∧
      ∀ c, gs'.head? = some (.plain c) → (octalValue? c).isSome → ds.length = n := by
  induction n generalizing gs with
  | zero => exact ⟨[], gs, rfl, nofun, Nat.le_refl 0, fun _ _ _ => rfl⟩
  | succ n ih =>
    by_cases h : ∃ c gs', gs = .plain c :: gs' ∧ (octalValue? c).isSome
    · obtain ⟨c, gs', rfl, hc⟩ := h
      obtain ⟨ds, gs'', rfl, hds, hlength, hlong⟩ := ih gs'
      refine ⟨c :: ds, gs'', rfl, ?_, Nat.succ_le_succ hlength,
        fun d hd hoctal => congrArg (· + 1) (hlong d hd hoctal)⟩
      intro d hd
      rcases List.mem_cons.mp hd with rfl | hd
      · exact hc
      · exact hds d hd
    · refine ⟨[], gs, rfl, nofun, Nat.zero_le _, fun c hc hoctal => absurd ?_ h⟩
      obtain ⟨gs', rfl⟩ := List.head?_eq_some_iff.mp hc
      exact ⟨c, gs', rfl, hoctal⟩

/-- All glyphs stand for some text. -/
theorem exists_stands (gs : List Glyph) : ∃ t, Stands gs t := by
  induction hn : gs.length using Nat.strong_induction_on generalizing gs with
  | _ n ih =>
    match gs, hn with
    | [], _ => exact ⟨[], .nil⟩
    | .plain c :: gs, hn =>
      obtain ⟨t, ht⟩ := ih gs.length (by simp at hn; omega) gs rfl
      exact ⟨c :: t, .plain ht⟩
    | .escaped e :: gs, hn =>
      obtain ⟨t, ht⟩ := ih gs.length (by simp at hn; omega) gs rfl
      by_cases hnewline : e = '\n'
      · exact ⟨t, hnewline ▸ .continued ht⟩
      · cases hletter : escapedChar? e with
        | some c => exact ⟨c :: t, .letter hletter ht⟩
        | none =>
          cases hoctal : octalValue? e with
          | none => exact ⟨'\\' :: e :: t, .kept hnewline hletter hoctal ht⟩
          | some v =>
            obtain ⟨ds, gs', rfl, hds, hshort, hlong⟩ := exists_digits 2 gs
            obtain ⟨t', ht'⟩ := ih gs'.length (by simp at hn; omega) gs' rfl
            refine ⟨_, .octal ?_ hshort hlong ht'⟩
            intro c hc
            rcases List.mem_cons.mp hc with rfl | hc
            · rw [hoctal]
              rfl
            · exact hds c hc

/-- Escapes are replaced glyph by glyph. -/
theorem stands_iff {gs : List Glyph} (hgs : ∀ g ∈ gs, g.Inside) (t : List Char) :
    Stands gs t ↔ unescapeChars (spell gs) = t := by
  constructor
  · exact fun h => unescapeChars_of_stands h hgs
  · rintro rfl
    obtain ⟨t, ht⟩ := exists_stands gs
    rw [unescapeChars_of_stands ht hgs]
    exact ht

/-! ## Quoted texts -/

theorem map_ofChar_inside (s : List Char) : ∀ g ∈ s.map Glyph.ofChar, g.Inside := by
  intro g hg
  obtain ⟨c, -, rfl⟩ := List.mem_map.mp hg
  exact Glyph.ofChar_inside c

theorem stands_map_ofChar (s : List Char) : Stands (s.map Glyph.ofChar) s := by
  induction s with
  | nil => exact .nil
  | cons c s ih =>
    rw [List.map_cons]
    by_cases hnewline : c = '\n'
    · rw [hnewline]
      exact .letter rfl ih
    · by_cases h : c = '\\' ∨ c = '"'
      · rw [Glyph.ofChar_escaped h]
        refine .letter ?_ ih
        rcases h with rfl | rfl <;> rfl
      · rw [Glyph.ofChar_plain hnewline h]
        exact .plain ih

theorem unescape_quote (s : String) : unescape (quote s) = s := by
  rw [unescape, quote, String.toList_ofList,
    unescapeChars_of_stands (stands_map_ofChar s.toList) (map_ofChar_inside s.toList),
    String.ofList_toList]

end Text

namespace Scanner

open Text

variable {start place : Location} {acc cs : List Char}

theorem stringBody_quote (rest : List Char) :
    stringBody start place acc ('"' :: rest) = .ok ⟨acc.reverse, rest, place.advance '"'⟩ := by
  rw [stringBody.eq_def]
  rfl

theorem stringBody_escaped (e : Char) (rest : List Char) :
    stringBody start place acc ('\\' :: e :: rest) =
      stringBody start ((place.advance '\\').advance e) (e :: '\\' :: acc) rest := by
  rw [stringBody.eq_def]
  rfl

theorem stringBody_plain {c : Char} (hc : (Glyph.plain c).Inside) :
    stringBody start place acc (c :: cs) = stringBody start (place.advance c) (c :: acc) cs := by
  obtain ⟨hquote, hbackslash, hnewline⟩ := hc
  rw [stringBody.eq_def]
  dsimp only
  rw [if_neg hquote, if_neg hbackslash, if_neg hnewline]

theorem stringBody_spell {gs : List Glyph} (hgs : ∀ g ∈ gs, g.Inside) (rest : List Char) :
    stringBody start place acc (spell gs ++ '"' :: rest) =
      .ok ⟨acc.reverse ++ spell gs, rest, place.advanceBy (spell gs ++ ['"'])⟩ := by
  induction gs generalizing place acc with
  | nil =>
    rw [spell_nil, List.append_nil]
    exact stringBody_quote rest
  | cons g gs ih =>
    have hrest := fun g hg => hgs g (.tail _ hg)
    cases g with
    | plain c =>
      rw [spell_plain, List.cons_append, stringBody_plain (hgs _ (.head _)), ih hrest,
        List.reverse_cons, List.append_assoc]
      rfl
    | escaped e =>
      rw [spell_escaped, List.cons_append, List.cons_append, stringBody_escaped, ih hrest,
        List.reverse_cons, List.reverse_cons, List.append_assoc, List.append_assoc]
      rfl

/-- The scanner takes glyphs up to a quote that none of them takes along. -/
theorem stringBody_eq_ok {p : Piece} (h : stringBody start place acc cs = .ok p) :
    ∃ gs, (∀ g ∈ gs, g.Inside) ∧ cs = spell gs ++ '"' :: p.rest := by
  fun_induction stringBody start place acc cs with
  | case2 =>
    cases h
    exact ⟨[], List.forall_mem_nil _, rfl⟩
  | case4 place acc e rest _ ih =>
    obtain ⟨gs, hgs, heq⟩ := ih h
    refine ⟨.escaped e :: gs, List.forall_mem_cons.mpr ⟨trivial, hgs⟩, ?_⟩
    rw [spell_escaped, List.cons_append, List.cons_append, ← heq]
  | case6 place acc c cs hquote hbackslash hnewline ih =>
    obtain ⟨gs, hgs, heq⟩ := ih h
    refine ⟨.plain c :: gs, List.forall_mem_cons.mpr ⟨⟨hquote, hbackslash, hnewline⟩, hgs⟩, ?_⟩
    rw [spell_plain, List.cons_append, ← heq]
  | _ => cases h

/-- There is one way only to divide what begins with a literal. -/
theorem spell_unique {gs gs' : List Glyph} {rest rest' : List Char} (hgs : ∀ g ∈ gs, g.Inside)
    (hgs' : ∀ g ∈ gs', g.Inside) (h : spell gs ++ '"' :: rest = spell gs' ++ '"' :: rest') :
    gs = gs' ∧ rest = rest' := by
  induction gs generalizing gs' with
  | nil =>
    match gs' with
    | [] =>
      cases h
      exact ⟨rfl, rfl⟩
    | .plain c :: gs' =>
      cases h
      exact absurd rfl (hgs' _ (.head _)).1
    | .escaped c :: gs' => cases h
  | cons g gs ih =>
    have hrest := fun g hg => hgs g (.tail _ hg)
    match g, gs' with
    | .plain c, [] =>
      cases h
      exact absurd rfl (hgs _ (.head _)).1
    | .escaped c, [] => cases h
    | .plain c, .plain d :: gs' =>
      obtain ⟨rfl, htail⟩ := List.cons.inj h
      obtain ⟨rfl, rfl⟩ := ih hrest (fun g hg => hgs' g (.tail _ hg)) htail
      exact ⟨rfl, rfl⟩
    | .escaped c, .escaped d :: gs' =>
      obtain ⟨rfl, htail⟩ := List.cons.inj (List.cons.inj h).2
      obtain ⟨rfl, rfl⟩ := ih hrest (fun g hg => hgs' g (.tail _ hg)) htail
      exact ⟨rfl, rfl⟩
    | .plain c, .escaped d :: gs' =>
      exact absurd (List.cons.inj h).1 (hgs _ (.head _)).ne_backslash
    | .escaped c, .plain d :: gs' =>
      exact absurd (List.cons.inj h).1.symm (hgs' _ (.head _)).ne_backslash

variable {afterOperand : Bool} {kind : Token.Kind} {rest : List Char} {place' : Location}

theorem scanKind_quote : scanKind afterOperand place ('"' :: cs) =
    match stringBody place (place.advance '"') [] cs with
    | .error e => .error e
    | .ok p => .ok (.string (String.ofList (unescapeChars p.text)), p.rest, p.place) := by
  rw [scanKind.eq_def]
  rfl

theorem scanKind_quote_spell {gs : List Glyph} {t : List Char} (hgs : ∀ g ∈ gs, g.Inside)
    (ht : Stands gs t) :
    scanKind afterOperand place ('"' :: (spell gs ++ '"' :: rest)) =
      .ok (.string (String.ofList t), rest, place.advanceBy ('"' :: (spell gs ++ ['"']))) := by
  have hbody : stringBody place (place.advance '"') [] (spell gs ++ '"' :: rest) =
      .ok ⟨spell gs, rest, place.advanceBy ('"' :: (spell gs ++ ['"']))⟩ :=
    stringBody_spell hgs rest
  rw [scanKind_quote, hbody]
  dsimp only
  rw [(stands_iff hgs t).mp ht]

/-- A literal is what stands before the first quote that no backslash takes along, and its token
holds what its glyphs stand for. -/
theorem scanKind_quote_eq_ok_iff :
    scanKind afterOperand place ('"' :: cs) = .ok (kind, rest, place') ↔
      ∃ gs t, (∀ g ∈ gs, g.Inside) ∧ cs = spell gs ++ '"' :: rest ∧ Stands gs t ∧
        kind = .string (String.ofList t) ∧
        place' = place.advanceBy ('"' :: (spell gs ++ ['"'])) := by
  constructor
  · intro h
    cases hbody : stringBody place (place.advance '"') [] cs with
    | error e =>
      rw [scanKind_quote, hbody] at h
      cases h
    | ok p =>
      obtain ⟨gs, hgs, rfl⟩ := stringBody_eq_ok hbody
      obtain ⟨t, ht⟩ := exists_stands gs
      rw [scanKind_quote_spell hgs ht] at h
      cases h
      exact ⟨gs, t, hgs, rfl, ht, rfl, rfl⟩
  · rintro ⟨gs, t, hgs, rfl, ht, rfl, rfl⟩
    exact scanKind_quote_spell hgs ht

end Scanner

/-- A quoted text between quotes is one token. -/
theorem tokenize_quote (s : String) :
    tokenize ("\"" ++ Text.quote s ++ "\"") =
      .ok [⟨.string s, .start⟩,
        ⟨.eof, Location.start.advanceBy ("\"" ++ Text.quote s ++ "\"").toList⟩] := by
  have htext : ("\"" ++ Text.quote s ++ "\"").toList =
      '"' :: (Text.spell (s.toList.map Text.Glyph.ofChar) ++ ['"']) := by
    simp only [Text.quote, String.toList_append, String.toList_ofList, List.append_assoc]
    rfl
  have hscan : Scanner.nextToken (.ofText ("\"" ++ Text.quote s ++ "\"")) =
      .ok (⟨.string s, .start⟩,
        ⟨[], Location.start.advanceBy ("\"" ++ Text.quote s ++ "\"").toList, true⟩) := by
    rw [Scanner.nextToken, Scanner.ofText, htext, Scanner.skipBlanks.eq_def]
    dsimp only
    rw [if_neg (by decide), if_neg (by decide), if_neg (by decide)]
    dsimp only
    rw [Scanner.scanKind_quote_spell (Text.map_ofChar_inside s.toList)
      (Text.stands_map_ofChar s.toList), String.ofList_toList]
    rfl
  rw [tokenize, Scanner.tokensFrom, hscan, htext]
  rfl

/-! ## Assignments -/

theorem ne_equals_of_isNameChar {c : Char} (h : Text.isNameChar c = true) : c ≠ '=' := by
  rintro rfl
  exact absurd h (by decide)

theorem ne_equals_of_isValidName {name : String} (h : isValidName name = true) :
    ∀ c ∈ name.toList, c ≠ '=' := by
  unfold isValidName at h
  split at h
  · cases h
  · next c cs hname =>
    rw [Bool.and_eq_true, List.all_eq_true] at h
    obtain ⟨hfirst, hrest⟩ := h
    have hc : Text.isNameChar c = true := by
      rcases Bool.or_eq_true_iff.mp hfirst with hletter | hunderscore
      · rw [Text.isNameChar, hletter, Bool.true_or, Bool.true_or]
      · rw [Text.isNameChar, hunderscore, Bool.or_true]
    rw [hname]
    exact List.forall_mem_cons.mpr
      ⟨ne_equals_of_isNameChar hc, fun d hd => ne_equals_of_isNameChar (hrest d hd)⟩

/-- The first equals sign stands behind the name. -/
theorem Assignment.divide?_name {name : String} (h : isValidName name = true) (value : String) :
    divide? (name ++ "=" ++ value) = some (name, value) := by
  have hname : ∀ c ∈ name.toList, (c != '=') = true := fun c hc =>
    bne_iff_ne.mpr (ne_equals_of_isValidName h c hc)
  have htext : (name ++ "=" ++ value).toList = name.toList ++ '=' :: value.toList := by
    rw [String.toList_append, String.toList_append, List.append_assoc]
    rfl
  rw [divide?, htext, List.span_eq_takeWhile_dropWhile, List.takeWhile_append_of_pos hname,
    List.dropWhile_append_of_pos hname]
  simp

/-- A quoted text reaches a variable that is no array as it was before it was quoted. -/
theorem Scope.assign_quote {name : String} {scope : Scope} (hvalid : isValidName name = true)
    (hname : Special.ofName? name = none)
    (hscalar : ∀ id, scope.assigned? name ≠ some (.array id)) (s : String) :
    ∃ scope', Scope.assign (name ++ "=" ++ Text.quote s) scope = .ok () scope' ∧
      scope'.value name = .ok (.infer s) := by
  have hassign : Scope.assign (name ++ "=" ++ Text.quote s) = Scope.preset name s := by
    rw [Scope.assign, Assignment.divide?_name hvalid]
    dsimp only
    rw [Text.unescape_quote]
  have hpreset : Scope.preset name s scope = .ok () (scope.bind name (.scalar (.infer s))) := by
    rw [Scope.preset, if_pos hvalid, Scope.setVar, hname]
    dsimp only
    split
    · next id hid => exact absurd hid (hscalar id)
    · rfl
  exact ⟨_, by rw [hassign, hpreset], Scope.value_of_preset hname hpreset⟩

theorem Value.toText_infer (format s : String) : (infer s).toText format = s := by
  unfold infer
  split <;> rfl

/-- Every text can be quoted.  Between quotes it is one token of the text, its escapes stand for
the text, and an assignment from outside stores the text.  What begins with a quote is a literal if
glyphs and a closing quote follow, in one way at most; the token has the text that the glyphs stand
for, which is what replacing escapes makes of them. -/
theorem literals_read_back (s : String) :
    tokenize ("\"" ++ Text.quote s ++ "\"") =
        .ok [⟨.string s, .start⟩,
          ⟨.eof, Location.start.advanceBy ("\"" ++ Text.quote s ++ "\"").toList⟩] ∧
      Text.unescape (Text.quote s) = s ∧
      (∀ (name : String) (m : Machine), isValidName name = true → Special.ofName? name = none →
        (∀ id, m.scope.assigned? name ≠ some (.array id)) →
        ∃ m' v, (Setting.assign (name ++ "=" ++ Text.quote s)).apply m = .ok () m' ∧
          m'.scope.value name = .ok v ∧ ∀ format, v.toText format = s) ∧
      (∀ (afterOperand : Bool) (place place' : Location) (cs rest : List Char) (kind : Token.Kind),
        Scanner.scanKind afterOperand place ('"' :: cs) = .ok (kind, rest, place') ↔
          ∃ gs t, (∀ g ∈ gs, g.Inside) ∧ cs = Text.spell gs ++ '"' :: rest ∧ Text.Stands gs t ∧
            kind = .string (String.ofList t) ∧
            place' = place.advanceBy ('"' :: (Text.spell gs ++ ['"']))) ∧
      (∀ (gs gs' : List Text.Glyph) (rest rest' : List Char), (∀ g ∈ gs, g.Inside) →
        (∀ g ∈ gs', g.Inside) → Text.spell gs ++ '"' :: rest = Text.spell gs' ++ '"' :: rest' →
        gs = gs' ∧ rest = rest') ∧
      ∀ (gs : List Text.Glyph) (t : List Char), (∀ g ∈ gs, g.Inside) →
        (Text.Stands gs t ↔ Text.unescapeChars (Text.spell gs) = t) := by
  refine ⟨tokenize_quote s, Text.unescape_quote s, fun name m hvalid hname hscalar => ?_,
    fun _ _ _ _ _ _ => Scanner.scanKind_quote_eq_ok_iff, fun _ _ _ _ => Scanner.spell_unique,
    fun _ t hgs => Text.stands_iff hgs t⟩
  obtain ⟨scope', hassign, hvalue⟩ := Scope.assign_quote hvalid hname hscalar s
  refine ⟨{ m with scope := scope' }, _, ?_, hvalue, fun format => Value.toText_infer format s⟩
  rw [Setting.apply, Eval.onScope, hassign]

/-- A text of all three characters that are escaped. -/
theorem literals_read_back_assigned :
    isValidName "v" = true ∧ Special.ofName? "v" = none ∧
      (∀ id, (Machine.initial .empty).scope.assigned? "v" ≠ some (.array id)) ∧
      (∀ g ∈ "\\\"\n".toList.map Text.Glyph.ofChar, g.Inside) ∧
      Text.quote "\\\"\n" = "\\\\\\\"\\n" ∧
      ∃ m' v, (Setting.assign ("v" ++ "=" ++ Text.quote "\\\"\n")).apply (Machine.initial .empty) =
        .ok () m' ∧ m'.scope.value "v" = .ok v ∧ ∀ format, v.toText format = "\\\"\n" := by
  have hscalar : ∀ id, (Machine.initial .empty).scope.assigned? "v" ≠ some (.array id) := by
    intro id h
    have hnone : ((Machine.initial .empty).scope.assigned? "v").isNone = true := by
      decide +kernel
    rw [h] at hnone
    cases hnone
  obtain ⟨-, -, hassign, -⟩ := literals_read_back "\\\"\n"
  exact ⟨by decide, by decide, hscalar, Text.map_ofChar_inside _, by decide +kernel,
    hassign "v" (Machine.initial .empty) (by decide) (by decide) hscalar⟩

end Awk
