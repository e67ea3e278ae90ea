import Awk.Proofs.Literals
import Awk.Regex.Braces

/-!
# Stray braces

A pattern is divided from the left into characters, bracket expressions, intervals and braces that
belong to none of these, and there is one way only to do so.  Escaping puts a backslash in front of
each stray brace and leaves all other pieces as they are, so what it gives is divided alike, with an
escaped brace for every stray one, and escaping it again changes nothing (`strayBraces_escaped`).
-/

namespace Awk
namespace Regex
namespace Braces

open Text (Glyph spell)

/-- How a bracket expression ends: with its bracket, or with the pattern, of which the last
character may be a backslash that takes nothing along. -/
inductive Ending where
  | closed | unclosed | hanging
deriving DecidableEq

/-- A bracket expression.  A closing bracket right behind its opening is a member. -/
structure Bracket where
  negated : Bool
  leading : Bool
  members : List Glyph
  ending : Ending
deriving DecidableEq

inductive Piece where
  | glyph (g : Glyph)
  /-- A backslash that ends the pattern. -/
  | hanging
  | bracket (b : Bracket)
  | interval (bounds : List Char)
  | stray (brace : Char)
deriving DecidableEq

def Ending.chars : Ending → List Char
  | closed => [']']
  | unclosed => []
  | hanging => ['\\']

namespace Bracket

def opening (b : Bracket) : List Char :=
  '[' :: ((if b.negated then ['^'] else []) ++ if b.leading then [']'] else [])

/-- What stands behind the opening. -/
def inside (b : Bracket) : List Char := spell b.members ++ b.ending.chars

/-- A bracket expression in front of `rest`: what can belong to its opening does, no member closes
it, and only the end of the pattern ends it otherwise. -/
structure Fits (b : Bracket) (rest : List Char) : Prop where
  leading : b.leading = false → (b.inside ++ rest).head? ≠ some ']'
  negated : b.negated = false → b.leading = false → (b.inside ++ rest).head? ≠ some '^'
  members : ∀ g ∈ b.members, g ≠ .plain ']' ∧ g ≠ .plain '\\'
  ending : b.ending ≠ .closed → rest = []

end Bracket

/-- The bounds of an interval: `n`, `n,` or `n,m`. -/
def IsBounds (cs : List Char) : Prop :=
  ∃ ds, Number.IsDigits ds ∧
    (cs = ds ∨ ∃ es, (∀ e ∈ es, Number.isDigit e = true) ∧ cs = ds ++ ',' :: es)

namespace Piece

def chars : Piece → List Char
  | glyph g => g.chars
  | hanging => ['\\']
  | bracket b => b.opening ++ b.inside
  | interval bounds => '\x7b' :: (bounds ++ ['\x7d'])
  | stray brace => [brace]

/-- What can stand in front of `rest` as a piece. -/
inductive Fits : Piece → List Char → Prop where
  | plain {c : Char} {rest : List Char} : c ∉ ['\\', '[', '\x7b', '\x7d'] →
      Fits (.glyph (.plain c)) rest
  | escaped {c : Char} {rest : List Char} : Fits (.glyph (.escaped c)) rest
  | hanging : Fits .hanging []
  | bracket {b : Bracket} {rest : List Char} : b.Fits rest → Fits (.bracket b) rest
  | interval {bounds rest : List Char} : IsBounds bounds → Fits (.interval bounds) rest
  | opening {rest : List Char} :
      (∀ bounds more, IsBounds bounds → rest ≠ bounds ++ '\x7d' :: more) →
      Fits (.stray '\x7b') rest
  | closing {rest : List Char} : Fits (.stray '\x7d') rest

/-- The characters of a piece of the escaped pattern, each with whether it was put in. -/
def marked : Piece → List (Char × Bool)
  | stray brace => [('\\', true), (brace, false)]
  | piece => piece.chars.map (·, false)

/-- The piece of the escaped pattern. -/
def guarded : Piece → Piece
  | stray brace => .glyph (.escaped brace)
  | piece => piece

end Piece

/-- A pattern as the pieces that it is made of. -/
inductive Divided : List Piece → List Char → Prop where
  | nil : Divided [] []
  | cons {piece : Piece} {ps : List Piece} {rest : List Char} : piece.Fits rest → Divided ps rest →
      Divided (piece :: ps) (piece.chars ++ rest)

/-- One turn of the scan: what it reads in some mode, what it writes for that, and the mode in which
it goes on with the rest. -/
inductive Turn : Mode → List Char → List Char → Mode → List Char → Prop where
  | escaped {mode : Mode} {c : Char} {rest : List Char} :
      Turn mode ('\\' :: c :: rest) ['\\', c] mode rest
  | hanging {mode : Mode} : Turn mode ['\\'] ['\\'] mode []
  | member {c : Char} {rest : List Char} : c ≠ '\\' → c ≠ ']' →
      Turn .bracket (c :: rest) [c] .bracket rest
  | bracketEnd {rest : List Char} : Turn .bracket (']' :: rest) [']'] .plain rest
  | bound {c : Char} {rest : List Char} : c ≠ '\\' → c ≠ '\x7d' →
      Turn .interval (c :: rest) [c] .interval rest
  | intervalEnd {rest : List Char} : Turn .interval ('\x7d' :: rest) ['\x7d'] .plain rest
  | plain {c : Char} {rest : List Char} : c ∉ ['\\', '[', '\x7b', '\x7d'] →
      Turn .plain (c :: rest) [c] .plain rest
  | bracket {b : Bracket} {rest : List Char} : (b.leading = false → rest.head? ≠ some ']') →
      (b.negated = false → b.leading = false → rest.head? ≠ some '^') →
      Turn .plain (b.opening ++ rest) b.opening .bracket rest
  | interval {rest : List Char} : closesInterval rest = true →
      Turn .plain ('\x7b' :: rest) ['\x7b'] .interval rest
  | opening {rest : List Char} : closesInterval rest = false →
      Turn .plain ('\x7b' :: rest) ['\\', '\x7b'] .plain rest
  | closing {rest : List Char} : Turn .plain ('\x7d' :: rest) ['\\', '\x7d'] .plain rest

variable {piece piece' : Piece} {ps qs : List Piece} {cs out rest rest' : List Char}
  {mode mode' : Mode}

/-! ## Pieces as they are marked and guarded -/

theorem Piece.marked_chars (piece : Piece) :
    piece.marked.map Prod.fst = piece.guarded.chars ∧
      (piece.marked.filter (!·.2)).map Prod.fst = piece.chars := by
  cases piece with
  | stray brace => exact ⟨rfl, rfl⟩
  | _ => simp [marked, guarded, List.filter_map, Function.comp_def]

/-! ## What the scan does with a piece -/

theorem escapeFrom_nil (mode : Mode) : escapeFrom mode [] = [] := by
  rw [escapeFrom.eq_def]

theorem Turn.escapeFrom_eq (h : Turn mode cs out mode' rest) :
    escapeFrom mode cs = out ++ escapeFrom mode' rest := by
  cases h with
  | escaped =>
    rw [escapeFrom.eq_def]
    rfl
  | hanging =>
    rw [escapeFrom_nil, escapeFrom.eq_def]
    rfl
  | member hescape hclose =>
    rw [escapeFrom.eq_def]
    simp only [hescape, hclose, if_false, List.singleton_append]
  | bracketEnd =>
    rw [escapeFrom.eq_def]
    rfl
  | bound hescape hclose =>
    rw [escapeFrom.eq_def]
    simp only [hescape, hclose, if_false, List.singleton_append]
  | intervalEnd =>
    rw [escapeFrom.eq_def]
    rfl
  | plain hc =>
    simp only [List.mem_cons, List.not_mem_nil, or_false, not_or] at hc
    rw [escapeFrom.eq_def]
    simp only [hc, if_false, List.singleton_append]
  | @bracket b rest hleading hnegated =>
    rw [Bracket.opening]
    cases hl : b.leading with
    | true => cases b.negated <;> rw [escapeFrom.eq_def] <;> rfl
    | false =>
      have hclose := hleading hl
      cases hn : b.negated with
      | true =>
        rw [escapeFrom.eq_def]
        cases rest with
        | nil => rfl
        | cons c rest => simp_all
      | false =>
        have hcaret := hnegated hn hl
        rw [escapeFrom.eq_def]
        cases rest with
        | nil => rfl
        | cons c rest => simp_all
  | interval hcloses =>
    rw [escapeFrom.eq_def]
    exact if_pos hcloses
  | opening hcloses =>
    rw [escapeFrom.eq_def]
    exact if_neg (Bool.eq_false_iff.mp hcloses)
  | closing =>
    rw [escapeFrom.eq_def]
    rfl

theorem escapeFrom_members {gs : List Glyph} (h : ∀ g ∈ gs, g ≠ .plain ']' ∧ g ≠ .plain '\\')
    (cs : List Char) :
    escapeFrom .bracket (spell gs ++ cs) = spell gs ++ escapeFrom .bracket cs := by
  induction gs with
  | nil => rfl
  | cons g gs ih =>
    obtain ⟨⟨hclose, hescape⟩, htail⟩ := List.forall_mem_cons.mp h
    replace htail := ih htail
    match g with
    | .plain c =>
      have hturn : Turn .bracket (c :: (spell gs ++ cs)) [c] .bracket (spell gs ++ cs) :=
        .member (mt (congrArg _) hescape) (mt (congrArg _) hclose)
      rw [Text.spell_plain, List.cons_append, hturn.escapeFrom_eq, htail]
      rfl
    | .escaped c =>
      rw [Text.spell_escaped, List.cons_append, List.cons_append, Turn.escaped.escapeFrom_eq, htail]
      rfl

theorem escapeFrom_bracket_chars {b : Bracket} (h : b.Fits rest) :
    escapeFrom .plain (b.opening ++ b.inside ++ rest) =
      b.opening ++ b.inside ++ escapeFrom .plain rest := by
  rw [List.append_assoc, (Turn.bracket h.leading h.negated).escapeFrom_eq, Bracket.inside,
    List.append_assoc, escapeFrom_members h.members, List.append_assoc, List.append_assoc]
  congr 2
  cases hending : b.ending with
  | closed =>
    rw [Ending.chars, List.singleton_append, Turn.bracketEnd.escapeFrom_eq]
  | unclosed =>
    rw [h.ending (by rw [hending]; exact Ending.noConfusion), Ending.chars, List.append_nil,
      escapeFrom_nil, escapeFrom_nil]
    rfl
  | hanging =>
    rw [h.ending (by rw [hending]; exact Ending.noConfusion), Ending.chars, List.append_nil,
      Turn.hanging.escapeFrom_eq, escapeFrom_nil]
    rfl

/-! ## Intervals -/

theorem IsBounds.plain {bounds : List Char} (h : IsBounds bounds) :
    ∀ c ∈ bounds, c ≠ '\\' ∧ c ≠ '\x7d' := by
  have hdigit : ∀ {c : Char}, Number.isDigit c = true → c ≠ '\\' ∧ c ≠ '\x7d' :=
    fun hc => ⟨Number.Numeral.isDigit_ne hc rfl, Number.Numeral.isDigit_ne hc rfl⟩
  obtain ⟨ds, ⟨-, hds⟩, rfl | ⟨es, hes, rfl⟩⟩ := h
  · exact fun c hc => hdigit (hds c hc)
  · intro c hc
    rcases List.mem_append.mp hc with hc | hc
    · exact hdigit (hds c hc)
    · rcases List.mem_cons.mp hc with rfl | hc
      · decide
      · exact hdigit (hes c hc)

theorem escapeFrom_bounds {bounds : List Char} (h : ∀ c ∈ bounds, c ≠ '\\' ∧ c ≠ '\x7d')
    (rest : List Char) :
    escapeFrom .interval (bounds ++ '\x7d' :: rest) =
      bounds ++ '\x7d' :: escapeFrom .plain rest := by
  induction bounds with
  | nil => exact Turn.intervalEnd.escapeFrom_eq
  | cons c bounds ih =>
    obtain ⟨hescape, hclose⟩ := h c (.head _)
    rw [List.cons_append, (Turn.bound hescape hclose).escapeFrom_eq,
      ih fun d hd => h d (.tail _ hd)]
    rfl

theorem closesInterval_iff {cs : List Char} :
    closesInterval cs = true ↔ ∃ bounds more, IsBounds bounds ∧ cs = bounds ++ '\x7d' :: more := by
  constructor
  · intro h
    rw [closesInterval, Bool.and_eq_true, Bool.not_eq_true'] at h
    obtain ⟨hsome, hbehind⟩ := h
    have hds : Number.IsDigits (cs.takeWhile Number.isDigit) :=
      Number.Numeral.isDigits_takeWhile (Bool.eq_false_iff.mp hsome)
    have hcs := (List.takeWhile_append_dropWhile (p := Number.isDigit) (l := cs)).symm
    split at hbehind
    · next more hrest =>
      obtain ⟨rest, hmore⟩ := List.head?_eq_some_iff.mp (beq_iff_eq.mp hbehind)
      have hes := (List.takeWhile_append_dropWhile (p := Number.isDigit) (l := more)).symm
      rw [hmore] at hes
      refine ⟨_, rest, ⟨_, hds, .inr ⟨more.takeWhile Number.isDigit,
        Number.Numeral.isDigit_of_mem_takeWhile, rfl⟩⟩, ?_⟩
      rw [List.append_assoc, List.cons_append, ← hes, ← hrest]
      exact hcs
    · next c rest _ hrest =>
      rw [beq_iff_eq.mp hbehind] at hrest
      exact ⟨_, rest, ⟨_, hds, .inl rfl⟩, by rw [← hrest]; exact hcs⟩
    · cases hbehind
  · rintro ⟨bounds, more, ⟨ds, ⟨hne, hds⟩, rfl | ⟨es, hes, rfl⟩⟩, rfl⟩
    · rw [closesInterval, List.takeWhile_append_of_pos hds, List.dropWhile_append_of_pos hds]
      simp [hne, Number.isDigit]
    · have hrest : (es ++ '\x7d' :: more).dropWhile Number.isDigit = '\x7d' :: more := by
        rw [List.dropWhile_append_of_pos hes]
        rfl
      rw [closesInterval, List.append_assoc, List.takeWhile_append_of_pos hds,
        List.dropWhile_append_of_pos hds]
      simp [hne, hrest, Number.isDigit]

theorem IsBounds.takeWhile {bounds : List Char} (h : IsBounds bounds) (more : List Char) :
    (bounds ++ '\x7d' :: more).takeWhile (· ≠ '\x7d') = bounds := by
  rw [List.takeWhile_append_of_pos fun c hc => decide_eq_true (h.plain c hc).2,
    List.takeWhile_cons_of_neg (by decide), List.append_nil]

/-! ## Every pattern is divided -/

theorem Piece.chars_ne_nil (piece : Piece) : piece.chars ≠ [] := by
  cases piece with
  | glyph g => cases g <;> exact List.cons_ne_nil _ _
  | _ => exact List.cons_ne_nil _ _

theorem Piece.interval_chars (bounds rest : List Char) :
    (interval bounds).chars ++ rest = '\x7b' :: (bounds ++ '\x7d' :: rest) := by
  simp [chars]

theorem exists_bracket_opening (cs : List Char) :
    ∃ (b : Bracket) (rest : List Char), '[' :: cs = b.opening ++ rest ∧
      (b.leading = false → rest.head? ≠ some ']') ∧
      (b.negated = false → b.leading = false → rest.head? ≠ some '^') := by
  by_cases hcaret : cs.head? = some '^'
  · obtain ⟨cs, rfl⟩ := List.head?_eq_some_iff.mp hcaret
    by_cases hclose : cs.head? = some ']'
    · obtain ⟨cs, rfl⟩ := List.head?_eq_some_iff.mp hclose
      exact ⟨⟨true, true, [], .closed⟩, cs, rfl, nofun, nofun⟩
    · exact ⟨⟨true, false, [], .closed⟩, cs, rfl, fun _ => hclose, nofun⟩
  · by_cases hclose : cs.head? = some ']'
    · obtain ⟨cs, rfl⟩ := List.head?_eq_some_iff.mp hclose
      exact ⟨⟨false, true, [], .closed⟩, cs, rfl, nofun, nofun⟩
    · exact ⟨⟨false, false, [], .closed⟩, cs, rfl, fun _ => hclose, fun _ _ => hcaret⟩

theorem exists_members (cs : List Char) :
    ∃ (gs : List Glyph) (ending : Ending) (rest : List Char),
      cs = spell gs ++ ending.chars ++ rest ∧
      (∀ g ∈ gs, g ≠ .plain ']' ∧ g ≠ .plain '\\') ∧ (ending ≠ .closed → rest = []) := by
  match cs with
  | [] => exact ⟨[], .unclosed, [], rfl, nofun, fun _ => rfl⟩
  | c :: cs =>
    by_cases hclose : c = ']'
    · exact ⟨[], .closed, cs, by rw [hclose]; rfl, nofun, fun h => absurd rfl h⟩
    · by_cases hescape : c = '\\'
      · match cs with
        | [] => exact ⟨[], .hanging, [], by rw [hescape]; rfl, nofun, fun _ => rfl⟩
        | e :: cs =>
          obtain ⟨gs, ending, rest, rfl, hmembers, hending⟩ := exists_members cs
          exact ⟨.escaped e :: gs, ending, rest, by rw [hescape]; rfl,
            List.forall_mem_cons.mpr ⟨⟨Glyph.noConfusion, Glyph.noConfusion⟩, hmembers⟩, hending⟩
      · obtain ⟨gs, ending, rest, rfl, hmembers, hending⟩ := exists_members cs
        exact ⟨.plain c :: gs, ending, rest, rfl, List.forall_mem_cons.mpr
          ⟨⟨mt Glyph.plain.inj hclose, mt Glyph.plain.inj hescape⟩, hmembers⟩, hending⟩

theorem exists_fits (c : Char) (cs : List Char) :
    ∃ (piece : Piece) (rest : List Char), c :: cs = piece.chars ++ rest ∧ piece.Fits rest := by
  by_cases hescape : c = '\\'
  · subst hescape
    cases cs with
    | nil => exact ⟨.hanging, [], rfl, .hanging⟩
    | cons e cs => exact ⟨.glyph (.escaped e), cs, rfl, .escaped⟩
  · by_cases hbracket : c = '['
    · subst hbracket
      obtain ⟨b, inside, hopening, hleading, hnegated⟩ := exists_bracket_opening cs
      obtain ⟨gs, ending, rest, rfl, hmembers, hending⟩ := exists_members inside
      refine ⟨.bracket { b with members := gs, ending }, rest, ?_,
        .bracket ⟨hleading, hnegated, hmembers, hending⟩⟩
      rw [hopening]
      exact (List.append_assoc ..).symm
    · by_cases hopening : c = '\x7b'
      · subst hopening
        by_cases hcloses : closesInterval cs = true
        · obtain ⟨bounds, rest, hbounds, rfl⟩ := closesInterval_iff.mp hcloses
          exact ⟨.interval bounds, rest, (Piece.interval_chars ..).symm, .interval hbounds⟩
        · refine ⟨.stray '\x7b', cs, rfl, .opening fun bounds more hbounds heq => ?_⟩
          exact hcloses (closesInterval_iff.mpr ⟨bounds, more, hbounds, heq⟩)
      · by_cases hclosing : c = '\x7d'
        · subst hclosing
          exact ⟨.stray '\x7d', cs, rfl, .closing⟩
        · refine ⟨.glyph (.plain c), cs, rfl, .plain ?_⟩
          simp [hescape, hbracket, hopening, hclosing]

theorem exists_divided (cs : List Char) : ∃ ps, Divided ps cs := by
  match cs with
  | [] => exact ⟨[], .nil⟩
  | c :: cs =>
    obtain ⟨piece, rest, heq, hfits⟩ := exists_fits c cs
    have hless : rest.length < cs.length + 1 := by
      have hpos := List.length_pos_iff.mpr piece.chars_ne_nil
      rw [← List.length_cons, heq, List.length_append]
      omega
    obtain ⟨ps, hps⟩ := exists_divided rest
    exact ⟨piece :: ps, heq ▸ .cons hfits hps⟩
termination_by cs.length

/-! ## There is one way to divide a pattern -/

theorem glyph_unique {g g' : Glyph} (h : g ≠ .plain '\\') (h' : g' ≠ .plain '\\')
    (heq : g.chars ++ rest = g'.chars ++ rest') : g = g' ∧ rest = rest' := by
  cases g <;> cases g' <;> grind [Glyph.chars]

/-- A member does not begin like the end of its bracket expression. -/
theorem ending_ne_member {ending : Ending} {g : Glyph} (hending : ending ≠ .closed → rest = [])
    (hclose : g ≠ .plain ']') (hescape : g ≠ .plain '\\') :
    ending.chars ++ rest ≠ g.chars ++ rest' := by
  cases ending <;> cases g <;> grind [Ending.chars, Glyph.chars]

theorem members_unique {gs gs' : List Glyph} {ending ending' : Ending}
    (h : ∀ g ∈ gs, g ≠ .plain ']' ∧ g ≠ .plain '\\')
    (h' : ∀ g ∈ gs', g ≠ .plain ']' ∧ g ≠ .plain '\\')
    (hending : ending ≠ .closed → rest = []) (hending' : ending' ≠ .closed → rest' = [])
    (heq : spell gs ++ (ending.chars ++ rest) = spell gs' ++ (ending'.chars ++ rest')) :
    gs = gs' ∧ ending = ending' := by
  induction gs generalizing gs' with
  | nil =>
    cases gs' with
    | nil =>
      refine ⟨rfl, ?_⟩
      cases ending <;> cases ending' <;> simp_all [Ending.chars, spell]
    | cons g' gs' =>
      obtain ⟨hclose, hescape⟩ := h' g' (.head _)
      exact absurd (heq.trans (List.append_assoc ..)) (ending_ne_member hending hclose hescape)
  | cons g gs ih =>
    obtain ⟨hclose, hescape⟩ := h g (.head _)
    cases gs' with
    | nil =>
      exact absurd (heq.symm.trans (List.append_assoc ..))
        (ending_ne_member hending' hclose hescape)
    | cons g' gs' =>
      obtain ⟨hclose', hescape'⟩ := h' g' (.head _)
      have hglyph : g.chars ++ (spell gs ++ (ending.chars ++ rest)) =
          g'.chars ++ (spell gs' ++ (ending'.chars ++ rest')) := by
        simpa [spell] using heq
      obtain ⟨rfl, htail⟩ := glyph_unique hescape hescape' hglyph
      obtain ⟨rfl, hend⟩ :=
        ih (fun g hg => h g (.tail _ hg)) (fun g hg => h' g (.tail _ hg)) htail
      exact ⟨rfl, hend⟩

theorem Bracket.Fits.negated_iff {b : Bracket} (h : b.Fits rest) :
    b.negated = true ↔ (b.opening ++ (b.inside ++ rest)).tail.head? = some '^' := by
  cases hn : b.negated with
  | true => simp [opening, hn]
  | false =>
    cases hl : b.leading with
    | true => simp [opening, hn, hl]
    | false => simpa [opening, hn, hl] using h.negated hn hl

theorem Bracket.Fits.leading_iff {b : Bracket} (h : b.Fits rest) :
    b.leading = true ↔
      ((if b.leading then [']'] else []) ++ (b.inside ++ rest)).head? = some ']' := by
  cases hl : b.leading with
  | true => simp
  | false => simpa using h.leading hl

theorem opening_unique {b b' : Bracket} (h : b.Fits rest) (h' : b'.Fits rest')
    (heq : b.opening ++ (b.inside ++ rest) = b'.opening ++ (b'.inside ++ rest')) :
    b.negated = b'.negated ∧ b.leading = b'.leading := by
  have hnegated : b.negated = b'.negated :=
    Bool.eq_iff_iff.mpr (by rw [h.negated_iff, heq, h'.negated_iff])
  rw [Bracket.opening, Bracket.opening, hnegated, List.cons_append, List.cons_append,
    List.append_assoc, List.append_assoc] at heq
  have hbehind := List.append_cancel_left (List.cons.inj heq).2
  exact ⟨hnegated, Bool.eq_iff_iff.mpr (by rw [h.leading_iff, hbehind, ← h'.leading_iff])⟩

theorem Bracket.Fits.unique {b b' : Bracket} (h : b.Fits rest) (h' : b'.Fits rest')
    (heq : b.opening ++ b.inside ++ rest = b'.opening ++ b'.inside ++ rest') : b = b' := by
  rw [List.append_assoc, List.append_assoc] at heq
  obtain ⟨hnegated, hleading⟩ := opening_unique h h' heq
  have hopening : b.opening = b'.opening := by rw [opening, opening, hnegated, hleading]
  rw [hopening, List.append_cancel_left_eq, inside, inside, List.append_assoc,
    List.append_assoc] at heq
  obtain ⟨hmembers, hending⟩ := members_unique h.members h'.members h.ending h'.ending heq
  cases b
  cases b'
  simp_all

theorem Piece.Fits.unique (h : piece.Fits rest) (h' : piece'.Fits rest')
    (heq : piece.chars ++ rest = piece'.chars ++ rest') : piece = piece' := by
  cases h with
  | bracket h =>
    cases h' with
    | bracket h' => rw [h.unique h' heq]
    | _ => grind [Piece.chars, Bracket.opening, Glyph.chars]
  | interval h =>
    cases h' with
    | interval h' =>
      rw [interval_chars, interval_chars] at heq
      rw [← h.takeWhile rest, (List.cons.inj heq).2, h'.takeWhile]
    | opening hnone =>
      rw [interval_chars] at heq
      exact absurd (List.cons.inj heq).2.symm (hnone _ _ h)
    | _ => grind [Piece.chars, Bracket.opening, Glyph.chars]
  | opening hnone =>
    cases h' with
    | interval h' =>
      rw [interval_chars] at heq
      exact absurd (List.cons.inj heq).2 (hnone _ _ h')
    | _ => grind [Piece.chars, Bracket.opening, Glyph.chars]
  | _ => cases h' <;> grind [Piece.chars, Bracket.opening, Glyph.chars]

theorem Divided.unique (h : Divided ps cs) (h' : Divided qs cs) : ps = qs := by
  induction h generalizing qs with
  | nil =>
    generalize hcs : ([] : List Char) = cs at h'
    cases h' with
    | nil => rfl
    | @cons piece => exact absurd (List.append_eq_nil_iff.mp hcs.symm).1 piece.chars_ne_nil
  | @cons piece ps rest hfits hps ih =>
    generalize hcs : piece.chars ++ rest = cs at h'
    cases h' with
    | nil => exact absurd (List.append_eq_nil_iff.mp hcs).1 piece.chars_ne_nil
    | @cons piece' qs rest' hfits' hqs =>
      obtain rfl := hfits.unique hfits' hcs
      obtain rfl := List.append_cancel_left hcs
      rw [ih hqs]

/-! ## The escaped pattern -/

theorem escapeFrom_piece (h : piece.Fits rest) :
    escapeFrom .plain (piece.chars ++ rest) = piece.guarded.chars ++ escapeFrom .plain rest := by
  cases h with
  | plain hc => exact (Turn.plain hc).escapeFrom_eq
  | escaped => exact Turn.escaped.escapeFrom_eq
  | hanging => exact Turn.hanging.escapeFrom_eq
  | bracket h => exact escapeFrom_bracket_chars h
  | interval h =>
    have hcloses := closesInterval_iff.mpr ⟨_, rest, h, rfl⟩
    rw [Piece.interval_chars, (Turn.interval hcloses).escapeFrom_eq, List.singleton_append,
      escapeFrom_bounds h.plain]
    exact (Piece.interval_chars ..).symm
  | opening hnone =>
    have hcloses : closesInterval rest = false := by
      refine Bool.eq_false_iff.mpr fun hcloses => ?_
      obtain ⟨bounds, more, hbounds, heq⟩ := closesInterval_iff.mp hcloses
      exact hnone bounds more hbounds heq
    exact (Turn.opening hcloses).escapeFrom_eq
  | closing => exact Turn.closing.escapeFrom_eq

theorem Divided.escapeFrom_eq (h : Divided ps cs) :
    escapeFrom .plain cs = (ps.map Piece.guarded).flatMap Piece.chars := by
  induction h with
  | nil => exact escapeFrom_nil .plain
  | cons hfits _ ih => rw [escapeFrom_piece hfits, ih]; rfl

theorem Bracket.Fits.of_nil {b : Bracket} (h : b.Fits rest) (hnil : rest = [] → rest' = []) :
    b.Fits rest' := by
  have hhead : (b.inside ++ rest').head? = (b.inside ++ rest).head? := by
    by_cases hclosed : b.ending = .closed
    · have hne : b.inside ≠ [] := by simp [inside, hclosed, Ending.chars]
      rw [List.head?_append_of_ne_nil _ hne, List.head?_append_of_ne_nil _ hne]
    · rw [h.ending hclosed, hnil (h.ending hclosed)]
  exact ⟨hhead ▸ h.leading, hhead ▸ h.negated, h.members, fun hopen => hnil (h.ending hopen)⟩

theorem Piece.Fits.guarded (h : piece.Fits rest) (hnil : rest = [] → rest' = []) :
    piece.guarded.Fits rest' := by
  cases h with
  | plain hc => exact .plain hc
  | escaped => exact .escaped
  | hanging => exact hnil rfl ▸ .hanging
  | bracket h => exact .bracket (h.of_nil hnil)
  | interval h => exact .interval h
  | opening => exact .escaped
  | closing => exact .escaped

/-- The pieces of an escaped pattern are those of the pattern, with an escaped brace for each stray
one. -/
theorem Divided.guarded (h : Divided ps cs) :
    Divided (ps.map Piece.guarded) (escapeFrom .plain cs) := by
  induction h with
  | nil => exact escapeFrom_nil .plain ▸ .nil
  | @cons piece ps rest hfits hps ih =>
    rw [escapeFrom_piece hfits]
    refine .cons (hfits.guarded ?_) ih
    rintro rfl
    exact escapeFrom_nil .plain

theorem Piece.guarded_ne_stray (piece : Piece) (brace : Char) : piece.guarded ≠ .stray brace := by
  cases piece <;> exact Piece.noConfusion

theorem Piece.guarded_guarded (piece : Piece) : piece.guarded.guarded = piece.guarded := by
  cases piece <;> rfl

theorem escapeFrom_escapeFrom (cs : List Char) :
    escapeFrom .plain (escapeFrom .plain cs) = escapeFrom .plain cs := by
  obtain ⟨ps, hps⟩ := exists_divided cs
  rw [hps.guarded.escapeFrom_eq, hps.escapeFrom_eq, List.map_map]
  congr 2
  exact funext Piece.guarded_guarded

/-! ## What is put in -/

theorem Divided.stray_brace (h : Divided ps cs) {brace : Char} (hmem : Piece.stray brace ∈ ps) :
    brace = '\x7b' ∨ brace = '\x7d' := by
  induction h with
  | nil => cases hmem
  | cons hfits _ ih =>
    rcases List.mem_cons.mp hmem with rfl | hmem
    · cases hfits with
      | opening => exact .inl rfl
      | closing => exact .inr rfl
    · exact ih hmem

/-- What is not in the first part of a text stands behind it. -/
theorem exists_behind {α : Type} {xs ys before after : List α} {a : α}
    (h : xs ++ ys = before ++ a :: after) (ha : a ∉ xs) :
    ∃ more, before = xs ++ more ∧ ys = more ++ a :: after := by
  rcases List.append_eq_append_iff.mp h with ⟨more, hbefore, hys⟩ | ⟨more, hxs, hys⟩
  · exact ⟨more, hbefore, hys⟩
  · cases more with
    | nil => exact ⟨[], by rw [hxs]; simp, hys.symm⟩
    | cons b more =>
      obtain ⟨rfl, -⟩ := List.cons.inj hys
      exact absurd (by rw [hxs]; simp) ha

/-- What is put in is a backslash, and a stray brace stands behind it. -/
theorem marked_split {before after : List (Char × Bool)} {c : Char}
    (h : ps.flatMap Piece.marked = before ++ (c, true) :: after) :
    c = '\\' ∧ ∃ qs brace rs, ps = qs ++ .stray brace :: rs ∧ before = qs.flatMap Piece.marked ∧
      after = (brace, false) :: rs.flatMap Piece.marked := by
  induction ps generalizing before with
  | nil => simp at h
  | cons piece ps ih =>
    rw [List.flatMap_cons] at h
    by_cases hput : (c, true) ∈ piece.marked
    · cases piece with
      | stray brace =>
        match before, h with
        | [], h =>
          cases h
          exact ⟨rfl, [], brace, ps, rfl, rfl, rfl⟩
        | [_], h => cases h
        | _ :: _ :: before, h =>
          obtain ⟨rfl, htail⟩ := List.cons.inj h
          obtain ⟨rfl, hrest⟩ := List.cons.inj htail
          obtain ⟨hc, qs, brace', rs, rfl, rfl, rfl⟩ := ih hrest
          exact ⟨hc, .stray brace :: qs, brace', rs, rfl, rfl, rfl⟩
      | _ => simp [Piece.marked] at hput
    · obtain ⟨before, rfl, hrest⟩ := exists_behind h hput
      obtain ⟨hc, qs, brace, rs, rfl, rfl, rfl⟩ := ih hrest
      exact ⟨hc, piece :: qs, brace, rs, rfl, rfl, rfl⟩

theorem flatMap_marked (ps : List Piece) :
    (ps.flatMap Piece.marked).map Prod.fst = (ps.map Piece.guarded).flatMap Piece.chars ∧
      ((ps.flatMap Piece.marked).filter (!·.2)).map Prod.fst = ps.flatMap Piece.chars := by
  induction ps with
  | nil => exact ⟨rfl, rfl⟩
  | cons piece ps ih =>
    obtain ⟨hguarded, hchars⟩ := piece.marked_chars
    rw [List.flatMap_cons, List.map_append, List.filter_append, List.map_append, hguarded, hchars,
      ih.1, ih.2]
    exact ⟨rfl, rfl⟩

theorem Divided.chars (h : Divided ps cs) : ps.flatMap Piece.chars = cs := by
  induction h with
  | nil => rfl
  | cons _ _ ih => rw [List.flatMap_cons, ih]

end Braces

open Braces

/-- A pattern is divided in one way.  Escaping puts in backslashes only, each in front of a brace
that is neither escaped nor part of a bracket expression or an interval, and no such brace is left
without one, so that escaping again puts in none. -/
theorem strayBraces_escaped (pattern : String) :
    (∃ ps, Divided ps pattern.toList ∧ (∀ qs, Divided qs pattern.toList → qs = ps) ∧
      (ps.flatMap Piece.marked).map Prod.fst = (escapeStray pattern).toList ∧
      ((ps.flatMap Piece.marked).filter (!·.2)).map Prod.fst = pattern.toList ∧
      ∀ before c after, ps.flatMap Piece.marked = before ++ (c, true) :: after →
        c = '\\' ∧ ∃ qs brace rs, ps = qs ++ .stray brace :: rs ∧
          (brace = '\x7b' ∨ brace = '\x7d') ∧ before = qs.flatMap Piece.marked ∧
          after = (brace, false) :: rs.flatMap Piece.marked) ∧
    (∀ ps, Divided ps (escapeStray pattern).toList → ∀ brace, Piece.stray brace ∉ ps) ∧
    escapeStray (escapeStray pattern) = escapeStray pattern := by
  obtain ⟨ps, hps⟩ := exists_divided pattern.toList
  have hescaped : (escapeStray pattern).toList = escapeFrom .plain pattern.toList :=
    String.toList_ofList
  refine ⟨⟨ps, hps, fun qs hqs => hqs.unique hps, ?_, ?_, fun before c after hsplit => ?_⟩,
    fun qs hqs brace hmem => ?_, ?_⟩
  · rw [(flatMap_marked ps).1, hescaped, hps.escapeFrom_eq]
  · rw [(flatMap_marked ps).2, hps.chars]
  · obtain ⟨hc, qs, brace, rs, rfl, hbefore, hafter⟩ := marked_split hsplit
    exact ⟨hc, qs, brace, rs, rfl, hps.stray_brace (by simp), hbefore, hafter⟩
  · rw [hescaped] at hqs
    obtain rfl := hqs.unique hps.guarded
    obtain ⟨piece, -, hpiece⟩ := List.mem_map.mp hmem
    exact piece.guarded_ne_stray brace hpiece
  · rw [escapeStray, hescaped, escapeFrom_escapeFrom, escapeStray]

/-- A stray brace, a brace in brackets, and an interval. -/
theorem mixed_divided :
    Divided [.stray '\x7b', .bracket ⟨false, false, [.plain '\x7b'], .closed⟩,
      .interval ['2', ',']] ['\x7b', '[', '\x7b', ']', '\x7b', '2', ',', '\x7d'] := by
  have hnone : ∀ bounds more, IsBounds bounds →
      ['[', '\x7b', ']', '\x7b', '2', ',', '\x7d'] ≠ bounds ++ '\x7d' :: more := by
    intro bounds more hbounds heq
    exact absurd (closesInterval_iff.mpr ⟨bounds, more, hbounds, heq⟩) (by decide)
  have hbounds : IsBounds ['2', ','] :=
    ⟨['2'], ⟨List.cons_ne_nil _ _, List.forall_mem_singleton.mpr rfl⟩, .inr ⟨[], nofun, rfl⟩⟩
  have hbracket : Bracket.Fits ⟨false, false, [.plain '\x7b'], .closed⟩
      ['\x7b', '2', ',', '\x7d'] :=
    ⟨by decide, by decide, by decide, by decide⟩
  exact .cons (.opening hnone) (.cons (.bracket hbracket) (.cons (.interval hbounds) .nil))

theorem strayBraces_escaped_mixed :
    Piece.stray '\x7b' ∉ [Piece.glyph (.escaped '\x7b'),
        .bracket ⟨false, false, [.plain '\x7b'], .closed⟩, .interval ['2', ',']] ∧
      ∃ brace rs, (brace = '\x7b' ∨ brace = '\x7d') ∧
        [Piece.stray '\x7b', .bracket ⟨false, false, [.plain '\x7b'], .closed⟩,
          .interval ['2', ',']] = .stray brace :: rs := by
  have hchars : "\x7b[\x7b]\x7b2,\x7d".toList =
      ['\x7b', '[', '\x7b', ']', '\x7b', '2', ',', '\x7d'] := by decide
  obtain ⟨⟨ps, -, hunique, -, -, hsplit⟩, hnone, -⟩ := strayBraces_escaped "\x7b[\x7b]\x7b2,\x7d"
  obtain rfl := hunique _ (hchars ▸ mixed_divided)
  constructor
  · refine hnone _ ?_ '\x7b'
    rw [escapeStray, String.toList_ofList, hchars]
    exact mixed_divided.guarded
  · obtain ⟨-, qs, brace, rs, hps, hbrace, hbefore, -⟩ := hsplit [] '\\' _ rfl
    cases qs with
    | nil => exact ⟨brace, rs, hbrace, hps⟩
    | cons q qs =>
      obtain ⟨rfl, -⟩ := List.cons.inj hps
      cases hbefore

end Regex
end Awk
