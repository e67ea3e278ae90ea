import Awk.Proofs.Literals

/-!
# Regular expression literals

The body of a literal is made of glyphs and bracket expressions, and a slash inside of brackets is
one of their members.  The scanner knows brackets only as open or closed: a closing bracket ends
them, also the one at the end of a class that is called by its name.  So it reads the whole of a
body if and only if the body can also be divided into bracket expressions without such classes
(`regex_literals_end`).
-/

namespace Awk
namespace RegexBody

open Text (Glyph)

/-- What stands inside of brackets: a glyph, or a class that is called by its name. -/
inductive Member where
  | glyph (g : Glyph)
  | named (name : List Char)
deriving DecidableEq

/-- A bracket expression.  A closing bracket right behind its opening is a member. -/
structure Brackets where
  negated : Bool
  leading : Bool
  members : List Member
deriving DecidableEq

inductive Item where
  | glyph (g : Glyph)
  | brackets (b : Brackets)
deriving DecidableEq

namespace Member

def chars : Member → List Char
  | glyph g => g.chars
  | named name => '[' :: ':' :: (name ++ [':', ']'])

def Valid : Member → Prop
  | glyph (.plain c) => c ≠ ']' ∧ c ≠ '\\' ∧ c ≠ '\n'
  | glyph (.escaped _) => True
  | named name => ∀ c ∈ name, c ≠ ':' ∧ c ≠ ']' ∧ c ≠ '\\' ∧ c ≠ '\n'

/-- A slash or an opening bracket as it is. -/
def IsExposed (m : Member) : Prop := m = glyph (.plain '/') ∨ m = glyph (.plain '[')

end Member

/-- The characters that members are written with. -/
def spellMembers (ms : List Member) : List Char := ms.flatMap Member.chars

namespace Brackets

def opening (b : Brackets) : List Char :=
  '[' :: ((if b.negated then ['^'] else []) ++ if b.leading then [']'] else [])

def chars (b : Brackets) : List Char := b.opening ++ (spellMembers b.members ++ [']'])

/-- What can belong to the opening does. -/
structure Opens (b : Brackets) : Prop where
  leading : b.leading = false → b.members ≠ []
  negated : b.negated = false → b.leading = false →
    b.members.head? ≠ some (.glyph (.plain '^'))

/-- An opening bracket with a colon behind it begins the name of a class. -/
structure Valid (b : Brackets) : Prop extends b.Opens where
  members : ∀ m ∈ b.members, m.Valid
  names : ∀ before after, b.members ≠ before ++ .glyph (.plain '[') :: .glyph (.plain ':') :: after

/-- No class is called by its name. -/
structure Flat (b : Brackets) : Prop extends b.Opens where
  members : ∀ m ∈ b.members, m.Valid
  glyphs : ∀ m ∈ b.members, ∀ name, m ≠ .named name

end Brackets

namespace Item

def chars : Item → List Char
  | glyph g => g.chars
  | brackets b => b.chars

/-- A glyph that can stand outside of brackets. -/
def Outside : Glyph → Prop
  | .plain c => c ≠ '/' ∧ c ≠ '\\' ∧ c ≠ '[' ∧ c ≠ '\n'
  | .escaped _ => True

def Valid : Item → Prop
  | glyph g => Outside g
  | brackets b => b.Valid

def Flat : Item → Prop
  | glyph g => Outside g
  | brackets b => b.Flat

end Item

/-- The characters of a body. -/
def spell (body : List Item) : List Char := body.flatMap Item.chars

/-- The body of a literal as a pattern: an escaped slash is a slash. -/
def unslash : List Char → List Char
  | [] => []
  | c :: cs =>
    if c ≠ '\\' then c :: unslash cs
    else
      match cs with
      | [] => ['\\']
      | e :: rest => if e = '/' then '/' :: unslash rest else '\\' :: e :: unslash rest

theorem spell_cons (i : Item) (body : List Item) : spell (i :: body) = i.chars ++ spell body := rfl

theorem spell_append (body body' : List Item) : spell (body ++ body') = spell body ++ spell body' :=
  List.flatMap_append

theorem spellMembers_cons (m : Member) (ms : List Member) :
    spellMembers (m :: ms) = m.chars ++ spellMembers ms := rfl

theorem spellMembers_append (ms ms' : List Member) :
    spellMembers (ms ++ ms') = spellMembers ms ++ spellMembers ms' :=
  List.flatMap_append

theorem unslash_plain {c : Char} (h : c ≠ '\\') (cs : List Char) :
    unslash (c :: cs) = c :: unslash cs := by
  rw [unslash.eq_def]
  dsimp only
  rw [if_pos h]

theorem unslash_escaped (e : Char) (cs : List Char) :
    unslash ('\\' :: e :: cs) = if e = '/' then '/' :: unslash cs else '\\' :: e :: unslash cs := by
  rw [unslash.eq_def]
  rfl

/-- A text that does not end between a backslash and its character. -/
def Whole (cs : List Char) : Prop := ∀ ds, unslash (cs ++ ds) = unslash cs ++ unslash ds

namespace Whole

theorem nil : Whole [] := fun _ => rfl

theorem append {cs ds : List Char} (hcs : Whole cs) (hds : Whole ds) : Whole (cs ++ ds) := by
  intro es
  rw [List.append_assoc, hcs, hds, hcs, List.append_assoc]

theorem plain {c : Char} (hc : c ≠ '\\') : Whole [c] := by
  intro ds
  rw [List.singleton_append, unslash_plain hc, unslash_plain hc]
  rfl

theorem escaped (e : Char) : Whole ['\\', e] := by
  intro ds
  show unslash ('\\' :: e :: ds) = unslash ['\\', e] ++ unslash ds
  rw [unslash_escaped, unslash_escaped]
  split <;> rfl

theorem of_plain {cs : List Char} (h : ∀ c ∈ cs, c ≠ '\\') : Whole cs ∧ unslash cs = cs := by
  induction cs with
  | nil => exact ⟨nil, rfl⟩
  | cons c cs ih =>
    obtain ⟨hc, hcs⟩ := List.forall_mem_cons.mp h
    obtain ⟨hwhole, heq⟩ := ih hcs
    refine ⟨(plain hc).append hwhole, ?_⟩
    rw [unslash_plain hc, heq]

end Whole

theorem Item.Outside.whole {g : Glyph} (h : Item.Outside g) : Whole g.chars := by
  cases g with
  | plain c => exact .plain h.2.1
  | escaped e => exact .escaped e

theorem Member.Valid.whole {m : Member} (h : m.Valid) : Whole m.chars := by
  match m, h with
  | .glyph (.plain c), h => exact .plain h.2.1
  | .glyph (.escaped e), _ => exact .escaped e
  | .named name, h =>
    have hname : ∀ c ∈ '[' :: ':' :: (name ++ [':', ']']), c ≠ '\\' := by
      intro c hc
      simp only [List.mem_cons, List.mem_append, List.not_mem_nil, or_false] at hc
      rcases hc with rfl | rfl | hc | rfl | rfl
      · decide
      · decide
      · exact (h c hc).2.2.1
      · decide
      · decide
    exact (Whole.of_plain hname).1

theorem spellMembers_whole {ms : List Member} (h : ∀ m ∈ ms, m.Valid) :
    Whole (spellMembers ms) := by
  induction ms with
  | nil => exact .nil
  | cons m ms ih =>
    obtain ⟨hm, hms⟩ := List.forall_mem_cons.mp h
    exact hm.whole.append (ih hms)

namespace Brackets

variable {b : Brackets}

theorem opening_plain : ∀ c ∈ b.opening, c ≠ '\\' := by
  intro c hc
  rw [opening] at hc
  rcases List.mem_cons.mp hc with rfl | hc
  · decide
  · rcases List.mem_append.mp hc with hc | hc <;> split at hc <;> simp_all

theorem opening_whole : Whole b.opening := (Whole.of_plain opening_plain).1

theorem unslash_opening : unslash b.opening = b.opening := (Whole.of_plain opening_plain).2

theorem Flat.whole (h : b.Flat) : Whole b.chars :=
  opening_whole.append ((spellMembers_whole h.members).append (.plain (by decide)))

end Brackets

end RegexBody

namespace Scanner

open Text (Glyph)
open RegexBody

variable {start place : Location} {acc cs : List Char} {inBracket : Bool}

/-! ## One step of the scanner -/

theorem regexBody_slash (rest : List Char) :
    regexBody start place false acc ('/' :: rest) =
      .ok ⟨acc.reverse, rest, place.advance '/'⟩ := by
  rw [regexBody.eq_def]
  rfl

theorem regexBody_escaped (e : Char) (rest : List Char) :
    regexBody start place inBracket acc ('\\' :: e :: rest) =
      regexBody start ((place.advance '\\').advance e) inBracket
        (if e = '/' then '/' :: acc else e :: '\\' :: acc) rest := by
  rw [regexBody.eq_def]
  rfl

theorem regexBody_outside {c : Char} (hc : Item.Outside (.plain c)) :
    regexBody start place false acc (c :: cs) =
      regexBody start (place.advance c) false (c :: acc) cs := by
  obtain ⟨hslash, hbackslash, hopen, hnewline⟩ := hc
  rw [regexBody.eq_def]
  simp [hslash, hbackslash, hopen, hnewline]

theorem regexBody_inside {c : Char} (hc : (Member.glyph (.plain c)).Valid) :
    regexBody start place true acc (c :: cs) =
      regexBody start (place.advance c) true (c :: acc) cs := by
  obtain ⟨hclose, hbackslash, hnewline⟩ := hc
  rw [regexBody.eq_def]
  simp [hclose, hbackslash, hnewline]

theorem regexBody_closing :
    regexBody start place true acc (']' :: cs) =
      regexBody start (place.advance ']') false (']' :: acc) cs := by
  rw [regexBody.eq_def]
  rfl

/-- The first character of members could not belong to the opening. -/
theorem opening_ends {b : Brackets} (hopens : b.Opens) (hvalid : ∀ m ∈ b.members, m.Valid)
    (hleading : b.leading = false) (cs : List Char) :
    ∃ c ds, spellMembers b.members ++ cs = c :: ds ∧ c ≠ ']' ∧ (b.negated = false → c ≠ '^') := by
  have hnegated := fun h => hopens.negated h hleading
  cases hms : b.members with
  | nil => exact absurd hms (hopens.leading hleading)
  | cons m ms =>
    rw [hms] at hvalid hnegated
    have hm := hvalid m (.head _)
    match m, hm with
    | .glyph (.plain c), hm =>
      refine ⟨c, spellMembers ms ++ cs, rfl, hm.1, ?_⟩
      rintro h rfl
      exact hnegated h rfl
    | .glyph (.escaped e), _ =>
      exact ⟨'\\', e :: (spellMembers ms ++ cs), rfl, by decide, fun _ => by decide⟩
    | .named name, _ => exact ⟨'[', _, rfl, by decide, fun _ => by decide⟩

theorem regexBody_opening {b : Brackets} (hopens : b.Opens) (hvalid : ∀ m ∈ b.members, m.Valid)
    (cs : List Char) :
    regexBody start place false acc (b.opening ++ (spellMembers b.members ++ cs)) =
      regexBody start (place.advanceBy b.opening) true (b.opening.reverse ++ acc)
        (spellMembers b.members ++ cs) := by
  cases hleading : b.leading with
  | true =>
    rw [Brackets.opening, hleading]
    cases b.negated <;> rw [regexBody.eq_def] <;> rfl
  | false =>
    obtain ⟨c, ds, heq, hclose, hcaret⟩ := opening_ends hopens hvalid hleading cs
    rw [heq, Brackets.opening, hleading]
    cases hnegated : b.negated with
    | true =>
      rw [regexBody.eq_def]
      simp [hclose]
    | false =>
      rw [regexBody.eq_def]
      simp [hclose, hcaret hnegated]
      rfl

theorem regexBody_member {m : Member} (hm : m.Valid) (hglyph : ∀ name, m ≠ .named name)
    (cs : List Char) :
    regexBody start place true acc (m.chars ++ cs) =
      regexBody start (place.advanceBy m.chars) true ((unslash m.chars).reverse ++ acc) cs := by
  match m, hm with
  | .glyph (.plain c), hm =>
    show regexBody start place true acc (c :: cs) = _
    rw [regexBody_inside hm, Member.chars, Glyph.chars, unslash_plain hm.2.1]
    rfl
  | .glyph (.escaped e), _ =>
    show regexBody start place true acc ('\\' :: e :: cs) = _
    rw [regexBody_escaped, Member.chars, Glyph.chars, unslash_escaped]
    split <;> rfl
  | .named name, _ => exact absurd rfl (hglyph name)

theorem regexBody_members {ms : List Member} (hms : ∀ m ∈ ms, m.Valid)
    (hglyphs : ∀ m ∈ ms, ∀ name, m ≠ .named name) (cs : List Char) :
    regexBody start place true acc (spellMembers ms ++ cs) =
      regexBody start (place.advanceBy (spellMembers ms)) true
        ((unslash (spellMembers ms)).reverse ++ acc) cs := by
  induction ms generalizing place acc with
  | nil => rfl
  | cons m ms ih =>
    obtain ⟨hm, hms⟩ := List.forall_mem_cons.mp hms
    obtain ⟨hglyph, hglyphs⟩ := List.forall_mem_cons.mp hglyphs
    rw [spellMembers_cons, List.append_assoc, regexBody_member hm hglyph, ih hms hglyphs, hm.whole,
      Location.advanceBy_append, List.reverse_append, List.append_assoc]

theorem regexBody_item {i : Item} (hi : i.Flat) (cs : List Char) :
    regexBody start place false acc (i.chars ++ cs) =
      regexBody start (place.advanceBy i.chars) false ((unslash i.chars).reverse ++ acc) cs := by
  match i, hi with
  | .glyph (.plain c), hi =>
    show regexBody start place false acc (c :: cs) = _
    rw [regexBody_outside hi, Item.chars, Glyph.chars, unslash_plain hi.2.1]
    rfl
  | .glyph (.escaped e), _ =>
    show regexBody start place false acc ('\\' :: e :: cs) = _
    rw [regexBody_escaped, Item.chars, Glyph.chars, unslash_escaped]
    split <;> rfl
  | .brackets b, hb =>
    have hwhole := spellMembers_whole hb.members
    rw [Item.chars, Brackets.chars, List.append_assoc, List.append_assoc,
      regexBody_opening hb.toOpens hb.members, regexBody_members hb.members hb.glyphs,
      List.singleton_append, regexBody_closing, Brackets.opening_whole, hwhole,
      Brackets.unslash_opening, Location.advanceBy_append, Location.advanceBy_append]
    simp only [List.reverse_append, List.append_assoc]
    rfl

/-- The scanner takes a body without named classes up to the slash behind it. -/
theorem regexBody_spell {body : List Item} (hbody : ∀ i ∈ body, i.Flat) (rest : List Char) :
    regexBody start place false acc (spell body ++ '/' :: rest) =
      .ok ⟨acc.reverse ++ unslash (spell body), rest, place.advanceBy (spell body ++ ['/'])⟩ := by
  induction body generalizing place acc with
  | nil =>
    show regexBody start place false acc ('/' :: rest) = _
    rw [regexBody_slash, show unslash (spell []) = [] from rfl, List.append_nil]
    rfl
  | cons i body ih =>
    obtain ⟨hi, hrest⟩ := List.forall_mem_cons.mp hbody
    have hwhole : Whole i.chars := by
      cases i with
      | glyph g => exact Item.Outside.whole hi
      | brackets b => exact Brackets.Flat.whole hi
    rw [spell_cons, List.append_assoc, regexBody_item hi, ih hrest, hwhole]
    simp only [List.reverse_append, List.reverse_reverse, List.append_assoc,
      Location.advanceBy_append]

/-! ## What the scanner takes -/

/-- A text that begins with a body without named classes and a slash, and what is left of it.
Inside of brackets, the rest of their members comes first. -/
inductive Divides : Bool → List Char → List Char → Prop where
  | outside {body : List Item} {rest : List Char} : (∀ i ∈ body, i.Flat) →
      Divides false (spell body ++ '/' :: rest) rest
  | inside {ms : List Member} {body : List Item} {rest : List Char} : (∀ m ∈ ms, m.Valid) →
      (∀ m ∈ ms, ∀ name, m ≠ .named name) → (∀ i ∈ body, i.Flat) →
      Divides true (spellMembers ms ++ ']' :: (spell body ++ '/' :: rest)) rest

namespace Divides

variable {rest : List Char}

theorem glyph {g : Glyph} (hg : Item.Outside g) (h : Divides false cs rest) :
    Divides false (g.chars ++ cs) rest := by
  cases h with
  | @outside body _ hbody =>
    have hcons : ∀ i ∈ Item.glyph g :: body, i.Flat := List.forall_mem_cons.mpr ⟨hg, hbody⟩
    rw [← List.append_assoc]
    exact .outside hcons

theorem member {g : Glyph} (hg : (Member.glyph g).Valid) (h : Divides true cs rest) :
    Divides true (g.chars ++ cs) rest := by
  cases h with
  | @inside ms body _ hms hglyphs hbody =>
    have hcons : ∀ m ∈ Member.glyph g :: ms, m.Valid := List.forall_mem_cons.mpr ⟨hg, hms⟩
    have hplain : ∀ m ∈ Member.glyph g :: ms, ∀ name, m ≠ .named name :=
      List.forall_mem_cons.mpr ⟨fun _ => Member.noConfusion, hglyphs⟩
    rw [← List.append_assoc]
    exact .inside hcons hplain hbody

theorem closing (h : Divides false cs rest) : Divides true (']' :: cs) rest := by
  cases h with
  | outside hbody =>
    have hnone : ∀ m ∈ ([] : List Member), m.Valid := List.forall_mem_nil _
    exact .inside hnone (List.forall_mem_nil _) hbody

/-- What is behind an opening does not begin with a character that could belong to it. -/
theorem opening (negated leading : Bool) (h : Divides true cs rest)
    (hclose : leading = false → ∀ ds, cs ≠ ']' :: ds)
    (hcaret : negated = false → leading = false → ∀ ds, cs ≠ '^' :: ds) :
    Divides false (Brackets.opening ⟨negated, leading, []⟩ ++ cs) rest := by
  cases h with
  | @inside ms body _ hms hglyphs hbody =>
    have hopens : Brackets.Opens ⟨negated, leading, ms⟩ := by
      refine ⟨?_, ?_⟩
      · rintro hleading rfl
        exact hclose hleading _ rfl
      · intro hnegated hleading hhead
        obtain ⟨ms', rfl⟩ := List.head?_eq_some_iff.mp hhead
        exact hcaret hnegated hleading _ rfl
    have hcons : ∀ i ∈ Item.brackets ⟨negated, leading, ms⟩ :: body, i.Flat :=
      List.forall_mem_cons.mpr ⟨⟨hopens, hms, hglyphs⟩, hbody⟩
    have hdivides : Divides false (spell (.brackets ⟨negated, leading, ms⟩ :: body) ++ '/' :: rest)
        rest := .outside hcons
    rw [spell_cons, Item.chars, Brackets.chars] at hdivides
    simp only [List.append_assoc] at hdivides
    exact hdivides

end Divides

/-- The scanner takes nothing else than a body without named classes and its slash. -/
theorem regexBody_divides {p : Piece} (h : regexBody start place inBracket acc cs = .ok p) :
    Divides inBracket cs p.rest := by
  fun_induction regexBody start place inBracket acc cs with
  | case1 => cases h
  | case2 _ _ _ _ _ hslash =>
    obtain ⟨rfl, hout⟩ := hslash
    cases h
    rw [Bool.eq_false_iff.mpr hout]
    have hnone : ∀ i ∈ ([] : List Item), i.Flat := List.forall_mem_nil _
    exact .outside hnone
  | case3 => cases h
  | case4 _ inBracket _ e _ _ ih =>
    cases inBracket with
    | false => exact (ih h).glyph (g := .escaped e) trivial
    | true => exact (ih h).member (g := .escaped e) trivial
  | case5 _ _ _ _ _ _ hopen _ ih =>
    obtain ⟨rfl, hout⟩ := hopen
    rw [Bool.eq_false_iff.mpr hout]
    exact (ih h).opening true true Bool.noConfusion fun _ => Bool.noConfusion
  | case6 _ _ _ _ _ _ hopen _ hclose ih =>
    obtain ⟨rfl, hout⟩ := hopen
    rw [Bool.eq_false_iff.mpr hout]
    exact (ih h).opening true false (fun _ => hclose) Bool.noConfusion
  | case7 _ _ _ _ _ _ hopen _ ih =>
    obtain ⟨rfl, hout⟩ := hopen
    rw [Bool.eq_false_iff.mpr hout]
    exact (ih h).opening false true Bool.noConfusion fun _ => Bool.noConfusion
  | case8 _ _ _ _ _ _ hopen _ _ hcaret hclose ih =>
    obtain ⟨rfl, hout⟩ := hopen
    rw [Bool.eq_false_iff.mpr hout]
    exact (ih h).opening false false (fun _ => hclose) fun _ _ => hcaret
  | case9 _ _ _ _ _ _ _ _ hclose ih =>
    obtain ⟨rfl, rfl⟩ := hclose
    exact (ih h).closing
  | case10 => cases h
  | case11 _ inBracket _ c _ hslash hbackslash hopen hclose hnewline ih =>
    cases inBracket with
    | false =>
      have hc : Item.Outside (.plain c) :=
        ⟨fun h => hslash ⟨h, Bool.noConfusion⟩, hbackslash, fun h => hopen ⟨h, Bool.noConfusion⟩,
          hnewline⟩
      exact (ih h).glyph hc
    | true =>
      have hc : (Member.glyph (.plain c)).Valid :=
        ⟨fun h => hclose ⟨h, rfl⟩, hbackslash, hnewline⟩
      exact (ih h).member hc

theorem skipBlanks_slash : skipBlanks place ('/' :: cs) = ('/' :: cs, place) := by
  rw [skipBlanks.eq_def]
  rfl

/-- A slash that does not follow an operand. -/
theorem nextToken_slash :
    nextToken ⟨'/' :: cs, place, false⟩ =
      match regexBody place (place.advance '/') false [] cs with
      | .error e => .error e
      | .ok p => .ok (⟨.regex (String.ofList p.text), place⟩, ⟨p.rest, p.place, false⟩) := by
  rw [nextToken, skipBlanks_slash]
  dsimp only
  rw [scanKind.eq_def]
  simp only [Char.reduceEq, if_false, if_true, Bool.false_eq_true]
  cases regexBody place (place.advance '/') false [] cs <;> rfl

/-- Where an operand is expected, a slash begins a literal that takes `body` and the slash behind
it. -/
def ReadsRegex (place : Location) (source body rest : List Char) : Prop :=
  source = body ++ '/' :: rest ∧
    nextToken ⟨'/' :: source, place, false⟩ =
      .ok (⟨.regex (String.ofList (unslash body)), place⟩,
        ⟨rest, place.advanceBy ('/' :: (body ++ ['/'])), false⟩)

theorem ReadsRegex.of_flat {items : List Item} (hitems : ∀ i ∈ items, i.Flat)
    (rest : List Char) : ReadsRegex place (spell items ++ '/' :: rest) (spell items) rest := by
  refine ⟨rfl, ?_⟩
  rw [nextToken_slash, regexBody_spell hitems]
  rfl

theorem ReadsRegex.exists_flat {source body rest : List Char}
    (h : ReadsRegex place source body rest) :
    ∃ items : List Item, (∀ i ∈ items, i.Flat) ∧ spell items = body := by
  obtain ⟨rfl, h⟩ := h
  rw [nextToken_slash] at h
  cases hbody : regexBody place (place.advance '/') false [] (body ++ '/' :: rest) with
  | error e =>
    rw [hbody] at h
    cases h
  | ok p =>
    rw [hbody] at h
    have hrest : p.rest = rest := congrArg Scanner.rest (Prod.mk.inj (Except.ok.inj h)).2
    have hdivides := regexBody_divides hbody
    rw [hrest] at hdivides
    generalize hcs : body ++ '/' :: rest = cs at hdivides
    cases hdivides with
    | outside hitems => exact ⟨_, hitems, (List.append_cancel_right hcs).symm⟩

/-- A literal is read whole if and only if its body can be divided so that no class is named. -/
theorem readsRegex_iff {body rest : List Char} :
    ReadsRegex place (body ++ '/' :: rest) body rest ↔
      ∃ items : List Item, (∀ i ∈ items, i.Flat) ∧ spell items = body := by
  constructor
  · exact ReadsRegex.exists_flat
  · rintro ⟨items, hitems, rfl⟩
    exact .of_flat hitems rest

end Scanner

namespace RegexBody

open Text (Glyph)

variable {ms : List Member}

/-- The members of the brackets that a closing bracket behind a name leaves. -/
def nameGlyphs (name : List Char) : List Member := (':' :: (name ++ [':'])).map (.glyph <| .plain ·)

theorem spellMembers_map (cs : List Char) : spellMembers (cs.map (.glyph <| .plain ·)) = cs := by
  induction cs with
  | nil => rfl
  | cons c cs ih => rw [List.map_cons, spellMembers_cons, ih]; rfl

theorem Member.chars_named (name : List Char) :
    (named name).chars = '[' :: (spellMembers (nameGlyphs name) ++ [']']) := by
  rw [nameGlyphs, spellMembers_map, chars]
  simp

theorem nameGlyphs_valid {name : List Char} (h : (Member.named name).Valid) :
    ∀ m ∈ nameGlyphs name, m.Valid := by
  intro m hm
  obtain ⟨c, hc, rfl⟩ := List.mem_map.mp hm
  simp only [List.mem_cons, List.mem_append, List.not_mem_nil, or_false] at hc
  rcases hc with rfl | hc | rfl
  · exact ⟨by decide, by decide, by decide⟩
  · exact (h c hc).2
  · exact ⟨by decide, by decide, by decide⟩

theorem nameGlyphs_plain (name : List Char) :
    ∀ m ∈ nameGlyphs name, ∀ name', m ≠ .named name' := by
  intro m hm name'
  obtain ⟨c, -, rfl⟩ := List.mem_map.mp hm
  exact Member.noConfusion

/-- Outside of brackets a member that is not exposed is a glyph, or its name is in brackets. -/
theorem Member.exists_flat {m : Member} (hm : m.Valid) (hexposed : ¬m.IsExposed) :
    ∃ i : Item, i.Flat ∧ i.chars = m.chars := by
  match m, hm with
  | .glyph (.plain c), hm =>
    refine ⟨.glyph (.plain c), ⟨?_, hm.2.1, ?_, hm.2.2⟩, rfl⟩
    · rintro rfl
      exact hexposed (.inl rfl)
    · rintro rfl
      exact hexposed (.inr rfl)
  | .glyph (.escaped e), _ => exact ⟨.glyph (.escaped e), trivial, rfl⟩
  | .named name, hm =>
    refine ⟨.brackets ⟨false, false, nameGlyphs name⟩, ⟨⟨?_, ?_⟩, ?_, ?_⟩, ?_⟩
    · exact fun _ => List.cons_ne_nil _ _
    · intro _ _ hhead
      cases hhead
    · exact nameGlyphs_valid hm
    · exact nameGlyphs_plain name
    · rw [Member.chars_named]
      rfl

theorem exists_flat_of_members (hms : ∀ m ∈ ms, m.Valid) (hexposed : ∀ m ∈ ms, ¬m.IsExposed) :
    ∃ items : List Item, (∀ i ∈ items, i.Flat) ∧ spell items = spellMembers ms := by
  induction ms with
  | nil => exact ⟨[], fun _ hi => (nomatch hi), rfl⟩
  | cons m ms ih =>
    obtain ⟨hm, hms⟩ := List.forall_mem_cons.mp hms
    obtain ⟨hmexposed, hexposed⟩ := List.forall_mem_cons.mp hexposed
    obtain ⟨i, hi, hichars⟩ := Member.exists_flat hm hmexposed
    obtain ⟨items, hitems, hspell⟩ := ih hms hexposed
    refine ⟨i :: items, List.forall_mem_cons.mpr ⟨hi, hitems⟩, ?_⟩
    rw [spell_cons, hichars, hspell, spellMembers_cons]

/-- Nothing behind a named class is exposed. -/
def Covered (ms : List Member) : Prop :=
  ∀ before name after, ms = before ++ .named name :: after → ∀ m ∈ after, ¬m.IsExposed

/-- Either there is no named class, or there is a first one. -/
theorem exists_first_named (ms : List Member) :
    (∀ m ∈ ms, ∀ name, m ≠ .named name) ∨
      ∃ before name after, ms = before ++ .named name :: after ∧
        ∀ m ∈ before, ∀ name, m ≠ .named name := by
  induction ms with
  | nil => exact .inl fun _ hm => nomatch hm
  | cons m ms ih =>
    cases m with
    | named name => exact .inr ⟨[], name, ms, rfl, fun _ hm => nomatch hm⟩
    | glyph g =>
      rcases ih with ih | ⟨before, name, after, rfl, hbefore⟩
      · exact .inl (List.forall_mem_cons.mpr ⟨fun _ => Member.noConfusion, ih⟩)
      · exact .inr ⟨.glyph g :: before, name, after, rfl,
          List.forall_mem_cons.mpr ⟨fun _ => Member.noConfusion, hbefore⟩⟩

/-- A bracket expression up to its first named class, whose end closes the brackets that the scanner
sees. -/
def Brackets.upTo (b : Brackets) (before : List Member) (name : List Char) : Brackets :=
  { b with members := before ++ .glyph (.plain '[') :: nameGlyphs name }

theorem Brackets.upTo_chars (b : Brackets) (before : List Member) (name : List Char) :
    (b.upTo before name).chars = b.opening ++ spellMembers (before ++ [.named name]) := by
  rw [spellMembers_append, spellMembers_cons, Member.chars_named]
  show b.opening ++ (spellMembers (before ++ .glyph (.plain '[') :: nameGlyphs name) ++ [']']) = _
  rw [spellMembers_append]
  simp [spellMembers, Member.chars, Glyph.chars]

theorem Brackets.upTo_flat {b : Brackets} {name : List Char} {before after : List Member}
    (hb : b.Valid) (hmembers : b.members = before ++ .named name :: after)
    (hbefore : ∀ m ∈ before, ∀ name, m ≠ .named name) : (b.upTo before name).Flat := by
  have hvalid := hb.members
  rw [hmembers] at hvalid
  obtain ⟨hbeforeValid, hbehind⟩ := List.forall_mem_append.mp hvalid
  obtain ⟨hname, -⟩ := List.forall_mem_cons.mp hbehind
  refine ⟨⟨fun _ => ?_, fun hnegated hleading => ?_⟩, ?_, ?_⟩
  · exact List.append_ne_nil_of_right_ne_nil _ (List.cons_ne_nil _ _)
  · have hhead := hb.negated hnegated hleading
    rw [hmembers] at hhead
    cases before with
    | nil => exact fun h => by cases h
    | cons m before => exact hhead
  · refine List.forall_mem_append.mpr ⟨hbeforeValid, List.forall_mem_cons.mpr ⟨?_, ?_⟩⟩
    · exact ⟨by decide, by decide, by decide⟩
    · exact nameGlyphs_valid hname
  · refine List.forall_mem_append.mpr ⟨hbefore, List.forall_mem_cons.mpr ⟨?_, ?_⟩⟩
    · exact fun _ => Member.noConfusion
    · exact nameGlyphs_plain name

/-- Behind a named class the scanner is outside of brackets. -/
theorem Brackets.exists_flat_behind {b : Brackets} (hb : b.Valid) {ms' : List Member}
    (hmembers : b.members = ms ++ ms') (hnamed : ∃ name, .named name ∈ ms)
    (hcovered : Covered ms) :
    ∃ items : List Item, (∀ i ∈ items, i.Flat) ∧
      spell items = b.opening ++ spellMembers ms := by
  rcases exists_first_named ms with hnone | ⟨before, name, after, rfl, hbefore⟩
  · obtain ⟨name, hname⟩ := hnamed
    exact absurd rfl (hnone _ hname name)
  · have hvalid : ∀ m ∈ after, m.Valid := fun m hm =>
      hb.members m (hmembers ▸ List.mem_append_left _ (List.mem_append_right _ (.tail _ hm)))
    obtain ⟨items, hitems, hspell⟩ := exists_flat_of_members hvalid (hcovered _ _ _ rfl)
    rw [List.append_assoc, List.cons_append] at hmembers
    have hflat := Brackets.upTo_flat hb hmembers hbefore
    refine ⟨.brackets (b.upTo before name) :: items, List.forall_mem_cons.mpr ⟨hflat, hitems⟩, ?_⟩
    rw [spell_cons, Item.chars, Brackets.upTo_chars, hspell, List.append_assoc,
      ← spellMembers_append, List.append_assoc, List.singleton_append]

/-- Nothing in brackets is exposed behind a named class. -/
def Item.Covered : Item → Prop
  | glyph _ => True
  | brackets b => RegexBody.Covered b.members

theorem Item.exists_flat {i : Item} (hi : i.Valid) (hcovered : i.Covered) :
    ∃ items : List Item, (∀ i ∈ items, i.Flat) ∧ spell items = i.chars := by
  cases i with
  | glyph g => exact ⟨[.glyph g], List.forall_mem_singleton.mpr hi, List.append_nil _⟩
  | brackets b =>
    by_cases hnamed : ∃ name, .named name ∈ b.members
    · have hmembers : b.members = b.members ++ [] := (List.append_nil _).symm
      obtain ⟨items, hitems, hspell⟩ := Brackets.exists_flat_behind hi hmembers hnamed hcovered
      have hclose : Item.Flat (.glyph (.plain ']')) :=
        ⟨by decide, by decide, by decide, by decide⟩
      refine ⟨items ++ [.glyph (.plain ']')], ?_, ?_⟩
      · exact List.forall_mem_append.mpr ⟨hitems, List.forall_mem_singleton.mpr hclose⟩
      · rw [spell_append, hspell, List.append_assoc]
        rfl
    · have hflat : b.Flat :=
        ⟨hi.toOpens, hi.members, fun m hm name heq => hnamed ⟨name, heq ▸ hm⟩⟩
      exact ⟨[.brackets b], List.forall_mem_singleton.mpr hflat, List.append_nil _⟩

theorem exists_flat {body : List Item} (hbody : ∀ i ∈ body, i.Valid)
    (hcovered : ∀ i ∈ body, i.Covered) :
    ∃ items : List Item, (∀ i ∈ items, i.Flat) ∧ spell items = spell body := by
  induction body with
  | nil => exact ⟨[], fun _ hi => (nomatch hi), rfl⟩
  | cons i body ih =>
    obtain ⟨hi, hbody⟩ := List.forall_mem_cons.mp hbody
    obtain ⟨hicovered, hcovered⟩ := List.forall_mem_cons.mp hcovered
    obtain ⟨items, hitems, hspell⟩ := Item.exists_flat hi hicovered
    obtain ⟨items', hitems', hspell'⟩ := ih hbody hcovered
    refine ⟨items ++ items', List.forall_mem_append.mpr ⟨hitems, hitems'⟩, ?_⟩
    rw [spell_append, hspell, hspell', spell_cons]

theorem spell_exposed {b : Brackets} {before after : List Item} {ms' : List Member}
    (hmembers : b.members = ms ++ .glyph (.plain '/') :: ms') (rest : List Char) :
    spell (before ++ .brackets b :: after) ++ '/' :: rest =
      (spell before ++ (b.opening ++ spellMembers ms)) ++
        '/' :: (spellMembers ms' ++ ']' :: (spell after ++ '/' :: rest)) := by
  rw [spell_append, spell_cons, Item.chars, Brackets.chars, hmembers, spellMembers_append,
    spellMembers_cons, Member.chars, Glyph.chars]
  simp

end RegexBody

open RegexBody

namespace Scanner

variable {place : Location} {body : List Item}

theorem readsRegex_of_covered (hbody : ∀ i ∈ body, i.Valid) (hcovered : ∀ i ∈ body, i.Covered)
    (rest : List Char) : ReadsRegex place (spell body ++ '/' :: rest) (spell body) rest :=
  readsRegex_iff.mpr (exists_flat hbody hcovered)

theorem readsRegex_of_exposed {before after : List Item} {b : Brackets} {ms ms' : List Member}
    (hbefore : ∀ i ∈ before, i.Valid) (hb : b.Valid)
    (hmembers : b.members = ms ++ .glyph (.plain '/') :: ms') (hnamed : ∃ name, .named name ∈ ms)
    (hcovered : ∀ i ∈ before, i.Covered) (hms : Covered ms) (rest : List Char) :
    ReadsRegex place (spell (before ++ .brackets b :: after) ++ '/' :: rest)
      (spell before ++ (b.opening ++ spellMembers ms))
      (spellMembers ms' ++ ']' :: (spell after ++ '/' :: rest)) := by
  obtain ⟨items, hitems, hspell⟩ := exists_flat hbefore hcovered
  obtain ⟨items', hitems', hspell'⟩ := Brackets.exists_flat_behind hb hmembers hnamed hms
  rw [spell_exposed hmembers]
  refine readsRegex_iff.mpr ⟨items ++ items', List.forall_mem_append.mpr ⟨hitems, hitems'⟩, ?_⟩
  rw [spell_append, hspell, hspell']

/-- Only one body is read from a source. -/
theorem ReadsRegex.rest_unique {source body body' rest rest' : List Char}
    (h : ReadsRegex place source body rest) (h' : ReadsRegex place source body' rest') :
    rest = rest' := by
  have heq := h.2.symm.trans h'.2
  exact congrArg Scanner.rest (Prod.mk.inj (Except.ok.inj heq)).2

end Scanner

open Scanner in
/-- Where literals end.  A body is read whole if and only if it can also be divided into glyphs and
bracket expressions without named classes; so it is where no slash and no opening bracket stands in
brackets behind a named class.  A slash that stands there ends the literal. -/
theorem regex_literals_end {body : List Item} (hbody : ∀ i ∈ body, i.Valid) (place : Location)
    (rest : List Char) :
    (ReadsRegex place (spell body ++ '/' :: rest) (spell body) rest ↔
      ∃ items : List Item, (∀ i ∈ items, i.Flat) ∧ spell items = spell body) ∧
    ((∀ i ∈ body, i.Covered) →
      ReadsRegex place (spell body ++ '/' :: rest) (spell body) rest) ∧
    ∀ before b after ms ms', body = before ++ .brackets b :: after →
      b.members = ms ++ .glyph (.plain '/') :: ms' → (∃ name, .named name ∈ ms) →
      (∀ i ∈ before, i.Covered) → Covered ms →
      ReadsRegex place (spell body ++ '/' :: rest) (spell before ++ (b.opening ++ spellMembers ms))
        (spellMembers ms' ++ ']' :: (spell after ++ '/' :: rest)) := by
  refine ⟨readsRegex_iff, fun hcovered => readsRegex_of_covered hbody hcovered rest, ?_⟩
  rintro before b after ms ms' rfl hmembers hnamed hcovered hms
  obtain ⟨hbefore, hbehind⟩ := List.forall_mem_append.mp hbody
  obtain ⟨hb, -⟩ := List.forall_mem_cons.mp hbehind
  exact readsRegex_of_exposed hbefore hb hmembers hnamed hcovered hms rest

/-- A letter or a slash. -/
def letterOrSlash : Brackets :=
  { negated := false, leading := false, members := [.named "alpha".toList, .glyph (.plain '/')] }

theorem letterOrSlash_valid : letterOrSlash.Valid where
  leading := by decide
  negated := by decide
  members := by
    rintro m (_ | ⟨_, _ | ⟨_, ⟨⟩⟩⟩)
    · simp [Member.Valid]
    · exact ⟨by decide, by decide, by decide⟩
  names := by
    rintro (_ | ⟨m, _ | ⟨m', before⟩⟩) after heq <;> simp [letterOrSlash] at heq

theorem covered_alpha : Covered [.named "alpha".toList] := by
  rintro (_ | ⟨m, before⟩) name after heq
  · cases heq
    exact fun m hm => nomatch hm
  · simp at heq

open Scanner in
theorem regex_literals_end_letterOrSlash :
    (∀ i ∈ [Item.brackets letterOrSlash], i.Valid) ∧
      ReadsRegex .start "[[:alpha:]/]/".toList "[[:alpha:]".toList "]/".toList := by
  have hvalid : ∀ i ∈ [Item.brackets letterOrSlash], i.Valid :=
    List.forall_mem_singleton.mpr letterOrSlash_valid
  exact ⟨hvalid, (regex_literals_end hvalid .start []).2.2 [] letterOrSlash []
    [.named "alpha".toList] [] rfl rfl ⟨_, .head _⟩ (fun i hi => nomatch hi) covered_alpha⟩

open Scanner in
/-- A body that is not read whole, as a slash stands in brackets behind a named class. -/
theorem letterOrSlash_not_read :
    (∀ i ∈ [Item.brackets letterOrSlash], i.Valid) ∧
      ¬ReadsRegex .start (spell [.brackets letterOrSlash] ++ ['/'])
        (spell [.brackets letterOrSlash]) [] := by
  refine ⟨List.forall_mem_singleton.mpr letterOrSlash_valid, fun hwhole => ?_⟩
  have hmembers : letterOrSlash.members =
      [Member.named "alpha".toList] ++ Member.glyph (.plain '/') :: [] := rfl
  have hexposed : ReadsRegex .start (spell ([] ++ .brackets letterOrSlash :: []) ++ '/' :: [])
      (spell [] ++ (letterOrSlash.opening ++ spellMembers [.named "alpha".toList])) "]/".toList :=
    readsRegex_of_exposed (List.forall_mem_nil _) letterOrSlash_valid hmembers ⟨_, .head _⟩
      (List.forall_mem_nil _) covered_alpha []
  exact List.cons_ne_nil _ _ (hexposed.rest_unique hwhole)

end Awk
