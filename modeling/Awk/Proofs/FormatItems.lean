import Mathlib
import Awk.Format
import Awk.Proofs.Numerals

/-!
# The items of a format

A format is written as characters, double percent signs and directives, and possibly the opening of
a directive that its end cuts off.  Reading takes a directive as far as it goes, so one that is
complete ends where it ends whatever stands behind it.  Each item takes the arguments that it asks
for and leaves the others to what follows: `formats_compose` says that a format made of items and
another format behind them writes what both write, one behind the other.
-/

namespace Awk
namespace Format

open Number (isDigit IsDigits)
open Number.Numeral (EndsDigits)

/-! ## How formats are written -/

def isFlag (c : Char) : Bool := c == '-' || c == '+' || c == ' ' || c == '#' || c == '0'

/-- How a width or a precision is written. -/
inductive Extent where
  | absent
  | digits (ds : List Char)
  | star
deriving DecidableEq

namespace Extent

/-- A width. -/
def chars : Extent → List Char
  | absent => []
  | digits ds => ds
  | star => ['*']

/-- A precision, with the point in front of it. -/
def pointed : Extent → List Char
  | absent => []
  | digits ds => '.' :: ds
  | star => ['.', '*']

def count : Extent → Count
  | absent => .absent
  | digits ds => .written (countOf ds)
  | star => .argument

/-- How many arguments it takes. -/
def stars : Extent → Nat
  | star => 1
  | _ => 0

end Extent

/-- What stands between a percent sign and the letter: flags, a width and a precision.  A zero in
front of a width is a flag, and a precision may be a point alone. -/
structure Opening where
  flags : List Char
  width : Extent
  precision : Extent
  flags_all : ∀ c ∈ flags, isFlag c = true
  width_digits : ∀ ds, width = .digits ds → IsDigits ds ∧ ds.head? ≠ some '0'
  precision_digits : ∀ ds, precision = .digits ds → ∀ c ∈ ds, isDigit c = true

namespace Opening

def body (o : Opening) : List Char := o.flags ++ (o.width.chars ++ o.precision.pointed)

def chars (o : Opening) : List Char := '%' :: o.body

/-- Whether a character behind the opening belongs to it. -/
def GoesOn (o : Opening) (c : Char) : Prop :=
  match o.precision with
  | .star => False
  | .digits ds => isDigit c = true ∨ (ds = [] ∧ c = '*')
  | .absent =>
    c = '.' ∨
      match o.width with
      | .star => False
      | .digits _ => isDigit c = true
      | .absent => isFlag c = true ∨ isDigit c = true ∨ c = '*'

def spec (o : Opening) : Spec :=
  { left := o.flags.contains '-', plus := o.flags.contains '+', space := o.flags.contains ' '
    alternate := o.flags.contains '#', zero := o.flags.contains '0'
    width := o.width.count, precision := o.precision.count }

/-- How many arguments the stars take. -/
def stars (o : Opening) : Nat := o.width.stars + o.precision.stars

end Opening

/-- A complete directive: an opening and a letter that does not belong to it. -/
structure Directive extends Opening where
  letter : Char
  complete : ¬toOpening.GoesOn letter
  /-- Two percent signs are an item of their own. -/
  not_percent : toOpening.body = [] → letter ≠ '%'

/-- The letters that convert an argument. -/
def knownLetters : List Char :=
  ['c', 'd', 'i', 'o', 'x', 'X', 'u', 'e', 'E', 'f', 'F', 'g', 'G', 's']

namespace Directive

def chars (d : Directive) : List Char := d.toOpening.chars ++ [d.letter]

def IsKnown (d : Directive) : Prop := d.letter ∈ knownLetters

instance (d : Directive) : Decidable d.IsKnown :=
  inferInstanceAs (Decidable (d.letter ∈ knownLetters))

/-- How many of so many arguments it takes: one for each star, and one that is still there for the
conversion. -/
def taken (d : Directive) (available : Nat) : Nat :=
  d.stars + if d.IsKnown ∧ d.stars < available then 1 else 0

/-- How many arguments it has a use for. -/
def wanted (d : Directive) : Nat := d.stars + if d.IsKnown then 1 else 0

end Directive

/-- One item as it is written. -/
inductive Piece where
  | char (c : Char) (h : c ≠ '%')
  | percent
  | directive (d : Directive)

namespace Piece

def chars : Piece → List Char
  | char c _ => [c]
  | percent => ['%', '%']
  | directive d => d.chars

def item : Piece → Item
  | char c _ => .char c
  | percent => .char '%'
  | directive d => .conversion d.spec d.letter d.chars

def taken : Piece → Nat → Nat
  | directive d, available => d.taken available
  | _, _ => 0

def wanted : Piece → Nat
  | directive d => d.wanted
  | _ => 0

end Piece

def spell (ps : List Piece) : List Char := ps.flatMap Piece.chars

/-- How many of so many arguments items take, one behind the other. -/
def taken : List Piece → Nat → Nat
  | [], _ => 0
  | p :: ps, available => p.taken available + taken ps (available - p.taken available)

/-- How many arguments items have a use for. -/
def wanted (ps : List Piece) : Nat := (ps.map Piece.wanted).sum

/-! ## Reading a directive -/

theorem withFlag?_of_isFlag {c : Char} (h : isFlag c = true) (s : Spec) :
    s.withFlag? c = some
      { s with
        left := s.left || c == '-', plus := s.plus || c == '+', space := s.space || c == ' '
        alternate := s.alternate || c == '#', zero := s.zero || c == '0' } := by
  simp only [isFlag, Bool.or_eq_true, beq_iff_eq] at h
  rcases h with (((rfl | rfl) | rfl) | rfl) | rfl <;> simp [Spec.withFlag?]

theorem withFlag?_of_not_isFlag {c : Char} (h : isFlag c = false) (s : Spec) :
    s.withFlag? c = none := by
  unfold Spec.withFlag?
  split <;> first | rfl | exact absurd h (by decide)

/-- Of the digits zero alone is a flag. -/
theorem eq_zero_of_isFlag {c : Char} (hdigit : isDigit c = true) (hflag : isFlag c = true) :
    c = '0' := by
  simp only [isFlag, Bool.or_eq_true, beq_iff_eq] at hflag
  rcases hflag with (((rfl | rfl) | rfl) | rfl) | rfl
  all_goals first | rfl | exact absurd hdigit (by decide)

/-- All flags are taken, up to a character that is none. -/
theorem takeFlags_append {flags rest : List Char} (hflags : ∀ c ∈ flags, isFlag c = true)
    (hrest : ∀ c ∈ rest.head?, isFlag c = false) (s : Spec) :
    s.takeFlags (flags ++ rest) =
      ({ s with
        left := s.left || flags.contains '-', plus := s.plus || flags.contains '+'
        space := s.space || flags.contains ' ', alternate := s.alternate || flags.contains '#'
        zero := s.zero || flags.contains '0' }, rest) := by
  induction flags generalizing s with
  | nil =>
    simp only [List.nil_append, List.contains_nil, Bool.or_false]
    cases rest with
    | nil => rfl
    | cons c rest => rw [Spec.takeFlags, withFlag?_of_not_isFlag (hrest c rfl)]
  | cons c flags ih =>
    rw [List.cons_append, Spec.takeFlags, withFlag?_of_isFlag (hflags c (.head _))]
    dsimp only
    rw [ih fun d hd => hflags d (.tail _ hd)]
    simp only [List.contains_cons, Bool.or_assoc, Bool.beq_comm]

theorem takeNumber_append {ds rest : List Char} (hds : ∀ c ∈ ds, isDigit c = true)
    (hrest : EndsDigits rest) :
    takeNumber (ds ++ rest) = (if ds.isEmpty then none else some (countOf ds), rest) := by
  rw [takeNumber, List.takeWhile_append_of_pos hds, List.dropWhile_append_of_pos hds,
    hrest.takeWhile, hrest.dropWhile, List.append_nil]

theorem takeNumber_digits {ds rest : List Char} (hds : IsDigits ds) (hrest : EndsDigits rest) :
    takeNumber (ds ++ rest) = (some (countOf ds), rest) := by
  rw [takeNumber_append hds.2 hrest, if_neg (by simp [hds.1])]

theorem takeNumber_nothing {rest : List Char} (hrest : EndsDigits rest) :
    takeNumber rest = (none, rest) :=
  @takeNumber_append [] rest nofun hrest

/-- Without a star a width is a number, if there is one. -/
theorem takeWidth_of_ne {cs : List Char} (h : ∀ c ∈ cs.head?, c ≠ '*') :
    takeWidth cs =
      match takeNumber cs with
      | (some n, rest) => (.written n, rest)
      | (none, rest) => (.absent, rest) := by
  unfold takeWidth
  split
  · exact absurd rfl (h '*' rfl)
  · rfl

theorem takeWidth_digits {ds rest : List Char} (hds : IsDigits ds) (hrest : EndsDigits rest) :
    takeWidth (ds ++ rest) = (.written (countOf ds), rest) := by
  have hhead : ∀ c ∈ (ds ++ rest).head?, c ≠ '*' := by
    obtain ⟨hne, hdigits⟩ := hds
    obtain ⟨d, ds, rfl⟩ := List.exists_cons_of_ne_nil hne
    intro c hc
    cases hc
    exact Number.Numeral.isDigit_ne (hdigits d (.head _)) (by decide)
  rw [takeWidth_of_ne hhead, takeNumber_digits hds hrest]

theorem takeWidth_absent {rest : List Char} (hstar : ∀ c ∈ rest.head?, c ≠ '*')
    (hrest : EndsDigits rest) : takeWidth rest = (.absent, rest) := by
  rw [takeWidth_of_ne hstar, takeNumber_nothing hrest]

/-- Behind a point a precision is a number, and none at all is zero. -/
theorem takePrecision_of_ne {cs : List Char} (h : ∀ c ∈ cs.head?, c ≠ '*') :
    takePrecision ('.' :: cs) =
      match takeNumber cs with
      | (some n, rest) => (.written n, rest)
      | (none, rest) => (.written 0, rest) := by
  unfold takePrecision
  split
  case h_1 rest heq =>
    cases heq
    exact absurd rfl (h '*' rfl)
  case h_2 rest hne heq =>
    cases heq
    rfl
  case h_3 hne => exact absurd rfl (hne cs)

theorem takePrecision_digits {ds rest : List Char} (hds : ∀ c ∈ ds, isDigit c = true)
    (hrest : EndsDigits rest) (hstar : ds = [] → ∀ c ∈ rest.head?, c ≠ '*') :
    takePrecision ('.' :: (ds ++ rest)) = (.written (countOf ds), rest) := by
  cases ds with
  | nil =>
    rw [List.nil_append, takePrecision_of_ne (hstar rfl), takeNumber_nothing hrest]
    rfl
  | cons d ds =>
    have hhead : ∀ c ∈ (d :: ds ++ rest).head?, c ≠ '*' := by
      intro c hc
      cases hc
      exact Number.Numeral.isDigit_ne (hds d (.head _)) (by decide)
    rw [takePrecision_of_ne hhead, takeNumber_digits ⟨List.cons_ne_nil _ _, hds⟩ hrest]

theorem takePrecision_absent {rest : List Char} (h : ∀ c ∈ rest.head?, c ≠ '.') :
    takePrecision rest = (.absent, rest) := by
  unfold takePrecision
  split
  · exact absurd rfl (h '.' rfl)
  · exact absurd rfl (h '.' rfl)
  · rfl

namespace Opening

variable {o : Opening} {rest : List Char}

/-- What stands behind the opening does not belong to it. -/
def Ends (o : Opening) (rest : List Char) : Prop := ∀ c ∈ rest.head?, ¬o.GoesOn c

theorem takePrecision_pointed (h : o.Ends rest) :
    takePrecision (o.precision.pointed ++ rest) = (o.precision.count, rest) := by
  have hdigits := o.precision_digits
  unfold Ends GoesOn at h
  cases hprecision : o.precision with
  | absent =>
    rw [hprecision] at h
    exact takePrecision_absent fun c hc hdot => h c hc (.inl hdot)
  | digits ds =>
    rw [hprecision] at h
    refine takePrecision_digits (hdigits ds hprecision) (fun c hc => ?_) fun hnil c hc hstar => ?_
    · exact Bool.eq_false_iff.mpr fun hdigit => h c hc (.inl hdigit)
    · exact h c hc (.inr ⟨hnil, hstar⟩)
  | star => rfl

/-- Behind the width stands a point, or what stands behind the opening. -/
theorem head?_pointed {c : Char} (hc : c ∈ (o.precision.pointed ++ rest).head?) :
    c = '.' ∨ o.precision = .absent ∧ c ∈ rest.head? := by
  cases hprecision : o.precision with
  | absent =>
    rw [hprecision] at hc
    exact .inr ⟨rfl, hc⟩
  | _ =>
    rw [hprecision] at hc
    cases hc
    exact .inl rfl

theorem takeWidth_chars (h : o.Ends rest) :
    takeWidth (o.width.chars ++ (o.precision.pointed ++ rest)) =
      (o.width.count, o.precision.pointed ++ rest) := by
  have hdigits := o.width_digits
  unfold Ends GoesOn at h
  cases hwidth : o.width with
  | absent =>
    rw [hwidth] at h
    refine takeWidth_absent (fun c hc => ?_) fun c hc => ?_
    · rcases head?_pointed hc with rfl | ⟨hprecision, hc⟩
      · decide
      · rw [hprecision] at h
        exact fun hstar => h c hc (.inr (.inr (.inr hstar)))
    · rcases head?_pointed hc with rfl | ⟨hprecision, hc⟩
      · decide
      · rw [hprecision] at h
        exact Bool.eq_false_iff.mpr fun hdigit => h c hc (.inr (.inr (.inl hdigit)))
  | digits ds =>
    rw [hwidth] at h
    refine takeWidth_digits (hdigits ds hwidth).1 fun c hc => ?_
    rcases head?_pointed hc with rfl | ⟨hprecision, hc⟩
    · decide
    · rw [hprecision] at h
      exact Bool.eq_false_iff.mpr fun hdigit => h c hc (.inr hdigit)
  | star => rfl

/-- The flags end where the width begins. -/
theorem head?_width (h : o.Ends rest) :
    ∀ c ∈ (o.width.chars ++ (o.precision.pointed ++ rest)).head?, isFlag c = false := by
  have hdigits := o.width_digits
  intro c hc
  cases hwidth : o.width with
  | absent =>
    rw [hwidth] at hc
    rcases head?_pointed hc with rfl | ⟨hprecision, hc⟩
    · decide
    · unfold Ends GoesOn at h
      rw [hwidth, hprecision] at h
      exact Bool.eq_false_iff.mpr fun hflag => h c hc (.inr (.inl hflag))
  | digits ds =>
    obtain ⟨⟨hne, hall⟩, hzero⟩ := hdigits ds hwidth
    obtain ⟨d, ds, rfl⟩ := List.exists_cons_of_ne_nil hne
    rw [hwidth] at hc
    cases hc
    rw [Bool.eq_false_iff]
    exact fun hflag => hzero (congrArg some (eq_zero_of_isFlag (hall c (.head _)) hflag))
  | star =>
    rw [hwidth] at hc
    cases hc
    decide

theorem ne_percent {c : Char} (hc : c ∈ o.body) : c ≠ '%' := by
  rintro rfl
  rw [body, List.mem_append, List.mem_append] at hc
  rcases hc with hflag | hwidth | hprecision
  · exact absurd (o.flags_all _ hflag) (by decide)
  · cases hw : o.width with
    | absent =>
      rw [hw] at hwidth
      cases hwidth
    | digits ds =>
      rw [hw] at hwidth
      exact absurd ((o.width_digits ds hw).1.2 _ hwidth) (by decide)
    | star =>
      rw [hw] at hwidth
      exact absurd hwidth (by decide)
  · cases hp : o.precision with
    | absent =>
      rw [hp] at hprecision
      cases hprecision
    | digits ds =>
      rw [hp] at hprecision
      rcases List.mem_cons.mp hprecision with heq | hdigit
      · exact absurd heq (by decide)
      · exact absurd (o.precision_digits ds hp _ hdigit) (by decide)
    | star =>
      rw [hp] at hprecision
      exact absurd hprecision (by decide)

/-- An opening is taken as it is written. -/
theorem takeSpec_body (h : o.Ends rest) : takeSpec (o.body ++ rest) = (o.spec, rest) := by
  rw [takeSpec, body, List.append_assoc, List.append_assoc,
    takeFlags_append o.flags_all (head?_width h)]
  dsimp only
  rw [takeWidth_chars h]
  dsimp only
  rw [takePrecision_pointed h]
  simp only [Spec.plain, Bool.false_or]
  rfl

end Opening

/-! ## Every text behind a percent sign has an opening -/

theorem head?_dropWhile {p : Char → Bool} {cs : List Char} :
    ∀ c ∈ (cs.dropWhile p).head?, p c = false := by
  intro c hc
  have h := List.head?_dropWhile_not p cs
  rw [hc] at h
  exact h

theorem exists_precision (cs : List Char) :
    ∃ (p : Extent) (rest : List Char), cs = p.pointed ++ rest ∧
      (∀ ds, p = .digits ds → ∀ c ∈ ds, isDigit c = true) ∧
      (p = .absent → ∀ c ∈ rest.head?, c ≠ '.') ∧
      ∀ ds, p = .digits ds → EndsDigits rest ∧ (ds = [] → ∀ c ∈ rest.head?, c ≠ '*') := by
  by_cases hpoint : cs.head? = some '.'
  · obtain ⟨cs, rfl⟩ := List.head?_eq_some_iff.mp hpoint
    by_cases hstar : cs.head? = some '*'
    · obtain ⟨rest, rfl⟩ := List.head?_eq_some_iff.mp hstar
      exact ⟨.star, rest, rfl, nofun, nofun, nofun⟩
    · have hsplit := List.takeWhile_append_dropWhile (p := isDigit) (l := cs)
      refine ⟨.digits (cs.takeWhile isDigit), cs.dropWhile isDigit, ?_, ?_, nofun, ?_⟩
      · rw [Extent.pointed, List.cons_append, hsplit]
      · rintro ds ⟨⟩
        exact Number.Numeral.isDigit_of_mem_takeWhile
      · rintro ds ⟨⟩
        refine ⟨head?_dropWhile, fun hnil c hc heq => hstar ?_⟩
        rw [hnil, List.nil_append] at hsplit
        rw [← hsplit, hc, heq]
  · exact ⟨.absent, cs, rfl, nofun, fun _ c hc heq => hpoint (heq ▸ hc), nofun⟩

theorem exists_width (cs : List Char) :
    ∃ (w : Extent) (rest : List Char), cs = w.chars ++ rest ∧
      (∀ ds, w = .digits ds → IsDigits ds ∧ ds.head? = cs.head?) ∧
      (w = .absent → ∀ c ∈ rest.head?, isDigit c = false ∧ c ≠ '*') ∧
      ∀ ds, w = .digits ds → EndsDigits rest := by
  by_cases hstar : cs.head? = some '*'
  · obtain ⟨rest, rfl⟩ := List.head?_eq_some_iff.mp hstar
    exact ⟨.star, rest, rfl, nofun, nofun, nofun⟩
  · have hsplit := List.takeWhile_append_dropWhile (p := isDigit) (l := cs)
    by_cases hnil : cs.takeWhile isDigit = []
    · rw [hnil, List.nil_append] at hsplit
      refine ⟨.absent, cs, rfl, nofun, fun _ c hc => ⟨?_, fun heq => hstar (heq ▸ hc)⟩, nofun⟩
      rw [← hsplit] at hc
      exact head?_dropWhile c hc
    · refine ⟨.digits (cs.takeWhile isDigit), cs.dropWhile isDigit, hsplit.symm, ?_, nofun, ?_⟩
      · rintro ds ⟨⟩
        refine ⟨⟨hnil, Number.Numeral.isDigit_of_mem_takeWhile⟩, ?_⟩
        obtain ⟨d, ds, hds⟩ := List.exists_cons_of_ne_nil hnil
        rw [hds] at hsplit ⊢
        rw [← hsplit]
        rfl
      · exact fun _ _ => head?_dropWhile

/-- Flags, a width and a precision are read as far as they go. -/
theorem exists_opening (cs : List Char) :
    ∃ (o : Opening) (rest : List Char), cs = o.body ++ rest ∧ o.Ends rest := by
  obtain ⟨w, afterWidth, hw, hwidth, hwidthAbsent, hwidthDigits⟩ :=
    exists_width (cs.dropWhile isFlag)
  obtain ⟨p, rest, rfl, hprecision, hprecisionAbsent, hprecisionDigits⟩ :=
    exists_precision afterWidth
  have hflags : ∀ c ∈ (w.chars ++ (p.pointed ++ rest)).head?, isFlag c = false := by
    rw [← hw]
    exact head?_dropWhile
  have hzero : ∀ ds, w = .digits ds → IsDigits ds ∧ ds.head? ≠ some '0' := by
    intro ds hds
    obtain ⟨hdigits, hhead⟩ := hwidth ds hds
    refine ⟨hdigits, fun heq => ?_⟩
    rw [hhead] at heq
    exact absurd (head?_dropWhile '0' heq) (by decide)
  refine ⟨⟨cs.takeWhile isFlag, w, p, List.all_eq_true.mp List.all_takeWhile, hzero, hprecision⟩,
    rest, ?_, ?_⟩
  · rw [Opening.body, List.append_assoc, List.append_assoc, ← hw, List.takeWhile_append_dropWhile]
  · intro c hc hgoes
    unfold Opening.GoesOn at hgoes
    cases p with
    | star => exact hgoes
    | digits ds =>
      obtain ⟨hdigit, hstar⟩ := hprecisionDigits ds rfl
      rcases hgoes with hc' | ⟨hnil, heq⟩
      · rw [hdigit c hc] at hc'
        cases hc'
      · exact hstar hnil c hc heq
    | absent =>
      rcases hgoes with heq | hgoes
      · exact hprecisionAbsent rfl c hc heq
      · cases w with
        | star => exact hgoes
        | digits ds =>
          have hdigit := hwidthDigits ds rfl c hc
          rw [hgoes] at hdigit
          cases hdigit
        | absent =>
          obtain ⟨hdigit, hstar⟩ := hwidthAbsent rfl c hc
          rcases hgoes with hflag | hgoes | heq
          · rw [hflags c hc] at hflag
            cases hflag
          · rw [hdigit] at hgoes
            cases hgoes
          · exact hstar heq

/-! ## Reading items -/

namespace Directive

variable (d : Directive)

theorem ends (rest : List Char) : d.toOpening.Ends (d.letter :: rest) := by
  intro c hc
  cases hc
  exact d.complete

/-- The percent sign of a directive is alone. -/
theorem head?_body (rest : List Char) : (d.body ++ d.letter :: rest).head? ≠ some '%' := by
  intro h
  cases hbody : d.body with
  | nil =>
    rw [hbody] at h
    exact d.not_percent hbody (Option.some.inj h)
  | cons c cs =>
    rw [hbody] at h
    have hmem : c ∈ d.body := by
      rw [hbody]
      exact .head _
    exact d.ne_percent hmem (Option.some.inj h)

end Directive

/-- What stands behind a percent sign alone is read as a directive. -/
theorem takeItem_percent {cs : List Char} (h : cs.head? ≠ some '%') :
    takeItem ('%' :: cs) =
      match takeSpec cs with
      | (spec, letter :: rest) =>
        some (.conversion spec letter ('%' :: cs.take (cs.length - rest.length)), rest)
      | (_, []) => some (.unfinished ('%' :: cs), []) := by
  unfold takeItem
  split
  case h_1 heq => cases heq
  case h_2 rest heq =>
    cases heq
    exact absurd rfl h
  case h_3 rest hne heq =>
    cases heq
    rfl
  case h_4 hne heq =>
    cases heq
    exact absurd rfl hne

theorem takeItem_chars (p : Piece) (rest : List Char) :
    takeItem (p.chars ++ rest) = some (p.item, rest) := by
  cases p with
  | char c hc =>
    show takeItem (c :: rest) = some (.char c, rest)
    rw [takeItem]
    · exact fun cs heq => absurd heq hc
    · exact fun heq => absurd heq hc
  | percent => rfl
  | directive d =>
    have htext : d.chars ++ rest = '%' :: (d.body ++ d.letter :: rest) := by
      rw [Directive.chars, Opening.chars, List.append_assoc]
      rfl
    have hsource : (d.body ++ d.letter :: rest).take
        ((d.body ++ d.letter :: rest).length - rest.length) = d.body ++ [d.letter] := by
      have hsplit : d.body ++ d.letter :: rest = (d.body ++ [d.letter]) ++ rest := by
        rw [List.append_assoc]
        rfl
      rw [hsplit, List.length_append, Nat.add_sub_cancel, List.take_left]
    show takeItem (d.chars ++ rest) = some (.conversion d.spec d.letter d.chars, rest)
    rw [htext, takeItem_percent (d.head?_body rest), Opening.takeSpec_body (d.ends rest)]
    dsimp only
    rw [hsource]
    rfl

/-- Every item takes a character. -/
theorem length_lt_of_takeItem {cs rest : List Char} {item : Item}
    (h : takeItem cs = some (item, rest)) : rest.length < cs.length := by
  unfold takeItem at h
  split at h
  · cases h
  · cases h
    simp only [List.length_cons]
    omega
  · next cs _ =>
    obtain ⟨o, more, rfl, hends⟩ := exists_opening cs
    rw [Opening.takeSpec_body hends] at h
    cases more with
    | nil =>
      cases h
      exact Nat.succ_pos _
    | cons letter more =>
      cases h
      simp only [List.length_cons, List.length_append]
      omega
  · cases h
    exact Nat.lt_succ_self _

/-- Fuel for each character is enough. -/
theorem itemsFrom_of_le {n : Nat} {cs : List Char} (h : cs.length ≤ n) :
    itemsFrom n cs = items cs := by
  induction n using Nat.strongRecOn generalizing cs with
  | _ n ih =>
    cases cs with
    | nil => cases n <;> rfl
    | cons c cs =>
      obtain ⟨n, rfl⟩ : ∃ k, n = k + 1 := ⟨n - 1, by simp at h; omega⟩
      rw [items, List.length_cons, itemsFrom, itemsFrom]
      cases hitem : takeItem (c :: cs) with
      | none => rfl
      | some taken =>
        obtain ⟨item, rest⟩ := taken
        have hrest := length_lt_of_takeItem hitem
        simp only [List.length_cons] at h hrest
        dsimp only
        rw [ih n (by omega) (by omega), ih cs.length (by omega) (by omega)]

theorem items_of_takeItem {cs rest : List Char} {item : Item}
    (h : takeItem cs = some (item, rest)) : items cs = item :: items rest := by
  have hrest := length_lt_of_takeItem h
  obtain ⟨n, hn⟩ : ∃ n, cs.length = n + 1 := ⟨cs.length - 1, by omega⟩
  rw [items, hn, itemsFrom, h]
  dsimp only
  rw [itemsFrom_of_le (by omega)]

/-- Items that are complete are read one by one, whatever stands behind them. -/
theorem items_spell_append (ps : List Piece) (rest : List Char) :
    items (spell ps ++ rest) = ps.map Piece.item ++ items rest := by
  induction ps with
  | nil => rfl
  | cons p ps ih =>
    have htext : spell (p :: ps) ++ rest = p.chars ++ (spell ps ++ rest) := by
      rw [spell, List.flatMap_cons, List.append_assoc]
      rfl
    rw [htext, items_of_takeItem (takeItem_chars p _), ih]
    rfl

theorem items_spell (ps : List Piece) : items (spell ps) = ps.map Piece.item := by
  have h := items_spell_append ps []
  rw [List.append_nil] at h
  rw [h]
  exact List.append_nil _

/-- An opening that the end cuts off is an item of its own. -/
theorem items_opening (o : Opening) : items o.chars = [.unfinished o.chars] := by
  have hhead : o.body.head? ≠ some '%' := fun h => o.ne_percent (List.mem_of_head? h) rfl
  have hspec := @Opening.takeSpec_body o [] nofun
  rw [List.append_nil] at hspec
  have hitem : takeItem o.chars = some (.unfinished o.chars, []) := by
    rw [Opening.chars, takeItem_percent hhead, hspec]
  rw [items_of_takeItem hitem]
  rfl

/-- Every format is made of items and possibly an opening that its end cuts off. -/
theorem exists_pieces (cs : List Char) :
    ∃ ps, cs = spell ps ∨ ∃ o : Opening, cs = spell ps ++ o.chars := by
  induction hn : cs.length using Nat.strongRecOn generalizing cs with
  | _ n ih =>
    have hcons : ∀ (p : Piece) (rest : List Char), cs = p.chars ++ rest → rest.length < cs.length →
        ∃ ps, cs = spell ps ∨ ∃ o : Opening, cs = spell ps ++ o.chars := by
      rintro p rest rfl hlt
      obtain ⟨ps, hps⟩ := ih rest.length (hn ▸ hlt) rest rfl
      have hspell : spell (p :: ps) = p.chars ++ spell ps := List.flatMap_cons
      refine ⟨p :: ps, ?_⟩
      rw [hspell]
      rcases hps with heq | ⟨o, heq⟩
      · exact .inl (by rw [← heq])
      · exact .inr ⟨o, by rw [List.append_assoc, ← heq]⟩
    cases cs with
    | nil => exact ⟨[], .inl rfl⟩
    | cons c cs =>
      by_cases hc : c = '%'
      · subst hc
        obtain ⟨o, rest, rfl, hends⟩ := exists_opening cs
        cases rest with
        | nil =>
          refine ⟨[], .inr ⟨o, ?_⟩⟩
          rw [List.append_nil]
          rfl
        | cons letter rest =>
          by_cases hdouble : o.body = [] ∧ letter = '%'
          · obtain ⟨hbody, rfl⟩ := hdouble
            exact hcons .percent rest (by rw [hbody]; rfl) (by simp; omega)
          · have hletter : o.body = [] → letter ≠ '%' := fun hbody heq => hdouble ⟨hbody, heq⟩
            refine hcons (.directive ⟨o, letter, hends letter rfl, hletter⟩) rest ?_
              (by simp; omega)
            simp [Piece.chars, Directive.chars, Opening.chars]
      · exact hcons (.char c hc) cs rfl (Nat.lt_succ_self _)

/-! ## Arguments -/

variable {numberText : Double → List Char}

/-- The arguments that items leave. -/
def leave (numberText : Double → List Char) (is : List Item) (args : List Value) : List Value :=
  is.foldl (fun args item => (renderItem numberText item args).2) args

theorem render_cons (item : Item) (is : List Item) (args : List Value) :
    render numberText (item :: is) args = (renderItem numberText item args).1 ++
      render numberText is (renderItem numberText item args).2 := rfl

theorem render_append (is js : List Item) (args : List Value) :
    render numberText (is ++ js) args =
      render numberText is args ++ render numberText js (leave numberText is args) := by
  induction is generalizing args with
  | nil => rfl
  | cons item is ih =>
    rw [List.cons_append, render_cons, render_cons, ih, List.append_assoc]
    rfl

/-- Each star takes an argument, or what stands for it when none is left. -/
theorem settle_arguments (o : Opening) (args : List Value) :
    (settle o.spec args).2 = args.drop o.stars := by
  unfold Opening.stars
  cases hwidth : o.width <;> cases hprecision : o.precision
  all_goals simp [settle, Opening.spec, Extent.count, Extent.stars, hwidth, hprecision,
    ← List.drop_one, List.drop_drop]

theorem conversion?_isSome_iff {c : Char} : (conversion? c).isSome ↔ c ∈ knownLetters := by
  unfold conversion? knownLetters
  split
  all_goals simp_all

namespace Directive

variable (d : Directive) (args : List Value)

/-- A percent sign is padded like a text, and takes no argument. -/
theorem renderItem_percent (h : d.letter = '%') :
    renderItem numberText (.conversion d.spec d.letter d.chars) args =
      ((settle d.spec args).1.pad [] ['%'] false, args.drop d.stars) := by
  rw [renderItem]
  dsimp only
  rw [if_pos h, settle_arguments]

theorem renderItem_unknown (h : ¬d.IsKnown) (hpercent : d.letter ≠ '%') :
    renderItem numberText (.conversion d.spec d.letter d.chars) args =
      (d.chars, args.drop d.stars) := by
  have hnone : conversion? d.letter = none :=
    Option.not_isSome_iff_eq_none.mp fun hsome => h (conversion?_isSome_iff.mp hsome)
  rw [renderItem]
  dsimp only
  rw [if_neg hpercent, settle_arguments, hnone]

theorem renderItem_starved (hpercent : d.letter ≠ '%') (h : args.length ≤ d.stars) :
    renderItem numberText (.conversion d.spec d.letter d.chars) args = (d.chars, []) := by
  rw [renderItem]
  dsimp only
  rw [if_neg hpercent, settle_arguments, List.drop_eq_nil_of_le h]
  cases conversion? d.letter <;> rfl

theorem IsKnown.ne_percent {d : Directive} (h : d.IsKnown) : d.letter ≠ '%' := by
  intro heq
  rw [IsKnown, heq] at h
  exact absurd h (by decide)

/-- A known letter converts the first argument that the stars leave. -/
theorem renderItem_known {v : Value} {rest : List Value} (hargs : args.drop d.stars = v :: rest)
    {c : Conversion} (hc : conversion? d.letter = some c) :
    renderItem numberText (.conversion d.spec d.letter d.chars) args =
      (convert numberText (settle d.spec args).1 c v, rest) := by
  have hknown : d.IsKnown := conversion?_isSome_iff.mp (by rw [hc]; rfl)
  rw [renderItem]
  dsimp only
  rw [if_neg hknown.ne_percent, settle_arguments, hc, hargs]

theorem renderItem_arguments :
    (renderItem numberText (.conversion d.spec d.letter d.chars) args).2 =
      args.drop (d.taken args.length) := by
  by_cases hpercent : d.letter = '%'
  · have hunknown : ¬d.IsKnown := fun h => h.ne_percent hpercent
    rw [d.renderItem_percent args hpercent, taken, if_neg (not_and.mpr fun h => absurd h hunknown)]
    rfl
  · by_cases hknown : d.IsKnown
    · by_cases hstarved : args.length ≤ d.stars
      · rw [d.renderItem_starved args hpercent hstarved, taken, if_neg (by omega)]
        exact (List.drop_eq_nil_of_le hstarved).symm
      · obtain ⟨c, hc⟩ := Option.isSome_iff_exists.mp (conversion?_isSome_iff.mpr hknown)
        have hlt : d.stars < args.length := Nat.lt_of_not_le hstarved
        rw [d.renderItem_known args (List.drop_eq_getElem_cons hlt) hc, taken,
          if_pos ⟨hknown, hlt⟩]
    · rw [d.renderItem_unknown args hknown hpercent, taken,
        if_neg (not_and.mpr fun h => absurd h hknown)]
      rfl

end Directive

theorem leave_pieces (ps : List Piece) (args : List Value) :
    leave numberText (ps.map Piece.item) args = args.drop (taken ps args.length) := by
  induction ps generalizing args with
  | nil => rfl
  | cons p ps ih =>
    have hitem : (renderItem numberText p.item args).2 = args.drop (p.taken args.length) := by
      cases p with
      | directive d => exact d.renderItem_arguments args
      | _ => rfl
    show leave numberText (ps.map Piece.item) (renderItem numberText p.item args).2 = _
    rw [hitem, ih, List.length_drop, List.drop_drop, taken]

/-- The text of items and of what stands behind them. -/
theorem render_spell_append (ps : List Piece) (rest : List Char) (args : List Value) :
    render numberText (items (spell ps ++ rest)) args =
      render numberText (items (spell ps)) args ++
        render numberText (items rest) (args.drop (taken ps args.length)) := by
  rw [items_spell_append, render_append, leave_pieces, items_spell]

/-! ## Surplus arguments -/

theorem starArgument_append {args : List Value} (h : 0 < args.length) (more : List Value) :
    starArgument (args ++ more) = starArgument args := by
  obtain ⟨v, args, rfl⟩ := List.exists_cons_of_length_pos h
  rfl

theorem settle_surplus {o : Opening} {args : List Value} (h : o.stars ≤ args.length)
    (more : List Value) : (settle o.spec (args ++ more)).1 = (settle o.spec args).1 := by
  unfold Opening.stars at h
  -- Stars have to find the same arguments, a second one behind a first.
  have hfirst : 0 < args.length → starArgument (args ++ more) = starArgument args :=
    fun hpos => starArgument_append hpos more
  have hsecond : 1 < args.length →
      starArgument (args ++ more).tail = starArgument args.tail := by
    intro hlong
    rw [List.tail_append_of_ne_nil (List.ne_nil_of_length_pos (by omega))]
    exact starArgument_append (by rw [List.length_tail]; omega) more
  cases hwidth : o.width <;> cases hprecision : o.precision
  all_goals simp only [hwidth, hprecision, Extent.stars] at h
  all_goals simp only [settle, Opening.spec, Extent.count, hwidth, hprecision]
  case star.star => rw [hfirst (by omega), hsecond (by omega)]
  all_goals rw [hfirst (by omega)]

namespace Directive

variable {d : Directive} {args : List Value}

theorem taken_of_wanted_le (h : d.wanted ≤ args.length) : d.taken args.length = d.wanted := by
  unfold wanted at h
  unfold taken wanted
  by_cases hknown : d.IsKnown
  · rw [if_pos hknown] at h
    rw [if_pos hknown, if_pos ⟨hknown, by omega⟩]
  · rw [if_neg hknown, if_neg fun h => hknown h.1]

/-- What a directive has no use for does not change its text. -/
theorem renderItem_surplus (h : d.wanted ≤ args.length) (more : List Value) :
    (renderItem numberText (.conversion d.spec d.letter d.chars) (args ++ more)).1 =
      (renderItem numberText (.conversion d.spec d.letter d.chars) args).1 := by
  unfold wanted at h
  by_cases hpercent : d.letter = '%'
  · rw [renderItem_percent d _ hpercent, renderItem_percent d _ hpercent,
      settle_surplus (by omega)]
  · by_cases hknown : d.IsKnown
    · rw [if_pos hknown] at h
      obtain ⟨c, hc⟩ := Option.isSome_iff_exists.mp (conversion?_isSome_iff.mpr hknown)
      have hdrop := List.drop_eq_getElem_cons (l := args) (i := d.stars) (by omega)
      have hdrop' : (args ++ more).drop d.stars =
          args[d.stars] :: (args.drop (d.stars + 1) ++ more) := by
        rw [List.drop_append_of_le_length (by omega), hdrop, List.cons_append]
      rw [renderItem_known d _ hdrop hc, renderItem_known d _ hdrop' hc, settle_surplus (by omega)]
    · rw [renderItem_unknown d _ hknown hpercent, renderItem_unknown d _ hknown hpercent]

end Directive

theorem render_surplus {ps : List Piece} {args : List Value} (h : wanted ps ≤ args.length)
    (more : List Value) :
    render numberText (ps.map Piece.item) (args ++ more) =
      render numberText (ps.map Piece.item) args := by
  induction ps generalizing args with
  | nil => rfl
  | cons p ps ih =>
    have hwanted : wanted (p :: ps) = p.wanted + wanted ps := List.sum_cons
    have hitem : renderItem numberText p.item (args ++ more) =
        ((renderItem numberText p.item args).1, args.drop p.wanted ++ more) ∧
          (renderItem numberText p.item args).2 = args.drop p.wanted := by
      cases p with
      | directive d =>
        have hd : d.wanted ≤ args.length := by
          show (Piece.directive d).wanted ≤ _
          omega
        have hd' : d.wanted ≤ (args ++ more).length := by
          rw [List.length_append]
          omega
        show renderItem numberText (.conversion d.spec d.letter d.chars) (args ++ more) =
          ((renderItem numberText (.conversion d.spec d.letter d.chars) args).1,
            args.drop d.wanted ++ more) ∧
          (renderItem numberText (.conversion d.spec d.letter d.chars) args).2 = args.drop d.wanted
        rw [← Directive.renderItem_surplus hd more, d.renderItem_arguments args,
          Directive.taken_of_wanted_le hd]
        refine ⟨Prod.ext rfl ?_, rfl⟩
        rw [d.renderItem_arguments, Directive.taken_of_wanted_le hd',
          List.drop_append_of_le_length hd]
      | _ => exact ⟨rfl, rfl⟩
    have hrest : wanted ps ≤ (args.drop p.wanted).length := by
      rw [List.length_drop]
      omega
    rw [List.map_cons, render_cons, render_cons, hitem.1, hitem.2]
    dsimp only
    rw [ih hrest]

/-- A directive that is a format by itself writes its own text. -/
theorem render_directive (d : Directive) (args : List Value) :
    render numberText (items d.chars) args =
      (renderItem numberText (.conversion d.spec d.letter d.chars) args).1 := by
  have hspell : spell [.directive d] = d.chars := List.append_nil _
  have hitems : items d.chars = [.conversion d.spec d.letter d.chars] :=
    (congrArg items hspell).symm.trans (items_spell _)
  rw [hitems, render_cons]
  exact List.append_nil _

/-- An opening that the end of the format cuts off is copied. -/
theorem render_opening (o : Opening) (args : List Value) :
    render numberText (items o.chars) args = o.chars := by
  rw [items_opening, render_cons]
  exact List.append_nil _

/-- A format of items writes its text in front of that of what follows it, which finds the arguments
that the items leave: one goes for each star, and one for each known conversion that still has one.
All formats are made of items, and of an opening at the end if it cuts one off.  A known conversion
without an argument, an unknown one and an opening are copied.  Arguments beyond those that the
items have a use for do not matter. -/
theorem formats_compose (numberFormat : String) :
    (∀ (ps : List Piece) (f : String) (args : List Value),
      sprintf (String.ofList (spell ps) ++ f) args numberFormat =
        sprintf (String.ofList (spell ps)) args numberFormat ++
          sprintf f (args.drop (taken ps args.length)) numberFormat) ∧
    (∀ f : String, ∃ ps, f = String.ofList (spell ps) ∨
      ∃ o : Opening, f = String.ofList (spell ps ++ o.chars)) ∧
    (∀ (d : Directive) (args : List Value), d.IsKnown → args.length ≤ d.stars →
      sprintf (String.ofList d.chars) args numberFormat = String.ofList d.chars) ∧
    (∀ (d : Directive) (args : List Value), ¬d.IsKnown → d.letter ≠ '%' →
      sprintf (String.ofList d.chars) args numberFormat = String.ofList d.chars) ∧
    (∀ (o : Opening) (args : List Value),
      sprintf (String.ofList o.chars) args numberFormat = String.ofList o.chars) ∧
    ∀ (ps : List Piece) (ending : List Char) (args more : List Value),
      (ending = [] ∨ ∃ o : Opening, ending = o.chars) → wanted ps ≤ args.length →
      sprintf (String.ofList (spell ps ++ ending)) (args ++ more) numberFormat =
        sprintf (String.ofList (spell ps ++ ending)) args numberFormat := by
  simp only [sprintf, String.toList_append, String.toList_ofList]
  refine ⟨fun ps f args => ?_, fun f => ?_, fun d args hknown hstarved => ?_,
    fun d args hunknown hpercent => ?_, fun o args => ?_, fun ps ending args more hending h => ?_⟩
  · rw [render_spell_append, String.ofList_append]
  · obtain ⟨ps, heq | ⟨o, heq⟩⟩ := exists_pieces f.toList
    · exact ⟨ps, .inl (by rw [← heq, String.ofList_toList])⟩
    · exact ⟨ps, .inr ⟨o, by rw [← heq, String.ofList_toList]⟩⟩
  · rw [render_directive, d.renderItem_starved args hknown.ne_percent hstarved]
  · rw [render_directive, d.renderItem_unknown args hunknown hpercent]
  · rw [render_opening]
  · have hblind : ∀ args args' : List Value,
        render (numberChars numberFormat) (items ending) args =
          render (numberChars numberFormat) (items ending) args' := by
      intro args args'
      rcases hending with rfl | ⟨o, rfl⟩
      · rfl
      · rw [render_opening, render_opening]
    rw [render_spell_append, render_spell_append, items_spell, render_surplus h more, hblind]

end Format
end Awk
