import Awk.Number.Numeral
import Awk.Proofs.Encoding

/-!
# The grammar of numerals

A sign that may be missing, digits with a point that may stand before, among or behind them, and an
exponent that may be missing.  Scanning takes the longest prefix of a text that has this form, so
an exponent mark without digits is given back.  All characters of a numeral have one byte, hence
the prefix is as long in bytes as in characters, and no longer one is hidden between characters.
-/

namespace Awk
namespace Number

/-- One digit or more. -/
def IsDigits (ds : List Char) : Prop := ds ≠ [] ∧ ∀ d ∈ ds, isDigit d = true

namespace Numeral

/-- A sign that may be missing, and whether it is a minus. -/
inductive Sign : List Char → Bool → Prop where
  | absent : Sign [] false
  | plus : Sign ['+'] false
  | minus : Sign ['-'] true

/-- Digits with an optional point, those before the point, and those behind it. -/
inductive Mantissa : List Char → List Char → List Char → Prop where
  | whole {ds : List Char} : IsDigits ds → Mantissa ds ds []
  | point {ds fs : List Char} : IsDigits ds → (∀ f ∈ fs, isDigit f = true) →
      Mantissa (ds ++ '.' :: fs) ds fs
  | fraction {fs : List Char} : IsDigits fs → Mantissa ('.' :: fs) [] fs

/-- An exponent that may be missing, and its value. -/
inductive Exponent : List Char → Int → Prop where
  | absent : Exponent [] 0
  | mark {c : Char} {sign ds : List Char} {negative : Bool} : c = 'e' ∨ c = 'E' →
      Sign sign negative → IsDigits ds →
      Exponent (c :: (sign ++ ds)) (if negative then -(ofDigits ds : Int) else ofDigits ds)

/-- A text has the form of a numeral, and the numeral that it writes. -/
inductive Writes : List Char → Numeral → Prop where
  | parts {sign mantissa exponent whole fraction : List Char} {negative : Bool} {x : Int} :
      Sign sign negative → Mantissa mantissa whole fraction → Exponent exponent x →
      Writes (sign ++ (mantissa ++ exponent))
        { negative, whole, fraction, exponent := x }

/-- A text has the form of a numeral. -/
def Is (text : List Char) : Prop := ∃ n, Writes text n

/-! ## Runs of digits -/

/-- A text that does not begin with a digit. -/
def EndsDigits (cs : List Char) : Prop := ∀ c ∈ cs.head?, isDigit c = false

theorem EndsDigits.takeWhile {cs : List Char} (h : EndsDigits cs) : cs.takeWhile isDigit = [] := by
  cases cs with
  | nil => rfl
  | cons c cs =>
    have hc : isDigit c = false := h c rfl
    rw [List.takeWhile_cons, hc]
    rfl

/-- Nothing is skipped in front of a character that stays. -/
theorem dropWhile_eq_self {p : Char → Bool} {cs : List Char} (h : ∀ c ∈ cs.head?, p c = false) :
    cs.dropWhile p = cs := by
  cases cs with
  | nil => rfl
  | cons c cs =>
    have hc : p c = false := h c rfl
    rw [List.dropWhile_cons, hc]
    rfl

theorem EndsDigits.dropWhile {cs : List Char} (h : EndsDigits cs) : cs.dropWhile isDigit = cs :=
  dropWhile_eq_self h

theorem isDigit_of_mem_takeWhile {cs : List Char} : ∀ d ∈ cs.takeWhile isDigit, isDigit d = true :=
  List.all_eq_true.mp List.all_takeWhile

theorem isDigits_takeWhile {cs : List Char} (h : ¬(cs.takeWhile isDigit).isEmpty = true) :
    IsDigits (cs.takeWhile isDigit) :=
  ⟨fun hnil => h (List.isEmpty_iff.mpr hnil), isDigit_of_mem_takeWhile⟩

/-! ## Parts of a numeral -/

theorem takeSign_spec (cs : List Char) :
    ∃ sign, Sign sign (takeSign cs).1 ∧ cs = sign ++ (takeSign cs).2 := by
  unfold takeSign
  split
  · exact ⟨['+'], .plus, rfl⟩
  · exact ⟨['-'], .minus, rfl⟩
  · exact ⟨[], .absent, rfl⟩

/-- A sign is taken as it stands, also if it is missing, before what is not a sign. -/
theorem takeSign_append {sign : List Char} {negative : Bool} (h : Sign sign negative) {c : Char}
    {cs : List Char} (hc : c ≠ '+' ∧ c ≠ '-') :
    takeSign (sign ++ c :: cs) = (negative, c :: cs) := by
  cases h with
  | absent =>
    show takeSign (c :: cs) = (false, c :: cs)
    unfold takeSign
    split
    · next heq => exact absurd (List.cons.inj heq).1 hc.1
    · next heq => exact absurd (List.cons.inj heq).1 hc.2
    · rfl
  | plus => rfl
  | minus => rfl

theorem isDigit_ne {c d : Char} (hc : isDigit c = true) (hd : isDigit d = false) : c ≠ d := by
  rintro rfl
  rw [hc] at hd
  cases hd

theorem takeSign_digits {sign ds : List Char} {negative : Bool} (h : Sign sign negative)
    (hds : IsDigits ds) (tail : List Char) :
    takeSign (sign ++ (ds ++ tail)) = (negative, ds ++ tail) := by
  obtain ⟨hne, hdigits⟩ := hds
  cases ds with
  | nil => exact absurd rfl hne
  | cons d ds =>
    have hd := hdigits d (by simp)
    exact takeSign_append h ⟨isDigit_ne hd (by decide), isDigit_ne hd (by decide)⟩

theorem takeFraction_of_ne {cs : List Char} (h : ∀ c ∈ cs.head?, c ≠ '.') :
    takeFraction cs = ([], cs) := by
  unfold takeFraction
  split
  · exact absurd rfl (h '.' rfl)
  · rfl

theorem takeFraction_suffix (cs : List Char) : (takeFraction cs).2 <:+ cs := by
  unfold takeFraction
  split
  · exact (List.dropWhile_suffix _).trans (List.suffix_cons _ _)
  · exact List.suffix_rfl

theorem takeExponent_spec (cs : List Char) :
    ∃ exponent, Exponent exponent (takeExponent cs).1 ∧ cs = exponent ++ (takeExponent cs).2 := by
  cases cs with
  | nil => exact ⟨[], .absent, rfl⟩
  | cons c cs =>
    by_cases hc : c = 'e' ∨ c = 'E'
    · obtain ⟨sign, hsign, hcs⟩ := takeSign_spec cs
      rw [takeExponent, if_pos hc]
      dsimp only
      by_cases hempty : ((takeSign cs).2.takeWhile isDigit).isEmpty = true
      · rw [if_pos hempty]
        exact ⟨[], .absent, rfl⟩
      · rw [if_neg hempty]
        refine ⟨_, .mark hc hsign (isDigits_takeWhile hempty), ?_⟩
        rw [List.cons_append, List.append_assoc, List.takeWhile_append_dropWhile, ← hcs]
    · rw [takeExponent, if_neg hc]
      exact ⟨[], .absent, rfl⟩

theorem takeExponent_suffix (cs : List Char) : (takeExponent cs).2 <:+ cs := by
  obtain ⟨exponent, -, hcs⟩ := takeExponent_spec cs
  exact ⟨exponent, hcs.symm⟩

/-- An exponent that is there is taken, with all digits that follow it. -/
theorem takeExponent_mark {c : Char} {sign ds : List Char} {negative : Bool}
    (hc : c = 'e' ∨ c = 'E') (hsign : Sign sign negative) (hds : IsDigits ds) (tail : List Char) :
    takeExponent (c :: (sign ++ ds) ++ tail) =
      (if negative then -(ofDigits (ds ++ tail.takeWhile isDigit) : Int)
        else ofDigits (ds ++ tail.takeWhile isDigit), tail.dropWhile isDigit) := by
  have htaken : (ds ++ tail).takeWhile isDigit = ds ++ tail.takeWhile isDigit :=
    List.takeWhile_append_of_pos hds.2
  have hdropped : (ds ++ tail).dropWhile isDigit = tail.dropWhile isDigit :=
    List.dropWhile_append_of_pos hds.2
  have hsome : ¬(ds ++ tail.takeWhile isDigit).isEmpty = true := by
    simp [hds.1]
  rw [List.cons_append, List.append_assoc, takeExponent, if_pos hc, takeSign_digits hsign hds]
  dsimp only
  rw [htaken, hdropped, if_neg hsome]

/-- Digits, and a point with more of them if it comes next, form a mantissa unless there are no
digits at all. -/
theorem mantissa_spec {body : List Char} (h : ¬((body.takeWhile isDigit).isEmpty &&
    (takeFraction (body.dropWhile isDigit)).1.isEmpty) = true) :
    ∃ mantissa, Mantissa mantissa (body.takeWhile isDigit)
      (takeFraction (body.dropWhile isDigit)).1 ∧
      body = mantissa ++ (takeFraction (body.dropWhile isDigit)).2 := by
  have hbody : body.takeWhile isDigit ++ body.dropWhile isDigit = body :=
    List.takeWhile_append_dropWhile
  by_cases hpoint : ∃ more, body.dropWhile isDigit = '.' :: more
  · obtain ⟨more, hmore⟩ := hpoint
    have hfraction : takeFraction (body.dropWhile isDigit) =
        (more.takeWhile isDigit, more.dropWhile isDigit) := by
      rw [hmore]
      rfl
    have hbehind : more.takeWhile isDigit ++ more.dropWhile isDigit = more :=
      List.takeWhile_append_dropWhile
    rw [hfraction] at h ⊢
    rw [hmore] at hbody
    by_cases hwhole : (body.takeWhile isDigit).isEmpty = true
    · rw [hwhole, Bool.true_and] at h
      rw [List.isEmpty_iff.mp hwhole] at hbody ⊢
      refine ⟨_, .fraction (isDigits_takeWhile h), ?_⟩
      rw [List.cons_append, hbehind, ← hbody]
      rfl
    · refine ⟨_, .point (isDigits_takeWhile hwhole) isDigit_of_mem_takeWhile, ?_⟩
      rw [List.append_assoc, List.cons_append, hbehind, hbody]
  · have hplain : takeFraction (body.dropWhile isDigit) = ([], body.dropWhile isDigit) := by
      refine takeFraction_of_ne fun c hc hdot => ?_
      obtain ⟨more, hmore⟩ := List.head?_eq_some_iff.mp hc
      exact hpoint ⟨more, hdot ▸ hmore⟩
    rw [hplain] at h ⊢
    rw [List.isEmpty_nil, Bool.and_true] at h
    exact ⟨_, .whole (isDigits_takeWhile h), hbody.symm⟩

/-! ## Scanning -/

/-- What is scanned has the form of a numeral. -/
theorem scan_sound {cs rest : List Char} {n : Numeral} (h : scan cs = some (n, rest)) :
    ∃ text, Writes text n ∧ cs = text ++ rest := by
  obtain ⟨sign, hsign, hcs⟩ := takeSign_spec cs
  unfold scan at h
  dsimp only at h
  generalize takeSign cs = taken at h hsign hcs
  obtain ⟨negative, body⟩ := taken
  dsimp only at h hsign hcs
  split at h
  · cases h
  · next hsome =>
    obtain ⟨mantissa, hmantissa, hbody⟩ := mantissa_spec hsome
    obtain ⟨exponent, hexponent, hafter⟩ :=
      takeExponent_spec (takeFraction (body.dropWhile isDigit)).2
    cases h
    refine ⟨_, .parts hsign hmantissa hexponent, ?_⟩
    rw [List.append_assoc, List.append_assoc, ← hafter, ← hbody]
    exact hcs

/-- A text that does not go on with a digit or a point. -/
def EndsMantissa (cs : List Char) : Prop := EndsDigits cs ∧ ∀ c ∈ cs.head?, c ≠ '.'

theorem endsMantissa_nil : EndsMantissa [] := ⟨nofun, nofun⟩

theorem Exponent.endsMantissa {c : Char} (hc : c = 'e' ∨ c = 'E') (cs : List Char) :
    EndsMantissa (c :: cs) := by
  constructor
  · intro d hd
    cases hd
    rcases hc with rfl | rfl <;> rfl
  · intro d hd
    cases hd
    rcases hc with rfl | rfl <;> decide

/-- Behind a mantissa scanning is in what follows it, and right behind it unless that goes on like
a mantissa. -/
theorem mantissa_append {mantissa whole fraction : List Char} (h : Mantissa mantissa whole fraction)
    (rest : List Char) :
    ∃ whole' fraction' after, (mantissa ++ rest).takeWhile isDigit = whole' ∧
      takeFraction ((mantissa ++ rest).dropWhile isDigit) = (fraction', after) ∧
      ¬(whole'.isEmpty && fraction'.isEmpty) = true ∧ after <:+ rest ∧
      (EndsMantissa rest → whole' = whole ∧ fraction' = fraction ∧ after = rest) := by
  have hpoint : ∀ {fs : List Char}, (∀ f ∈ fs, isDigit f = true) →
      takeFraction ('.' :: fs ++ rest) =
        (fs ++ rest.takeWhile isDigit, rest.dropWhile isDigit) := by
    intro fs hfs
    show ((fs ++ rest).takeWhile isDigit, (fs ++ rest).dropWhile isDigit) = _
    rw [List.takeWhile_append_of_pos hfs, List.dropWhile_append_of_pos hfs]
  have hends : EndsDigits ('.' :: rest) := by
    intro c hc
    cases hc
    rfl
  cases h with
  | whole hds =>
    rw [List.takeWhile_append_of_pos hds.2, List.dropWhile_append_of_pos hds.2]
    refine ⟨_, (takeFraction (rest.dropWhile isDigit)).1,
      (takeFraction (rest.dropWhile isDigit)).2, rfl, rfl, ?_, ?_, fun hrest => ?_⟩
    · simp [hds.1]
    · exact (takeFraction_suffix _).trans (List.dropWhile_suffix _)
    · rw [hrest.1.takeWhile, hrest.1.dropWhile, takeFraction_of_ne hrest.2, List.append_nil]
      exact ⟨rfl, rfl, rfl⟩
  | point hds hfs =>
    have hends : EndsDigits ('.' :: fraction ++ rest) := fun c hc => hends c hc
    rw [List.append_assoc, List.takeWhile_append_of_pos hds.2, List.dropWhile_append_of_pos hds.2,
      hends.takeWhile, hends.dropWhile, hpoint hfs, List.append_nil]
    refine ⟨_, _, _, rfl, rfl, ?_, List.dropWhile_suffix _, fun hrest => ?_⟩
    · simp [hds.1]
    · rw [hrest.1.takeWhile, hrest.1.dropWhile, List.append_nil]
      exact ⟨rfl, rfl, rfl⟩
  | fraction hfs =>
    have hends : EndsDigits ('.' :: fraction ++ rest) := fun c hc => hends c hc
    rw [hends.takeWhile, hends.dropWhile, hpoint hfs.2]
    refine ⟨_, _, _, rfl, rfl, ?_, List.dropWhile_suffix _, fun hrest => ?_⟩
    · simp [hfs.1]
    · rw [hrest.1.takeWhile, hrest.1.dropWhile, List.append_nil]
      exact ⟨rfl, rfl, rfl⟩

theorem takeSign_mantissa {sign mantissa whole fraction : List Char} {negative : Bool}
    (hsign : Sign sign negative) (h : Mantissa mantissa whole fraction) (rest : List Char) :
    takeSign (sign ++ (mantissa ++ rest)) = (negative, mantissa ++ rest) := by
  cases h with
  | whole hds => exact takeSign_digits hsign hds rest
  | point hds hfs =>
    rw [List.append_assoc]
    exact takeSign_digits hsign hds _
  | fraction hfs => exact takeSign_append hsign ⟨by decide, by decide⟩

/-- A text that begins with a numeral is scanned at least as far as that goes, and exactly as far
if it ends there. -/
theorem scan_append {text : List Char} {n : Numeral} (h : Writes text n) (tail : List Char) :
    ∃ m rest, scan (text ++ tail) = some (m, rest) ∧ rest.length ≤ tail.length ∧
      (tail = [] → m = n) := by
  cases h with
  | @parts sign mantissa exponent whole fraction negative x hsign hmantissa hexponent =>
    obtain ⟨whole', fraction', after, hwhole, hfraction, hsome, hsuffix, hends⟩ :=
      mantissa_append hmantissa (exponent ++ tail)
    have hscan : scan (sign ++ (mantissa ++ exponent) ++ tail) =
        some ({ negative, whole := whole', fraction := fraction'
                exponent := (takeExponent after).1 },
          (takeExponent after).2) := by
      rw [List.append_assoc, List.append_assoc, scan, takeSign_mantissa hsign hmantissa]
      dsimp only
      rw [hwhole, hfraction]
      dsimp only
      rw [if_neg hsome]
    refine ⟨_, _, hscan, ?_, fun htail => ?_⟩
    · cases hexponent with
      | absent => exact ((takeExponent_suffix after).trans hsuffix).length_le
      | mark hc hsign' hds =>
        obtain ⟨-, -, rfl⟩ := hends (Exponent.endsMantissa hc _)
        rw [takeExponent_mark hc hsign' hds]
        exact (List.dropWhile_suffix _).length_le
    · subst htail
      cases hexponent with
      | absent =>
        obtain ⟨rfl, rfl, rfl⟩ := hends endsMantissa_nil
        rfl
      | mark hc hsign' hds =>
        obtain ⟨rfl, rfl, rfl⟩ := hends (Exponent.endsMantissa hc _)
        rw [takeExponent_mark hc hsign' hds, List.takeWhile_nil, List.append_nil]

theorem scan_writes {text : List Char} {n : Numeral} (h : Writes text n) :
    scan text = some (n, []) := by
  obtain ⟨m, rest, hscan, hle, hsame⟩ := scan_append h []
  rw [List.append_nil, hsame rfl, List.eq_nil_of_length_eq_zero (Nat.le_zero.mp hle)] at hscan
  exact hscan

/-- A text is read as a whole exactly if it has the form of a numeral. -/
theorem ofText?_eq_some_iff {text : List Char} {n : Numeral} :
    ofText? text = some n ↔ Writes text n := by
  constructor
  · intro h
    unfold ofText? at h
    split at h
    · next m hscan =>
      cases h
      obtain ⟨numeral, hwrites, htext⟩ := scan_sound hscan
      rw [List.append_nil] at htext
      exact htext ▸ hwrites
    · cases h
  · intro h
    rw [ofText?, scan_writes h]

/-! ## The longest prefix -/

/-- A prefix of a text that is a numeral, as long as none that is one is longer. -/
structure LongestPrefix (text numeral : List Char) : Prop where
  is_numeral : Is numeral
  is_prefix : numeral <+: text
  longest : ∀ other, Is other → other <+: text → other.length ≤ numeral.length

/-- Scanning divides a text behind its longest prefix that is a numeral, and gives what the prefix
writes. -/
theorem scan_eq_some {cs rest : List Char} {n : Numeral} (h : scan cs = some (n, rest)) :
    ∃ text, LongestPrefix cs text ∧ ofText? text = some n ∧ cs = text ++ rest := by
  obtain ⟨text, hwrites, rfl⟩ := scan_sound h
  refine ⟨text, ⟨⟨n, hwrites⟩, List.prefix_append _ _, ?_⟩, ofText?_eq_some_iff.mpr hwrites, rfl⟩
  rintro other ⟨m, hother⟩ ⟨tail, htail⟩
  obtain ⟨m', rest', hscan, hle, -⟩ := scan_append hother tail
  rw [htail, h] at hscan
  cases hscan
  have hlength := congrArg List.length htail
  rw [List.length_append, List.length_append] at hlength
  omega

theorem scan_eq_none_iff {cs : List Char} :
    scan cs = none ↔ ∀ text, Is text → ¬text <+: cs := by
  constructor
  · rintro h text ⟨n, hwrites⟩ ⟨tail, rfl⟩
    obtain ⟨m, rest, hscan, -⟩ := scan_append hwrites tail
    rw [h] at hscan
    cases hscan
  · intro h
    cases hscan : scan cs with
    | none => rfl
    | some found =>
      obtain ⟨n, rest⟩ := found
      obtain ⟨text, hlongest, -⟩ := scan_eq_some hscan
      exact absurd hlongest.is_prefix (h text hlongest.is_numeral)

theorem Is.ne_nil {text : List Char} (h : Is text) : text ≠ [] := by
  rintro rfl
  obtain ⟨n, hwrites⟩ := h
  have hscan := scan_writes hwrites
  cases hscan

theorem prefixLength_of_scan {text rest : List Char} {n : Numeral}
    (h : scan (text ++ rest) = some (n, rest)) : prefixLength (text ++ rest) = text.length := by
  rw [prefixLength, h]
  simp

theorem prefixLength_eq_zero_iff {cs : List Char} :
    prefixLength cs = 0 ↔ ∀ text, Is text → ¬text <+: cs := by
  rw [← scan_eq_none_iff]
  cases hscan : scan cs with
  | none =>
    rw [prefixLength, hscan]
    exact ⟨fun _ => rfl, fun _ => rfl⟩
  | some found =>
    obtain ⟨n, rest⟩ := found
    obtain ⟨text, hlongest, -, rfl⟩ := scan_eq_some hscan
    rw [prefixLength_of_scan hscan, List.length_eq_zero_iff]
    exact ⟨fun hnil => absurd hnil hlongest.is_numeral.ne_nil, nofun⟩

/-- Unless it is zero, the length is that of the longest prefix that is a numeral. -/
theorem exists_longestPrefix {cs : List Char} (h : 0 < prefixLength cs) :
    ∃ text, LongestPrefix cs text ∧ text.length = prefixLength cs := by
  cases hscan : scan cs with
  | none =>
    rw [prefixLength, hscan] at h
    cases h
  | some found =>
    obtain ⟨n, rest⟩ := found
    obtain ⟨text, hlongest, -, rfl⟩ := scan_eq_some hscan
    exact ⟨text, hlongest, (prefixLength_of_scan hscan).symm⟩

/-! ## Bytes -/

theorem isDigit_iff {c : Char} : isDigit c = true ↔ 48 ≤ c.toNat ∧ c.toNat ≤ 57 := by
  rw [isDigit, Bool.and_eq_true, decide_eq_true_iff, decide_eq_true_iff]
  exact Iff.rfl

/-- The characters of numerals. -/
def IsPart (c : Char) : Prop := isDigit c = true ∨ c ∈ ['+', '-', '.', 'e', 'E']

theorem Is.parts {text : List Char} (h : Is text) : ∀ c ∈ text, IsPart c := by
  have hsign : ∀ {sign : List Char} {negative : Bool}, Sign sign negative →
      ∀ c ∈ sign, IsPart c := by
    intro sign negative h
    cases h with
    | absent => exact nofun
    | plus => exact List.forall_mem_singleton.mpr (.inr (by decide))
    | minus => exact List.forall_mem_singleton.mpr (.inr (by decide))
  have hdigits : ∀ {ds : List Char}, (∀ d ∈ ds, isDigit d = true) → ∀ c ∈ ds, IsPart c :=
    fun h c hc => .inl (h c hc)
  have hpoint : ∀ {ds fs : List Char}, (∀ c ∈ ds, IsPart c) → (∀ c ∈ fs, IsPart c) →
      ∀ c ∈ ds ++ '.' :: fs, IsPart c := fun hds hfs =>
    List.forall_mem_append.mpr ⟨hds, List.forall_mem_cons.mpr ⟨.inr (by decide), hfs⟩⟩
  obtain ⟨n, hwrites⟩ := h
  cases hwrites with
  | parts hs hmantissa hexponent =>
    refine List.forall_mem_append.mpr ⟨hsign hs, List.forall_mem_append.mpr ⟨?_, ?_⟩⟩
    · cases hmantissa with
      | whole hds => exact hdigits hds.2
      | point hds hfs => exact hpoint (hdigits hds.2) (hdigits hfs)
      | fraction hfs => exact @hpoint [] _ nofun (hdigits hfs.2)
    · cases hexponent with
      | absent => exact nofun
      | mark hc hs' hds =>
        refine List.forall_mem_cons.mpr ⟨.inr ?_, List.forall_mem_append.mpr ⟨hsign hs', ?_⟩⟩
        · rcases hc with rfl | rfl <;> decide
        · exact hdigits hds.2

theorem IsPart.ascii {c : Char} (h : IsPart c) : c.toNat < 0x80 := by
  rcases h with h | h
  · exact Nat.lt_of_le_of_lt (isDigit_iff.mp h).2 (by decide)
  · simp only [List.mem_cons, List.not_mem_nil, or_false] at h
    rcases h with rfl | rfl | rfl | rfl | rfl <;> decide

open Text (Utf8.encode)

theorem encode_length {text : List Char} (h : ∀ c ∈ text, IsPart c) :
    (Utf8.encode text).length = text.length := by
  -- Each character has one byte.
  induction text with
  | nil => rfl
  | cons c cs ih =>
    obtain ⟨hc, hcs⟩ := List.forall_mem_cons.mp h
    have hbyte : Text.encodingOf c.toNat = [c.toNat] := by
      rw [Text.encodingOf, if_pos hc.ascii]
    show ((Text.encodingOf c.toNat).map UInt8.ofNat ++ Utf8.encode cs).length = cs.length + 1
    rw [hbyte, List.length_append, ih hcs]
    exact Nat.add_comm _ _

end Numeral
end Number

namespace Text.Utf8

/-- Bytes of a text that begin with those of another one are bytes of a text that begins with it. -/
theorem encode_prefix_iff {text other : List Char} :
    encode other <+: encode text ↔ other <+: text := by
  constructor
  · rintro ⟨rest, hrest⟩
    have hread := decode_encode text
    rw [← hrest, decode_encode_append] at hread
    exact ⟨_, hread⟩
  · rintro ⟨rest, rfl⟩
    exact ⟨encode rest, (encode_append other rest).symm⟩

end Text.Utf8
end Awk
