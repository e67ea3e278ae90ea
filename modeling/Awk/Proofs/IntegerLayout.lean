import Awk.Proofs.DoubleValues
import Awk.Proofs.FormatItems
import Awk.Value

/-!
# The layout of integers and texts

A directive for an integer writes a mark, which is a sign or the prefix of a radix, and digits; a
directive for a text writes characters.  Both are filled up to the width.  `conversions_laid_out`
says what stands where, and that a reader who ignores blanks and the prefix of a radix finds the
integer again, whatever flags, width and precision are asked for.
-/

namespace Awk
namespace Format

open Number (zeroPad)

/-! ## Reading an integer -/

/-- A number in the digits of an alphabet, behind what was read before it. -/
def readDigits? (alphabet : List Char) (before : Nat) (cs : List Char) : Option Nat :=
  cs.foldlM (fun n c => (alphabet.idxOf? c).map (alphabet.length * n + ·)) before

def skipPrefix : List Char → List Char
  | '0' :: 'x' :: cs => cs
  | '0' :: 'X' :: cs => cs
  | cs => cs

/-- One digit at least. -/
def readNat? (alphabet cs : List Char) : Option Nat :=
  if cs.isEmpty then none else readDigits? alphabet 0 cs

/-- The integer that a text writes, blanks and the prefix of a radix aside. -/
def readInteger? (alphabet text : List Char) : Option Int :=
  match skipPrefix (text.filter (· ≠ ' ')) with
  | '-' :: cs => (readNat? alphabet cs).map fun n : Nat => -(n : Int)
  | '+' :: cs => (readNat? alphabet cs).map Int.ofNat
  | cs => (readNat? alphabet cs).map Int.ofNat

/-! ## What a directive asks for -/

/-- The digits of an integer directive. -/
def alphabet? : Char → Option (List Char)
  | 'd' | 'i' | 'u' => some "0123456789".toList
  | 'o' => some "01234567".toList
  | 'x' => some "0123456789abcdef".toList
  | 'X' => some "0123456789ABCDEF".toList
  | _ => none

def isSigned (letter : Char) : Bool := letter == 'd' || letter == 'i'

/-- The integers of 64 bits that a letter can write. -/
def Fits (letter : Char) (n : Int) : Prop :=
  -0x8000000000000000 ≤ n ∧ n < if isSigned letter then 0x8000000000000000 else 0x10000000000000000

/-- Without a sign a negative integer is written by its complement. -/
def written (letter : Char) (n : Int) : Int :=
  if isSigned letter then n else n % 0x10000000000000000

/-- What stands in front of the digits. -/
def integerMark (l : Layout) (letter : Char) (n : Int) (digits : List Char) : List Char :=
  match letter with
  | 'd' | 'i' => if n < 0 then ['-'] else if l.plus then ['+'] else if l.space then [' '] else []
  | 'o' => if l.alternate ∧ digits.head? ≠ some '0' then ['0'] else []
  | 'x' => if l.alternate ∧ n ≠ 0 then ['0', 'x'] else []
  | 'X' => if l.alternate ∧ n ≠ 0 then ['0', 'X'] else []
  | _ => []

def blanks (n : Nat) : List Char := List.replicate n ' '

def zeros (n : Nat) : List Char := List.replicate n '0'

namespace Layout

/-- How an integer is laid out. -/
structure Shows (l : Layout) (alphabet : List Char) (n : Int) (mark digits text : List Char) :
    Prop where
  length : text.length = max l.width (mark.length + digits.length)
  arranged : text =
    if l.left then mark ++ digits ++ blanks (l.width - (mark.length + digits.length))
    else if l.zero ∧ l.precision = none then
      mark ++ zeros (l.width - (mark.length + digits.length)) ++ digits
    else blanks (l.width - (mark.length + digits.length)) ++ mark ++ digits
  all_digits : ∀ c ∈ digits, c ∈ alphabet
  enough : ∀ p, l.precision = some p → p ≤ digits.length
  eq_nil_iff : digits = [] ↔ l.precision = some 0 ∧ n = 0
  /-- A zero leads where the precision asks for it, or where there is no other digit. -/
  leading : digits.head? = some '0' → digits.length = max (l.precision.getD 0) 1
  reads : digits ≠ [] ∨ mark = ['0'] → readInteger? alphabet text = some n

end Layout

/-- A number that is written in the directive. -/
def Extent.number : Extent → Option Nat
  | digits ds => some (countOf ds)
  | _ => none

/-- What an opening without stars asks for. -/
def Opening.layout (o : Opening) : Layout where
  left := o.flags.contains '-'
  plus := o.flags.contains '+'
  space := o.flags.contains ' '
  alternate := o.flags.contains '#'
  zero := o.flags.contains '0'
  width := o.width.number.getD 0
  precision := o.precision.number

theorem settle_written {o : Opening} (h : o.stars = 0) (args : List Value) :
    (settle o.spec args).1 = o.layout := by
  unfold Opening.stars at h
  cases hwidth : o.width <;> cases hprecision : o.precision
  all_goals simp only [hwidth, hprecision, Extent.stars] at h
  all_goals first
    | exact absurd h (by decide)
    | simp [settle, Opening.spec, Opening.layout, Extent.count, Extent.number, hwidth, hprecision]

/-! ## Digits -/

theorem readDigits?_append (alphabet cs ds : List Char) (before : Nat) :
    readDigits? alphabet before (cs ++ ds) =
      (readDigits? alphabet before cs).bind fun n => readDigits? alphabet n ds :=
  List.foldlM_append

/-- What is read is in the alphabet. -/
theorem mem_of_readDigits? {alphabet cs : List Char} {before n : Nat}
    (h : readDigits? alphabet before cs = some n) : ∀ c ∈ cs, c ∈ alphabet := by
  induction cs generalizing before with
  | nil => exact nofun
  | cons c cs ih =>
    rw [readDigits?, List.foldlM_cons] at h
    obtain ⟨m, hm, hrest⟩ := Option.bind_eq_some_iff.mp h
    obtain ⟨i, hi, -⟩ := Option.map_eq_some_iff.mp hm
    have hc : c ∈ alphabet := by
      rw [← List.isSome_idxOf?, hi]
      rfl
    exact List.forall_mem_cons.mpr ⟨hc, ih hrest⟩

/-- Zeros in front do not count. -/
theorem readDigits?_zeros {alphabet : List Char} (hzero : alphabet.idxOf? '0' = some 0) (k : Nat)
    (cs : List Char) : readDigits? alphabet 0 (zeros k ++ cs) = readDigits? alphabet 0 cs := by
  induction k with
  | zero => rfl
  | succ k ih =>
    rw [zeros, List.replicate_succ, List.cons_append, readDigits?, List.foldlM_cons, hzero]
    exact ih

namespace Layout.Radix

def alphabet : Radix → List Char
  | octal => "01234567".toList
  | decimal => "0123456789".toList
  | lowerHex => "0123456789abcdef".toList
  | upperHex => "0123456789ABCDEF".toList

/-- The digit of a value. -/
def digit : Radix → Nat → Char
  | upperHex, d => d.digitChar.toUpper
  | _, d => d.digitChar

variable (r : Radix)

theorem one_lt : 1 < r.alphabet.length := by cases r <;> decide

theorem idxOf?_digit : ∀ d < r.alphabet.length, r.alphabet.idxOf? (r.digit d) = some d := by
  cases r <;> decide

theorem idxOf?_zero : r.alphabet.idxOf? '0' = some 0 := by cases r <;> decide

/-- Blanks, signs and the letters of a prefix are no digits. -/
theorem not_mem_alphabet {c : Char} (h : c ∈ [' ', '-', '+', 'x', 'X']) : c ∉ r.alphabet := by
  have hnone : ([' ', '-', '+', 'x', 'X'].all fun c => !r.alphabet.contains c) = true := by
    cases r <;> rfl
  have hc := List.all_eq_true.mp hnone c h
  simpa using hc

theorem digits_small {n : Nat} (h : n < r.alphabet.length) : r.digits n = [r.digit n] := by
  cases r
  case upperHex =>
    have hdigits : Nat.toDigits 16 n = [n.digitChar] := Nat.toDigits_of_lt_base h
    rw [digits, hdigits]
    rfl
  all_goals exact Nat.toDigits_of_lt_base h

theorem digits_large {n : Nat} (h : r.alphabet.length ≤ n) :
    r.digits n = r.digits (n / r.alphabet.length) ++ [r.digit (n % r.alphabet.length)] := by
  cases r
  case upperHex =>
    have hdigits : Nat.toDigits 16 n = Nat.toDigits 16 (n / 16) ++ [(n % 16).digitChar] :=
      Nat.toDigits_of_base_le (by decide) h
    rw [digits, hdigits, List.map_append]
    rfl
  all_goals exact Nat.toDigits_of_base_le (by decide) h

theorem digits_ne_nil (n : Nat) : r.digits n ≠ [] := by
  by_cases h : n < r.alphabet.length
  · rw [r.digits_small h]
    exact List.cons_ne_nil _ _
  · rw [r.digits_large (Nat.le_of_not_lt h)]
    exact List.append_ne_nil_of_right_ne_nil _ (List.cons_ne_nil _ _)

/-- Digits read back as the number they write. -/
theorem readDigits?_digits (n : Nat) : readDigits? r.alphabet 0 (r.digits n) = some n := by
  have hone : ∀ before, ∀ d < r.alphabet.length,
      readDigits? r.alphabet before [r.digit d] = some (r.alphabet.length * before + d) := by
    intro before d hd
    rw [readDigits?, List.foldlM_cons, r.idxOf?_digit d hd]
    rfl
  induction n using Nat.strongRecOn with
  | _ n ih =>
    by_cases h : n < r.alphabet.length
    · rw [r.digits_small h, hone 0 n h, Nat.mul_zero, Nat.zero_add]
    · have hle := Nat.le_of_not_lt h
      have hbase : 0 < r.alphabet.length := Nat.lt_of_succ_lt r.one_lt
      have hlt := Nat.div_lt_self (Nat.lt_of_lt_of_le hbase hle) r.one_lt
      rw [r.digits_large hle, readDigits?_append, ih _ hlt, Option.bind_some,
        hone _ _ (Nat.mod_lt _ hbase), Nat.div_add_mod]

/-- Only zero has a zero in front. -/
theorem eq_zero_of_head? {n : Nat} (h : (r.digits n).head? = some '0') : n = 0 := by
  induction n using Nat.strongRecOn with
  | _ n ih =>
    by_cases hsmall : n < r.alphabet.length
    · rw [r.digits_small hsmall, List.head?_cons, Option.some.injEq] at h
      have hvalue := r.idxOf?_digit n hsmall
      rw [h, r.idxOf?_zero] at hvalue
      exact (Option.some.inj hvalue).symm
    · have hle := Nat.le_of_not_lt hsmall
      have hbase : 0 < r.alphabet.length := Nat.lt_of_succ_lt r.one_lt
      have hlt := Nat.div_lt_self (Nat.lt_of_lt_of_le hbase hle) r.one_lt
      rw [r.digits_large hle, List.head?_append_of_ne_nil _ (r.digits_ne_nil _)] at h
      exact absurd (ih _ hlt h) (Nat.div_pos hle hbase).ne'

theorem digits_zero : r.digits 0 = ['0'] := by cases r <;> rfl

end Layout.Radix

/-! ## Reading back -/

section

variable {r : Layout.Radix} {n : Nat} {ds : List Char}

/-- Digits that a radix reads as a number. -/
def Denotes (r : Layout.Radix) (n : Nat) (ds : List Char) : Prop :=
  readDigits? r.alphabet 0 ds = some n

theorem denotes_digits (r : Layout.Radix) (n : Nat) : Denotes r n (r.digits n) :=
  r.readDigits?_digits n

theorem Denotes.zeros (h : Denotes r n ds) (k : Nat) : Denotes r n (zeros k ++ ds) :=
  (readDigits?_zeros r.idxOf?_zero k ds).trans h

theorem Denotes.ne (h : Denotes r n ds) {c d : Char} (hc : c ∈ ds)
    (hd : d ∈ [' ', '-', '+', 'x', 'X']) : c ≠ d := by
  rintro rfl
  exact r.not_mem_alphabet hd (mem_of_readDigits? h c hc)

theorem Denotes.filter (h : Denotes r n ds) : ds.filter (· ≠ ' ') = ds :=
  List.filter_eq_self.mpr fun c hc => decide_eq_true (h.ne hc (by decide))

theorem Denotes.readNat? (h : Denotes r n ds) (hne : ds ≠ []) :
    readNat? r.alphabet ds = some n := by
  rw [Format.readNat?, if_neg (by simpa using hne)]
  exact h

theorem Denotes.skipPrefix (h : Denotes r n ds) : skipPrefix ds = ds := by
  unfold Format.skipPrefix
  split
  · exact absurd rfl (h.ne (.tail _ (.head _)) (by decide))
  · exact absurd rfl (h.ne (.tail _ (.head _)) (by decide))
  · rfl

/-- Digits alone are a number without a sign. -/
theorem readInteger?_of_skipPrefix {text : List Char} (h : Denotes r n ds) (hne : ds ≠ [])
    (htext : Format.skipPrefix (text.filter (· ≠ ' ')) = ds) :
    readInteger? r.alphabet text = some n := by
  rw [readInteger?, htext]
  split
  · exact absurd rfl (h.ne (.head _) (by decide))
  · exact absurd rfl (h.ne (.head _) (by decide))
  · rw [h.readNat? hne]
    rfl

/-- A mark that turns a number into an integer. -/
def Marks (r : Layout.Radix) (n : Nat) (mark : List Char) (value : Int) : Prop :=
  ∀ ds, Denotes r n ds → ds ≠ [] ∨ mark = ['0'] → readInteger? r.alphabet (mark ++ ds) = some value

theorem marks_nothing : Marks r n [] n := by
  intro ds h hne
  have hne' : ds ≠ [] := hne.resolve_right nofun
  exact readInteger?_of_skipPrefix h hne' (by rw [List.nil_append, h.filter, h.skipPrefix])

theorem marks_blank : Marks r n [' '] n := by
  intro ds h hne
  have hne' : ds ≠ [] := hne.resolve_right (by decide)
  refine readInteger?_of_skipPrefix h hne' ?_
  have hfilter : (([' '] ++ ds).filter (· ≠ ' ')) = ds.filter (· ≠ ' ') := rfl
  rw [hfilter, h.filter, h.skipPrefix]

theorem marks_zero : Marks r n ['0'] n := by
  intro ds h _
  have hzero : Denotes r n (['0'] ++ ds) := h.zeros 1
  exact readInteger?_of_skipPrefix hzero (List.cons_ne_nil _ _)
    (by rw [hzero.filter, hzero.skipPrefix])

theorem filter_sign (h : Denotes r n ds) {sign : Char} (hsign : sign ≠ ' ') (hzero : sign ≠ '0') :
    skipPrefix ((sign :: ds).filter (· ≠ ' ')) = sign :: ds := by
  have hfilter : (sign :: ds).filter (· ≠ ' ') = sign :: ds := by
    rw [List.filter_cons, if_pos (decide_eq_true hsign), h.filter]
  rw [hfilter]
  unfold skipPrefix
  split
  · rename_i heq
    exact absurd (List.cons.inj heq).1 hzero
  · rename_i heq
    exact absurd (List.cons.inj heq).1 hzero
  · rfl

theorem marks_plus : Marks r n ['+'] n := by
  intro ds h hne
  have hne' : ds ≠ [] := hne.resolve_right (by decide)
  rw [readInteger?, List.singleton_append, filter_sign h (by decide) (by decide)]
  show (Format.readNat? r.alphabet ds).map Int.ofNat = _
  rw [h.readNat? hne']
  rfl

theorem marks_minus : Marks r n ['-'] (-n) := by
  intro ds h hne
  have hne' : ds ≠ [] := hne.resolve_right (by decide)
  rw [readInteger?, List.singleton_append, filter_sign h (by decide) (by decide)]
  show (Format.readNat? r.alphabet ds).map (fun n : Nat => -(n : Int)) = _
  rw [h.readNat? hne']
  rfl

theorem marks_prefix {x : Char} (hx : x = 'x' ∨ x = 'X') : Marks r n ['0', x] n := by
  intro ds h hne
  have hne' : ds ≠ [] := hne.resolve_right (by simp)
  refine readInteger?_of_skipPrefix h hne' ?_
  have hfilter : ((['0', x] ++ ds).filter (· ≠ ' ')) = '0' :: x :: ds.filter (· ≠ ' ') := by
    rcases hx with rfl | rfl <;> rfl
  rw [hfilter, h.filter]
  rcases hx with rfl | rfl <;> rfl

end

/-! ## Padding -/

namespace Layout

variable (l : Layout)

theorem pad_length (mark body : List Char) (numeric : Bool) :
    (l.pad mark body numeric).length = max l.width (mark.length + body.length) := by
  rw [pad]
  split
  · simp only [List.length_append, List.length_replicate]
    omega
  · split
    all_goals
      simp only [List.length_append, List.length_replicate]
      omega

/-- Without its blanks a padded text has zeros between mark and body at most. -/
theorem filter_pad (mark body : List Char) (numeric : Bool) :
    ∃ k, (l.pad mark body numeric).filter (· ≠ ' ') =
      (mark ++ (zeros k ++ body)).filter (· ≠ ' ') := by
  rw [pad]
  split
  · exact ⟨0, by simp [zeros]⟩
  · split
    · exact ⟨_, by rw [List.append_assoc, zeros]⟩
    · exact ⟨0, by simp [zeros]⟩

/-- Without digits there is a zero at precision zero; else zeros fill up to the precision. -/
theorem padDigits_cases (n : Nat) (ds : List Char) :
    ((l.precision = some 0 ∧ n = 0) ∧ l.padDigits n ds = []) ∨
      ¬(l.precision = some 0 ∧ n = 0) ∧
        l.padDigits n ds = zeros (l.precision.getD 0 - ds.length) ++ ds := by
  rw [padDigits]
  cases hprecision : l.precision with
  | none => exact .inr ⟨nofun, (by simp [zeros])⟩
  | some p =>
    dsimp only
    by_cases hnone : p = 0 ∧ n = 0
    · rw [if_pos hnone]
      exact .inl ⟨⟨congrArg some hnone.1, hnone.2⟩, rfl⟩
    · rw [if_neg hnone]
      exact .inr ⟨fun h => hnone ⟨Option.some.inj h.1, h.2⟩, rfl⟩

theorem denotes_padDigits (r : Radix) (n : Nat) : Denotes r n (l.padDigits n (r.digits n)) := by
  obtain ⟨⟨-, rfl⟩, hds⟩ | ⟨-, hds⟩ := l.padDigits_cases n (r.digits n)
  · rw [hds]
    rfl
  · rw [hds]
    exact (denotes_digits r n).zeros _

theorem padDigits_eq_nil_iff (r : Radix) (n : Nat) :
    l.padDigits n (r.digits n) = [] ↔ l.precision = some 0 ∧ n = 0 := by
  obtain ⟨hnone, hds⟩ | ⟨hsome, hds⟩ := l.padDigits_cases n (r.digits n)
  · exact iff_of_true hds hnone
  · refine iff_of_false ?_ hsome
    rw [hds]
    exact List.append_ne_nil_of_right_ne_nil _ (r.digits_ne_nil n)

theorem precision_le_padDigits (r : Radix) (n p : Nat) (h : l.precision = some p) :
    p ≤ (l.padDigits n (r.digits n)).length := by
  obtain ⟨⟨hzero, -⟩, -⟩ | ⟨-, hds⟩ := l.padDigits_cases n (r.digits n)
  · rw [h] at hzero
    cases hzero
    exact Nat.zero_le _
  · rw [hds, h, List.length_append, zeros, List.length_replicate, Option.getD_some]
    omega

theorem padDigits_leading (r : Radix) (n : Nat)
    (h : (l.padDigits n (r.digits n)).head? = some '0') :
    (l.padDigits n (r.digits n)).length = max (l.precision.getD 0) 1 := by
  have hpos : 0 < (r.digits n).length := List.length_pos_of_ne_nil (r.digits_ne_nil n)
  obtain ⟨-, hds⟩ | ⟨-, hds⟩ := l.padDigits_cases n (r.digits n)
  · rw [hds] at h
    cases h
  · rw [hds, List.length_append, zeros, List.length_replicate]
    by_cases hfill : l.precision.getD 0 - (r.digits n).length = 0
    · rw [hds, hfill] at h
      have hzero : n = 0 := r.eq_zero_of_head? h
      rw [hzero, r.digits_zero] at hfill ⊢
      rw [List.length_singleton] at hfill ⊢
      omega
    · omega

/-- A mark and digits, padded. -/
theorem shows_pad {r : Radix} {n : Nat} {mark : List Char} {value : Int}
    (hmark : Marks r n mark value) (hvalue : value = 0 ↔ n = 0) :
    l.Shows r.alphabet value mark (l.padDigits n (r.digits n))
      (l.pad mark (l.padDigits n (r.digits n)) l.precision.isNone) where
  length := l.pad_length _ _ _
  arranged := by
    rw [pad]
    simp only [Bool.and_eq_true, Option.isNone_iff_eq_none, blanks, zeros]
  all_digits := mem_of_readDigits? (l.denotes_padDigits r n)
  enough := l.precision_le_padDigits r n
  eq_nil_iff := by rw [l.padDigits_eq_nil_iff, hvalue]
  leading := l.padDigits_leading r n
  reads := by
    intro hne
    obtain ⟨k, hfilter⟩ := l.filter_pad mark (l.padDigits n (r.digits n)) l.precision.isNone
    rw [readInteger?, hfilter, ← readInteger?]
    refine hmark _ ((l.denotes_padDigits r n).zeros k) ?_
    exact hne.imp_left fun h => List.append_ne_nil_of_right_ne_nil _ h

end Layout

/-! ## The integer of a double -/

section

variable {x : Double} {d : Number.Dyadic}

theorem toInt64_of_view (h : x.view = .finite d) (hlow : -0x8000000000000000 ≤ d.truncate)
    (hhigh : d.truncate < 0x8000000000000000) : x.toInt64 = d.truncate := by
  rw [Double.toInt64, Double.toIntWithin, h]
  dsimp only
  omega

theorem toNat64_of_view (h : x.view = .finite d) (hlow : 0 ≤ d.truncate)
    (hhigh : d.truncate < 0x10000000000000000) : (x.toNat64 : Int) = d.truncate := by
  rw [Double.toNat64, Double.toIntWithin, h]
  dsimp only
  omega

theorem lt_zero_iff (h : x.isNaN = false) : x < 0.0 ↔ x.units < 0 := Double.lt_iff_units h rfl

/-- A negative number is written by its complement, and zero is not negative. -/
theorem unsignedValue_of_view (h : x.view = .finite d) (hlow : -0x8000000000000000 ≤ d.truncate)
    (hhigh : d.truncate < 0x10000000000000000) :
    (Layout.unsignedValue x : Int) = d.truncate % 0x10000000000000000 := by
  have hnumber := Double.isNaN_of_isFinite (Double.isFinite_iff_view.mpr ⟨d, h⟩)
  have hpos : (0 : Int) ≤ Double.unitsInOne := Int.natCast_nonneg _
  rw [Layout.unsignedValue]
  split
  case isTrue hneg =>
    have htruncate : 0 ≤ -d.truncate := by
      have hunits := (lt_zero_iff hnumber).mp hneg
      rw [Double.truncate_of_view h, ← Int.neg_tdiv]
      exact Int.tdiv_nonneg (by omega) hpos
    rw [toInt64_of_view h hlow (by omega)]
    omega
  case isFalse hneg =>
    have htruncate : 0 ≤ d.truncate := by
      rw [Double.truncate_of_view h]
      exact Int.tdiv_nonneg (not_lt.mp (mt (lt_zero_iff hnumber).mpr hneg)) hpos
    rw [toNat64_of_view h htruncate hhigh]
    omega

end

/-! ## Integers -/

namespace Layout

variable (l : Layout) {x : Double} {d : Number.Dyadic}

theorem marks_sign (r : Radix) (n : Int) : Marks r n.natAbs (l.sign (n < 0)) n := by
  rw [sign]
  by_cases hneg : n < 0
  · rw [decide_eq_true hneg, if_pos rfl]
    have hminus := marks_minus (r := r) (n := n.natAbs)
    rwa [show -(n.natAbs : Int) = n by omega] at hminus
  · have hplain : (n.natAbs : Int) = n := by omega
    rw [decide_eq_false hneg, if_neg Bool.false_ne_true, ← hplain]
    simp only [Int.natAbs_natCast]
    split
    · exact marks_plus
    · split
      · exact marks_blank
      · exact marks_nothing

theorem marks_radix (r : Radix) (n : Nat) (digits : List Char) :
    Marks r n (if l.alternate then r.mark n digits else []) n := by
  split
  · cases r
    · show Marks _ n (if digits.head? = some '0' then [] else ['0']) n
      split
      · exact marks_nothing
      · exact marks_zero
    · exact marks_nothing
    · show Marks _ n (if n = 0 then [] else ['0', 'x']) n
      split
      · exact marks_nothing
      · exact marks_prefix (.inl rfl)
    · show Marks _ n (if n = 0 then [] else ['0', 'X']) n
      split
      · exact marks_nothing
      · exact marks_prefix (.inr rfl)
  · exact marks_nothing

theorem signedInteger_shows (h : x.view = .finite d) (hlow : -0x8000000000000000 ≤ d.truncate)
    (hhigh : d.truncate < 0x8000000000000000) :
    ∃ digits, l.Shows Radix.decimal.alphabet d.truncate (l.sign (d.truncate < 0)) digits
      (l.signedInteger x) := by
  have hshows := l.shows_pad (l.marks_sign .decimal d.truncate) Int.natAbs_eq_zero.symm
  rw [signedInteger, if_pos (Double.isFinite_iff_view.mpr ⟨d, h⟩), toInt64_of_view h hlow hhigh]
  exact ⟨_, hshows⟩

theorem unsignedInteger_shows (r : Radix) (h : x.view = .finite d)
    (hlow : -0x8000000000000000 ≤ d.truncate) (hhigh : d.truncate < 0x10000000000000000) :
    ∃ (n : Nat) (digits : List Char), (n : Int) = d.truncate % 0x10000000000000000 ∧
      l.Shows r.alphabet n (if l.alternate then r.mark n digits else []) digits
        (l.unsignedInteger r x) := by
  have hvalue := unsignedValue_of_view h hlow hhigh
  have hshows := l.shows_pad (l.marks_radix r (unsignedValue x)
    (l.padDigits (unsignedValue x) (r.digits (unsignedValue x)))) Int.natCast_eq_zero
  rw [unsignedInteger, if_pos (Double.isFinite_iff_view.mpr ⟨d, h⟩)]
  exact ⟨_, _, hvalue, hshows⟩

end Layout

/-- Integer letters convert with a sign, or without one in a radix. -/
theorem conversion?_of_alphabet? {letter : Char} {alphabet : List Char}
    (h : alphabet? letter = some alphabet) :
    (isSigned letter = true ∧ conversion? letter = some .signed ∧
        alphabet = Layout.Radix.decimal.alphabet ∧
        ∀ (l : Layout) (n : Int) (digits : List Char),
          integerMark l letter n digits = l.sign (n < 0)) ∨
      ∃ r : Layout.Radix, isSigned letter = false ∧ conversion? letter = some (.unsigned r) ∧
        alphabet = r.alphabet ∧
        ∀ (l : Layout) (n : Nat) (digits : List Char),
          integerMark l letter n digits = if l.alternate then r.mark n digits else [] := by
  unfold alphabet? at h
  split at h
  case h_1 | h_2 =>
    cases h
    refine .inl ⟨rfl, rfl, rfl, fun l n digits => ?_⟩
    simp [integerMark, Layout.sign]
  case h_3 =>
    cases h
    refine .inr ⟨.decimal, rfl, rfl, rfl, fun l n digits => ?_⟩
    simp [integerMark, Layout.Radix.mark]
  case h_4 =>
    cases h
    refine .inr ⟨.octal, rfl, rfl, rfl, fun l n digits => ?_⟩
    cases hmark : l.alternate <;> simp [integerMark, Layout.Radix.mark, hmark]
  case h_5 =>
    cases h
    refine .inr ⟨.lowerHex, rfl, rfl, rfl, fun l n digits => ?_⟩
    cases hmark : l.alternate <;> simp [integerMark, Layout.Radix.mark, hmark]
  case h_6 =>
    cases h
    refine .inr ⟨.upperHex, rfl, rfl, rfl, fun l n digits => ?_⟩
    cases hmark : l.alternate <;> simp [integerMark, Layout.Radix.mark, hmark]
  case h_7 => cases h

theorem convert_shows (l : Layout) {letter : Char} {alphabet : List Char}
    (halphabet : alphabet? letter = some alphabet) {v : Value} {x : Number.Dyadic}
    (hview : v.toNumber.view = .finite x) (hfits : Fits letter x.truncate)
    (numberText : Double → List Char) :
    ∃ c, conversion? letter = some c ∧ ∃ digits,
      l.Shows alphabet (written letter x.truncate)
        (integerMark l letter (written letter x.truncate) digits) digits
        (convert numberText l c v) := by
  obtain ⟨hlow, hhigh⟩ := hfits
  rcases conversion?_of_alphabet? halphabet with ⟨hsigned, hconversion, rfl, hmark⟩ |
    ⟨r, hsigned, hconversion, rfl, hmark⟩
  · rw [hsigned] at hhigh
    obtain ⟨digits, hshows⟩ := l.signedInteger_shows hview hlow hhigh
    refine ⟨_, hconversion, digits, ?_⟩
    rw [written, hsigned, if_pos rfl, hmark]
    exact hshows
  · rw [hsigned] at hhigh
    obtain ⟨n, digits, hn, hshows⟩ := l.unsignedInteger_shows r hview hlow hhigh
    refine ⟨_, hconversion, digits, ?_⟩
    rw [written, hsigned, if_neg Bool.false_ne_true, ← hn, hmark]
    exact hshows

/-! ## Texts -/

/-- The characters of a text that a precision leaves. -/
def Layout.shown (l : Layout) (cs : List Char) : List Char :=
  match l.precision with
  | none => cs
  | some p => cs.take p

theorem text_eq (l : Layout) (cs : List Char) :
    l.text cs =
      if l.left then l.shown cs ++ blanks (l.width - (l.shown cs).length)
      else blanks (l.width - (l.shown cs).length) ++ l.shown cs := by
  have hpad : l.text cs = l.pad [] (l.shown cs) false := by
    rw [Layout.text, Layout.shown]
    cases l.precision <;> rfl
  rw [hpad, Layout.pad]
  simp [blanks]

theorem argumentText_eq (numberFormat : String) (v : Value) :
    argumentText (numberChars numberFormat) v = (v.toText numberFormat).toList := by
  cases v <;> simp [argumentText, Value.toText, numberText]

theorem sprintf_directive {d : Directive} {args rest : List Value} {v : Value}
    (hargs : args.drop d.stars = v :: rest) {c : Conversion} (hc : conversion? d.letter = some c)
    (numberFormat : String) :
    (sprintf (String.ofList d.chars) args numberFormat).toList =
      convert (numberChars numberFormat) (settle d.spec args).1 c v := by
  rw [sprintf, String.toList_ofList, String.toList_ofList, render_directive,
    d.renderItem_known args hargs hc]

/-- Width, precision and flags are those that the directive is written with, where it has no stars;
a count that is written greater than `maxCount` is `maxCount`, and that memory ends before it is not
said.  A text is cut off at the precision and filled with blanks up to the width; that of a number
comes from the number format, which must not write it with `%s` in its turn.  An integer is a mark
and digits, filled up to the width with blanks, or with zeros between the two; there are as many
digits as the precision asks for, and none only for a zero at precision zero.  Without blanks and
the prefix of a radix they read back as the integer, or as its complement where there is no sign. -/
theorem conversions_laid_out (d : Directive) (args rest : List Value) (v : Value)
    (numberFormat : String) (hargs : args.drop d.stars = v :: rest) :
    let l := (settle d.spec args).1
    let text := (sprintf (String.ofList d.chars) args numberFormat).toList
    (d.stars = 0 → l = d.layout) ∧
    (d.letter = 's' → v.hasText numberFormat →
      let shown := l.shown (v.toText numberFormat).toList
      (text = if l.left then shown ++ blanks (l.width - shown.length)
        else blanks (l.width - shown.length) ++ shown) ∧
      text.length = max l.width shown.length) ∧
    ∀ alphabet, alphabet? d.letter = some alphabet →
      ∀ x, v.toNumber.view = .finite x → Fits d.letter x.truncate →
        ∃ digits, l.Shows alphabet (written d.letter x.truncate)
          (integerMark l d.letter (written d.letter x.truncate) digits) digits text := by
  refine ⟨fun h => settle_written h args, fun hletter _ => ?_,
    fun alphabet halphabet x hview hfits => ?_⟩
  · have hconversion : conversion? d.letter = some .text := by rw [hletter]; rfl
    rw [sprintf_directive hargs hconversion, convert, argumentText_eq, text_eq]
    refine ⟨rfl, ?_⟩
    split
    · rw [List.length_append, blanks, List.length_replicate]
      omega
    · rw [List.length_append, blanks, List.length_replicate]
      omega
  · obtain ⟨c, hconversion, digits, hshows⟩ := convert_shows (settle d.spec args).1 halphabet hview
      hfits (numberChars numberFormat)
    rw [sprintf_directive hargs hconversion]
    exact ⟨digits, hshows⟩

/-- Six characters, zeros among them. -/
def sixWithZeros : Directive where
  flags := ['0']
  width := .digits ['6']
  precision := .absent
  flags_all := List.forall_mem_singleton.mpr rfl
  width_digits := by
    rintro ds ⟨⟩
    exact ⟨⟨List.cons_ne_nil _ _, List.forall_mem_singleton.mpr rfl⟩, by decide⟩
  precision_digits := nofun
  letter := 'd'
  complete := by
    rintro (h | h)
    · exact absurd h (by decide)
    · exact absurd h (by decide)
  not_percent := fun _ => by decide

theorem minus_forty_two_laid_out :
    let args : List Value := [.num ⟨0xc045000000000000⟩]
    args.drop sixWithZeros.stars = .num ⟨0xc045000000000000⟩ :: [] ∧
      ∃ digits, sixWithZeros.layout.Shows "0123456789".toList (-42) ['-'] digits
        (sprintf (String.ofList sixWithZeros.chars) args defaultNumberFormat).toList := by
  refine ⟨rfl, ?_⟩
  obtain ⟨hlayout, -, hinteger⟩ := conversions_laid_out sixWithZeros
    [.num ⟨0xc045000000000000⟩] [] (.num ⟨0xc045000000000000⟩) defaultNumberFormat rfl
  rw [hlayout rfl] at hinteger
  exact hinteger _ rfl ⟨true, 0x15000000000000, -47⟩ rfl ⟨by decide, by decide⟩

end Format
end Awk
