import Awk.Input
import Awk.Proofs.Access
import Awk.Proofs.NumericTexts
import Awk.Proofs.WholeDoubles

/-!
# Values assigned before the first use

Text that is given to a variable from outside is read by a stricter reader than text at run time: an
integer of 64 bits, or else a finite double, and no blanks around either.  Where both readers see a
number it is the same one, because an integer of 64 bits is nowhere near the largest double; only a
minus in front of zero is lost on the way through an integer.
-/

namespace Awk

open Number (Numeral read? isDigit ofDigits readExact?)
open Number.Numeral (Writes)

/-! ## Zeros -/

namespace Double

/-- The same number, the sign of a zero aside. -/
def Alike (x y : Double) : Prop := x = y ∨ (x.isZero = true ∧ y.isZero = true)

theorem isZero_iff {x : Double} : x.isZero = true ↔ x = ⟨0⟩ ∨ x = ⟨0x8000000000000000⟩ := by
  obtain ⟨bits⟩ := x
  have hlt := bits.toNat_lt
  rw [isZero, magnitude, beq_iff_eq, ← UInt64.toNat_inj, UInt64.toNat_mod]
  show bits.toNat % 0x8000000000000000 = 0 ↔ _
  rw [Double.mk.injEq, Double.mk.injEq, ← UInt64.toNat_inj, ← UInt64.toNat_inj]
  show _ ↔ bits.toNat = 0 ∨ bits.toNat = 0x8000000000000000
  omega

/-- Next to each other in the order of all doubles, the zeros have no number between them. -/
theorem orderKey_lt_iff {v : Double} (h : v.isZero = false) :
    ((⟨0⟩ : Double).orderKey < v.orderKey ↔ (⟨0x8000000000000000⟩ : Double).orderKey < v.orderKey) ∧
      (v.orderKey < (⟨0⟩ : Double).orderKey ↔
        v.orderKey < (⟨0x8000000000000000⟩ : Double).orderKey) := by
  obtain ⟨bits⟩ := v
  have hlt := bits.toNat_lt
  have hnone : bits.toNat % 0x8000000000000000 ≠ 0 := by
    intro heq
    rw [isZero, magnitude, beq_eq_false_iff_ne] at h
    exact h (UInt64.toNat_inj.mp heq)
  have hplus : (⟨0⟩ : Double).orderKey.toNat = 0x8000000000000000 := rfl
  have hminus : (⟨0x8000000000000000⟩ : Double).orderKey.toNat = 0x7fffffffffffffff := rfl
  have hkey : (⟨bits⟩ : Double).orderKey.toNat ≠ 0x8000000000000000 ∧
      (⟨bits⟩ : Double).orderKey.toNat ≠ 0x7fffffffffffffff := by
    rw [orderKey, signBit]
    dsimp only
    by_cases hsign : (0x8000000000000000 : UInt64) ≤ bits
    · rw [decide_eq_true hsign, if_pos rfl]
      have hle : 0x8000000000000000 ≤ bits.toNat := hsign
      have hsub : ((0xffffffffffffffff : UInt64) - bits).toNat = 0xffffffffffffffff - bits.toNat :=
        UInt64.toNat_sub_of_le _ _ (Nat.le_of_lt_succ hlt)
      omega
    · rw [decide_eq_false hsign, if_neg Bool.false_ne_true, UInt64.toNat_add]
      have hle : ¬0x8000000000000000 ≤ bits.toNat := hsign
      show (bits.toNat + 0x8000000000000000) % 2 ^ 64 ≠ _ ∧
        (bits.toNat + 0x8000000000000000) % 2 ^ 64 ≠ _
      omega
  simp only [UInt64.lt_iff_toNat_lt, hplus, hminus]
  omega

theorem isNaN_of_isZero {x : Double} (h : x.isZero = true) : x.isNaN = false := by
  rcases isZero_iff.mp h with rfl | rfl <;> rfl

/-- No comparison tells the zeros apart. -/
theorem lt_of_isZero {x y : Double} (hx : x.isZero = true) (hy : y.isZero = true) (v : Double) :
    lt x v = lt y v ∧ lt v x = lt v y := by
  cases hv : v.isZero with
  | true => simp only [lt, hx, hy, hv, Bool.and_self, Bool.not_true, Bool.and_false,
      Bool.false_and, and_self]
  | false =>
    obtain ⟨hbelow, habove⟩ := orderKey_lt_iff hv
    have hkeys : ∀ {z : Double}, z.isZero = true →
        (z.orderKey < v.orderKey ↔ (⟨0⟩ : Double).orderKey < v.orderKey) ∧
          (v.orderKey < z.orderKey ↔ v.orderKey < (⟨0⟩ : Double).orderKey) := by
      intro z hz
      rcases isZero_iff.mp hz with rfl | rfl
      · exact ⟨Iff.rfl, Iff.rfl⟩
      · exact ⟨hbelow.symm, habove.symm⟩
    simp only [lt, isNaN_of_isZero hx, isNaN_of_isZero hy, hx, hy, hv, (hkeys hx).1, (hkeys hx).2,
      (hkeys hy).1, (hkeys hy).2, and_self]

theorem Alike.isZero_eq {x y : Double} (h : Alike x y) : x.isZero = y.isZero := by
  rcases h with rfl | ⟨hx, hy⟩
  · rfl
  · rw [hx, hy]

/-- Numbers that are alike compare alike. -/
theorem Alike.compare?_eq {x y : Double} (h : Alike x y) (v : Double) :
    compare? x v = compare? y v ∧ compare? v x = compare? v y := by
  rcases h with rfl | ⟨hx, hy⟩
  · exact ⟨rfl, rfl⟩
  · obtain ⟨hbelow, habove⟩ := lt_of_isZero hx hy v
    have hlt : (x < v ↔ y < v) ∧ (v < x ↔ v < y) := by
      show (lt x v = true ↔ lt y v = true) ∧ (lt v x = true ↔ lt v y = true)
      rw [hbelow, habove]
      exact ⟨Iff.rfl, Iff.rfl⟩
    simp only [compare?, isNaN_of_isZero hx, isNaN_of_isZero hy, hlt.1, hlt.2, and_self]

end Double

/-! ## The exact reader -/

namespace Number

/-- Without a point there is no fraction. -/
theorem Numeral.Mantissa.fraction_eq_nil {mantissa whole fraction : List Char}
    (h : Numeral.Mantissa mantissa whole fraction) (hpoint : '.' ∉ mantissa) : fraction = [] := by
  cases h with
  | whole => rfl
  | point => exact absurd (by simp) hpoint
  | fraction => exact absurd (by simp) hpoint

/-- Without a mark there is no exponent. -/
theorem Numeral.Exponent.eq_zero {exponent : List Char} {x : Int}
    (h : Numeral.Exponent exponent x) (hlower : 'e' ∉ exponent) (hupper : 'E' ∉ exponent) :
    x = 0 := by
  cases h with
  | absent => rfl
  | mark hc =>
    rcases hc with rfl | rfl
    · exact absurd (by simp) hlower
    · exact absurd (by simp) hupper

/-- A numeral without a point and an exponent mark is a sign and digits. -/
theorem Numeral.toInt?_eq_some {text : List Char} {n : Numeral} {i : Int} (hwrites : Writes text n)
    (h : n.toInt? text = some i) :
    n.fraction = [] ∧ n.exponent = 0 ∧
      i = if n.negative then -(ofDigits n.whole : Int) else ofDigits n.whole := by
  unfold Numeral.toInt? at h
  split at h
  · cases h
  · next hplain =>
    simp only [Bool.or_eq_true, List.contains_iff_mem, not_or] at hplain
    obtain ⟨⟨hpoint, hlower⟩, hupper⟩ := hplain
    cases h
    cases hwrites with
    | parts hsign hmantissa hexponent =>
      simp only [List.mem_append, not_or] at hpoint hlower hupper
      exact ⟨hmantissa.fraction_eq_nil hpoint.2.1, hexponent.eq_zero hlower.2.2 hupper.2.2, rfl⟩

/-- The magnitude of a whole number of 64 bits. -/
theorem Numeral.magnitude_whole {n : Numeral} (hfraction : n.fraction = [])
    (hexponent : n.exponent = 0) (h : ofDigits n.whole ≤ 2 ^ 63) :
    n.magnitude = if ofDigits n.whole = 0 then 0.0 else Double.ofNat (ofDigits n.whole) := by
  have hsignificand : n.significand = ofDigits n.whole := by
    rw [significand, hfraction, List.append_nil]
  have hscale : n.scale = 0 := by
    rw [scale, hfraction, hexponent]
    rfl
  rw [magnitude, hsignificand, hscale]
  dsimp only
  by_cases hzero : ofDigits n.whole = 0
  · rw [if_pos hzero, if_pos hzero]
  · have hlog : (ofDigits n.whole).log2 < 64 := (Nat.log2_lt hzero).mpr (by omega)
    rw [if_neg hzero, if_neg hzero, if_neg (by omega), if_neg (by omega), if_pos le_rfl]
    rfl

/-- Where an integer of 64 bits is read, its double is the one of the numeral. -/
theorem Numeral.toDouble_of_toInt? {text : List Char} {n : Numeral} {i : Int}
    (hwrites : Writes text n) (h : n.toInt? text = some i)
    (hrange : -0x8000000000000000 ≤ i ∧ i < 0x8000000000000000) :
    n.toDouble.isFinite = true ∧ (Double.ofInt i).Alike n.toDouble := by
  obtain ⟨hfraction, hexponent, hi⟩ := toInt?_eq_some hwrites h
  have hle : ofDigits n.whole ≤ 2 ^ 63 := by
    cases hnegative : n.negative <;> rw [hnegative] at hi
    · have : i = ofDigits n.whole := hi
      omega
    · have : i = -(ofDigits n.whole : Int) := hi
      omega
  rw [toDouble, magnitude_whole hfraction hexponent hle]
  by_cases hzero : ofDigits n.whole = 0
  · -- The integer is zero, and the numeral a zero with a sign.
    have hi : i = 0 := by
      rw [hi, hzero]
      cases n.negative <;> rfl
    rw [if_pos hzero, hi]
    cases n.negative
    · exact ⟨rfl, .inr ⟨rfl, rfl⟩⟩
    · exact ⟨rfl, .inr ⟨rfl, rfl⟩⟩
  · have hfinite := Double.ofNat_isFinite hle
    rw [if_neg hzero]
    cases hnegative : n.negative <;> rw [hnegative] at hi
    · have hi : i = ofDigits n.whole := hi
      rw [hi]
      exact ⟨hfinite, .inl rfl⟩
    · have hi : i = -(ofDigits n.whole : Int) := hi
      rw [if_pos rfl, Double.isFinite_neg, hi]
      exact ⟨hfinite, .inl (Double.ofInt_neg hle hzero)⟩

/-- The exact reader takes the numerals that a double can hold, each with the number it writes. -/
theorem readExact?_of_ofText? {text : List Char} {n : Numeral}
    (h : Numeral.ofText? text = some n) :
    (n.toDouble.isFinite = true → ∃ x, readExact? text = some x ∧ x.Alike n.toDouble) ∧
      (n.toDouble.isFinite = false → readExact? text = none) := by
  have hwrites := Numeral.ofText?_eq_some_iff.mp h
  have hcheck : (n.toDouble.isFinite = true →
      ∃ x, readExact?.finite? n.toDouble = some x ∧ x.Alike n.toDouble) ∧
      (n.toDouble.isFinite = false → readExact?.finite? n.toDouble = none) := by
    constructor
    · intro hfinite
      exact ⟨_, by rw [readExact?.finite?, if_pos hfinite], .inl rfl⟩
    · intro hinfinite
      rw [readExact?.finite?, hinfinite, if_neg Bool.false_ne_true]
  rw [readExact?, h]
  dsimp only
  cases hint : n.toInt? text with
  | none => exact hcheck
  | some i =>
    dsimp only
    by_cases hrange : -0x8000000000000000 ≤ i ∧ i < 0x8000000000000000
    · obtain ⟨hfinite, halike⟩ := Numeral.toDouble_of_toInt? hwrites hint hrange
      rw [if_pos hrange]
      refine ⟨fun _ => ⟨_, rfl, halike⟩, fun hinfinite => ?_⟩
      rw [hfinite] at hinfinite
      cases hinfinite
    · rw [if_neg hrange]
      exact hcheck

theorem readExact?_of_ofText?_none {text : List Char} (h : Numeral.ofText? text = none) :
    readExact? text = none := by
  rw [readExact?, h]

end Number

/-! ## The variable that is set -/

namespace Scope

/-- Behind an assignment a name that is not special has the value. -/
theorem value_of_setVar {name : String} {v : Value} {s s' : Scope}
    (hname : Special.ofName? name = none) (h : setVar name v s = .ok () s') :
    s'.value name = .ok v := by
  have hlookup : (s.bind name (.scalar v)).lookup? name = some (.scalar v) := by
    unfold bind
    split
    · next hframes =>
      simp only [lookup?, local?, hframes, Bindings.getElem?_insert, if_true]
    · simp only [lookup?, local?, Bindings.getElem?_insert, if_true]
  unfold setVar at h
  rw [hname] at h
  dsimp only at h
  split at h
  · cases h
  · cases h
    rw [value, hname]
    dsimp only
    rw [hlookup]

/-- Text from outside is typed when it is given to a variable. -/
theorem value_of_preset {name text : String} {s s' : Scope} (hname : Special.ofName? name = none)
    (h : preset name text s = .ok () s') : s'.value name = .ok (.infer text) := by
  unfold preset at h
  split at h
  · exact value_of_setVar hname h
  · cases h

end Scope

/-! ## The two classifications -/

namespace Value

/-- No blank stands at either end of a text. -/
def Unpadded (s : String) : Prop :=
  (∀ c ∈ s.toList.head?, isNumericPadding c = false) ∧
    ∀ c ∈ s.toList.getLast?, isNumericPadding c = false

/-- Values that no conversion, test or comparison tells apart, the sign of a zero aside. -/
structure Interchangeable (a b : Value) : Prop where
  text : ∀ format, a.toText format = b.toText format
  number : a.toNumber.Alike b.toNumber
  truth : a.isTruthy = b.isTruthy
  kind : a.comparesNumerically = b.comparesNumerically
  left : ∀ v, compare a v = compare b v
  right : ∀ v, compare v a = compare v b

theorem Interchangeable.rfl {a : Value} : Interchangeable a a where
  text _ := Eq.refl _
  number := .inl (Eq.refl _)
  truth := Eq.refl _
  kind := Eq.refl _
  left _ := Eq.refl _
  right _ := Eq.refl _

theorem interchangeable_numStr {s : String} {x y : Double} (h : x.Alike y) :
    Interchangeable (.numStr s x) (.numStr s y) where
  text _ := Eq.refl _
  number := h
  truth := by
    rw [isTruthy, isTruthy, h.isZero_eq]
  kind := Eq.refl _
  left v := by
    show (if (true && v.comparesNumerically) = true then
        (Double.compare? x v.toNumber).getD .eq else Ord.compare s v.text) =
      if (true && v.comparesNumerically) = true then
        (Double.compare? y v.toNumber).getD .eq else Ord.compare s v.text
    rw [(h.compare?_eq v.toNumber).1]
  right v := by
    show (if (v.comparesNumerically && true) = true then
        (Double.compare? v.toNumber x).getD .eq else Ord.compare v.text s) =
      if (v.comparesNumerically && true) = true then
        (Double.compare? v.toNumber y).getD .eq else Ord.compare v.text s
    rw [(h.compare?_eq v.toNumber).2]

theorem not_isNumericPadding {c : Char} (h : Number.Numeral.IsPart c) :
    isNumericPadding c = false := by
  cases hc : isNumericPadding c with
  | false => rfl
  | true =>
    have hspace := Text.isWhiteSpace_of_isNumericPadding hc
    rw [h.not_whiteSpace] at hspace
    cases hspace

/-- What is a numeral as a whole is one between blanks that are missing. -/
theorem numericText?_of_ofText? {s : String} {n : Numeral}
    (h : Numeral.ofText? s.toList = some n) : numericText? s = some n.toDouble := by
  have hwrites := Numeral.ofText?_eq_some_iff.mp h
  have hparts := Numeral.Is.parts ⟨n, hwrites⟩
  have hhead : ∀ c ∈ s.toList.head?, isNumericPadding c = false := by
    intro c hc
    exact not_isNumericPadding (hparts c (List.mem_of_mem_head? hc))
  rw [numericText?, Numeral.dropWhile_eq_self hhead, Numeral.scan_writes hwrites]
  rfl

/-- Without blanks at its ends, a text reads as a number only as a whole. -/
theorem ofText?_of_numericText? {s : String} {y : Double} (hs : Unpadded s)
    (h : numericText? s = some y) : ∃ n, Numeral.ofText? s.toList = some n ∧ n.toDouble = y := by
  unfold numericText? at h
  rw [Numeral.dropWhile_eq_self hs.1] at h
  split at h
  · next n rest hscan =>
    split at h
    · next hblank =>
      obtain ⟨text, -, hread, htext⟩ := Numeral.scan_eq_some hscan
      cases h
      cases hrest : rest.getLast? with
      | none =>
        rw [List.getLast?_eq_none_iff.mp hrest, List.append_nil] at htext
        exact ⟨n, htext ▸ hread, rfl⟩
      | some c =>
        -- The last character is a blank and is not.
        have hlast : c ∈ s.toList.getLast? := by
          rw [htext, List.getLast?_append, hrest]
          rfl
        have hc := List.all_eq_true.mp hblank c (List.mem_of_getLast? hrest)
        rw [hs.2 c hlast] at hc
        cases hc
    · cases h
  · cases h

theorem ofText_eq_numStr_iff {s : String} {y : Double} :
    ofText s = .numStr s y ↔ numericText? s = some y := by
  unfold ofText
  split
  · next x hx => rw [hx, Value.numStr.injEq, Option.some.injEq, and_iff_right rfl]
  · next hx =>
    rw [hx]
    exact ⟨nofun, nofun⟩

theorem infer_eq_numStr_iff {s : String} {x : Double} :
    infer s = .numStr s x ↔ readExact? s.toList = some x := by
  unfold infer
  split
  · next y hy => rw [hy, Value.numStr.injEq, Option.some.injEq, and_iff_right rfl]
  · next hy =>
    rw [hy]
    exact ⟨nofun, nofun⟩

/-- A text that is typed as a number from outside is one at run time, and finite. -/
theorem ofText_of_infer {s : String} {x : Double} (h : infer s = .numStr s x) :
    ∃ y, ofText s = .numStr s y ∧ y.isFinite = true ∧ x.Alike y := by
  rw [infer_eq_numStr_iff] at h
  cases hread : Numeral.ofText? s.toList with
  | none =>
    rw [Number.readExact?_of_ofText?_none hread] at h
    cases h
  | some n =>
    obtain ⟨hfinite, hinfinite⟩ := Number.readExact?_of_ofText? hread
    cases hn : n.toDouble.isFinite with
    | false =>
      rw [hinfinite hn] at h
      cases h
    | true =>
      obtain ⟨x', hx', halike⟩ := hfinite hn
      rw [hx'] at h
      cases h
      exact ⟨_, ofText_eq_numStr_iff.mpr (numericText?_of_ofText? hread), hn, halike⟩

theorem infer_of_ofText {s : String} {y : Double} (hs : Unpadded s) (h : ofText s = .numStr s y)
    (hy : y.isFinite = true) : ∃ x, infer s = .numStr s x := by
  obtain ⟨n, hread, rfl⟩ := ofText?_of_numericText? hs (ofText_eq_numStr_iff.mp h)
  obtain ⟨x, hx, -⟩ := (Number.readExact?_of_ofText? hread).1 hy
  exact ⟨x, infer_eq_numStr_iff.mpr hx⟩

/-- Text from outside keeps its text, and is typed as a number only if it is a finite one at run
time, and without blanks at its ends whenever it is.  Unless it is text here and a number there, it
is used as if it had been typed at run time.  A variable that it is given to has this value. -/
theorem infer_classifies (s : String) :
    (infer s = .str s ∨ ∃ x, infer s = .numStr s x) ∧
    (∀ x, infer s = .numStr s x → ∃ y, ofText s = .numStr s y ∧ y.isFinite = true ∧ x.Alike y) ∧
    (Unpadded s →
      ((∃ x, infer s = .numStr s x) ↔ ∃ y, ofText s = .numStr s y ∧ y.isFinite = true)) ∧
    ((infer s).comparesNumerically = (ofText s).comparesNumerically →
      Interchangeable (infer s) (ofText s)) ∧
    ∀ (name : String) (scope scope' : Scope), Special.ofName? name = none →
      Scope.preset name s scope = .ok () scope' → scope'.value name = .ok (infer s) := by
  have hinfer : infer s = .str s ∨ ∃ x, infer s = .numStr s x := by
    unfold infer
    split
    · exact .inr ⟨_, rfl⟩
    · exact .inl rfl
  have hofText : ofText s = .str s ∨ ∃ y, ofText s = .numStr s y := by
    unfold ofText
    split
    · exact .inr ⟨_, rfl⟩
    · exact .inl rfl
  refine ⟨hinfer, fun x hx => ofText_of_infer hx, fun hs => ⟨?_, ?_⟩, fun hkind => ?_,
    fun name scope scope' => Scope.value_of_preset⟩
  · rintro ⟨x, hx⟩
    obtain ⟨y, hy, hfinite, -⟩ := ofText_of_infer hx
    exact ⟨y, hy, hfinite⟩
  · rintro ⟨y, hy, hfinite⟩
    exact infer_of_ofText hs hy hfinite
  · rcases hinfer with hstr | ⟨x, hx⟩
    · rcases hofText with hstr' | ⟨y, hy⟩
      · rw [hstr, hstr']
        exact .rfl
      · rw [hstr, hy] at hkind
        cases hkind
    · obtain ⟨y, hy, -, halike⟩ := ofText_of_infer hx
      rw [hx, hy]
      exact interchangeable_numStr halike

/-- A numeral beyond all doubles is text from outside and a number at run time, and compares
differently.  So is a numeral behind a blank, and a zero keeps its minus at run time alone. -/
theorem infer_differs :
    (infer "1e999" = .str "1e999" ∧ ofText "1e999" = .numStr "1e999" .infinity ∧
      compare (infer "1e999") (.num 5.0) = .lt ∧ compare (ofText "1e999") (.num 5.0) = .gt) ∧
    (infer " 12" = .str " 12" ∧ ofText " 12" = .numStr " 12" 12.0) ∧
    infer "-0" = .numStr "-0" 0.0 ∧ ofText "-0" = .numStr "-0" (-0.0) := by
  have hlarge : readExact? "1e999".toList = none ∧ numericText? "1e999" = some .infinity := by
    decide +kernel
  have hblank : readExact? " 12".toList = none ∧ numericText? " 12" = some 12.0 := by
    decide +kernel
  have hzero : readExact? "-0".toList = some 0.0 ∧ numericText? "-0" = some (-0.0) := by
    decide +kernel
  refine ⟨?_, ?_, ?_⟩
  · rw [infer, ofText, hlarge.1, hlarge.2]
    exact ⟨rfl, rfl, by decide +kernel, by decide +kernel⟩
  · rw [infer, ofText, hblank.1, hblank.2]
    exact ⟨rfl, rfl⟩
  · rw [infer, ofText, hzero.1, hzero.2]
    exact ⟨rfl, rfl⟩

end Value
end Awk
