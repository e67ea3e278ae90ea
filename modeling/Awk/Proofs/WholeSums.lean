import Awk.Proofs.ExactSums

/-!
# Arithmetic of whole doubles

Integers up to `2 ^ 53` are doubles.  Sums and differences of whole doubles that stay within are
exact, and so are the order, the conversion to an integer and rounding.
-/

namespace Awk
namespace Number

open Float.Model (Format UnpackedFloat)
open Float.Model.UnpackedFloat
open Double (places unitsInOne)

/-! ## Integers with a normal form -/

/-- A short number, moved up until it fills a mantissa. -/
theorem fill_mantissa {n : Nat} (hne : n ≠ 0) (h : n < 2 ^ 53) :
    n.log2 < 53 ∧ 2 ^ 52 ≤ n * 2 ^ (52 - n.log2) ∧ n * 2 ^ (52 - n.log2) < 2 ^ 53 := by
  have hlog : n.log2 < 53 := (Nat.log2_lt hne).mpr h
  have hfill : (n * 2 ^ (52 - n.log2)).log2 = 52 := by
    rw [log2_mul_two_pow hne]
    omega
  exact ⟨hlog, (Nat.log2_eq_iff (Nat.mul_ne_zero hne (Nat.two_pow_pos _).ne')).mp hfill⟩

theorem isDouble_whole {n : Int} (h : n.natAbs ≤ 2 ^ 53) : IsDouble (n * unitsInOne) := by
  by_cases hzero : n = 0
  · exact .inl (by rw [hzero, Int.zero_mul])
  have hne : n.natAbs ≠ 0 := Int.natAbs_ne_zero.mpr hzero
  have habs : (n * unitsInOne).natAbs = n.natAbs * 2 ^ places := by
    rw [Int.natAbs_mul, Int.natAbs_natCast]
    rfl
  right
  by_cases hlt : n.natAbs < 2 ^ 53
  · obtain ⟨hlog, hle, hbound⟩ := fill_mantissa hne hlt
    refine ⟨n.natAbs * 2 ^ (52 - n.natAbs.log2), 1022 + n.natAbs.log2,
      ⟨hbound, .inl hle, by omega⟩, Nat.lt_of_lt_of_le (by decide) hle, ?_⟩
    have hplaces : places = 52 - n.natAbs.log2 + (1022 + n.natAbs.log2) := by
      rw [places]
      omega
    rw [habs, hplaces, Nat.pow_add, Nat.mul_assoc]
  · refine ⟨2 ^ 52, places + 1, ⟨by decide, .inl le_rfl, by decide⟩, by decide, ?_⟩
    have htwice : 2 ^ 53 = 2 ^ 52 * 2 := by decide
    rw [habs, Nat.le_antisymm h (Nat.le_of_not_lt hlt), Nat.pow_succ 2 places,
      Nat.mul_comm (2 ^ places) 2, ← Nat.mul_assoc, htwice]

/-! ## Naturals -/

/-- A whole number is not small in units. -/
theorem exponent_of_whole {c q n : Nat} (hnormal : Normal c q) (hne : n ≠ 0)
    (h : c * 2 ^ q = n * unitsInOne) : 52 ≤ q := by
  refine Nat.le_of_not_lt fun hlt => ?_
  have hunits : c * 2 ^ q < unitsInOne := by
    calc c * 2 ^ q < 2 ^ 53 * 2 ^ q := Nat.mul_lt_mul_of_pos_right hnormal.lt (Nat.two_pow_pos q)
      _ = 2 ^ (53 + q) := (Nat.pow_add 2 53 q).symm
      _ ≤ 2 ^ places := Nat.pow_le_pow_right (by decide) (by rw [places]; omega)
  rw [h] at hunits
  exact absurd (Nat.le_mul_of_pos_left unitsInOne (Nat.pos_of_ne_zero hne)) (Nat.not_le.mpr hunits)

/-- A whole number times one. -/
theorem mul_one_carries {u : UnpackedFloat} {n : Nat} (h : Carries u (n * unitsInOne : Nat)) :
    Carries (UnpackedFloat.mul Format.binary64 u one.toModel.unpack) (n * unitsInOne : Nat) := by
  rw [unpack_one]
  generalize hunits : ((n * unitsInOne : Nat) : Int) = units at h
  cases h with
  | zero s => exact .zero _
  | @finite s c q hnormal hc =>
    have happly : s = .positive ∧ c * 2 ^ q = n * unitsInOne := by
      have hpos : 0 < c * 2 ^ q := Nat.mul_pos hc (Nat.two_pow_pos q)
      cases s
      · have : ((n * unitsInOne : Nat) : Int) = -((c * 2 ^ q : Nat) : Int) := hunits
        omega
      · exact ⟨rfl, (Int.ofNat.inj hunits).symm⟩
    obtain ⟨rfl, hvalue⟩ := happly
    have hne : n ≠ 0 := by
      rintro rfl
      rw [Nat.zero_mul] at hvalue
      exact Nat.mul_ne_zero hc.ne' (Nat.two_pow_pos q).ne' hvalue
    have hq := exponent_of_whole hnormal hne hvalue
    have hexponent : exponentOf q + -52 = exponentOf (q - 52) := by
      rw [exponentOf, exponentOf]
      omega
    show Carries (roundWithAccuracy Format.binary64 .positive (c * 2 ^ 52) (exponentOf q + -52)
      .exact) _
    rw [hexponent, roundWithAccuracy_exact hnormal hc (Nat.sub_add_cancel hq).symm]
    exact .finite _ hnormal hc

end Number

namespace Double

open Float.Model (Format UnpackedFloat)
open Float.Model.UnpackedFloat
open Number

theorem ofNat_isWhole {n : Nat} (h : n < 2 ^ 53) : (ofNat n).IsWhole n := by
  have hn : n.toUInt64.toNat = n := Nat.mod_eq_of_lt (lt_trans h (by decide))
  have hunits : ((n * unitsInOne : Nat) : Int) = (n : Int) * 2 ^ places := by
    rw [Int.natCast_mul, unitsInOne, Int.natCast_pow]
    rfl
  have hconverted : Carries (UnpackedFloat.ofUInt64 Format.binary64 n.toUInt64)
      (n * unitsInOne : Nat) := by
    have hdouble := isDouble_whole (n := n) (by rw [Int.natAbs_natCast]; exact h.le)
    rw [← Int.natCast_mul, hunits] at hdouble
    rw [UnpackedFloat.ofUInt64, hn, UnpackedFloat.ofNat, UnpackedFloat.ofInt, hunits]
    exact normalize_carries hdouble .positive
  obtain ⟨hfinite, hpacked⟩ := ofUnpacked_units hconverted
  have hunpacked := unpack_carries hfinite
  rw [hpacked] at hunpacked
  have hproduct := ofFloat_units (mul_one_carries hunpacked)
  rw [isWhole_iff, ofNat, floatOfNat_short h, ← Int.natCast_mul]
  exact hproduct

/-! ## Sums, order and conversion -/

namespace IsWhole

variable {x y : Double} {m n : Int}

theorem isFinite (h : x.IsWhole n) : x.isFinite = true := (isWhole_iff.mp h).1

theorem units (h : x.IsWhole n) : x.units = n * unitsInOne := (isWhole_iff.mp h).2

theorem isNaN (h : x.IsWhole n) : x.isNaN = false := isNaN_of_isFinite h.isFinite

theorem add (hx : x.IsWhole m) (hy : y.IsWhole n) (h : (m + n).natAbs ≤ 2 ^ 53) :
    (x + y).IsWhole (m + n) := by
  have hunits : x.units + y.units = (m + n) * unitsInOne := by rw [hx.units, hy.units, Int.add_mul]
  obtain ⟨hfinite, hsum⟩ := add_units hx.isFinite hy.isFinite (hunits ▸ isDouble_whole h)
  exact isWhole_iff.mpr ⟨hfinite, hsum.trans hunits⟩

theorem sub (hx : x.IsWhole m) (hy : y.IsWhole n) (h : (m - n).natAbs ≤ 2 ^ 53) :
    (x - y).IsWhole (m - n) := by
  have hunits : x.units - y.units = (m - n) * unitsInOne := by rw [hx.units, hy.units, Int.sub_mul]
  obtain ⟨hfinite, hdifference⟩ := sub_units hx.isFinite hy.isFinite (hunits ▸ isDouble_whole h)
  exact isWhole_iff.mpr ⟨hfinite, hdifference.trans hunits⟩

theorem lt_iff (hx : x.IsWhole m) (hy : y.IsWhole n) : x < y ↔ m < n := by
  have hpos : (0 : Int) < unitsInOne := Int.natCast_pos.mpr unitsInOne_pos
  rw [lt_iff_units hx.isNaN hy.isNaN, hx.units, hy.units]
  exact Int.mul_lt_mul_right hpos

theorem le_iff (hx : x.IsWhole m) (hy : y.IsWhole n) : x ≤ y ↔ m ≤ n := by
  have hpos : (0 : Int) < unitsInOne := Int.natCast_pos.mpr unitsInOne_pos
  rw [le_iff_units hx.isNaN hy.isNaN, hx.units, hy.units]
  exact Int.mul_le_mul_right hpos

theorem toNat64 (h : x.IsWhole n) : x.toNat64 = min 0xffffffffffffffff n.toNat := by
  obtain ⟨d, hview, -, rfl⟩ := h
  rw [Double.toNat64, toIntWithin, hview]
  dsimp only
  omega

/-- The greater of two, the way it is chosen by comparison. -/
theorem max (hx : x.IsWhole m) (hy : y.IsWhole n) :
    (if x < y then y else x).IsWhole (max m n) := by
  split
  case isTrue h =>
    rw [max_eq_right ((hx.lt_iff hy).mp h).le]
    exact hy
  case isFalse h =>
    rw [max_eq_left (not_lt.mp (mt (hx.lt_iff hy).mpr h))]
    exact hx

/-- The lesser of two. -/
theorem min (hx : x.IsWhole m) (hy : y.IsWhole n) :
    (if y < x then y else x).IsWhole (min m n) := by
  split
  case isTrue h =>
    rw [min_eq_right ((hy.lt_iff hx).mp h).le]
    exact hy
  case isFalse h =>
    rw [min_eq_left (not_lt.mp (mt (hy.lt_iff hx).mpr h))]
    exact hx

end IsWhole

theorem one_isWhole : (1.0 : Double).IsWhole 1 :=
  ⟨⟨false, 0x10000000000000, -52⟩, rfl, by decide, by decide⟩

/-! ## Rounding -/

/-- A double is known from its sign and its units. -/
theorem ext_units {x y : Double} (hsign : x.signBit = y.signBit)
    (hunits : unitsOfBits x.magnitude.toNat = unitsOfBits y.magnitude.toNat) : x = y := by
  have hmagnitude := unitsOfBits_strictMono.injective hunits
  rw [magnitude_toNat, magnitude_toNat] at hmagnitude
  have hx := x.bits.toNat_lt
  have hy := y.bits.toNat_lt
  have hiff := (@signBit_iff x).symm.trans (hsign ▸ @signBit_iff y)
  have hbits : x.bits.toNat = y.bits.toNat := by omega
  exact congrArg Double.mk (UInt64.toNat_inj.mp hbits)

/-- The double with these bits and a sign. -/
theorem ofBits_fields (negative : Bool) {m : Nat} (h : m < 0x8000000000000000) :
    let x : Double := ⟨UInt64.ofNat (m + if negative then 0x8000000000000000 else 0)⟩
    x.signBit = negative ∧ x.magnitude.toNat = m := by
  have hbits : (UInt64.ofNat (m + if negative then 0x8000000000000000 else 0)).toNat =
      m + if negative then 0x8000000000000000 else 0 := by
    refine Nat.mod_eq_of_lt ?_
    split <;> omega
  refine ⟨Bool.eq_iff_iff.mpr ?_, ?_⟩
  · rw [signBit_iff, hbits]
    cases negative
    · simpa using h
    · simp
  · rw [magnitude_toNat, hbits]
    split <;> omega

/-- The double of a short whole number. -/
theorem toDouble_whole (negative : Bool) {n : Nat} (h : n < 2 ^ 53) :
    let x := Number.Dyadic.toDouble { negative, mantissa := n, exponent := 0 }
    x.signBit = negative ∧ unitsOfBits x.magnitude.toNat = n * unitsInOne := by
  by_cases hzero : n = 0
  · subst hzero
    obtain ⟨hsign, hmagnitude⟩ := ofBits_fields negative (m := 0) (by decide)
    refine ⟨hsign, ?_⟩
    rw [Nat.zero_mul]
    exact congrArg unitsOfBits hmagnitude
  · obtain ⟨hlog, hle, hlt⟩ := fill_mantissa hzero h
    have hleading : leadingBit ≤ n * 2 ^ (52 - n.log2) := hle
    have hfraction : n * 2 ^ (52 - n.log2) - leadingBit < leadingBit := by
      show _ - 0x10000000000000 < 0x10000000000000
      omega
    have htop : -1022 ≤ (n.log2 : Int) + 0 := by omega
    have hexponent : ((n.log2 : Int) + 0 + 1023).toNat = n.log2 + 1023 := by omega
    have hbound : (n.log2 + 1023) * leadingBit + (n * 2 ^ (52 - n.log2) - leadingBit) <
        0x8000000000000000 := by
      show (n.log2 + 1023) * 0x10000000000000 + (_ - 0x10000000000000) < _
      omega
    have hdouble : Number.Dyadic.toDouble { negative, mantissa := n, exponent := 0 } =
        ⟨UInt64.ofNat ((n.log2 + 1023) * leadingBit + (n * 2 ^ (52 - n.log2) - leadingBit) +
          if negative then 0x8000000000000000 else 0)⟩ := by
      rw [Number.Dyadic.toDouble]
      simp only [if_neg hzero, if_pos htop, hexponent]
      rfl
    obtain ⟨hsign, hmagnitude⟩ := ofBits_fields negative hbound
    rw [hdouble]
    refine ⟨hsign, ?_⟩
    have hplaces : places = 52 - n.log2 + (n.log2 + 1022) := by
      rw [places]
      omega
    rw [hmagnitude, unitsOfBits_fields _ hfraction, if_neg (Nat.succ_ne_zero _),
      Nat.sub_add_cancel hleading, unitsInOne, hplaces, Nat.pow_add, Nat.mul_assoc]
    rfl

theorem mantissa_lt_of_view {x : Double} {d : Number.Dyadic} (h : x.view = .finite d) :
    d.mantissa < 2 ^ 53 := by
  have hmod : x.magnitude.toNat % leadingBit < 0x10000000000000 := Nat.mod_lt _ (by decide)
  rw [view_eq] at h
  split at h
  · split at h <;> cases h
  · split at h
    · cases h
      exact Nat.lt_trans hmod (by decide)
    · cases h
      show _ + 0x10000000000000 < _
      omega

/-- Rounding leaves a whole double alone. -/
theorem round_of_isWhole {x : Double} {n : Int} (h : x.IsWhole n) : x.round = x := by
  obtain ⟨d, hview, hinteger, -⟩ := h
  rw [round, hview]
  dsimp only
  split
  case isTrue => rfl
  case isFalse hexponent =>
    obtain ⟨hnegative, hunits⟩ := numerator_of_view hview
    have hdenominator := denominator_pos d
    obtain ⟨w, hw⟩ := Nat.dvd_of_mod_eq_zero (beq_iff_eq.mp hinteger)
    have hnumerator : d.numerator = d.mantissa := if_neg hexponent
    have hshort : w < 2 ^ 53 := by
      refine Nat.lt_of_le_of_lt ?_ (mantissa_lt_of_view hview)
      rw [← hnumerator, hw]
      exact Nat.le_mul_of_pos_left w hdenominator
    have hrounded : (2 * d.numerator + d.denominator) / (2 * d.denominator) = w := by
      rw [hw, ← Nat.mul_assoc, Nat.mul_add_div (by omega), Nat.div_eq_of_lt (by omega),
        Nat.add_zero]
    rw [hrounded]
    obtain ⟨hsign, hmagnitude⟩ := toDouble_whole d.negative hshort
    refine ext_units (hsign.trans hnegative) (hmagnitude.trans ?_)
    refine Nat.eq_of_mul_eq_mul_right hdenominator ?_
    rw [← hunits, hw, Nat.mul_right_comm, Nat.mul_comm w]

end Double
end Awk
