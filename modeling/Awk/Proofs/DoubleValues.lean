import Mathlib
import Awk.Proofs.WholeDoubles

/-!
# The order of doubles and their values

A finite double is a whole number of the least positive one.  Its bits without the sign count these
units upward, so doubles are ordered like their values, and what truncation makes of a double can be
read off from its units.
-/

namespace Awk
namespace Double

open Number (leadingBit)

/-- The binary places behind the point that a double can have. -/
def places : Nat := 1074

/-- How many of the least positive doubles make one. -/
def unitsInOne : Nat := 2 ^ places

theorem unitsInOne_pos : 0 < unitsInOne := Nat.two_pow_pos _

/-! ## Units by bits -/

/-- The units in the double with these bits and no sign. -/
def unitsOfBits (m : Nat) : Nat :=
  if m / leadingBit = 0 then m
  else (m % leadingBit + leadingBit) * 2 ^ (m / leadingBit - 1)

theorem unitsOfBits_small {m : Nat} (h : m / leadingBit = 0) : unitsOfBits m = m := if_pos h

theorem unitsOfBits_large {m : Nat} (h : m / leadingBit ≠ 0) :
    unitsOfBits m = (m % leadingBit + leadingBit) * 2 ^ (m / leadingBit - 1) := if_neg h

/-- The next double is larger.  Where the mantissa is full the exponent takes over. -/
theorem unitsOfBits_lt_succ (m : Nat) : unitsOfBits m < unitsOfBits (m + 1) := by
  have hpos : 0 < leadingBit := by decide
  have hmod : m % leadingBit < leadingBit := Nat.mod_lt _ hpos
  have hdiv : leadingBit * (m / leadingBit) + m % leadingBit = m := Nat.div_add_mod _ _
  by_cases hfull : m % leadingBit + 1 = leadingBit
  · have hsucc : m + 1 = leadingBit * (m / leadingBit + 1) := by
      rw [Nat.mul_add]
      omega
    have hquotient : (m + 1) / leadingBit = m / leadingBit + 1 := by
      rw [hsucc, Nat.mul_div_cancel_left _ hpos]
    have hnext : unitsOfBits (m + 1) = leadingBit * 2 ^ (m / leadingBit) := by
      rw [unitsOfBits_large (hquotient ▸ Nat.succ_ne_zero _), hquotient, hsucc, Nat.mul_mod_right,
        Nat.zero_add, Nat.add_sub_cancel]
    rw [hnext]
    by_cases hzero : m / leadingBit = 0
    · rw [unitsOfBits_small hzero, hzero, Nat.pow_zero]
      rw [hzero] at hdiv
      omega
    · obtain ⟨k, hk⟩ := Nat.exists_eq_succ_of_ne_zero hzero
      have hpower : 0 < 2 ^ k := Nat.two_pow_pos k
      rw [unitsOfBits_large hzero, hk, Nat.succ_sub_one, Nat.pow_succ, Nat.mul_comm (2 ^ k) 2,
        ← Nat.mul_assoc]
      exact Nat.mul_lt_mul_of_pos_right (by omega) hpower
  · have hquotient : (m + 1) / leadingBit = m / leadingBit :=
      Nat.div_eq_of_lt_le (by rw [Nat.mul_comm]; omega)
        (by rw [Nat.mul_comm, Nat.mul_add]; omega)
    have hremainder : (m + 1) % leadingBit = m % leadingBit + 1 := by
      have := Nat.div_add_mod (m + 1) leadingBit
      rw [hquotient] at this
      omega
    by_cases hzero : m / leadingBit = 0
    · rw [unitsOfBits_small hzero, unitsOfBits_small (hquotient.trans hzero)]
      exact Nat.lt_succ_self m
    · rw [unitsOfBits_large hzero, unitsOfBits_large (hquotient ▸ hzero), hquotient, hremainder]
      exact Nat.mul_lt_mul_of_pos_right (by omega) (Nat.two_pow_pos _)

theorem unitsOfBits_strictMono : StrictMono unitsOfBits :=
  strictMono_nat_of_lt_succ unitsOfBits_lt_succ

theorem unitsOfBits_lt_iff {m n : Nat} : unitsOfBits m < unitsOfBits n ↔ m < n :=
  unitsOfBits_strictMono.lt_iff_lt

theorem unitsOfBits_eq_zero_iff {m : Nat} : unitsOfBits m = 0 ↔ m = 0 :=
  unitsOfBits_strictMono.injective.eq_iff' rfl

/-! ## Units of a double -/

/-- A finite double in units. -/
def units (x : Double) : Int :=
  if x.signBit then -(unitsOfBits x.magnitude.toNat : Int) else unitsOfBits x.magnitude.toNat

theorem magnitude_toNat (x : Double) : x.magnitude.toNat = x.bits.toNat % 0x8000000000000000 :=
  UInt64.toNat_mod _ _

theorem signBit_iff {x : Double} : x.signBit = true ↔ 0x8000000000000000 ≤ x.bits.toNat :=
  decide_eq_true_iff

theorem magnitude_lt (x : Double) : x.magnitude.toNat < 0x8000000000000000 := by
  rw [magnitude_toNat]
  exact Nat.mod_lt _ (by decide)

theorem isZero_iff_magnitude {x : Double} : x.isZero = true ↔ x.magnitude.toNat = 0 := by
  rw [isZero, beq_iff_eq, ← UInt64.toNat_inj]
  rfl

theorem orderKey_toNat (x : Double) :
    x.orderKey.toNat =
      if x.signBit then 0x7fffffffffffffff - x.magnitude.toNat
      else x.magnitude.toNat + 0x8000000000000000 := by
  have hlt := x.bits.toNat_lt
  rw [orderKey, magnitude_toNat]
  by_cases hsign : x.signBit = true
  · have hle := signBit_iff.mp hsign
    have hsub : ((0xffffffffffffffff : UInt64) - x.bits).toNat =
        0xffffffffffffffff - x.bits.toNat :=
      UInt64.toNat_sub_of_le _ _ (Nat.le_of_lt_succ hlt)
    rw [if_pos hsign, if_pos hsign, hsub]
    omega
  · have hle := mt signBit_iff.mpr hsign
    rw [if_neg hsign, if_neg hsign, UInt64.toNat_add]
    show (x.bits.toNat + 0x8000000000000000) % 2 ^ 64 = _
    omega

/-- Doubles are ordered by their units. -/
theorem lt_iff_units {x y : Double} (hx : x.isNaN = false) (hy : y.isNaN = false) :
    x < y ↔ x.units < y.units := by
  show lt x y = true ↔ _
  rw [lt, hx, hy]
  simp only [Bool.not_false, Bool.true_and, Bool.and_eq_true, Bool.not_eq_true', decide_eq_true_iff,
    UInt64.lt_iff_toNat_lt, orderKey_toNat]
  have hxlt := x.magnitude_lt
  have hylt := y.magnitude_lt
  have hzero : (x.isZero && y.isZero) = false ↔
      ¬(x.magnitude.toNat = 0 ∧ y.magnitude.toNat = 0) := by
    rw [Bool.eq_false_iff, ne_eq, Bool.and_eq_true, isZero_iff_magnitude, isZero_iff_magnitude]
  have hxpos := @unitsOfBits_eq_zero_iff x.magnitude.toNat
  have hypos := @unitsOfBits_eq_zero_iff y.magnitude.toNat
  have hxy := @unitsOfBits_lt_iff x.magnitude.toNat y.magnitude.toNat
  have hyx := @unitsOfBits_lt_iff y.magnitude.toNat x.magnitude.toNat
  rw [hzero, units, units]
  cases x.signBit <;> cases y.signBit
  all_goals simp only [if_true, if_false, Bool.false_eq_true]
  all_goals omega

theorem le_iff_units {x y : Double} (hx : x.isNaN = false) (hy : y.isNaN = false) :
    x ≤ y ↔ x.units ≤ y.units := by
  have hlt : y < x ↔ y.units < x.units := lt_iff_units hy hx
  show le x y = true ↔ _
  rw [le, hx, hy]
  simp only [Bool.not_false, Bool.true_and, Bool.not_eq_true']
  rw [Bool.eq_false_iff, ← not_lt]
  exact not_congr hlt

/-! ## The view of a finite double -/

theorem biased_toNat (x : Double) :
    (x.magnitude >>> 52).toNat = x.magnitude.toNat / leadingBit := by
  rw [UInt64.toNat_shiftRight]
  exact Nat.shiftRight_eq_div_pow _ _

theorem fraction_toNat (x : Double) :
    (x.bits % 0x10000000000000).toNat = x.magnitude.toNat % leadingBit := by
  rw [magnitude_toNat, UInt64.toNat_mod]
  exact (Nat.mod_mod_of_dvd _ (by decide)).symm

theorem view_eq (x : Double) :
    x.view =
      if x.magnitude.toNat / leadingBit = 2047 then
        if x.magnitude.toNat % leadingBit = 0 then .infinite x.signBit else .notANumber
      else if x.magnitude.toNat / leadingBit = 0 then
        .finite { negative := x.signBit, mantissa := x.magnitude.toNat % leadingBit
                  exponent := -1074 }
      else
        .finite { negative := x.signBit, mantissa := x.magnitude.toNat % leadingBit + leadingBit
                  exponent := ((x.magnitude.toNat / leadingBit : Nat) : Int) - 1075 } := by
  rw [view, biased_toNat, fraction_toNat]

theorem isFinite_iff_biased {x : Double} :
    x.isFinite = true ↔ x.magnitude.toNat / leadingBit ≠ 2047 := by
  have hlt := x.magnitude_lt
  rw [isFinite, decide_eq_true_iff, UInt64.lt_iff_toNat_lt]
  show x.magnitude.toNat < 0x7ff0000000000000 ↔ x.magnitude.toNat / 0x10000000000000 ≠ 2047
  omega

theorem isFinite_iff_view {x : Double} : x.isFinite = true ↔ ∃ d, x.view = .finite d := by
  rw [isFinite_iff_biased, view_eq]
  by_cases htop : x.magnitude.toNat / leadingBit = 2047
  · rw [if_pos htop]
    refine iff_of_false (fun hne => hne htop) ?_
    rintro ⟨d, hd⟩
    split at hd <;> cases hd
  · rw [if_neg htop]
    refine iff_of_true htop ?_
    split <;> exact ⟨_, rfl⟩

/-- The magnitude of the view is that of the units. -/
theorem numerator_of_view {x : Double} {d : Number.Dyadic} (h : x.view = .finite d) :
    d.negative = x.signBit ∧
      d.numerator * unitsInOne = unitsOfBits x.magnitude.toNat * d.denominator := by
  have hfinite := isFinite_iff_biased.mp (isFinite_iff_view.mpr ⟨d, h⟩)
  rw [view_eq, if_neg hfinite] at h
  by_cases hzero : x.magnitude.toNat / leadingBit = 0
  · rw [if_pos hzero] at h
    cases h
    have hmod : x.magnitude.toNat % leadingBit = x.magnitude.toNat :=
      Nat.mod_eq_of_lt ((Nat.div_eq_zero_iff_lt (by decide)).mp hzero)
    refine ⟨rfl, ?_⟩
    rw [unitsOfBits_small hzero, hmod]
    rfl
  · rw [if_neg hzero] at h
    cases h
    refine ⟨rfl, ?_⟩
    rw [unitsOfBits_large hzero, Number.Dyadic.numerator, Number.Dyadic.denominator, unitsInOne,
      places]
    dsimp only
    generalize x.magnitude.toNat / leadingBit = biased at hzero
    generalize x.magnitude.toNat % leadingBit + leadingBit = mantissa
    by_cases hwhole : (0 : Int) ≤ (biased : Int) - 1075
    · have hexponent : biased - 1 = ((biased : Int) - 1075).toNat + 1074 := by omega
      rw [if_pos hwhole, if_pos hwhole, Nat.mul_one, hexponent, Nat.pow_add, ← Nat.mul_assoc]
      rfl
    · have hexponent : 1074 = biased - 1 + (-((biased : Int) - 1075)).toNat := by omega
      rw [if_neg hwhole, if_neg hwhole, hexponent, Nat.pow_add, ← Nat.mul_assoc]
      rfl

theorem denominator_pos (d : Number.Dyadic) : 0 < d.denominator := by
  rw [Number.Dyadic.denominator]
  split
  · exact Nat.one_pos
  · exact Nat.two_pow_pos _

theorem wholePart_of_view {x : Double} {d : Number.Dyadic} (h : x.view = .finite d) :
    d.wholePart = unitsOfBits x.magnitude.toNat / unitsInOne := by
  calc d.wholePart = d.numerator * unitsInOne / (d.denominator * unitsInOne) :=
        (Nat.mul_div_mul_right _ _ unitsInOne_pos).symm
    _ = unitsOfBits x.magnitude.toNat * d.denominator / (unitsInOne * d.denominator) := by
        rw [(numerator_of_view h).2, Nat.mul_comm d.denominator]
    _ = unitsOfBits x.magnitude.toNat / unitsInOne :=
        Nat.mul_div_mul_right _ _ (denominator_pos d)

theorem isInteger_of_view {x : Double} {d : Number.Dyadic} (h : x.view = .finite d) :
    d.isInteger = true ↔ unitsInOne ∣ unitsOfBits x.magnitude.toNat := by
  calc d.isInteger = true ↔ d.denominator ∣ d.numerator := by
        rw [Number.Dyadic.isInteger, beq_iff_eq, Nat.dvd_iff_mod_eq_zero]
    _ ↔ d.denominator * unitsInOne ∣ d.numerator * unitsInOne :=
        (Nat.mul_dvd_mul_iff_right unitsInOne_pos).symm
    _ ↔ unitsInOne * d.denominator ∣ unitsOfBits x.magnitude.toNat * d.denominator := by
        rw [(numerator_of_view h).2, Nat.mul_comm d.denominator]
    _ ↔ unitsInOne ∣ unitsOfBits x.magnitude.toNat :=
        Nat.mul_dvd_mul_iff_right (denominator_pos d)

/-- What truncation makes of a double, by its units. -/
theorem truncate_of_view {x : Double} {d : Number.Dyadic} (h : x.view = .finite d) :
    d.truncate = x.units.tdiv unitsInOne := by
  rw [Number.Dyadic.truncate, wholePart_of_view h, (numerator_of_view h).1, units]
  split
  · rw [Int.neg_tdiv, ← Int.ofNat_tdiv]
  · rw [← Int.ofNat_tdiv]

/-! ## Whole doubles -/

/-- A double that is an integer. -/
def IsWhole (x : Double) (n : Int) : Prop :=
  ∃ d, x.view = .finite d ∧ d.isInteger = true ∧ d.truncate = n

theorem isWhole_iff {x : Double} {n : Int} :
    x.IsWhole n ↔ x.isFinite = true ∧ x.units = n * unitsInOne := by
  have hdvd : unitsInOne ∣ unitsOfBits x.magnitude.toNat ↔ (unitsInOne : Int) ∣ x.units := by
    rw [← Int.natCast_dvd_natCast, units]
    split
    · exact Int.dvd_neg.symm
    · exact Iff.rfl
  have hpos : (unitsInOne : Int) ≠ 0 := by
    have := unitsInOne_pos
    omega
  constructor
  · rintro ⟨d, hview, hinteger, htruncate⟩
    refine ⟨isFinite_iff_view.mpr ⟨d, hview⟩, ?_⟩
    have hunits := hdvd.mp ((isInteger_of_view hview).mp hinteger)
    rw [← htruncate, truncate_of_view hview, Int.tdiv_mul_cancel hunits]
  · rintro ⟨hfinite, hunits⟩
    obtain ⟨d, hview⟩ := isFinite_iff_view.mp hfinite
    refine ⟨d, hview, (isInteger_of_view hview).mpr (hdvd.mpr ?_), ?_⟩
    · exact Dvd.intro_left n hunits.symm
    · rw [truncate_of_view hview, hunits, Int.mul_tdiv_cancel _ hpos]

end Double
end Awk
