import Awk.Proofs.DoubleValues

/-!
# Exact sums of doubles

A sum is rounded to the nearest double, so it is exact where it is a double.  Mantissas and
exponents of doubles are in a normal form: the mantissa is full, or the exponent is the least one.
Rounding a number that has a normal form finds that form.
-/

namespace Awk
namespace Number

open Float.Model (Format UnpackedFloat totalExponent)
open Float.Model.UnpackedFloat

/-! ## Normal forms -/

/-- A mantissa and an exponent, counted from the least one, as doubles have them. -/
structure Normal (c q : Nat) : Prop where
  lt : c < 2 ^ 53
  full : 2 ^ 52 ≤ c ∨ q = 0
  in_range : q ≤ 2045

theorem log2_mul_two_pow {m : Nat} (h : m ≠ 0) (k : Nat) : (m * 2 ^ k).log2 = m.log2 + k := by
  obtain ⟨hle, hlt⟩ := (Nat.log2_eq_iff h).mp rfl
  have hpos : 0 < 2 ^ k := Nat.two_pow_pos k
  refine (Nat.log2_eq_iff (Nat.mul_ne_zero h hpos.ne')).mpr ⟨?_, ?_⟩
  · rw [Nat.pow_add]
    exact Nat.mul_le_mul_right _ hle
  · rw [Nat.add_right_comm, Nat.pow_add]
    exact Nat.mul_lt_mul_of_pos_right hlt hpos

/-- An exponent counted from the least one, as rounding counts it. -/
def exponentOf (q : Nat) : Int := (q : Int) - 1074

/-- Rounding aims at the exponent of the normal form. -/
theorem targetExponent_eq {c q m a : Nat} (hnormal : Normal c q) (hc : c ≠ 0)
    (hvalue : m * 2 ^ a = c * 2 ^ q) :
    Format.binary64.targetExponent (totalExponent m (exponentOf a)) = exponentOf q := by
  have htarget : Format.binary64.targetExponent (totalExponent m (exponentOf a)) =
      max ((m.log2 : Int) + 1 + exponentOf a - 53) (-1074) := rfl
  have hm : m ≠ 0 := by
    rintro rfl
    rw [Nat.zero_mul] at hvalue
    exact Nat.mul_ne_zero hc (Nat.two_pow_pos q).ne' hvalue.symm
  have hlog : m.log2 + a = c.log2 + q := by
    rw [← log2_mul_two_pow hm, ← log2_mul_two_pow hc, hvalue]
  have hupper : c.log2 < 53 := (Nat.log2_lt hc).mpr hnormal.lt
  have hlower : 2 ^ 52 ≤ c → 52 ≤ c.log2 := (Nat.le_log2 hc).mpr
  rw [htarget, exponentOf, exponentOf]
  rcases hnormal.full with hfull | rfl
  · have := hlower hfull
    omega
  · omega

theorem shiftRight_exact (c k : Nat) :
    (⟨c * 2 ^ k, false, false⟩ : ExtendedMantissa) >>> k = ⟨c, false, false⟩ := by
  induction k generalizing c with
  | zero =>
    rw [Nat.pow_zero, Nat.mul_one]
    rfl
  | succ k ih =>
    have hstep : ((⟨c * 2 ^ (k + 1), false, false⟩ : ExtendedMantissa) >>> k) =
        ⟨c * 2, false, false⟩ := by
      rw [Nat.pow_succ, Nat.mul_comm (2 ^ k) 2, ← Nat.mul_assoc]
      exact ih (c * 2)
    show ExtendedMantissa.shiftRightOne
      ((⟨c * 2 ^ (k + 1), false, false⟩ : ExtendedMantissa) >>> k) = _
    rw [hstep, ExtendedMantissa.shiftRightOne]
    simp

theorem shiftToTargetExponent_exact {c q a k : Nat} (hnormal : Normal c q) (hc : c ≠ 0)
    (hq : q = a + k) :
    shiftToTargetExponent Format.binary64 (c * 2 ^ k) (exponentOf a) .exact =
      (⟨c, false, false⟩, exponentOf q) := by
  have hvalue : c * 2 ^ k * 2 ^ a = c * 2 ^ q := by
    rw [hq, Nat.mul_assoc, ← Nat.pow_add, Nat.add_comm]
  have hshift : (exponentOf q - exponentOf a).toNat = k := by
    rw [exponentOf, exponentOf]
    omega
  rw [shiftToTargetExponent, targetExponent_eq hnormal hc hvalue, shiftToExponent]
  dsimp only [ExtendedMantissa.ofMantissaAndAccuracy]
  rw [hshift, shiftRight_exact, exponentOf, exponentOf]
  congr 1
  omega

theorem roundWithAccuracy_exact {c q a k : Nat} (hnormal : Normal c q) (hc : 0 < c)
    (hq : q = a + k) (s : Sign) :
    roundWithAccuracy Format.binary64 s (c * 2 ^ k) (exponentOf a) .exact =
      .finite s c (exponentOf q) hc := by
  have hfirst := shiftToTargetExponent_exact hnormal hc.ne' hq
  have hsecond := shiftToTargetExponent_exact (a := q) (k := 0) hnormal hc.ne' rfl
  have hrounded : ExtendedMantissa.roundedMantissa ⟨c, false, false⟩ = c := rfl
  rw [Nat.pow_zero, Nat.mul_one] at hsecond
  rw [roundWithAccuracy]
  simp only [hfirst, hrounded, hsecond, dif_neg hc.ne']

/-- A number with a normal form is rounded to it. -/
theorem round_exact {c q m a : Nat} (hnormal : Normal c q) (hc : 0 < c)
    (hvalue : m * 2 ^ a = c * 2 ^ q) (s : Sign) :
    UnpackedFloat.round Format.binary64 s m (exponentOf a) = .finite s c (exponentOf q) hc := by
  rw [UnpackedFloat.round, decreaseExponent]
  dsimp only
  rw [targetExponent_eq hnormal hc.ne' hvalue]
  rcases Nat.le_total a q with hle | hle
  · obtain ⟨k, hk⟩ := Nat.exists_eq_add_of_le hle
    have hm : m = c * 2 ^ k := by
      rw [hk, Nat.pow_add, Nat.mul_comm (2 ^ a), ← Nat.mul_assoc] at hvalue
      exact Nat.eq_of_mul_eq_mul_right (Nat.two_pow_pos a) hvalue
    have hshift : (exponentOf a - exponentOf q).toNat = 0 := by
      rw [exponentOf, exponentOf]
      omega
    rw [hshift, Nat.shiftLeft_zero, Int.natCast_zero, Int.sub_zero, hm]
    exact roundWithAccuracy_exact hnormal hc hk s
  · obtain ⟨k, hk⟩ := Nat.exists_eq_add_of_le hle
    have hm : m <<< k = c := by
      rw [hk, Nat.pow_add, Nat.mul_comm (2 ^ q), ← Nat.mul_assoc] at hvalue
      rw [Nat.shiftLeft_eq]
      exact Nat.eq_of_mul_eq_mul_right (Nat.two_pow_pos q) hvalue
    have hshift : (exponentOf a - exponentOf q).toNat = k := by
      rw [exponentOf, exponentOf]
      omega
    have hexponent : exponentOf a - (k : Int) = exponentOf q := by
      rw [exponentOf, exponentOf]
      omega
    have hplain := roundWithAccuracy_exact (a := q) (k := 0) hnormal hc rfl s
    rw [Nat.pow_zero, Nat.mul_one] at hplain
    rw [hshift, hexponent, hm, hplain]

/-! ## Sums -/

/-- A float of so many units, in normal form. -/
inductive Carries : UnpackedFloat → Int → Prop
  | zero (s : Sign) : Carries (.zero s) 0
  | finite (s : Sign) {c q : Nat} (h : Normal c q) (hc : 0 < c) :
      Carries (.finite s c (exponentOf q) hc) (s.apply (c * 2 ^ q : Nat))

/-- A number of units that has a normal form. -/
def IsDouble (n : Int) : Prop := n = 0 ∨ ∃ c q, Normal c q ∧ 0 < c ∧ n.natAbs = c * 2 ^ q

/-- Rounding keeps what is a double. -/
theorem round_carries {m a : Nat} (hm : m ≠ 0) (h : IsDouble (m * 2 ^ a : Nat)) (s : Sign) :
    Carries (UnpackedFloat.round Format.binary64 s m (exponentOf a))
      (s.apply (m * 2 ^ a : Nat)) := by
  obtain hzero | ⟨c, q, hnormal, hc, hunits⟩ := h
  · exact absurd (Int.natCast_eq_zero.mp hzero) (Nat.mul_ne_zero hm (Nat.two_pow_pos a).ne')
  · rw [Int.natAbs_natCast] at hunits
    rw [round_exact hnormal hc hunits, hunits]
    exact .finite s hnormal hc

theorem normalize_carries {z : Int} {a : Nat} (h : IsDouble (z * 2 ^ a)) (s : Sign) :
    Carries (UnpackedFloat.normalize Format.binary64 z (exponentOf a) s) (z * 2 ^ a) := by
  have habs : IsDouble (z.natAbs * 2 ^ a : Nat) := by
    have hunits : (z * 2 ^ a).natAbs = z.natAbs * 2 ^ a := by
      rw [Int.natAbs_mul, Int.natAbs_pow]
      rfl
    rw [← hunits]
    exact h.imp (fun hzero => by rw [hzero]; rfl) (by rw [Int.natAbs_natCast]; exact id)
  have hcast : ((z.natAbs * 2 ^ a : Nat) : Int) = (z.natAbs : Int) * 2 ^ a := by
    rw [Int.natCast_mul, Int.natCast_pow]
    rfl
  rw [UnpackedFloat.normalize]
  rcases lt_trichotomy z 0 with hneg | rfl | hplus
  · have hround := round_carries (Int.natAbs_ne_zero.mpr hneg.ne) habs .negative
    have hz : Sign.negative.apply (z.natAbs * 2 ^ a : Nat) = z * 2 ^ a := by
      show -((z.natAbs * 2 ^ a : Nat) : Int) = _
      rw [hcast, ← Int.neg_mul]
      congr 1
      omega
    rw [Int.compare_eq_lt.mpr hneg]
    dsimp only
    rwa [show (-z).toNat = z.natAbs by omega, ← hz]
  · rw [Int.compare_eq_eq.mpr rfl, Int.zero_mul]
    exact .zero s
  · have hround := round_carries (Int.natAbs_ne_zero.mpr hplus.ne') habs .positive
    have hz : Sign.positive.apply (z.natAbs * 2 ^ a : Nat) = z * 2 ^ a := by
      show ((z.natAbs * 2 ^ a : Nat) : Int) = _
      rw [hcast]
      congr 1
      omega
    rw [Int.compare_eq_gt.mpr hplus]
    dsimp only
    rwa [show z.toNat = z.natAbs by omega, ← hz]

theorem apply_mul (s : Sign) (m n : Int) : s.apply m * n = s.apply (m * n) := by
  cases s
  · exact Int.neg_mul m n
  · rfl

/-- A mantissa moved to a lower exponent keeps its units. -/
theorem decreaseExponent_units (c : Nat) {q a : Nat} (h : a ≤ q) :
    decreaseExponent c (exponentOf q) (exponentOf a) = (c * 2 ^ (q - a), exponentOf a) := by
  have hshift : (exponentOf q - exponentOf a).toNat = q - a := by
    rw [exponentOf, exponentOf]
    omega
  rw [decreaseExponent, hshift, Nat.shiftLeft_eq, exponentOf, exponentOf]
  congr 1
  omega

theorem add_carries {u v : UnpackedFloat} {m n : Int} (hu : Carries u m) (hv : Carries v n)
    (hsum : IsDouble (m + n)) : Carries (UnpackedFloat.add Format.binary64 u v) (m + n) := by
  cases hu with
  | zero s =>
    cases hv with
    | zero t =>
      rw [UnpackedFloat.add, Int.add_zero]
      split <;> exact .zero _
    | finite t h hc =>
      rw [Int.zero_add]
      exact .finite t h hc
  | @finite s c q hs hc =>
    cases hv with
    | zero t =>
      rw [Int.add_zero]
      exact .finite s hs hc
    | @finite t d r ht hd =>
      have hmin : min (exponentOf q) (exponentOf r) = exponentOf (min q r) := by
        rw [exponentOf, exponentOf, exponentOf]
        omega
      have hunits : (s.apply (c * 2 ^ (q - min q r) : Nat) +
          t.apply (d * 2 ^ (r - min q r) : Nat)) * 2 ^ min q r =
            s.apply (c * 2 ^ q : Nat) + t.apply (d * 2 ^ r : Nat) := by
        have hq : c * 2 ^ q = c * 2 ^ (q - min q r) * 2 ^ min q r := by
          rw [Nat.mul_assoc, ← Nat.pow_add, Nat.sub_add_cancel (Nat.min_le_left q r)]
        have hr : d * 2 ^ r = d * 2 ^ (r - min q r) * 2 ^ min q r := by
          rw [Nat.mul_assoc, ← Nat.pow_add, Nat.sub_add_cancel (Nat.min_le_right q r)]
        rw [hq, hr, Int.add_mul, apply_mul, apply_mul, Int.natCast_mul _ (2 ^ min q r),
          Int.natCast_mul _ (2 ^ min q r), Int.natCast_pow]
        rfl
      rw [UnpackedFloat.add]
      dsimp only
      rw [hmin, decreaseExponent_units c (Nat.min_le_left q r),
        decreaseExponent_units d (Nat.min_le_right q r), ← hunits]
      exact normalize_carries (hunits ▸ hsum) .positive

theorem sub_eq_add_neg (u v : UnpackedFloat) :
    UnpackedFloat.sub Format.binary64 u v = UnpackedFloat.add Format.binary64 u v.neg := by
  cases u <;> cases v
  case finite.finite s m e hm t n f hn =>
    rw [UnpackedFloat.sub, UnpackedFloat.neg, UnpackedFloat.add]
    cases t
    · show UnpackedFloat.normalize _ (_ - -_) _ _ = UnpackedFloat.normalize _ (_ + _) _ _
      rw [Int.sub_neg]
      rfl
    · rfl
  all_goals rfl

theorem Carries.neg {u : UnpackedFloat} {n : Int} (h : Carries u n) : Carries u.neg (-n) := by
  cases h with
  | zero s => exact .zero (-s)
  | @finite s c q h hc =>
    have happly : -s.apply (c * 2 ^ q : Nat) = (-s).apply (c * 2 ^ q : Nat) := by
      cases s
      · exact Int.neg_neg _
      · rfl
    rw [happly]
    exact .finite (-s) h hc

theorem sub_carries {u v : UnpackedFloat} {m n : Int} (hu : Carries u m) (hv : Carries v n)
    (hdifference : IsDouble (m - n)) :
    Carries (UnpackedFloat.sub Format.binary64 u v) (m - n) := by
  rw [sub_eq_add_neg, Int.sub_eq_add_neg]
  exact add_carries hu hv.neg (Int.sub_eq_add_neg ▸ hdifference)

end Number

namespace Double

open Float.Model (Format UnpackedFloat)
open Float.Model.UnpackedFloat
open Number

/-! ## The fields of a double -/

theorem unitsOfBits_fields (e : Nat) {m : Nat} (hm : m < leadingBit) :
    unitsOfBits (e * leadingBit + m) = if e = 0 then m else (m + leadingBit) * 2 ^ (e - 1) := by
  have hpos : 0 < leadingBit := by decide
  have hdiv : (e * leadingBit + m) / leadingBit = e := by
    rw [Nat.mul_comm, Nat.mul_add_div hpos, Nat.div_eq_of_lt hm, Nat.add_zero]
  have hmod : (e * leadingBit + m) % leadingBit = m := by
    rw [Nat.mul_comm, Nat.mul_add_mod, Nat.mod_eq_of_lt hm]
  by_cases he : e = 0
  · rw [if_pos he, unitsOfBits_small (hdiv.trans he), he, Nat.zero_mul, Nat.zero_add]
  · rw [if_neg he, unitsOfBits_large fun h => he (hdiv.symm.trans h), hdiv, hmod]

theorem packComponents_toNat (s : Sign) (e : BitVec 11) (m : BitVec 52) :
    (packComponents Format.binary64 s e m).toNat =
      s.toBitVec.toNat * 0x8000000000000000 + (e.toNat * leadingBit + m.toNat) := by
  show (s.toBitVec ++ e ++ m).toNat = _
  rw [BitVec.toNat_append, ← Nat.shiftLeft_add_eq_or_of_lt m.isLt, BitVec.toNat_append,
    ← Nat.shiftLeft_add_eq_or_of_lt e.isLt, Nat.shiftLeft_eq, Nat.shiftLeft_eq]
  show (s.toBitVec.toNat * 2 ^ 11 + e.toNat) * 2 ^ 52 + m.toNat =
    s.toBitVec.toNat * 0x8000000000000000 + (e.toNat * 0x10000000000000 + m.toNat)
  omega

/-- The double with these fields. -/
def ofFields (s : Sign) (e : BitVec 11) (m : BitVec 52) : Double :=
  ⟨UInt64.ofBitVec (packComponents Format.binary64 s e m)⟩

theorem ofFields_units (s : Sign) (e : BitVec 11) (m : BitVec 52) :
    (ofFields s e m).units = s.apply (unitsOfBits (e.toNat * leadingBit + m.toNat)) := by
  have he : e.toNat < 2 ^ 11 := e.isLt
  have hm : m.toNat < 2 ^ 52 := m.isLt
  have hbits : (ofFields s e m).bits.toNat =
      s.toBitVec.toNat * 0x8000000000000000 + (e.toNat * leadingBit + m.toNat) :=
    packComponents_toNat s e m
  have hlt : e.toNat * leadingBit + m.toNat < 0x8000000000000000 := by
    show e.toNat * 0x10000000000000 + m.toNat < _
    omega
  have hmagnitude : (ofFields s e m).magnitude.toNat = e.toNat * leadingBit + m.toNat := by
    rw [magnitude_toNat, hbits]
    omega
  rw [units, hmagnitude]
  have hsign := @signBit_iff (ofFields s e m)
  rw [hbits] at hsign
  cases s
  · rw [if_pos (hsign.mpr (by show _ ≤ 1 * _ + _; omega))]
    rfl
  · rw [if_neg (mt hsign.mp (by show ¬_ ≤ 0 * _ + _; omega))]
    rfl

theorem ofFields_isFinite {s : Sign} {e : BitVec 11} {m : BitVec 52} (h : e.toNat ≠ 2047) :
    (ofFields s e m).isFinite = true := by
  refine isFinite_iff.mpr ?_
  show unpackExponent (packComponents Format.binary64 s e m) ≠ _
  rw [unpackExponent_packComponents]
  exact fun heq => h (heq ▸ rfl)

theorem eq_ofFields (x : Double) :
    x = ofFields (Sign.ofBitVec (@unpackSign Format.binary64 x.bits.toBitVec))
      (@unpackExponent Format.binary64 x.bits.toBitVec)
      (@unpackMantissa Format.binary64 x.bits.toBitVec) :=
  congrArg (fun b => (⟨UInt64.ofBitVec b⟩ : Double))
    (@packComponents_unpackSign_unpackExponent_unpackMantissa
      Format.binary64 x.bits.toBitVec).symm

/-- What a finite double is unpacked to. -/
theorem unpack_carries {x : Double} (h : x.isFinite = true) :
    Carries (UnpackedFloat.unpack Format.binary64 x.bits.toBitVec) x.units := by
  have hfinite := isFinite_iff.mp h
  have hunits := (congrArg units (eq_ofFields x)).trans (ofFields_units _ _ _)
  rw [hunits]
  generalize x.bits.toBitVec = b at hfinite
  have he : (@unpackExponent Format.binary64 b).toNat < 2 ^ 11 :=
    (@unpackExponent Format.binary64 b).isLt
  have hm : (@unpackMantissa Format.binary64 b).toNat < 2 ^ 52 :=
    (@unpackMantissa Format.binary64 b).isLt
  have htop : (@unpackExponent Format.binary64 b).toNat ≠ 2047 :=
    fun heq => hfinite (exponent_eq_of_toNat heq)
  have hbias : (Format.binary64.exponentBias : Int) = 1023 := rfl
  have hbits : (Format.binary64.mantissaBitsWithoutImplicit : Int) = 52 := rfl
  rw [unitsOfBits_fields _ hm, UnpackedFloat.unpack]
  dsimp only
  rw [if_neg hfinite]
  by_cases hzero : @unpackExponent Format.binary64 b = 0#11
  · have hexponent : (@unpackExponent Format.binary64 b).toNat = 0 := by rw [hzero]; rfl
    rw [if_pos hzero, if_pos hexponent]
    by_cases hnone : @unpackMantissa Format.binary64 b = 0#52
    · have hmantissa : (@unpackMantissa Format.binary64 b).toNat = 0 := by rw [hnone]; rfl
      rw [dif_pos hnone, hmantissa]
      cases Sign.ofBitVec (@unpackSign Format.binary64 b) <;> exact .zero _
    · have hpos : 0 < (@unpackMantissa Format.binary64 b).toNat :=
        Nat.pos_of_ne_zero fun h0 => hnone (BitVec.eq_of_toNat_eq h0)
      have hleast : ((@unpackExponent Format.binary64 b).toNat : Int) -
          (Format.binary64.exponentBias + Format.binary64.mantissaBitsWithoutImplicit) + 1 =
            exponentOf 0 := by
        rw [hexponent, hbias, hbits]
        rfl
      rw [dif_neg hnone]
      have hnormal : Normal (@unpackMantissa Format.binary64 b).toNat 0 :=
        ⟨Nat.lt_trans hm (by decide), .inr rfl, Nat.zero_le _⟩
      have hcarries := Carries.finite (Sign.ofBitVec (@unpackSign Format.binary64 b)) hnormal hpos
      rw [Nat.pow_zero, Nat.mul_one] at hcarries
      simpa only [hleast] using hcarries
  · have hexponent : (@unpackExponent Format.binary64 b).toNat ≠ 0 :=
      fun h0 => hzero (BitVec.eq_of_toNat_eq h0)
    have hleading : (1#1 ++ @unpackMantissa Format.binary64 b).toNat =
        leadingBit + (@unpackMantissa Format.binary64 b).toNat := append_one_toNat _
    have hplace : ((@unpackExponent Format.binary64 b).toNat : Int) -
        (Format.binary64.exponentBias + Format.binary64.mantissaBitsWithoutImplicit) =
          exponentOf ((@unpackExponent Format.binary64 b).toNat - 1) := by
      rw [hbias, hbits, exponentOf]
      omega
    have hmantissa : leadingBit + (@unpackMantissa Format.binary64 b).toNat < 2 ^ 53 := by
      show 0x10000000000000 + _ < _
      omega
    have hnormal : Normal (leadingBit + (@unpackMantissa Format.binary64 b).toNat)
        ((@unpackExponent Format.binary64 b).toNat - 1) :=
      ⟨hmantissa, .inl (Nat.le_add_right _ _), by omega⟩
    have hpos : 0 < leadingBit + (@unpackMantissa Format.binary64 b).toNat :=
      Nat.lt_of_lt_of_le (by decide) (Nat.le_add_right _ _)
    rw [if_neg hzero, if_neg hexponent, Nat.add_comm _ leadingBit]
    simpa only [hleading, hplace] using
      Carries.finite (Sign.ofBitVec (@unpackSign Format.binary64 b)) hnormal hpos

/-- The double that is packed from a float. -/
def ofUnpacked (u : UnpackedFloat) : Double :=
  ⟨UInt64.ofBitVec (UnpackedFloat.pack Format.binary64 u)⟩

theorem ofUnpacked_units {u : UnpackedFloat} {n : Int} (h : Carries u n) :
    (ofUnpacked u).isFinite = true ∧ (ofUnpacked u).units = n := by
  cases h with
  | zero s =>
    have hfields : ofUnpacked (.zero s) = ofFields s 0#11 0#52 := rfl
    have hzero : s.apply 0 = 0 := by cases s <;> rfl
    rw [hfields, ofFields_units, unitsOfBits_fields _ (by decide),
      if_pos (@BitVec.toNat_zero 11)]
    exact ⟨ofFields_isFinite (by decide), hzero⟩
  | @finite s c q hnormal hc =>
    have hlt := hnormal.lt
    have hrange := hnormal.in_range
    have hbiased : (exponentOf q + Format.binary64.exponentBias +
        Format.binary64.mantissaBitsWithoutImplicit).toNat = q + 1 := by
      show ((q : Int) - 1074 + 1023 + 52).toNat = q + 1
      omega
    have hmantissa : (BitVec.ofNat 52 c).toNat = c % leadingBit := BitVec.toNat_ofNat c 52
    have hmod : c % leadingBit < leadingBit := Nat.mod_lt _ (by decide)
    by_cases hfull : 2 ^ 52 ≤ c
    · have hlog : c.log2 + 1 = Format.binary64.mantissaBits := by
        rw [(Nat.log2_eq_iff hc.ne').mpr ⟨hfull, hlt⟩]
        rfl
      have hexponent : (BitVec.ofNat 11 (q + 1)).toNat = q + 1 := by
        rw [BitVec.toNat_ofNat, Nat.mod_eq_of_lt (by omega)]
      have hfields : ofUnpacked (.finite s c (exponentOf q) hc) =
          ofFields s (BitVec.ofNat 11 (q + 1)) (BitVec.ofNat 52 c) := by
        rw [ofUnpacked, UnpackedFloat.pack]
        dsimp only
        rw [hbiased, if_neg (by show ¬2 ^ 11 ≤ _; omega), if_pos hlog]
        rfl
      have hwhole : c % leadingBit + leadingBit = c := by
        have hle : leadingBit ≤ c := hfull
        rw [Nat.mod_eq_sub_mod hle, Nat.mod_eq_of_lt (by
          show c - 0x10000000000000 < 0x10000000000000
          omega), Nat.sub_add_cancel hle]
      rw [hfields, ofFields_units, hexponent, hmantissa, unitsOfBits_fields _ hmod,
        if_neg (Nat.succ_ne_zero q), hwhole, Nat.add_sub_cancel]
      refine ⟨ofFields_isFinite ?_, rfl⟩
      rw [hexponent]
      omega
    · have hq : q = 0 := hnormal.full.resolve_left hfull
      have hlog : c.log2 + 1 ≠ Format.binary64.mantissaBits := by
        have := (Nat.log2_lt hc.ne').mpr (Nat.lt_of_not_le hfull)
        show c.log2 + 1 ≠ 53
        omega
      have hfields : ofUnpacked (.finite s c (exponentOf q) hc) =
          ofFields s 0#11 (BitVec.ofNat 52 c) := by
        rw [ofUnpacked, UnpackedFloat.pack]
        dsimp only
        rw [hbiased, if_neg (by show ¬2 ^ 11 ≤ _; omega), if_neg hlog]
        rfl
      have hsmall : c % leadingBit = c := Nat.mod_eq_of_lt (Nat.lt_of_not_le hfull)
      rw [hfields, ofFields_units, hmantissa, unitsOfBits_fields _ hmod,
        if_pos (@BitVec.toNat_zero 11), hsmall, hq, Nat.pow_zero, Nat.mul_one]
      exact ⟨ofFields_isFinite (by decide), rfl⟩

/-! ## Exact sums and differences -/

/-- A finite double keeps its fields on the way to a float. -/
theorem toFloat_unpack {x : Double} (h : x.isFinite = true) :
    x.toFloat.toModel.unpack = UnpackedFloat.unpack Format.binary64 x.bits.toBitVec := by
  have hfinite := isFinite_iff.mp h
  have hbits : @isNaNBits Format.binary64 x.bits.toBitVec = false :=
    decide_eq_false fun hnan => hfinite hnan.1
  show UnpackedFloat.unpack Format.binary64
    (UnpackedFloat.pack Format.binary64 (UnpackedFloat.unpack Format.binary64 x.bits.toBitVec)) = _
  rw [pack_unpack, hbits]
  rfl

theorem ofFloat_units {u : UnpackedFloat} {n : Int} (h : Carries u n) :
    (ofFloat ⟨.pack u⟩).isFinite = true ∧ (ofFloat ⟨.pack u⟩).units = n := by
  have hunits := ofUnpacked_units h
  have heq : ofFloat ⟨.pack u⟩ = ofUnpacked u := ofFloat_of_isFinite hunits.1
  rw [heq]
  exact hunits

theorem map₂_of_isFinite {f : Float → Float → Float} {x y : Double}
    (h : (ofFloat (f x.toFloat y.toFloat)).isFinite = true) :
    map₂ f x y = ofFloat (f x.toFloat y.toFloat) := by
  rw [map₂, isNaN_of_isFinite h]
  rfl

variable {x y : Double}

/-- A sum that is a double is exact. -/
theorem add_units (hx : x.isFinite = true) (hy : y.isFinite = true)
    (h : IsDouble (x.units + y.units)) :
    (x + y).isFinite = true ∧ (x + y).units = x.units + y.units := by
  have hsum := ofFloat_units (add_carries (unpack_carries hx) (unpack_carries hy) h)
  have hfloat : x.toFloat.add y.toFloat = ⟨.pack (UnpackedFloat.add Format.binary64
      (UnpackedFloat.unpack Format.binary64 x.bits.toBitVec)
      (UnpackedFloat.unpack Format.binary64 y.bits.toBitVec))⟩ := by
    rw [← toFloat_unpack hx, ← toFloat_unpack hy]
    rfl
  rw [← hfloat] at hsum
  rwa [← map₂_of_isFinite hsum.1] at hsum

/-- A difference that is a double is exact. -/
theorem sub_units (hx : x.isFinite = true) (hy : y.isFinite = true)
    (h : IsDouble (x.units - y.units)) :
    (x - y).isFinite = true ∧ (x - y).units = x.units - y.units := by
  have hdifference := ofFloat_units (sub_carries (unpack_carries hx) (unpack_carries hy) h)
  have hfloat : x.toFloat.sub y.toFloat = ⟨.pack (UnpackedFloat.sub Format.binary64
      (UnpackedFloat.unpack Format.binary64 x.bits.toBitVec)
      (UnpackedFloat.unpack Format.binary64 y.bits.toBitVec))⟩ := by
    rw [← toFloat_unpack hx, ← toFloat_unpack hy]
    rfl
  rw [← hfloat] at hdifference
  rwa [← map₂_of_isFinite hdifference.1] at hdifference

end Double
end Awk
