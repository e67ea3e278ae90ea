import Mathlib
import Awk.Number.Double

/-!
# Whole numbers as doubles

A whole number of 64 bits is a finite double, and the double of its negative has the same bits but
for the sign.  Both follow from what packing and unpacking make of the fields of a double, and from
a bound on the exponent that rounding arrives at.
-/

namespace Awk
namespace Number

open Float.Model (Format UnpackedFloat totalExponent)
open Float.Model.UnpackedFloat

/-! ## Fields of a double -/

/-- The bits of a double, one field beside the other. -/
abbrev Word := BitVec Format.binary64.numBits

/-- The sign bit alone. -/
def signMask : Word := 0x8000000000000000#64

theorem signMask_getElem (i : Nat) (hi : i < 64) :
    (signMask : BitVec 64)[i] = decide (i = 63) := by
  have h : (signMask : BitVec 64) = BitVec.twoPow 64 63 := rfl
  rw [h, BitVec.getElem_twoPow]

/-- Fields put together with the other sign. -/
theorem packComponents_neg (s : Sign) (e : BitVec 11) (m : BitVec 52) :
    packComponents Format.binary64 (-s) e m =
      packComponents Format.binary64 s e m ^^^ signMask := by
  have hsign : (-s).toBitVec = ~~~ s.toBitVec := by cases s <;> rfl
  rw [packComponents, packComponents, hsign]
  ext i hi
  have hmask := signMask_getElem i hi
  grind

/-- The sign of a number decides its sign bit and nothing else. -/
theorem pack_neg {x : UnpackedFloat} (h : x ≠ .notANumber) :
    UnpackedFloat.pack Format.binary64 x.neg =
      UnpackedFloat.pack Format.binary64 x ^^^ signMask := by
  cases x with
  | notANumber => exact absurd rfl h
  | infinity s => exact packComponents_neg s _ _
  | zero s => exact packComponents_neg s _ _
  | finite s m e hm =>
    rw [UnpackedFloat.neg, UnpackedFloat.pack, UnpackedFloat.pack]
    dsimp only
    split
    · exact packComponents_neg s _ _
    · split
      · exact packComponents_neg s _ _
      · exact packComponents_neg s _ _

theorem unpackExponent_toNat (b : Word) :
    (unpackExponent b).toNat = b.toNat / 0x10000000000000 % 2048 := by
  simp only [unpackExponent, BitVec.toNat_cast, BitVec.extractLsb_toNat]
  rw [Nat.shiftRight_eq_div_pow]

theorem exponent_eq_of_toNat {e : BitVec 11} (h : e.toNat = 2047) : e = -1#11 :=
  BitVec.eq_of_toNat_eq h

theorem append_one_toNat (m : BitVec 52) : (1#1 ++ m).toNat = 0x10000000000000 + m.toNat := by
  rw [BitVec.toNat_append, ← Nat.shiftLeft_add_eq_or_of_lt m.isLt]
  rfl

theorem unpackExponent_xor_signMask (b : Word) :
    unpackExponent (b ^^^ signMask) = unpackExponent b := by
  have hb := packComponents_unpackSign_unpackExponent_unpackMantissa b
  rw [← hb, ← packComponents_neg, unpackExponent_packComponents, unpackExponent_packComponents]

/-- Packing a finite double whose sign was changed changes the sign bit. -/
theorem pack_neg_unpack {b : Word} (h : unpackExponent b ≠ -1#11) :
    UnpackedFloat.pack Format.binary64 (UnpackedFloat.unpack Format.binary64 b).neg =
      b ^^^ signMask := by
  have hbits : isNaNBits b = false := decide_eq_false fun hnan => h hnan.1
  have hnumber : UnpackedFloat.unpack Format.binary64 b ≠ .notANumber := by
    unfold UnpackedFloat.unpack
    dsimp only
    rw [if_neg h]
    split
    · split <;> exact nofun
    · exact nofun
  rw [pack_neg hnumber, pack_unpack b, hbits]
  rfl

/-! ## Exponents that rounding arrives at -/

/-- Zero, or a number whose exponent is at most a bound. -/
def ExponentAtMost (bound : Int) : UnpackedFloat → Prop
  | .zero _ => True
  | .finite _ _ exponent _ => exponent ≤ bound
  | _ => False

theorem ExponentAtMost.weaken {bound bound' : Int} {x : UnpackedFloat}
    (h : ExponentAtMost bound x) (hle : bound ≤ bound') : ExponentAtMost bound' x := by
  cases x with
  | zero => trivial
  | finite s m e hm => exact le_trans (show e ≤ bound from h) hle
  | _ => exact h

theorem shiftRight_mantissa_le (em : ExtendedMantissa) (n : Nat) :
    (em >>> n).mantissa ≤ em.mantissa := by
  induction n with
  | zero => exact le_rfl
  | succ n ih => exact le_trans (Nat.div_le_self _ 2) ih

theorem roundedMantissa_le (em : ExtendedMantissa) : em.roundedMantissa ≤ em.mantissa + 1 := by
  obtain ⟨m, roundBit, stickyBit⟩ := em
  have hmod := Nat.mod_lt m (by decide : 0 < 2)
  cases roundBit <;> cases stickyBit
  all_goals simp only [ExtendedMantissa.roundedMantissa, ExtendedMantissa.accuracy,
    Accuracy.roundToNearestEven]
  all_goals omega

theorem log2_le_log2_add_one {m m' : Nat} (h : m' ≤ m + 1) : m'.log2 ≤ m.log2 + 1 := by
  by_cases hm' : m' = 0
  · rw [hm', Nat.log2_zero]
    exact Nat.zero_le _
  · have hlt : m < 2 ^ (m.log2 + 1) := Nat.lt_log2_self
    have hpos : 0 < 2 ^ (m.log2 + 1) := Nat.two_pow_pos _
    have : m' < 2 ^ (m.log2 + 2) := by
      rw [Nat.pow_succ]
      omega
    have := (Nat.log2_lt hm').mpr this
    omega

theorem shiftToTargetExponent_mantissa_le (m : Nat) (e : Int) :
    (shiftToTargetExponent Format.binary64 m e .exact).1.mantissa ≤ m :=
  shiftRight_mantissa_le _ _

theorem shiftToTargetExponent_exponent (m : Nat) (e : Int) :
    (shiftToTargetExponent Format.binary64 m e .exact).2 =
      max e (max ((m.log2 : Int) + 1 + e - 53) (-1074)) := by
  have htarget : Format.binary64.targetExponent (totalExponent m e) =
      max ((m.log2 : Int) + 1 + e - 53) (-1074) := rfl
  show e + ((Format.binary64.targetExponent (totalExponent m e) - e).toNat : Int) = _
  rw [htarget]
  omega

/-- Both shifts of a rounding move the exponent by the length of the mantissa at most. -/
theorem roundWithAccuracy_exponent (s : Sign) (m : Nat) (e : Int) :
    ExponentAtMost (max (e + m.log2) (-1074) + m.log2)
      (roundWithAccuracy Format.binary64 s m e .exact) := by
  have hmantissa := shiftToTargetExponent_mantissa_le m e
  have hexponent := shiftToTargetExponent_exponent m e
  rw [roundWithAccuracy]
  generalize shiftToTargetExponent Format.binary64 m e .exact = first at hmantissa hexponent ⊢
  obtain ⟨em, e₁⟩ := first
  have hrounded : em.roundedMantissa ≤ m + 1 :=
    le_trans (roundedMantissa_le em) (Nat.add_le_add_right hmantissa 1)
  have hlog := log2_le_log2_add_one hrounded
  have hexponent' := shiftToTargetExponent_exponent em.roundedMantissa e₁
  dsimp only at hexponent ⊢
  split
  · trivial
  · show (shiftToTargetExponent Format.binary64 em.roundedMantissa e₁ .exact).2 ≤ _
    rw [hexponent']
    omega

/-- Packing adds the bias to an exponent, unless it is too large. -/
theorem unpackExponent_pack_le {bound : Int} {x : UnpackedFloat} (h : ExponentAtMost bound x)
    (hbound : bound ≤ 971) :
    (unpackExponent (UnpackedFloat.pack Format.binary64 x)).toNat ≤ (bound + 1075).toNat := by
  cases x with
  | zero s =>
    rw [UnpackedFloat.pack, packedZero, unpackExponent_packComponents]
    exact Nat.zero_le _
  | finite s m e hm =>
    have hbias : (Format.binary64.exponentBias : Int) = 1023 := rfl
    have hbits : (Format.binary64.mantissaBitsWithoutImplicit : Int) = 52 := rfl
    have he : e ≤ bound := h
    have hbiased : (e + Format.binary64.exponentBias +
        Format.binary64.mantissaBitsWithoutImplicit).toNat ≤ (bound + 1075).toNat := by omega
    have hsmall : (e + Format.binary64.exponentBias +
        Format.binary64.mantissaBitsWithoutImplicit).toNat + 1 < 2048 := by omega
    rw [UnpackedFloat.pack]
    dsimp only
    rw [if_neg (Nat.not_le.mpr hsmall)]
    split
    · rw [unpackExponent_packComponents, BitVec.toNat_ofNat,
        Nat.mod_eq_of_lt (Nat.lt_of_succ_lt hsmall)]
      exact hbiased
    · rw [unpackExponent_packComponents]
      exact Nat.zero_le _
  | _ => exact h.elim

/-- A number of moderate exponent is packed as a finite double. -/
theorem unpackExponent_pack_ne {x : UnpackedFloat} (h : ExponentAtMost 971 x) :
    unpackExponent (UnpackedFloat.pack Format.binary64 x) ≠ -1#11 := by
  intro heq
  have hle := unpackExponent_pack_le h le_rfl
  rw [heq] at hle
  exact absurd hle (by decide)

/-- What a double of a small exponent is unpacked to. -/
theorem unpack_of_exponent_le {b : Word} {bound : Int} (hlow : -1074 ≤ bound) (hhigh : bound ≤ 971)
    (h : (unpackExponent b).toNat ≤ (bound + 1075).toNat) :
    (∃ s, UnpackedFloat.unpack Format.binary64 b = .zero s) ∨
      ∃ s m e hm, UnpackedFloat.unpack Format.binary64 b = .finite s m e hm ∧
        m < 2 ^ 53 ∧ e ≤ bound := by
  have hbias : (Format.binary64.exponentBias : Int) = 1023 := rfl
  have hbits : (Format.binary64.mantissaBitsWithoutImplicit : Int) = 52 := rfl
  have hmantissa : (unpackMantissa b).toNat < 2 ^ 52 := (unpackMantissa b).isLt
  have hfinite : unpackExponent b ≠ -1#11 := by
    intro heq
    have htop : (unpackExponent b).toNat = 2047 := by rw [heq]; rfl
    omega
  unfold UnpackedFloat.unpack
  dsimp only
  rw [if_neg hfinite]
  by_cases hzero : unpackExponent b = 0#11
  · rw [if_pos hzero]
    by_cases hnone : unpackMantissa b = 0#52
    · rw [dif_pos hnone]
      exact .inl ⟨_, rfl⟩
    · have hpos : 0 < (unpackMantissa b).toNat :=
        Nat.pos_of_ne_zero fun h0 => hnone (BitVec.eq_of_toNat_eq h0)
      rw [dif_neg hnone]
      refine .inr ⟨_, _, _, hpos, rfl, by omega, ?_⟩
      rw [hzero, hbias, hbits]
      exact hlow
  · have hpos : (unpackExponent b).toNat ≠ 0 := fun h0 => hzero (BitVec.eq_of_toNat_eq h0)
    have hleading : (1#1 ++ unpackMantissa b).toNat = 0x10000000000000 + (unpackMantissa b).toNat :=
      append_one_toNat _
    rw [if_neg hzero]
    exact .inr ⟨_, _, _, by omega, rfl, by omega, by omega⟩

/-- A product of two numbers that are not zero. -/
theorem mul_exponent {s₁ s₂ : Sign} {m₁ m₂ : Nat} {e₁ e₂ : Int} {h₁ : 0 < m₁} {h₂ : 0 < m₂}
    {k : Nat} (hk : m₁ * m₂ < 2 ^ (k + 1)) :
    ExponentAtMost (max (e₁ + e₂ + k) (-1074) + k)
      (UnpackedFloat.mul Format.binary64 (.finite s₁ m₁ e₁ h₁) (.finite s₂ m₂ e₂ h₂)) := by
  have hlog := (Nat.log2_lt (Nat.mul_ne_zero h₁.ne' h₂.ne')).mpr hk
  exact (roundWithAccuracy_exponent _ _ _).weaken (by omega)

/-- Rounding a short whole number first fills its mantissa. -/
theorem round_exponent {n : Nat} (h : n < 2 ^ 53) (hne : n ≠ 0) (s : Sign) :
    ExponentAtMost 104 (UnpackedFloat.round Format.binary64 s n 0) := by
  have hlog : n.log2 < 53 := (Nat.log2_lt hne).mpr h
  have htarget : Format.binary64.targetExponent (totalExponent n 0) =
      max ((n.log2 : Int) + 1 + 0 - 53) (-1074) := rfl
  have hshift : ((0 : Int) - Format.binary64.targetExponent (totalExponent n 0)).toNat =
      52 - n.log2 := by
    rw [htarget]
    omega
  have hfilled : n <<< (52 - n.log2) < 2 ^ 53 := by
    rw [Nat.shiftLeft_eq]
    calc n * 2 ^ (52 - n.log2) < 2 ^ (n.log2 + 1) * 2 ^ (52 - n.log2) :=
          Nat.mul_lt_mul_of_pos_right Nat.lt_log2_self (Nat.two_pow_pos _)
      _ = 2 ^ 53 := by
          rw [← Nat.pow_add]
          congr 1
          omega
  have hlog' : (n <<< (52 - n.log2)).log2 ≤ 52 := by
    have hne' : n <<< (52 - n.log2) ≠ 0 := by
      rw [Nat.shiftLeft_eq]
      exact Nat.mul_ne_zero hne (Nat.two_pow_pos _).ne'
    exact Nat.le_of_lt_succ ((Nat.log2_lt hne').mpr hfilled)
  rw [UnpackedFloat.round, decreaseExponent]
  dsimp only
  rw [hshift]
  exact (roundWithAccuracy_exponent _ _ _).weaken (by omega)

theorem ofUInt64_exponent {n : Nat} (h : n < 2 ^ 53) :
    ExponentAtMost 104 (UnpackedFloat.ofUInt64 Format.binary64 n.toUInt64) := by
  have hn : n.toUInt64.toNat = n := Nat.mod_eq_of_lt (lt_trans h (by decide))
  rw [UnpackedFloat.ofUInt64, hn, UnpackedFloat.ofNat, UnpackedFloat.ofInt,
    UnpackedFloat.normalize]
  by_cases hzero : n = 0
  · rw [hzero]
    trivial
  · rw [Int.compare_eq_gt.mpr (by omega : (0 : Int) < n)]
    exact round_exponent h hzero _

/-- One, as a double. -/
def one : Float := Float.ofBits 0x3FF0000000000000

theorem unpack_one : one.toModel.unpack = .finite .positive (2 ^ 52) (-52) (by decide) := rfl

/-- A short whole number is multiplied by one. -/
theorem floatOfNat_short {n : Nat} (h : n < 2 ^ 53) : Float.ofNat n = n.toUInt64.toFloat * one := by
  show Float.ofScientific n false 0 = _
  rw [Float.ofScientific, dif_pos ⟨h, by decide⟩]
  rfl

theorem floatOfNat_long {n : Nat} (h : ¬n < 2 ^ 53) :
    Float.ofNat n = ⟨Float.Model.ofScientific n 0⟩ := by
  show Float.ofScientific n false 0 = _
  rw [Float.ofScientific, dif_neg (fun hc => h hc.1)]
  rfl

theorem short_exponent {n : Nat} (h : n < 2 ^ 53) :
    ExponentAtMost 971
      (UnpackedFloat.mul Format.binary64 n.toUInt64.toFloat.toModel.unpack one.toModel.unpack) := by
  have hsmall := unpackExponent_pack_le (ofUInt64_exponent h) (by decide)
  have hunpack := unpack_of_exponent_le (by decide) (by decide) hsmall
  have heq : n.toUInt64.toFloat.toModel.unpack = UnpackedFloat.unpack Format.binary64
    (UnpackedFloat.pack Format.binary64
      (UnpackedFloat.ofUInt64 Format.binary64 n.toUInt64)) := rfl
  rw [heq, unpack_one]
  obtain ⟨s, hs⟩ | ⟨s, m, e, hm, hs, hlt, hle⟩ := hunpack
  · rw [hs]
    trivial
  · rw [hs]
    have hbits : m * 2 ^ 52 < 2 ^ (104 + 1) := by omega
    exact (mul_exponent hbits).weaken (by omega)

/-- A long whole number is shifted out of the way before it is scaled by a power of ten, which
here is one. -/
theorem shifted_exponent {n power : Nat} (h : n ≤ 2 ^ 63) (hpower : power = 1)
    {h₁ : 0 < n <<< Format.binary64.mantissaBits} {h₂ : 0 < power} :
    ExponentAtMost 971 (UnpackedFloat.mul Format.binary64
      (.finite .positive (n <<< Format.binary64.mantissaBits)
        (-(Format.binary64.mantissaBits : Int)) h₁) (.finite .positive power 0 h₂)) := by
  have hwidth : Format.binary64.mantissaBits = 53 := rfl
  have hbits : n <<< Format.binary64.mantissaBits * power < 2 ^ (117 + 1) := by
    rw [hpower, hwidth, Nat.shiftLeft_eq]
    omega
  refine (mul_exponent hbits).weaken ?_
  decide

theorem long_exponent {n : Nat} (h : n ≤ 2 ^ 63) (hne : n ≠ 0) :
    ExponentAtMost 971 (UnpackedFloat.ofScientific Format.binary64 n 0) := by
  have hlarge : ¬(0 : Int) < -((2 ^ Format.binary64.exponentBits : Int) + n.log2) := by
    have : (0 : Int) < 2 ^ Format.binary64.exponentBits := by decide
    omega
  rw [UnpackedFloat.ofScientific, dif_neg hne, if_neg (by decide), if_neg hlarge,
    if_pos le_rfl]
  -- The power has to be a variable before it is compared with one.
  generalize_proofs hmantissa hpower
  generalize hd : 10 ^ (0 : Int).toNat = power at hpower ⊢
  exact shifted_exponent h hd.symm

/-- A whole number of 64 bits is nowhere near the largest double. -/
theorem floatOfNat_exponent {n : Nat} (h : n ≤ 2 ^ 63) :
    ∃ x, ExponentAtMost 971 x ∧ (Float.ofNat n).toModel = .pack x := by
  by_cases hshort : n < 2 ^ 53
  · exact ⟨_, short_exponent hshort, by rw [floatOfNat_short hshort]; rfl⟩
  · have hne : n ≠ 0 := by omega
    exact ⟨_, long_exponent h hne, by rw [floatOfNat_long hshort]; rfl⟩

end Number

namespace Double

open Float.Model (Format)
open Float.Model.UnpackedFloat
open Number

theorem isFinite_iff {bits : UInt64} :
    (⟨bits⟩ : Double).isFinite = true ↔
      @unpackExponent Format.binary64 bits.toBitVec ≠ -1#11 := by
  rw [isFinite, magnitude, decide_eq_true_iff, UInt64.lt_iff_toNat_lt, UInt64.toNat_mod]
  have hlt := bits.toNat_lt
  have hfield := unpackExponent_toNat bits.toBitVec
  rw [UInt64.toNat_toBitVec] at hfield
  show bits.toNat % 0x8000000000000000 < 0x7ff0000000000000 ↔ _
  constructor
  · intro h heq
    rw [heq] at hfield
    have : (2047 : Nat) = bits.toNat / 0x10000000000000 % 2048 := hfield
    omega
  · intro h
    have hne : (@unpackExponent Format.binary64 bits.toBitVec).toNat ≠ 2047 :=
      fun heq => h (exponent_eq_of_toNat heq)
    rw [hfield] at hne
    omega

theorem isNaN_of_isFinite {x : Double} (h : x.isFinite = true) : x.isNaN = false := by
  rw [isFinite, decide_eq_true_iff] at h
  rw [isNaN, decide_eq_false_iff_not]
  exact UInt64.not_lt.mpr (UInt64.le_of_lt h)

theorem isFinite_neg (x : Double) : (-x).isFinite = x.isFinite := by
  have hbits : (x.bits ^^^ 0x8000000000000000).toBitVec = x.bits.toBitVec ^^^ signMask := rfl
  rw [Bool.eq_iff_iff]
  show (⟨x.bits ^^^ 0x8000000000000000⟩ : Double).isFinite = true ↔
    (⟨x.bits⟩ : Double).isFinite = true
  rw [isFinite_iff, isFinite_iff, hbits, unpackExponent_xor_signMask]

theorem ofFloat_of_isFinite {f : Float} (h : (⟨f.toBits⟩ : Double).isFinite = true) :
    ofFloat f = ⟨f.toBits⟩ := by
  rw [ofFloat, isNaN_of_isFinite h]
  rfl

/-- The bits of a whole number of 64 bits. -/
theorem isFinite_floatOfNat {n : Nat} (h : n ≤ 2 ^ 63) :
    (⟨(Float.ofNat n).toBits⟩ : Double).isFinite = true := by
  obtain ⟨x, hx, hpack⟩ := floatOfNat_exponent h
  rw [isFinite_iff, Float.toBits, hpack]
  exact unpackExponent_pack_ne hx

theorem ofNat_isFinite {n : Nat} (h : n ≤ 2 ^ 63) : (ofNat n).isFinite = true := by
  rw [ofNat, ofFloat_of_isFinite (isFinite_floatOfNat h)]
  exact isFinite_floatOfNat h

/-- A negative number is the positive one with the sign changed. -/
theorem ofInt_neg {n : Nat} (h : n ≤ 2 ^ 63) (hpos : n ≠ 0) : ofInt (-(n : Int)) = -ofNat n := by
  have hfinite := isFinite_floatOfNat h
  have hfloat : Float.ofInt (-(n : Int)) = -Float.ofNat n := by
    obtain ⟨k, rfl⟩ := Nat.exists_eq_succ_of_ne_zero hpos
    rfl
  have hbits : (-Float.ofNat n).toBits = (Float.ofNat n).toBits ^^^ 0x8000000000000000 := by
    show UInt64.ofBitVec (Float.Model.UnpackedFloat.pack Format.binary64
      (Float.Model.UnpackedFloat.unpack Format.binary64
        (Float.ofNat n).toBits.toBitVec).neg) = _
    rw [pack_neg_unpack (isFinite_iff.mp hfinite)]
    rfl
  have hneg : (⟨(-Float.ofNat n).toBits⟩ : Double) = -⟨(Float.ofNat n).toBits⟩ := by
    rw [hbits]
    rfl
  have hfinite' : (⟨(-Float.ofNat n).toBits⟩ : Double).isFinite = true := by
    rw [hneg, isFinite_neg]
    exact hfinite
  rw [ofInt, hfloat, ofNat, ofFloat_of_isFinite hfinite, ofFloat_of_isFinite hfinite', hneg]

end Double
end Awk
