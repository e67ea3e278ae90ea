import Awk.Proofs.Encoding

/-!
# The order of texts is that of their bytes

In UTF-8 a character with a greater code point has the greater bytes, from the first at which two
characters differ.  So texts in order character by character are in order byte by byte.
-/

namespace Awk
namespace Text
namespace Utf8

/-- Every text that starts with the bytes `l` comes before every one that starts with `l'`. -/
def Before (l l' : List Nat) : Prop :=
  ∀ r s : List UInt8, compare (l.map UInt8.ofNat ++ r) (l'.map UInt8.ofNat ++ s) = .lt

theorem Before.of_lt {a b : Nat} (hb : b < 256) (h : a < b) (l l' : List Nat) :
    Before (a :: l) (b :: l') := by
  intro r s
  have hbytes : compare (UInt8.ofNat a) (UInt8.ofNat b) = .lt := by
    rw [Std.compare_eq_lt, UInt8.lt_iff_toNat_lt, toNat_byte hb, toNat_byte (by omega)]
    exact h
  simp only [List.map_cons, List.cons_append, List.compare_cons_cons, hbytes]
  rfl

/-- Bytes are compared one by one. -/
theorem Before.of_le {a b : Nat} {l l' : List Nat} (hb : b < 256) (hle : a ≤ b)
    (h : a = b → Before l l') : Before (a :: l) (b :: l') := by
  by_cases hlt : a < b
  · exact .of_lt hb hlt l l'
  · obtain rfl : a = b := by omega
    intro r s
    simp only [List.map_cons, List.cons_append, List.compare_cons_cons, Std.ReflOrd.compare_self]
    exact h rfl r s

/-- The first bytes differ if the lengths do.  Else the first digits to base 64 decide at which the
code points differ. -/
theorem encodingOf_before {n m : Nat} (h : n < m) (hm : m < 0x110000) :
    Before (encodingOf n) (encodingOf m) := by
  unfold encodingOf
  by_cases hn₁ : n < 0x80
  · simp only [hn₁, if_true]
    split
    · exact .of_lt (by omega) h _ _
    · split
      · exact .of_lt (by omega) (by omega) _ _
      · split <;> exact .of_lt (by omega) (by omega) _ _
  · have hm₁ : ¬m < 0x80 := by omega
    simp only [hn₁, hm₁, if_false]
    by_cases hn₂ : n < 0x800
    · simp only [hn₂, if_true]
      split
      · exact .of_le (by omega) (by omega) fun _ => .of_lt (by omega) (by omega) _ _
      · split <;> exact .of_lt (by omega) (by omega) _ _
    · have hm₂ : ¬m < 0x800 := by omega
      simp only [hn₂, hm₂, if_false]
      by_cases hn₃ : n < 0x10000
      · simp only [hn₃, if_true]
        split
        · exact .of_le (by omega) (by omega) fun _ => .of_le (by omega) (by omega) fun _ =>
            .of_lt (by omega) (by omega) _ _
        · exact .of_lt (by omega) (by omega) _ _
      · have hm₃ : ¬m < 0x10000 := by omega
        simp only [hn₃, hm₃, if_false]
        exact .of_le (by omega) (by omega) fun _ => .of_le (by omega) (by omega) fun _ =>
          .of_le (by omega) (by omega) fun _ => .of_lt (by omega) (by omega) _ _

theorem encode_cons (c : Char) (cs : List Char) :
    encode (c :: cs) = (encodingOf c.toNat).map UInt8.ofNat ++ encode cs := rfl

theorem compare_append_left (l r s : List UInt8) : compare (l ++ r) (l ++ s) = compare r s := by
  induction l with
  | nil => rfl
  | cons b l ih =>
    simp only [List.cons_append, List.compare_cons_cons, Std.ReflOrd.compare_self]
    exact ih

theorem toNat_lt_top (c : Char) : c.toNat < 0x110000 := by
  rcases c.valid with h | ⟨-, h⟩
  · exact Nat.lt_trans h (by decide)
  · exact h

theorem compare_encode_of_lt {cs ds : List Char} (h : cs < ds) :
    compare (encode cs) (encode ds) = .lt := by
  induction cs generalizing ds with
  | nil =>
    cases ds with
    | nil => cases h
    | cons d ds =>
      have hread := decode_encode (d :: ds)
      cases hbytes : encode (d :: ds) with
      | nil =>
        rw [hbytes] at hread
        cases hread
      | cons b bs => exact List.compare_nil_cons
  | cons c cs ih =>
    cases ds with
    | nil => cases h
    | cons d ds =>
      rcases List.cons_lt_cons_iff.mp h with hlt | ⟨rfl, hlt⟩
      · exact encodingOf_before hlt (toNat_lt_top d) _ _
      · rw [encode_cons, encode_cons, compare_append_left]
        exact ih hlt

end Utf8

/-- The bytes of a text. -/
def bytes (s : String) : List UInt8 := Utf8.encode s.toList

/-- Texts are compared byte by byte. -/
theorem compare_eq_bytes (s t : String) : compare s t = compare (bytes s) (bytes t) := by
  show compareOfLessAndEq s t = _
  unfold compareOfLessAndEq
  by_cases hlt : s < t
  · rw [if_pos hlt]
    exact (Utf8.compare_encode_of_lt hlt).symm
  · rw [if_neg hlt]
    by_cases heq : s = t
    · rw [if_pos heq, heq, Std.ReflOrd.compare_self]
    · have hgt : t < s := by
        rcases Decidable.em (t < s) with h | h
        · exact h
        · exact absurd (String.le_antisymm h hlt) heq
      have hswap := Utf8.compare_encode_of_lt hgt
      rw [if_neg heq, Std.OrientedOrd.eq_swap, bytes, bytes, hswap]
      rfl

end Text
end Awk
