import Awk.Reader

/-!
# Bytes read line by line

Bytes that are no UTF-8 are replaced, and what replaces them depends on the bytes around.
No sequence of UTF-8 goes on across an ASCII byte, though, so that nothing changes when the
lines of a text are read one by one.
-/

namespace Awk
namespace Text
namespace Utf8

theorem isContinuation_ascii {b : UInt8} (hb : b < 0x80) : isContinuation b = false := by
  have hlow : ¬ (0x80 : UInt8) ≤ b := UInt8.not_le.mpr hb
  rw [isContinuation, decide_eq_false hlow, Bool.false_and]

theorem isSecondOfThree_ascii {b : UInt8} (hb : b < 0x80) (lead : UInt8) :
    isSecondOfThree lead b = false := by
  have hlow : ¬ (0x80 : UInt8) ≤ b := UInt8.not_le.mpr hb
  have hlower : ¬ (0xa0 : UInt8) ≤ b := fun ha => hlow (UInt8.le_trans (by decide) ha)
  unfold isSecondOfThree
  split
  · rw [decide_eq_false hlower, Bool.false_and]
  · split
    · rw [decide_eq_false hlow, Bool.false_and]
    · exact isContinuation_ascii hb

theorem isSecondOfFour_ascii {b : UInt8} (hb : b < 0x80) (lead : UInt8) :
    isSecondOfFour lead b = false := by
  have hlow : ¬ (0x80 : UInt8) ≤ b := UInt8.not_le.mpr hb
  have hlower : ¬ (0x90 : UInt8) ≤ b := fun ha => hlow (UInt8.le_trans (by decide) ha)
  unfold isSecondOfFour
  split
  · rw [decide_eq_false hlower, Bool.false_and]
  · split
    · rw [decide_eq_false hlow, Bool.false_and]
    · exact isContinuation_ascii hb

theorem decode_cons_ascii {b : UInt8} (hb : b < 0x80) (bs : List UInt8) :
    decode (b :: bs) = Char.ofNat b.toNat :: decode bs := by
  rw [decode.eq_def]
  exact if_pos hb

/-- An ASCII byte cuts off what came before it. -/
theorem decode_append_ascii {b : UInt8} (hb : b < 0x80) (xs ys : List UInt8) :
    decode (xs ++ b :: ys) = decode xs ++ decode (b :: ys) := by
  have hsecond := isContinuation_ascii hb
  have hthree := isSecondOfThree_ascii hb
  have hfour := isSecondOfFour_ascii hb
  -- A branch that finds the end of `xs` inside of a sequence finds `b` there instead.
  fun_induction decode xs
  case case1 => rfl
  all_goals
    simp only [List.cons_append, List.nil_append] at *
    rw [decode.eq_def]
    simp only [*, if_true, if_false, Bool.false_eq_true]

/-- Behind an ASCII byte reading begins anew. -/
theorem decode_append_behind_ascii {b : UInt8} (hb : b < 0x80) (xs ys : List UInt8) :
    decode (xs ++ b :: ys) = decode (xs ++ [b]) ++ decode ys := by
  rw [decode_append_ascii hb, decode_append_ascii hb, decode_cons_ascii hb, decode_cons_ascii hb,
    List.append_assoc]
  rfl

end Utf8
end Text

namespace ByteStream

open Text.Utf8 (decode)

theorem newline_ascii : newline < 0x80 := by decide

/-- Reads bytes after others that belong to the first line of them. -/
theorem decode_append_lines (bs bytes : List UInt8) :
    decode (bs ++ bytes) =
      match lines bytes with
      | [] => decode bs
      | line :: rest => decode (bs ++ line) ++ rest.flatMap decode := by
  induction bytes generalizing bs with
  | nil => rw [lines, List.append_nil]
  | cons b bytes ih =>
    by_cases hb : b = newline
    · have hrest : decode bytes = (lines bytes).flatMap decode := by
        have h := ih []
        rw [List.nil_append] at h
        rw [h]
        cases lines bytes <;> rfl
      rw [lines, if_pos hb]
      subst hb
      rw [Text.Utf8.decode_append_behind_ascii newline_ascii, hrest]
    · have h := ih (bs ++ [b])
      rw [List.append_assoc, List.singleton_append] at h
      rw [lines, if_neg hb, h]
      cases lines bytes with
      | nil => exact (List.append_nil _).symm
      | cons line rest =>
        show decode (bs ++ [b] ++ line) ++ _ = decode (bs ++ b :: line) ++ _
        rw [List.append_assoc, List.singleton_append]

/-- Lines read one by one are the text. -/
theorem flatMap_decode_lines (bytes : List UInt8) :
    (lines bytes).flatMap decode = decode bytes := by
  have h := decode_append_lines [] bytes
  rw [List.nil_append] at h
  rw [h]
  cases lines bytes <;> rfl

end ByteStream
end Awk
