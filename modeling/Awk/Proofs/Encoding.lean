import Awk.Proofs.Decoding

/-!
# Every text comes from some bytes

`encode` writes each character as UTF-8 does, and reading gives the text back.  So a reader
can be given any text, cut into lines behind its newlines.
-/

namespace Awk
namespace Text
namespace Utf8

/-- The bytes of a text. -/
def encode (text : List Char) : List UInt8 :=
  text.flatMap fun c => (encodingOf c.toNat).map UInt8.ofNat

theorem toNat_byte {n : Nat} (h : n < 256) : (UInt8.ofNat n).toNat = n := by
  rw [UInt8.toNat_ofNat']
  exact Nat.mod_eq_of_lt h

theorem byte_within {n : Nat} (h : n < 256) (low high : UInt8) :
    (decide (low ≤ UInt8.ofNat n) && decide (UInt8.ofNat n ≤ high)) =
      decide (low.toNat ≤ n ∧ n ≤ high.toNat) := by
  simp only [UInt8.le_iff_toNat_le, toNat_byte h, Bool.decide_and]

theorem byte_not_ascii {n : Nat} (h : n < 256) (hlow : 0x80 ≤ n) : ¬ UInt8.ofNat n < 0x80 := by
  rw [UInt8.lt_iff_toNat_lt, toNat_byte h]
  show ¬ n < 0x80
  omega

theorem byte_eq_iff {n : Nat} (h : n < 256) (b : UInt8) : UInt8.ofNat n = b ↔ n = b.toNat := by
  rw [← UInt8.toNat_inj, toNat_byte h]

theorem isContinuation_byte (n : Nat) : isContinuation (UInt8.ofNat (0x80 + n % 64)) = true := by
  rw [isContinuation, byte_within (by omega)]
  refine decide_eq_true ⟨?_, ?_⟩
  · show 0x80 ≤ 0x80 + n % 64
    omega
  · show 0x80 + n % 64 ≤ 0xbf
    omega

theorem payload_byte (n : Nat) : payload (UInt8.ofNat (0x80 + n % 64)) = n % 64 := by
  rw [payload, toNat_byte (by omega)]
  omega

theorem decode_two {n : Nat} (hlow : 0x80 ≤ n) (hhigh : n < 0x800) (rest : List UInt8) :
    decode (UInt8.ofNat (0xc0 + n / 64) :: UInt8.ofNat (0x80 + n % 64) :: rest) =
      Char.ofNat n :: decode rest := by
  have hbyte : 0xc0 + n / 64 < 256 := by omega
  have htwo : (0xc2 : UInt8).toNat ≤ 0xc0 + n / 64 ∧ 0xc0 + n / 64 ≤ (0xdf : UInt8).toNat := by
    show 0xc2 ≤ 0xc0 + n / 64 ∧ 0xc0 + n / 64 ≤ 0xdf
    omega
  have hvalue : (0xc0 + n / 64) % 32 * 64 + n % 64 = n := by omega
  rw [decode.eq_def]
  simp only [byte_not_ascii hbyte (by omega), byte_within hbyte, htwo, isContinuation_byte,
    payload_byte, toNat_byte hbyte, hvalue, and_self, decide_true, if_true, if_false]

/-- The second byte keeps out overlong forms and surrogates. -/
theorem isSecondOfThree_byte {n : Nat} (hlow : 0x800 ≤ n) (hhigh : n < 0x10000)
    (hchar : n.isValidChar) :
    isSecondOfThree (UInt8.ofNat (0xe0 + n / 4096)) (UInt8.ofNat (0x80 + n / 64 % 64)) = true := by
  have hlead : 0xe0 + n / 4096 < 256 := by omega
  have hsecond : 0x80 + n / 64 % 64 < 256 := by omega
  unfold isSecondOfThree
  simp only [byte_eq_iff hlead, byte_within hsecond]
  split
  · next h =>
    have h : 0xe0 + n / 4096 = 0xe0 := h
    refine decide_eq_true ⟨?_, ?_⟩
    · show 0xa0 ≤ 0x80 + n / 64 % 64
      omega
    · show 0x80 + n / 64 % 64 ≤ 0xbf
      omega
  · split
    · next h =>
      have h : 0xe0 + n / 4096 = 0xed := h
      refine decide_eq_true ⟨?_, ?_⟩
      · show 0x80 ≤ 0x80 + n / 64 % 64
        omega
      · show 0x80 + n / 64 % 64 ≤ 0x9f
        rcases hchar with hchar | hchar <;> omega
    · exact isContinuation_byte (n / 64)

theorem decode_three {n : Nat} (hlow : 0x800 ≤ n) (hhigh : n < 0x10000) (hchar : n.isValidChar)
    (rest : List UInt8) :
    decode (UInt8.ofNat (0xe0 + n / 4096) :: UInt8.ofNat (0x80 + n / 64 % 64) ::
      UInt8.ofNat (0x80 + n % 64) :: rest) = Char.ofNat n :: decode rest := by
  have hbyte : 0xe0 + n / 4096 < 256 := by omega
  have htwo : ¬ ((0xc2 : UInt8).toNat ≤ 0xe0 + n / 4096 ∧
      0xe0 + n / 4096 ≤ (0xdf : UInt8).toNat) := by
    show ¬ (0xc2 ≤ 0xe0 + n / 4096 ∧ 0xe0 + n / 4096 ≤ 0xdf)
    omega
  have hthree : (0xe0 : UInt8).toNat ≤ 0xe0 + n / 4096 ∧
      0xe0 + n / 4096 ≤ (0xef : UInt8).toNat := by
    show 0xe0 ≤ 0xe0 + n / 4096 ∧ 0xe0 + n / 4096 ≤ 0xef
    omega
  have hvalue : (0xe0 + n / 4096) % 16 * 4096 + n / 64 % 64 * 64 + n % 64 = n := by omega
  rw [decode.eq_def]
  simp only [byte_not_ascii hbyte (by omega), byte_within hbyte, htwo, hthree,
    isSecondOfThree_byte hlow hhigh hchar, isContinuation_byte, payload_byte, toNat_byte hbyte,
    hvalue, and_self, decide_true, decide_false, Bool.false_eq_true, if_true, if_false]

/-- The second byte keeps out overlong forms and what is past the last character. -/
theorem isSecondOfFour_byte {n : Nat} (hlow : 0x10000 ≤ n) (hhigh : n < 0x110000) :
    isSecondOfFour (UInt8.ofNat (0xf0 + n / 262144)) (UInt8.ofNat (0x80 + n / 4096 % 64)) =
      true := by
  have hlead : 0xf0 + n / 262144 < 256 := by omega
  have hsecond : 0x80 + n / 4096 % 64 < 256 := by omega
  unfold isSecondOfFour
  simp only [byte_eq_iff hlead, byte_within hsecond]
  split
  · next h =>
    have h : 0xf0 + n / 262144 = 0xf0 := h
    refine decide_eq_true ⟨?_, ?_⟩
    · show 0x90 ≤ 0x80 + n / 4096 % 64
      omega
    · show 0x80 + n / 4096 % 64 ≤ 0xbf
      omega
  · split
    · next h =>
      have h : 0xf0 + n / 262144 = 0xf4 := h
      refine decide_eq_true ⟨?_, ?_⟩
      · show 0x80 ≤ 0x80 + n / 4096 % 64
        omega
      · show 0x80 + n / 4096 % 64 ≤ 0x8f
        omega
    · exact isContinuation_byte (n / 4096)

theorem decode_four {n : Nat} (hlow : 0x10000 ≤ n) (hhigh : n < 0x110000) (rest : List UInt8) :
    decode (UInt8.ofNat (0xf0 + n / 262144) :: UInt8.ofNat (0x80 + n / 4096 % 64) ::
      UInt8.ofNat (0x80 + n / 64 % 64) :: UInt8.ofNat (0x80 + n % 64) :: rest) =
      Char.ofNat n :: decode rest := by
  have hbyte : 0xf0 + n / 262144 < 256 := by omega
  have htwo : ¬ ((0xc2 : UInt8).toNat ≤ 0xf0 + n / 262144 ∧
      0xf0 + n / 262144 ≤ (0xdf : UInt8).toNat) := by
    show ¬ (0xc2 ≤ 0xf0 + n / 262144 ∧ 0xf0 + n / 262144 ≤ 0xdf)
    omega
  have hthree : ¬ ((0xe0 : UInt8).toNat ≤ 0xf0 + n / 262144 ∧
      0xf0 + n / 262144 ≤ (0xef : UInt8).toNat) := by
    show ¬ (0xe0 ≤ 0xf0 + n / 262144 ∧ 0xf0 + n / 262144 ≤ 0xef)
    omega
  have hfour : (0xf0 : UInt8).toNat ≤ 0xf0 + n / 262144 ∧
      0xf0 + n / 262144 ≤ (0xf4 : UInt8).toNat := by
    show 0xf0 ≤ 0xf0 + n / 262144 ∧ 0xf0 + n / 262144 ≤ 0xf4
    omega
  have hvalue : (0xf0 + n / 262144) % 8 * 262144 + n / 4096 % 64 * 4096 + n / 64 % 64 * 64 +
      n % 64 = n := by omega
  rw [decode.eq_def]
  simp only [byte_not_ascii hbyte (by omega), byte_within hbyte, htwo, hthree, hfour,
    isSecondOfFour_byte hlow hhigh, isContinuation_byte, payload_byte, toNat_byte hbyte,
    hvalue, and_self, decide_true, decide_false, Bool.false_eq_true, if_true, if_false]

theorem decode_encodingOf (c : Char) (rest : List UInt8) :
    decode ((encodingOf c.toNat).map UInt8.ofNat ++ rest) = c :: decode rest := by
  have hchar : c.toNat.isValidChar := c.valid
  have hlast : c.toNat < 0x110000 := by
    rcases hchar with h | h <;> omega
  have hc : Char.ofNat c.toNat = c := Char.ofNat_toNat c
  unfold encodingOf
  split
  · next h =>
    have hbyte : c.toNat < 256 := by omega
    have hascii : UInt8.ofNat c.toNat < 0x80 := by
      rw [UInt8.lt_iff_toNat_lt, toNat_byte hbyte]
      exact h
    rw [List.map_cons, List.map_nil, List.singleton_append, decode_cons_ascii hascii,
      toNat_byte hbyte, hc]
  · split
    · have htwo := decode_two (n := c.toNat) (by omega) (by omega) rest
      rw [hc] at htwo
      exact htwo
    · split
      · have hthree := decode_three (n := c.toNat) (by omega) (by omega) hchar rest
        rw [hc] at hthree
        exact hthree
      · have hfour := decode_four (n := c.toNat) (by omega) hlast rest
        rw [hc] at hfour
        exact hfour

theorem decode_encode_append (text : List Char) (rest : List UInt8) :
    decode (encode text ++ rest) = text ++ decode rest := by
  induction text with
  | nil => rfl
  | cons c cs ih =>
    show decode ((encodingOf c.toNat).map UInt8.ofNat ++ encode cs ++ rest) = c :: (cs ++ _)
    rw [List.append_assoc, decode_encodingOf, ih]

theorem decode_encode (text : List Char) : decode (encode text) = text := by
  have h := decode_encode_append text []
  rw [List.append_nil] at h
  rw [h]
  exact List.append_nil text

theorem encode_append (xs ys : List Char) : encode (xs ++ ys) = encode xs ++ encode ys :=
  List.flatMap_append

/-- What ends with a newline as a text does so as bytes. -/
theorem getLast?_encode {text : List Char} (h : text.getLast? = some '\n') :
    (encode text).getLast? = some ByteStream.newline := by
  obtain ⟨front, rfl⟩ := List.getLast?_eq_some_iff.mp h
  rw [encode_append]
  exact List.getLast?_concat

end Utf8
end Text

namespace ByteStream

theorem lines_ne_nil {bytes : List UInt8} (h : bytes ≠ []) : lines bytes ≠ [] := by
  cases bytes with
  | nil => exact absurd rfl h
  | cons b bs =>
    rw [lines]
    split
    · exact List.cons_ne_nil _ _
    · split <;> exact List.cons_ne_nil _ _

/-- Behind a newline other lines begin. -/
theorem lines_append {xs : List UInt8} (h : xs.getLast? = some newline) (ys : List UInt8) :
    lines (xs ++ ys) = lines xs ++ lines ys := by
  induction xs with
  | nil => cases h
  | cons b bs ih =>
    by_cases hbs : bs = []
    · subst hbs
      have hb : b = newline := Option.some.inj h
      rw [List.singleton_append, lines, if_pos hb, lines, if_pos hb]
      rfl
    · rw [List.getLast?_cons_of_ne_nil hbs] at h
      have hrest := ih h
      rw [List.cons_append, lines, lines, hrest]
      by_cases hb : b = newline
      · rw [if_pos hb, if_pos hb]
        rfl
      · rw [if_neg hb, if_neg hb]
        cases hlines : lines bs with
        | nil => exact absurd hlines (lines_ne_nil hbs)
        | cons line rest => rfl

end ByteStream
end Awk
