import Awk.Regex

/-!
# The size of repetitions

An expression repeated a fixed number of times is laid out as that many copies, until the
limit is passed.  So whether a repetition is accepted can be told from the size of one copy.
`Node.fits_rep_literal` and `Node.fits_rep_set` do so for a character that is matched as it
is and for one that is matched in either case, where the set of both reaches beyond ASCII.
-/

namespace Awk
namespace Regex

open Text (CharSet ByteRange)

namespace Layout

theorem copies_bytes_le {f : Layout} {k : Nat} (hf : ∀ e, (f e).bytes ≤ e.bytes + k) (n : Nat) :
    ∀ e, (copies f n e).bytes ≤ e.bytes + n * k := by
  induction n with
  | zero =>
    intro e
    simp only [copies]
    omega
  | succ n ih =>
    intro e
    rw [copies]
    split
    · calc (copies f n (f e)).bytes ≤ (f e).bytes + n * k := ih (f e)
        _ ≤ e.bytes + k + n * k := Nat.add_le_add_right (hf e) _
        _ = e.bytes + (n + 1) * k := by rw [Nat.add_mul, Nat.one_mul]; omega
    · omega

/-- Copies of at least `k` bytes do not fit once they pass the limit together. -/
theorem copies_fits_false {f : Layout} {k : Nat} (hf : ∀ e, e.bytes + k ≤ (f e).bytes) (n : Nat) :
    ∀ e, Extent.limit < e.bytes + n * k → (copies f n e).fits = false := by
  induction n with
  | zero =>
    intro e he
    rw [copies, Extent.fits, decide_eq_false (by omega)]
  | succ n ih =>
    intro e he
    rw [copies]
    split
    · refine ih (f e) ?_
      have hstep := hf e
      rw [Nat.add_mul, Nat.one_mul] at he
      omega
    · next hfull => exact Bool.eq_false_iff.mpr hfull

theorem bytes_le_encodingChain (encoding : List ByteRange) :
    ∀ (next : Nat) (memo : Memo) (e : Extent),
      e.bytes ≤ (encodingChain encoding next memo e).2.bytes := by
  induction encoding with
  | nil =>
    intro next memo e
    exact Nat.le_refl _
  | cons r rest ih =>
    intro next memo e
    rw [encodingChain]
    split
    · exact ih _ _ _
    · have hplain : e.bytes ≤ (e.plain 1).bytes := Nat.le_add_right _ _
      exact Nat.le_trans hplain (ih _ _ _)

theorem bytes_le_encodingChains (encodings : List (List ByteRange)) (next : Nat) :
    ∀ x : Memo × Extent,
      x.2.bytes ≤ (encodings.foldl (fun y r => encodingChain r next y.1 y.2) x).2.bytes := by
  induction encodings with
  | nil =>
    intro x
    exact Nat.le_refl _
  | cons r rest ih =>
    intro x
    exact Nat.le_trans (bytes_le_encodingChain r next x.1 x.2) (ih _)

/-- A set beyond ASCII takes at least a fork and the state where its encodings meet. -/
theorem bytes_add_le_ofSet {s : CharSet} (hs : s.isAscii = false) (e : Extent) :
    e.bytes + 64 ≤ (ofSet .backward s e).bytes := by
  simp only [ofSet, hs, Bool.false_eq_true, if_false]
  refine Nat.le_trans ?_ (bytes_le_encodingChains _ _ _)
  simp only [Extent.plain, Extent.fork]
  omega

end Layout

namespace Node

theorem layout_rep (d : Direction) (a : Node) {n : Nat} (hn : n ≠ 0) (greedy : Bool) :
    (rep a n (some n) greedy).layout d = Layout.copies (a.layout d) n := by
  obtain ⟨m, rfl⟩ := Nat.exists_eq_succ_of_ne_zero hn
  show Layout.repeated a.takesText (a.layout d) (m + 1) (some (m + 1)) = _
  simp [Layout.repeated]

/-- Before the states of an expression there are a few of at most 144 bytes, and one or two
stand behind them. -/
theorem extent_eq (d : Direction) (a : Node) :
    ∃ (e : Extent) (n : Nat), e.bytes ≤ 144 ∧ n ≤ 2 ∧ a.extent d = (a.layout d e).plain n := by
  have hstart : (if a.isAnchored d then Extent.empty.plain 1
      else ((Extent.empty.fork 2).plain 1).table 1).bytes ≤ 112 := by
    split <;> decide
  cases d with
  | forward => exact ⟨_, 2, Nat.add_le_add_right hstart 32, Nat.le_refl 2, rfl⟩
  | backward => exact ⟨_, 1, Nat.le_trans hstart (by decide), by decide, rfl⟩

/-- One character of ASCII, repeated, takes 32 bytes each time. -/
theorem fits_rep_literal {c : Char} {n : Nat} (hc : c.toNat < 0x80) (hn : n ≠ 0)
    (hlimit : n * 32 + 208 ≤ Extent.limit) (greedy : Bool) :
    (rep (literal [c]) n (some n) greedy).fits = true := by
  have hletter (d : Direction) : (literal [c]).layout d = fun e => e.plain 1 := by
    show (fun e : Extent => e.plain (Layout.bytesOf [c]).length) = _
    simp [Layout.bytesOf, Text.encodingOf, hc]
  have hextent (d : Direction) : ((rep (literal [c]) n (some n) greedy).extent d).fits = true := by
    obtain ⟨e, k, he, hk, heq⟩ := extent_eq d (rep (literal [c]) n (some n) greedy)
    rw [heq, layout_rep d _ hn, hletter]
    have hcopies := Layout.copies_bytes_le (f := fun e => e.plain 1) (fun _ => Nat.le_refl _) n e
    refine decide_eq_true ?_
    simp only [Extent.plain] at hcopies ⊢
    omega
  rw [fits, hextent, hextent, Bool.and_self, Bool.or_true]

/-- A set beyond ASCII, repeated, takes at least 40 bytes each time. -/
theorem fits_rep_set {s : CharSet} {n : Nat} (hs : s.isAscii = false)
    (hlimit : Extent.limit < n * 40) (greedy : Bool) :
    (rep (set s false) n (some n) greedy).fits = false := by
  have hn : n ≠ 0 := by
    rintro rfl
    omega
  have hbound : ¬(rep (set s false) n (some n) greedy).sizeBound + 256 ≤ Extent.limit := by
    have hmul : 40 * n ≤ (setBound s + 40) * n := Nat.mul_le_mul_right n (by omega)
    simp only [sizeBound, Option.getD_some]
    omega
  have hback : ((rep (set s false) n (some n) greedy).extent .backward).fits = false := by
    obtain ⟨e, k, -, -, heq⟩ := extent_eq .backward (rep (set s false) n (some n) greedy)
    have hcopies := Layout.copies_fits_false (Layout.bytes_add_le_ofSet hs) n e (by omega)
    rw [heq, layout_rep .backward _ hn]
    have hpast := of_decide_eq_false hcopies
    refine decide_eq_false fun hfits => hpast (Nat.le_trans ?_ hfits)
    exact Nat.le_add_right _ _
  rw [fits, decide_eq_false hbound, hback, Bool.and_false, Bool.or_false]

end Node

/-! ## A pattern that is too large only if case is ignored

The letter k in either case is one of three characters, of which the Kelvin sign is not in
ASCII. -/

theorem compile_of_fits {pattern : String} {caseless : Bool} {n : Node}
    (hread : parsePattern pattern.toList caseless = some n) (hfits : n.fits = true) :
    compile pattern caseless = .ok (ofNode n) := by
  rw [compile, hread]
  exact if_pos hfits

theorem compile_of_fits_false {pattern : String} {caseless : Bool} {n : Node}
    (hread : parsePattern pattern.toList caseless = some n) (hfits : n.fits = false) :
    compile pattern caseless = .error .tooLarge := by
  rw [compile, hread]
  exact if_neg (Bool.eq_false_iff.mp hfits)

theorem exists_compile_k_repeated :
    ∃ re, compile "k\x7b300000\x7d" false = .ok re :=
  ⟨_, compile_of_fits (n := .rep (.literal ['k']) 300000 (some 300000) true) (by decide +kernel)
    (Node.fits_rep_literal (by decide) (by decide) (by decide) true)⟩

theorem compile_k_repeated_caseless :
    compile "k\x7b300000\x7d" true = .error .tooLarge :=
  compile_of_fits_false
    (n := .rep (.set ⟨#[(0x4b, 0x4b), (0x6b, 0x6b), (0x212a, 0x212a)]⟩ false) 300000 (some 300000)
      true)
    (by decide +kernel) (Node.fits_rep_set (by decide) (by decide) true)

end Regex
end Awk
