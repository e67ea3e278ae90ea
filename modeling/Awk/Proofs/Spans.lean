import Awk.Regex.Search

/-!
# Matches that are not empty

Where each match lies in the text that is searched, the first one that is not empty does
as well.
-/

namespace Awk
namespace Regex

/-- A step to the right takes from the text to come. -/
theorem Point.skip_end (p : Point) (n : Nat) :
    (p.skip n).index + (p.skip n).rest.length = p.index + p.rest.length := by
  fun_induction Point.skip p n with
  | case1 p => rfl
  | case2 p n hrest => rfl
  | case3 p n c cs hrest ih =>
    rw [ih, hrest, List.length_cons]
    dsimp only
    omega

theorem findNonEmptyFrom?_lt {re : Regex} {fuel : Nat} {p : Point} {last : Option Nat} {m : Span}
    (h : re.findNonEmptyFrom? fuel p last = some m) :
    m.start < m.stop ∧ m.stop ≤ p.index + p.rest.length := by
  fun_induction findNonEmptyFrom? re fuel p last with
  | case1 => cases h
  | case2 => cases h
  | case3 => cases h
  | case4 fuel p last m' hfound hempty hlast hrest ih =>
    rw [← p.skip_end 1]
    exact ih h
  | case5 fuel p last m' hfound hempty hlast ih =>
    rw [← p.skip_end (m'.stop - p.index)]
    exact ih h
  | case6 fuel p last m' hfound hempty =>
    cases h
    have hbetween := re.between hfound
    have hne : m.start ≠ m.stop := fun heq => hempty (beq_iff_eq.mpr heq)
    exact ⟨Nat.lt_of_le_of_ne hbetween.start_le hne, hbetween.stop_le⟩

/-- The first match that is not empty lies within the text. -/
theorem findNonEmpty?_lt {re : Regex} {text : List Char} {m : Span}
    (h : re.findNonEmpty? text = some m) : m.start < m.stop ∧ m.stop ≤ text.length := by
  have hm := findNonEmptyFrom?_lt h
  rw [show (Point.start text).index + (Point.start text).rest.length = text.length from
    Nat.zero_add _] at hm
  exact hm

end Regex
end Awk
