import Awk.Proofs.LongerText
import Awk.Proofs.Splitting

/-!
# Searching for one character

The pattern of a single character finds it wherever it stands, so dividing a text at the matches is
dividing it at the character.
-/

namespace Awk
namespace Regex

open Text (CharSet)

theorem single_contains (c d : Char) : (CharSet.single c).contains d = (d == c) := by
  have hval : (CharSet.single c).contains d =
      (decide (c.toNat ≤ d.toNat) && decide (d.toNat ≤ c.toNat)) := rfl
  rw [hval, Bool.eq_iff_iff, Bool.and_eq_true, decide_eq_true_iff, decide_eq_true_iff, beq_iff_eq,
    ← Char.toNat_inj]
  omega

/-- The program for a single character. -/
def Automaton.ofChar (c : Char) : Automaton :=
  { code := #[.accept, .char (.single c) 0], start := 1 }

def ofChar (c : Char) : Regex := ofAutomaton (.ofChar c)

variable {c : Char}

namespace Automaton

/-- With no thread under way, one starts, which takes the character or ends. -/
theorem searchStep_ofChar_start (before : Option Char) (d : Char) (position : Nat) :
    searchStep (ofChar c) before (some d) position [] none =
      (if d == c then [⟨0, position⟩] else [], none) := by
  rw [← single_contains]
  show ((if (CharSet.single c).contains d then [Thread.mk 0 position] else []).reverse, none) = _
  split <;> rfl

/-- A thread that has taken the character accepts. -/
theorem search_ofChar_taken (before : Option Char) (start position : Nat) (rest : List Char) :
    search (ofChar c) before position [⟨0, start⟩] none rest = some ⟨start, position⟩ := by
  cases rest with
  | nil => rfl
  | cons d rest => rfl

theorem search_ofChar_of_not_mem {rest : List Char} (h : c ∉ rest) (before : Option Char)
    (position : Nat) : search (ofChar c) before position [] none rest = none := by
  induction rest generalizing before position with
  | nil => rfl
  | cons d rest ih =>
    obtain ⟨hd, hrest⟩ := List.ne_and_not_mem_of_not_mem_cons h
    have hstep : (d == c) = false := by simpa using Ne.symm hd
    rw [search_cons, searchStep_ofChar_start, hstep]
    exact ih hrest _ _

theorem search_ofChar_append {head : List Char} (h : c ∉ head) (tail : List Char)
    (before : Option Char) (position : Nat) :
    search (ofChar c) before position [] none (head ++ c :: tail) =
      some ⟨position + head.length, position + head.length + 1⟩ := by
  induction head generalizing before position with
  | nil =>
    rw [List.nil_append, search_cons, searchStep_ofChar_start, beq_self_eq_true]
    exact search_ofChar_taken _ _ _ _
  | cons d head ih =>
    obtain ⟨hd, hhead⟩ := List.ne_and_not_mem_of_not_mem_cons h
    have hstep : (d == c) = false := by simpa using Ne.symm hd
    rw [List.cons_append, search_cons, searchStep_ofChar_start, hstep]
    show search (ofChar c) (some d) (position + 1) [] none (head ++ c :: tail) = _
    rw [ih hhead, List.length_cons, Nat.add_right_comm, Nat.add_assoc position]

end Automaton

/-- Cutting at all matches from a position on divides what follows it at the character. -/
theorem cutAt_findAllFrom_ofChar {fuel : Nat} {p : Point} (hfuel : p.rest.length < fuel)
    (last : Option Nat) :
    let cut := cutAt p.index (findAllFrom (ofChar c) fuel p last) p.rest
    cut.1.map (·.1) ++ [cut.2] = Text.splitBy (· == c) p.rest := by
  induction fuel generalizing p last with
  | zero => omega
  | succ fuel ih =>
    dsimp only
    rw [Text.splitBy_eq_splitOn]
    by_cases hmem : c ∈ p.rest
    · obtain ⟨head, tail, hrest, hhead⟩ := List.eq_append_cons_of_mem hmem
      have hfound : (ofChar c).findFrom? p =
          some ⟨p.index + head.length, p.index + head.length + 1⟩ := by
        show (Automaton.ofChar c).search p.before p.index [] none p.rest = _
        rw [hrest]
        exact Automaton.search_ofChar_append hhead tail _ _
      have hlength : head.length + 1 ≤ p.rest.length := by simp [hrest]
      have hindex : (p.skip (head.length + 1)).index = p.index + head.length + 1 :=
        Point.skip_index hlength
      have htail : (p.skip (head.length + 1)).rest = tail := by
        simp [Point.skip_rest, hrest]
      have hshorter : (p.skip (head.length + 1)).rest.length < fuel := by
        rw [Point.skip_rest, List.length_drop]
        omega
      have hmore := ih hshorter (some (p.index + head.length + 1))
      have hstop : p.index + head.length + 1 - p.index = head.length + 1 := by omega
      have hall : findAllFrom (ofChar c) (fuel + 1) p last =
          ⟨p.index + head.length, p.index + head.length + 1⟩ ::
            findAllFrom (ofChar c) fuel (p.skip (head.length + 1))
              (some (p.index + head.length + 1)) := by
        rw [findAllFrom, hfound]
        simp [Span.isEmpty, hstop]
      rw [hindex, htail, Text.splitBy_eq_splitOn] at hmore
      rw [hall, hrest, List.splitOn_append_cons_self_of_not_mem hhead, ← hmore]
      simp [cutAt]
    · have hfound : (ofChar c).findFrom? p = none :=
        Automaton.search_ofChar_of_not_mem hmem _ _
      rw [findAllFrom, hfound, List.splitOn_eq_singleton hmem]
      rfl

theorem split_ofChar (c : Char) (text : List Char) :
    (ofChar c).split text = Text.splitBy (· == c) text := by
  have hfuel : (Point.start text).rest.length < 2 * text.length + 2 := by
    show text.length < _
    omega
  exact cutAt_findAllFrom_ofChar hfuel none

/-- The pattern for a backslash. -/
theorem compile_quote_backslash (ignoreCase : Bool) :
    Regex.compile (Regex.quote "\\") ignoreCase = .ok (ofChar '\\') := by
  have hquoted : (Regex.quote "\\").toList = ['\\', '\\'] := by decide
  have hread : Regex.parsePattern ['\\', '\\'] ignoreCase = some (.literal ['\\']) := by
    cases ignoreCase <;> decide +kernel
  have hfits : (Node.literal ['\\']).fits = true := by decide +kernel
  simp only [Regex.compile, hquoted, hread, hfits, if_true]
  rfl

end Regex

namespace FieldSplitter

/-- A separator that is taken as it stands, so not a letter whose case is ignored. -/
def IsLiteral (ignoreCase : Bool) (c : Char) : Prop :=
  c ≠ ' ' ∧ (ignoreCase && Text.isAlphabetic c) = false

/-- Such a separator divides where it stands, also the backslash, for which there is a pattern. -/
theorem split_of_isLiteral {ignoreCase : Bool} {c : Char} (hc : IsLiteral ignoreCase c)
    {s : FieldSplitter} (h : ofSeparator (String.singleton c) ignoreCase = .ok s) (text : String) :
    s.split text = (literal c).split text := by
  obtain ⟨hblank, hletter⟩ := hc
  simp only [ofSeparator, String.toList_singleton, if_neg hblank, hletter, Bool.or_false,
    decide_eq_true_iff] at h
  by_cases hslash : c = '\\'
  · subst hslash
    rw [if_pos rfl, show String.singleton '\\' = "\\" from rfl, Regex.compile_quote_backslash] at h
    cases h
    rw [split, split]
    cases text.toList with
    | nil => rfl
    | cons d ds => exact congrArg (List.map String.ofList) (Regex.split_ofChar '\\' (d :: ds))
  · rw [if_neg hslash] at h
    cases h
    rfl

end FieldSplitter
end Awk
