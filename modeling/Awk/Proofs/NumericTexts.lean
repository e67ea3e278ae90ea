import Awk.Proofs.Numerals
import Awk.Scanner
import Awk.Value.Basic

/-!
# Numbers in texts

A program text, a text that is used as a number, and a text from outside are all read through the
longest numeral at some place of them.  They skip different characters in front of it, and agree
because a numeral contains none of those.
-/

namespace Awk

open Number (Numeral read? isDigit)
open Number.Numeral (Is IsPart LongestPrefix prefixLength)
open Text (Utf8.encode)

/-! ## Reading a prefix -/

namespace Number

theorem Numeral.Is.iff_read? {text : List Char} : Is text ↔ (read? text).isSome = true := by
  rw [read?, Option.isSome_map, Option.isSome_iff_exists]
  exact exists_congr fun n => Numeral.ofText?_eq_some_iff.symm

/-- The longest prefix on its own is read as what was scanned. -/
theorem read?_take (cs : List Char) :
    read? (cs.take (prefixLength cs)) = (Numeral.scan cs).map (·.1.toDouble) := by
  cases hscan : Numeral.scan cs with
  | none =>
    have hlength : prefixLength cs = 0 := by rw [prefixLength, hscan]
    rw [hlength]
    rfl
  | some found =>
    obtain ⟨n, rest⟩ := found
    obtain ⟨text, -, hread, rfl⟩ := Numeral.scan_eq_some hscan
    rw [Numeral.prefixLength_of_scan hscan, List.take_left, read?, hread]
    rfl

end Number

/-! ## Numbers of a program -/

namespace Scanner

variable {place place' : Location} {word : String}

/-- A body goes on to the error that its rest ends in, and no error is about a number. -/
theorem stringBody_ne_invalidNumber {start : Location} {acc cs : List Char} :
    stringBody start place acc cs ≠ .error (.parse (.invalidNumber word) place') := by
  fun_induction stringBody start place acc cs
  all_goals first
    | assumption
    | exact nofun

theorem regexBody_ne_invalidNumber {start : Location} {inBracket : Bool} {acc cs : List Char} :
    regexBody start place inBracket acc cs ≠ .error (.parse (.invalidNumber word) place') := by
  fun_induction regexBody start place inBracket acc cs
  all_goals first
    | assumption
    | exact nofun

/-- Where a number starts, a numeral does. -/
theorem exists_prefix_of_startsNumber {cs : List Char} (h : startsNumber cs = true) :
    ∃ text, Is text ∧ text <+: cs := by
  unfold startsNumber at h
  split at h
  · next d rest =>
    have hdigits : Number.IsDigits [d] := ⟨nofun, List.forall_mem_singleton.mpr h⟩
    exact ⟨['.', d], ⟨_, .parts .absent (.fraction hdigits) .absent⟩, rest, rfl⟩
  · next d rest _ =>
    have hdigits : Number.IsDigits [d] := ⟨nofun, List.forall_mem_singleton.mpr h⟩
    exact ⟨[d], ⟨_, .parts .absent (.whole hdigits) .absent⟩, rest, rfl⟩
  · cases h

/-- Where a number starts, one is read. -/
theorem scanNumber_of_startsNumber {cs : List Char} (h : startsNumber cs = true)
    (place : Location) :
    ∃ x, read? (cs.take (prefixLength cs)) = some x ∧
      scanNumber place cs = .ok (.number x, cs.drop (cs.take (prefixLength cs)).length,
        place.advanceBy (cs.take (prefixLength cs))) := by
  obtain ⟨text, his, hbegins⟩ := exists_prefix_of_startsNumber h
  have hread := Number.read?_take cs
  cases hscan : Number.Numeral.scan cs with
  | none => exact absurd hbegins (Number.Numeral.scan_eq_none_iff.mp hscan text his)
  | some found =>
    rw [hscan] at hread
    refine ⟨_, hread, ?_⟩
    rw [scanNumber]
    dsimp only
    rw [hread]
    rfl

theorem scanKind_ne_invalidNumber {afterOperand : Bool} {cs : List Char} :
    scanKind afterOperand place cs ≠ .error (.parse (.invalidNumber word) place') := by
  intro h
  unfold scanKind at h
  dsimp only at h
  repeat' split at h
  all_goals try cases h
  · next hbody => exact stringBody_ne_invalidNumber hbody
  · next hbody => exact regexBody_ne_invalidNumber hbody
  · next hnumber =>
    obtain ⟨x, -, hscan⟩ := scanNumber_of_startsNumber hnumber place
    rw [hscan] at h
    cases h

theorem nextToken_ne_invalidNumber (s : Scanner) (word : String) (place : Location) :
    s.nextToken ≠ .error (.parse (.invalidNumber word) place) := by
  intro h
  unfold nextToken at h
  dsimp only at h
  split at h
  · next e hscan =>
    cases h
    exact scanKind_ne_invalidNumber hscan
  · cases h

end Scanner

/-! ## Texts that are used as numbers -/

theorem Text.isWhiteSpace_of_isNumericPadding {c : Char} (h : Value.isNumericPadding c = true) :
    Text.isWhiteSpace c = true := by
  simp only [Value.isNumericPadding, Bool.or_eq_true, beq_iff_eq] at h
  rcases h with (rfl | rfl) | rfl <;> rfl

theorem Number.Numeral.IsPart.not_whiteSpace {c : Char} (h : IsPart c) :
    Text.isWhiteSpace c = false := by
  rcases h with h | h
  · rw [Number.Numeral.isDigit_iff] at h
    simp only [Text.isWhiteSpace, Text.inRanges, List.any_cons, List.any_nil, Bool.or_false,
      Bool.or_eq_false_iff, Bool.and_eq_false_iff, decide_eq_false_iff_not]
    omega
  · simp only [List.mem_cons, List.not_mem_nil, or_false] at h
    rcases h with rfl | rfl | rfl | rfl | rfl <;> rfl

/-- Skipping some of a kind of characters and then all of that kind is skipping all. -/
theorem dropWhile_dropWhile {p q : Char → Bool} (h : ∀ c, p c = true → q c = true)
    (cs : List Char) : (cs.dropWhile p).dropWhile q = cs.dropWhile q := by
  induction cs with
  | nil => rfl
  | cons c cs ih =>
    by_cases hc : p c = true
    · rw [List.dropWhile_cons, if_pos hc, List.dropWhile_cons, if_pos (h c hc), ih]
    · rw [List.dropWhile_cons, if_neg hc]

namespace Value

/-- Behind blanks, a numeral begins where it does behind white space. -/
theorem trimStart_of_prefix {cs text : List Char} (his : Is text)
    (hbegins : text <+: cs.dropWhile isNumericPadding) :
    Text.trimStart cs = cs.dropWhile isNumericPadding := by
  have hskip : (cs.dropWhile isNumericPadding).dropWhile Text.isWhiteSpace =
      cs.dropWhile Text.isWhiteSpace :=
    dropWhile_dropWhile (fun _ => Text.isWhiteSpace_of_isNumericPadding) cs
  obtain ⟨rest, hrest⟩ := hbegins
  rw [Text.trimStart, ← hskip, ← hrest]
  cases text with
  | nil => exact absurd rfl his.ne_nil
  | cons c text =>
    have hc : Text.isWhiteSpace c = false := (his.parts c (by simp)).not_whiteSpace
    rw [List.cons_append, List.dropWhile_cons, hc]
    rfl

theorem leadingNumber_eq (s : String) :
    leadingNumber s = (read? ((Text.trimStart s.toList).take
      (prefixLength (Text.trimStart s.toList)))).getD 0.0 := by
  rw [Number.read?_take, leadingNumber]
  split
  · next n rest hscan => rw [hscan]; rfl
  · next hscan => rw [hscan]; rfl

/-- A text that is classified as a number has the value that it has as a text. -/
theorem leadingNumber_of_numericText? {s : String} {x : Double} (h : numericText? s = some x) :
    leadingNumber s = x := by
  unfold numericText? at h
  split at h
  · next n rest hscan =>
    split at h
    · obtain ⟨text, hlongest, -, -⟩ := Number.Numeral.scan_eq_some hscan
      cases h
      rw [leadingNumber, trimStart_of_prefix hlongest.is_numeral hlongest.is_prefix, hscan]
    · cases h
  · cases h

theorem toNumber_ofText (s : String) : (ofText s).toNumber = leadingNumber s := by
  unfold ofText
  split
  · next x hx => exact (leadingNumber_of_numericText? hx).symm
  · rfl

end Value

/-! ## The longest numeral -/

namespace Number

/-- The first bytes of a text that form a numeral, as many of them as possible, are the bytes of
its first characters; their number is zero if there are none.  A text is read exactly if all of it
is a numeral.  So a program text has no number that cannot be read, a text is used as zero only if
no numeral follows its white space, and classifying a text as numeric keeps its number. -/
theorem numerals_scanned :
    (∀ cs : List Char,
      (prefixLength cs = 0 ↔ ∀ text, Is text → ¬Utf8.encode text <+: Utf8.encode cs) ∧
      (0 < prefixLength cs → ∃ text, Is text ∧
        Utf8.encode text = (Utf8.encode cs).take (prefixLength cs) ∧
        cs = text ++ cs.drop (prefixLength cs) ∧
        ∀ other, Is other → Utf8.encode other <+: Utf8.encode cs →
          (Utf8.encode other).length ≤ prefixLength cs)) ∧
    (∀ text : List Char, (read? text).isSome = true ↔ Is text) ∧
    (∀ (s : Scanner) (word : String) (place : Location),
      s.nextToken ≠ .error (.parse (.invalidNumber word) place)) ∧
    (∀ s : String,
      let text := Text.trimStart s.toList
      Value.leadingNumber s = (read? (text.take (prefixLength text))).getD 0.0 ∧
      (read? (text.take (prefixLength text)) = none ↔ ∀ other, Is other → ¬other <+: text)) ∧
    ∀ s : String, (Value.ofText s).toNumber = Value.leadingNumber s := by
  refine ⟨fun cs => ?_, fun text => Numeral.Is.iff_read?.symm, Scanner.nextToken_ne_invalidNumber,
    fun s => ⟨Value.leadingNumber_eq s, ?_⟩, Value.toNumber_ofText⟩
  · simp only [Text.Utf8.encode_prefix_iff]
    refine ⟨Numeral.prefixLength_eq_zero_iff, fun hpos => ?_⟩
    obtain ⟨text, hlongest, hlength⟩ := Numeral.exists_longestPrefix hpos
    obtain ⟨rest, rfl⟩ := hlongest.is_prefix
    have hbytes := Numeral.encode_length hlongest.is_numeral.parts
    rw [← hlength]
    refine ⟨text, hlongest.is_numeral, ?_, ?_, fun other hother hbegins => ?_⟩
    · rw [Text.Utf8.encode_append, ← hbytes, List.take_left]
    · rw [List.drop_left]
    · rw [Numeral.encode_length hother.parts]
      exact hlongest.longest other hother hbegins
  · rw [read?_take, Option.map_eq_none_iff]
    exact Numeral.scan_eq_none_iff

end Number
end Awk
