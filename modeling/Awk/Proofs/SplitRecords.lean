import Awk.Proofs.Reading

/-!
# All records of an input

A reader that is asked again and again with one separator gives the records of its input and then
no more.  `Gives` says which they are, for any number of reads.  It is enough to look at one read,
whatever is in the buffer: it has to give the first of the records of the text that remains, and to
leave a text with the others (`gives_of_read`).

Where the separator is a single character, the records are the pieces of the whole text between its
occurrences.
-/

namespace Awk
namespace Reader

open Text.Utf8 (decode)

/-- What a read gives that finds a record. -/
def found (record : List Char) : Except String (Option String) := .ok (some (String.ofList record))

/-- However often it is asked with the separator, the reader gives these records in order, and none
behind them. -/
def Gives (r : Reader) (separator : RecordSeparator) (records : List (List Char)) : Prop :=
  ∀ n, (r.readEach (List.replicate n separator)).1 =
    (records.map found ++ List.replicate n (Except.ok none)).take n

/-- The records of a text, as a read with the separator sees them: it gives the first of the text
that remains and leaves the others. -/
def ReadsFirst (separator : RecordSeparator) (records : List Char → List (List Char)) : Prop :=
  ∀ r : Reader, r.failure = none →
    (r.readChars separator).1 = .ok (records r.remaining).head? ∧
      records (r.readChars separator).2.remaining = (records r.remaining).tail

theorem read_of_readsFirst {separator : RecordSeparator} {records : List Char → List (List Char)}
    (hfirst : ReadsFirst separator records) {r : Reader} (hr : r.failure = none) :
    (r.read separator).1 = .ok ((records r.remaining).head?.map String.ofList) ∧
      records (r.read separator).2.remaining = (records r.remaining).tail := by
  obtain ⟨hrecord, hrest⟩ := hfirst r hr
  unfold read
  rcases hrun : r.readChars separator with ⟨result, r'⟩
  rw [hrun] at hrecord hrest
  dsimp only at hrecord hrest
  subst hrecord
  exact ⟨rfl, hrest⟩

/-- By induction on the number of reads, for all readers at once. -/
theorem gives_of_read {separator : RecordSeparator} {records : List Char → List (List Char)}
    (hfirst : ReadsFirst separator records) {r : Reader} (hr : r.failure = none) :
    r.Gives separator (records r.remaining) := by
  intro n
  induction n generalizing r with
  | zero => rfl
  | succ n ih =>
    obtain ⟨hrecord, hrest⟩ := read_of_readsFirst hfirst hr
    obtain ⟨-, -, -, -, hr'⟩ := read_takes hr separator
    have hlater := ih hr'
    rw [hrest] at hlater
    have hsplit : (r.readEach (List.replicate (n + 1) separator)).1 = (r.read separator).1 ::
        ((r.read separator).2.readEach (List.replicate n separator)).1 := rfl
    rw [hsplit, hrecord, hlater]
    cases records r.remaining with
    | nil => simp [List.replicate_succ]
    | cons record others =>
      -- One answer more than there are reads is cut off again.
      have hpadded : (others.map found ++ List.replicate (n + 1) (Except.ok none)).take n =
          (others.map found ++ List.replicate n (Except.ok none)).take n := by
        rw [List.replicate_succ', ← List.append_assoc]
        refine List.take_append_of_le_length ?_
        rw [List.length_append, List.length_replicate]
        omega
      exact congrArg (found record :: ·) hpadded.symm

/-! ## Single characters -/

/-- The pieces of a text between the occurrences of a character.  An empty one at the end does not
count. -/
def charRecords (c : Char) (text : List Char) : List (List Char) :=
  let pieces := text.splitOn c
  if pieces.getLast? = some [] then pieces.dropLast else pieces

theorem charRecords_append_cons {c : Char} {record : List Char} (h : c ∉ record)
    (rest : List Char) :
    charRecords c (record ++ c :: rest) = record :: charRecords c rest := by
  have hpieces : (record ++ c :: rest).splitOn c = record :: rest.splitOn c :=
    List.splitOn_append_cons_self_of_not_mem h rest
  have hne := List.splitOn_ne_nil c rest
  simp only [charRecords, hpieces, List.getLast?_cons_of_ne_nil hne,
    List.dropLast_cons_of_ne_nil hne]
  split <;> rfl

theorem charRecords_of_not_mem {c : Char} {text : List Char} (h : c ∉ text) :
    charRecords c text = if text.isEmpty then [] else [text] := by
  have hpieces : text.splitOn c = [text] := List.splitOn_eq_singleton h
  simp only [charRecords, hpieces, List.getLast?_singleton, List.dropLast_singleton]
  cases text <;> simp

/-- A read that cuts a text at the first occurrence of a character, or takes all of it. -/
def CutsAtChar (c : Char) (text : List Char) (result : Outcome × Reader) : Prop :=
  (∃ record rest, c ∉ record ∧ text = record ++ c :: rest ∧ result.1 = .ok (some record) ∧
      result.2.remaining = rest) ∨
    c ∉ text ∧ result.1 = .ok (if text.isEmpty then none else some text) ∧
      result.2.remaining = []

/-- The first occurrence in the buffer is the first in all that remains. -/
theorem splitOff_cutsAtChar {c : Char} {r : Reader} {start stop : Nat}
    (h : findChar? c r = some (start, stop)) :
    CutsAtChar c r.remaining (r.splitOff start stop) := by
  obtain ⟨hstop, hle, hslice⟩ := findChar?_spec h
  obtain ⟨i, hi, heq⟩ := Option.map_eq_some_iff.mp h
  obtain ⟨rfl, rfl⟩ := Prod.mk.inj heq
  obtain ⟨hlt, hc, hbefore⟩ := List.findIdx?_eq_some_iff_getElem.mp hi
  have hbuffer : r.buffer = r.buffer.take i ++ c :: r.buffer.drop (i + 1) := by
    rw [← beq_iff_eq.mp hc, List.getElem_cons_drop, List.take_append_drop]
  refine .inl ⟨r.buffer.take i, r.buffer.drop (i + 1) ++ r.lines.flatMap decode, ?_, ?_, rfl, rfl⟩
  · intro hmem
    obtain ⟨j, hj, hjc⟩ := List.mem_take_iff_getElem.mp hmem
    have hother := hbefore j (by omega)
    rw [hjc] at hother
    simp at hother
  · rw [← List.cons_append, ← List.append_assoc, ← hbuffer]
    rfl

theorem takeRest_cutsAtChar {c : Char} {r : Reader} (hlines : r.lines = [])
    (h : findChar? c r = none) : CutsAtChar c r.remaining r.takeRest := by
  have hnone : r.buffer.findIdx? (· == c) = none := Option.map_eq_none_iff.mp h
  have hnot : c ∉ r.buffer := by
    intro hmem
    have hother := List.findIdx?_eq_none_iff.mp hnone c hmem
    simp at hother
  rw [remaining_of_lines_nil hlines]
  exact .inr ⟨hnot, rfl, remaining_of_lines_nil hlines⟩

theorem readChar_cutsAtChar (c : Char) {r : Reader} (hr : r.failure = none) :
    CutsAtChar c r.remaining (r.readChars (.char c)) := by
  show CutsAtChar c r.remaining (takeRecord (findChar? c) takeRest r)
  unfold takeRecord
  rw [hr]
  refine draw_spec (fun r' result _ htext hf => ?_) (fun r' hlines _ htext hf => ?_) rfl
  · obtain ⟨⟨start, stop⟩, hfound, rfl⟩ := Option.map_eq_some_iff.mp hf
    have hcuts := splitOff_cutsAtChar hfound
    rw [htext] at hcuts
    exact hcuts
  · have hcuts := takeRest_cutsAtChar hlines (Option.map_eq_none_iff.mp hf)
    rw [htext] at hcuts
    exact hcuts

theorem readsFirst_char (c : Char) : ReadsFirst (.char c) (charRecords c) := by
  intro r hr
  rcases readChar_cutsAtChar c hr with ⟨record, rest, hnot, htext, hrecord, hrest⟩ |
    ⟨hnot, hrecord, hrest⟩
  · rw [hrecord, hrest, htext, charRecords_append_cons hnot]
    exact ⟨rfl, rfl⟩
  · rw [hrecord, hrest, charRecords_of_not_mem hnot]
    cases r.remaining <;> exact ⟨rfl, rfl⟩

/-- With a single character for separator the records are the pieces of the decoded input between
the occurrences of the character, whatever the bytes are; to decode the lines of the input one by
one is to decode all of it. -/
theorem char_records_split (bytes : List UInt8) (c : Char) :
    (Reader.ofStream (.ofBytes bytes)).Gives (.char c) (charRecords c (decode bytes)) ∧
      (ByteStream.lines bytes).flatMap decode = decode bytes := by
  have hgives := gives_of_read (readsFirst_char c) (r := Reader.ofStream (.ofBytes bytes)) rfl
  rw [remaining_ofBytes] at hgives
  exact ⟨hgives, ByteStream.flatMap_decode_lines bytes⟩

end Reader
end Awk
