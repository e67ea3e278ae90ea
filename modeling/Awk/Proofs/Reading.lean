import Awk.Proofs.Decoding
import Awk.Proofs.Spans

/-!
# Nothing is lost in reading

A reader gives back the text of its input piece by piece: what a read skips, the record,
and what ends it.  `Piece.Fits` says which pieces a separator allows.  Every read takes one
of them off the front of what remains, whatever separators were in force before, so that the
pieces of all reads put together are the text.
-/

namespace Awk

theorem Text.drop_of_indexOf? {word text : List Char} {i : Nat}
    (h : Text.indexOf? word text = some i) : ∃ rest, text.drop i = word ++ rest := by
  fun_induction Text.indexOf? word text generalizing i with
  | case1 hempty =>
    cases h
    exact ⟨[], by rw [List.isEmpty_iff.mp hempty]; rfl⟩
  | case2 hempty => cases h
  | case3 c cs hword =>
    cases h
    obtain ⟨rest, hrest⟩ := List.isPrefixOf_iff_prefix.mp hword
    exact ⟨rest, hrest.symm⟩
  | case4 c cs hword ih =>
    obtain ⟨j, hj, rfl⟩ := Option.map_eq_some_iff.mp h
    exact ih hj

namespace Reader

open Text.Utf8 (decode)

/-- The text that a reader has not given back yet. -/
def remaining (r : Reader) : List Char := r.buffer ++ r.lines.flatMap decode

theorem remaining_ofBytes (bytes : List UInt8) :
    (Reader.ofStream (.ofBytes bytes)).remaining = decode bytes :=
  ByteStream.flatMap_decode_lines bytes

theorem remaining_of_lines_nil {r : Reader} (h : r.lines = []) : r.remaining = r.buffer := by
  rw [remaining, h, List.flatMap_nil, List.append_nil]

/-! ## Pieces -/

/-- What one read takes. -/
structure Piece where
  skipped : List Char
  record : Option (List Char)
  terminator : List Char

def Newlines (text : List Char) : Prop := ∀ c ∈ text, c = '\n'

namespace Piece

def text (p : Piece) : List Char := p.skipped ++ p.record.getD [] ++ p.terminator

/-- What a terminator looks like.  At the end of the input there may be none. -/
def EndsWith (p : Piece) (rest : List Char) : RecordSeparator → Prop
  | .char c => p.terminator = [c] ∨ p.terminator = [] ∧ rest = []
  | .regex _ => p.terminator ≠ [] ∨ rest = []
  | .paragraph => Newlines p.terminator

/-- The pieces that a separator allows with a given rest behind them.  Only a read of a
paragraph skips anything, and what it skips is newlines.  A piece with a record is not empty,
and one without is the last. -/
structure Fits (separator : RecordSeparator) (rest : List Char) (p : Piece) : Prop where
  skips : p.skipped = [] ∨ separator = .paragraph ∧ Newlines p.skipped
  ends : p.EndsWith rest separator
  takes : p.record.isSome → p.text ≠ []
  last : p.record = none → p.terminator = [] ∧ rest = []

theorem ends_at_end (separator : RecordSeparator) {p : Piece} {rest : List Char}
    (hp : p.terminator = []) (hrest : rest = []) : p.EndsWith rest separator := by
  cases separator with
  | char c => exact .inr ⟨hp, hrest⟩
  | regex re => exact .inr hrest
  | paragraph =>
    intro c hc
    rw [hp] at hc
    cases hc

end Piece

/-- A read that ends without failure and takes a piece off the text. -/
def Takes (separator : RecordSeparator) (text : List Char) (result : Outcome × Reader) : Prop :=
  ∃ p : Piece, result.1 = .ok p.record ∧ text = p.text ++ result.2.remaining ∧
    p.Fits separator result.2.remaining ∧ result.2.failure = none

/-! ## Drawing lines -/

/-- What holds of a reader and of what becomes of it with each line that is drawn holds of all
readers that `finish?` and `last` get to see. -/
theorem draw_keeps {α : Type} {finish? : Reader → Option (Except String α × Reader)}
    {last : Reader → Except String α × Reader} {I : Reader → Prop}
    {P : Except String α × Reader → Prop}
    (hdraw : ∀ line lines buffer, I { lines := line :: lines, failure := none, buffer } →
      I { lines, failure := none, buffer := buffer ++ decode line })
    (hfinish : ∀ r result, I r → finish? r = some result → P result)
    (hlast : ∀ r, I r → r.lines = [] → finish? r = none → P (last r))
    {lines : List (List UInt8)} {buffer : List Char}
    (h : I { lines, failure := none, buffer }) : P (draw finish? last none lines buffer) := by
  induction lines generalizing buffer with
  | nil =>
    let r : Reader := { lines := [], failure := none, buffer }
    unfold draw
    dsimp only
    cases hf : finish? r with
    | some result => exact hfinish r result h hf
    | none => exact hlast r h rfl hf
  | cons line lines ih =>
    let r : Reader := { lines := line :: lines, failure := none, buffer }
    unfold draw
    cases hf : finish? r with
    | some result => exact hfinish r result h hf
    | none => exact ih (hdraw line lines buffer h)

theorem remaining_draw (line : List UInt8) (lines : List (List UInt8)) (buffer : List Char) :
    remaining { lines, failure := none, buffer := buffer ++ decode line } =
      remaining { lines := line :: lines, failure := none, buffer } :=
  List.append_assoc buffer (decode line) (lines.flatMap decode)

/-- Lines go from the input to the buffer, so what remains is the same whenever `finish?` or
`last` gets to see it. -/
theorem draw_spec {α : Type} {finish? : Reader → Option (Except String α × Reader)}
    {last : Reader → Except String α × Reader} {text : List Char}
    {P : Except String α × Reader → Prop}
    (hfinish : ∀ r result, r.failure = none → r.remaining = text → finish? r = some result →
      P result)
    (hlast : ∀ r, r.lines = [] → r.failure = none → r.remaining = text → finish? r = none →
      P (last r))
    {lines : List (List UInt8)} {buffer : List Char}
    (htext : buffer ++ lines.flatMap decode = text) :
    P (draw finish? last none lines buffer) :=
  draw_keeps (I := fun r => r.failure = none ∧ r.remaining = text)
    (fun line lines buffer h => ⟨rfl, (remaining_draw line lines buffer).trans h.2⟩)
    (fun r result h => hfinish r result h.1 h.2) (fun r h hlines => hlast r hlines h.1 h.2)
    ⟨rfl, htext⟩

/-! ## Taking a piece -/

theorem takes_record {separator : RecordSeparator} {record terminator : List Char} {r : Reader}
    (hr : r.failure = none) (hne : record ++ terminator ≠ [])
    (hends : Piece.EndsWith ⟨[], some record, terminator⟩ r.remaining separator) :
    Takes separator (record ++ terminator ++ r.remaining) (.ok (some record), r) := by
  refine ⟨⟨[], some record, terminator⟩, rfl, rfl, ⟨.inl rfl, hends, fun _ => hne, ?_⟩, hr⟩
  intro h
  cases h

theorem takes_nothing (separator : RecordSeparator) {r : Reader} (hr : r.failure = none)
    (hnil : r.remaining = []) : Takes separator r.remaining (.ok none, r) := by
  refine ⟨⟨[], none, []⟩, rfl, rfl, ⟨.inl rfl, ?_, fun h => ?_, fun _ => ⟨rfl, hnil⟩⟩, hr⟩
  · exact Piece.ends_at_end separator rfl hnil
  · cases h

theorem slice_ne_nil {buffer : List Char} {start stop : Nat} (hlt : start < stop)
    (hle : stop ≤ buffer.length) : (buffer.drop start).take (stop - start) ≠ [] := by
  intro hnil
  have hlength := congrArg List.length hnil
  rw [List.length_take, List.length_drop, List.length_nil] at hlength
  omega

/-- A cut in the buffer takes the record before it and the separator. -/
theorem splitOff_takes {separator : RecordSeparator} {r : Reader} {start stop : Nat}
    (hr : r.failure = none) (hlt : start < stop) (hle : stop ≤ r.buffer.length)
    (hends : ∀ rest, Piece.EndsWith ⟨[], some (r.buffer.take start),
      (r.buffer.drop start).take (stop - start)⟩ rest separator) :
    Takes separator r.remaining (r.splitOff start stop) := by
  have hterminator := slice_ne_nil hlt hle
  have hbuffer : r.buffer =
      r.buffer.take start ++ (r.buffer.drop start).take (stop - start) ++ r.buffer.drop stop := by
    have hstop : r.buffer.drop stop = (r.buffer.drop start).drop (stop - start) := by
      rw [List.drop_drop, Nat.add_sub_cancel' (Nat.le_of_lt hlt)]
    rw [hstop, List.append_assoc, List.take_append_drop, List.take_append_drop]
  have htext : r.remaining = r.buffer.take start ++ (r.buffer.drop start).take (stop - start) ++
      { r with buffer := r.buffer.drop stop }.remaining := by
    show r.buffer ++ _ = _ ++ (r.buffer.drop stop ++ _)
    rw [← List.append_assoc]
    exact congrArg (· ++ r.lines.flatMap decode) hbuffer
  rw [htext]
  exact takes_record hr (List.append_ne_nil_of_right_ne_nil _ hterminator) (hends _)

/-- At the end of the input a record may take all that is left. -/
theorem takes_all {separator : RecordSeparator} {record terminator : List Char} {r : Reader}
    (hlines : r.lines = []) (hr : r.failure = none) (hne : r.buffer ≠ [])
    (hbuffer : r.buffer = record ++ terminator)
    (hends : Piece.EndsWith ⟨[], some record, terminator⟩ [] separator) :
    Takes separator r.remaining (.ok (some record), { r with buffer := [] }) := by
  let emptied : Reader := { r with buffer := [] }
  have hrest : emptied.remaining = [] := remaining_of_lines_nil hlines
  have htakes : Takes separator (record ++ terminator ++ emptied.remaining)
      (.ok (some record), emptied) := by
    refine takes_record hr ?_ ?_
    · rw [← hbuffer]
      exact hne
    · rw [hrest]
      exact hends
  rw [hrest, List.append_nil, ← hbuffer] at htakes
  rw [remaining_of_lines_nil hlines]
  exact htakes

/-- At the end of the input the rest is a record, unless there is none. -/
theorem takeRest_takes (separator : RecordSeparator) {r : Reader} (hlines : r.lines = [])
    (hr : r.failure = none) : Takes separator r.remaining r.takeRest := by
  unfold takeRest
  split
  · next hempty =>
    have hnil : r.buffer = [] := List.isEmpty_iff.mp hempty
    have hsame : { r with buffer := [] } = r := by rw [← hnil]
    rw [hsame]
    refine takes_nothing separator hr ?_
    rw [remaining_of_lines_nil hlines, hnil]
  · next hempty =>
    have hne : r.buffer ≠ [] := fun hnil => hempty (List.isEmpty_iff.mpr hnil)
    exact takes_all hlines hr hne (List.append_nil _).symm (Piece.ends_at_end separator rfl rfl)

/-- A read takes a piece if every end of a record that `found?` sees fits the separator, and
`last` takes one at the end of the input. -/
theorem takeRecord_takes {separator : RecordSeparator} {found? : Reader → Option (Nat × Nat)}
    {last : Reader → Outcome × Reader} {r : Reader} (hr : r.failure = none)
    (hfound : ∀ r start stop, found? r = some (start, stop) →
      start < stop ∧ stop ≤ r.buffer.length ∧ ∀ rest, Piece.EndsWith ⟨[],
        some (r.buffer.take start), (r.buffer.drop start).take (stop - start)⟩ rest separator)
    (hlast : ∀ r, r.lines = [] → r.failure = none → Takes separator r.remaining (last r)) :
    Takes separator r.remaining (takeRecord found? last r) := by
  unfold takeRecord
  rw [hr]
  refine draw_spec (fun r' result hr' htext hf => ?_) (fun r' hlines hr' htext _ => ?_) rfl
  · obtain ⟨⟨start, stop⟩, hs, rfl⟩ := Option.map_eq_some_iff.mp hf
    obtain ⟨hlt, hle, hends⟩ := hfound r' start stop hs
    have htakes := splitOff_takes hr' hlt hle hends
    rw [htext] at htakes
    exact htakes
  · have htakes := hlast r' hlines hr'
    rw [htext] at htakes
    exact htakes

/-! ## Single characters and regular expressions -/

theorem findChar?_spec {c : Char} {r : Reader} {start stop : Nat}
    (h : findChar? c r = some (start, stop)) :
    stop = start + 1 ∧ stop ≤ r.buffer.length ∧
      (r.buffer.drop start).take (stop - start) = [c] := by
  obtain ⟨i, hi, heq⟩ := Option.map_eq_some_iff.mp h
  cases heq
  obtain ⟨hlt, hc, -⟩ := List.findIdx?_eq_some_iff_getElem.mp hi
  refine ⟨rfl, hlt, ?_⟩
  rw [Nat.add_sub_cancel_left, List.drop_eq_getElem_cons hlt, List.take_succ_cons, List.take_zero,
    beq_iff_eq.mp hc]

theorem findMatch?_spec {re : Regex} {r : Reader} {start stop : Nat}
    (h : findMatch? re r = some (start, stop)) : start < stop ∧ stop ≤ r.buffer.length := by
  unfold findMatch? at h
  split at h
  · next m hm =>
    split at h
    · cases h
      exact Regex.findNonEmpty?_lt hm
    · cases h
  · cases h

theorem readChar_takes (c : Char) {r : Reader} (hr : r.failure = none) :
    Takes (.char c) r.remaining (r.readChars (.char c)) := by
  refine takeRecord_takes hr (fun r start stop hf => ?_)
    fun r hlines hr => takeRest_takes _ hlines hr
  obtain ⟨hstop, hle, hends⟩ := findChar?_spec hf
  exact ⟨by omega, hle, fun _ => .inl hends⟩

theorem readRegex_takes (re : Regex) {r : Reader} (hr : r.failure = none) :
    Takes (.regex re) r.remaining (r.readChars (.regex re)) := by
  refine takeRecord_takes hr (fun r start stop hf => ?_)
    fun r hlines hr => takeRest_takes _ hlines hr
  obtain ⟨hlt, hle⟩ := findMatch?_spec hf
  exact ⟨hlt, hle, fun _ => .inl (slice_ne_nil hlt hle)⟩

/-! ## Paragraphs -/

theorem newlines_takeWhile (text : List Char) : Newlines (text.takeWhile (· == '\n')) := by
  intro c hc
  exact beq_iff_eq.mp (List.all_eq_true.mp List.all_takeWhile c hc)

theorem dropWhile_newlines {text : List Char} (h : text.all (· == '\n')) :
    text.dropWhile (· == '\n') = [] := by
  have hdrop := @List.dropWhile_append_of_pos _ (· == '\n') text [] (List.all_eq_true.mp h)
  rw [List.append_nil] at hdrop
  exact hdrop

theorem dropWhile_of_not_newlines {text : List Char} (h : ¬text.all (· == '\n')) :
    ∃ c rest, c ≠ '\n' ∧ text.dropWhile (· == '\n') = c :: rest := by
  cases hdrop : text.dropWhile (· == '\n') with
  | nil =>
    have htext := @List.takeWhile_append_dropWhile _ (· == '\n') text
    rw [hdrop, List.append_nil] at htext
    have hall := @List.all_takeWhile _ (· == '\n') text
    rw [htext] at hall
    exact absurd hall h
  | cons c rest =>
    have hne : text.dropWhile (· == '\n') ≠ [] := by rw [hdrop]; exact List.cons_ne_nil c rest
    have hc := List.head_dropWhile_not (· == '\n') hne
    simp only [hdrop, List.head_cons, beq_eq_false_iff_ne] at hc
    exact ⟨c, rest, hc, rfl⟩

/-- Lines are drawn up to a paragraph, or to the end if only newlines come. -/
def SeesParagraph (text : List Char) (result : Except String Bool × Reader) : Prop :=
  ∃ found, result.1 = .ok found ∧ result.2.remaining = text ∧ result.2.failure = none ∧
    (found = false → result.2.lines = [] ∧ result.2.buffer.all (· == '\n')) ∧
    (found = true → ¬result.2.buffer.all (· == '\n'))

/-- What comes before a paragraph is dropped, and is nothing but newlines.  Where no
paragraph follows that is all there was. -/
theorem skipNewlines_spec {r : Reader} (hr : r.failure = none) :
    ∃ found skipped, r.skipNewlines.1 = .ok found ∧ Newlines skipped ∧
      r.remaining = skipped ++ r.skipNewlines.2.remaining ∧ r.skipNewlines.2.failure = none ∧
      (found = false → r.skipNewlines.2.remaining = []) ∧
      (found = true → ∃ c rest, c ≠ '\n' ∧ r.skipNewlines.2.remaining = c :: rest) := by
  let anything? (r : Reader) : Option (Except String Bool × Reader) :=
    if r.buffer.all (· == '\n') then none else some (.ok true, r)
  let drawn := draw anything? (fun r => (.ok false, r)) r.failure r.lines r.buffer
  have hdrawn : SeesParagraph r.remaining drawn := by
    show SeesParagraph r.remaining (draw anything? _ r.failure r.lines r.buffer)
    rw [hr]
    refine draw_spec (fun r' result hr' htext hf => ?_) (fun r' hlines hr' htext hf => ?_) rfl
    · by_cases hall : r'.buffer.all (· == '\n')
      · rw [show anything? r' = none from if_pos hall] at hf
        cases hf
      · rw [show anything? r' = some (.ok true, r') from if_neg hall] at hf
        cases hf
        exact ⟨true, rfl, htext, hr', (fun h => by cases h), fun _ => hall⟩
    · refine ⟨false, rfl, htext, hr', fun _ => ⟨hlines, ?_⟩, fun h => by cases h⟩
      by_cases hall : r'.buffer.all (· == '\n')
      · exact hall
      · rw [show anything? r' = some (.ok true, r') from if_neg hall] at hf
        cases hf
  obtain ⟨found, hfound, htext, hr', hend, hsome⟩ := hdrawn
  refine ⟨found, drawn.2.buffer.takeWhile (· == '\n'), hfound, newlines_takeWhile _, ?_, hr',
    fun hnone => ?_, fun hsees => ?_⟩
  · show r.remaining = _ ++ (drawn.2.buffer.dropWhile (· == '\n') ++ _)
    rw [← List.append_assoc, List.takeWhile_append_dropWhile]
    exact htext.symm
  · obtain ⟨hlines, hall⟩ := hend hnone
    show drawn.2.buffer.dropWhile (· == '\n') ++ drawn.2.lines.flatMap decode = []
    rw [dropWhile_newlines hall, hlines]
    rfl
  · obtain ⟨c, rest, hc, hbuffer⟩ := dropWhile_of_not_newlines (hsome hsees)
    refine ⟨c, rest ++ drawn.2.lines.flatMap decode, hc, ?_⟩
    show drawn.2.buffer.dropWhile (· == '\n') ++ drawn.2.lines.flatMap decode = _
    rw [hbuffer, List.cons_append]

theorem findBlankLine?_spec {r : Reader} {start stop : Nat}
    (h : findBlankLine? r = some (start, stop)) :
    stop = start + 2 ∧ stop ≤ r.buffer.length ∧
      (r.buffer.drop start).take (stop - start) = ['\n', '\n'] := by
  obtain ⟨i, hi, heq⟩ := Option.map_eq_some_iff.mp h
  cases heq
  obtain ⟨rest, hrest⟩ := Text.drop_of_indexOf? hi
  refine ⟨rfl, ?_, ?_⟩
  · have hlength := congrArg List.length hrest
    rw [List.length_drop, List.length_append] at hlength
    simp only [List.length_cons, List.length_nil] at hlength
    omega
  · rw [hrest, Nat.add_sub_cancel_left]
    rfl

theorem takeLastParagraph_takes {r : Reader} (hlines : r.lines = []) (hr : r.failure = none) :
    Takes .paragraph r.remaining r.takeLastParagraph := by
  by_cases hempty : r.buffer.isEmpty
  · have hsame : r.takeLastParagraph = r.takeRest := by
      rw [takeLastParagraph, takeRest, if_pos hempty]
    rw [hsame]
    exact takeRest_takes _ hlines hr
  · let body := (r.buffer.reverse.dropWhile (· == '\n')).reverse
    let ending := (r.buffer.reverse.takeWhile (· == '\n')).reverse
    have hbuffer : r.buffer = body ++ ending := by
      rw [← List.reverse_append, List.takeWhile_append_dropWhile, List.reverse_reverse]
    have hne : r.buffer ≠ [] := fun hnil => hempty (List.isEmpty_iff.mpr hnil)
    rw [takeLastParagraph, takeRest, if_neg hempty]
    refine takes_all hlines hr hne hbuffer fun c hc => ?_
    exact newlines_takeWhile _ c (List.mem_reverse.mp hc)

/-- Newlines before a paragraph belong to its piece. -/
theorem Takes.skip {skipped text : List Char} {result : Outcome × Reader}
    (h : Takes .paragraph text result) (hskipped : Newlines skipped) :
    Takes .paragraph (skipped ++ text) result := by
  obtain ⟨p, hresult, htext, hfits, hr⟩ := h
  have htext' :
      (Piece.mk (skipped ++ p.skipped) p.record p.terminator).text = skipped ++ p.text := by
    simp only [Piece.text, List.append_assoc]
  refine ⟨⟨skipped ++ p.skipped, p.record, p.terminator⟩, hresult, ?_,
    ⟨.inr ⟨rfl, ?_⟩, hfits.ends, fun h => ?_, hfits.last⟩, hr⟩
  · rw [htext', htext, List.append_assoc]
  · intro c hc
    rcases List.mem_append.mp hc with hc | hc
    · exact hskipped c hc
    · rcases hfits.skips with hnil | ⟨-, hnewlines⟩
      · rw [hnil] at hc
        cases hc
      · exact hnewlines c hc
  · rw [htext']
    exact List.append_ne_nil_of_right_ne_nil _ (hfits.takes h)

theorem readParagraph_takes {r : Reader} (hr : r.failure = none) :
    Takes .paragraph r.remaining r.readParagraph := by
  obtain ⟨found, skipped, hfound, hskipped, htext, hr', hend, -⟩ := skipNewlines_spec hr
  unfold readParagraph
  rcases hrun : r.skipNewlines with ⟨result, r'⟩
  rw [hrun] at hfound htext hr' hend
  dsimp only at hfound htext hr' hend
  subst hfound
  rw [htext]
  refine Takes.skip ?_ hskipped
  cases found with
  | true =>
    refine takeRecord_takes hr' (fun r start stop hf => ?_)
      fun r hlines hr => takeLastParagraph_takes hlines hr
    obtain ⟨hstop, hle, hends⟩ := findBlankLine?_spec hf
    refine ⟨by omega, hle, fun _ c hc => ?_⟩
    dsimp only at hc
    rw [hends] at hc
    rcases List.mem_cons.mp hc with rfl | hc
    · rfl
    · exact List.mem_singleton.mp hc
  | false => exact takes_nothing _ hr' (hend rfl)

/-! ## Reads in a row -/

theorem readChars_takes {r : Reader} (hr : r.failure = none) (separator : RecordSeparator) :
    Takes separator r.remaining (r.readChars separator) := by
  cases separator with
  | char c => exact readChar_takes c hr
  | paragraph => exact readParagraph_takes hr
  | regex re => exact readRegex_takes re hr

/-- Reads once for each of the separators. -/
def readEach (r : Reader) : List RecordSeparator → List (Except String (Option String)) × Reader
  | [] => ([], r)
  | separator :: separators =>
    let (outcome, r) := r.read separator
    let (outcomes, r) := readEach r separators
    (outcome :: outcomes, r)

namespace Piece

/-- What a read that takes the piece gives. -/
def outcome (p : Piece) : Except String (Option String) := .ok (p.record.map String.ofList)

/-- Each piece fits its separator, with the pieces behind it and the rest to follow. -/
def FitEach : List RecordSeparator → List Piece → List Char → Prop
  | [], [], _ => True
  | separator :: separators, p :: pieces, rest =>
    p.Fits separator (pieces.flatMap text ++ rest) ∧ FitEach separators pieces rest
  | _, _, _ => False

end Piece

theorem read_takes {r : Reader} (hr : r.failure = none) (separator : RecordSeparator) :
    ∃ p : Piece, (r.read separator).1 = p.outcome ∧
      r.remaining = p.text ++ (r.read separator).2.remaining ∧
      p.Fits separator (r.read separator).2.remaining ∧ (r.read separator).2.failure = none := by
  obtain ⟨p, hresult, htext, hfits, hr'⟩ := readChars_takes hr separator
  unfold read
  rcases hrun : r.readChars separator with ⟨result, r'⟩
  rw [hrun] at hresult htext hfits hr'
  dsimp only at hresult
  subst hresult
  exact ⟨p, rfl, htext, hfits, hr'⟩

theorem readEach_fits {r : Reader} (hr : r.failure = none) (separators : List RecordSeparator) :
    ∃ pieces : List Piece, (r.readEach separators).1 = pieces.map Piece.outcome ∧
      r.remaining = pieces.flatMap Piece.text ++ (r.readEach separators).2.remaining ∧
      Piece.FitEach separators pieces (r.readEach separators).2.remaining := by
  induction separators generalizing r with
  | nil => exact ⟨[], rfl, rfl, trivial⟩
  | cons separator separators ih =>
    obtain ⟨p, houtcome, htext, hfits, hr'⟩ := read_takes hr separator
    obtain ⟨pieces, houtcomes, hrest, heach⟩ := ih hr'
    refine ⟨p :: pieces, ?_, ?_, ?_, heach⟩
    · rw [List.map_cons, ← houtcome, ← houtcomes]
      rfl
    · rw [htext, hrest, List.flatMap_cons, List.append_assoc]
      rfl
    · rw [hrest] at hfits
      exact hfits

namespace Piece

theorem Fits.record_none {separator : RecordSeparator} {rest : List Char} {p : Piece}
    (h : p.Fits separator rest) (hnil : p.text = []) : p.record = none := by
  cases hrecord : p.record with
  | none => rfl
  | some record => exact absurd hnil (h.takes (by rw [hrecord]; rfl))

section

variable {separators : List RecordSeparator} {pieces : List Piece} {rest : List Char}

/-- Where no text is left there are no more records. -/
theorem record_none_of_text_nil (h : FitEach separators pieces rest)
    (hnil : pieces.flatMap text = []) : ∀ p ∈ pieces, p.record = none := by
  fun_induction FitEach separators pieces rest with
  | case1 rest => exact fun p hp => absurd hp List.not_mem_nil
  | case2 separator separators p pieces rest ih =>
    rw [List.flatMap_cons, List.append_eq_nil_iff] at hnil
    exact List.forall_mem_cons.mpr ⟨h.1.record_none hnil.1, ih h.2 hnil.2⟩
  | case3 => exact h.elim

theorem pairwise_none (h : FitEach separators pieces rest) :
    pieces.Pairwise fun p q => p.record = none → q.record = none := by
  fun_induction FitEach separators pieces rest with
  | case1 rest => exact .nil
  | case2 separator separators p pieces rest ih =>
    refine .cons (fun q hq hnone => ?_) (ih h.2)
    have hnil := (h.1.last hnone).2
    exact record_none_of_text_nil h.2 (List.append_eq_nil_iff.mp hnil).1 q hq
  | case3 => exact h.elim

theorem rest_nil_of_none (h : FitEach separators pieces rest) :
    ∀ p ∈ pieces, p.record = none → rest = [] := by
  fun_induction FitEach separators pieces rest with
  | case1 rest => exact fun p hp => absurd hp List.not_mem_nil
  | case2 separator separators p pieces rest ih =>
    refine List.forall_mem_cons.mpr ⟨fun hnone => ?_, ih h.2⟩
    exact (List.append_eq_nil_iff.mp (h.1.last hnone).2).2
  | case3 => exact h.elim

/-- Every record takes a character. -/
theorem length_le_of_records (h : FitEach separators pieces rest)
    (hsome : ∀ p ∈ pieces, p.record ≠ none) :
    separators.length ≤ (pieces.flatMap text).length := by
  fun_induction FitEach separators pieces rest with
  | case1 rest => exact Nat.le_refl 0
  | case2 separator separators p pieces rest ih =>
    obtain ⟨hp, hsome⟩ := List.forall_mem_cons.mp hsome
    have hlength := ih h.2 hsome
    have hpos : 0 < p.text.length :=
      List.length_pos_iff.mpr fun hnil => hp (h.1.record_none hnil)
    rw [List.flatMap_cons, List.length_append, List.length_cons]
    omega
  | case3 => exact h.elim

end

end Piece

/-- Reading gives back the input.  The characters of the bytes are those of the pieces that
the reads take, in order, and of what remains; each piece is as its separator says.  Once
a read finds no record, nothing remains and no later one finds any, and this comes to pass
before there are more reads than characters. -/
theorem reading_conserves (bytes : List UInt8) (separators : List RecordSeparator) :
    let run := (Reader.ofStream (.ofBytes bytes)).readEach separators
    ∃ pieces : List Piece,
      run.1 = pieces.map Piece.outcome ∧
      decode bytes = pieces.flatMap Piece.text ++ run.2.remaining ∧
      Piece.FitEach separators pieces run.2.remaining ∧
      (pieces.Pairwise fun p q => p.record = none → q.record = none) ∧
      (∀ p ∈ pieces, p.record = none → run.2.remaining = []) ∧
      ((decode bytes).length < separators.length → ∃ p ∈ pieces, p.record = none) := by
  intro run
  have hr : (Reader.ofStream (.ofBytes bytes)).failure = none := rfl
  obtain ⟨pieces, houtcomes, htext, hfit⟩ := readEach_fits hr separators
  rw [remaining_ofBytes] at htext
  refine ⟨pieces, houtcomes, htext, hfit, Piece.pairwise_none hfit,
    Piece.rest_nil_of_none hfit, fun hlt => Classical.byContradiction fun hno => ?_⟩
  have hsome : ∀ p ∈ pieces, p.record ≠ none := fun p hp hnone => hno ⟨p, hp, hnone⟩
  have hle := Piece.length_le_of_records hfit hsome
  rw [htext, List.length_append] at hlt
  omega

end Reader
end Awk
