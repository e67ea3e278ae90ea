import Awk.Proofs.Encoding
import Awk.Proofs.LongerText
import Awk.Proofs.Reading

/-!
# Reading as if all were there

A reader whose separator is a regular expression searches the lines that it has drawn, and
takes the first match unless it touches their end.  This is the match that a search of all
the text that remains would find first, for every input and at every position, if and only if
the expression is steadfast.
-/

namespace Awk
namespace Reader

open Text.Utf8 (decode encode)

/-- What a search of a whole text makes of it: the record, and the text behind its separator. -/
def cutWhole (re : Regex) (text : List Char) : Option (List Char) × List Char :=
  match re.findNonEmpty? text with
  | some m => (some (text.take m.start), text.drop m.stop)
  | none => (if text.isEmpty then none else some text, [])

/-- The next read gives and leaves what a search of all that remains would. -/
def ReadsWhole (re : Regex) (r : Reader) : Prop :=
  (r.read (.regex re)).1 = .ok ((cutWhole re r.remaining).1.map String.ofList) ∧
    (r.read (.regex re)).2.remaining = (cutWhole re r.remaining).2

/-! ## Whole lines -/

/-- All lines but the last end with a newline. -/
def LinesWhole : List (List UInt8) → Prop
  | [] => True
  | line :: rest => (rest ≠ [] → line.getLast? = some ByteStream.newline) ∧ LinesWhole rest

theorem linesWhole_lines (bytes : List UInt8) : LinesWhole (ByteStream.lines bytes) := by
  induction bytes with
  | nil => exact trivial
  | cons b bs ih =>
    rw [ByteStream.lines]
    split
    · next hb => exact ⟨fun _ => by rw [hb]; rfl, ih⟩
    · split
      · exact ⟨fun h => absurd rfl h, trivial⟩
      · next line rest hlines =>
        rw [hlines] at ih
        refine ⟨fun hrest => ?_, ih.2⟩
        have hline := ih.1 hrest
        rw [List.getLast?_cons_of_ne_nil fun hnil => by rw [hnil] at hline; cases hline]
        exact hline

theorem getLast?_decode {line : List UInt8} (h : line.getLast? = some ByteStream.newline) :
    (decode line).getLast? = some '\n' := by
  obtain ⟨front, rfl⟩ := List.getLast?_eq_some_iff.mp h
  rw [Text.Utf8.decode_append_ascii ByteStream.newline_ascii]
  exact List.getLast?_concat

/-- Nothing, or whole lines. -/
def AtLineEnd (text : List Char) : Prop := ∀ c, text.getLast? = some c → c = '\n'

theorem AtLineEnd.suffix {text rest : List Char} (h : AtLineEnd text) (hrest : rest <:+ text) :
    AtLineEnd rest := by
  obtain ⟨front, rfl⟩ := hrest
  intro c hc
  refine h c ?_
  rw [List.getLast?_append, hc]
  rfl

theorem AtLineEnd.append {text : List Char} {line : List UInt8}
    (h : line.getLast? = some ByteStream.newline) : AtLineEnd (text ++ decode line) := by
  intro c hc
  rw [List.getLast?_append, getLast?_decode h] at hc
  exact (Option.some.inj hc).symm

/-- A reader that has drawn whole lines as long as there are more to draw. -/
structure Aligned (r : Reader) : Prop where
  failure : r.failure = none
  lines : LinesWhole r.lines
  buffer : r.lines ≠ [] → AtLineEnd r.buffer

theorem aligned_ofBytes (bytes : List UInt8) : (Reader.ofStream (.ofBytes bytes)).Aligned :=
  ⟨rfl, linesWhole_lines bytes, fun _ _ hc => by cases hc⟩

/-- A reader stays aligned when text is taken off the front of its buffer. -/
theorem Aligned.taken {r : Reader} (h : r.Aligned) {buffer : List Char}
    (hbuffer : buffer <:+ r.buffer) : { r with buffer }.Aligned :=
  ⟨h.failure, h.lines, fun hlines => (h.buffer hlines).suffix hbuffer⟩

theorem Aligned.drawn {line : List UInt8} {lines : List (List UInt8)} {buffer : List Char}
    (h : Aligned { lines := line :: lines, failure := none, buffer }) :
    Aligned { lines, failure := none, buffer := buffer ++ decode line } :=
  ⟨rfl, h.lines.2, fun hlines => .append (h.lines.1 hlines)⟩

/-- Drawing lines keeps a reader aligned and what remains the same, up to where `finish?` or
`last` gets to see them. -/
theorem draw_aligned {α : Type} {finish? : Reader → Option (Except String α × Reader)}
    {last : Reader → Except String α × Reader} {text : List Char}
    {P : Except String α × Reader → Prop}
    (hfinish : ∀ r result, r.Aligned → r.remaining = text → finish? r = some result → P result)
    (hlast : ∀ r, r.Aligned → r.lines = [] → r.remaining = text → finish? r = none → P (last r))
    {lines : List (List UInt8)} {buffer : List Char}
    (haligned : Aligned { lines, failure := none, buffer })
    (htext : buffer ++ lines.flatMap decode = text) :
    P (draw finish? last none lines buffer) :=
  draw_keeps (I := fun r => r.Aligned ∧ r.remaining = text)
    (fun line lines buffer h => ⟨h.1.drawn, (remaining_draw line lines buffer).trans h.2⟩)
    (fun r result h => hfinish r result h.1 h.2) (fun r h hlines => hlast r h.1 hlines h.2)
    ⟨haligned, htext⟩

theorem read_remaining (r : Reader) (separator : RecordSeparator) :
    (r.read separator).2 = (r.readChars separator).2 := by
  unfold read
  rcases r.readChars separator with ⟨_ | _, _⟩ <;> rfl

/-! ### What all reads keep -/

/-- A property of readers without a failure that is kept when text is taken off the front of the
buffer and when a line is drawn. -/
structure Kept (I : Reader → Prop) : Prop where
  failure {r : Reader} : I r → r.failure = none
  taken {r : Reader} {buffer : List Char} : I r → buffer <:+ r.buffer → I { r with buffer }
  drawn {line : List UInt8} {lines : List (List UInt8)} {buffer : List Char} :
    I { lines := line :: lines, failure := none, buffer } →
      I { lines, failure := none, buffer := buffer ++ decode line }

theorem aligned_kept : Kept Aligned :=
  ⟨Aligned.failure, fun hr hbuffer => hr.taken hbuffer, Aligned.drawn⟩

namespace Kept

variable {I : Reader → Prop} (h : Kept I) {r : Reader} (hr : I r)

include h hr

theorem draw {α : Type} {finish? : Reader → Option (Except String α × Reader)}
    {last : Reader → Except String α × Reader}
    (hfinish : ∀ r result, I r → finish? r = some result → I result.2)
    (hlast : ∀ r, I r → I (last r).2) :
    I (Reader.draw finish? last r.failure r.lines r.buffer).2 := by
  have hlines : I { lines := r.lines, failure := none, buffer := r.buffer } := h.failure hr ▸ hr
  rw [h.failure hr]
  exact draw_keeps (P := fun result => I result.2) (fun _ _ _ => h.drawn) hfinish
    (fun r hr _ _ => hlast r hr) hlines

theorem takeRecord {found? : Reader → Option (Nat × Nat)} {last : Reader → Outcome × Reader}
    (hlast : ∀ r, I r → I (last r).2) : I (Reader.takeRecord found? last r).2 := by
  refine h.draw hr (fun r' result hr' hf => ?_) hlast
  obtain ⟨⟨start, stop⟩, -, rfl⟩ := Option.map_eq_some_iff.mp hf
  exact h.taken hr' (List.drop_suffix stop r'.buffer)

theorem takeRest : I r.takeRest.2 := h.taken hr List.nil_suffix

theorem takeLastParagraph : I r.takeLastParagraph.2 := by
  unfold Reader.takeLastParagraph
  have hrest := h.takeRest hr
  split
  · next text r' hrun =>
    rw [hrun] at hrest
    exact hrest
  · exact hrest

theorem skipNewlines : I r.skipNewlines.2 := by
  unfold Reader.skipNewlines
  refine h.taken (h.draw hr (fun r' result hr' hf => ?_) fun r' hr' => hr')
    (List.dropWhile_suffix _)
  split at hf
  · cases hf
  · cases hf
    exact hr'

theorem readChars (separator : RecordSeparator) : I (r.readChars separator).2 := by
  cases separator with
  | char c => exact h.takeRecord hr fun _ => h.takeRest
  | regex re => exact h.takeRecord hr fun _ => h.takeRest
  | paragraph =>
    have hskip := h.skipNewlines hr
    show I r.readParagraph.2
    unfold readParagraph
    rcases hrun : r.skipNewlines with ⟨found | found, r'⟩
    · rw [hrun] at hskip
      exact hskip
    · rw [hrun] at hskip
      cases found with
      | false => exact hskip
      | true => exact h.takeRecord hskip fun _ => h.takeLastParagraph

theorem read (separator : RecordSeparator) : I (r.read separator).2 := by
  rw [read_remaining]
  exact h.readChars hr separator

theorem readEach (separators : List RecordSeparator) : I (r.readEach separators).2 := by
  induction separators generalizing r with
  | nil => exact hr
  | cons separator separators ih => exact ih (h.read hr separator)

end Kept

/-! ## Steadfast expressions are read as if all were there -/

/-- A read of a text that gives what is before `start` and leaves what is behind `stop`. -/
def Cuts (text : List Char) (start stop : Nat) (result : Outcome × Reader) : Prop :=
  result.1 = .ok (some (text.take start)) ∧ result.2.remaining = text.drop stop

/-- A cut in the buffer is a cut in all that remains. -/
theorem splitOff_cuts {r : Reader} {start stop : Nat} (hlt : start < stop)
    (hle : stop ≤ r.buffer.length) : Cuts r.remaining start stop (r.splitOff start stop) := by
  unfold Cuts remaining
  rw [List.take_append_of_le_length (by omega), List.drop_append_of_le_length hle]
  exact ⟨rfl, rfl⟩

/-- What ends the search for a separator, by how it was found. -/
theorem findMatch?_cases {re : Regex} {r : Reader} (hr : r.failure = none) {start stop : Nat}
    (h : findMatch? re r = some (start, stop)) :
    ∃ m, re.findNonEmpty? r.buffer = some m ∧ m.start = start ∧ m.stop = stop ∧
      (r.lines = [] ∨ m.stop < r.buffer.length) := by
  unfold findMatch? at h
  split at h
  · next m hm =>
    split at h
    · next hends =>
      cases h
      refine ⟨m, hm, rfl, rfl, ?_⟩
      unfold atEnd at hends
      rw [hr] at hends
      simpa using hends
    · cases h
  · cases h

/-- At the end of the input every match counts. -/
theorem findMatch?_none {re : Regex} {r : Reader} (hr : r.failure = none) (hlines : r.lines = [])
    (h : findMatch? re r = none) : re.findNonEmpty? r.buffer = none := by
  have hend : r.atEnd = true := by
    unfold atEnd
    rw [hr, hlines]
    rfl
  unfold findMatch? at h
  split at h
  · rw [hend] at h
    cases h
  · next hm => exact hm

/-- What a read makes of a text is what a search of the whole makes of it. -/
def IsWhole (re : Regex) (text : List Char) (result : Outcome × Reader) : Prop :=
  result.1 = .ok (cutWhole re text).1 ∧ result.2.remaining = (cutWhole re text).2

theorem Cuts.isWhole {re : Regex} {text : List Char} {m : Regex.Span} {result : Outcome × Reader}
    (h : Cuts text m.start m.stop result) (hm : re.findNonEmpty? text = some m) :
    IsWhole re text result := by
  unfold IsWhole cutWhole
  rw [hm]
  exact h

theorem readRegex_isWhole {re : Regex} (hre : re.Steadfast) {r : Reader} (hr : r.Aligned) :
    IsWhole re r.remaining (r.readChars (.regex re)) := by
  show IsWhole re r.remaining (takeRecord (findMatch? re) takeRest r)
  unfold takeRecord
  rw [hr.failure]
  refine draw_aligned (fun r' result hr' htext hf => ?_) (fun r' hr' hlines htext hf => ?_)
    ⟨rfl, hr.lines, hr.buffer⟩ rfl
  · obtain ⟨⟨start, stop⟩, hfound, rfl⟩ := Option.map_eq_some_iff.mp hf
    obtain ⟨m, hm, rfl, rfl, hends⟩ := findMatch?_cases hr'.failure hfound
    obtain ⟨hlt, hle⟩ := Regex.findNonEmpty?_lt hm
    have htext : r'.remaining = r.remaining := htext
    rw [← htext]
    refine (splitOff_cuts hlt hle).isWhole ?_
    by_cases hlines : r'.lines = []
    · rw [remaining_of_lines_nil hlines]
      exact hm
    · -- More may follow, but the buffer ends with a newline and the match before that.
      have hbefore := hends.resolve_left hlines
      have hne : r'.buffer ≠ [] := by
        intro hnil
        rw [hnil, List.length_nil] at hle
        omega
      have hlast : r'.buffer.getLast? = some '\n' := by
        have hsome := List.getLast?_eq_some_getLast hne
        rw [hsome, hr'.buffer hlines _ hsome]
      exact hre r'.buffer _ m hlast hm hbefore
  · have hnone : re.findNonEmpty? r'.buffer = none := by
      refine findMatch?_none hr'.failure hlines ?_
      exact Option.map_eq_none_iff.mp hf
    have htext : r'.remaining = r.remaining := htext
    rw [remaining_of_lines_nil hlines] at htext
    unfold IsWhole cutWhole
    rw [← htext, hnone]
    exact ⟨rfl, remaining_of_lines_nil hlines⟩

/-! ## Where an expression is not steadfast -/

theorem Cuts.unique {text : List Char} {start stop start' stop' : Nat}
    {result : Outcome × Reader} (h : Cuts text start stop result)
    (h' : Cuts text start' stop' result) (hlt : start < stop) (hle : stop ≤ text.length)
    (hlt' : start' < stop') (hle' : stop' ≤ text.length) : start = start' ∧ stop = stop' := by
  have hrecord : text.take start = text.take start' :=
    Option.some.inj (Except.ok.inj (h.1.symm.trans h'.1))
  have hrest : text.drop stop = text.drop stop' := h.2.symm.trans h'.2
  have hstart := congrArg List.length hrecord
  have hstop := congrArg List.length hrest
  rw [List.length_take, List.length_take] at hstart
  rw [List.length_drop, List.length_drop] at hstop
  omega

section

variable {re : Regex} {buffer : List Char} {lines : List (List UInt8)} {m : Regex.Span}

theorem readRegex_eq_draw :
    readChars { lines, failure := none, buffer } (.regex re) =
      draw (fun r => (findMatch? re r).map fun (start, stop) => r.splitOff start stop) takeRest
        none lines buffer := rfl

theorem readRegex_found (hm : re.findNonEmpty? buffer = some m)
    (hends : lines = [] ∨ m.stop < buffer.length) :
    readChars { lines, failure := none, buffer } (.regex re) =
      splitOff { lines, failure := none, buffer } m.start m.stop := by
  have hfound : findMatch? re { lines, failure := none, buffer } = some (m.start, m.stop) := by
    have hcounts : (lines.isEmpty && true || decide (m.stop < buffer.length)) = true := by
      rcases hends with hnil | hlt
      · rw [hnil]
        rfl
      · rw [decide_eq_true hlt, Bool.or_true]
    unfold findMatch?
    rw [hm]
    exact if_pos hcounts
  rw [readRegex_eq_draw]
  cases lines with
  | nil =>
    unfold draw
    dsimp only
    rw [hfound]
    rfl
  | cons line lines =>
    unfold draw
    rw [hfound]
    rfl

/-- A match that touches the end of the buffer makes the reader draw another line. -/
theorem readRegex_draws (hm : ∀ m, re.findNonEmpty? buffer = some m → ¬ m.stop < buffer.length)
    (line : List UInt8) :
    readChars { lines := line :: lines, failure := none, buffer } (.regex re) =
      readChars { lines, failure := none, buffer := buffer ++ decode line } (.regex re) := by
  have hnone : findMatch? re { lines := line :: lines, failure := none, buffer } = none := by
    cases hfound : findMatch? re { lines := line :: lines, failure := none, buffer } with
    | none => rfl
    | some found =>
      obtain ⟨m, hm', -, -, hends⟩ := findMatch?_cases rfl hfound
      exact absurd (hends.resolve_left (List.cons_ne_nil _ _)) (hm m hm')
  rw [readRegex_eq_draw, readRegex_eq_draw]
  show draw _ _ none (line :: lines) buffer = _
  unfold draw
  rw [hnone]
  cases lines <;> rfl

end

/-- Where whole lines have a match that ends before they do, a reader cuts at the same place
whether the input ends with these lines or not.  The induction is on the lines to be drawn. -/
theorem readRegex_same_cut {re : Regex} (more : List (List UInt8))
    {lines : List (List UInt8)} {buffer : List Char} {m : Regex.Span}
    (hm : re.findNonEmpty? (buffer ++ lines.flatMap decode) = some m)
    (hlt : m.stop < (buffer ++ lines.flatMap decode).length) :
    ∃ start stop, start < stop ∧ stop ≤ (buffer ++ lines.flatMap decode).length ∧
      Cuts (buffer ++ (lines ++ more).flatMap decode) start stop
        (readChars { lines := lines ++ more, failure := none, buffer } (.regex re)) ∧
      Cuts (buffer ++ lines.flatMap decode) start stop
        (readChars { lines, failure := none, buffer } (.regex re)) := by
  induction lines generalizing buffer with
  | nil =>
    rw [List.flatMap_nil, List.append_nil] at hm hlt
    obtain ⟨hspan, hle⟩ := Regex.findNonEmpty?_lt hm
    rw [List.flatMap_nil, List.append_nil, List.nil_append, readRegex_found hm (.inr hlt),
      readRegex_found hm (.inl rfl)]
    refine ⟨m.start, m.stop, hspan, hle, splitOff_cuts hspan hle, ?_⟩
    have hcuts := @splitOff_cuts { lines := [], failure := none, buffer } _ _ hspan hle
    rw [remaining_of_lines_nil rfl] at hcuts
    exact hcuts
  | cons line lines ih =>
    by_cases hfound : ∃ m₀, re.findNonEmpty? buffer = some m₀ ∧ m₀.stop < buffer.length
    · obtain ⟨m₀, hm₀, hlt₀⟩ := hfound
      obtain ⟨hspan, hle⟩ := Regex.findNonEmpty?_lt hm₀
      rw [readRegex_found hm₀ (.inr hlt₀), readRegex_found hm₀ (.inr hlt₀)]
      refine ⟨m₀.start, m₀.stop, hspan, ?_, splitOff_cuts hspan hle, splitOff_cuts hspan hle⟩
      rw [List.length_append]
      omega
    · have hnext : ∀ m, re.findNonEmpty? buffer = some m → ¬ m.stop < buffer.length :=
        fun m hm hlt => hfound ⟨m, hm, hlt⟩
      rw [List.cons_append, readRegex_draws hnext, readRegex_draws hnext, List.flatMap_cons,
        List.flatMap_cons, ← List.append_assoc, ← List.append_assoc]
      rw [List.flatMap_cons, ← List.append_assoc] at hm hlt
      exact ih hm hlt

theorem readsWhole_iff {re : Regex} {r : Reader} (hr : r.failure = none) :
    ReadsWhole re r ↔ IsWhole re r.remaining (r.readChars (.regex re)) := by
  obtain ⟨p, hresult, -⟩ := readRegex_takes re hr
  have hread : (r.read (.regex re)).1 = .ok (p.record.map String.ofList) := by
    unfold read
    rcases hrun : r.readChars (.regex re) with ⟨result, r'⟩
    rw [hrun] at hresult
    dsimp only at hresult
    subst hresult
    rfl
  have hinjective : Function.Injective (Option.map String.ofList) :=
    Option.map_injective fun x y h => by
      rw [← String.toList_ofList (l := x), h, String.toList_ofList]
  unfold ReadsWhole IsWhole
  rw [read_remaining, hread, hresult, Except.ok.injEq, Except.ok.injEq, hinjective.eq_iff]

/-- To read as if all were there takes an expression that is steadfast. -/
theorem steadfast_of_readsWhole {re : Regex}
    (h : ∀ bytes, ReadsWhole re (Reader.ofStream (.ofBytes bytes))) : re.Steadfast := by
  intro head tail m hend hm hlt
  have hwhole : ∀ bytes, IsWhole re (decode bytes)
      (readChars { lines := ByteStream.lines bytes, failure := none, buffer := [] }
        (.regex re)) := by
    intro bytes
    have hread := (readsWhole_iff rfl).mp (h bytes)
    rw [remaining_ofBytes] at hread
    exact hread
  have hlines : (ByteStream.lines (encode head)).flatMap decode = head := by
    rw [ByteStream.flatMap_decode_lines, Text.Utf8.decode_encode]
  have hmore : ByteStream.lines (encode (head ++ tail)) =
      ByteStream.lines (encode head) ++ ByteStream.lines (encode tail) := by
    rw [Text.Utf8.encode_append, ByteStream.lines_append (Text.Utf8.getLast?_encode hend)]
  have hall : ([] : List Char) ++ (ByteStream.lines (encode head) ++
      ByteStream.lines (encode tail)).flatMap decode = head ++ tail := by
    rw [← hmore, ByteStream.flatMap_decode_lines, Text.Utf8.decode_encode, List.nil_append]
  have hcut := @readRegex_same_cut re (ByteStream.lines (encode tail))
    (ByteStream.lines (encode head)) [] m
  rw [hlines, List.nil_append, hall] at hcut
  obtain ⟨start, stop, hspan, hle, hlong, hshort⟩ := hcut hm hlt
  have hhead := hwhole (encode head)
  have hboth := hwhole (encode (head ++ tail))
  rw [Text.Utf8.decode_encode] at hhead hboth
  rw [hmore] at hboth
  obtain ⟨hspan', hle'⟩ := Regex.findNonEmpty?_lt hm
  have hsame : start = m.start ∧ stop = m.stop := by
    refine hshort.unique ?_ hspan hle hspan' hle'
    unfold IsWhole cutWhole at hhead
    rw [hm] at hhead
    exact hhead
  unfold IsWhole cutWhole at hboth
  cases hfound : re.findNonEmpty? (head ++ tail) with
  | some m' =>
    rw [hfound] at hboth
    obtain ⟨hspan'', hle''⟩ := Regex.findNonEmpty?_lt hfound
    have hlonger : stop ≤ (head ++ tail).length := by
      rw [List.length_append]
      omega
    obtain ⟨hstart, hstop⟩ := hlong.unique hboth hspan hlonger hspan'' hle''
    rw [Regex.Span.eq_of (hstart.symm.trans hsame.1) (hstop.symm.trans hsame.2)]
  | none =>
    -- All of the text is no record, because the record ends before the first lines do.
    rw [hfound] at hboth
    have hrecord := congrArg (Option.map List.length) (Except.ok.inj (hlong.1.symm.trans hboth.1))
    dsimp only at hrecord
    split at hrecord
    · cases hrecord
    · rw [Option.map_some, Option.map_some, Option.some.injEq, List.length_take,
        List.length_append] at hrecord
      omega

/-- A separator is read as if all of the input were there, for every input and behind every
sequence of reads, if and only if it is steadfast.  It is if it takes no newline. -/
theorem reads_whole_iff_steadfast (re : Regex) :
    ((∀ bytes separators,
        ReadsWhole re ((Reader.ofStream (.ofBytes bytes)).readEach separators).2) ↔
      re.Steadfast) ∧
    ∀ a : Regex.Node, re = Regex.ofNode a → a.takesNewline = false → re.Steadfast := by
  refine ⟨⟨fun h => steadfast_of_readsWhole fun bytes => h bytes [], fun h bytes separators => ?_⟩,
    fun a ha hfree => ?_⟩
  · have haligned := aligned_kept.readEach (aligned_ofBytes bytes) separators
    exact (readsWhole_iff haligned.failure).mpr (readRegex_isWhole h haligned)
  · rw [ha]
    exact Regex.steadfast_of_newlineFree (Regex.Automaton.ofNode_newlineFree hfree)

/-- The separator `a\nb|a` in the text `xa\nby`: the first line alone gives a match of `a`, which
ends before the line does, but in all of the text `a\nb` is the first match. -/
theorem regex_read_too_early :
    ∃ re, RecordSeparator.ofSeparator "a\nb|a" = .ok (.regex re) ∧
      ¬ ReadsWhole re (Reader.ofStream (.ofBytes [120, 97, 10, 98, 121])) := by
  let a : Regex.Node := .alt (.literal ['a', '\n', 'b']) (.literal ['a'])
  let r : Reader := Reader.ofStream (.ofBytes [120, 97, 10, 98, 121])
  have hparse : Regex.parsePattern "a\nb|a".toList false = some a := by decide +kernel
  have hfits : a.fits = true := by decide +kernel
  have hcompile : Regex.compile "a\nb|a" false = .ok (Regex.ofNode a) := by
    rw [Regex.compile, hparse]
    exact if_pos hfits
  have hseparator : RecordSeparator.ofSeparator "a\nb|a" = .ok (.regex (Regex.ofNode a)) := by
    unfold RecordSeparator.ofSeparator
    rw [hcompile]
    rfl
  have hleft : (r.read (.regex (Regex.ofNode a))).2.remaining = ['\n', 'b', 'y'] := by
    decide +kernel
  have hwhole : (cutWhole (Regex.ofNode a) r.remaining).2 = ['y'] := by decide +kernel
  refine ⟨Regex.ofNode a, hseparator, fun h => ?_⟩
  have hsame := h.2
  rw [hleft, hwhole] at hsame
  cases hsame

end Reader
end Awk
