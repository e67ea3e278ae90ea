import Awk.Proofs.Encoding
import Awk.Proofs.WholeReading

/-!
# Reading standard input

A reader that draws on standard input gets it in blocks, and takes another one only if what it holds
does not tell how the next record ends.  So it never reads differently from a reader that had
everything from the start: `Reader.readShared_fill` says so of one read, with what both have left,
and `readEachShared_blocks` of any number of them.  What is proved of `Reader.read` holds of
standard input, then, as long as nobody else draws on it.
-/

namespace Awk

namespace ByteStream

theorem flatten_lines (bytes : List UInt8) : (lines bytes).flatten = bytes := by
  fun_induction lines bytes with
  | case1 => rfl
  | case2 bs ih => rw [List.flatten_cons, ih, List.singleton_append]
  | case3 b bs hb hlines ih =>
    rw [hlines] at ih
    rw [← ih]
    rfl
  | case4 b bs hb line rest hlines ih =>
    rw [hlines] at ih
    rw [← ih]
    rfl

/-- What is behind the first line is cut in the same places. -/
theorem lines_rest {bytes line : List UInt8} {rest : List (List UInt8)}
    (h : lines bytes = line :: rest) : lines rest.flatten = rest := by
  fun_induction lines bytes generalizing line rest with
  | case1 => cases h
  | case2 bs ih =>
    cases h
    rw [flatten_lines]
  | case3 b bs hb hlines ih =>
    cases h
    rfl
  | case4 b bs hb line' rest' hlines ih =>
    cases h
    exact ih hlines

/-- A first line that ends with a newline does not depend on what comes behind it. -/
theorem lines_flatten_append {line : List UInt8} {rest : List (List UInt8)}
    (h : lines (line :: rest).flatten = line :: rest) (hwhole : isWhole line) (more : List UInt8) :
    lines ((line :: rest).flatten ++ more) = line :: lines (rest.flatten ++ more) := by
  have hend : line.getLast? = some newline := eq_of_beq hwhole
  have hrest := lines_rest h
  have hline : lines line = [line] := by
    rw [List.flatten_cons, lines_append hend, hrest] at h
    exact List.append_cancel_right h
  rw [List.flatten_cons, List.append_assoc, lines_append hend, hline, List.singleton_append]

end ByteStream

namespace Reader

open Text.Utf8 (decode)

/-- A reader of lines that are cut where newlines are, without a failure behind them. -/
structure InLines (r : Reader) : Prop where
  failure : r.failure = none
  cut : ByteStream.lines r.lines.flatten = r.lines

theorem inLines_empty : Reader.empty.InLines := ⟨rfl, rfl⟩

theorem InLines.fill {r : Reader} (h : r.InLines) (block : List UInt8) : (r.fill block).InLines :=
  ⟨h.failure, by rw [Reader.fill, ByteStream.flatten_lines]⟩

theorem InLines.fill_nil {r : Reader} (h : r.InLines) : r.fill [] = r := by
  rw [Reader.fill, List.append_nil, h.cut]

theorem fill_fill (r : Reader) (block block' : List UInt8) :
    (r.fill block).fill block' = r.fill (block ++ block') := by
  simp only [Reader.fill, ByteStream.flatten_lines, List.append_assoc]

theorem inLines_kept : Kept InLines where
  failure h := h.failure
  taken h _ := ⟨h.failure, h.cut⟩
  drawn h := ⟨rfl, ByteStream.lines_rest h.cut⟩

/-! ## Reads that end before the input does -/

/-- The end of a read as the buffer tells it, and whether the input is at its end. -/
def endsBy {α : Type} (found? : Bool → List Char → Option (α × List Char)) (r : Reader) :
    Option (Except String α × Reader) :=
  (found? r.atEnd r.buffer).map fun (a, buffer) => (.ok a, { r with buffer })

section

variable {α : Type} {found? : Bool → List Char → Option (α × List Char)}
  {last : Reader → Except String α × Reader} {a : α}

theorem endsBy_none {r : Reader} (hend : r.atEnd = false) (hfound : found? false r.buffer = none) :
    endsBy found? r = none := by
  rw [endsBy, hend, hfound]
  rfl

theorem draw_of_found {lines : List (List UInt8)} {failure : Option String}
    {buffer rest : List Char} (hend : atEnd { lines, failure, buffer } = false)
    (hfound : found? false buffer = some (a, rest)) :
    draw (endsBy found?) last failure lines buffer =
      (.ok a, { lines, failure, buffer := rest }) := by
  have hends : endsBy found? { lines, failure, buffer } =
      some (.ok a, { lines, failure, buffer := rest }) := by
    rw [endsBy, hend, hfound]
    rfl
  cases lines with
  | nil =>
    unfold draw
    dsimp only
    rw [hends]
  | cons line lines =>
    unfold draw
    rw [hends]

theorem atEnd_of_more (cut : List (List UInt8)) {more : List UInt8} (hmore : more ≠ [])
    (failure : Option String) (buffer : List Char) :
    atEnd { lines := ByteStream.lines (cut.flatten ++ more), failure, buffer } = false := by
  have hflatten := ByteStream.flatten_lines (cut.flatten ++ more)
  cases hlines : ByteStream.lines (cut.flatten ++ more) with
  | nil =>
    rw [hlines] at hflatten
    exact absurd (List.append_eq_nil_iff.mp hflatten.symm).2 hmore
  | cons line lines => exact Bool.false_and _

/-- Where lines have told how a read ends, it ends so whatever comes behind them. -/
theorem draw_unended {cut : List (List UInt8)} {buffer : List Char} {r' : Reader}
    (hcut : ByteStream.lines cut.flatten = cut)
    (h : draw (endsBy found?) last (some "") cut buffer = (.ok a, r')) :
    ∃ s : Reader, s.InLines ∧ r' = s.unended ∧ ∀ more, more ≠ [] →
      draw (endsBy found?) last none (ByteStream.lines (cut.flatten ++ more)) buffer =
        (.ok a, s.fill more) := by
  induction cut generalizing buffer with
  | nil =>
    have hbegun : atEnd { lines := [], failure := some "", buffer } = false := rfl
    cases hfound : found? false buffer with
    | none =>
      unfold draw at h
      dsimp only at h
      rw [endsBy_none hbegun hfound] at h
      cases h
    | some result =>
      rw [draw_of_found hbegun hfound] at h
      cases h
      exact ⟨{ lines := [], failure := none, buffer := result.2 }, ⟨rfl, rfl⟩, rfl,
        fun more hmore => draw_of_found (atEnd_of_more [] hmore none buffer) hfound⟩
  | cons line cut ih =>
    have hbegun : atEnd { lines := line :: cut, failure := some "", buffer } = false := rfl
    cases hfound : found? false buffer with
    | none =>
      unfold draw at h
      rw [endsBy_none hbegun hfound] at h
      dsimp only at h
      split at h
      · next hwhole =>
        obtain ⟨s, hs, hr', hdraw⟩ := ih (ByteStream.lines_rest hcut) h
        refine ⟨s, hs, hr', fun more hmore => ?_⟩
        have hend := atEnd_of_more (line :: cut) hmore none buffer
        rw [ByteStream.lines_flatten_append hcut hwhole] at hend ⊢
        unfold draw
        rw [endsBy_none hend hfound]
        exact hdraw more hmore
      · cases h
    | some result =>
      rw [draw_of_found hbegun hfound] at h
      cases h
      exact ⟨{ lines := line :: cut, failure := none, buffer := result.2 }, ⟨rfl, hcut⟩, rfl,
        fun more hmore => draw_of_found (atEnd_of_more (line :: cut) hmore none buffer) hfound⟩

end

/-! ## Records that end before the input does -/

/-- The end of a record as a search of the buffer tells it. -/
def cutBy (find : Bool → List Char → Option (Nat × Nat)) (ended : Bool) (buffer : List Char) :
    Option (Option (List Char) × List Char) :=
  (find ended buffer).map fun (start, stop) => (some (buffer.take start), buffer.drop stop)

theorem takeRecord_eq (find : Bool → List Char → Option (Nat × Nat))
    (last : Reader → Outcome × Reader) (r : Reader) :
    takeRecord (fun r => find r.atEnd r.buffer) last r =
      draw (endsBy (cutBy find)) last r.failure r.lines r.buffer := by
  have hends : (fun r : Reader => (find r.atEnd r.buffer).map fun (start, stop) =>
      r.splitOff start stop) = endsBy (cutBy find) := by
    funext r
    rw [endsBy, cutBy, Option.map_map]
    rfl
  rw [takeRecord, hends]

/-- Whether the buffer tells that something other than newlines comes. -/
def somethingIn (_ : Bool) (buffer : List Char) : Option (Bool × List Char) :=
  if buffer.all (· == '\n') then none else some (true, buffer)

theorem skipNewlines_eq (r : Reader) :
    r.skipNewlines = Prod.map id (fun r => { r with buffer := r.buffer.dropWhile (· == '\n') })
      (draw (endsBy somethingIn) (fun r => (.ok false, r)) r.failure r.lines r.buffer) := by
  have hends : (fun r : Reader => if r.buffer.all (· == '\n') then none
      else some (Except.ok (ε := String) true, r)) = endsBy somethingIn := by
    funext r
    unfold endsBy somethingIn
    cases r.buffer.all (· == '\n') <;> rfl
  rw [← hends]
  rfl

/-- A read ends alike with more behind the lines that told how it ends, and leaves a reader that
has that as well. -/
def Continues {α : Type} (read : Reader → Except String α × Reader) (r : Reader) : Prop :=
  ∀ a r', read r.unended = (.ok a, r') → ∃ s : Reader, s.InLines ∧ r' = s.unended ∧
    ∀ more, more ≠ [] → read (r.fill more) = (.ok a, s.fill more)

theorem takeRecord_continues (find : Bool → List Char → Option (Nat × Nat))
    (last : Reader → Outcome × Reader) {r : Reader} (hr : r.InLines) :
    Continues (takeRecord (fun r => find r.atEnd r.buffer) last) r := by
  intro record r' h
  rw [takeRecord_eq] at h
  obtain ⟨s, hs, hr', hdraw⟩ := draw_unended hr.cut h
  refine ⟨s, hs, hr', fun more hmore => ?_⟩
  rw [takeRecord_eq, Reader.fill, hr.failure]
  exact hdraw more hmore

theorem skipNewlines_continues {r : Reader} (hr : r.InLines) : Continues skipNewlines r := by
  intro found r' h
  rw [skipNewlines_eq] at h
  rcases hrun : draw (endsBy somethingIn) (fun r => (.ok false, r)) (some "") r.lines r.buffer with
    ⟨result, r₁⟩
  have hskipped : Prod.map id _ (result, r₁) = (.ok found, r') := hrun ▸ h
  cases hskipped
  obtain ⟨s, hs, rfl, hdraw⟩ := draw_unended hr.cut hrun
  refine ⟨{ s with buffer := s.buffer.dropWhile (· == '\n') }, ⟨hs.failure, hs.cut⟩, rfl,
    fun more hmore => ?_⟩
  rw [skipNewlines_eq, Reader.fill, hr.failure, hdraw more hmore]
  rfl

theorem readParagraph_continues {r : Reader} (hr : r.InLines) : Continues readParagraph r := by
  intro record r' h
  unfold readParagraph at h
  rcases hskip : r.unended.skipNewlines with ⟨found | found, r₁⟩
  · rw [hskip] at h
    cases h
  · rw [hskip] at h
    obtain ⟨s, hs, rfl, hskipped⟩ := skipNewlines_continues hr found r₁ hskip
    cases found with
    | false =>
      cases h
      refine ⟨s, hs, rfl, fun more hmore => ?_⟩
      unfold readParagraph
      rw [hskipped more hmore]
    | true =>
      obtain ⟨s', hs', hr', htaken⟩ := takeRecord_continues
        (fun _ buffer => (Text.indexOf? ['\n', '\n'] buffer).map fun i => (i, i + 2))
        takeLastParagraph hs record r' h
      refine ⟨s', hs', hr', fun more hmore => ?_⟩
      unfold readParagraph
      rw [hskipped more hmore]
      exact htaken more hmore

theorem readChars_continues {r : Reader} (hr : r.InLines) (separator : RecordSeparator) :
    Continues (readChars · separator) r := by
  cases separator with
  | char c =>
    exact takeRecord_continues
      (fun _ buffer => (buffer.findIdx? (· == c)).map fun i => (i, i + 1)) takeRest hr
  | regex re =>
    have hfind : findMatch? re = fun r => (re.findNonEmpty? r.buffer).bind fun m =>
        if r.atEnd || m.stop < r.buffer.length then some (m.start, m.stop) else none := by
      funext r
      unfold findMatch?
      cases re.findNonEmpty? r.buffer <;> rfl
    show Continues (takeRecord (findMatch? re) takeRest) r
    rw [hfind]
    exact takeRecord_continues (fun ended buffer => (re.findNonEmpty? buffer).bind fun m =>
      if ended || m.stop < buffer.length then some (m.start, m.stop) else none) takeRest hr
  | paragraph => exact readParagraph_continues hr

theorem read_continues {r : Reader} (hr : r.InLines) (separator : RecordSeparator) :
    Continues (read · separator) r := by
  intro record r' h
  unfold read at h
  dsimp only at h
  rcases hrun : r.unended.readChars separator with ⟨_ | chars, r₁⟩
  · rw [hrun] at h
    cases h
  · rw [hrun] at h
    cases h
    obtain ⟨s, hs, hr', hread⟩ := readChars_continues hr separator chars r' hrun
    refine ⟨s, hs, hr', fun more hmore => ?_⟩
    have hmoreread := hread more hmore
    dsimp only at hmoreread ⊢
    rw [read, hmoreread]

/-! ## Blocks -/

/-- One read on blocks is one read of all that there is, and so is what is left behind it. -/
theorem readShared_fill {r : Reader} (hr : r.InLines) {blocks : List (List UInt8)}
    (hblocks : ∀ block ∈ blocks, block ≠ []) (separator : RecordSeparator) :
    match r.readShared separator blocks with
    | (record, r', blocks') =>
      (r.fill blocks.flatten).read separator = (record, r'.fill blocks'.flatten) ∧
        r'.InLines ∧ ∀ block ∈ blocks', block ≠ [] := by
  fun_induction readShared separator r blocks with
  | case1 r record r' hread =>
    have hr' : r'.InLines := by
      have hkept := inLines_kept.read hr separator
      rw [hread] at hkept
      exact hkept
    refine ⟨?_, hr', hblocks⟩
    rw [List.flatten_nil, hr.fill_nil, hr'.fill_nil, hread]
  | case2 r block blocks record r' hread =>
    obtain ⟨s, hs, rfl, hwhole⟩ := read_continues hr separator record r' hread
    have hsame : { s.unended with failure := none } = s := by
      rw [← hs.failure]
      rfl
    have hmore : (block :: blocks).flatten ≠ [] := by
      have hblock := hblocks block (.head _)
      simp [hblock]
    rw [hsame]
    exact ⟨hwhole _ hmore, hs, hblocks⟩
  | case3 r block blocks why r' hread ih =>
    have hrest := ih (hr.fill block) fun block hmem => hblocks block (.tail _ hmem)
    rw [List.flatten_cons, ← fill_fill]
    exact hrest

/-- Reads once for each of the separators. -/
def readEachShared (r : Reader) (blocks : List (List UInt8)) :
    List RecordSeparator → List (Except String (Option String))
  | [] => []
  | separator :: separators =>
    let (outcome, r, blocks) := r.readShared separator blocks
    outcome :: readEachShared r blocks separators

theorem readEachShared_fill {r : Reader} (hr : r.InLines) {blocks : List (List UInt8)}
    (hblocks : ∀ block ∈ blocks, block ≠ []) (separators : List RecordSeparator) :
    r.readEachShared blocks separators = ((r.fill blocks.flatten).readEach separators).1 := by
  induction separators generalizing r blocks with
  | nil => rfl
  | cons separator separators ih =>
    have hfill := readShared_fill hr hblocks separator
    rcases hrun : r.readShared separator blocks with ⟨outcome, r', blocks'⟩
    rw [hrun] at hfill
    obtain ⟨hread, hr', hblocks'⟩ := hfill
    rw [readEachShared, hrun, readEach, hread]
    exact congrArg (outcome :: ·) (ih hr' hblocks')

end Reader

namespace ByteStream

theorem flatten_blocksFrom {n : Nat} {bytes : List UInt8} (h : bytes.length ≤ n) :
    (blocksFrom n bytes).flatten = bytes := by
  fun_induction blocksFrom n bytes with
  | case1 bytes => exact (List.length_eq_zero_iff.mp (Nat.le_zero.mp h)).symm
  | case2 => rfl
  | case3 n bytes hbytes ih =>
    have hdrop : (bytes.drop bufferSize).length ≤ n := by
      rw [List.length_drop, bufferSize]
      omega
    rw [List.flatten_cons, ih hdrop, List.take_append_drop]

theorem ne_nil_of_mem_blocksFrom {n : Nat} {bytes block : List UInt8}
    (h : block ∈ blocksFrom n bytes) : block ≠ [] := by
  fun_induction blocksFrom n bytes with
  | case1 | case2 => cases h
  | case3 n bytes hbytes ih =>
    rcases List.mem_cons.mp h with rfl | hmem
    · intro hnil
      rcases List.take_eq_nil_iff.mp hnil with hsize | hnone
      · cases hsize
      · exact hbytes hnone
    · exact ih hmem

end ByteStream

/-- Who reads standard input alone reads what a file with the same bytes would give. -/
theorem readEachShared_blocks (bytes : List UInt8) (separators : List RecordSeparator) :
    Reader.empty.readEachShared (ByteStream.blocks bytes) separators =
      ((Reader.ofStream (.ofBytes bytes)).readEach separators).1 := by
  have hblocks : ∀ block ∈ ByteStream.blocks bytes, block ≠ [] :=
    fun _ => ByteStream.ne_nil_of_mem_blocksFrom
  rw [Reader.readEachShared_fill Reader.inLines_empty hblocks, ByteStream.blocks,
    ByteStream.flatten_blocksFrom (Nat.le_refl _)]
  rfl

end Awk
