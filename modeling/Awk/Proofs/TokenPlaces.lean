import Awk.Proofs.NumericTexts

/-!
# Where tokens stand

A program text is divided into tokens and what stands between them, and each token carries the place
of its first character: the number of lines before it, and that of the characters before it on its
line.  The characters of a comment do not count as columns, so the newline behind a comment, and the
end of a text that ends in one, carry the place of the comment (`tokenize_laid`).
-/

namespace Awk
namespace Location

/-- The place of the character that follows a text. -/
def behind (before : List Char) : Location :=
  { line := before.count '\n' + 1, column := (before.reverse.takeWhile (· ≠ '\n')).length + 1 }

theorem behind_concat (before : List Char) (c : Char) :
    behind (before ++ [c]) = (behind before).advance c := by
  rw [behind, advance, List.count_append, List.reverse_append, List.reverse_singleton,
    List.singleton_append]
  split
  · next hc =>
    subst hc
    rw [List.takeWhile_cons_of_neg (by decide)]
    rfl
  · next hc =>
    rw [List.takeWhile_cons_of_pos (by simpa using hc), List.count_singleton,
      if_neg (by simpa using hc)]
    rfl

theorem behind_append (before cs : List Char) :
    behind (before ++ cs) = (behind before).advanceBy cs := by
  induction cs generalizing before with
  | nil => rw [List.append_nil, advanceBy_nil]
  | cons c cs ih => rw [advanceBy_cons, ← behind_concat, ← ih, List.append_assoc]; rfl

/-- The order of places in a text. -/
def Precedes (l l' : Location) : Prop := l.line < l'.line ∨ l.line = l'.line ∧ l.column < l'.column

instance (l l' : Location) : Decidable (l.Precedes l') :=
  inferInstanceAs (Decidable (_ ∨ _))

theorem Precedes.trans {l l' l'' : Location} (h : l.Precedes l') (h' : l'.Precedes l'') :
    l.Precedes l'' := by
  unfold Precedes at *
  omega

theorem precedes_advance (l : Location) (c : Char) : l.Precedes (l.advance c) := by
  unfold advance Precedes
  split
  · exact .inl (Nat.lt_succ_self _)
  · exact .inr ⟨rfl, Nat.lt_succ_self _⟩

theorem precedes_advanceBy (l : Location) {cs : List Char} (hcs : cs ≠ []) :
    l.Precedes (l.advanceBy cs) := by
  induction cs generalizing l with
  | nil => exact absurd rfl hcs
  | cons c cs ih =>
    rw [advanceBy_cons]
    by_cases hrest : cs = []
    · rw [hrest]
      exact l.precedes_advance c
    · exact (l.precedes_advance c).trans (ih _ hrest)

/-- Only the line counts for the place behind a newline. -/
theorem behind_newline (before : List Char) {cs : List Char} (hcs : '\n' ∉ cs) :
    behind (before ++ (cs ++ ['\n'])) = (behind before).advance '\n' := by
  rw [← List.append_assoc, behind_concat, advance, if_pos rfl, advance, if_pos rfl]
  dsimp only [behind]
  rw [List.count_append, List.count_eq_zero_of_not_mem hcs]

/-- A place follows those of all characters before it. -/
theorem behind_precedes (before : List Char) {cs : List Char} (hcs : cs ≠ []) :
    (behind before).Precedes (behind (before ++ cs)) :=
  behind_append before cs ▸ precedes_advanceBy _ hcs

end Location

namespace Scanner

variable {place place' start : Location} {cs rest : List Char}

/-! ## What stands between tokens -/

/-- A comment without the newline behind it, or nothing. -/
def IsComment (cs : List Char) : Prop := cs = [] ∨ ∃ body, cs = '#' :: body ∧ '\n' ∉ body

/-- What has no meaning: blanks, continued line ends and, where they are dropped, newlines with what
is commented in front of them. -/
inductive Blank (newlines : Bool) : List Char → Prop where
  | nil : Blank newlines []
  | space {c : Char} {cs : List Char} : c = ' ' ∨ c = '\t' ∨ c = '\r' → Blank newlines cs →
      Blank newlines (c :: cs)
  | continued {cs : List Char} : Blank newlines cs → Blank newlines ('\\' :: '\n' :: cs)
  | continuedReturn {cs : List Char} : Blank newlines cs →
      Blank newlines ('\\' :: '\r' :: '\n' :: cs)
  | newline {comment cs : List Char} : newlines = true → IsComment comment → Blank newlines cs →
      Blank newlines (comment ++ '\n' :: cs)

namespace Blank

variable {newlines : Bool} {ds : List Char}

theorem append (hcs : Blank newlines cs) (hds : Blank newlines ds) :
    Blank newlines (cs ++ ds) := by
  induction hcs with
  | nil => exact hds
  | space hc _ ih => exact ih.space hc
  | continued _ ih => exact ih.continued
  | continuedReturn _ ih => exact ih.continuedReturn
  | newline hnewlines hcomment _ ih =>
    rw [List.append_assoc]
    exact ih.newline hnewlines hcomment

/-- Where newlines count, also those that are dropped are blank where they do not. -/
theorem mono (h : Blank false cs) : Blank newlines cs := by
  induction h with
  | nil => exact .nil
  | space hc _ ih => exact ih.space hc
  | continued _ ih => exact ih.continued
  | continuedReturn _ ih => exact ih.continuedReturn
  | newline hnewlines => cases hnewlines

end Blank

/-- What is skipped in front of a token: blanks, and a comment if a newline or nothing follows. -/
theorem skipBlanks_eq {cs cs' : List Char} (h : skipBlanks place cs = (cs', place')) :
    ∃ blank comment, cs = blank ++ (comment ++ cs') ∧ Blank false blank ∧ IsComment comment ∧
      place' = place.advanceBy blank ∧
      (comment ≠ [] → cs' = [] ∨ ∃ rest, cs' = '\n' :: rest) := by
  fun_induction skipBlanks place cs with
  | case1 =>
    cases h
    exact ⟨[], [], rfl, .nil, .inl rfl, rfl, fun hne => absurd rfl hne⟩
  | case2 _ c cs hspace ih =>
    obtain ⟨blank, comment, rfl, hblank, hcomment, hplace, hbehind⟩ := ih h
    exact ⟨c :: blank, comment, rfl, hblank.space hspace, hcomment, hplace, hbehind⟩
  | case3 place cs =>
    cases h
    refine ⟨[], '#' :: cs.takeWhile (· ≠ '\n'), ?_, .nil, .inr ⟨_, rfl, fun hmem => ?_⟩, rfl,
      fun _ => ?_⟩
    · exact congrArg ('#' :: ·) List.takeWhile_append_dropWhile.symm
    · simpa using List.all_eq_true.mp List.all_takeWhile _ hmem
    · cases hrest : cs.dropWhile (· ≠ '\n') with
      | nil => exact .inl rfl
      | cons c rest =>
        have hc := List.head?_dropWhile_not (· ≠ '\n') cs
        rw [hrest] at hc
        have heq : c = '\n' := by simpa using hc
        exact .inr ⟨rest, by rw [heq]⟩
  | case4 _ cs _ _ ih =>
    obtain ⟨blank, comment, rfl, hblank, hcomment, hplace, hbehind⟩ := ih h
    exact ⟨_, comment, rfl, hblank.continued, hcomment, hplace, hbehind⟩
  | case5 _ cs _ _ ih =>
    obtain ⟨blank, comment, rfl, hblank, hcomment, hplace, hbehind⟩ := ih h
    exact ⟨_, comment, rfl, hblank.continuedReturn, hcomment, hplace, hbehind⟩
  | case6 =>
    cases h
    exact ⟨[], [], rfl, .nil, .inl rfl, rfl, fun hne => absurd rfl hne⟩
  | case7 =>
    cases h
    exact ⟨[], [], rfl, .nil, .inl rfl, rfl, fun hne => absurd rfl hne⟩

/-! ## What a token is read from -/

/-- A piece at the start of a text ends at the place behind its characters.  Where there is none,
the error is at `start`. -/
def Takes (start place : Location) (cs : List Char) : Except Error Piece → Prop
  | .ok p => ∃ taken, cs = taken ++ p.rest ∧ p.place = place.advanceBy taken
  | .error e => ∃ fault, e = .parse fault start

/-- The rest of a piece that begins with other characters. -/
theorem Takes.behind (taken : List Char) {x : Except Error Piece}
    (h : Takes start (place.advanceBy taken) cs x) : Takes start place (taken ++ cs) x := by
  cases x with
  | error e => exact h
  | ok p =>
    obtain ⟨more, rfl, hplace⟩ := h
    refine ⟨taken ++ more, (List.append_assoc ..).symm, ?_⟩
    rw [hplace, Location.advanceBy_append]

theorem stringBody_takes (start place : Location) (acc cs : List Char) :
    Takes start place cs (stringBody start place acc cs) := by
  fun_induction stringBody start place acc cs with
  | case1 | case3 | case5 => exact ⟨_, rfl⟩
  | case2 => exact ⟨['"'], rfl, rfl⟩
  | case4 _ _ e _ _ ih => exact ih.behind ['\\', e]
  | case6 _ _ c _ _ _ _ ih => exact ih.behind [c]

theorem regexBody_takes (start place : Location) (inBracket : Bool) (acc cs : List Char) :
    Takes start place cs (regexBody start place inBracket acc cs) := by
  fun_induction regexBody start place inBracket acc cs with
  | case1 | case3 | case10 => exact ⟨_, rfl⟩
  | case2 _ _ _ c => exact ⟨[c], rfl, rfl⟩
  | case4 _ _ _ e _ _ ih => exact ih.behind ['\\', e]
  | case5 _ _ _ _ _ _ hopen _ ih => rw [hopen.1]; exact ih.behind _
  | case6 _ _ _ _ _ _ hopen _ _ ih => rw [hopen.1]; exact ih.behind _
  | case7 _ _ _ _ _ _ hopen _ ih => rw [hopen.1]; exact ih.behind _
  | case8 _ _ _ c _ _ _ _ _ _ _ ih => exact ih.behind [c]
  | case9 _ _ _ c _ _ _ _ _ ih => exact ih.behind [c]
  | case11 _ _ _ c _ _ _ _ _ _ ih => exact ih.behind [c]

theorem longest?_eq_some {s : String} {m : Mark} (h : Mark.longest? cs = some (s, m)) :
    s.toList ≠ [] ∧ cs = s.toList ++ cs.drop s.length := by
  have hmem := List.mem_of_find?_eq_some h
  have hprefix : s.toList <+: cs := by simpa using List.find?_some h
  have hspelled : ∀ p ∈ Mark.spellings, p.1.toList ≠ [] := by decide +kernel
  refine ⟨hspelled _ hmem, ?_⟩
  rw [← String.length_toList]
  exact (List.prefix_iff_eq_append.mp hprefix).symm

/-- What a token is read from: its characters, of which only the end of the text has none. -/
def Reads (place : Location) (cs : List Char) :
    Except Error (Token.Kind × List Char × Location) → Prop
  | .ok (kind, rest, place') => ∃ text, cs = text ++ rest ∧ place' = place.advanceBy text ∧
      (kind ≠ .eof ∧ text ≠ [] ∨ kind = .eof ∧ cs = [])
  | .error e => cs ≠ [] ∧ ∃ fault, e = .parse fault place

theorem Reads.of_text {kind : Token.Kind} (text : List Char) (hcs : cs = text ++ rest)
    (hkind : kind ≠ .eof) (htext : text ≠ []) :
    Reads place cs (.ok (kind, rest, place.advanceBy text)) :=
  ⟨text, hcs, rfl, .inl ⟨hkind, htext⟩⟩

/-- A token whose first character is followed by a piece. -/
theorem Reads.of_takes {c : Char} {kind : Piece → Token.Kind} (hkind : ∀ p, kind p ≠ .eof) :
    ∀ {x : Except Error Piece}, Takes place (place.advance c) cs x → Reads place (c :: cs)
      (match x with
      | .error e => .error e
      | .ok p => .ok (kind p, p.rest, p.place)) := by
  intro x h
  cases x with
  | error e => exact ⟨List.cons_ne_nil _ _, h⟩
  | ok p =>
    obtain ⟨taken, rfl, hplace⟩ := h
    exact ⟨c :: taken, rfl, hplace, .inl ⟨hkind p, List.cons_ne_nil _ _⟩⟩

theorem wordKind_ne_newline (word : String) (next : Option Char) :
    wordKind word next ≠ .newline := by
  unfold wordKind
  repeat' split
  all_goals exact Token.Kind.noConfusion

theorem wordKind_ne_eof (word : String) (next : Option Char) : wordKind word next ≠ .eof := by
  unfold wordKind
  repeat' split
  all_goals exact Token.Kind.noConfusion

theorem scanNumber_reads (place : Location) (h : startsNumber cs = true) :
    Reads place cs (scanNumber place cs) := by
  obtain ⟨x, hread, hscan⟩ := scanNumber_of_startsNumber h place
  rw [hscan]
  refine .of_text _ (List.prefix_iff_eq_append.mp (List.take_prefix _ _)).symm
    Token.Kind.noConfusion ?_
  intro hnil
  rw [hnil] at hread
  cases hread

theorem word_ne_nil {c : Char} (h : Text.isAsciiLetter c = true ∨ c = '_') (rest : List Char) :
    (c :: rest).takeWhile Text.isNameChar ≠ [] := by
  have hname : Text.isNameChar c = true := by
    rcases h with h | rfl
    · simp [Text.isNameChar, h]
    · rfl
  rw [List.takeWhile_cons_of_pos hname]
  exact List.cons_ne_nil _ _

theorem scanKind_reads (afterOperand : Bool) (place : Location) (cs : List Char) :
    Reads place cs (scanKind afterOperand place cs) := by
  cases cs with
  | nil => exact ⟨[], rfl, rfl, .inr ⟨rfl, rfl⟩⟩
  | cons c rest =>
    unfold scanKind
    dsimp only
    split
    · exact .of_text [c] rfl Token.Kind.noConfusion (List.cons_ne_nil _ _)
    · split
      · exact .of_takes (fun _ => Token.Kind.noConfusion) (stringBody_takes ..)
      · split
        · next hslash =>
          subst hslash
          split
          · split
            · exact .of_text ['/', '='] rfl Token.Kind.noConfusion (List.cons_ne_nil _ _)
            · exact .of_text ['/'] rfl Token.Kind.noConfusion (List.cons_ne_nil _ _)
          · exact .of_takes (fun _ => Token.Kind.noConfusion) (regexBody_takes ..)
        · split
          · next hnumber => exact scanNumber_reads place hnumber
          · split
            · next hword =>
              exact .of_text _ List.takeWhile_append_dropWhile.symm (wordKind_ne_eof _ _)
                (word_ne_nil hword rest)
            · split
              · next hmark =>
                obtain ⟨hne, heq⟩ := longest?_eq_some hmark
                exact .of_text _ heq Token.Kind.noConfusion hne
              · exact ⟨List.cons_ne_nil _ _, _, rfl⟩

theorem scanKind_newline (afterOperand : Bool) (place : Location) (rest : List Char) :
    scanKind afterOperand place ('\n' :: rest) = .ok (.newline, rest, place.advance '\n') := rfl

theorem newline_of_scanKind {afterOperand : Bool}
    (h : scanKind afterOperand place cs = .ok (.newline, rest, place')) : cs = '\n' :: rest := by
  unfold scanKind scanNumber at h
  dsimp only at h
  repeat' split at h
  all_goals try cases h
  · next hnewline => rw [hnewline]
  · next hword => exact absurd (Prod.mk.inj (Except.ok.inj h)).1 (wordKind_ne_newline _ _)

/-! ## The layout of a text -/

/-- Whether newlines behind a token are dropped. -/
def dropsNewlines (previous : Option Token) : Bool := previous.any (·.kind.absorbsNewline)

def endsOperand (previous : Option Token) : Bool := previous.any (·.kind.endsOperand)

/-- A token behind `before`, blanks and perhaps a comment: it carries the place behind the blanks,
and nothing but a newline or the end of the text has a comment in front of it. -/
structure TokenAt (previous : Option Token) (before blank comment text rest : List Char)
    (t : Token) : Prop where
  blanks : Blank (dropsNewlines previous) blank
  comments : IsComment comment
  commented : comment ≠ [] → t.kind = .newline ∨ t.kind = .eof
  placed : t.place = .behind (before ++ blank)
  read : ∃ place', scanKind (endsOperand previous) t.place (text ++ rest) =
    .ok (t.kind, rest, place')

/-- How a text is divided.  Every token has characters, up to the end of the text or an error, which
has the place behind the blanks as well. -/
inductive Laid : List Char → Option Token → List Char → Except Error (List Token) → Prop where
  | token {before blank comment text rest : List Char} {previous : Option Token} {t : Token}
      {result : Except Error (List Token)} :
      TokenAt previous before blank comment text rest t → t.kind ≠ .eof → text ≠ [] →
      absorbed previous t = false →
      Laid (before ++ (blank ++ (comment ++ text))) (some t) rest result →
      Laid before previous (blank ++ (comment ++ (text ++ rest))) (result.map (t :: ·))
  | eof {before blank comment : List Char} {previous : Option Token} {t : Token} :
      TokenAt previous before blank comment [] [] t → t.kind = .eof →
      Laid before previous (blank ++ comment) (.ok [t])
  | error {before blank text : List Char} {previous : Option Token} {fault : ParseFault} :
      Blank (dropsNewlines previous) blank → text ≠ [] →
      scanKind (endsOperand previous) (.behind (before ++ blank)) text =
        .error (.parse fault (.behind (before ++ blank))) →
      Laid before previous (blank ++ text) (.error (.parse fault (.behind (before ++ blank))))

variable {previous : Option Token} {before blank comment text : List Char} {t : Token}
  {s s' : Scanner} {result : Except Error (List Token)}

theorem isEof_iff : t.kind.isEof = true ↔ t.kind = .eof := by
  cases t.kind <;> simp [Token.Kind.isEof]

theorem absorbed_iff :
    absorbed previous t = true ↔ t.kind = .newline ∧ dropsNewlines previous = true := by
  have hkind : t.kind.isNewline = true ↔ t.kind = .newline := by
    cases t.kind <;> simp [Token.Kind.isNewline]
  unfold absorbed
  rw [Bool.and_eq_true, hkind]
  cases previous <;> rfl

/-- Where newlines are dropped, no operand ends. -/
theorem endsOperand_of_dropsNewlines (h : dropsNewlines previous = true) :
    endsOperand previous = false := by
  cases previous with
  | none => cases h
  | some p =>
    change p.kind.absorbsNewline = true at h
    show p.kind.endsOperand = false
    unfold Token.Kind.absorbsNewline at h
    split at h
    all_goals try cases h
    all_goals
      next hkind =>
        rw [hkind]
        rfl

theorem TokenAt.behind {skipped : List Char} (hskipped : Blank (dropsNewlines previous) skipped)
    (h : TokenAt previous (before ++ skipped) blank comment text rest t) :
    TokenAt previous before (skipped ++ blank) comment text rest t where
  blanks := hskipped.append h.blanks
  comments := h.comments
  commented := h.commented
  placed := by rw [h.placed, List.append_assoc]
  read := h.read

/-- What is blank in front of a text belongs to the blanks of its first token. -/
theorem Laid.behind (hblank : Blank (dropsNewlines previous) blank)
    (h : Laid (before ++ blank) previous rest result) :
    Laid before previous (blank ++ rest) result := by
  cases h with
  | token hstands hkind htext hkept hrest =>
    rw [← List.append_assoc]
    refine .token (hstands.behind hblank) hkind htext hkept ?_
    rwa [List.append_assoc, ← List.append_assoc before]
  | eof hstands hkind =>
    rw [← List.append_assoc]
    exact .eof (hstands.behind hblank) hkind
  | error hskipped htext herror =>
    rw [List.append_assoc] at herror ⊢
    rw [← List.append_assoc]
    exact .error (hblank.append hskipped) htext herror

/-! ## The scanner goes along a layout -/

/-- A scanner that goes on behind a text and its last token. -/
structure Follows (s : Scanner) (before : List Char) (previous : Option Token) : Prop where
  place : s.place = .behind before
  operand : s.afterOperand = endsOperand previous

/-- The place behind a token that has a comment in front of it is right again, as this token is a
newline. -/
theorem advanceBy_behind_comment (hcomment : IsComment comment)
    (htext : comment ≠ [] → text = ['\n']) :
    (Location.behind before).advanceBy text = .behind (before ++ (comment ++ text)) := by
  rcases hcomment with rfl | ⟨body, rfl, hbody⟩
  · rw [List.nil_append, Location.behind_append]
  · rw [htext (List.cons_ne_nil _ _), Location.behind_newline]
    · rfl
    · simpa using hbody

/-- What the scanner reads at a newline, or at the end of the text. -/
theorem scanKind_commented {afterOperand : Bool} {kind : Token.Kind}
    (hcs : cs = [] ∨ ∃ rest, cs = '\n' :: rest)
    (h : scanKind afterOperand place cs = .ok (kind, rest, place')) :
    kind = .eof ∨ kind = .newline ∧ cs = '\n' :: rest := by
  rcases hcs with rfl | ⟨rest', rfl⟩
  · cases h
    exact .inl rfl
  · rw [scanKind_newline] at h
    cases h
    exact .inr ⟨rfl, rfl⟩

theorem eq_singleton_of_append {c : Char} (h : text ++ rest = c :: rest) : text = [c] :=
  List.append_cancel_right h

/-- The next token is read behind blanks, and behind a comment if nothing or a newline follows. -/
theorem Follows.nextToken_eq (hs : s.Follows before previous) :
    ∃ blank comment cs, s.rest = blank ++ (comment ++ cs) ∧
      Blank (dropsNewlines previous) blank ∧ IsComment comment ∧
      (comment ≠ [] → cs = [] ∨ ∃ rest, cs = '\n' :: rest) ∧
      s.nextToken =
        match scanKind (endsOperand previous) (.behind (before ++ blank)) cs with
        | .error e => .error e
        | .ok (kind, rest, place) =>
          .ok (⟨kind, .behind (before ++ blank)⟩, ⟨rest, place, kind.endsOperand⟩) := by
  rcases hskip : skipBlanks s.place s.rest with ⟨cs, place⟩
  obtain ⟨blank, comment, hrest, hblank, hcomment, hplace, hbehind⟩ := skipBlanks_eq hskip
  rw [hs.place, ← Location.behind_append] at hplace
  refine ⟨blank, comment, cs, hrest, hblank.mono, hcomment, hbehind, ?_⟩
  rcases hkind : scanKind (endsOperand previous) (.behind (before ++ blank)) cs with
    e | ⟨kind, rest, place'⟩
  · simp only [nextToken, hskip, hs.operand, hplace, hkind]
  · simp only [nextToken, hskip, hs.operand, hplace, hkind]

theorem Follows.nextToken_ok (hs : s.Follows before previous) (h : s.nextToken = .ok (t, s')) :
    ∃ blank comment text, s.rest = blank ++ (comment ++ (text ++ s'.rest)) ∧
      TokenAt previous before blank comment text s'.rest t ∧
      (t.kind ≠ .eof ∧ text ≠ [] ∧ s'.Follows (before ++ (blank ++ (comment ++ text))) (some t) ∨
        t.kind = .eof ∧ text = [] ∧ s'.rest = []) := by
  obtain ⟨blank, comment, cs, hrest, hblank, hcomment, hbehind, hnext⟩ := hs.nextToken_eq
  rw [hnext] at h
  have hreads := scanKind_reads (endsOperand previous) (.behind (before ++ blank)) cs
  split at h
  · cases h
  · next kind rest place' hscan =>
    cases h
    rw [hscan] at hreads
    obtain ⟨text, rfl, rfl, hkind⟩ := hreads
    have hcommented := fun hne => scanKind_commented (hbehind hne) hscan
    refine ⟨blank, comment, text, hrest, ⟨hblank, hcomment, ?_, rfl, _, hscan⟩, ?_⟩
    · intro hne
      rcases hcommented hne with heof | ⟨hnewline, -⟩
      · exact .inr heof
      · exact .inl hnewline
    · rcases hkind with ⟨hkind, htext⟩ | ⟨hkind, htext⟩
      · refine .inl ⟨hkind, htext, ?_, rfl⟩
        rw [← List.append_assoc]
        refine advanceBy_behind_comment hcomment fun hne => ?_
        rcases hcommented hne with heof | ⟨-, hnewline⟩
        · exact absurd heof hkind
        · exact eq_singleton_of_append hnewline
      · obtain ⟨rfl, hend⟩ := List.append_eq_nil_iff.mp htext
        exact .inr ⟨hkind, rfl, hend⟩

theorem Follows.nextToken_error {e : Error} (hs : s.Follows before previous)
    (h : s.nextToken = .error e) : Laid before previous s.rest (.error e) := by
  obtain ⟨blank, comment, cs, hrest, hblank, -, hbehind, hnext⟩ := hs.nextToken_eq
  rw [hnext] at h
  have hreads := scanKind_reads (endsOperand previous) (.behind (before ++ blank)) cs
  split at h
  · next e hscan =>
    cases h
    rw [hscan] at hreads
    obtain ⟨hcs, fault, rfl⟩ := hreads
    -- Behind a comment there is no error.
    have hnone : comment = [] := by
      cases comment with
      | nil => rfl
      | cons c comment =>
        rcases hbehind (List.cons_ne_nil _ _) with rfl | ⟨rest, rfl⟩
        · exact absurd rfl hcs
        · cases hscan
    rw [hrest, hnone]
    exact .error hblank hcs hscan
  · cases h

/-- A newline that is dropped is blank. -/
theorem TokenAt.blank_newline (h : TokenAt previous before blank comment text rest t)
    (habsorbed : absorbed previous t = true) :
    Blank (dropsNewlines previous) (blank ++ (comment ++ text)) := by
  obtain ⟨hkind, hdrops⟩ := absorbed_iff.mp habsorbed
  obtain ⟨place', hread⟩ := h.read
  rw [hkind] at hread
  obtain rfl := eq_singleton_of_append (newline_of_scanKind hread)
  exact h.blanks.append (.newline hdrops h.comments .nil)

/-- Behind a newline that is dropped, the scanner goes on as behind the token before. -/
theorem Follows.of_absorbed (h : s.Follows before (some t))
    (habsorbed : absorbed previous t = true) :
    s.Follows before previous where
  place := h.place
  operand := by
    obtain ⟨hkind, hdrops⟩ := absorbed_iff.mp habsorbed
    rw [h.operand, endsOperand_of_dropsNewlines hdrops, endsOperand, Option.any_some, hkind]
    rfl

theorem tokensFrom_laid {fuel : Nat} (hs : s.Follows before previous)
    (hfuel : s.rest.length < fuel) : Laid before previous s.rest (tokensFrom fuel previous s) := by
  induction fuel generalizing previous s before with
  | zero => exact absurd hfuel (Nat.not_lt_zero _)
  | succ fuel ih =>
    rw [tokensFrom]
    cases hnext : s.nextToken with
    | error e => exact hs.nextToken_error hnext
    | ok found =>
      obtain ⟨t, s'⟩ := found
      obtain ⟨blank, comment, text, hrest, hstands, hkind⟩ := hs.nextToken_ok hnext
      dsimp only
      rw [hrest]
      rcases hkind with ⟨hkind, htext, hs'⟩ | ⟨hkind, rfl, hend⟩
      · have hless : s'.rest.length < fuel := by
          have hpos := List.length_pos_iff.mpr htext
          rw [hrest] at hfuel
          simp only [List.length_append] at hfuel
          omega
        rw [if_neg (mt isEof_iff.mp hkind)]
        split
        · next habsorbed =>
          have hblank := hstands.blank_newline habsorbed
          have hlaid := (ih (hs'.of_absorbed habsorbed) hless).behind hblank
          simpa only [List.append_assoc] using hlaid
        · next hkept =>
          have hlaid :=
            Laid.token hstands hkind htext (Bool.eq_false_iff.mpr hkept) (ih hs' hless)
          cases hmore : tokensFrom fuel (some t) s' <;> rw [hmore] at hlaid <;> exact hlaid
      · rw [if_pos (isEof_iff.mpr hkind), hend, List.append_nil, List.append_nil]
        rw [hend] at hstands
        exact .eof hstands hkind

/-! ## The order of tokens -/

/-- All tokens of a layout stand behind what is before it, in the order of their places. -/
theorem Laid.precedes (h : Laid before previous rest result) :
    ∀ {ts : List Token}, result = .ok ts →
      (∀ t ∈ ts, ∃ skipped, t.place = .behind (before ++ skipped)) ∧
        ts.Pairwise (·.place.Precedes ·.place) := by
  induction h with
  | @token before blank comment text _ _ t result hstands _ htext _ _ ih =>
    intro ts hresult
    cases result with
    | error e => cases hresult
    | ok ts' =>
      cases hresult
      obtain ⟨hplaces, hordered⟩ := ih rfl
      refine ⟨List.forall_mem_cons.mpr ⟨⟨blank, hstands.placed⟩, fun u hu => ?_⟩,
        List.pairwise_cons.mpr ⟨fun u hu => ?_, hordered⟩⟩
      · obtain ⟨skipped, hplace⟩ := hplaces u hu
        exact ⟨_, by rw [hplace, List.append_assoc]⟩
      · obtain ⟨skipped, hplace⟩ := hplaces u hu
        have hbetween : comment ++ text ++ skipped ≠ [] := by simp [htext]
        have hprecedes := Location.behind_precedes (before ++ blank) hbetween
        rw [hstands.placed, hplace]
        simpa only [List.append_assoc] using hprecedes
  | @eof before blank _ _ _ hstands =>
    intro ts hresult
    cases hresult
    exact ⟨List.forall_mem_singleton.mpr ⟨blank, hstands.placed⟩, List.pairwise_singleton _ _⟩
  | error => exact fun hresult => nomatch hresult

end Scanner

open Scanner

theorem tokenize_laid_start (source : String) : Laid [] none source.toList (tokenize source) :=
  tokensFrom_laid (s := .ofText source) ⟨rfl, rfl⟩ (Nat.lt_succ_self _)

/-- Every token carries the place of its first character, and so does an error.  Only the newline
behind a comment, and the end of a text behind one, carry the place of the comment.  No two tokens
share a place, and later ones have later places. -/
theorem tokenize_laid (source : String) :
    Laid [] none source.toList (tokenize source) ∧
      ∀ ts, tokenize source = .ok ts → ts.Pairwise (·.place.Precedes ·.place) :=
  ⟨tokenize_laid_start source, fun _ h => ((tokenize_laid_start source).precedes h).2⟩

theorem tokenize_laid_commented :
    [(⟨.identifier "a", ⟨1, 1⟩⟩ : Token), ⟨.newline, ⟨1, 2⟩⟩, ⟨.identifier "b", ⟨2, 1⟩⟩,
      ⟨.eof, ⟨2, 2⟩⟩].Pairwise (·.place.Precedes ·.place) :=
  (tokenize_laid "a#c\nb").2 _ rfl

/-- The newline is the fourth character, and its token carries the place of the second. -/
theorem newline_behind_comment :
    ∃ t u v w, tokenize "a#c\nb" = .ok [t, u, v, w] ∧ u.kind = .newline ∧ u.place = ⟨1, 2⟩ ∧
      "a#c\nb".toList[3] = '\n' ∧ Location.behind ("a#c\nb".toList.take 3) = ⟨1, 4⟩ :=
  ⟨_, _, _, _, rfl, rfl, rfl, rfl, rfl⟩

end Awk
