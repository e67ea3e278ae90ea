import Awk.Grammar
import Awk.Proofs.Cursors

/-!
# How parsers go through the tokens

A parser of expressions takes tokens from the front of the text, never its end, and with every
bracket it opens the one that closes it.  What it does depends on parsers of nested phrases only
where it has taken a token, so two families of nested parsers that agree on short texts make parsers
that agree on texts that are longer by one token.

Both are said of two parsers at once, by `Alike`, and there is one lemma for each phrase.
-/

namespace Awk

/-! ## Brackets -/

namespace Token

namespace Kind

/-- A keyword with things to print behind it. -/
def isPrint : Kind → Bool
  | keyword .print | keyword .printf => true
  | _ => false

/-- The depth in brackets behind a token, from that before it.  There is none where the token cannot
be part of an expression: it ends the text, starts a list of things to print, closes a bracket that
is not open, or is a `>` that stands in such a list outside of brackets. -/
def depth? (inPrint : Bool) (n : Nat) : Kind → Option Nat
  | mark .leftParen | mark .leftBracket => some (n + 1)
  | mark .rightParen | mark .rightBracket => if n = 0 then none else some (n - 1)
  | mark .greater => if inPrint ∧ n = 0 then none else some n
  | keyword .print | keyword .printf | eof => none
  | _ => some n

theorem isEof_of_depth? {inPrint : Bool} {n j : Nat} {k : Kind}
    (h : k.depth? inPrint n = some j) : k.isEof = false := by
  cases k with
  | eof => cases h
  | _ => rfl

theorem isPrint_of_depth? {inPrint : Bool} {n j : Nat} {k : Kind}
    (h : k.depth? inPrint n = some j) : k.isPrint = false := by
  cases k with
  | keyword w => cases w <;> first | rfl | cases h
  | _ => rfl

/-- Inside of brackets it makes no difference whether they stand in a print list. -/
theorem depth?_nested {n j : Nat} {k : Kind} (h : k.depth? false n = some j) (inPrint : Bool) :
    k.depth? inPrint (n + 1) = some (j + 1) := by
  unfold depth? at h ⊢
  split at h
  case h_3 | h_4 =>
    split at h
    · cases h
    · cases h
      simp only [Nat.add_one_ne_zero, if_false]
      congr 1
      omega
  all_goals simp_all

end Kind

/-- The depth in brackets behind tokens of an expression. -/
def depth? (inPrint : Bool) : Nat → List Token → Option Nat
  | n, [] => some n
  | n, t :: ts => (t.kind.depth? inPrint n).bind fun n => depth? inPrint n ts

theorem depth?_append (inPrint : Bool) (n : Nat) (ts us : List Token) :
    depth? inPrint n (ts ++ us) = (depth? inPrint n ts).bind fun n => depth? inPrint n us := by
  induction ts generalizing n with
  | nil => rfl
  | cons t ts ih =>
    simp only [List.cons_append, depth?]
    cases t.kind.depth? inPrint n with
    | none => rfl
    | some j => exact ih j

theorem depth?_nested {n j : Nat} {ts : List Token} (h : depth? false n ts = some j)
    (inPrint : Bool) : depth? inPrint (n + 1) ts = some (j + 1) := by
  induction ts generalizing n with
  | nil =>
    cases h
    rfl
  | cons t ts ih =>
    obtain ⟨l, hl, hts⟩ := Option.bind_eq_some_iff.mp h
    exact Option.bind_eq_some_iff.mpr ⟨l + 1, Kind.depth?_nested hl inPrint, ih hts⟩

theorem isEof_of_mem_depth? {inPrint : Bool} {n j : Nat} {ts : List Token}
    (h : depth? inPrint n ts = some j) : ∀ t ∈ ts, t.kind.isEof = false := by
  induction ts generalizing n with
  | nil => exact nofun
  | cons t ts ih =>
    obtain ⟨l, hl, hts⟩ := Option.bind_eq_some_iff.mp h
    exact List.forall_mem_cons.mpr ⟨Kind.isEof_of_depth? hl, ih hts⟩

end Token

/-! ## Where cursors move -/

namespace Cursor

theorem kind?_of_isMark {c : Cursor} {m : Mark} (h : c.isMark m) : c.kind? = some (.mark m) := by
  unfold isMark at h
  split at h
  · next kind hkind =>
    cases kind with
    | mark m' => simp_all [Token.Kind.isMark]
    | _ => cases h
  · cases h

theorem kind?_of_isKeyword {c : Cursor} {w : Keyword} (h : c.isKeyword w) :
    c.kind? = some (.keyword w) := by
  unfold isKeyword at h
  split at h
  · next kind hkind =>
    cases kind with
    | keyword w' => simp_all [Token.Kind.isKeyword]
    | _ => cases h
  · cases h

/-- All tokens that are left, and the place for errors behind them, have places of a kind. -/
structure Within (L : Location → Prop) (c : Cursor) : Prop where
  last : L c.last
  tokens : ∀ t ∈ c.rest, L t.place

/-- To go on in a text, and not past its end. -/
structure Onward (c d : Cursor) : Prop where
  tokens : ∃ ts, c.rest = ts ++ d.rest ∧ ∀ t ∈ ts, t.kind.isEof = false
  last : d.last = c.last
  inPrint : d.inPrint = c.inPrint

/-- To take at least `m` tokens of an expression, in a print list or not, which lead from depth `i`
to depth `j`. -/
structure TakesIn (inPrint : Bool) (m i j : Nat) (c d : Cursor) : Prop where
  tokens : ∃ ts, c.rest = ts ++ d.rest ∧ m ≤ ts.length ∧ Token.depth? inPrint i ts = some j
  last : d.last = c.last
  inPrint : d.inPrint = c.inPrint

abbrev Takes (m i j : Nat) (c d : Cursor) : Prop := c.TakesIn c.inPrint m i j d

theorem Within.place {L : Location → Prop} {c : Cursor} (h : c.Within L) : L c.place := by
  unfold Cursor.place
  split
  · next t ts hrest => exact h.tokens t (by rw [hrest]; exact List.mem_cons_self ..)
  · exact h.last

theorem Onward.refl (c : Cursor) : c.Onward c := ⟨⟨[], rfl, nofun⟩, rfl, rfl⟩

theorem Onward.trans {c d e : Cursor} (h : c.Onward d) (h' : d.Onward e) : c.Onward e := by
  obtain ⟨⟨ts, hts, heof⟩, hlast, hprint⟩ := h
  obtain ⟨⟨us, hus, heof'⟩, hlast', hprint'⟩ := h'
  refine ⟨⟨ts ++ us, ?_, List.forall_mem_append.mpr ⟨heof, heof'⟩⟩, hlast'.trans hlast,
    hprint'.trans hprint⟩
  rw [hts, hus, List.append_assoc]

theorem Onward.length_le {c d : Cursor} (h : c.Onward d) : d.rest.length ≤ c.rest.length := by
  obtain ⟨ts, hts, -⟩ := h.tokens
  rw [hts, List.length_append]
  omega

theorem Within.onward {L : Location → Prop} {c d : Cursor} (h : c.Within L) (hd : c.Onward d) :
    d.Within L := by
  obtain ⟨ts, hts, -⟩ := hd.tokens
  refine ⟨hd.last ▸ h.last, fun t ht => h.tokens t ?_⟩
  rw [hts]
  exact List.mem_append_right ts ht

namespace TakesIn

variable {inPrint : Bool} {m n i j l : Nat} {c d e : Cursor}

theorem refl (inPrint : Bool) (i : Nat) (c : Cursor) : c.TakesIn inPrint 0 i i c :=
  ⟨⟨[], rfl, Nat.le_refl 0, rfl⟩, rfl, rfl⟩

theorem trans (h : c.TakesIn inPrint m i j d) (h' : d.TakesIn inPrint n j l e) :
    c.TakesIn inPrint (m + n) i l e := by
  obtain ⟨⟨ts, hts, hm, hdepth⟩, hlast, hprint⟩ := h
  obtain ⟨⟨us, hus, hn, hdepth'⟩, hlast', hprint'⟩ := h'
  refine ⟨⟨ts ++ us, ?_, ?_, ?_⟩, hlast'.trans hlast, hprint'.trans hprint⟩
  · rw [hts, hus, List.append_assoc]
  · rw [List.length_append]
    omega
  · rw [Token.depth?_append, hdepth]
    exact hdepth'

theorem mono (h : c.TakesIn inPrint m i j d) (hn : n ≤ m) : c.TakesIn inPrint n i j d := by
  obtain ⟨ts, hts, hm, hdepth⟩ := h.tokens
  exact ⟨⟨ts, hts, by omega, hdepth⟩, h.last, h.inPrint⟩

theorem onward (h : c.TakesIn inPrint m i j d) : c.Onward d := by
  obtain ⟨ts, hts, -, hdepth⟩ := h.tokens
  exact ⟨⟨ts, hts, Token.isEof_of_mem_depth? hdepth⟩, h.last, h.inPrint⟩

theorem length (h : c.TakesIn inPrint m i j d) : d.rest.length + m ≤ c.rest.length := by
  obtain ⟨ts, hts, hm, -⟩ := h.tokens
  rw [hts, List.length_append]
  omega

/-- To take the next token. -/
theorem token {t : Token} {ts : List Token} (h : c.rest = t :: ts)
    (ht : t.kind.depth? inPrint i = some j) : c.TakesIn inPrint 1 i j { c with rest := ts } :=
  ⟨⟨[t], h, Nat.le_refl 1, by simp [Token.depth?, ht]⟩, rfl, rfl⟩

theorem advance {kind : Token.Kind} (hkind : c.kind? = some kind)
    (hdepth : kind.depth? inPrint i = some j) : c.TakesIn inPrint 1 i j c.advance := by
  obtain ⟨t, ts, hrest, rfl⟩ := kind?_eq_some hkind
  have hadvance : c.advance = { c with rest := ts } := by
    simp [Cursor.advance, Cursor.atEnd, hkind, Token.Kind.isEof_of_depth? hdepth, hrest]
  rw [hadvance]
  exact token hrest hdepth

/-- What is taken in brackets may stand in a print list. -/
theorem nested (h : c.TakesIn false m i j d) (inPrint : Bool) :
    c.TakesIn inPrint m (i + 1) (j + 1) d := by
  obtain ⟨ts, hts, hm, hdepth⟩ := h.tokens
  exact ⟨⟨ts, hts, hm, Token.depth?_nested hdepth inPrint⟩, h.last, h.inPrint⟩

end TakesIn

namespace Takes

variable {m n i j l : Nat} {c d e : Cursor}

theorem refl (i : Nat) (c : Cursor) : c.Takes 0 i i c := TakesIn.refl c.inPrint i c

theorem trans (h : c.Takes m i j d) (h' : d.Takes n j l e) : c.Takes (m + n) i l e := by
  rw [Takes, h.inPrint] at h'
  exact TakesIn.trans h h'

/-- To drop tokens that leave the depth alone. -/
theorem dropWhile {p : Token → Bool}
    (hp : ∀ t, p t → ∀ inPrint i, t.kind.depth? inPrint i = some i) (i : Nat) (c : Cursor) :
    c.Takes 0 i i { c with rest := c.rest.dropWhile p } := by
  refine ⟨⟨c.rest.takeWhile p, List.takeWhile_append_dropWhile.symm, Nat.zero_le _, ?_⟩, rfl, rfl⟩
  induction c.rest with
  | nil => rfl
  | cons t ts ih =>
    by_cases ht : p t
    · rw [List.takeWhile_cons_of_pos ht, Token.depth?, hp t ht]
      exact ih
    · rw [List.takeWhile_cons_of_neg ht]
      rfl

end Takes
end Cursor

/-! ## Two parsers that read alike -/

/-- A syntax error at a place of a kind. -/
def Error.Located (L : Location → Prop) (e : Error) : Prop :=
  ∃ fault place, e = .parse fault place ∧ L place

/-- From the cursor on, the parser `x` gives the same answer as `y` if fewer than `k` tokens are
left.  If it ends well, it has moved the cursor as `R` says and what it yields has the property `P`.
If it fails, the error is located, and the cursor has only moved on. -/
def Alike (L : Location → Prop) (k : Nat) (R : Cursor → Cursor → Prop) {α : Type} (P : α → Prop)
    (x y : Parser α) (c : Cursor) : Prop :=
  c.Within L →
    (c.rest.length < k → x c = y c) ∧
      match x c with
      | .ok a d => R c d ∧ P a
      | .error e d => e.Located L ∧ c.Onward d

namespace Alike

variable {L : Location → Prop} {k q m : Nat} {R R₁ R₂ : Cursor → Cursor → Prop} {α β : Type}
  {P : α → Prop} {Q : β → Prop} {x y : Parser α} {f g : α → Parser β} {c : Cursor}

theorem bind_of (hx : Alike L k R₁ P x y c)
    (hf : ∀ a d, P a → Alike L q R₂ Q (f a) (g a) d) (hq : k ≤ q + m)
    (honward : ∀ d, R₁ c d → c.Onward d)
    (hlength : ∀ d, R₁ c d → d.rest.length + m ≤ c.rest.length)
    (hR : ∀ d e, R₁ c d → R₂ d e → R c e) :
    Alike L k R Q (x >>= f) (y >>= g) c := by
  intro hc
  obtain ⟨hsame, hend⟩ := hx hc
  cases hrun : x c with
  | error e d =>
    rw [hrun] at hend
    refine ⟨fun hk => ?_, ?_⟩
    · rw [bind_of_error hrun, bind_of_error ((hsame hk).symm.trans hrun)]
    · rw [bind_of_error hrun]
      exact hend
  | ok a d =>
    rw [hrun] at hend
    obtain ⟨hd, ha⟩ := hend
    obtain ⟨hsame', hend'⟩ := hf a d ha (hc.onward (honward d hd))
    refine ⟨fun hk => ?_, ?_⟩
    · rw [bind_of_ok hrun, bind_of_ok ((hsame hk).symm.trans hrun)]
      have := hlength d hd
      exact hsame' (by omega)
    · rw [bind_of_ok hrun]
      cases hrun' : f a d with
      | error e d' =>
        rw [hrun'] at hend'
        exact ⟨hend'.1, (honward d hd).trans hend'.2⟩
      | ok b d' =>
        rw [hrun'] at hend'
        exact ⟨hR d d' hd hend'.1, hend'.2⟩

theorem mono (h : Alike L k R₁ P x y c) (hq : q ≤ k) (hR : ∀ d, R₁ c d → R c d) :
    Alike L q R P x y c := by
  intro hc
  obtain ⟨hsame, hend⟩ := h hc
  refine ⟨fun hk => hsame (by omega), ?_⟩
  cases hrun : x c with
  | error e d =>
    rw [hrun] at hend
    exact hend
  | ok a d =>
    rw [hrun] at hend
    exact ⟨hR d hend.1, hend.2⟩

/-- Where no text is short enough, any parser is like any other. -/
theorem zero {z : Parser α} (h : Alike L k R P x z c) : Alike L 0 R P x y c :=
  fun hc => ⟨fun hk => absurd hk (Nat.not_lt_zero _), (h hc).2⟩

/-- Only the answers at the cursor count. -/
theorem of_run {x' y' : Parser α} (hx : x c = x' c) (hy : y c = y' c)
    (h : Alike L k R P x' y' c) : Alike L k R P x y c := by
  unfold Alike
  rw [hx, hy]
  exact h

/-- A parser that ends well is like itself. -/
theorem ends {a : α} {d : Cursor} (hx : x c = .ok a d) (hd : R c d) (ha : P a) :
    Alike L k R P x x c := by
  intro hc
  refine ⟨fun _ => rfl, ?_⟩
  rw [hx]
  exact ⟨hd, ha⟩

theorem failAt {place : Location} (hplace : L place) (fault : ParseFault) :
    Alike L k R P (Parser.failAt fault place) (Parser.failAt fault place) c :=
  fun _ => ⟨fun _ => rfl, ⟨fault, place, rfl, hplace⟩, .refl c⟩

theorem fail (fault : ParseFault) : Alike L k R P (Parser.fail fault) (Parser.fail fault) c :=
  fun hc => ⟨fun _ => rfl, ⟨fault, c.place, rfl, hc.place⟩, .refl c⟩

theorem unexpected (what : String) :
    Alike L k R P (Parser.unexpected what) (Parser.unexpected what) c :=
  fun hc => ⟨fun _ => rfl, ⟨_, c.place, rfl, hc.place⟩, .refl c⟩

/-- To look at the cursor. -/
theorem get_bind {f g : Cursor → Parser β} (h : L c.place → Alike L k R Q (f c) (g c) c) :
    Alike L k R Q (get >>= f) (get >>= g) c :=
  fun hc => h hc.place hc

theorem place_bind {f g : Location → Parser β}
    (h : L c.place → Alike L k R Q (f c.place) (g c.place) c) :
    Alike L k R Q (Parser.place >>= f) (Parser.place >>= g) c :=
  fun hc => h hc.place hc

end Alike

/-- `x` reads tokens of an expression like `y`: at least `m` of them, from depth `i` to `j`. -/
abbrev ReadsAlike (L : Location → Prop) (k m i j : Nat) {α : Type} (P : α → Prop)
    (x y : Parser α) (c : Cursor) : Prop :=
  Alike L k (Cursor.Takes m i j) P x y c

namespace ReadsAlike

variable {L : Location → Prop} {k m n i j l : Nat} {α β : Type} {P : α → Prop} {Q : β → Prop}
  {x y : Parser α} {f g : α → Parser β} {c : Cursor}

theorem pure {a : α} (h : P a) : ReadsAlike L k 0 i i P (pure a) (pure a) c :=
  .ends rfl (.refl i c) h

theorem bind (hx : ReadsAlike L k n i j P x y c)
    (hf : ∀ a d, P a → ReadsAlike L k m j l Q (f a) (g a) d) :
    ReadsAlike L k m i l Q (x >>= f) (y >>= g) c :=
  hx.bind_of hf (Nat.le_add_right k 0) (fun _ hd => hd.onward) (fun _ hd => hd.onward.length_le)
    fun _ _ hd he => (hd.trans he).mono (Nat.le_add_left m n)

/-- What is taken first counts. -/
theorem first (hx : ReadsAlike L k m i j P x y c)
    (hf : ∀ a d, P a → ReadsAlike L k 0 j l Q (f a) (g a) d) :
    ReadsAlike L k m i l Q (x >>= f) (y >>= g) c :=
  hx.bind_of hf (Nat.le_add_right k 0) (fun _ hd => hd.onward) (fun _ hd => hd.onward.length_le)
    fun _ _ hd he => hd.trans he

/-- Behind a token that is taken, one token less is left. -/
theorem andThen (hx : ReadsAlike L (k + 1) 1 i j P x y c)
    (hf : ∀ a d, P a → ReadsAlike L k 0 j l Q (f a) (g a) d) :
    ReadsAlike L (k + 1) 1 i l Q (x >>= f) (y >>= g) c :=
  hx.bind_of hf (Nat.le_refl (k + 1)) (fun _ hd => hd.onward) (fun _ hd => hd.length)
    fun _ _ hd he => hd.trans he

/-- A turn of a loop, and the turns behind it. -/
theorem turn (hx : ReadsAlike L k 1 i j P x y c)
    (hf : ∀ a d, P a → ReadsAlike L (k - 1) 0 j l Q (f a) (g a) d) :
    ReadsAlike L k 0 i l Q (x >>= f) (y >>= g) c :=
  hx.bind_of hf (m := 1) (by omega) (fun _ hd => hd.onward) (fun _ hd => hd.length)
    fun _ _ hd he => (hd.trans he).mono (Nat.zero_le _)

theorem shorter (h : ReadsAlike L k m i j P x y c) : ReadsAlike L (k - 1) m i j P x y c :=
  h.mono (Nat.sub_le k 1) fun _ hd => hd

theorem optional (h : ReadsAlike L k m i j P x y c) :
    ReadsAlike L k m i j (fun _ => True) (some <$> x) (some <$> y) c := by
  rw [map_eq_pure_bind, map_eq_pure_bind]
  exact h.first fun _ _ _ => pure trivial

/-! ### Single tokens -/

theorem advance {kind : Token.Kind} (hkind : c.kind? = some kind)
    (hdepth : kind.depth? c.inPrint i = some j) :
    ReadsAlike L k 1 i j (fun _ => True) Parser.advance Parser.advance c :=
  .ends rfl (Cursor.TakesIn.advance hkind hdepth) trivial

theorem skipNewlines :
    ReadsAlike L k 0 i i (fun _ => True) Parser.skipNewlines Parser.skipNewlines c := by
  refine .ends rfl (.dropWhile (fun t ht inPrint i => ?_) i c) trivial
  cases hk : t.kind with
  | newline => rfl
  | _ => simp [hk, Token.Kind.isNewline] at ht

/-- `x` takes the next token and says so, or leaves it. -/
def Tries (i j : Nat) (x : Parser Bool) (c : Cursor) : Prop :=
  (∃ d, c.Takes 1 i j d ∧ x c = .ok true d) ∨ x c = .ok false c

theorem accept_tries {mark : Mark}
    (hdepth : ∀ inPrint, (Token.Kind.mark mark).depth? inPrint i = some j) (c : Cursor) :
    Tries i j (Parser.accept mark) c := by
  cases hmark : c.isMark mark with
  | false => exact .inr (accept_other hmark)
  | true =>
    obtain ⟨t, ts, hrest, hkind⟩ := kind?_eq_some (Cursor.kind?_of_isMark hmark)
    have htoken := Cursor.TakesIn.token hrest (hkind ▸ hdepth c.inPrint)
    exact .inl ⟨_, htoken, accept_run hrest hkind⟩

theorem acceptKeyword_tries {w : Keyword}
    (hdepth : ∀ inPrint, (Token.Kind.keyword w).depth? inPrint i = some j) (c : Cursor) :
    Tries i j (Parser.acceptKeyword w) c := by
  cases hword : c.isKeyword w with
  | false => exact .inr (acceptKeyword_other hword)
  | true =>
    obtain ⟨t, ts, hrest, hkind⟩ := kind?_eq_some (Cursor.kind?_of_isKeyword hword)
    have htoken := Cursor.TakesIn.token hrest (hkind ▸ hdepth c.inPrint)
    exact .inl ⟨_, htoken, acceptKeyword_run hrest hkind⟩

namespace Tries

variable {x : Parser Bool} {f g : Bool → Parser β}

theorem bind (hx : Tries i j x c) (hk : k ≤ n + 1) (hm : m ≤ 1)
    (htaken : ∀ d, ReadsAlike L n 0 j l Q (f true) (g true) d)
    (hleft : ReadsAlike L k m i l Q (f false) (g false) c) :
    ReadsAlike L k m i l Q (x >>= f) (x >>= g) c := by
  obtain ⟨d, hd, hrun⟩ | hrun := hx
  · have hx : ReadsAlike L k 1 i j (· = true) x x c := .ends hrun hd rfl
    have htaken' : ∀ a d, a = true → ReadsAlike L n 0 j l Q (f a) (g a) d := by
      rintro a d rfl
      exact htaken d
    exact hx.bind_of htaken' hk (fun _ hd => hd.onward) (fun _ hd => hd.length)
      fun _ _ hd he => (hd.trans he).mono hm
  · exact .of_run (bind_of_ok hrun) (bind_of_ok hrun) hleft

end Tries

theorem expect {mark : Mark}
    (hdepth : ∀ inPrint, (Token.Kind.mark mark).depth? inPrint i = some j) :
    ReadsAlike L k 1 i j (fun _ => True) (Parser.expect mark) (Parser.expect mark) c :=
  (accept_tries hdepth c).bind (Nat.le_succ k) (Nat.le_refl 1) (fun _ => pure trivial)
    (.unexpected _)

theorem expectKeyword {w : Keyword}
    (hdepth : ∀ inPrint, (Token.Kind.keyword w).depth? inPrint i = some j) :
    ReadsAlike L k 1 i j (fun _ => True) (Parser.expectKeyword w) (Parser.expectKeyword w) c :=
  (acceptKeyword_tries hdepth c).bind (Nat.le_succ k) (Nat.le_refl 1) (fun _ => pure trivial)
    (.unexpected _)

theorem expectIdentifier :
    ReadsAlike L k 1 i i (fun _ => True) Parser.expectIdentifier Parser.expectIdentifier c := by
  refine .get_bind fun _ => ?_
  cases hkind : c.kind? with
  | none => exact .unexpected _
  | some kind =>
    cases kind with
    | identifier name =>
      have hadvance : ReadsAlike L (k + 1) 1 i i (fun _ => True) Parser.advance Parser.advance c :=
        advance hkind rfl
      exact (hadvance.andThen fun _ _ _ => pure trivial).mono (Nat.le_succ k) fun _ hd => hd
    | _ => exact .unexpected _

theorem withPrint (flag : Bool) (h : ReadsAlike L k m i j P x y { c with inPrint := flag }) :
    Alike L k (Cursor.TakesIn flag m i j) P (Parser.withPrint flag x) (Parser.withPrint flag y)
      c := by
  intro hc
  obtain ⟨hsame, hend⟩ := h ⟨hc.last, hc.tokens⟩
  unfold Parser.withPrint
  refine ⟨fun hk => by rw [hsame hk], ?_⟩
  cases hrun : x { c with inPrint := flag } with
  | error e d =>
    rw [hrun] at hend
    obtain ⟨he, hd⟩ := hend
    exact ⟨he, hd.tokens, hd.last, rfl⟩
  | ok a d =>
    rw [hrun] at hend
    obtain ⟨hd, ha⟩ := hend
    exact ⟨⟨hd.tokens, hd.last, rfl⟩, ha⟩

/-- Inside of brackets the depth is greater by one. -/
theorem nested (h : ReadsAlike L k m i j P x y { c with inPrint := false }) :
    ReadsAlike L k m (i + 1) (j + 1) P (Parser.nested x) (Parser.nested y) c :=
  (h.withPrint false).mono (Nat.le_refl k) fun _ hd => hd.nested c.inPrint

end ReadsAlike

/-! ## Expressions -/

def Expr.PlacedIn (L : Location → Prop) (e : Expr) : Prop := L e.place

namespace Grammar

open ReadsAlike (accept_tries acceptKeyword_tries)

/-- Parsers of nested phrases that read alike.  What statements take is left open. -/
structure Phrases.ReadAlike (L : Location → Prop) (k : Nat) (phrases other : Phrases) : Prop where
  expression : ∀ c, ReadsAlike L k 1 0 0 (Expr.PlacedIn L) phrases.expression other.expression c
  unary : ∀ c, ReadsAlike L k 1 0 0 (Expr.PlacedIn L) phrases.unary other.unary c
  increment : ∀ c, ReadsAlike L k 1 0 0 (Expr.PlacedIn L) phrases.increment other.increment c
  field : ∀ c, ReadsAlike L k 1 0 0 (Expr.PlacedIn L) phrases.field other.field c

/-! Loops take a token at every turn, so a loop that has a turn for each token reads like one with
more turns. -/

section Loops

variable {L : Location → Prop} {k n n' : Nat} {x y : Parser Expr}

theorem moreExpressions_alike (hk : k ≤ n) (hn : n ≤ n')
    (hx : ∀ c, ReadsAlike L k 1 0 0 (Expr.PlacedIn L) x y c) (c : Cursor) :
    ReadsAlike L k 0 0 0 (fun _ => True) (moreExpressions x n) (moreExpressions y n') c := by
  -- By induction on the turns of the loop that has fewer.  The bound on texts falls with them,
  -- since the comma of a turn is taken before the next.
  induction n generalizing n' k c with
  | zero =>
    obtain rfl : k = 0 := by omega
    exact Alike.zero (k := 0) (ReadsAlike.pure trivial)
  | succ n ih =>
    obtain ⟨n', rfl⟩ : ∃ m, n' = m + 1 := ⟨n' - 1, by omega⟩
    refine (accept_tries (fun _ => rfl) c).bind (n := k - 1) (by omega) (Nat.zero_le 1)
      (fun d => ?_) (ReadsAlike.pure trivial)
    refine ReadsAlike.skipNewlines.bind fun _ d _ => (hx d).shorter.bind fun e d _ => ?_
    exact (ih (by omega) (by omega) (fun c => (hx c).shorter) d).bind fun _ _ _ => .pure trivial

theorem expressionList_alike (hk : k ≤ n) (hn : n ≤ n')
    (hx : ∀ c, ReadsAlike L k 1 0 0 (Expr.PlacedIn L) x y c) (c : Cursor) :
    ReadsAlike L k 0 0 0 (fun _ => True) (expressionList x n) (expressionList y n') c :=
  (hx c).bind fun _ d _ => (moreExpressions_alike hk hn hx d).bind fun _ _ _ => .pure trivial

end Loops

namespace Phrases.ReadAlike

variable {L : Location → Prop} {k n n' : Nat} {self other : Phrases}
  (h : self.ReadAlike L k other) (hk : k ≤ n) (hn : n ≤ n')

include h hk hn

theorem nestedList (c : Cursor) :
    ReadsAlike L k 0 1 1 (fun _ => True) (Parser.nested (expressionList self.expression n))
      (Parser.nested (expressionList other.expression n')) c :=
  .nested (expressionList_alike hk hn h.expression _)

theorem subscripts (c : Cursor) :
    ReadsAlike L k 0 1 0 (fun _ => True) (Grammar.subscripts self n)
      (Grammar.subscripts other n') c :=
  (h.nestedList hk hn c).bind fun _ _ _ =>
    (ReadsAlike.expect fun _ => rfl).bind fun _ _ _ => .pure trivial

theorem callArguments (c : Cursor) :
    ReadsAlike L k 0 0 0 (fun _ => True) (Grammar.callArguments self n)
      (Grammar.callArguments other n') c := by
  refine (ReadsAlike.expect (j := 1) fun _ => rfl).bind fun _ d _ => ?_
  refine (accept_tries (j := 0) (fun _ => rfl) d).bind (Nat.le_succ k) (Nat.zero_le 1)
    (fun _ => .pure trivial) ?_
  refine (h.nestedList hk hn d).bind fun _ _ _ => ?_
  exact (ReadsAlike.expect fun _ => rfl).bind fun _ _ _ => .pure trivial

theorem builtinCall (b : Builtin) {place : Location} (hplace : L place) (c : Cursor) :
    ReadsAlike L k 0 0 0 (Expr.PlacedIn L) (Grammar.builtinCall self n b place)
      (Grammar.builtinCall other n' b place) c := by
  refine .get_bind fun _ => ?_
  split
  · exact (h.callArguments hk hn c).bind fun _ _ _ => .pure hplace
  · split
    · exact ReadsAlike.pure hplace
    · exact .failAt hplace _

theorem groupOrMember {place : Location} (hplace : L place) (c : Cursor) :
    ReadsAlike L k 0 1 0 (Expr.PlacedIn L) (Grammar.groupOrMember self n place)
      (Grammar.groupOrMember other n' place) c := by
  refine (h.nestedList hk hn c).bind fun es _ _ => ?_
  refine (ReadsAlike.expect (j := 0) fun _ => rfl).bind fun _ d _ => ?_
  have hmember : ∀ es : List Expr, ReadsAlike L k 0 0 0 (Expr.PlacedIn L)
      (do if ← Parser.acceptKeyword .in_ then
            return .contains es (← Parser.expectIdentifier) place
          else Parser.fail .subscriptListWithoutIn)
      (do if ← Parser.acceptKeyword .in_ then
            return .contains es (← Parser.expectIdentifier) place
          else Parser.fail .subscriptListWithoutIn) d := by
    intro es
    refine (acceptKeyword_tries (fun _ => rfl) d).bind (Nat.le_succ k) (Nat.zero_le 1)
      (fun _ => ?_) (.fail _)
    exact ReadsAlike.expectIdentifier.bind fun _ _ _ => .pure hplace
  cases es with
  | nil => exact hmember []
  | cons e es =>
    cases es with
    | nil => exact .pure hplace
    | cons e' es => exact hmember (e :: e' :: es)

omit hk hn in
theorem getlineForm {place : Location} (hplace : L place) (c : Cursor) :
    ReadsAlike L k 0 0 0 (Expr.PlacedIn L) (Grammar.getlineForm self place)
      (Grammar.getlineForm other place) c := by
  have hfile : ∀ (target : Option Expr) (d : Cursor), ReadsAlike L k 0 0 0 (Expr.PlacedIn L)
      (do let file ← if ← Parser.accept .less then some <$> self.increment else pure none
          return .getline target file place)
      (do let file ← if ← Parser.accept .less then some <$> other.increment else pure none
          return .getline target file place) d := by
    intro target d
    refine (accept_tries (fun _ => rfl) d).bind (Nat.le_succ k) (Nat.zero_le 1) (fun d => ?_) ?_
    · exact (h.increment d).optional.bind fun _ _ _ => .pure hplace
    · exact (ReadsAlike.pure (P := fun _ => True) trivial).bind fun _ _ _ => .pure hplace
  refine .get_bind fun _ => ?_
  have htarget := (h.field c).optional.bind fun target d _ => hfile target d
  have hnone := hfile none c
  cases c.kind? with
  | none => exact hnone
  | some kind =>
    cases kind with
    | identifier name => exact htarget
    | mark m =>
      cases m with
      | dollar => exact htarget
      | _ => exact hnone
    | _ => exact hnone

omit hk hn in
theorem signed (op : UnaryOp) {place : Location} (hplace : L place) {kind : Token.Kind} {c : Cursor}
    (hkind : c.kind? = some kind) (hsign : signOf? kind = some op) :
    ReadsAlike L (k + 1) 1 0 0 (Expr.PlacedIn L) (Grammar.signed self op place)
      (Grammar.signed other op place) c := by
  have hdepth : kind.depth? c.inPrint 0 = some 0 := by
    unfold signOf? at hsign
    split at hsign <;> first | rfl | cases hsign
  exact (ReadsAlike.advance hkind hdepth).andThen fun _ d _ =>
    (h.unary d).bind fun _ _ _ => .pure hplace

theorem primary (c : Cursor) :
    ReadsAlike L (k + 1) 1 0 0 (Expr.PlacedIn L) (Grammar.primary self n)
      (Grammar.primary other n') c := by
  refine .get_bind fun hplace => ?_
  have htaken : ∀ {kind : Token.Kind} {j : Nat}, c.kind? = some kind →
      kind.depth? c.inPrint 0 = some j → ∀ {f g : Unit → Parser Expr},
      (∀ d, ReadsAlike L k 0 j 0 (Expr.PlacedIn L) (f ()) (g ()) d) →
      ReadsAlike L (k + 1) 1 0 0 (Expr.PlacedIn L) (Parser.advance >>= f) (Parser.advance >>= g)
        c :=
    -- Nested phrases stand behind the token, so they see a text that is shorter by one.
    fun hkind hdepth _ _ hf => (ReadsAlike.advance hkind hdepth).andThen fun _ d _ => hf d
  cases hkind : c.kind? with
  | none => exact .unexpected _
  | some kind =>
    cases kind with
    | number x => exact htaken hkind rfl fun _ => .pure hplace
    | string s => exact htaken hkind rfl fun _ => .pure hplace
    | regex r => exact htaken hkind rfl fun _ => .pure hplace
    | identifier name =>
      refine htaken hkind rfl fun d => ?_
      refine (accept_tries (j := 1) (fun _ => rfl) d).bind (Nat.le_succ k) (Nat.zero_le 1)
        (fun d => ?_) (.pure hplace)
      exact (h.subscripts hk hn d).bind fun _ _ _ => .pure hplace
    | funcName name =>
      exact htaken hkind rfl fun d => (h.callArguments hk hn d).bind fun _ _ _ => .pure hplace
    | builtin b => exact htaken hkind rfl fun d => h.builtinCall hk hn b hplace d
    | keyword w =>
      cases w with
      | getline => exact htaken hkind rfl fun d => h.getlineForm hplace d
      | _ => exact .unexpected _
    | mark m =>
      cases m with
      | leftParen => exact htaken (j := 1) hkind rfl fun d => h.groupOrMember hk hn hplace d
      | not | minus | plus => exact h.signed _ hplace hkind rfl
      | _ => exact .unexpected _
    | newline => exact .unexpected _
    | eof => exact .unexpected _

theorem fieldLevel (c : Cursor) :
    ReadsAlike L (k + 1) 1 0 0 (Expr.PlacedIn L) (Grammar.field self n)
      (Grammar.field other n') c := by
  refine .get_bind fun hplace => ?_
  refine (accept_tries (fun _ => rfl) c).bind (Nat.le_refl (k + 1)) (Nat.le_refl 1) (fun d => ?_)
    (h.primary hk hn c)
  refine .get_bind fun _ => ?_
  have hplain : ReadsAlike L k 0 0 0 (Expr.PlacedIn L) (do return .field (← self.field) c.place)
      (do return .field (← other.field) c.place) d :=
    (h.field d).bind fun _ _ _ => .pure hplace
  cases hkind : d.kind? with
  | none => exact hplain
  | some kind =>
    cases kind with
    | mark m =>
      cases m with
      | increment | decrement => exact (h.increment d).bind fun _ _ _ => .pure hplace
      | minus =>
        exact (ReadsAlike.advance hkind rfl).bind fun _ d _ =>
          (h.field d).bind fun _ _ _ => .pure hplace
      | _ => exact hplain
    | _ => exact hplain

theorem postfixStep (c : Cursor) :
    ReadsAlike L (k + 1) 1 0 0 (Expr.PlacedIn L) (Grammar.postfixStep self n)
      (Grammar.postfixStep other n') c := by
  refine (h.fieldLevel hk hn c).andThen fun e d he => ?_
  split
  · refine .place_bind fun hplace => ?_
    refine (accept_tries (fun _ => rfl) d).bind (Nat.le_succ k) (Nat.zero_le 1)
      (fun _ => .pure hplace) ?_
    exact (accept_tries (fun _ => rfl) d).bind (Nat.le_succ k) (Nat.zero_le 1)
      (fun _ => .pure hplace) (ReadsAlike.pure he)
  · exact ReadsAlike.pure he

omit hk hn in
theorem prefixStep {mark : Mark} (how : Step) {place : Location} (hplace : L place) {c : Cursor}
    (hkind : c.kind? = some (.mark mark))
    (hdepth : (Token.Kind.mark mark).depth? c.inPrint 0 = some 0) :
    ReadsAlike L (k + 1) 1 0 0 (Expr.PlacedIn L) (Grammar.prefixStep self mark how place)
      (Grammar.prefixStep other mark how place) c := by
  refine (ReadsAlike.advance hkind hdepth).andThen fun _ d _ => ?_
  refine (h.increment d).bind fun e _ he => ?_
  split
  · exact ReadsAlike.pure hplace
  · exact .failAt he _

theorem incrementLevel (c : Cursor) :
    ReadsAlike L (k + 1) 1 0 0 (Expr.PlacedIn L) (Grammar.increment self n)
      (Grammar.increment other n') c := by
  refine .get_bind fun hplace => ?_
  cases hkind : c.kind? with
  | none => exact h.postfixStep hk hn c
  | some kind =>
    cases kind with
    | mark m =>
      cases m with
      | increment | decrement => exact h.prefixStep _ hplace hkind rfl
      | _ => exact h.postfixStep hk hn c
    | _ => exact h.postfixStep hk hn c

theorem power (c : Cursor) :
    ReadsAlike L (k + 1) 1 0 0 (Expr.PlacedIn L) (Grammar.power self n)
      (Grammar.power other n') c := by
  refine (h.incrementLevel hk hn c).andThen fun base d hbase => .place_bind fun hplace => ?_
  refine (accept_tries (fun _ => rfl) d).bind (Nat.le_succ k) (Nat.zero_le 1) (fun d => ?_)
    (.pure hbase)
  exact (h.unary d).bind fun _ _ _ => .pure hplace

theorem unaryLevel (c : Cursor) :
    ReadsAlike L (k + 1) 1 0 0 (Expr.PlacedIn L) (Grammar.unary self n)
      (Grammar.unary other n') c := by
  refine .get_bind fun hplace => ?_
  split
  · next op hop =>
    obtain ⟨kind, hkind, hsign⟩ := Option.bind_eq_some_iff.mp hop
    exact h.signed op hplace hkind hsign
  · exact h.power hk hn c

end Phrases.ReadAlike

section Loops

variable {L : Location → Prop} {k n n' : Nat} {operand other : Parser Expr}

/-- What is read as an operator leaves the depth alone, and the expression that it makes of its
operands has its place. -/
structure Operators (inPrint : Bool) (read : Token.Kind → Option (Expr → Expr → Location → Expr)) :
    Prop where
  depth : ∀ {kind make}, read kind = some make → kind.depth? inPrint 0 = some 0
  place : ∀ {kind make}, read kind = some make → ∀ l r place, (make l r place).place = place

theorem Operators.of_read {inPrint : Bool}
    {read : Token.Kind → Option (Expr → Expr → Location → Expr)}
    (h : ∀ {kind make}, read kind = some make →
      kind.depth? inPrint 0 = some 0 ∧ ∀ l r place, (make l r place).place = place) :
    Operators inPrint read :=
  ⟨fun hread => (h hread).1, fun hread => (h hread).2⟩

theorem productOf?_operators (inPrint : Bool) : Operators inPrint productOf? := by
  refine .of_read fun hread => ?_
  unfold productOf? at hread
  split at hread <;> cases hread <;> exact ⟨rfl, fun _ _ _ => rfl⟩

theorem sumOf?_operators (inPrint : Bool) : Operators inPrint sumOf? := by
  refine .of_read fun hread => ?_
  unfold sumOf? at hread
  split at hread <;> cases hread <;> exact ⟨rfl, fun _ _ _ => rfl⟩

theorem andOf?_operators (inPrint : Bool) : Operators inPrint andOf? := by
  refine .of_read fun hread => ?_
  unfold andOf? at hread
  split at hread
  · cases hread
    exact ⟨rfl, fun _ _ _ => rfl⟩
  · cases hread

theorem orOf?_operators (inPrint : Bool) : Operators inPrint orOf? := by
  refine .of_read fun hread => ?_
  unfold orOf? at hread
  split at hread
  · cases hread
    exact ⟨rfl, fun _ _ _ => rfl⟩
  · cases hread

/-- A `>` is read as a comparison outside of print lists only. -/
theorem relationOf?_operators (inPrint : Bool) : Operators inPrint (relationOf? inPrint) := by
  refine .of_read fun hread => ?_
  unfold relationOf? at hread
  split at hread
  case h_3 =>
    split at hread
    · cases hread
    · next hprint =>
      cases hread
      exact ⟨by simp [Token.Kind.depth?, hprint], fun _ _ _ => rfl⟩
  all_goals cases hread <;> exact ⟨rfl, fun _ _ _ => rfl⟩

theorem leftAssoc_alike {read : Token.Kind → Option (Expr → Expr → Location → Expr)}
    {afterOperator : Parser Unit} (hread : ∀ inPrint, Operators inPrint read)
    (hafter : ∀ k c, ReadsAlike L k 0 0 0 (fun _ => True) afterOperator afterOperator c)
    (hk : k ≤ n) (hn : n ≤ n')
    (hoperand : ∀ c, ReadsAlike L k 1 0 0 (Expr.PlacedIn L) operand other c) {left : Expr}
    (hleft : left.PlacedIn L) (c : Cursor) :
    ReadsAlike L k 0 0 0 (Expr.PlacedIn L) (leftAssoc operand read afterOperator n left)
      (leftAssoc other read afterOperator n' left) c := by
  induction n generalizing n' k left c with
  | zero =>
    obtain rfl : k = 0 := by omega
    exact Alike.zero (k := 0) (ReadsAlike.pure hleft)
  | succ n ih =>
    obtain ⟨n', rfl⟩ : ∃ m, n' = m + 1 := ⟨n' - 1, by omega⟩
    refine .get_bind fun hplace => ?_
    split
    · exact ReadsAlike.pure hleft
    · next make hmake =>
      obtain ⟨kind, hkind, hmake⟩ := Option.bind_eq_some_iff.mp hmake
      refine (ReadsAlike.advance hkind ((hread _).depth hmake)).turn fun _ d _ => ?_
      refine (hafter _ d).bind fun _ d _ => (hoperand d).shorter.bind fun right d _ => ?_
      refine ih (by omega) (by omega) (fun c => (hoperand c).shorter) ?_ d
      rw [Expr.PlacedIn, (hread true).place hmake]
      exact hplace

theorem concatenated_alike (hk : k ≤ n) (hn : n ≤ n')
    (hoperand : ∀ c, ReadsAlike L k 1 0 0 (Expr.PlacedIn L) operand other c) {left : Expr}
    (hleft : left.PlacedIn L) (c : Cursor) :
    ReadsAlike L k 0 0 0 (Expr.PlacedIn L) (concatenated operand n left)
      (concatenated other n' left) c := by
  induction n generalizing n' k left c with
  | zero =>
    obtain rfl : k = 0 := by omega
    exact Alike.zero (k := 0) (ReadsAlike.pure hleft)
  | succ n ih =>
    obtain ⟨n', rfl⟩ : ∃ m, n' = m + 1 := ⟨n' - 1, by omega⟩
    refine .get_bind fun _ => ?_
    split
    · refine (hoperand c).turn fun right d _ => ?_
      have hjoined : (Expr.concat left right left.place).PlacedIn L := hleft
      exact ih (by omega) (by omega) (fun c => (hoperand c).shorter) hjoined d
    · exact ReadsAlike.pure hleft

theorem memberships_alike (hk : k ≤ n) (hn : n ≤ n') {e : Expr} (he : e.PlacedIn L) (c : Cursor) :
    ReadsAlike L k 0 0 0 (Expr.PlacedIn L) (memberships n e) (memberships n' e) c := by
  induction n generalizing n' k e c with
  | zero =>
    obtain rfl : k = 0 := by omega
    exact Alike.zero (k := 0) (ReadsAlike.pure he)
  | succ n ih =>
    obtain ⟨n', rfl⟩ : ∃ m, n' = m + 1 := ⟨n' - 1, by omega⟩
    refine .place_bind fun hplace => ?_
    refine (acceptKeyword_tries (fun _ => rfl) c).bind (n := k - 1) (by omega) (Nat.zero_le 1)
      (fun d => ?_) (.pure he)
    refine ReadsAlike.expectIdentifier.bind fun array d _ => ?_
    have hmember : (Expr.contains [e] array c.place).PlacedIn L := hplace
    exact ih (by omega) (by omega) hmember d

end Loops

namespace Phrases.ReadAlike

variable {L : Location → Prop} {k n n' : Nat} {self other : Phrases}
  (h : self.ReadAlike L k other) (hk : k ≤ n) (hn : n ≤ n')

include h hk hn

theorem multiplicative (c : Cursor) :
    ReadsAlike L (k + 1) 1 0 0 (Expr.PlacedIn L) (Grammar.multiplicative self n)
      (Grammar.multiplicative other n') c :=
  (h.unaryLevel hk hn c).andThen fun _ d he =>
    leftAssoc_alike productOf?_operators (fun _ _ => .pure trivial) hk hn
      (fun c => (h.unaryLevel hk hn c).shorter) he d

theorem additive (c : Cursor) :
    ReadsAlike L (k + 1) 1 0 0 (Expr.PlacedIn L) (Grammar.additive self n)
      (Grammar.additive other n') c :=
  (h.multiplicative hk hn c).andThen fun _ d he =>
    leftAssoc_alike sumOf?_operators (fun _ _ => .pure trivial) hk hn
      (fun c => (h.multiplicative hk hn c).shorter) he d

theorem concatenation (c : Cursor) :
    ReadsAlike L (k + 1) 1 0 0 (Expr.PlacedIn L) (Grammar.concatenation self n)
      (Grammar.concatenation other n') c :=
  (h.additive hk hn c).andThen fun _ d he =>
    concatenated_alike hk hn (fun c => (h.additive hk hn c).shorter) he d

theorem relational (c : Cursor) :
    ReadsAlike L (k + 1) 1 0 0 (Expr.PlacedIn L) (Grammar.relational self n)
      (Grammar.relational other n') c := by
  refine (h.concatenation hk hn c).andThen fun left d hleft => .get_bind fun hplace => ?_
  split
  · exact ReadsAlike.pure hleft
  · next make hmake =>
    obtain ⟨kind, hkind, hmake⟩ := Option.bind_eq_some_iff.mp hmake
    have hread := relationOf?_operators d.inPrint
    refine (ReadsAlike.advance hkind (hread.depth hmake)).bind fun _ e _ => ?_
    refine (h.concatenation hk hn e).shorter.bind fun right _ _ => .pure ?_
    rw [Expr.PlacedIn, hread.place hmake]
    exact hplace

theorem membership (c : Cursor) :
    ReadsAlike L (k + 1) 1 0 0 (Expr.PlacedIn L) (Grammar.membership self n)
      (Grammar.membership other n') c :=
  (h.relational hk hn c).andThen fun _ d he => memberships_alike hk hn he d

theorem conjunction (c : Cursor) :
    ReadsAlike L (k + 1) 1 0 0 (Expr.PlacedIn L) (Grammar.conjunction self n)
      (Grammar.conjunction other n') c :=
  (h.membership hk hn c).andThen fun _ d he =>
    leftAssoc_alike andOf?_operators (fun _ _ => .skipNewlines) hk hn
      (fun c => (h.membership hk hn c).shorter) he d

theorem disjunction (c : Cursor) :
    ReadsAlike L (k + 1) 1 0 0 (Expr.PlacedIn L) (Grammar.disjunction self n)
      (Grammar.disjunction other n') c :=
  (h.conjunction hk hn c).andThen fun _ d he =>
    leftAssoc_alike orOf?_operators (fun _ _ => .skipNewlines) hk hn
      (fun c => (h.conjunction hk hn c).shorter) he d

theorem ternary (c : Cursor) :
    ReadsAlike L (k + 1) 1 0 0 (Expr.PlacedIn L) (Grammar.ternary self n)
      (Grammar.ternary other n') c := by
  refine (h.disjunction hk hn c).andThen fun test d htest => .place_bind fun hplace => ?_
  refine (accept_tries (fun _ => rfl) d).bind (Nat.le_succ k) (Nat.zero_le 1) (fun d => ?_)
    (.pure htest)
  refine ReadsAlike.skipNewlines.bind fun _ d _ => (h.expression d).bind fun _ _ _ => ?_
  refine ReadsAlike.skipNewlines.bind fun _ _ _ => ?_
  refine (ReadsAlike.expect (j := 0) fun _ => rfl).bind fun _ _ _ => ?_
  refine ReadsAlike.skipNewlines.bind fun _ d _ => (h.expression d).bind fun _ _ _ => ?_
  exact .pure hplace

theorem assignment (c : Cursor) :
    ReadsAlike L (k + 1) 1 0 0 (Expr.PlacedIn L) (Grammar.assignment self n)
      (Grammar.assignment other n') c := by
  refine (h.ternary hk hn c).andThen fun target d htarget => .get_bind fun hplace => ?_
  split
  · exact ReadsAlike.pure htarget
  · next op hop =>
    obtain ⟨kind, hkind, hop⟩ := Option.bind_eq_some_iff.mp hop
    have hdepth : kind.depth? d.inPrint 0 = some 0 := by
      unfold assignmentOf? at hop
      split at hop <;> first | rfl | cases hop
    split
    · refine (ReadsAlike.advance hkind hdepth).bind fun _ _ _ => ?_
      refine ReadsAlike.skipNewlines.bind fun _ d _ => (h.expression d).bind fun _ _ _ => ?_
      exact .pure hplace
    · exact .fail _

end Phrases.ReadAlike
end Grammar
end Awk
