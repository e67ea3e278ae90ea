import Awk.Proofs.Subterms

/-!
# What stops a computation

A failure of the scope, and most failures of the rules, have no place at first; only a few rules
give one, and it is always that of the expression at hand.  So if the errors of all parts of a node
have places among some, `StopsWith` says that those of the rule have places among these as well, or
none.
-/

namespace Awk

/-- Whatever stops the computation has the property. -/
def StopsWith (P : Stop → Prop) {α : Type} (x : Eval α) : Prop :=
  ∀ m why m', x m = .error why m' → P why

/-- Run-time errors have places in `L`, and those without a place are among `F`. -/
def Places (L : Location → Prop) (F : Fault → Prop) : Stop → Prop
  | .failed (.runtime _ (some place)) => L place
  | .failed (.runtime fault none) => F fault
  | _ => True

/-- Run-time errors that have a place have one in `L`. -/
abbrev Loose (L : Location → Prop) : Stop → Prop := Places L fun _ => True

/-- All run-time errors have a place in `L`. -/
abbrev Placed (L : Location → Prop) : Stop → Prop := Places L fun _ => False

theorem Places.mono {L : Location → Prop} {F G : Fault → Prop} (h : ∀ fault, F fault → G fault)
    {why : Stop} (hwhy : Places L F why) : Places L G why := by
  match why, hwhy with
  | .failed (.runtime _ (some _)), hwhy => exact hwhy
  | .failed (.runtime fault none), hwhy => exact h fault hwhy
  | .failed (.parse ..), _ | .failed (.undefinedFunction ..), _ | .failed (.io _), _
  | .failed (.regex _), _ | .crashed _, _ | .needs _, _ | .exhausted, _ => trivial

namespace StopsWith

variable {α β : Type} {P Q : Stop → Prop}

theorem mono {x : Eval α} (hx : StopsWith P x) (h : ∀ why, P why → Q why) : StopsWith Q x :=
  fun m why m' hrun => h why (hx m why m' hrun)

theorem pure (a : α) : StopsWith P (pure a : Eval α) := fun _ _ _ h => nomatch h

theorem get : StopsWith P (get : Eval Machine) := fun _ _ _ h => nomatch h

theorem modify (f : Machine → Machine) : StopsWith P (modify f : Eval Unit) :=
  fun _ _ _ h => nomatch h

theorem stop {why : Stop} (h : P why) : StopsWith P (throw why : Eval α) := by
  intro m _ _ hrun
  cases hrun
  exact h

theorem bind {x : Eval α} {f : α → Eval β} (hx : StopsWith P x) (hf : ∀ a, StopsWith P (f a)) :
    StopsWith P (x >>= f) := by
  intro m why m' hrun
  rw [bind_run] at hrun
  split at hrun
  · next a m₁ _ => exact hf a m₁ why m' hrun
  · next hwhy =>
    cases hrun
    exact hx m _ _ hwhy

theorem ite {c : Prop} [Decidable c] {x y : Eval α} (hx : StopsWith P x) (hy : StopsWith P y) :
    StopsWith P (if c then x else y) := by
  split
  · exact hx
  · exact hy

theorem scope : StopsWith P Eval.scope := get.bind fun _ => pure _

theorem isPending : StopsWith P Eval.isPending := get.bind fun _ => pure _

theorem modifyScope (f : Scope → Scope) : StopsWith P (Eval.modifyScope f) := modify _

theorem takePending : StopsWith P Eval.takePending := fun _ _ _ h => nomatch h

theorem arranged (keys : List String) : StopsWith P (Eval.arranged keys) :=
  fun _ _ _ h => nomatch h

variable {L : Location → Prop} {F : Fault → Prop}

theorem requireTexts (format : String) (values : List Value) :
    StopsWith (Places L F) (Eval.requireTexts format values) := ite (pure _) (stop trivial)

theorem textUnder (numberFormat : Scope → String) (v : Value) :
    StopsWith (Places L F) (Eval.textUnder numberFormat v) :=
  scope.bind fun _ => (requireTexts _ _).bind fun _ => pure _

theorem textOf (v : Value) : StopsWith (Places L F) (Eval.textOf v) := textUnder _ v

theorem formatted (format : String) (args : List Value) :
    StopsWith (Places L F) (Eval.formatted format args) :=
  scope.bind fun _ => (requireTexts _ _).bind fun _ => pure _

theorem onScope {op : Scope.Op α} (hop : ∀ s fault s', op s = .error fault s' → F fault) :
    StopsWith (Places L F) (Eval.onScope op) := by
  intro m why m' hrun
  unfold Eval.onScope at hrun
  split at hrun
  · cases hrun
  · next fault s' hfault =>
    cases hrun
    exact hop _ fault s' hfault

theorem loose (op : Scope.Op α) : StopsWith (Loose L) (Eval.onScope op) :=
  onScope fun _ _ _ _ => trivial

theorem failAt (fault : Fault) {place : Location} (h : L place) :
    StopsWith (Places L F) (Eval.failAt fault place : Eval α) := stop h

theorem fail (fault : Fault) : StopsWith (Loose L) (Eval.fail fault : Eval α) := stop trivial

theorem ofExcept (r : Except Fault α) : StopsWith (Loose L) (Eval.ofExcept r) := by
  cases r with
  | ok a => exact pure a
  | error fault => exact fail fault

theorem regexOf (pattern : String) : StopsWith (Places L F) (Eval.regexOf pattern) := by
  refine scope.bind fun s => ?_
  split
  · exact pure _
  · exact stop trivial

theorem write (text : String) : StopsWith (Places L F) (Eval.write text) := by
  intro m why m' hrun
  unfold Eval.write at hrun
  split at hrun <;> cases hrun
  trivial

theorem flush : StopsWith (Places L F) Eval.flush := by
  intro m why m' hrun
  unfold Eval.flush at hrun
  split at hrun <;> cases hrun
  trivial

/-- An error that had no place has one now. -/
theorem located {x : Eval α} {place : Location} (hx : StopsWith (Loose L) x) (h : L place) :
    StopsWith (Placed L) (Eval.located place x) := by
  intro m why m' hrun
  unfold Eval.located at hrun
  split at hrun
  · cases hrun
  · next e _ hfailed =>
    cases hrun
    have he := hx m _ _ hfailed
    match e, he with
    | .runtime _ none, _ => exact h
    | .runtime _ (some _), he => exact he
    | .parse .., _ | .undefinedFunction .., _ | .io _, _ | .regex _, _ => trivial
  · next stop _ hother hstop =>
    cases hrun
    match why, hother with
    | .failed e, hother => exact absurd rfl (hother e)
    | .crashed _, _ | .needs _, _ | .exhausted, _ => trivial

theorem inFrame {x : Eval α} (hx : StopsWith P x) (bindings : List (String × Binding))
    (owned : List Nat) : StopsWith P (Call.inFrame bindings owned x) := by
  intro m why m' hrun
  unfold Call.inFrame at hrun
  split at hrun
  · cases hrun
  · next hwhy =>
    cases hrun
    exact hx _ _ _ hwhy

/-! ## Input -/

theorem openFile (name : String) : StopsWith (Places L F) (Eval.openFile name) := by
  refine get.bind fun m => ?_
  split
  · exact stop trivial
  · split
    · exact pure _
    · exact stop trivial

theorem openSource (source : Source) : StopsWith (Loose L) (Eval.openSource source) := by
  cases source with
  | stream name stream => exact modify _
  | operand text =>
    exact ite (loose _) (ite (modify _) ((openFile text).bind fun _ => modify _))

theorem readRecord (onInput : Bool) (reader : Reader) :
    StopsWith (Places L F) (Eval.readRecord onInput reader) := by
  intro m why m' hrun
  unfold Eval.readRecord at hrun
  split at hrun
  · split at hrun <;> cases hrun
    trivial
  · cases hrun

theorem readCurrent : StopsWith (Places L F) Eval.readCurrent := by
  intro m why m' hrun
  unfold Eval.readCurrent at hrun
  split at hrun
  · cases hrun
  · split at hrun
    · next stop _ hstop =>
      cases hrun
      exact readRecord _ _ _ _ _ hstop
    · cases hrun
    · cases hrun
    · cases hrun
      trivial

theorem readSources (sources : List Source) : StopsWith (Loose L) (Eval.readSources sources) := by
  induction sources with
  | nil => exact pure _
  | cons source rest ih =>
    refine (modify _).bind fun _ => (openSource source).bind fun _ => readCurrent.bind fun r => ?_
    cases r with
    | some record => exact pure _
    | none => exact ih

theorem nextRecord : StopsWith (Loose L) Eval.nextRecord := by
  refine readCurrent.bind fun r => ?_
  cases r with
  | some record => exact pure _
  | none => exact get.bind fun m => readSources m.sources

theorem countRecord : StopsWith (Places L F) Eval.countRecord :=
  scope.bind fun _ => ite (modifyScope _) ((modify _).bind fun _ => stop trivial)

theorem readOn (name : String) (reader : Reader) :
    StopsWith (Places L F) (Eval.readOn name reader) :=
  (readRecord _ reader).bind fun _ => (modify _).bind fun _ => pure _

theorem readFile (name : String) : StopsWith (Places L F) (Eval.readFile name) := by
  intro m why m' hrun
  unfold Eval.readFile at hrun
  split at hrun
  · cases hrun
  · next stop _ hother _ =>
    cases hrun
    match why, hother with
    | .failed e, hother => exact absurd rfl (hother e)
    | .crashed _, _ | .needs _, _ | .exhausted, _ => trivial
  · exact readOn _ _ _ _ _ hrun

/-! ## Parts and targets -/

section

variable {self : Meaning} {e : Expr}

theorem text (h : StopsWith (Places L F) (self.value e)) : StopsWith (Places L F) (self.text e) :=
  h.bind textOf

theorem number (h : StopsWith P (self.value e)) : StopsWith P (self.number e) :=
  h.bind fun _ => pure _

theorem isTrue (h : StopsWith P (self.value e)) : StopsWith P (self.isTrue e) :=
  h.bind fun _ => pure _

theorem values {es : List Expr} (h : ∀ e ∈ es, StopsWith P (self.value e)) :
    StopsWith P (self.values es) := by
  induction es with
  | nil => exact pure _
  | cons e es ih =>
    obtain ⟨he, hes⟩ := List.forall_mem_cons.mp h
    exact he.bind fun _ => (ih hes).bind fun _ => pure _

theorem key {indices : List Expr} (h : ∀ e ∈ indices, StopsWith (Places L F) (self.value e)) :
    StopsWith (Places L F) (self.key indices) :=
  (values h).bind fun _ => scope.bind fun _ => (requireTexts _ _).bind fun _ => pure _

end

theorem read (t : Target) : StopsWith (Loose L) t.read := by
  cases t with
  | var name => exact loose _
  | element array key => exact loose _
  | field i => exact scope.bind fun _ => pure _

theorem writeTarget (v : Value) (t : Target) : StopsWith (Loose L) (t.write v) := by
  cases t with
  | var name =>
    exact ite (scope.bind fun _ => (requireTexts _ _).bind fun _ => loose _) (loose _)
  | element array key => exact loose _
  | field i => exact (textOf v).bind fun _ => modifyScope _

end StopsWith

/-! ## Rules for expressions -/

/-- All nodes of the expression have places in `L`. -/
abbrev Expr.Within (L : Location → Prop) (e : Expr) : Prop := e.Everywhere (L ·.place)

/-- The errors of expressions within `L` have places in `L`, or none. -/
def Meaning.LooseValues (L : Location → Prop) (self : Meaning) : Prop :=
  ∀ e : Expr, e.Within L → StopsWith (Loose L) (self.value e)

namespace Meaning.LooseValues

open StopsWith

variable {L : Location → Prop} {self : Meaning} (hv : self.LooseValues L)

include hv

theorem texts {es : List Expr} (hes : ∀ e ∈ es, e.Within L) :
    StopsWith (Loose L) (self.texts es) := by
  induction es with
  | nil => exact pure _
  | cons e es ih =>
    obtain ⟨he, hes⟩ := List.forall_mem_cons.mp hes
    exact (hv _ he).text.bind fun _ => (ih hes).bind fun _ => pure _

theorem fieldIndex {e : Expr} (he : e.Within L) : StopsWith (Loose L) (self.fieldIndex e) :=
  (hv _ he).number.bind fun _ => ite (fail _) (ite (fail _) (pure _))

theorem pattern {e : Expr} (he : e.Within L) : StopsWith (Loose L) (self.pattern e) := by
  unfold Meaning.pattern
  split
  · exact pure _
  · exact (hv _ he).text

theorem resolve {e : Expr} (he : e.Within L) : StopsWith (Loose L) (Target.resolve self e) := by
  fun_induction Target.resolve self e with
  | case1 name => exact pure _
  | case2 array indices => exact (StopsWith.key fun _ hi => hv _ (he.part hi)).bind fun _ => pure _
  | case3 index => exact (hv.fieldIndex (he.part (.head _))).bind fun _ => pure _
  | case4 inner place ih => exact ih (he.part (.head _))
  | case5 e => exact failAt _ he.node

/-! ## Built-in functions -/

omit hv in
theorem arrayName (b : Builtin) {e : Expr} (he : e.Within L) :
    StopsWith (Loose L) (b.arrayName e) := by
  fun_induction Builtin.arrayName b e with
  | case1 name => exact pure _
  | case2 inner place ih => exact ih (he.part (.head _))
  | case3 e => exact failAt _ he.node

theorem callLength {arg : Option Expr} (harg : ∀ e ∈ arg, e.Within L) :
    StopsWith (Loose L) (Builtin.callLength self arg) := by
  unfold Builtin.callLength
  split
  · exact scope.bind fun _ => pure _
  · refine scope.bind fun _ => ite ((loose _).bind fun _ => pure _) ?_
    exact (hv _ (harg _ rfl)).text.bind fun _ => pure _
  · exact (hv _ (harg _ rfl)).text.bind fun _ => pure _

theorem callSubstr {s start : Expr} {length : Option Expr} (hs : s.Within L)
    (hstart : start.Within L) (hlength : ∀ e ∈ length, e.Within L) :
    StopsWith (Loose L) (Builtin.callSubstr self s start length) := by
  refine (hv _ hs).text.bind fun _ => (hv _ hstart).number.bind fun _ => ?_
  cases length with
  | none => exact pure _
  | some e => exact (hv _ (hlength e rfl)).number.bind fun _ => pure _

theorem callIndex {s word : Expr} (hs : s.Within L) (hword : word.Within L) :
    StopsWith (Loose L) (Builtin.callIndex self s word) := by
  refine (hv _ hs).text.bind fun _ => (hv _ hword).text.bind fun _ => ?_
  split <;> exact pure _

theorem splitterOf {separator : Option Expr} (hsep : ∀ e ∈ separator, e.Within L) :
    StopsWith (Loose L) (Builtin.splitterOf self separator) := by
  unfold Builtin.splitterOf
  split
  · exact (regexOf _).bind fun _ => pure _
  · exact (hv _ (hsep _ rfl)).text.bind fun _ => scope.bind fun _ => ofExcept _
  · exact scope.bind fun _ => pure _

theorem callSplit {s array : Expr} {separator : Option Expr} (hs : s.Within L)
    (harray : array.Within L) (hsep : ∀ e ∈ separator, e.Within L) :
    StopsWith (Loose L) (Builtin.callSplit self s array separator) := by
  refine (hv _ hs).text.bind fun _ => (arrayName .split harray).bind fun _ => ?_
  refine (hv.splitterOf hsep).bind fun _ => (loose _).bind fun _ => ?_
  exact (loose _).bind fun _ => pure _

theorem substitutionTarget (b : Builtin) {target : Option Expr}
    (htarget : ∀ e ∈ target, e.Within L) :
    StopsWith (Loose L) (Builtin.substitutionTarget self b target) := by
  unfold Builtin.substitutionTarget
  split
  · exact pure _
  · exact ite (hv.resolve (htarget _ rfl)) (failAt _ (htarget _ rfl).node)

theorem callSubstitute (b : Builtin) (everywhere : Bool) {pattern replacement : Expr}
    {target : Option Expr} (hpattern : pattern.Within L) (hreplacement : replacement.Within L)
    (htarget : ∀ e ∈ target, e.Within L) :
    StopsWith (Loose L) (Builtin.callSubstitute self b everywhere pattern replacement target) := by
  refine (hv.pattern hpattern).bind fun _ => (hv _ hreplacement).text.bind fun _ => ?_
  refine (hv.substitutionTarget b htarget).bind fun t => (read t).bind fun _ => ?_
  refine (textOf _).bind fun _ => (regexOf _).bind fun _ => ?_
  exact ite ((writeTarget _ t).bind fun _ => pure _) (pure _)

theorem callMatch {s pattern : Expr} (hs : s.Within L) (hpattern : pattern.Within L) :
    StopsWith (Loose L) (Builtin.callMatch self s pattern) :=
  (hv _ hs).text.bind fun _ => (hv.pattern hpattern).bind fun _ => (regexOf _).bind fun _ =>
    (modifyScope _).bind fun _ => pure _

theorem callSprintf {format : Expr} {args : List Expr} (hformat : format.Within L)
    (hargs : ∀ e ∈ args, e.Within L) : StopsWith (Loose L) (Builtin.callSprintf self format args) :=
  (hv _ hformat).text.bind fun _ =>
    (StopsWith.values fun e he => hv e (hargs e he)).bind fun _ =>
      (formatted _ _).bind fun _ => pure _

omit hv in
theorem callRand : StopsWith (Loose L) Builtin.callRand := fun _ _ _ h => nomatch h

theorem callSrand {seed : Option Expr} (hseed : ∀ e ∈ seed, e.Within L) :
    StopsWith (Loose L) (Builtin.callSrand self seed) := by
  have hset : ∀ previous x, StopsWith (Loose L) (do
      modify (Machine.setSeed x); return Value.num previous) :=
    fun _ x => (modify _).bind fun _ => pure _
  refine get.bind fun m => ?_
  cases seed with
  | some e => exact (hv _ (hseed e rfl)).number.bind (hset _)
  | none => exact get.bind fun m' => hset _ m'.world.clock

omit hv in
theorem renumber (b : Builtin) {array : Expr} (harray : array.Within L)
    (listed : Table → List Value) : StopsWith (Loose L) (Builtin.renumber b array listed) :=
  (arrayName b harray).bind fun _ => (loose _).bind fun _ => scope.bind fun _ =>
    (loose _).bind fun _ => pure _

theorem callClose {name : Expr} (hname : name.Within L) :
    StopsWith (Loose L) (Builtin.callClose self name) :=
  (hv _ hname).text.bind fun _ => get.bind fun _ => ite ((modify _).bind fun _ => pure _) (pure _)

theorem callNumeric (f : Double → Double) {e : Expr} (he : e.Within L) :
    StopsWith (Loose L) (Builtin.callNumeric self f e) :=
  (hv _ he).number.bind fun _ => pure _

theorem dispatch (b : Builtin) {args : List Expr} {place : Location}
    (hargs : ∀ e ∈ args, e.Within L) (hplace : L place) :
    StopsWith (Loose L) (b.dispatch self args place) := by
  have hhead : ∀ {es : List Expr}, (∀ e ∈ es, e.Within L) → ∀ e ∈ es.head?, e.Within L :=
    fun hes e he => hes e (List.mem_of_head? he)
  unfold Builtin.dispatch
  split
  · exact hv.callLength (hhead hargs)
  · simp only [List.forall_mem_cons] at hargs
    exact hv.callSubstr hargs.1 hargs.2.1 (hhead hargs.2.2)
  · exact hv.callIndex (hargs _ (by simp)) (hargs _ (by simp))
  · simp only [List.forall_mem_cons] at hargs
    exact hv.callSplit hargs.1 hargs.2.1 (hhead hargs.2.2)
  · simp only [List.forall_mem_cons] at hargs
    exact hv.callSubstitute _ _ hargs.1 hargs.2.1 (hhead hargs.2.2)
  · simp only [List.forall_mem_cons] at hargs
    exact hv.callSubstitute _ _ hargs.1 hargs.2.1 (hhead hargs.2.2)
  · exact hv.callMatch (hargs _ (by simp)) (hargs _ (by simp))
  · exact hv.callSprintf (hargs _ (by simp)) (List.forall_mem_cons.mp hargs).2
  · exact (hv _ (hargs _ (by simp))).text.bind fun _ => pure _
  · exact (hv _ (hargs _ (by simp))).text.bind fun _ => pure _
  · exact hv.callNumeric _ (hargs _ (by simp))
  · exact hv.callNumeric _ (hargs _ (by simp))
  · exact hv.callNumeric _ (hargs _ (by simp))
  · exact hv.callNumeric _ (hargs _ (by simp))
  · exact hv.callNumeric _ (hargs _ (by simp))
  · exact hv.callNumeric _ (hargs _ (by simp))
  · exact (hv _ (hargs _ (by simp))).number.bind fun _ =>
      (hv _ (hargs _ (by simp))).number.bind fun _ => pure _
  · exact callRand
  · exact hv.callSrand (hhead hargs)
  · exact renumber .asort (hargs _ (by simp)) _
  · exact renumber .asorti (hargs _ (by simp)) _
  · exact flush.bind fun _ => pure _
  · exact hv.callClose (hargs _ (by simp))
  · exact failAt _ hplace

theorem builtin (b : Builtin) {args : List Expr} {place : Location}
    (hargs : ∀ e ∈ args, e.Within L) (hplace : L place) :
    StopsWith (Loose L) (b.call self args place) :=
  ite (hv.dispatch b hargs hplace) (failAt _ hplace)

/-! ## Calls -/

theorem bindParam (isArray : Bool) {arg : Option Expr} (harg : ∀ e ∈ arg, e.Within L) :
    StopsWith (Loose L) (Call.bindParam self isArray arg) := by
  have hfresh : StopsWith (Loose L) Call.bindParam.fresh := (loose _).bind fun _ => pure _
  unfold Call.bindParam
  split
  · refine scope.bind fun _ => ite ((loose _).bind fun _ => pure _) ?_
    exact (hv _ (harg _ rfl)).bind fun _ => pure _
  · exact ite hfresh ((hv _ (harg _ rfl)).bind fun _ => pure _)
  · exact ite hfresh (pure _)

theorem bindParams {params : List (String × Bool)} {args : List Expr}
    (hargs : ∀ e ∈ args, e.Within L) : StopsWith (Loose L) (Call.bindParams self params args) := by
  induction params generalizing args with
  | nil => exact pure _
  | cons param params ih =>
    refine (hv.bindParam _ fun e he => hargs e (List.mem_of_head? he)).bind fun _ => ?_
    exact (ih fun e he => hargs e (List.mem_of_mem_tail he)).bind fun _ => pure _

theorem enter (f : Function) {args : List Expr} {place : Location}
    (hargs : ∀ e ∈ args, e.Within L) (hplace : L place) :
    StopsWith (Loose L) (Call.enter self f args place) :=
  ite (failAt _ hplace) (get.bind fun _ => ite (failAt _ hplace) (hv.bindParams hargs))

/-- A call can also be stopped by what stops the body of the function. -/
theorem named {p : Program}
    (hbody : ∀ f ∈ p.functions, StopsWith (Loose L) (Call.sequence self.run f.body.body))
    (name : String) {args : List Expr} {place : Location} (hargs : ∀ e ∈ args, e.Within L)
    (hplace : L place) : StopsWith (Loose L) (Call.named self p name args place) := by
  unfold Call.named
  split
  · next f hf =>
    have hmem : f ∈ p.functions := List.mem_of_find?_eq_some hf
    refine (hv.enter f hargs hplace).bind fun bound => ?_
    refine ((hbody f hmem).inFrame bound.1 bound.2).bind fun flow => ?_
    cases flow with
    | signal s => exact (modify _).bind fun _ => pure _
    | _ => exact pure _
  · refine get.bind fun m => ?_
    split
    · exact (hv.texts hargs).bind fun _ => pure _
    · exact stop trivial

/-! ## Expressions -/

theorem evalLogic (op : Logic) {left right : Expr} (hleft : left.Within L)
    (hright : right.Within L) : StopsWith (Loose L) (Expr.evalLogic self op left right) := by
  refine (hv _ hleft).isTrue.bind fun l => ?_
  split
  · exact pure _
  · exact pure _
  · exact (hv _ hright).isTrue.bind fun _ => pure _

theorem evalAssign (op : Option Arith) {target value : Expr} (htarget : target.Within L)
    (hvalue : value.Within L) : StopsWith (Loose L) (Expr.evalAssign self op target value) := by
  refine (hv.resolve htarget).bind fun t => (hv value hvalue).bind fun v => ?_
  cases op with
  | none => exact (pure v).bind fun v => (writeTarget v t).bind fun _ => pure _
  | some op =>
    refine (read t).bind fun _ => (ofExcept _).bind fun x => (pure _).bind fun v => ?_
    exact (writeTarget v t).bind fun _ => pure _

theorem evalStep (how : Awk.Step) {target : Expr} (htarget : target.Within L) :
    StopsWith (Loose L) (Expr.evalStep self how target) :=
  (hv.resolve htarget).bind fun t => (read t).bind fun _ => (writeTarget _ t).bind fun _ => pure _

theorem getlineRecord {file : Option Expr} (hfile : ∀ e ∈ file, e.Within L) :
    StopsWith (Loose L) (Expr.getlineRecord self file) := by
  cases file with
  | some e => exact (hv _ (hfile e rfl)).text.bind readFile
  | none => exact nextRecord.bind fun _ => ite (countRecord.bind fun _ => pure _) (pure _)

theorem evalGetline {target file : Option Expr} (htarget : ∀ e ∈ target, e.Within L)
    (hfile : ∀ e ∈ file, e.Within L) : StopsWith (Loose L) (Expr.evalGetline self target file) := by
  have hresolve : StopsWith (Loose L) (Expr.resolveTarget? self target) := by
    cases target with
    | none => exact pure _
    | some e => exact (hv.resolve (htarget e rfl)).bind fun _ => pure _
  refine hresolve.bind fun t => (hv.getlineRecord hfile).bind fun r => ?_
  rcases r with _ | _ | record
  · exact pure _
  · exact pure _
  · cases t with
    | none => exact (modifyScope _).bind fun _ => pure _
    | some t => exact (writeTarget _ t).bind fun _ => pure _

/-- The errors that a rule gives a place have that of the expression, or of one in it. -/
theorem exprRule {p : Program}
    (hbody : ∀ f ∈ p.functions, StopsWith (Loose L) (Call.sequence self.run f.body.body)) {e : Expr}
    (he : e.Within L) : StopsWith (Loose L) (e.rule p self) := by
  have hplace : L e.place := he.node
  have hpart : ∀ part ∈ e.parts, part.Within L := fun _ hpart => he.part hpart
  cases e with
  | number x place => exact pure _
  | string s place => exact pure _
  | regex pattern place => exact (regexOf pattern).bind fun _ => scope.bind fun _ => pure _
  | var name place => exact loose _
  | field index place =>
    exact (hv.fieldIndex (hpart _ (.head _))).bind fun _ => scope.bind fun _ => pure _
  | element array indices place =>
    exact (StopsWith.key fun e he => hv e (hpart e he)).bind fun _ => loose _
  | arith op left right place =>
    refine (hv _ (hpart _ (.head _))).number.bind fun _ => ?_
    refine (hv _ (hpart _ (.tail _ (.head _)))).number.bind fun _ => ?_
    exact (StopsWith.ofExcept _).bind fun _ => pure _
  | relation op left right place =>
    exact (hv _ (hpart _ (.head _))).bind fun _ =>
      (hv _ (hpart _ (.tail _ (.head _)))).bind fun _ => pure _
  | logic op left right place =>
    exact hv.evalLogic op (hpart _ (.head _)) (hpart _ (.tail _ (.head _)))
  | concat left right place =>
    exact (hv _ (hpart _ (.head _))).text.bind fun _ =>
      (hv _ (hpart _ (.tail _ (.head _)))).text.bind fun _ => pure _
  | unary op operand place => exact (hv _ (hpart _ (.head _))).bind fun _ => pure _
  | assign op target value place =>
    exact hv.evalAssign op (hpart _ (.head _)) (hpart _ (.tail _ (.head _)))
  | step how target place => exact hv.evalStep how (hpart _ (.head _))
  | cond test ifTrue ifFalse place =>
    refine (hv _ (hpart _ (.head _))).isTrue.bind fun _ => ite (hv _ ?_) (hv _ ?_)
    · exact hpart _ (.tail _ (.head _))
    · exact hpart _ (.tail _ (.tail _ (.head _)))
  | call name args place => exact hv.named hbody name hpart hplace
  | builtin b args place => exact hv.builtin b hpart hplace
  | contains key array place =>
    exact (StopsWith.key fun e he => hv e (hpart e he)).bind fun _ =>
      (loose _).bind fun _ => pure _
  | matching subject pattern negated place =>
    refine (hv _ (hpart _ (.head _))).text.bind fun _ => ?_
    exact (hv.pattern (hpart _ (.tail _ (.head _)))).bind fun _ => (regexOf _).bind fun _ => pure _
  | getline target file place =>
    refine hv.evalGetline (fun e he => ?_) fun e he => ?_
    all_goals exact hpart e (by simp [Expr.parts, Option.mem_def.mp he])
  | group inner place => exact hv _ (hpart _ (.head _))

end Meaning.LooseValues
end Awk
