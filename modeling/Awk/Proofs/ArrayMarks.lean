import Awk.Grammar
import Awk.Proofs.Computation
import Mathlib.Algebra.Order.BigOperators.Group.List
import Mathlib.Algebra.Order.Ring.Nat
import Mathlib.Data.List.Nodup

/-!
# The marks of array parameters

The parameters that stand for arrays are marked before a program runs: first those that a body
uses as arrays itself, then, round by round, those that are passed on to a marked one.
`Program.Resolved` says what is needed of the marks in a run.  Every round but the last marks one
more parameter, so the rounds that are made suffice, and the last of them finds the marks closed.
-/

namespace Awk

namespace Function

/-- Marks can be compared with parameters, and what a body uses as an array is marked. -/
structure Marked (f : Function) : Prop where
  length : f.arrayParams.length = f.params.length
  direct : ∀ (i : Nat) (q : String), f.params[i]? = some q → q ∈ f.usage.arrays → f.isArrayParam i

/-- The body passes a name on to a parameter that is marked. -/
def PassesOn (functions : List Function) (f : Function) (q : String) : Prop :=
  ∃ callee j g, (q, callee, j) ∈ f.usage.forwards ∧
    functions.find? (·.name == callee) = some g ∧ g.isArrayParam j

theorem markDirect_marked (f : Function) : f.markDirect.Marked := by
  refine ⟨List.length_map _, fun i q hq hused => ?_⟩
  have hparam : f.params[i]? = some q := hq
  have hmark : f.markDirect.arrayParams[i]? = some (f.usage.arrays.contains q) := by
    rw [markDirect, List.getElem?_map, hparam, Option.map_some]
  rw [isArrayParam, hmark, Option.getD_some]
  exact List.contains_iff_mem.mpr hused

section

variable {functions : List Function} {f : Function}

theorem markForwarded_length (h : f.arrayParams.length = f.params.length) :
    (f.markForwarded functions).arrayParams.length = f.params.length := by
  rw [markForwarded, List.length_map, List.length_zip, h, Nat.min_self]

/-- A round marks what was marked before and what is passed on to something marked. -/
theorem isArrayParam_markForwarded (h : f.arrayParams.length = f.params.length) {i : Nat}
    {q : String} (hq : f.params[i]? = some q) :
    (f.markForwarded functions).isArrayParam i ↔
      f.isArrayParam i ∨ f.PassesOn functions q := by
  obtain ⟨hlt, -⟩ := List.getElem?_eq_some_iff.mp hq
  obtain ⟨marked, hmarked⟩ : ∃ marked, f.arrayParams[i]? = some marked :=
    ⟨_, List.getElem?_eq_getElem (h ▸ hlt)⟩
  have hzip : (f.params.zip f.arrayParams)[i]? = some (q, marked) :=
    List.getElem?_zip_eq_some.mpr ⟨hq, hmarked⟩
  simp only [isArrayParam, markForwarded, List.getElem?_map, hzip, hmarked, Option.map_some,
    Option.getD_some, Bool.or_eq_true, List.any_eq_true, Bool.and_eq_true, beq_iff_eq, PassesOn]
  refine or_congr_right ⟨?_, ?_⟩
  · rintro ⟨⟨name, callee, j⟩, hmem, rfl, hmark⟩
    dsimp only at hmark
    split at hmark
    · next g hg => exact ⟨callee, j, g, hmem, hg, hmark⟩
    · cases hmark
  · rintro ⟨callee, j, g, hmem, hg, hmark⟩
    refine ⟨(q, callee, j), hmem, rfl, ?_⟩
    simp only [hg]
    exact hmark

theorem markForwarded_marked (h : f.Marked) : (f.markForwarded functions).Marked := by
  refine ⟨markForwarded_length h.length, fun i q hq hused => ?_⟩
  exact (isArrayParam_markForwarded h.length hq).mpr (.inl (h.direct i q hq hused))

end

/-- The function with some more of its parameters marked, all of them passed on to marked ones. -/
structure MarkedMore (functions : List Function) (f f' : Function) : Prop where
  same : f' = { f with arrayParams := f'.arrayParams }
  length : f'.arrayParams.length = f.arrayParams.length
  kept : ∀ i, f.isArrayParam i → f'.isArrayParam i
  passed : ∀ i, f'.isArrayParam i →
    f.isArrayParam i ∨ ∃ q, f.params[i]? = some q ∧ f.PassesOn functions q

theorem lt_of_isArrayParam {f : Function} {i : Nat} (h : f.isArrayParam i) :
    i < f.arrayParams.length := by
  by_contra hle
  rw [isArrayParam, List.getElem?_eq_none (Nat.le_of_not_lt hle)] at h
  cases h

theorem markForwarded_markedMore {functions : List Function} {f : Function}
    (h : f.arrayParams.length = f.params.length) :
    f.MarkedMore functions (f.markForwarded functions) := by
  refine ⟨rfl, (markForwarded_length h).trans h.symm, fun i hi => ?_, fun i hi => ?_⟩
  · have hlt := lt_of_isArrayParam hi
    obtain ⟨q, hq⟩ : ∃ q, f.params[i]? = some q := ⟨_, List.getElem?_eq_getElem (h ▸ hlt)⟩
    exact (isArrayParam_markForwarded h hq).mpr (.inl hi)
  · have hlt := lt_of_isArrayParam hi
    rw [markForwarded_length h] at hlt
    obtain ⟨q, hq⟩ : ∃ q, f.params[i]? = some q := ⟨_, List.getElem?_eq_getElem hlt⟩
    rcases (isArrayParam_markForwarded h hq).mp hi with hi | hpasses
    · exact .inl hi
    · exact .inr ⟨q, hq, hpasses⟩

end Function

/-! ## Rounds -/

/-- Marks that are only added take the place of missing ones. -/
theorem count_false_of_kept {marks marks' : List Bool}
    (h : List.Forall₂ (fun b b' : Bool => b → b') marks marks') :
    marks'.count false ≤ marks.count false ∧
      (marks'.count false = marks.count false → marks' = marks) := by
  induction h with
  | nil => exact ⟨Nat.le_refl _, fun _ => rfl⟩
  | @cons b b' marks marks' hb _ ih =>
    obtain ⟨hle, heq⟩ := ih
    cases b with
    | true =>
      rw [hb rfl, List.count_cons_of_ne (by decide), List.count_cons_of_ne (by decide)]
      exact ⟨hle, fun h => by rw [heq h]⟩
    | false =>
      rw [List.count_cons_self]
      cases b' with
      | true =>
        rw [List.count_cons_of_ne (by decide)]
        exact ⟨by omega, fun h => by omega⟩
      | false =>
        rw [List.count_cons_self]
        exact ⟨by omega, fun h => by rw [heq (by omega)]⟩

theorem Function.MarkedMore.count_false {functions : List Function} {f f' : Function}
    (h : f.MarkedMore functions f') :
    f'.arrayParams.count false ≤ f.arrayParams.count false ∧
      (f'.arrayParams.count false = f.arrayParams.count false → f' = f) := by
  have hkept : List.Forall₂ (fun b b' : Bool => b → b') f.arrayParams f'.arrayParams := by
    refine List.forall₂_iff_get.mpr ⟨h.length.symm, fun i hi hi' hb => ?_⟩
    have hmark := h.kept i (by rw [isArrayParam, List.getElem?_eq_getElem hi]; exact hb)
    rw [isArrayParam, List.getElem?_eq_getElem hi'] at hmark
    exact hmark
  obtain ⟨hle, heq⟩ := count_false_of_kept hkept
  refine ⟨hle, fun hcount => ?_⟩
  have hsame := h.same
  rw [heq hcount] at hsame
  exact hsame

namespace Program

/-- How many parameters are not marked. -/
def unmarked (functions : List Function) : Nat :=
  (functions.map fun f => f.arrayParams.count false).sum

/-- No round would mark anything more. -/
def Closed (functions : List Function) : Prop :=
  arrayMarks (functions.map (Function.markForwarded functions)) = arrayMarks functions

/-- The functions with some more of their parameters marked, be it all or only one of those that are
passed on to marked ones. -/
def MarksMore (functions functions' : List Function) : Prop :=
  List.Forall₂ (Function.MarkedMore functions) functions functions'

theorem marksMore_round {functions : List Function}
    (hlength : ∀ f ∈ functions, f.arrayParams.length = f.params.length) :
    MarksMore functions (functions.map (Function.markForwarded functions)) := by
  refine List.forall₂_map_right_iff.mpr (List.forall₂_same.mpr fun f hf => ?_)
  exact Function.markForwarded_markedMore (hlength f hf)

/-- To mark more leaves fewer parameters without a mark, unless nothing changes. -/
theorem unmarked_of_marksMore {all functions functions' : List Function}
    (h : List.Forall₂ (Function.MarkedMore all) functions functions') :
    unmarked functions' ≤ unmarked functions ∧
      (unmarked functions' = unmarked functions → functions' = functions) := by
  induction h with
  | nil => exact ⟨Nat.le_refl _, fun _ => rfl⟩
  | @cons f f' rest rest' hf _ ih =>
    obtain ⟨hle, heq⟩ := ih
    obtain ⟨hfle, hfeq⟩ := hf.count_false
    simp only [unmarked, List.map_cons, List.sum_cons] at hle heq ⊢
    exact ⟨by omega, fun h => by rw [hfeq (by omega), heq (by omega)]⟩

/-- A round that changes a mark leaves fewer parameters without one. -/
theorem unmarked_round {functions : List Function}
    (hlength : ∀ f ∈ functions, f.arrayParams.length = f.params.length)
    (hopen : ¬Closed functions) :
    unmarked (functions.map (Function.markForwarded functions)) < unmarked functions := by
  obtain ⟨hle, heq⟩ := unmarked_of_marksMore (marksMore_round hlength)
  refine Nat.lt_of_le_of_ne hle fun hsame => hopen ?_
  rw [Closed, heq hsame]

/-- What every round keeps holds of the outcome. -/
theorem closeForwards_keeps {P : List Function → Prop}
    (hP : ∀ functions, P functions → P (functions.map (Function.markForwarded functions)))
    (n : Nat) (functions : List Function) (h : P functions) : P (closeForwards n functions) := by
  fun_induction closeForwards n functions with
  | case1 functions => exact h
  | case2 n functions marked heq => exact h
  | case3 n functions marked hne ih => exact ih (hP functions h)

/-- With more rounds than there are parameters to mark, the outcome is closed. -/
theorem closeForwards_closed (n : Nat) (functions : List Function)
    (hlength : ∀ f ∈ functions, f.arrayParams.length = f.params.length)
    (hn : unmarked functions < n) : Closed (closeForwards n functions) := by
  fun_induction closeForwards n functions with
  | case1 functions => cases hn
  | case2 n functions marked heq => exact heq
  | case3 n functions marked hne ih =>
    have hfewer : unmarked marked < unmarked functions := unmarked_round hlength hne
    refine ih (fun f hf => ?_) (by omega)
    obtain ⟨g, hg, rfl⟩ := List.mem_map.mp hf
    exact Function.markForwarded_length (hlength g hg)

/-- The marks of a program whose parameters have distinct names: what a body uses as an array
is marked, and so is what it passes on to something marked. -/
structure Resolved (p : Program) : Prop where
  nodup : ∀ f ∈ p.functions, f.params.Nodup
  marked : ∀ f ∈ p.functions, f.Marked
  closed : ∀ f ∈ p.functions, ∀ (i : Nat) (q : String), f.params[i]? = some q →
    f.PassesOn p.functions q → f.isArrayParam i

theorem unmarked_direct (functions : List Function) :
    unmarked (functions.map Function.markDirect) ≤ (functions.flatMap (·.params)).length := by
  rw [unmarked, List.map_map, List.length_flatMap]
  refine List.sum_le_sum fun f _ => ?_
  have hcount : f.markDirect.arrayParams.count false ≤ f.markDirect.arrayParams.length :=
    List.count_le_length
  exact hcount.trans (Nat.le_of_eq f.markDirect_marked.length)

/-- What is passed on to something marked is marked where no round would mark anything more. -/
theorem Closed.isArrayParam {functions : List Function} (h : Closed functions) {f : Function}
    (hf : f ∈ functions) (hlength : f.arrayParams.length = f.params.length) {i : Nat} {q : String}
    (hq : f.params[i]? = some q) (hpasses : f.PassesOn functions q) : f.isArrayParam i := by
  have hsame : (f.markForwarded functions).arrayParams = f.arrayParams := by
    rw [Closed, arrayMarks, arrayMarks, List.map_map] at h
    exact List.map_inj_left.mp h f hf
  have hnext := (Function.isArrayParam_markForwarded hlength hq).mpr (.inr hpasses)
  rw [Function.isArrayParam, hsame] at hnext
  exact hnext

theorem markDirect_length (p : Program) :
    ∀ f ∈ p.functions.map Function.markDirect, f.arrayParams.length = f.params.length := by
  intro f hf
  obtain ⟨g, -, rfl⟩ := List.mem_map.mp hf
  exact g.markDirect_marked.length

/-- The rounds suffice. -/
theorem resolveArrayParams_closed (p : Program) : Closed p.resolveArrayParams.functions :=
  closeForwards_closed _ _ p.markDirect_length (Nat.lt_succ_of_le (unmarked_direct p.functions))

theorem resolveArrayParams_resolved {p : Program} (h : ∀ f ∈ p.functions, f.params.Nodup) :
    p.resolveArrayParams.Resolved := by
  have hstart : ∀ f ∈ p.functions.map Function.markDirect, f.params.Nodup ∧ f.Marked := by
    intro f hf
    obtain ⟨g, hg, rfl⟩ := List.mem_map.mp hf
    exact ⟨h g hg, g.markDirect_marked⟩
  have hkept := closeForwards_keeps (P := fun functions => ∀ f ∈ functions,
    f.params.Nodup ∧ f.Marked) (fun functions hall f hf => by
      obtain ⟨g, hg, rfl⟩ := List.mem_map.mp hf
      exact ⟨(hall g hg).1, Function.markForwarded_marked (hall g hg).2⟩)
    ((p.functions.flatMap (·.params)).length + 1) _ hstart
  refine ⟨fun f hf => (hkept f hf).1, fun f hf => (hkept f hf).2, fun f hf i q hq hpasses => ?_⟩
  exact p.resolveArrayParams_closed.isArrayParam hf (hkept f hf).2.length hq hpasses

end Program

/-! ## Programs that are read -/

namespace Grammar

/-- A name that is there already is refused. -/
theorem parameters_nodup {function : String} (n : Nat) : ∀ {seen params : List String}
    {c c' : Cursor}, parameters function n seen c = .ok params c' → seen.Nodup → params.Nodup := by
  induction n with
  | zero =>
    intro seen params c c' h hseen
    cases h
    exact hseen
  | succ n ih =>
    intro seen params c c' h hseen
    obtain ⟨param, c₁, -, h⟩ := bind_ok_inv h
    split at h
    · cases h
    · next hnew =>
      have hmore : (seen ++ [param]).Nodup := by
        simp only [Bool.or_eq_true, List.contains_iff_mem, not_or] at hnew
        exact List.nodup_append.mpr ⟨hseen, List.nodup_singleton param, by
          intro a ha b hb hab
          rw [List.mem_singleton.mp hb] at hab
          exact hnew.2 (hab ▸ ha)⟩
      obtain ⟨comma, c₂, -, h⟩ := bind_ok_inv h
      split at h
      · exact ih h hmore
      · cases h
        exact hmore

theorem functionDefinition_nodup {self : Phrases} {n : Nat} {c c' : Cursor} {f : Function}
    (h : functionDefinition self n c = .ok f c') : f.params.Nodup := by
  obtain ⟨place, c₁, -, h⟩ := bind_ok_inv h
  obtain ⟨-, c₂, -, h⟩ := bind_ok_inv h
  obtain ⟨name, c₃, -, h⟩ := bind_ok_inv h
  obtain ⟨-, c₄, -, h⟩ := bind_ok_inv h
  obtain ⟨d, c₅, -, h⟩ := bind_ok_inv h
  -- What follows the parameters keeps them as they are.
  have hrest : ∀ {params : List String} {c : Cursor}, (do
        Parser.expect .rightParen
        Parser.skipNewlines
        let body ← block self n
        return { name, params, arrayParams := params.map fun _ => false, body, place } :
          Parser Function) c = .ok f c' → f.params = params := by
    intro params c h
    obtain ⟨-, c₆, -, h⟩ := bind_ok_inv h
    obtain ⟨-, c₇, -, h⟩ := bind_ok_inv h
    obtain ⟨body, c₈, -, h⟩ := bind_ok_inv h
    cases h
    rfl
  dsimp only at h
  split at h
  · rw [hrest h]
    exact List.nodup_nil
  · obtain ⟨params, c₆, hparams, h⟩ := bind_ok_inv h
    rw [hrest h]
    exact parameters_nodup n hparams List.nodup_nil

theorem items_nodup {self : Phrases} {n : Nat} (m : Nat) : ∀ {p p' : Program} {c c' : Cursor},
    items self n m p c = .ok p' c' → (∀ f ∈ p.functions, f.params.Nodup) →
    ∀ f ∈ p'.functions, f.params.Nodup := by
  induction m with
  | zero =>
    intro p p' c c' h hp
    cases h
    exact hp
  | succ m ih =>
    intro p p' c c' h hp
    obtain ⟨d, c₁, -, h⟩ := bind_ok_inv h
    split at h
    · cases h
      exact hp
    · split at h
      · obtain ⟨f, c₂, hf, h⟩ := bind_ok_inv h
        split at h
        · cases h
        · obtain ⟨-, c₃, -, h⟩ := bind_ok_inv h
          refine ih h fun g hg => ?_
          rcases List.mem_append.mp hg with hg | hg
          · exact hp g hg
          · rw [List.mem_singleton.mp hg]
            exact functionDefinition_nodup hf
      · obtain ⟨r, c₂, -, h⟩ := bind_ok_inv h
        obtain ⟨-, c₃, -, h⟩ := bind_ok_inv h
        exact ih h hp

end Grammar

theorem parseProgram_resolved {source : String} {p : Program} (h : parseProgram source = .ok p) :
    p.Resolved := by
  unfold parseProgram at h
  split at h
  · cases h
  · next tokens _ =>
    unfold parseTokens at h
    dsimp only at h
    split at h
    · next p₀ c hread =>
      cases h
      obtain ⟨-, c₁, -, hitems⟩ := bind_ok_inv hread
      exact Program.resolveArrayParams_resolved
        (Grammar.items_nodup _ hitems fun f hf => by cases hf)
    · cases h

end Awk
