import Awk.Evaluation.Builtin
import Awk.Proofs.Access
import Awk.Proofs.ArrayNumbers
import Awk.Proofs.ByteOrder
import Awk.Proofs.References
import Std.Data.String.ToNat

/-!
# Sorting arrays

The order of sorting compares numbers by a key that is different for all doubles, texts by their
bytes, and puts numbers first, so it is a total preorder on all values.  Sorting then gives a
permutation in order, whatever order the elements are taken in, and the list takes the place of the
elements under the numbers from one.
-/

namespace Awk

/-! ## The order of sorting -/

namespace Value

theorem sortOrder_swap (a b : Value) : a.sortOrder b = (b.sortOrder a).swap := by
  cases ha : a.comparesNumerically <;> cases hb : b.comparesNumerically <;>
    simp only [sortOrder, ha, hb]
  · exact Std.OrientedOrd.eq_swap
  · rfl
  · rfl
  · exact Std.OrientedOrd.eq_swap

instance : Std.OrientedCmp sortOrder where
  eq_swap := sortOrder_swap _ _

/-- Numbers and texts are each in an order of their own, and no text comes before a number. -/
instance : Std.TransCmp sortOrder where
  isLE_trans {a b c} hab hbc := by
    cases ha : a.comparesNumerically <;> cases hb : b.comparesNumerically <;>
      cases hc : c.comparesNumerically <;> simp only [sortOrder, ha, hb, hc] at *
    all_goals first
      | exact Std.TransOrd.isLE_trans hab hbc
      | contradiction
      | rfl

end Value

/-! ## Lists in order -/

theorem ne_gt_trans {α : Type} {cmp : α → α → Ordering} [Std.TransCmp cmp] {a b c : α}
    (hab : cmp a b ≠ .gt) (hbc : cmp b c ≠ .gt) : cmp a c ≠ .gt := by
  rw [ne_eq, ← Ordering.isLE_iff_ne_gt] at hab hbc ⊢
  exact Std.TransCmp.isLE_trans hab hbc

/-- Sorting by an order that is total and transitive gives a permutation in that order. -/
theorem sorted_mergeSort {α : Type} {cmp : α → α → Ordering} [Std.TransCmp cmp] (l : List α) :
    (l.mergeSort fun a b => cmp a b != .gt).Pairwise fun a b => cmp a b ≠ .gt := by
  have htrans : ∀ a b c : α, (cmp a b != .gt) = true → (cmp b c != .gt) = true →
      (cmp a c != .gt) = true := by
    intro a b c hab hbc
    rw [bne_iff_ne] at hab hbc ⊢
    exact ne_gt_trans hab hbc
  have htotal : ∀ a b : α, ((cmp a b != .gt) || (cmp b a != .gt)) = true := by
    intro a b
    have hswap : cmp b a = (cmp a b).swap := Std.OrientedCmp.eq_swap
    rw [hswap]
    cases cmp a b <;> rfl
  refine (List.pairwise_mergeSort htrans htotal l).imp ?_
  intro a b h
  exact bne_iff_ne.mp h

/-! ## Numbered elements -/

namespace Table

theorem toString_inj {i j : Nat} (h : toString i = toString j) : i = j := Nat.repr_injective h

/-- Inserting under numbers leaves the other keys alone. -/
theorem numberFrom_of_ne {values : List Value} {start : Nat} {key : String} {t : Table}
    (h : ∀ i < values.length, key ≠ toString (start + i)) :
    ((values.zipIdx start).foldl (fun t (v, i) => t.insert (toString i) v) t)[key]? = t[key]? := by
  induction values generalizing start t with
  | nil => rfl
  | cons w values ih =>
    have hhead : toString start ≠ key := fun heq => h 0 (Nat.zero_lt_succ _) heq.symm
    have htail : ∀ i < values.length, key ≠ toString (start + 1 + i) := by
      intro i hi
      rw [Nat.add_assoc, Nat.add_comm 1]
      exact h (i + 1) (Nat.succ_lt_succ hi)
    rw [List.zipIdx_cons, List.foldl_cons, ih htail]
    simp only [Std.TreeMap.getElem?_insert, Std.compare_eq_iff_eq, hhead, if_false]

/-- Each number is a key, and has the element at its place. -/
theorem numberFrom_of_lt {values : List Value} {start i : Nat} (h : i < values.length)
    {t : Table} :
    ((values.zipIdx start).foldl (fun t (v, i) => t.insert (toString i) v) t)[toString (start + i)]?
      = values[i]? := by
  induction values generalizing start i t with
  | nil => cases h
  | cons w values ih =>
    rw [List.zipIdx_cons, List.foldl_cons]
    cases i with
    | zero =>
      have hlater : ∀ j < values.length, toString (start + 0) ≠ toString (start + 1 + j) := by
        intro j _ heq
        have := toString_inj heq
        omega
      rw [numberFrom_of_ne hlater]
      simp
    | succ i =>
      have hplace : start + (i + 1) = start + 1 + i := by omega
      rw [hplace, ih (Nat.lt_of_succ_lt_succ h)]
      rfl

/-- The keys of a numbered list are the numbers from one to its length. -/
theorem numbered_eq_some_iff {values : List Value} {key : String} {v : Value} :
    (numbered values)[key]? = some v ↔ ∃ i, values[i]? = some v ∧ key = toString (i + 1) := by
  constructor
  · intro h
    by_cases hkey : ∃ i < values.length, key = toString (1 + i)
    · obtain ⟨i, hi, rfl⟩ := hkey
      rw [numbered, numberFrom_of_lt hi] at h
      exact ⟨i, h, by rw [Nat.add_comm]⟩
    · have hne : ∀ i < values.length, key ≠ toString (1 + i) := fun i hi heq => hkey ⟨i, hi, heq⟩
      rw [numbered, numberFrom_of_ne hne] at h
      cases h
  · rintro ⟨i, hi, rfl⟩
    obtain ⟨hlt, -⟩ := List.getElem?_eq_some_iff.mp hi
    rw [numbered, Nat.add_comm, numberFrom_of_lt hlt]
    exact hi

theorem values_eq_map (t : Table) : t.values = t.toList.map (·.2) := by
  show t.foldr (fun _ v values => v :: values) [] = _
  rw [Std.TreeMap.foldr_eq_foldr_toList]
  induction t.toList with
  | nil => rfl
  | cons p ps ih =>
    rw [List.foldr_cons, ih, List.map_cons]

theorem length_values (t : Table) : t.values.length = t.size := by
  rw [values_eq_map, List.length_map, Std.TreeMap.length_toList]

end Table

/-! ## The array of a name -/

namespace Arena

/-- An array that is given out has the elements that its number had, which are none. -/
theorem alloc_table {a a' : Arena} {id : Nat} (h : a.alloc = (id, a')) (x : Nat) :
    a'.table x = a.table x := by
  unfold alloc at h
  split at h
  · cases h
    rfl
  · cases h
    rw [table, table, Array.getElem?_push]
    split
    · next hx =>
      rw [hx, Array.getElem?_eq_none (Nat.le_refl _)]
      rfl
    · rfl

theorem table_modify_self {a : Arena} {id : Nat} {t : Table}
    (h : a.table id = Table.empty → t = Table.empty) : (a.modify id fun _ => t).table id = t := by
  rw [table, modify, Array.getElem?_modify, if_pos rfl]
  rw [table] at h
  cases hfound : a.tables[id]? with
  | none =>
    rw [hfound] at h
    exact (h rfl).symm
  | some former => rfl

end Arena

namespace Scope

/-- Finding the array of a name changes no element. -/
theorem arrayId_table {name : String} {s s' : Scope} {id : Nat}
    (h : arrayId name s = .ok id s') (x : Nat) : s'.table x = s.table x := by
  cases arrayId_resolved h with
  | found => rfl
  | inFrame _ _ halloc => exact Arena.alloc_table halloc x
  | asGlobal _ halloc => exact Arena.alloc_table halloc x

/-- The elements of one array were replaced by a list, numbered from one. -/
structure Renumbered (name : String) (s s' : Scope) (id : Nat) (values : List Value) : Prop where
  name : s'.lookup? name = some (.array id)
  elements : ∀ key v,
    (s'.table id)[key]? = some v ↔ ∃ i, values[i]? = some v ∧ key = toString (i + 1)
  others : ∀ other, other ≠ id → s'.table other = s.table other

theorem renumbered_fillArray {name : String} {s s₁ : Scope} {id : Nat} {values : List Value}
    (h : arrayId name s = .ok id s₁) (hlength : values.length = (s.table id).size) :
    Renumbered name s { s₁ with arena := s₁.arena.modify id fun _ => Table.numbered values } id
      values where
  name := by
    show s₁.lookup? name = some (.array id)
    exact lookup?_of_arrayId h
  elements key v := by
    have htable : (s₁.arena.modify id fun _ => Table.numbered values).table id =
        Table.numbered values := by
      refine Arena.table_modify_self fun hempty => ?_
      -- An array without elements is numbered with no values.
      have hformer : s.table id = Table.empty := (arrayId_table h id).symm.trans hempty
      rw [hformer] at hlength
      rw [List.eq_nil_of_length_eq_zero hlength]
      rfl
    show ((s₁.arena.modify id fun _ => Table.numbered values).table id)[key]? = some v ↔ _
    rw [htable]
    exact Table.numbered_eq_some_iff
  others other hother := by
    rw [← arrayId_table h other]
    exact Arena.table_modify_of_ne hother

end Scope

namespace Builtin

open Eval

variable {b : Builtin} {array : Expr} {listed : Table → List Value} {m : Machine} {name : String}
  {id : Nat} {s : Scope}

/-- An array whose elements are listed one for one is numbered with the list, and no other array
changes. -/
theorem renumber_run (hname : arrayName b array m = .ok name m)
    (hid : Scope.arrayId name m.scope = .ok id s)
    (hlength : ∀ t, (listed t).length = t.size) :
    ∃ s', renumber b array listed m = .ok (.ofNat (m.scope.table id).size) { m with scope := s' } ∧
      Scope.Renumbered name m.scope s' id (listed (m.scope.table id)) := by
  have htable : s.table id = m.scope.table id := Scope.arrayId_table hid id
  have hfind : onScope (Scope.arrayId name) m = .ok id { m with scope := s } := by
    rw [onScope, hid]
  refine ⟨_, ?_, Scope.renumbered_fillArray hid (hlength _)⟩
  rw [renumber, bind_of_ok hname, bind_of_ok hfind]
  show EStateM.Result.ok (Value.ofNat (listed (s.table id)).length) _ = _
  rw [htable, hlength]

theorem length_sortedValues {enumerate : Table → List Value}
    (h : ∀ t, (enumerate t).Perm t.values) (t : Table) :
    (sortedValues enumerate t).length = t.size := by
  rw [sortedValues, List.length_mergeSort, (h t).length_eq, Table.length_values]

theorem length_sortedKeys {enumerate : Table → List String}
    (h : ∀ t, (enumerate t).Perm t.keys) (t : Table) :
    (sortedKeys enumerate t).length = t.size := by
  rw [sortedKeys, List.length_map, List.length_mergeSort, (h t).length_eq,
    Std.TreeMap.length_keys]

end Builtin

/-- The order of sorting is a total preorder.  Sorting an array leaves a permutation of its values
in that order under the numbers from one, whatever order they are taken in, and sorting its keys
leaves these byte by byte in order, as texts of the run.  Both give the size of the array and
change no other. -/
theorem arrays_sorted :
    (∀ a : Value, a.sortOrder a = .eq) ∧
    (∀ a b : Value, b.sortOrder a = (a.sortOrder b).swap) ∧
    (∀ a b : Value, a.sortOrder b ≠ .gt ∨ b.sortOrder a ≠ .gt) ∧
    (∀ a b c : Value, a.sortOrder b ≠ .gt → b.sortOrder c ≠ .gt → a.sortOrder c ≠ .gt) ∧
    (∀ (enumerate : Table → List Value), (∀ t, (enumerate t).Perm t.values) →
      ∀ (array : Expr) (name : String) (m : Machine) (id : Nat) (s : Scope),
        Builtin.arrayName .asort array m = .ok name m → Scope.arrayId name m.scope = .ok id s →
        ∃ (values : List Value) (s' : Scope),
          Builtin.renumber .asort array (Builtin.sortedValues enumerate) m =
            .ok (.ofNat (m.scope.table id).size) { m with scope := s' } ∧
          values.Perm (m.scope.table id).values ∧
          values.Pairwise (fun a b => a.sortOrder b ≠ .gt) ∧
          Scope.Renumbered name m.scope s' id values) ∧
    (∀ (enumerate : Table → List String), (∀ t, (enumerate t).Perm t.keys) →
      ∀ (array : Expr) (name : String) (m : Machine) (id : Nat) (s : Scope),
        Builtin.arrayName .asorti array m = .ok name m → Scope.arrayId name m.scope = .ok id s →
        ∃ (keys : List String) (s' : Scope),
          Builtin.renumber .asorti array (Builtin.sortedKeys enumerate) m =
            .ok (.ofNat (m.scope.table id).size) { m with scope := s' } ∧
          keys.Perm (m.scope.table id).keys ∧
          keys.Pairwise (fun a b => compare (Text.bytes a) (Text.bytes b) = .lt) ∧
          Scope.Renumbered name m.scope s' id (keys.map .ofText)) ∧
    ∀ (self : Meaning) (array : Expr) (place : Location),
      Builtin.call self .asort [array] place =
          Builtin.renumber .asort array (Builtin.sortedValues fun t => t.values) ∧
        Builtin.call self .asorti [array] place =
          Builtin.renumber .asorti array (Builtin.sortedKeys fun t => t.keys) := by
  refine ⟨fun a => Std.ReflCmp.compare_self, fun a b => Value.sortOrder_swap b a,
    fun a b => ?_, fun a b c hab hbc => ne_gt_trans hab hbc, ?_, ?_,
    fun self array place => ⟨rfl, rfl⟩⟩
  · rw [Value.sortOrder_swap b a]
    cases a.sortOrder b
    · exact .inl nofun
    · exact .inl nofun
    · exact .inr nofun
  · intro enumerate henumerate array name m id s hname hid
    obtain ⟨s', hrun, hnumbered⟩ :=
      Builtin.renumber_run hname hid (Builtin.length_sortedValues henumerate)
    exact ⟨_, s', hrun, (List.mergeSort_perm _ _).trans (henumerate _), sorted_mergeSort _,
      hnumbered⟩
  · intro enumerate henumerate array name m id s hname hid
    obtain ⟨s', hrun, hnumbered⟩ :=
      Builtin.renumber_run hname hid (Builtin.length_sortedKeys henumerate)
    have hperm := (List.mergeSort_perm (enumerate (m.scope.table id))
      (fun a b => compare a b != .gt)).trans (henumerate _)
    refine ⟨_, s', hrun, hperm, ?_, hnumbered⟩
    -- No key is there twice, so that each is strictly before the next.
    have hnodup := hperm.symm.nodup Std.TreeMap.nodup_keys
    refine ((sorted_mergeSort _).and hnodup).imp fun {a b} h => ?_
    rw [← Text.compare_eq_bytes]
    cases hcompare : compare a b with
    | lt => rfl
    | eq => exact absurd (Std.LawfulEqOrd.eq_of_compare hcompare) h.2
    | gt => exact absurd hcompare h.1

end Awk
