import Awk.Proofs.Access
import Mathlib.Data.List.Nodup

/-!
# The numbers of arrays

Numbers of arrays are passed down as parameters, kept by frames and used again once a
frame is gone, so one array can be seen under several names while its number must not
be given out a second time.  `Reachable` are the scopes that can arise when the holder
of a scope follows the rules for calls; `ArraysApart` is what keeps arrays from running
into each other there.

The invariant behind it, `Settled`, says why a number can be given back when a frame
goes: all that a frame can see is global or belongs to the frame or to one below it.
-/

namespace Awk

/-! ## The arena -/

namespace Arena

/-- A number that has been given out and not been given back. -/
def Live (a : Arena) (id : Nat) : Prop := id < a.tables.size ∧ id ∉ a.free

/-- Numbers to be used again are there once, and their arrays are empty. -/
structure Sound (a : Arena) : Prop where
  lt : ∀ id ∈ a.free, id < a.tables.size
  nodup : a.free.Nodup
  vacant : ∀ id ∈ a.free, a.table id = Table.empty

/-- What `alloc` gives out was not live before, and is empty. -/
structure Allocated (a : Arena) (id : Nat) (a' : Arena) : Prop where
  sound : a'.Sound
  live_iff : ∀ x, a'.Live x ↔ a.Live x ∨ x = id
  new : ¬a.Live id
  vacant : a'.table id = Table.empty

theorem alloc_allocated {a a' : Arena} {id : Nat} (ha : a.Sound) (h : a.alloc = (id, a')) :
    Allocated a id a' := by
  unfold alloc at h
  split at h
  · next used free hfree =>
    obtain ⟨rfl, rfl⟩ := Prod.mk.inj h
    have hnodup : (used :: free).Nodup := hfree ▸ ha.nodup
    have hlt : ∀ x ∈ used :: free, x < a.tables.size := hfree ▸ ha.lt
    have hvacant : ∀ x ∈ used :: free, a.table x = Table.empty := hfree ▸ ha.vacant
    obtain ⟨hnot, hrest⟩ := List.nodup_cons.mp hnodup
    refine ⟨⟨fun x hx => hlt x (List.mem_cons_of_mem _ hx), hrest,
      fun x hx => hvacant x (List.mem_cons_of_mem _ hx)⟩, fun x => ?_, ?_, ?_⟩
    · have hused := hlt used List.mem_cons_self
      simp only [Live, hfree, List.mem_cons, not_or]
      constructor
      · rintro ⟨hx, hxf⟩
        by_cases hxu : x = used
        · exact .inr hxu
        · exact .inl ⟨hx, hxu, hxf⟩
      · rintro (⟨hx, -, hxf⟩ | rfl)
        · exact ⟨hx, hxf⟩
        · exact ⟨hused, hnot⟩
    · rintro ⟨-, hlive⟩
      exact hlive (hfree ▸ List.mem_cons_self)
    · exact hvacant used List.mem_cons_self
  · next hfree =>
    obtain ⟨rfl, rfl⟩ := Prod.mk.inj h
    refine ⟨⟨?_, ?_, ?_⟩, fun x => ?_, fun hlive => Nat.lt_irrefl _ hlive.1, ?_⟩
    · intro x hx
      rw [show a.free = [] from hfree] at hx
      cases hx
    · show a.free.Nodup
      rw [hfree]
      exact List.nodup_nil
    · intro x hx
      rw [show a.free = [] from hfree] at hx
      cases hx
    · simp only [Live, hfree, Array.size_push, List.not_mem_nil, not_false_eq_true, and_true]
      omega
    · simp [table]

theorem modify_live {a : Arena} {id x : Nat} {f : Table → Table} :
    (a.modify id f).Live x ↔ a.Live x := by
  simp only [Live, modify, Array.size_modify]

theorem table_modify_of_ne {a : Arena} {id x : Nat} {f : Table → Table} (h : x ≠ id) :
    (a.modify id f).table x = a.table x := by
  simp only [table, modify, Array.getElem?_modify, if_neg (Ne.symm h)]

/-- Changing an array that is live leaves those to be used again alone. -/
theorem modify_sound {a : Arena} {id : Nat} {f : Table → Table} (ha : a.Sound)
    (hid : a.Live id) : (a.modify id f).Sound := by
  refine ⟨fun x hx => ?_, ha.nodup, fun x hx => ?_⟩
  · rw [modify, Array.size_modify]
    exact ha.lt x hx
  · have hne : x ≠ id := by
      rintro rfl
      exact hid.2 hx
    rw [table_modify_of_ne hne]
    exact ha.vacant x hx

theorem release_sound {a : Arena} {id : Nat} (ha : a.Sound) (hid : a.Live id) :
    (a.release id).Sound := by
  refine ⟨fun x hx => ?_, List.nodup_cons.mpr ⟨hid.2, ha.nodup⟩, fun x hx => ?_⟩
  · rw [release, Array.size_modify]
    rcases List.mem_cons.mp hx with rfl | hx
    · exact hid.1
    · exact ha.lt x hx
  · by_cases hxi : x = id
    · subst hxi
      rw [table, release, Array.getElem?_modify, if_pos rfl]
      cases a.tables[x]? <;> rfl
    · rcases List.mem_cons.mp hx with rfl | hx
      · exact absurd rfl hxi
      · rw [← ha.vacant x hx]
        simp only [table, release, Array.getElem?_modify, if_neg (Ne.symm hxi)]

theorem release_live {a : Arena} {id x : Nat} :
    (a.release id).Live x ↔ a.Live x ∧ x ≠ id := by
  simp only [Live, release, Array.size_modify, List.mem_cons, not_or]
  constructor
  · rintro ⟨hx, hne, hfree⟩
    exact ⟨⟨hx, hfree⟩, hne⟩
  · rintro ⟨⟨hx, hfree⟩, hne⟩
    exact ⟨hx, hne, hfree⟩

/-- Giving back all numbers of a list, each of them once. -/
theorem releaseAll_sound {ids : List Nat} : ∀ {a : Arena}, a.Sound → ids.Nodup →
    (∀ id ∈ ids, a.Live id) → (ids.foldl release a).Sound := by
  induction ids with
  | nil =>
    intro a ha _ _
    exact ha
  | cons id ids ih =>
    intro a ha hnodup hlive
    obtain ⟨hnot, hrest⟩ := List.nodup_cons.mp hnodup
    refine ih (release_sound ha (hlive id List.mem_cons_self)) hrest fun x hx => ?_
    refine release_live.mpr ⟨hlive x (List.mem_cons_of_mem _ hx), ?_⟩
    rintro rfl
    exact hnot hx

theorem releaseAll_live {ids : List Nat} : ∀ {a : Arena} {x : Nat},
    (ids.foldl release a).Live x ↔ a.Live x ∧ x ∉ ids := by
  induction ids with
  | nil =>
    intro a x
    simp
  | cons id ids ih =>
    intro a x
    rw [List.foldl_cons, ih, release_live, List.mem_cons, not_or, and_assoc]

end Arena

/-! ## Names -/

/-- Whether a name stands for array `id`. -/
def Bindings.Refers (m : Bindings) (id : Nat) : Prop := ∃ name : String, m[name]? = some (.array id)

namespace Bindings

/-- A scalar in the place of none, or of another scalar, hides no array. -/
theorem refers_insert_scalar {m : Bindings} {name : String} {v : Value} {id : Nat}
    (h : ∀ id, m[name]? ≠ some (.array id)) :
    Refers (m.insert name (.scalar v)) id ↔ m.Refers id := by
  constructor
  · rintro ⟨other, ho⟩
    rw [getElem?_insert] at ho
    split at ho
    · cases ho
    · exact ⟨other, ho⟩
  · rintro ⟨other, ho⟩
    refine ⟨other, ?_⟩
    rw [getElem?_insert, if_neg ?_]
    · exact ho
    · rintro rfl
      exact h id ho

theorem refers_insert_array {m : Bindings} {name : String} {id x : Nat}
    (h : ∀ id, m[name]? ≠ some (.array id)) :
    Refers (m.insert name (.array id)) x ↔ m.Refers x ∨ x = id := by
  constructor
  · rintro ⟨other, ho⟩
    rw [getElem?_insert] at ho
    split at ho
    · cases ho
      exact .inr rfl
    · exact .inl ⟨other, ho⟩
  · rintro (⟨other, ho⟩ | rfl)
    · refine ⟨other, ?_⟩
      rw [getElem?_insert, if_neg ?_]
      · exact ho
      · rintro rfl
        exact h x ho
    · refine ⟨name, ?_⟩
      rw [getElem?_insert, if_pos rfl]

end Bindings

namespace Scope

def ownedBy (frames : List Frame) : List Nat := frames.flatMap (·.owned)

/-- What the holder of a scope has been told: numbers of new arrays that it has not given
to a frame, and for every call that has not returned, and for the time outside of calls,
the numbers that names were resolved to. -/
structure Ledger where
  fresh : List Nat
  /-- Innermost call first. -/
  known : List (List Nat)

namespace Ledger

def start : Ledger := { fresh := [], known := [[]] }

/-- What names of the present scope were resolved to. -/
def here (l : Ledger) : List Nat := l.known.headD []

def note (l : Ledger) (id : Nat) : Ledger :=
  { l with known := (id :: l.here) :: l.known.tail }

def enter (l : Ledger) (owned : List Nat) : Ledger :=
  { fresh := l.fresh.filter fun id => !owned.contains id, known := [] :: l.known }

/-- What was known before the call; there is always the time outside of calls. -/
def leave (l : Ledger) : Ledger :=
  match l.known with
  | _ :: k :: known => { l with known := k :: known }
  | _ => l

end Ledger

/-- What the holder of a scope can do.  It changes arrays by name or by a number that it was
told.  A frame gets scalars, arrays that names of the caller were resolved to, and new arrays,
which it then owns. -/
inductive Step : Scope × Ledger → Scope × Ledger → Prop where
  | access {α : Type} (a : Access α) (s : Scope) (l : Ledger) : Step (s, l) (after a.op s, l)
  | resolve {name : String} {id : Nat} {s s' : Scope} (l : Ledger) :
      arrayId name s = .ok id s' → Step (s, l) (s', l.note id)
  | change {id : Nat} (f : Table → Table) (s : Scope) {l : Ledger} :
      id ∈ l.here ∨ id ∈ l.fresh → Step (s, l) (after (modifyTable id f) s, l)
  | setRecord (text : String) (s : Scope) (l : Ledger) : Step (s, l) (s.setRecord text, l)
  | setField (i : Nat) (text : String) (s : Scope) (l : Ledger) :
      Step (s, l) (s.setField i text, l)
  | setArgs (args : List String) (s : Scope) (l : Ledger) : Step (s, l) (s.setArgs args, l)
  | newArray {id : Nat} {s s' : Scope} (l : Ledger) :
      Scope.newArray s = .ok id s' → Step (s, l) (s', { l with fresh := id :: l.fresh })
  | push {bindings : List (String × Binding)} {owned : List Nat} (s : Scope) {l : Ledger} :
      (∀ name id, (name, .array id) ∈ bindings → id ∈ l.here ∨ id ∈ owned) →
      owned.Nodup → (∀ id ∈ owned, id ∈ l.fresh) →
      Step (s, l) (s.pushFrame bindings owned, l.enter owned)
  | pop (s : Scope) (l : Ledger) : Step (s, l) (s.popFrame, l.leave)

/-- The scopes that can arise from that of a program that has not run. -/
inductive Reachable (environment : List (String × String)) : Scope × Ledger → Prop where
  | start : Reachable environment (initial environment, .start)
  | step {a b : Scope × Ledger} : Reachable environment a → Step a b → Reachable environment b

/-! ## The invariant -/

/-- A number that stays in use as long as `frames` do. -/
def Anchored (globals : Bindings) (frames : List Frame) (id : Nat) : Prop :=
  globals.Refers id ∨ id ∈ ownedBy frames

/-- All that can be seen from a frame, by its locals or by what its holder was told, is
anchored in that frame and those below it. -/
def Settled (globals : Bindings) : List Frame → List (List Nat) → Prop
  | [], [k] => ∀ id ∈ k, Anchored globals [] id
  | f :: fs, k :: ks =>
    (∀ id, f.locals.Refers id ∨ id ∈ k → Anchored globals (f :: fs) id) ∧ Settled globals fs ks
  | _, _ => False

structure Sound (s : Scope) (l : Ledger) : Prop where
  arena : s.arena.Sound
  globals_live : ∀ id, s.globals.Refers id → s.arena.Live id
  globals_injective : ∀ (a b : String) (id : Nat),
    s.globals[a]? = some (.array id) → s.globals[b]? = some (.array id) → a = b
  reserved_nodup : (ownedBy s.frames ++ l.fresh).Nodup
  reserved_live : ∀ id ∈ ownedBy s.frames ++ l.fresh, s.arena.Live id
  reserved_local : ∀ id ∈ ownedBy s.frames ++ l.fresh, ¬s.globals.Refers id
  settled : Settled s.globals s.frames l.known

theorem Anchored.mono {g g' : Bindings} {fs : List Frame} {id : Nat}
    (hg : ∀ id, g.Refers id → g'.Refers id) (h : Anchored g fs id) : Anchored g' fs id :=
  h.imp (hg id) fun h => h

theorem Anchored.below {g : Bindings} {f : Frame} {fs : List Frame} {id : Nat}
    (h : Anchored g fs id) : Anchored g (f :: fs) id :=
  h.imp (fun h => h) fun h => List.mem_append_right _ h

/-- More globals anchor no less. -/
theorem Settled.mono {g g' : Bindings} (hg : ∀ id, g.Refers id → g'.Refers id) :
    ∀ {fs : List Frame} {ks : List (List Nat)}, Settled g fs ks → Settled g' fs ks
  | [], [], h => h
  | [], [_], h => fun id hid => (h id hid).mono hg
  | [], _ :: _ :: _, h => h
  | _ :: _, [], h => h
  | _ :: _, _ :: _, h => ⟨fun id hid => (h.1 id hid).mono hg, h.2.mono hg⟩

/-- The part of the ledger that is about the present scope. -/
theorem Settled.here {g : Bindings} : ∀ {fs : List Frame} {ks : List (List Nat)},
    Settled g fs ks → ∃ k rest, ks = k :: rest ∧ ∀ id ∈ k, Anchored g fs id
  | [], [], h => h.elim
  | [], [k], h => ⟨k, [], rfl, h⟩
  | [], _ :: _ :: _, h => h.elim
  | _ :: _, [], h => h.elim
  | _ :: _, k :: ks, h => ⟨k, ks, rfl, fun id hid => h.1 id (.inr hid)⟩

theorem Settled.note {g : Bindings} {id : Nat} : ∀ {fs : List Frame} {ks : List (List Nat)},
    Settled g fs ks → Anchored g fs id → Settled g fs ((id :: ks.headD []) :: ks.tail)
  | [], [], h, _ => h.elim
  | [], [k], h, hid => fun x hx => by
    rcases List.mem_cons.mp hx with rfl | hx
    · exact hid
    · exact h x hx
  | [], _ :: _ :: _, h, _ => h.elim
  | _ :: _, [], h, _ => h.elim
  | f :: fs, k :: ks, h, hid => by
    refine ⟨fun x hx => ?_, h.2⟩
    rcases hx with hx | hx
    · exact h.1 x (.inl hx)
    · rcases List.mem_cons.mp hx with rfl | hx
      · exact hid
      · exact h.1 x (.inr hx)

theorem Settled.local_anchored {g : Bindings} : ∀ {fs : List Frame} {ks : List (List Nat)},
    Settled g fs ks → ∀ f ∈ fs, ∀ id, f.locals.Refers id → Anchored g fs id
  | [], _, _, f, hf, _, _ => by cases hf
  | _ :: _, [], h, _, _, _, _ => h.elim
  | f₀ :: fs, k :: ks, h, f, hf, id, hid => by
    rcases List.mem_cons.mp hf with rfl | hf
    · exact h.1 id (.inl hid)
    · exact (h.2.local_anchored f hf id hid).below

/-- What a name of the present scope stands for is anchored there. -/
theorem Settled.lookup {s : Scope} {ks : List (List Nat)} {name : String} {id : Nat}
    (h : Settled s.globals s.frames ks) (hl : s.lookup? name = some (.array id)) :
    Anchored s.globals s.frames id := by
  unfold lookup? at hl
  split at hl
  · next b hb =>
    cases hl
    unfold local? at hb
    split at hb
    · cases hb
    · next f fs hf =>
      rw [hf] at h ⊢
      exact h.local_anchored f List.mem_cons_self id ⟨name, hb⟩
  · exact .inl ⟨name, hl⟩

theorem Sound.live_of_anchored {s : Scope} {l : Ledger} {id : Nat} (h : Sound s l)
    (hid : Anchored s.globals s.frames id) : s.arena.Live id := by
  rcases hid with hg | ho
  · exact h.globals_live id hg
  · exact h.reserved_live id (List.mem_append_left _ ho)

/-- The holder is told only numbers that are in use. -/
theorem Sound.told_live {s : Scope} {l : Ledger} {id : Nat} (h : Sound s l)
    (hid : id ∈ l.here ∨ id ∈ l.fresh) : s.arena.Live id := by
  rcases hid with hhere | hfresh
  · obtain ⟨k, rest, hk, hanchored⟩ := h.settled.here
    rw [Ledger.here, hk] at hhere
    exact h.live_of_anchored (hanchored id hhere)
  · exact h.reserved_live id (List.mem_append_right _ hfresh)

/-! ## One step -/

theorem Sound.sameNames {s s' : Scope} {l : Ledger} (h : Sound s l) (hs : SameNames s s') :
    Sound s' l := by
  obtain ⟨hg, hf, ha⟩ := hs
  refine ⟨?_, ?_, ?_, ?_, ?_, ?_, ?_⟩
  · rw [ha]; exact h.arena
  · rw [hg, ha]; exact h.globals_live
  · rw [hg]; exact h.globals_injective
  · rw [hf]; exact h.reserved_nodup
  · rw [hf, ha]; exact h.reserved_live
  · rw [hf, hg]; exact h.reserved_local
  · rw [hg, hf]; exact h.settled

theorem Sound.modifyTable {s : Scope} {l : Ledger} {id : Nat} (h : Sound s l)
    (hid : s.arena.Live id) (f : Table → Table) :
    Sound { s with arena := s.arena.modify id f } l :=
  { h with
    arena := Arena.modify_sound h.arena hid
    globals_live := fun x hx => Arena.modify_live.mpr (h.globals_live x hx)
    reserved_live := fun x hx => Arena.modify_live.mpr (h.reserved_live x hx) }

theorem Sound.assign {s : Scope} {l : Ledger} {name : String} (h : Sound s l)
    (hna : ∀ id, s.assigned? name ≠ some (.array id)) (v : Value) :
    Sound (s.bind name (.scalar v)) l := by
  unfold bind
  unfold assigned? at hna
  split
  · next hf =>
    rw [hf] at hna
    have hsame : ∀ id, Bindings.Refers (s.globals.insert name (.scalar v)) id ↔
        s.globals.Refers id := fun id => Bindings.refers_insert_scalar hna
    refine { h with globals_live := ?_, globals_injective := ?_, reserved_local := ?_,
                    settled := h.settled.mono fun id hid => (hsame id).mpr hid }
    · intro id hid
      exact h.globals_live id ((hsame id).mp hid)
    · intro a b id ha hb
      simp only [Bindings.getElem?_insert] at ha hb
      split at ha <;> split at hb <;> first | cases ha | cases hb | skip
      exact h.globals_injective a b id ha hb
    · intro id hid hg
      exact h.reserved_local id hid ((hsame id).mp hg)
  · next f fs hf =>
    rw [hf] at hna
    have hset := h.settled
    rw [hf] at hset
    cases hk : l.known with
    | nil => rw [hk] at hset; exact hset.elim
    | cons k ks =>
      rw [hk] at hset
      have howned : ownedBy ({ f with locals := f.locals.insert name (.scalar v) } :: fs) =
          ownedBy s.frames := by rw [hf]; rfl
      refine { h with reserved_nodup := ?_, reserved_live := ?_, reserved_local := ?_,
                      settled := ?_ }
      · show (ownedBy (_ :: fs) ++ l.fresh).Nodup
        rw [howned]
        exact h.reserved_nodup
      · show ∀ id ∈ ownedBy (_ :: fs) ++ l.fresh, s.arena.Live id
        rw [howned]
        exact h.reserved_live
      · show ∀ id ∈ ownedBy (_ :: fs) ++ l.fresh, ¬s.globals.Refers id
        rw [howned]
        exact h.reserved_local
      · rw [hk]
        refine ⟨fun id hid => ?_, hset.2⟩
        exact hset.1 id (hid.imp (Bindings.refers_insert_scalar hna).mp fun h => h)

/-- A name that stands for no array becomes a global one. -/
theorem Sound.addGlobal {s : Scope} {l : Ledger} {name : String} {id : Nat} {arena : Arena}
    (h : Sound s l) (hna : ∀ id, s.globals[name]? ≠ some (.array id))
    (halloc : s.arena.alloc = (id, arena)) :
    Sound { s with arena, globals := s.globals.insert name (.array id) } l := by
  have hid := Arena.alloc_allocated h.arena halloc
  have hrefers : ∀ x, Bindings.Refers (s.globals.insert name (.array id)) x ↔
      s.globals.Refers x ∨ x = id := fun x => Bindings.refers_insert_array hna
  refine ⟨hid.sound, ?_, ?_, h.reserved_nodup, ?_, ?_, ?_⟩
  · intro x hx
    exact (hid.live_iff x).mpr (((hrefers x).mp hx).imp (h.globals_live x) fun h => h)
  · intro a b x ha hb
    simp only [Bindings.getElem?_insert] at ha hb
    split at ha <;> split at hb
    · next h₁ h₂ => exact h₁.symm.trans h₂
    · cases ha
      exact absurd (h.globals_live id ⟨b, hb⟩) hid.new
    · cases hb
      exact absurd (h.globals_live id ⟨a, ha⟩) hid.new
    · exact h.globals_injective a b x ha hb
  · intro x hx
    exact (hid.live_iff x).mpr (.inl (h.reserved_live x hx))
  · intro x hx hg
    rcases (hrefers x).mp hg with hg | rfl
    · exact h.reserved_local x hx hg
    · exact hid.new (h.reserved_live x hx)
  · exact h.settled.mono fun x hx => (hrefers x).mpr (.inl hx)

/-- A local that was never set becomes an array of its frame. -/
theorem Sound.addLocal {s : Scope} {l : Ledger} {f : Frame} {fs : List Frame} {name : String}
    {id : Nat} {arena : Arena} (h : Sound s l) (hf : s.frames = f :: fs)
    (hna : ∀ id, f.locals[name]? ≠ some (.array id)) (halloc : s.arena.alloc = (id, arena)) :
    Sound
      { s with
        arena
        frames := { locals := f.locals.insert name (.array id), owned := f.owned ++ [id] } :: fs }
      l := by
  have hid := Arena.alloc_allocated h.arena halloc
  have hset := h.settled
  rw [hf] at hset
  -- The new number stands between those of the frame and those below it.
  have hreserved : ∀ x, x ∈ ownedBy
      ({ locals := f.locals.insert name (.array id), owned := f.owned ++ [id] } :: fs) ++ l.fresh ↔
      x ∈ ownedBy s.frames ++ l.fresh ∨ x = id := by
    intro x
    rw [hf]
    simp only [ownedBy, List.flatMap_cons, List.mem_append, List.mem_singleton]
    constructor
    · rintro (((h | h) | h) | h) <;> simp [h]
    · rintro (((h | h) | h) | h) <;> simp [h]
  refine ⟨hid.sound, ?_, h.globals_injective, ?_, ?_, ?_, ?_⟩
  · intro x hx
    exact (hid.live_iff x).mpr (.inl (h.globals_live x hx))
  · have hnew : id ∉ ownedBy s.frames ++ l.fresh := fun hmem => hid.new (h.reserved_live id hmem)
    have hnodup := h.reserved_nodup
    rw [hf] at hnew hnodup
    simp only [ownedBy, List.flatMap_cons, List.append_assoc] at hnew hnodup ⊢
    exact List.nodup_middle.mpr (List.nodup_cons.mpr ⟨hnew, hnodup⟩)
  · intro x hx
    exact (hid.live_iff x).mpr (((hreserved x).mp hx).imp (h.reserved_live x) fun h => h)
  · intro x hx hg
    rcases (hreserved x).mp hx with hx | rfl
    · exact h.reserved_local x hx hg
    · exact hid.new (h.globals_live x hg)
  · cases hk : l.known with
    | nil => rw [hk] at hset; exact hset.elim
    | cons k ks =>
      rw [hk] at hset
      refine ⟨fun x hx => ?_, hset.2⟩
      have hmore : ∀ {y}, Anchored s.globals (f :: fs) y → Anchored s.globals
          ({ locals := f.locals.insert name (.array id), owned := f.owned ++ [id] } :: fs) y := by
        intro y hy
        refine hy.imp (fun h => h) fun h => ?_
        simp only [ownedBy, List.flatMap_cons, List.mem_append] at h ⊢
        exact h.imp .inl fun h => h
      rcases hx with hx | hx
      · rcases (Bindings.refers_insert_array hna).mp hx with hx | rfl
        · exact hmore (hset.1 x (.inl hx))
        · exact .inr (by simp [ownedBy])
      · exact hmore (hset.1 x (.inr hx))

theorem Sound.resolved {s s' : Scope} {l : Ledger} {name : String} {id : Nat} (h : Sound s l)
    (hr : Resolved name s id s') : Sound s' l ∧ Anchored s'.globals s'.frames id := by
  cases hr with
  | found hl => exact ⟨h, h.settled.lookup hl⟩
  | inFrame hf hu halloc =>
    refine ⟨h.addLocal hf (fun x hx => ?_) halloc, .inr ?_⟩
    · rw [hu] at hx
      cases hx
    · simp [ownedBy]
  | asGlobal hnone halloc =>
    refine ⟨h.addGlobal (fun x hx => ?_) halloc, .inl ⟨name, ?_⟩⟩
    · cases hnone _ hx
    · rw [Bindings.getElem?_insert, if_pos rfl]

theorem Sound.access {s : Scope} {l : Ledger} {α : Type} (h : Sound s l) (a : Access α) :
    Sound (after a.op s) l := by
  generalize hs' : after a.op s = s'
  have heffect : Effect s s' := hs' ▸ a.effect s
  cases heffect with
  | none hsame => exact h.sameNames hsame
  | assigned name v hna => exact h.assign hna v
  | resolved hr => exact (h.resolved hr).1
  | changed f hr =>
    obtain ⟨hsound, hid⟩ := h.resolved hr
    exact hsound.modifyTable (hsound.live_of_anchored hid) f

theorem Sound.note {s s' : Scope} {l : Ledger} {name : String} {id : Nat} (h : Sound s l)
    (hr : arrayId name s = .ok id s') : Sound s' (l.note id) := by
  obtain ⟨hsound, hid⟩ := h.resolved (arrayId_resolved hr)
  exact { hsound with settled := hsound.settled.note hid }

theorem Sound.setArgs {s : Scope} {l : Ledger} (h : Sound s l) (args : List String) :
    Sound (s.setArgs args) l := by
  have hargc : Sound { s with argc := .ofNat args.length } l := h.sameNames ⟨rfl, rfl, rfl⟩
  unfold Scope.setArgs
  dsimp only
  split
  · next id hid => exact hargc.modifyTable (h.globals_live id ⟨"ARGV", hid⟩) _
  · next hnone =>
    have halloc : s.arena.alloc = (s.arena.alloc.1, s.arena.alloc.2) := rfl
    have hid := Arena.alloc_allocated h.arena halloc
    have hadd := hargc.addGlobal hnone halloc
    exact hadd.modifyTable ((hid.live_iff _).mpr (.inr rfl)) _

theorem Sound.newArray {s s' : Scope} {l : Ledger} {id : Nat} (h : Sound s l)
    (hn : Scope.newArray s = .ok id s') : Sound s' { l with fresh := id :: l.fresh } := by
  have halloc : s.arena.alloc = (s.arena.alloc.1, s.arena.alloc.2) := rfl
  have hid := Arena.alloc_allocated h.arena halloc
  cases hn
  have hmem : ∀ x, x ∈ ownedBy s.frames ++ s.arena.alloc.1 :: l.fresh ↔
      x = s.arena.alloc.1 ∨ x ∈ ownedBy s.frames ++ l.fresh := by
    intro x
    simp only [List.mem_append, List.mem_cons]
    constructor
    · rintro (h | h | h) <;> simp [h]
    · rintro (h | h | h) <;> simp [h]
  refine ⟨hid.sound, ?_, h.globals_injective, ?_, ?_, ?_, h.settled⟩
  · intro x hx
    exact (hid.live_iff x).mpr (.inl (h.globals_live x hx))
  · refine List.nodup_middle.mpr (List.nodup_cons.mpr ⟨fun hx => ?_, h.reserved_nodup⟩)
    exact hid.new (h.reserved_live _ hx)
  · intro x hx
    rcases (hmem x).mp hx with rfl | hx
    · exact (hid.live_iff _).mpr (.inr rfl)
    · exact (hid.live_iff x).mpr (.inl (h.reserved_live x hx))
  · intro x hx hg
    rcases (hmem x).mp hx with rfl | hx
    · exact hid.new (h.globals_live _ hg)
    · exact h.reserved_local x hx hg

/-- Of bindings only those in the list are seen. -/
theorem refers_foldl {bindings : List (String × Binding)} {id : Nat} : ∀ {m : Bindings},
    Bindings.Refers (bindings.foldl (fun m (name, b) => m.insert name b) m) id →
      m.Refers id ∨ ∃ name, (name, .array id) ∈ bindings := by
  induction bindings with
  | nil =>
    intro m h
    exact .inl h
  | cons p bindings ih =>
    obtain ⟨name, b⟩ := p
    intro m h
    rcases ih h with ⟨other, ho⟩ | ⟨other, ho⟩
    · rw [Bindings.getElem?_insert] at ho
      split at ho
      · cases ho
        exact .inr ⟨name, List.mem_cons_self⟩
      · exact .inl ⟨other, ho⟩
    · exact .inr ⟨other, List.mem_cons_of_mem _ ho⟩

theorem Sound.push {s : Scope} {l : Ledger} {bindings : List (String × Binding)}
    {owned : List Nat} (h : Sound s l)
    (hb : ∀ name id, (name, .array id) ∈ bindings → id ∈ l.here ∨ id ∈ owned)
    (hnodup : owned.Nodup) (hfresh : ∀ id ∈ owned, id ∈ l.fresh) :
    Sound (s.pushFrame bindings owned) (l.enter owned) := by
  have hleft : ∀ x, x ∈ l.fresh.filter (fun id => !owned.contains id) ↔
      x ∈ l.fresh ∧ x ∉ owned := by
    intro x
    simp [List.mem_filter]
  -- What the frame owns moves from one part of the reserved numbers to the other.
  have hmem : ∀ x, x ∈ ownedBy (s.pushFrame bindings owned).frames ++ (l.enter owned).fresh →
      x ∈ ownedBy s.frames ++ l.fresh := by
    intro x hx
    simp only [pushFrame, Ledger.enter, ownedBy, List.flatMap_cons, List.mem_append, hleft] at hx ⊢
    rcases hx with (hx | hx) | hx
    · exact .inr (hfresh x hx)
    · exact .inl hx
    · exact .inr hx.1
  obtain ⟨howned, hfreshNodup, hdisjoint⟩ := List.nodup_append.mp h.reserved_nodup
  obtain ⟨k, ks, hks, hk⟩ := h.settled.here
  refine ⟨h.arena, h.globals_live, h.globals_injective, ?_,
    fun x hx => h.reserved_live x (hmem x hx),
    fun x hx => h.reserved_local x (hmem x hx), ?_, h.settled⟩
  · show ((owned ++ ownedBy s.frames) ++ l.fresh.filter fun id => !owned.contains id).Nodup
    refine List.nodup_append.mpr ⟨List.nodup_append.mpr ⟨hnodup, howned, ?_⟩,
      hfreshNodup.filter _, ?_⟩
    · intro a ha b hb hab
      exact hdisjoint b hb a (hfresh a ha) hab.symm
    · intro a ha b hb
      obtain ⟨hbf, hbo⟩ := (hleft b).mp hb
      rcases List.mem_append.mp ha with ha | ha
      · rintro rfl
        exact hbo ha
      · exact hdisjoint a ha b hbf
  · intro id hid
    rcases hid with hid | hid
    · rcases refers_foldl hid with ⟨name, hn⟩ | ⟨name, hn⟩
      · simp at hn
      · rcases hb name id hn with hh | hh
        · have hhere : id ∈ k := by
            rw [Ledger.here, hks] at hh
            exact hh
          exact (hk id hhere).below
        · exact .inr (List.mem_append_left _ hh)
    · cases hid

/-- What a frame owns can be given back with it: no frame below and no global can see
it. -/
theorem Sound.pop {s : Scope} {l : Ledger} (h : Sound s l) : Sound s.popFrame l.leave := by
  unfold popFrame
  have hset := h.settled
  split
  · next hf =>
    rw [hf] at hset
    have hleave : l.leave = l := by
      unfold Ledger.leave
      split
      · next hk => rw [hk] at hset; exact hset.elim
      · rfl
    rw [hleave]
    exact h
  · next f fs hf =>
    rw [hf] at hset
    obtain ⟨k, k', ks, hk, hks⟩ :
        ∃ k k' ks, l.known = k :: k' :: ks ∧ Settled s.globals fs (k' :: ks) := by
      cases hk : l.known with
      | nil => rw [hk] at hset; exact hset.elim
      | cons k rest =>
        rw [hk] at hset
        obtain ⟨k', ks, hrest, -⟩ := hset.2.here
        exact ⟨k, k', ks, by rw [hrest], hrest ▸ hset.2⟩
    have hleave : l.leave = { l with known := k' :: ks } := by
      unfold Ledger.leave
      rw [hk]
    have hsplit : ownedBy s.frames ++ l.fresh = f.owned ++ (ownedBy fs ++ l.fresh) := by
      rw [hf, ownedBy, List.flatMap_cons, List.append_assoc]
      rfl
    have hreserved := h.reserved_nodup
    rw [hsplit] at hreserved
    obtain ⟨howned, hrest, hdisjoint⟩ := List.nodup_append.mp hreserved
    have hmem : ∀ x ∈ ownedBy fs ++ l.fresh, x ∈ ownedBy s.frames ++ l.fresh := by
      intro x hx
      rw [hsplit]
      exact List.mem_append_right _ hx
    have hfo : ∀ x ∈ f.owned, x ∈ ownedBy s.frames ++ l.fresh := by
      intro x hx
      rw [hsplit]
      exact List.mem_append_left _ hx
    rw [hleave]
    refine ⟨Arena.releaseAll_sound h.arena howned fun x hx => h.reserved_live x (hfo x hx), ?_,
      h.globals_injective, hrest, ?_, fun x hx => h.reserved_local x (hmem x hx), hks⟩
    · intro x hx
      refine Arena.releaseAll_live.mpr ⟨h.globals_live x hx, fun hxo => ?_⟩
      exact h.reserved_local x (hfo x hxo) hx
    · intro x hx
      refine Arena.releaseAll_live.mpr ⟨h.reserved_live x (hmem x hx), fun hxo => ?_⟩
      exact hdisjoint x hxo x hx rfl

theorem Step.sound {a b : Scope × Ledger} (hstep : Step a b) (h : Sound a.1 a.2) :
    Sound b.1 b.2 := by
  cases hstep with
  | access a s l => exact h.access a
  | resolve l hr => exact h.note hr
  | change f s hid => exact h.modifyTable (h.told_live hid) f
  | setRecord text s l => exact h.sameNames (setRecord_sameNames text s)
  | setField i text s l => exact h.sameNames (setField_sameNames i text s)
  | setArgs args s l => exact h.setArgs args
  | newArray l hn => exact h.newArray hn
  | push s hb hnodup hfresh => exact h.push hb hnodup hfresh
  | pop s l => exact h.pop

/-! ## All scopes that can arise -/

theorem empty_sound {s : Scope} (hg : s.globals = ∅) (ha : s.arena = .empty)
    (hf : s.frames = []) : Sound s .start := by
  have hnone : ∀ id, ¬s.globals.Refers id := by
    rintro id ⟨name, hn⟩
    rw [hg] at hn
    simp at hn
  refine ⟨?_, fun id hid => absurd hid (hnone id), fun a b id ha' _ => absurd ⟨a, ha'⟩ (hnone id),
    ?_, ?_, ?_, ?_⟩
  · rw [ha]
    exact ⟨fun _ hid => (nomatch hid), List.nodup_nil, fun _ hid => (nomatch hid)⟩
  · rw [hf]
    exact List.nodup_nil
  · rw [hf]
    intro id hid
    cases hid
  · rw [hf]
    intro id hid
    cases hid
  · rw [hf]
    intro id hid
    cases hid

theorem initial_sound (environment : List (String × String)) :
    Sound (initial environment) .start := by
  let bare : Scope := { initial environment with globals := ∅, arena := .empty, frames := [] }
  have hbare : Sound bare .start := empty_sound rfl rfl rfl
  have halloc : bare.arena.alloc = (0, Arena.empty.alloc.2) := rfl
  have hid := Arena.alloc_allocated hbare.arena halloc
  have hnone : ∀ id, bare.globals["ENVIRON"]? ≠ some (.array id) := by
    intro id hn
    simp [bare] at hn
  have hadd := hbare.addGlobal hnone halloc
  have hset := hadd.modifyTable ((hid.live_iff 0).mpr (.inr rfl))
    fun _ => environment.foldl (fun t entry => t.insert entry.1 (.ofText entry.2)) Table.empty
  exact (hset.sameNames ⟨rfl, rfl, rfl⟩).setArgs ["awk-ai"]

theorem Reachable.sound {environment : List (String × String)} {a : Scope × Ledger}
    (h : Reachable environment a) : Sound a.1 a.2 := by
  induction h with
  | start => exact initial_sound environment
  | step _ hstep ih => exact hstep.sound ih

/-- Arrays do not run into each other: every number in use is that of an array, a number
to be used again is seen from nowhere and its array is empty, and neither two frames nor
two global names have an array in common that is theirs alone. -/
structure ArraysApart (s : Scope) : Prop where
  global_lt : ∀ id, s.globals.Refers id → id < s.arena.tables.size
  local_lt : ∀ f ∈ s.frames, ∀ id, f.locals.Refers id → id < s.arena.tables.size
  owned_lt : ∀ f ∈ s.frames, ∀ id ∈ f.owned, id < s.arena.tables.size
  free_lt : ∀ id ∈ s.arena.free, id < s.arena.tables.size
  free_nodup : s.arena.free.Nodup
  free_vacant : ∀ id ∈ s.arena.free, s.table id = Table.empty
  free_global : ∀ id ∈ s.arena.free, ¬s.globals.Refers id
  free_local : ∀ id ∈ s.arena.free, ∀ f ∈ s.frames, ¬f.locals.Refers id
  free_owned : ∀ id ∈ s.arena.free, ∀ f ∈ s.frames, id ∉ f.owned
  owned_nodup : (ownedBy s.frames).Nodup
  owned_global : ∀ id ∈ ownedBy s.frames, ¬s.globals.Refers id
  global_injective : ∀ (a b : String) (id : Nat),
    s.globals[a]? = some (.array id) → s.globals[b]? = some (.array id) → a = b

theorem Sound.arraysApart {s : Scope} {l : Ledger} (h : Sound s l) : ArraysApart s := by
  have howned : ∀ f ∈ s.frames, ∀ id ∈ f.owned, s.arena.Live id := fun f hf id hid =>
    h.reserved_live id (List.mem_append_left _ (List.mem_flatMap.mpr ⟨f, hf, hid⟩))
  have hlocal : ∀ f ∈ s.frames, ∀ id, f.locals.Refers id → s.arena.Live id := fun f hf id hid =>
    h.live_of_anchored (h.settled.local_anchored f hf id hid)
  exact
    { global_lt := fun id hid => (h.globals_live id hid).1
      local_lt := fun f hf id hid => (hlocal f hf id hid).1
      owned_lt := fun f hf id hid => (howned f hf id hid).1
      free_lt := h.arena.lt
      free_nodup := h.arena.nodup
      free_vacant := h.arena.vacant
      free_global := fun id hid hg => (h.globals_live id hg).2 hid
      free_local := fun id hid f hf hl => (hlocal f hf id hl).2 hid
      free_owned := fun id hid f hf ho => (howned f hf id ho).2 hid
      owned_nodup := (List.nodup_append.mp h.reserved_nodup).1
      owned_global := fun id hid => h.reserved_local id (List.mem_append_left _ hid)
      global_injective := h.globals_injective }

/-- A new array is empty, and nothing refers to it. -/
theorem Sound.newArray_unseen {s : Scope} {l : Ledger} (h : Sound s l) :
    ∃ id s', Scope.newArray s = .ok id s' ∧ s'.table id = Table.empty ∧
      ¬s'.globals.Refers id ∧ ∀ f ∈ s'.frames, ¬f.locals.Refers id ∧ id ∉ f.owned := by
  have halloc : s.arena.alloc = (s.arena.alloc.1, s.arena.alloc.2) := rfl
  have hid := Arena.alloc_allocated h.arena halloc
  refine ⟨_, _, rfl, hid.vacant, fun hg => hid.new (h.globals_live _ hg), fun f hf => ⟨?_, ?_⟩⟩
  · intro hl
    exact hid.new (h.live_of_anchored (h.settled.local_anchored f hf _ hl))
  · intro ho
    exact hid.new (h.live_of_anchored (.inr (List.mem_flatMap.mpr ⟨f, hf, ho⟩)))

/-- However a scope is used, its arrays stay apart, and a new array is one that nothing
can see. -/
theorem reachable_arraysApart {environment : List (String × String)} {s : Scope} {l : Ledger}
    (h : Reachable environment (s, l)) :
    ArraysApart s ∧ ∃ id s', Scope.newArray s = .ok id s' ∧ s'.table id = Table.empty ∧
      ¬s'.globals.Refers id ∧ ∀ f ∈ s'.frames, ¬f.locals.Refers id ∧ id ∉ f.owned :=
  ⟨h.sound.arraysApart, h.sound.newArray_unseen⟩

/-- A call gets array 2 of its caller and array 3 of its own, and turns a local that was
never set into array 4.  When it returns, the last two can be used again. -/
theorem reachable_arraysApart_behind_call :
    let caller := after Scope.newArray (after (arrayId "data") (initial []))
    let callee := caller.pushFrame
      [("shared", .array 2), ("own", .array 3), ("unset", .scalar .uninit)] [3]
    let s := popFrame (after (setElement "unset" "key" .uninit) callee)
    s.arena.free = [4, 3] ∧ ArraysApart s := by
  refine ⟨rfl, ?_⟩
  have hdata : arrayId "data" (initial []) = .ok 2 (after (arrayId "data") (initial [])) := rfl
  have hown : Scope.newArray (after (arrayId "data") (initial [])) =
      .ok 3 (after Scope.newArray (after (arrayId "data") (initial []))) := rfl
  have hstart : Reachable [] (initial [], .start) := .start
  have hcaller := (hstart.step (.resolve _ hdata)).step (.newArray _ hown)
  have hbindings : ∀ (name : String) (id : Nat), (name, Binding.array id) ∈
      [("shared", .array 2), ("own", .array 3), ("unset", .scalar .uninit)] →
        id ∈ [2] ∨ id ∈ [3] := by
    intro name id hb
    simp only [List.mem_cons, Prod.mk.injEq, Binding.array.injEq, reduceCtorEq, and_false,
      List.not_mem_nil, or_false] at hb
    rcases hb with ⟨-, rfl⟩ | ⟨-, rfl⟩
    · exact .inl List.mem_cons_self
    · exact .inr List.mem_cons_self
  have hcallee := hcaller.step (.push _ hbindings (List.nodup_singleton 3) fun id hid => hid)
  have hset := hcallee.step (.access (.setElement "unset" "key" .uninit) _ _)
  exact (reachable_arraysApart (hset.step (.pop _ _))).1

end Scope
end Awk
