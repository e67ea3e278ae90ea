/-!
# Computations that carry a state

An operation on a scope and a computation on a machine are of one kind: they end with a
value or stop, and leave a state behind in both cases.
-/

namespace Awk

variable {ε σ α β : Type}

/-- The state behind a computation, however it ends. -/
def after (x : EStateM ε σ α) (s : σ) : σ :=
  match x s with
  | .ok _ s' => s'
  | .error _ s' => s'

theorem after_of_ok {x : EStateM ε σ α} {s s₁ : σ} {a : α} (h : x s = .ok a s₁) :
    after x s = s₁ := by
  rw [after, h]

theorem after_of_error {x : EStateM ε σ α} {s s₁ : σ} {e : ε} (h : x s = .error e s₁) :
    after x s = s₁ := by
  rw [after, h]

theorem after_congr {x y : EStateM ε σ α} {s : σ} (h : x s = y s) : after x s = after y s := by
  rw [after, h, after]

theorem ok_of_toOption {x : Except ε α} {a : α} (h : x.toOption = some a) : x = .ok a := by
  cases x with
  | error e => cases h
  | ok b =>
    cases h
    rfl

/-- What is found in the answer is found only if there is an answer. -/
theorem exists_ok_of_bind {x : Except ε α} {f : α → Option β} {b : β}
    (h : x.toOption.bind f = some b) : ∃ a, x = .ok a ∧ f a = some b := by
  obtain ⟨a, ha, hb⟩ := Option.bind_eq_some_iff.mp h
  exact ⟨a, ok_of_toOption ha, hb⟩

theorem get_run (s : σ) : (get : EStateM ε σ σ) s = .ok s s := rfl

/-! ## One computation after another -/

theorem bind_run (x : EStateM ε σ α) (f : α → EStateM ε σ β) (s : σ) :
    (x >>= f) s =
      match x s with
      | .ok a s₁ => f a s₁
      | .error e s₁ => .error e s₁ := rfl

theorem bind_of_ok {x : EStateM ε σ α} {f : α → EStateM ε σ β} {s s₁ : σ} {a : α}
    (h : x s = .ok a s₁) : (x >>= f) s = f a s₁ := by
  rw [bind_run, h]

theorem bind_of_error {x : EStateM ε σ α} {f : α → EStateM ε σ β} {s s₁ : σ} {e : ε}
    (h : x s = .error e s₁) : (x >>= f) s = .error e s₁ := by
  rw [bind_run, h]

theorem after_bind_of_ok {x : EStateM ε σ α} {f : α → EStateM ε σ β} {s s₁ : σ} {a : α}
    (h : x s = .ok a s₁) : after (x >>= f) s = after (f a) s₁ := by
  rw [after, bind_of_ok h, after]

theorem after_bind_of_error {x : EStateM ε σ α} {f : α → EStateM ε σ β} {s s₁ : σ} {e : ε}
    (h : x s = .error e s₁) : after (x >>= f) s = s₁ := by
  rw [after, bind_of_error h]

theorem after_bind_pure (x : EStateM ε σ α) (f : α → β) (s : σ) :
    after (do return f (← x)) s = after x s := by
  cases h : x s with
  | ok a s₁ => exact (after_bind_of_ok h).trans (after_of_ok h).symm
  | error e s₁ => exact (after_bind_of_error h).trans (after_of_error h).symm

/-- Steps that change nothing change nothing together. -/
theorem after_bind_self {x : EStateM ε σ α} {f : α → EStateM ε σ β} {s : σ} (hx : after x s = s)
    (hf : ∀ a, after (f a) s = s) : after (x >>= f) s = s := by
  cases h : x s with
  | ok a s₁ =>
    rw [after_of_ok h] at hx
    rw [after_bind_of_ok h, hx]
    exact hf a
  | error e s₁ =>
    rw [after_of_error h] at hx
    rw [after_bind_of_error h, hx]

/-- What ends with a value has ended with one at the first step as well. -/
theorem bind_ok_inv {x : EStateM ε σ α} {f : α → EStateM ε σ β} {s s₂ : σ} {b : β}
    (h : (x >>= f) s = .ok b s₂) : ∃ a s₁, x s = .ok a s₁ ∧ f a s₁ = .ok b s₂ := by
  cases hx : x s with
  | ok a s₁ => exact ⟨a, s₁, rfl, (bind_of_ok hx).symm.trans h⟩
  | error e s₁ =>
    rw [bind_of_error hx] at h
    cases h

/-- What is true between the states before and behind each of two steps, and can be put
together, is true between those before and behind both. -/
theorem after_bind_trans {R : σ → σ → Prop} (htrans : ∀ s₁ s₂ s₃, R s₁ s₂ → R s₂ s₃ → R s₁ s₃)
    {x : EStateM ε σ α} {f : α → EStateM ε σ β} (hx : ∀ s, R s (after x s))
    (hf : ∀ a s, R s (after (f a) s)) (s : σ) : R s (after (x >>= f) s) := by
  have hs := hx s
  cases hrun : x s with
  | error e s₁ =>
    rw [after_of_error hrun] at hs
    rw [after_bind_of_error hrun]
    exact hs
  | ok a s₁ =>
    rw [after_of_ok hrun] at hs
    rw [after_bind_of_ok hrun]
    exact htrans s s₁ _ hs (hf a s₁)

/-! ## What a computation does not look at -/

/-- The outcome with a change made to the state. -/
def mapState (f : σ → σ) : EStateM.Result ε σ α → EStateM.Result ε σ α
  | .ok a s => .ok a (f s)
  | .error e s => .error e (f s)

/-- A change to the state before the computation could as well be made behind it, so that the
computation neither looks at what is changed nor changes it. -/
def Commutes (f : σ → σ) (x : EStateM ε σ α) : Prop := ∀ s, x (f s) = mapState f (x s)

namespace Commutes

variable {f : σ → σ}

theorem pure (a : α) : Commutes f (pure a : EStateM ε σ α) := fun _ => rfl

theorem stop (e : ε) : Commutes f (throw e : EStateM ε σ α) := fun _ => rfl

theorem bind {x : EStateM ε σ α} {g : α → EStateM ε σ β} (hx : Commutes f x)
    (hg : ∀ a, Commutes f (g a)) : Commutes f (x >>= g) := by
  intro s
  rw [bind_run, bind_run, hx s]
  cases x s with
  | ok a s₁ => exact hg a s₁
  | error e s₁ => rfl

theorem gets {g : σ → α} (hg : ∀ s, g (f s) = g s) :
    Commutes f (do return g (← get) : EStateM ε σ α) := by
  intro s
  show EStateM.Result.ok (g (f s)) (f s) = .ok (g s) (f s)
  rw [hg s]

theorem modify {g : σ → σ} (hg : ∀ s, g (f s) = f (g s)) :
    Commutes f (modify g : EStateM ε σ Unit) := by
  intro s
  show EStateM.Result.ok () (g (f s)) = .ok () (f (g s))
  rw [hg s]

end Commutes

end Awk
