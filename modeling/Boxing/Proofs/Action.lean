import Boxing.Fault
import Mathlib.Order.Defs.Unbundled

/-!
# Actions on a state

An action answers or breaks off, and leaves a state either way (`stateAfter`). `Keeps R act`: the
state before and the state after are in the relation `R`, however `act` ends. A preorder is kept by
a sequence of actions when each of them keeps it (`keeps_bind`).

The remaining lemmas run an action whose parts are known, one part at a time.
-/

set_option autoImplicit false

namespace Boxing

section
variable {ε σ α β : Type}

/-- The state that an action leaves. -/
def stateAfter : EStateM.Result ε σ α → σ
  | .ok _ s => s
  | .error _ s => s

/-! ## Running a sequence -/

theorem bind_of_ok {x : EStateM ε σ α} {f : α → EStateM ε σ β} {s s' : σ} {a : α}
    (h : x s = .ok a s') : (x >>= f) s = f a s' := by
  simp only [bind, EStateM.bind, h]

theorem bind_of_error {x : EStateM ε σ α} {f : α → EStateM ε σ β} {s s' : σ} {e : ε}
    (h : x s = .error e s') : (x >>= f) s = .error e s' := by
  simp only [bind, EStateM.bind, h]

theorem bind_get {f : σ → EStateM ε σ β} {s : σ} : (EStateM.get >>= f) s = f s s := rfl

/-- A sequence answers what its second part answers after the first. -/
theorem bind_ok {x : EStateM ε σ α} {f : α → EStateM ε σ β} {s s' : σ} {b : β}
    (h : (x >>= f) s = .ok b s') : ∃ a s₁, x s = .ok a s₁ ∧ f a s₁ = .ok b s' := by
  cases hx : x s with
  | ok a s₁ => exact ⟨a, s₁, rfl, by rwa [bind_of_ok hx] at h⟩
  | error e s₁ =>
    rw [bind_of_error hx] at h
    cases h

theorem map_of_ok {x : EStateM ε σ α} {f : α → β} {s s' : σ} {a : α} (h : x s = .ok a s') :
    (f <$> x) s = .ok (f a) s' := by
  simp only [Functor.map, EStateM.map, h]

theorem map_of_error {x : EStateM ε σ α} {f : α → β} {s s' : σ} {e : ε} (h : x s = .error e s') :
    (f <$> x) s = .error e s' := by
  simp only [Functor.map, EStateM.map, h]

theorem stateAfter_map (f : α → β) (x : EStateM ε σ α) (s : σ) :
    stateAfter ((f <$> x) s) = stateAfter (x s) := by
  cases h : x s with
  | ok a s' => rw [map_of_ok h]; rfl
  | error e s' => rw [map_of_error h]; rfl

/-! ## Relations that are kept -/

/-- Every run of `act` leads from a state to one that is related to it by `R`. -/
def Keeps (R : σ → σ → Prop) (act : EStateM ε σ α) : Prop := ∀ s, R s (stateAfter (act s))

variable {R : σ → σ → Prop}

theorem Keeps.of_ok {act : EStateM ε σ α} (h : Keeps R act) {s s' : σ} {a : α}
    (ha : act s = .ok a s') : R s s' := by
  have := h s
  rwa [ha] at this

theorem Keeps.of_error {act : EStateM ε σ α} (h : Keeps R act) {s s' : σ} {e : ε}
    (ha : act s = .error e s') : R s s' := by
  have := h s
  rwa [ha] at this

theorem keeps_map {x : EStateM ε σ α} (f : α → β) (hx : Keeps R x) : Keeps R (f <$> x) := by
  intro s
  rw [stateAfter_map]
  exact hx s

variable [IsPreorder σ R]

theorem keeps_pure (a : α) : Keeps R (pure a : EStateM ε σ α) := fun s => refl s

theorem keeps_throw (e : ε) : Keeps R (throw e : EStateM ε σ α) := fun s => refl s

theorem keeps_get : Keeps R (EStateM.get : EStateM ε σ σ) := fun s => refl s

theorem keeps_bind {x : EStateM ε σ α} {f : α → EStateM ε σ β} (hx : Keeps R x)
    (hf : ∀ a, Keeps R (f a)) : Keeps R (x >>= f) := by
  intro s
  cases h : x s with
  | ok a s' =>
    rw [bind_of_ok h]
    exact trans_of R (hx.of_ok h) (hf a s')
  | error e s' =>
    rw [bind_of_error h]
    exact hx.of_error h

/-- A check leaves the state alone. -/
theorem keeps_lift {R : σ → σ → Prop} [IsPreorder σ R] (x : Except Fault α) :
    Keeps R (liftM x : EStateM Fault σ α) := by
  intro s
  cases x <;> exact refl s

end

theorem lift_ok {σ α : Type} {x : Except Fault α} {a : α} (h : x = .ok a) (s : σ) :
    (liftM x : EStateM Fault σ α) s = .ok a s := by
  rw [h]
  rfl

theorem lift_error {σ α : Type} {x : Except Fault α} {f : Fault} (h : x = .error f) (s : σ) :
    (liftM x : EStateM Fault σ α) s = .error f s := by
  rw [h]
  rfl

end Boxing
