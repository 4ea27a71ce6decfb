import Mathlib.Order.Defs.Unbundled
import DeployPlan.Proofs.Recording

/-!
# Where a run may take the state

`Along r x` says that `x`, from wherever it starts and however it ends, takes the state along the
relation `r`, which is a preorder: nothing is done along it, and one part after the other is done
along it if both are. `StateAlong` is the same for computations that cannot fail. There is one rule
for each way in which parts are put together.
-/

namespace DeployPlan

variable {σ α β : Type} {r : σ → σ → Prop}

/-- The computation takes the state along `r`. -/
def StateAlong (r : σ → σ → Prop) (x : StateM σ α) : Prop :=
  ∀ s, r s (x.run s).2

/-- The computation takes the state along `r`, whether it fails or not. -/
def Along (r : σ → σ → Prop) (x : ExceptT Error (StateM σ) α) : Prop :=
  StateAlong r x.run

namespace StateAlong

theorem mono {r' : σ → σ → Prop} {x : StateM σ α} (h : StateAlong r x)
    (hr : ∀ s s', r s s' → r' s s') : StateAlong r' x :=
  fun s => hr s _ (h s)

theorem ite {c : Prop} [Decidable c] {x y : StateM σ α} (h : StateAlong r x)
    (h' : StateAlong r y) : StateAlong r (if c then x else y) := by
  split
  · exact h
  · exact h'

variable [IsPreorder σ r]

protected theorem pure (a : α) : StateAlong r (pure a : StateM σ α) :=
  fun s => refl_of r s

protected theorem bind {x : StateM σ α} {f : α → StateM σ β} (h : StateAlong r x)
    (hf : ∀ a, StateAlong r (f a)) : StateAlong r (x >>= f) :=
  fun s => trans_of r (h s) (hf _ _)

end StateAlong

namespace Along

variable {x y : ExceptT Error (StateM σ) α} {f : α → ExceptT Error (StateM σ) β}

theorem ite {c : Prop} [Decidable c] (h : Along r x) (h' : Along r y) :
    Along r (if c then x else y) := by
  split
  · exact h
  · exact h'

variable [IsPreorder σ r]

protected theorem pure (a : α) : Along r (pure a : ExceptT Error (StateM σ) α) :=
  StateAlong.pure (Except.ok a)

protected theorem throw (e : Error) : Along r (throw e : ExceptT Error (StateM σ) α) :=
  StateAlong.pure (Except.error e)

theorem ofExcept (result : Except Error α) :
    Along r (liftM result : ExceptT Error (StateM σ) α) :=
  StateAlong.pure result

theorem bindFrom (h : Along r x)
    (hf : ∀ s a t, runFrom x s = (.ok a, t) → r t (runFrom (f a) t).2) : Along r (x >>= f) := by
  intro s
  show r s (runFrom (x >>= f) s).2
  have hx : r s (runFrom x s).2 := h s
  have hrest := hf s
  rw [runFrom_bind]
  revert hx hrest
  rcases runFrom x s with ⟨e | a, t⟩
  · exact fun hx _ => hx
  · exact fun hx hrest => trans_of r hx (hrest a t rfl)

theorem bindYields {P : α → Prop} (h : Along r x) (hy : Yields x P)
    (hf : ∀ a, P a → Along r (f a)) : Along r (x >>= f) :=
  bindFrom h fun s a t hx => hf a (hy s a (congrArg Prod.fst hx)) t

protected theorem bind (h : Along r x) (hf : ∀ a, Along r (f a)) : Along r (x >>= f) :=
  bindYields h (.trivial x) fun a _ => hf a

theorem bindState {z : StateM σ α} (h : StateAlong r z) (hf : ∀ a, Along r (f a)) :
    Along r (liftM z >>= f) :=
  Along.bind (fun s => h s) hf

theorem bindExcept {result : Except Error α} (hf : ∀ a, Along r (f a)) :
    Along r (liftM result >>= f) :=
  Along.bind (ofExcept result) hf

end Along

end DeployPlan
