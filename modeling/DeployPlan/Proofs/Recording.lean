import DeployPlan.Error
import Mathlib.Data.List.Induction

/-!
# Runs and records of calls

Whoever is asked in a run is an arbitrary function of the question and of a state, which holds all
that happened before: computations here live in `StateM σ`, for any `σ`. `runFrom` is what such a
computation ends with, and `Yields` says what is certain of every success.

A `Recording` carries a list of calls beside the state. `note` adds one call to it, and
`Notes φ x y s Q` says that the recording `x` does what the plain computation `y` does from `s`
(its result changed by `φ`), and adds calls of which, with the result and the last state of `y`,
`Q` holds. `Records` is the same for computations that may fail. The rules `Notes.bind` and
`Records.bind` put such facts together, part after part.
-/

namespace DeployPlan

variable {ε σ α β γ δ : Type}

/-- What a computation ends with when it starts in `s`, and the state that it leaves. -/
def runFrom (x : ExceptT Error (StateM σ) α) (s : σ) : Except Error α × σ :=
  x.run.run s

theorem runFrom_bind (x : ExceptT Error (StateM σ) α) (f : α → ExceptT Error (StateM σ) β)
    (s : σ) :
    runFrom (x >>= f) s = match runFrom x s with
      | (.ok a, t) => runFrom (f a) t
      | (.error e, t) => (.error e, t) := by
  rw [runFrom, runFrom, ExceptT.run_bind, StateT.run_bind]
  rcases x.run.run s with ⟨_ | a, t⟩ <;> rfl

theorem run_bind_of_run {x : StateM σ α} {a : α} {s t : σ} (f : α → StateM σ β)
    (h : x.run s = (a, t)) : (x >>= f).run s = (f a).run t := by
  rw [StateT.run_bind, h]
  rfl

theorem runFrom_bind_of_eq {x : ExceptT Error (StateM σ) α} {f : α → ExceptT Error (StateM σ) β}
    {s t : σ} {a : α} (h : runFrom x s = (.ok a, t)) : runFrom (x >>= f) s = runFrom (f a) t := by
  rw [runFrom_bind, h]

/-- A part of a run that fails ends it. -/
theorem runFrom_bind_of_error {x : ExceptT Error (StateM σ) α}
    {f : α → ExceptT Error (StateM σ) β} {s t : σ} {e : Error}
    (h : runFrom x s = (.error e, t)) : runFrom (x >>= f) s = (.error e, t) := by
  rw [runFrom_bind, h]

theorem runFrom_bindState {x : StateM σ α} {f : α → ExceptT Error (StateM σ) β} {s t : σ} {a : α}
    (h : x.run s = (a, t)) : runFrom (liftM x >>= f) s = runFrom (f a) t := by
  refine runFrom_bind_of_eq ?_
  rw [runFrom, ExceptT.run_liftM, StateT.run_map, h]
  rfl

theorem runFrom_bindExcept {r : Except Error α} {f : α → ExceptT Error (StateM σ) β} {s : σ} {a : α}
    (h : r = .ok a) : runFrom (liftM r >>= f) s = runFrom (f a) s := by
  refine runFrom_bind_of_eq ?_
  rw [h]
  rfl

/-- A run whose result is worked on without asking anybody. -/
theorem runFrom_map {x : ExceptT Error (StateM σ) α} {s t : σ} {r : Except Error α}
    (h : runFrom x s = (r, t)) (f : α → β) :
    runFrom (x >>= fun a => pure (f a)) s = (r.map f, t) := by
  rw [runFrom_bind, h]
  cases r <;> rfl

theorem runFrom_liftM (r : Except Error α) (s : σ) :
    runFrom (liftM r : ExceptT Error (StateM σ) α) s = (r, s) := by
  cases r <;> rfl

/-- A run that succeeds consists of parts that succeed. -/
theorem runFrom_bind_eq_ok {x : ExceptT Error (StateM σ) α} {f : α → ExceptT Error (StateM σ) β}
    {s : σ} {b : β} :
    (runFrom (x >>= f) s).1 = .ok b ↔
      ∃ a t, runFrom x s = (.ok a, t) ∧ (runFrom (f a) t).1 = .ok b := by
  rw [runFrom_bind]
  rcases runFrom x s with ⟨_ | a, t⟩
  · simp
  · constructor
    · intro h
      exact ⟨a, t, rfl, h⟩
    · rintro ⟨_, _, h, hb⟩
      cases h
      exact hb

theorem eq_ok_of_toOption {r : Except ε α} {a : α} (h : r.toOption = some a) : r = .ok a := by
  cases r with
  | error e => cases h
  | ok b =>
    cases h
    rfl

theorem bind_eq_ok {r : Except ε α} {f : α → Except ε β} {b : β} :
    r >>= f = .ok b ↔ ∃ a, r = .ok a ∧ f a = .ok b := by
  cases r with
  | error e => simp [bind, Except.bind]
  | ok a => simp [bind, Except.bind]

/-- What holds at first and is kept by every step holds of what a fold yields. It may speak of the
elements that have been gone through. -/
theorem of_foldlM {f : β → α → Except ε β} {P : List α → β → Prop} {b : β}
    (hfirst : P [] b) (hstep : ∀ l c a d, P l c → f c a = .ok d → P (l ++ [a]) d) {l : List α}
    {c : β} (h : l.foldlM f b = .ok c) : P l c := by
  induction l using List.reverseRecOn generalizing c with
  | nil =>
    cases h
    exact hfirst
  | append_singleton l a ih =>
    rw [List.foldlM_append] at h
    obtain ⟨before, hbefore, h⟩ := bind_eq_ok.mp h
    obtain ⟨after, hafter, h⟩ := bind_eq_ok.mp h
    cases h
    exact hstep l before a c (ih hbefore) hafter

/-- Whatever the computation succeeds with, from wherever it starts, has a property. -/
def Yields (x : ExceptT Error (StateM σ) α) (P : α → Prop) : Prop :=
  ∀ s a, (runFrom x s).1 = .ok a → P a

namespace Yields

theorem trivial (x : ExceptT Error (StateM σ) α) : Yields x fun _ => True :=
  fun _ _ _ => True.intro

theorem mono {x : ExceptT Error (StateM σ) α} {P Q : α → Prop} (h : Yields x P)
    (hq : ∀ a, P a → Q a) : Yields x Q :=
  fun s a ha => hq a (h s a ha)

protected theorem pure {P : α → Prop} {a : α} (h : P a) :
    Yields (Pure.pure a : ExceptT Error (StateM σ) α) P := by
  rintro s _ ⟨⟩
  exact h

theorem throw {P : α → Prop} (e : Error) : Yields (throw e : ExceptT Error (StateM σ) α) P :=
  nofun

theorem throw_bind {P : β → Prop} (e : Error) (f : α → ExceptT Error (StateM σ) β) :
    Yields (MonadExcept.throw e >>= f) P :=
  nofun

theorem ite {c : Prop} [Decidable c] {x y : ExceptT Error (StateM σ) α} {P : α → Prop}
    (hx : Yields x P) (hy : Yields y P) : Yields (if c then x else y) P := by
  split
  · exact hx
  · exact hy

theorem ofExcept {r : Except Error α} {P : α → Prop} (h : ∀ a, r = .ok a → P a) :
    Yields (liftM r : ExceptT Error (StateM σ) α) P := by
  cases r with
  | error e => exact nofun
  | ok a =>
    rintro s _ ⟨⟩
    exact h a rfl

protected theorem bind {x : ExceptT Error (StateM σ) α} {f : α → ExceptT Error (StateM σ) β}
    {P : α → Prop} {Q : β → Prop} (h : Yields x P) (hf : ∀ a, P a → Yields (f a) Q) :
    Yields (x >>= f) Q := by
  intro s b hb
  obtain ⟨a, t, ha, hb⟩ := runFrom_bind_eq_ok.mp hb
  exact hf a (h s a (congrArg Prod.fst ha)) t b hb

theorem bindExcept {r : Except Error α} {a : α} {f : α → ExceptT Error (StateM σ) β} {Q : β → Prop}
    (hr : r = .ok a) (hf : Yields (f a) Q) : Yields (liftM r >>= f) Q := by
  intro s b hb
  rw [runFrom_bindExcept hr] at hb
  exact hf s b hb

end Yields

/-- Computations that carry a list of calls beside their state. -/
abbrev Recording (ε σ : Type) := StateM (σ × List ε)

/-- The computation `x`, noting the call that it was. -/
def note (call : α → ε) (x : StateM σ α) : Recording ε σ α := fun (s, log) =>
  let (a, t) := x.run s
  (a, t, log ++ [call a])

/-- The recording `x` does what `y` does from `s`, its result changed by `φ`, and notes calls; `Q`
holds of them and of what `y` ends with. -/
def Notes (φ : α → β) (x : Recording ε σ β) (y : StateM σ α) (s : σ)
    (Q : List ε → α → σ → Prop) : Prop :=
  ∃ calls, (∀ log, x.run (s, log) = (φ (y.run s).1, (y.run s).2, log ++ calls)) ∧
    Q calls (y.run s).1 (y.run s).2

namespace Notes

theorem mono {φ : α → β} {x : Recording ε σ β} {y : StateM σ α} {s : σ}
    {P Q : List ε → α → σ → Prop} (h : Notes φ x y s P) (hq : ∀ c a t, P c a t → Q c a t) :
    Notes φ x y s Q := by
  obtain ⟨calls, hx, hp⟩ := h
  exact ⟨calls, hx, hq _ _ _ hp⟩

/-- What is said of a recording may use what the plain computation ends with. -/
theorem with_run {φ : α → β} {x : Recording ε σ β} {y : StateM σ α} {s : σ}
    {Q : List ε → α → σ → Prop} (h : Notes φ x y s Q) :
    Notes φ x y s fun c a t => Q c a t ∧ y.run s = (a, t) := by
  obtain ⟨calls, hx, hq⟩ := h
  exact ⟨calls, hx, hq, rfl⟩

protected theorem pure (φ : α → β) (a : α) {s : σ} {Q : List ε → α → σ → Prop} (h : Q [] a s) :
    Notes φ (Pure.pure (φ a)) (Pure.pure a) s Q := by
  refine ⟨[], fun log => ?_, h⟩
  rw [List.append_nil]
  rfl

protected theorem bind {φ : α → β} {ψ : γ → δ} {x : Recording ε σ β} {y : StateM σ α} {s : σ}
    {f : β → Recording ε σ δ} {g : α → StateM σ γ} {P : List ε → α → σ → Prop}
    {Q : List ε → γ → σ → Prop} (h : Notes φ x y s P)
    (hf : ∀ c a t, P c a t → Notes ψ (f (φ a)) (g a) t fun d b u => Q (c ++ d) b u) :
    Notes ψ (x >>= f) (y >>= g) s Q := by
  obtain ⟨c, hx, hp⟩ := h
  obtain ⟨d, hd, hq⟩ := hf _ _ _ hp
  refine ⟨c ++ d, fun log => ?_, hq⟩
  show (f (x.run (s, log)).1).run (x.run (s, log)).2 = _
  rw [hx, hd, List.append_assoc]
  rfl

theorem of_note (call : α → ε) (x : StateM σ α) (s : σ) :
    Notes id (note call x) x s fun calls a _ => calls = [call a] :=
  ⟨_, fun _ => rfl, rfl⟩

end Notes

/-- The recording `x` does what `y` does from `s`, and notes calls; `Q` holds of them and of what
`y` ends with. -/
abbrev Records (x : ExceptT Error (Recording ε σ) α) (y : ExceptT Error (StateM σ) α) (s : σ)
    (Q : List ε → Except Error α → σ → Prop) : Prop :=
  Notes id x.run y.run s Q

namespace Records

variable {x : ExceptT Error (Recording ε σ) α} {y : ExceptT Error (StateM σ) α} {s : σ}
  {P : List ε → Except Error α → σ → Prop}

protected theorem pure (a : α) (h : P [] (.ok a) s) :
    Records (Pure.pure a : ExceptT Error (Recording ε σ) α) (Pure.pure a) s P :=
  Notes.pure id (Except.ok a) h

theorem throw (e : Error) (h : P [] (.error e) s) :
    Records (throw e : ExceptT Error (Recording ε σ) α) (throw e) s P :=
  Notes.pure id (Except.error e) h

/-- The rule for two parts, when the result of the first one differs between recording and plain
computation. -/
theorem bindWith (φ : γ → δ) {x : ExceptT Error (Recording ε σ) δ}
    {y : ExceptT Error (StateM σ) γ} {f : δ → ExceptT Error (Recording ε σ) α}
    {g : γ → ExceptT Error (StateM σ) α} {Q : List ε → Except Error γ → σ → Prop}
    (h : Notes (Except.map φ) x.run y.run s Q)
    (ok : ∀ c a t, Q c (.ok a) t → Records (f (φ a)) (g a) t fun d b u => P (c ++ d) b u)
    (error : ∀ c e t, Q c (.error e) t → P c (.error e) t) :
    Records (x >>= f) (y >>= g) s P := by
  rw [Records, ExceptT.run_bind, ExceptT.run_bind]
  refine Notes.bind h fun c r t hq => ?_
  cases r with
  | ok a => exact ok c a t hq
  | error e => exact Notes.pure id (Except.error e) (by simpa using error c e t hq)

protected theorem bind {x : ExceptT Error (Recording ε σ) γ} {y : ExceptT Error (StateM σ) γ}
    {f : γ → ExceptT Error (Recording ε σ) α} {g : γ → ExceptT Error (StateM σ) α}
    {Q : List ε → Except Error γ → σ → Prop} (h : Records x y s Q)
    (ok : ∀ c a t, Q c (.ok a) t → Records (f a) (g a) t fun d b u => P (c ++ d) b u)
    (error : ∀ c e t, Q c (.error e) t → P c (.error e) t) :
    Records (x >>= f) (y >>= g) s P := by
  refine bindWith id ?_ ok error
  rwa [show Except.map (ε := Error) (id : γ → γ) = id from funext fun r => by cases r <;> rfl]

/-- The rule for two parts, the first one a computation that cannot fail. -/
theorem bindState {x : Recording ε σ γ} {y : StateM σ γ}
    {f : γ → ExceptT Error (Recording ε σ) α} {g : γ → ExceptT Error (StateM σ) α}
    {Q : List ε → γ → σ → Prop} (h : Notes id x y s Q)
    (hf : ∀ c a t, Q c a t → Records (f a) (g a) t fun d b u => P (c ++ d) b u) :
    Records (liftM x >>= f) (liftM y >>= g) s P := by
  rw [Records, ExceptT.run_bind, ExceptT.run_bind, ExceptT.run_liftM, ExceptT.run_liftM,
    bind_map_left, bind_map_left]
  exact Notes.bind h hf

/-- The rule for two parts, the first one computed without asking anybody. -/
theorem bindExcept {r : Except Error γ} {f : γ → ExceptT Error (Recording ε σ) α}
    {g : γ → ExceptT Error (StateM σ) α} (ok : ∀ a, r = .ok a → Records (f a) (g a) s P)
    (error : ∀ e, r = .error e → P [] (.error e) s) :
    Records (liftM r >>= f) (liftM r >>= g) s P := by
  cases r with
  | ok a => exact ok a rfl
  | error e => exact Records.throw e (error e rfl)

end Records

end DeployPlan
