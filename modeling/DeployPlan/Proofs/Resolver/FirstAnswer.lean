import DeployPlan.Proofs.Recording
import DeployPlan.Resolver.Chain

/-!
# A chain answers as the first resolver that counts

An answer is passed over if it is an error after which another resolver may still know the image.
`answers` is what some resolvers say when all of them are asked, one after the other;
`firstAnswer_records` says that a chain asks them in this order, each once and for the same name,
up to the first answer that is not passed over, and gives that answer as it is.
`chain_gives_first_answer` adds what a chain does before: it refuses a text that names no image.
-/

namespace DeployPlan

variable {ε σ : Type}

theorem ImageName.eq_validation_of_parse_eq_error {s : String} {e : Error}
    (h : ImageName.parse s = .error e) : ∃ message, e = .validation "image" message := by
  rw [ImageName.parse] at h
  cases hr : ImageName.read s with
  | ok name =>
    rw [hr] at h
    cases h
  | error f =>
    rw [hr] at h
    cases h
    exact ⟨f.message, rfl⟩

namespace Resolver

/-- The resolver, noting each question with its answer. -/
def noting (call : String → Except Error Image → ε) (r : Resolver (StateM σ)) :
    Resolver (Recording ε σ) where
  name := r.name
  resolve image := ExceptT.mk (note (call image) (r.resolve image).run)

theorem resolve_noting (call : String → Except Error Image → ε) (r : Resolver (StateM σ))
    (image : String) (s : σ) :
    Records ((r.noting call).resolve image) (r.resolve image) s
      fun calls answer _ => calls = [call image answer] :=
  .of_note _ _ _

/-- The resolvers, each noting its place in the list, from `first` on, and what it is asked for. -/
def placed (first : Nat) (ws : List (WeightedResolver (StateM σ))) :
    List (WeightedResolver (Recording (Nat × String) σ)) :=
  (ws.zipIdx first).map fun (w, i) => ⟨w.resolver.noting fun image _ => (i, image), w.weight⟩

theorem placed_cons (first : Nat) (w : WeightedResolver (StateM σ))
    (ws : List (WeightedResolver (StateM σ))) :
    placed first (w :: ws) =
      ⟨w.resolver.noting fun image _ => (first, image), w.weight⟩ :: placed (first + 1) ws := by
  rw [placed, List.zipIdx_cons, List.map_cons, placed]

/-- Whether a chain passes over an answer and asks the next resolver. -/
def isPassedOver : Except Error Image → Bool
  | .ok _ => false
  | .error e => e.isSkippable

/-- What the resolvers answer when all of them are asked, one after the other, and the state after
each answer. -/
def answers (image : String) : List (Resolver (StateM σ)) → σ → List (Except Error Image × σ)
  | [], _ => []
  | r :: rest, s =>
    runFrom (r.resolve image) s :: answers image rest (runFrom (r.resolve image) s).2

theorem length_answers (image : String) (rs : List (Resolver (StateM σ))) (s : σ) :
    (answers image rs s).length = rs.length := by
  induction rs generalizing s with
  | nil => rfl
  | cons r rest ih => rw [answers, List.length_cons, List.length_cons, ih]

/-- The calls and the end of a run that goes through some answers up to the first one that counts;
the first resolver stands at the place `first`. -/
structure EndsWithFirst (image : String) (first : Nat) (outcomes : List (Except Error Image × σ))
    (calls : List (Nat × String)) (result : Except Error Image) (t : σ) : Prop where
  /-- With an answer that counts, those up to it are asked, and it is the result. -/
  found : ∀ i (h : i < outcomes.length), isPassedOver outcomes[i].1 = false →
    (∀ j (hj : j < i), isPassedOver outcomes[j].1 = true) →
    calls = (List.range' first (i + 1)).map (·, image) ∧ (result, t) = outcomes[i]
  /-- Without one, all are asked. -/
  exhausted : (∀ o ∈ outcomes, isPassedOver o.1 = true) →
    calls = (List.range' first outcomes.length).map (·, image) ∧
      result = .error (.resolution image)

namespace EndsWithFirst

variable {image : String} {first : Nat} {o : Except Error Image × σ}
  {outcomes : List (Except Error Image × σ)} {calls : List (Nat × String)}
  {result : Except Error Image} {t : σ}

/-- An answer that counts ends the run. -/
theorem head (h : isPassedOver o.1 = false) :
    EndsWithFirst image first (o :: outcomes) [(first, image)] o.1 o.2 where
  found i _ _ hj := by
    cases i with
    | zero => exact ⟨rfl, rfl⟩
    | succ i => exact absurd (hj 0 (Nat.succ_pos i)) (by simpa using h)
  exhausted hall := by
    rw [hall o List.mem_cons_self] at h
    cases h

/-- After an answer that is passed over, the run goes on with the rest. -/
theorem tail (h : isPassedOver o.1 = true)
    (he : EndsWithFirst image (first + 1) outcomes calls result t) :
    EndsWithFirst image first (o :: outcomes) ((first, image) :: calls) result t where
  found i hi hc hj := by
    cases i with
    | zero => simp [h] at hc
    | succ i =>
      obtain ⟨hcalls, hr⟩ := he.found i (Nat.lt_of_succ_lt_succ hi) (by simpa using hc)
        fun j hji => by simpa using hj (j + 1) (Nat.succ_lt_succ hji)
      exact ⟨by rw [hcalls, List.range'_succ (n := i + 1), List.map_cons], by simpa using hr⟩
  exhausted hall := by
    obtain ⟨hcalls, hr⟩ := he.exhausted fun o ho => hall o (List.mem_cons_of_mem _ ho)
    exact ⟨by rw [hcalls, List.length_cons, List.range'_succ, List.map_cons], hr⟩

theorem counts_or_exhausted (he : EndsWithFirst image first outcomes calls result t) :
    isPassedOver result = false ∨ result = .error (.resolution image) := by
  by_cases h : ∃ o ∈ outcomes, (!isPassedOver o.1) = true
  · have hlt := List.findIdx_lt_length_of_exists h
    have hc := List.findIdx_getElem (w := hlt)
    rw [Bool.not_eq_true'] at hc
    obtain ⟨-, hr⟩ := he.found _ hlt hc fun j hj => by simpa using List.not_of_lt_findIdx hj
    rw [← hr] at hc
    exact .inl hc
  · refine .inr (he.exhausted fun o ho => ?_).2
    exact (Bool.not_eq_false _).mp fun hc => h ⟨o, ho, by rw [hc]; rfl⟩

end EndsWithFirst

/-- Resolvers are asked in order, up to the first answer that counts. -/
theorem firstAnswer_records (image : String) (ws : List (WeightedResolver (StateM σ)))
    (first : Nat) (s : σ) :
    Records (firstAnswer image ((placed first ws).map (·.resolver)))
      (firstAnswer image (ws.map (·.resolver))) s
      (EndsWithFirst image first (answers image (ws.map (·.resolver)) s)) := by
  induction ws generalizing first s with
  | nil => exact Records.throw _ ⟨fun i h => absurd h (Nat.not_lt_zero i), fun _ => ⟨rfl, rfl⟩⟩
  | cons w ws ih =>
    rw [placed_cons, List.map_cons, List.map_cons, firstAnswer, firstAnswer]
    refine Notes.bind (resolve_noting _ w.resolver image s).with_run fun c a t ⟨hc, hr⟩ => ?_
    have ho : runFrom (w.resolver.resolve image) s = (a, t) := hr
    rw [answers, ho, hc, id]
    cases a with
    | ok i => exact Notes.pure id (Except.ok i) (EndsWithFirst.head rfl)
    | error e =>
      cases hs : e.isSkippable with
      | true =>
        simp only [hs, if_true]
        exact (ih (first + 1) t).mono fun c r u h => EndsWithFirst.tail hs h
      | false =>
        simp only [hs, Bool.false_eq_true, if_false]
        exact Notes.pure id (Except.error e) (EndsWithFirst.head hs)

theorem map_resolver_placed {ws ws' : List (WeightedResolver (StateM σ))}
    (h : ws'.map (·.resolver) = ws.map (·.resolver)) (first : Nat) :
    (placed first ws').map (·.resolver) = (placed first ws).map (·.resolver) := by
  induction ws generalizing ws' first with
  | nil => rw [List.map_eq_nil_iff.mp h]
  | cons w ws ih =>
    cases ws' with
    | nil => cases h
    | cons w' ws' =>
      rw [List.map_cons, List.map_cons, List.cons.injEq] at h
      rw [placed_cons, placed_cons, List.map_cons, List.map_cons, ih h.2, h.1]

theorem chain_congr {m : Type → Type} [Monad m] {ws ws' : List (WeightedResolver m)}
    (h : ws'.map (·.resolver) = ws.map (·.resolver)) : chain ws' = chain ws := by
  rw [chain, chain, h]

/-- A text that names no image is refused before anybody is asked. Otherwise the resolvers of a
chain are asked in their order, each once and for this text, up to the first answer that is not
passed over, which is the answer of the chain as it is; if there is none, all are asked, and nobody
knows the image. So a chain never says of a single resolver that it cannot be asked or does not know
the image. The confidence in the resolvers counts neither for the answer nor for the calls. -/
theorem chain_gives_first_answer (ws : List (WeightedResolver (StateM σ))) (image : String)
    (s : σ) :
    Records ((chain (placed 0 ws)).resolve image) ((chain ws).resolve image) s
      fun calls result t =>
        (∀ e, ImageName.parse image = .error e →
          (∃ message, e = .validation "image" message) ∧ calls = [] ∧ result = .error e ∧ t = s) ∧
        (∀ name, ImageName.parse image = .ok name →
          (answers image (ws.map (·.resolver)) s).length = ws.length ∧
          EndsWithFirst image 0 (answers image (ws.map (·.resolver)) s) calls result t) ∧
        (∀ message, result ≠ .error (.resolverTransient message)) ∧
        (∀ name, result ≠ .error (.resolverNoMatch name)) ∧
        ∀ ws', ws'.map (·.resolver) = ws.map (·.resolver) →
          chain ws' = chain ws ∧ chain (placed 0 ws') = chain (placed 0 ws) := by
  have hw : ∀ ws', ws'.map (·.resolver) = ws.map (·.resolver) →
      chain ws' = chain ws ∧ chain (placed 0 ws') = chain (placed 0 ws) :=
    fun ws' h => ⟨chain_congr h, chain_congr (map_resolver_placed h 0)⟩
  refine Records.bindExcept (fun name hp => ?_) fun e hp => ?_
  · refine (firstAnswer_records image ws 0 s).mono fun calls result t he => ?_
    have hl : (answers image (ws.map (·.resolver)) s).length = ws.length := by
      rw [length_answers, List.length_map]
    refine ⟨fun e h => (by simp [hp] at h), fun _ _ => ⟨hl, he⟩, fun m hm => ?_, fun m hm => ?_, hw⟩
    · rcases he.counts_or_exhausted with h | h
      · simp [hm, isPassedOver, Error.isSkippable] at h
      · simp [hm] at h
    · rcases he.counts_or_exhausted with h | h
      · simp [hm, isPassedOver, Error.isSkippable] at h
      · simp [hm] at h
  · obtain ⟨message, rfl⟩ := ImageName.eq_validation_of_parse_eq_error hp
    refine ⟨fun e h => ?_, fun name h => (by simp [hp] at h), by simp, by simp, hw⟩
    rw [hp] at h
    cases h
    exact ⟨⟨message, rfl⟩, rfl, rfl, rfl⟩

end Resolver

end DeployPlan
