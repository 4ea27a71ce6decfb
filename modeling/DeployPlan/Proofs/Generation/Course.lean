import DeployPlan.Proofs.Generation.Selection

/-!
# The course of a run

`Search` is how the source of a run is found, and `Course` adds how a strategy is selected for it:
both relate the calls, in their order, to what comes of them. `settle_records` and
`generate_records` say that every run takes such a course; the laws of a run are read off it.
-/

namespace DeployPlan

variable {σ α : Type}

/-! ## Finding the source -/

/-- The calls by which a source is found. An address is only read; for a directory there are steps
on the file system, and it is inspected once they succeed. -/
inductive Search : SourceInput → List Call → Except Error Source → Prop
  | address (a : String) (found : Except Error Source) : Search (.url a) [] found
  | unopened {path : String} {steps : List Call} (hs : ∀ call ∈ steps, call.kind = .fileStep)
      (e : Error) :
    Search (.directory path) steps (.error e)
  | inspected {path dir : String} {before after : List Call}
      {answer : Except Error (Option Checkout)} {found : Except Error Source}
      (hb : ∀ call ∈ before, call.kind = .fileStep)
      (ha : ∀ call ∈ after, call.kind = .fileStep)
      (he : ∀ e, answer = .error e → after = [] ∧ found = .error e) :
    Search (.directory path) (before ++ .inspect dir answer :: after) found

/-- A source is found by steps on the file system and by inspections. -/
theorem Search.kind_eq {location : SourceInput} {calls : List Call} {found : Except Error Source}
    (h : Search location calls found) :
    ∀ call ∈ calls, call.kind = .fileStep ∨ call.kind = .inspect := by
  intro call hc
  cases h with
  | address a => cases hc
  | unopened hs e => exact .inl (hs call hc)
  | inspected hb ha he =>
    rcases List.mem_append.mp hc with hc | hc
    · exact .inl (hb call hc)
    · rcases List.mem_cons.mp hc with rfl | hc
      · exact .inr rfl
      · exact .inl (ha call hc)

/-- What is found may be worked on, if an error stays what it is. -/
theorem Search.of_result {location : SourceInput} {calls : List Call}
    {found found' : Except Error Source} (h : Search location calls found)
    (hf : ∀ e, found = .error e → found' = .error e) : Search location calls found' := by
  cases h with
  | address a => exact .address a found'
  | unopened hs e =>
    rw [hf e rfl]
    exact .unopened hs e
  | inspected hb ha he =>
    refine .inspected hb ha fun e h => ?_
    obtain ⟨hn, h⟩ := he e h
    exact ⟨hn, hf e h⟩

namespace Source

/-- A step on the file system, its failure told in the words of `located`, with what follows it. -/
theorem bindLocated {γ : Type} {step : FileStep} {path place : String}
    {x : StateM σ (Except FileError γ)} {f : γ → ExceptT Error (Recording Call σ) α}
    {g : γ → ExceptT Error (StateM σ) α} {s : σ}
    (h : ∀ a t, Records (f a) (g a) t fun calls _ _ => ∀ call ∈ calls, call.kind = .fileStep) :
    Records
      (liftM (note (fun _ => Call.fileStep step path) x) >>= fun r => liftM (located place r) >>= f)
      (liftM x >>= fun r => liftM (located place r) >>= g) s
      fun calls _ _ => ∀ call ∈ calls, call.kind = .fileStep := by
  refine Records.bindState (fileStep_noted step path x s) fun _ r t hc => ?_
  subst hc
  have hs : ∀ call ∈ [Call.fileStep step path], call.kind = .fileStep := by
    intro call hc
    rw [List.mem_singleton.mp hc]
    rfl
  refine Records.bindExcept (fun a _ => (h a t).mono fun calls _ _ hc => ?_) fun e _ => hs
  exact List.forall_mem_append.mpr ⟨hs, hc⟩

/-- A directory is opened by steps on the file system. -/
theorem openDirectory_records (files : Files (StateM σ)) (path : String) (s : σ) :
    Records (openDirectory files.noted path) (openDirectory files path) s
      fun calls _ _ => ∀ call ∈ calls, call.kind = .fileStep := by
  refine bindLocated fun dir t => ?_
  refine bindLocated fun there u => ?_
  cases there with
  | false => exact Records.throw _ (by simp)
  | true => exact bindLocated fun _ v => Records.pure _ (by simp)

theorem ofDirectory_records (files : Files (StateM σ)) (inspector : Inspector (StateM σ))
    (path : String) (s : σ) :
    Records (ofDirectory files.noted inspector.noted path) (ofDirectory files inspector path) s
      fun calls found _ => Search (.directory path) calls found := by
  refine Records.bind (openDirectory_records files path s) (fun steps dir t hs => ?_)
    fun steps e t hs => .unopened hs e
  refine Records.bind (inspect_noted inspector dir t) ?_ ?_
  · rintro _ (_ | checkout) u rfl
    · exact Notes.pure id (plain dir) (.inspected hs (by simp) (by simp))
    · refine Records.bindState
        (fileStep_noted .canonicalize checkout.root (files.canonicalize checkout.root) u) ?_
      rintro _ r v rfl
      refine Notes.pure id (ofCheckout dir _ checkout) ?_
      exact .inspected hs (by simp [Call.kind]) (by simp)
  · rintro _ e u rfl
    refine .inspected hs (by simp) ?_
    rintro e' ⟨⟩
    exact ⟨rfl, rfl⟩

end Source

theorem findSource_records (c : Collaborators (StateM σ)) (r : Request) (s : σ) :
    Records (findSource c.noted r) (findSource c r) s
      fun calls found _ => Search r.location calls found := by
  rw [findSource, findSource]
  cases r.location with
  | url a =>
    refine Records.bindExcept (fun source _ => ?_) fun e _ => .address a (.error e)
    exact Notes.pure id (source.override r.name r.ref) (.address a _)
  | directory path =>
    refine Records.bind (Source.ofDirectory_records c.files c.inspector path s)
      (fun calls source t h => ?_) fun calls e t h => h
    refine Notes.pure id (source.override r.name r.ref) ?_
    rw [List.append_nil]
    exact h.of_result fun e he => (by cases he)

/-! ## The whole course -/

/-- The source that a request is about, and the strategy that is chosen for it. -/
def settle {m : Type → Type} [Monad m] (c : Collaborators m) (r : Request) :
    ExceptT Error m (Source × Strategy) := do
  let source ← findSource c r
  let strategy ←
    Strategy.select c.files c.resolver c.fetcher c.detectors source r.strategy r.options
  return (source, strategy)

/-- A run settles source and strategy and makes a plan of them, unless the port is refused. -/
theorem generate_eq (c : Collaborators (StateM σ)) (r : Request) :
    generate c r =
      if r.port = some 0 then throw (.validation "port" "must be between 1 and 65535")
      else settle c r >>= fun (source, strategy) =>
        liftM (plan source { strategy with portOverride := r.port } r.env) := by
  rw [generate, settle]
  split
  · rfl
  · simp only [bind_assoc, pure_bind]

/-- The calls by which source and strategy are settled, `found` being the source. -/
inductive Course (ds : List Detector) (r : Request) :
    Except Error Source → List Call → Except Error (Source × Strategy) → Prop
  | lost {calls : List Call} {e : Error} (search : Search r.location calls (.error e)) :
    Course ds r (.error e) calls (.error e)
  | found {searching selecting : List Call} {source : Source} {chosen : Except Error Strategy}
      (search : Search r.location searching (.ok source))
      (selection : Selection ds source r.strategy selecting chosen) :
    Course ds r (.ok source) (searching ++ selecting)
      (chosen.map fun strategy => (source, { strategy with options := r.options }))

/-- Source and strategy are settled as `Course` says. -/
theorem settle_records (c : Collaborators (StateM σ)) (r : Request) (s : σ) :
    Records (settle c.noted r) (settle c r) s
      fun calls settled _ => Course c.detectors r (runFrom (findSource c r) s).1 calls settled := by
  refine Records.bind (findSource_records c r s).with_run ?_ ?_
  · rintro searching source t ⟨search, hr⟩
    rw [show runFrom (findSource c r) s = (.ok source, t) from hr]
    refine Records.bind (Strategy.select_records c source r.strategy r.options t) ?_ ?_
    · rintro selecting strategy u ⟨chosen, selection, hc⟩
      refine Records.pure _ ?_
      rw [List.append_nil]
      cases chosen with
      | error e => cases hc
      | ok chosen =>
        cases hc
        exact .found search selection
    · rintro selecting e u ⟨chosen, selection, hc⟩
      cases chosen with
      | ok chosen => cases hc
      | error e =>
        cases hc
        exact .found search selection
  · rintro calls e t ⟨search, hr⟩
    rw [show runFrom (findSource c r) s = (.error e, t) from hr]
    exact .lost search

/-- Every run with a port that is not refused takes a course, and makes a plan of what it
settles. -/
theorem generate_records (c : Collaborators (StateM σ)) {r : Request} (hp : r.port ≠ some 0)
    (s : σ) :
    Records (generate c.noted r) (generate c r) s
      fun calls result _ =>
        Course c.detectors r (runFrom (findSource c r) s).1 calls (runFrom (settle c r) s).1 ∧
        result = (runFrom (settle c r) s).1.bind fun (source, strategy) =>
          plan source { strategy with portOverride := r.port } r.env := by
  rw [generate_eq, generate_eq, if_neg hp, if_neg hp]
  refine Records.bind (settle_records c r s).with_run ?_ ?_
  · rintro calls ⟨source, strategy⟩ t ⟨course, hr⟩
    rw [show runFrom (settle c r) s = (.ok (source, strategy), t) from hr]
    refine Notes.pure id (plan source { strategy with portOverride := r.port } r.env) ⟨?_, rfl⟩
    rw [List.append_nil]
    exact course
  · rintro calls e t ⟨course, hr⟩
    rw [show runFrom (settle c r) s = (.error e, t) from hr]
    exact ⟨course, rfl⟩

/-- A course that settles a strategy has a source. -/
theorem Course.of_ok {ds : List Detector} {r : Request} {found : Except Error Source}
    {calls : List Call} {source : Source} {strategy : Strategy}
    (h : Course ds r found calls (.ok (source, strategy))) :
    found = .ok source ∧ ∃ searching selecting chosen, calls = searching ++ selecting ∧
      Search r.location searching (.ok source) ∧
      Selection ds source r.strategy selecting (.ok chosen) ∧
      strategy = { chosen with options := r.options } := by
  generalize hs : Except.ok (source, strategy) = settled at h
  cases h with
  | lost search => cases hs
  | @found searching selecting _ chosen search selection =>
    cases chosen with
    | error e => cases hs
    | ok chosen =>
      cases hs
      exact ⟨rfl, searching, selecting, chosen, rfl, search, selection, rfl⟩

/-- The options of the caller are those of the strategy. -/
theorem Course.options_eq {ds : List Detector} {r : Request} {found : Except Error Source}
    {calls : List Call} {source : Source} {strategy : Strategy}
    (h : Course ds r found calls (.ok (source, strategy))) : strategy.options = r.options := by
  obtain ⟨-, _, _, _, -, -, -, rfl⟩ := h.of_ok
  rfl

/-- A run that succeeds settles source and strategy, and its objects are a plan of these. -/
theorem generate_eq_ok {c : Collaborators (StateM σ)} {r : Request} {s : σ}
    {objects : List Object} (h : (runFrom (generate c r) s).1 = .ok objects) :
    ∃ source strategy, r.port ≠ some 0 ∧ (runFrom (settle c r) s).1 = .ok (source, strategy) ∧
      plan source { strategy with portOverride := r.port } r.env = .ok objects := by
  have hp : r.port ≠ some 0 := by
    intro hp
    rw [generate_eq, if_pos hp] at h
    cases h
  obtain ⟨calls, -, course, hr⟩ := generate_records c hp s
  have hr := h.symm.trans hr
  cases hs : (runFrom (settle c r) s).1 with
  | error e =>
    rw [hs] at hr
    cases hr
  | ok settled =>
    rw [hs] at hr
    exact ⟨settled.1, settled.2, hp, rfl, hr.symm⟩

end DeployPlan
