import DeployPlan.Proofs.Resolver.FirstAnswer
import DeployPlan.Resolver.ImageStream

/-!
# In which projects an image is looked for

`outcomesOf` is what some projects say when all of them are asked, one after the other. `EndsSearch`
says which of them a search asks and what it ends with, in terms of these answers: the first one
that settles the search is its result, and without one the last project that could not be asked
counts more than those that do not have the image. `search_records` shows it by induction over the
projects, for searches that have been told before that a project cannot be asked, and
`imageStream_searches` adds which projects are asked and when none is.
-/

namespace DeployPlan

variable {σ : Type}

/-- The lookup, noting in which project it looks and for which image. -/
def StreamLookup.noting (lookup : StreamLookup (StateM σ)) :
    StreamLookup (Recording (String × ImageName) σ) where
  find project name := ExceptT.mk (note (fun _ => (project, name)) (lookup.find project name).run)

theorem find_noting (lookup : StreamLookup (StateM σ)) (project : String) (name : ImageName)
    (s : σ) :
    Records (lookup.noting.find project name) (lookup.find project name) s
      fun calls _ _ => calls = [(project, name)] :=
  .of_note (fun _ => (project, name)) (lookup.find project name).run s

namespace ImageStream

/-! ## The projects -/

/-- Some projects are those in which a name is looked for. -/
structure IsProbes (own : Option String) (shared : String) (name : ImageName)
    (probes : List String) : Prop where
  /-- A name that says a project is looked for there. -/
  given : ∀ group, name.group = some group → probes = [group]
  /-- Other names are looked for in the caller's own project, if it is not empty, and in the shared
  one, which is `default` if it is empty. -/
  otherwise : name.group = none → probes =
    ((own.filter (· ≠ "")).toList ++ [if shared = "" then "default" else shared]).eraseDups
  once : probes.Nodup
  nonempty : probes ≠ []

variable (own : Option String) (shared : String)

/-- Besides the shared project there may be the caller's own, which comes first if it is another
one. -/
theorem projects_cases :
    ∃ last, last = (if shared = "" then "default" else shared) ∧
      (own.filter (· ≠ "") = none ∧ projects own shared = [last] ∨
        own.filter (· ≠ "") = some last ∧ projects own shared = [last] ∨
        ∃ first, first ≠ last ∧ own.filter (· ≠ "") = some first ∧
          projects own shared = [first, last]) := by
  refine ⟨_, rfl, ?_⟩
  cases own with
  | none => exact .inl ⟨rfl, rfl⟩
  | some project =>
    by_cases he : project = ""
    · subst he
      exact .inl ⟨rfl, rfl⟩
    · have hf : (some project).filter (· ≠ "") = some project := by
        rw [Option.filter_some, if_pos (by simpa using he)]
      have hp : projects (some project) shared =
          if project = if shared = "" then fallbackProject else shared then [project]
          else [project, if shared = "" then fallbackProject else shared] := by
        simp only [projects]
      rw [hf, hp]
      by_cases hs : project = if shared = "" then fallbackProject else shared
      · rw [if_pos hs]
        exact .inr (.inl ⟨congrArg some hs, congrArg ([·]) hs⟩)
      · rw [if_neg hs]
        exact .inr (.inr ⟨project, hs, rfl, rfl⟩)

theorem projects_eq :
    projects own shared =
      ((own.filter (· ≠ "")).toList ++ [if shared = "" then "default" else shared]).eraseDups := by
  obtain ⟨last, hlast, h⟩ := projects_cases own shared
  rw [← hlast]
  rcases h with ⟨hf, hp⟩ | ⟨hf, hp⟩ | ⟨first, hne, hf, hp⟩
  · rw [hf, hp]
    rfl
  · rw [hf, hp]
    simp [List.eraseDups_cons]
  · rw [hf, hp]
    simp [List.eraseDups_cons, Ne.symm hne]

theorem nodup_projects : (projects own shared).Nodup := by
  obtain ⟨last, -, ⟨-, hp⟩ | ⟨-, hp⟩ | ⟨first, hne, -, hp⟩⟩ := projects_cases own shared
  · rw [hp]
    exact List.pairwise_singleton _ _
  · rw [hp]
    exact List.pairwise_singleton _ _
  · rw [hp]
    simpa using hne

theorem projects_ne_nil : projects own shared ≠ [] := by
  obtain ⟨last, -, ⟨-, hp⟩ | ⟨-, hp⟩ | ⟨first, -, -, hp⟩⟩ := projects_cases own shared <;>
  · rw [hp]
    exact List.cons_ne_nil _ _

theorem isProbes_probes (name : ImageName) :
    IsProbes own shared name (probes (projects own shared) name) := by
  rw [probes]
  cases hg : name.group with
  | some group =>
    refine ⟨fun group' h => ?_, fun h => ?_, List.pairwise_singleton _ _, List.cons_ne_nil _ _⟩
    · cases hg.symm.trans h
      rfl
    · cases hg.symm.trans h
  | none =>
    refine ⟨fun group h => ?_, fun _ => projects_eq own shared, nodup_projects own shared,
      projects_ne_nil own shared⟩
    cases hg.symm.trans h

/-! ## The search -/

/-- Whether a search goes on after an answer: the project does not have the image, or cannot be
asked. -/
def isPassedOver : Except Error (Option Image) → Bool
  | .ok none | .error (.resolverTransient _) => true
  | .ok (some _) | .error _ => false

/-- Why a project cannot be asked. -/
def unavailable? : Except Error (Option Image) → Option String
  | .error (.resolverTransient message) => some message
  | _ => none

/-- What is said when no project has an image: that one cannot be asked, or that nobody knows it. -/
def notFound (text : String) : Option String → Error
  | some message => .resolverTransient message
  | none => .resolverNoMatch text

/-- What the projects answer when all of them are asked, one after the other, and the state after
each answer. -/
def outcomesOf (lookup : StreamLookup (StateM σ)) (name : ImageName) :
    List String → σ → List (Except Error (Option Image) × σ)
  | [], _ => []
  | project :: rest, s =>
    runFrom (lookup.find project name) s ::
      outcomesOf lookup name rest (runFrom (lookup.find project name) s).2

theorem length_outcomesOf (lookup : StreamLookup (StateM σ)) (name : ImageName)
    (projects : List String) (s : σ) :
    (outcomesOf lookup name projects s).length = projects.length := by
  induction projects generalizing s with
  | nil => rfl
  | cons project rest ih => rw [outcomesOf, List.length_cons, List.length_cons, ih]

/-- The calls and the end of a search that goes through the answers of some projects up to the first
one that settles it; `unavailable` is why a project before them could not be asked. -/
structure EndsSearch (text : String) (name : ImageName) (unavailable : Option String)
    (projects : List String) (outcomes : List (Except Error (Option Image) × σ))
    (calls : List (String × ImageName)) (result : Except Error Image) (t : σ) : Prop where
  /-- With an answer that settles it, the projects up to it are asked, and it is the result. -/
  settled : ∀ i (h : i < outcomes.length), isPassedOver outcomes[i].1 = false →
    (∀ j (hj : j < i), isPassedOver outcomes[j].1 = true) →
    calls = (projects.take (i + 1)).map (·, name) ∧ (result.map some, t) = outcomes[i]
  /-- Without one, all are asked, and the last one that could not be asked counts. -/
  exhausted : (∀ o ∈ outcomes, isPassedOver o.1 = true) →
    calls = projects.map (·, name) ∧
      result = .error (notFound text
        ((outcomes.filterMap fun o => unavailable? o.1).getLast?.or unavailable))

namespace EndsSearch

variable {text project : String} {name : ImageName} {unavailable : Option String}
  {projects : List String} {o : Except Error (Option Image) × σ}
  {outcomes : List (Except Error (Option Image) × σ)} {calls : List (String × ImageName)}
  {result : Except Error Image} {t : σ}

theorem nil : EndsSearch text name unavailable [] [] [] (.error (notFound text unavailable)) t where
  settled _ h := absurd h (Nat.not_lt_zero _)
  exhausted _ := ⟨rfl, rfl⟩

/-- An answer that settles a search ends it. -/
theorem head (h : isPassedOver o.1 = false) (hr : (result.map some, t) = o) :
    EndsSearch text name unavailable (project :: projects) (o :: outcomes) [(project, name)] result
      t where
  settled i _ _ hj := by
    cases i with
    | zero => exact ⟨rfl, hr⟩
    | succ i => exact absurd (hj 0 (Nat.succ_pos i)) (by simpa using h)
  exhausted hall := by
    rw [hall _ List.mem_cons_self] at h
    cases h

/-- After an answer that is passed over, the search goes on with the other projects, and knows if
this one could not be asked. -/
theorem tail (h : isPassedOver o.1 = true)
    (he : EndsSearch text name ((unavailable? o.1).or unavailable) projects outcomes calls result
      t) :
    EndsSearch text name unavailable (project :: projects) (o :: outcomes)
      ((project, name) :: calls) result t where
  settled i hi hc hj := by
    cases i with
    | zero => simp [h] at hc
    | succ i =>
      obtain ⟨hcalls, hr⟩ := he.settled i (Nat.lt_of_succ_lt_succ hi) (by simpa using hc)
        fun j hji => by simpa using hj (j + 1) (Nat.succ_lt_succ hji)
      exact ⟨by rw [hcalls, List.take_succ_cons, List.map_cons], by simpa using hr⟩
  exhausted hall := by
    obtain ⟨hcalls, hr⟩ := he.exhausted fun o ho => hall o (List.mem_cons_of_mem _ ho)
    refine ⟨by rw [hcalls, List.map_cons], ?_⟩
    rw [hr, List.filterMap_cons]
    cases unavailable? o.1 with
    | none => rfl
    | some message =>
      cases hl : (outcomes.filterMap fun o => unavailable? o.1).getLast? with
      | none => simp [List.getLast?_cons, hl]
      | some last => simp [List.getLast?_cons, hl]

end EndsSearch

/-- Projects are searched in order, up to the first answer that settles the search. -/
theorem search_records (lookup : StreamLookup (StateM σ)) (text : String) (name : ImageName)
    (unavailable : Option String) (projects : List String) (s : σ) :
    Records (search lookup.noting text name unavailable projects)
      (search lookup text name unavailable projects) s
      (EndsSearch text name unavailable projects (outcomesOf lookup name projects s)) := by
  induction projects generalizing unavailable s with
  | nil =>
    cases unavailable with
    | none => exact Records.throw _ .nil
    | some message => exact Records.throw _ .nil
  | cons project rest ih =>
    rw [search, search]
    refine Notes.bind (find_noting lookup project name s).with_run fun c a t ⟨hc, hr⟩ => ?_
    have ho : runFrom (lookup.find project name) s = (a, t) := hr
    rw [outcomesOf, ho, hc, id]
    cases a with
    | ok found? =>
      cases found? with
      | none => exact (ih unavailable t).mono fun c r u h => EndsSearch.tail rfl h
      | some image => exact Notes.pure id (Except.ok image) (EndsSearch.head rfl rfl)
    | error e =>
      cases e
      case resolverTransient => exact (ih _ t).mono fun c r u h => EndsSearch.tail rfl h
      all_goals exact Notes.pure id (Except.error _) (EndsSearch.head rfl rfl)

end ImageStream

open ImageStream in
/-- A text that names no image is refused, and an image of a registry is not known, before anybody
is asked. Any other image is looked for in the project that its name says, or in the caller's own
project and the shared one, each once and in this order, up to the first project that has it or
fails in earnest, whose answer is the result as it is. If there is none, all are asked, and the
image is not known, unless one of them could not be asked: then the last one of these says why. -/
theorem Resolver.imageStream_searches (lookup : StreamLookup (StateM σ)) (own : Option String)
    (shared text : String) (s : σ) :
    Records ((imageStream lookup.noting (projects own shared)).resolve text)
      ((imageStream lookup (projects own shared)).resolve text) s
      fun calls result t =>
        (∀ e, ImageName.parse text = .error e →
          (∃ message, e = .validation "image" message) ∧ calls = [] ∧ result = .error e ∧ t = s) ∧
        (∀ name, ImageName.parse text = .ok name → name.registry.isSome = true →
          calls = [] ∧ result = .error (.resolverNoMatch text) ∧ t = s) ∧
        ∀ name, ImageName.parse text = .ok name → name.registry = none →
          ∃ probes, IsProbes own shared name probes ∧
            (outcomesOf lookup name probes s).length = probes.length ∧
            EndsSearch text name none probes (outcomesOf lookup name probes s) calls result t := by
  refine Records.bindExcept (fun name hp => ?_) fun e hp => ?_
  · by_cases hr : name.registry.isSome = true
    · simp only [hr, if_true]
      refine Records.throw _ ⟨fun e h => ?_, fun _ _ _ => ⟨rfl, rfl, rfl⟩, fun other h hn => ?_⟩
      · cases hp.symm.trans h
      · cases hp.symm.trans h
        rw [hn] at hr
        cases hr
    · simp only [hr, Bool.false_eq_true, if_false]
      refine (search_records lookup text name none _ s).mono fun calls result t he => ?_
      refine ⟨fun e h => ?_, fun other h hs => ?_, fun other h _ => ?_⟩
      · cases hp.symm.trans h
      · cases hp.symm.trans h
        exact absurd hs hr
      · cases hp.symm.trans h
        exact ⟨_, isProbes_probes own shared name, length_outcomesOf lookup name _ s, he⟩
  · obtain ⟨message, rfl⟩ := ImageName.eq_validation_of_parse_eq_error hp
    refine ⟨fun e h => ?_, fun name h => ?_, fun name h => ?_⟩
    · cases hp.symm.trans h
      exact ⟨⟨message, rfl⟩, rfl, rfl, rfl⟩
    · cases hp.symm.trans h
    · cases hp.symm.trans h

end DeployPlan
