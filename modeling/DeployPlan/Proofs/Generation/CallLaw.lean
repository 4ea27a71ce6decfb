import DeployPlan.Proofs.Generation.Course

/-!
# Who is asked in a run

The courses of a run say in which order the collaborators are asked. Here follows what that means
for each of them: `CallLaw` says how often the inspector, the fetcher and the resolver are asked,
when files of the source are read and looked for, which strategies there are, and what a failing
call does. `generate_calls` says that every run keeps to it, whatever the collaborators answer.
-/

namespace DeployPlan

variable {σ : Type}

/-! ## Searching -/

namespace Search

variable {location : SourceInput} {calls : List Call} {found : Except Error Source}

theorem callsOf_eq_nil (h : Search location calls found) {kind : CallKind}
    (hs : kind ≠ .fileStep) (hi : kind ≠ .inspect) : callsOf kind calls = [] := by
  refine DeployPlan.callsOf_eq_nil fun call hc hk => ?_
  rcases h.kind_eq call hc with h | h
  · exact hs (hk.symm.trans h)
  · exact hi (hk.symm.trans h)

theorem length_inspections (h : Search location calls found) :
    (callsOf .inspect calls).length ≤ 1 := by
  have hn {steps : List Call} (hs : ∀ call ∈ steps, call.kind = .fileStep) :
      callsOf .inspect steps = [] :=
    DeployPlan.callsOf_eq_nil fun call hc hk => by rw [hs call hc] at hk; cases hk
  cases h with
  | address a => exact Nat.zero_le 1
  | unopened hs e =>
    rw [hn hs]
    exact Nat.zero_le 1
  | @inspected _ dir _ after answer _ hb ha he =>
    rw [callsOf_append, hn hb, List.nil_append]
    show (Call.inspect dir answer :: callsOf .inspect after).length ≤ 1
    rw [hn ha]
    exact Nat.le_refl 1

theorem callsOf_address {a : String} (h : Search (.url a) calls found) :
    callsOf .inspect calls = [] := by
  cases h
  rfl

theorem failureEnds (h : Search location calls found) : FailureEnds calls found := by
  have hn {steps : List Call} (hs : ∀ call ∈ steps, call.kind = .fileStep) :
      ∀ call ∈ steps, call.failure? = none :=
    fun call hc => Call.failure?_eq_none (.inl (hs call hc))
  cases h with
  | address a => exact .of_none (by simp)
  | unopened hs e => exact .of_none (hn hs)
  | @inspected _ dir before after answer _ hb ha he =>
    refine .append (a := ()) (.of_none (hn hb)) ?_
    cases answer with
    | ok checkout => exact .cons (.of_none (hn ha)) rfl
    | error e =>
      obtain ⟨rfl, rfl⟩ := he e rfl
      exact .single fun e' h' => by cases h'; rfl

end Search

/-! ## Selecting -/

/-- The path by which a file of a source is asked for: below the local root, if there is one. -/
def Source.fileAt (source : Source) : String → String :=
  source.buildRoot?.elim id Path.join

/-- Which images are resolved when a source is looked at: that of the detector whose marker is
there, once, and none if no marker is there. -/
structure ResolvesMatch (place : String → String) (ds : List Detector) (calls : List Call) :
    Prop where
  matched : ∀ path, .probe path true ∈ calls →
    ∃ d ∈ ds, ∃ marker ∈ d.markers, path = place marker ∧
      ∃ answer, callsOf .resolve calls = [.resolve d.builderImage answer]
  unmatched : (∀ path, .probe path true ∉ calls) → callsOf .resolve calls = []

/-- Calls that look for nothing and resolve nothing may stand around. -/
theorem ResolvesMatch.around {place : String → String} {ds : List Detector} {calls : List Call}
    (h : ResolvesMatch place ds calls) (before after : List Call)
    (hb : ∀ call ∈ before, call.kind ≠ .probe ∧ call.kind ≠ .resolve)
    (ha : ∀ call ∈ after, call.kind ≠ .probe ∧ call.kind ≠ .resolve) :
    ResolvesMatch place ds (before ++ calls ++ after) := by
  have hr : callsOf .resolve (before ++ calls ++ after) = callsOf .resolve calls := by
    rw [callsOf_append, callsOf_append, callsOf_eq_nil fun call hc => (hb call hc).2,
      callsOf_eq_nil fun call hc => (ha call hc).2, List.nil_append, List.append_nil]
  have hp : ∀ path, Call.probe path true ∈ before ++ calls ++ after ↔
      Call.probe path true ∈ calls := by
    intro path
    rw [List.mem_append, List.mem_append]
    refine ⟨?_, fun h => .inl (.inr h)⟩
    rintro ((h | h) | h)
    · exact absurd rfl (hb _ h).1
    · exact h
    · exact absurd rfl (ha _ h).1
  constructor
  · intro path hm
    rw [hr]
    exact h.matched path ((hp path).mp hm)
  · intro hn
    rw [hr]
    exact h.unmatched fun path hm => hn path ((hp path).mpr hm)

namespace Choice

variable {place : String → String} {ds : List Detector} {source : Source} {calls : List Call}
  {chosen : Except Error Strategy}

theorem kind_eq (h : Choice place ds source calls chosen) :
    ∀ call ∈ calls, call.kind = .read ∨ call.kind = .probe ∨ call.kind = .resolve := by
  intro call hc
  cases h with
  | failed look => exact (look.kind_eq call hc).imp_right .inl
  | buildFile look => exact (look.kind_eq call hc).imp_right .inl
  | nothing look => exact (look.kind_eq call hc).imp_right .inl
  | language look answer =>
    rcases List.mem_append.mp hc with hc | hc
    · exact (look.kind_eq call hc).imp_right .inl
    · rw [List.mem_singleton.mp hc]
      exact .inr (.inr rfl)

theorem resolvesMatch (h : Choice place ds source calls chosen) : ResolvesMatch place ds calls := by
  have hn {outcome : Except Error (Option Detection)} {looking : List Call}
      (look : Look place ds looking outcome) : callsOf .resolve looking = [] := by
    refine callsOf_eq_nil fun call hc => ?_
    rcases look.kind_eq call hc with h | h <;> simp [h]
  have hno {outcome : Except Error (Option Detection)} {looking : List Call}
      (look : Look place ds looking outcome)
      (ho : ∀ language image, outcome ≠ .ok (some (.builderImage language image))) :
      ResolvesMatch place ds looking := by
    refine ⟨fun path hp => ?_, fun _ => hn look⟩
    obtain ⟨d, -, marker, -, -, h⟩ := look.exists_detector hp
    exact absurd h (ho _ _)
  cases h with
  | failed look => exact hno look (by simp)
  | buildFile look => exact hno look (by simp)
  | nothing look => exact hno look (by simp)
  | @language looking language image look answer =>
    have hr : callsOf .resolve (looking ++ [.resolve image answer]) = [.resolve image answer] := by
      rw [callsOf_append, hn look]
      rfl
    refine ⟨fun path hp => ?_, fun hno => ?_⟩
    · have hp : .probe path true ∈ looking := by simpa using hp
      obtain ⟨d, hd, marker, hm, hpath, ho⟩ := look.exists_detector hp
      cases ho
      exact ⟨d, hd, marker, hm, hpath, answer, hr⟩
    · obtain ⟨path, hp⟩ := look.exists_probe
      exact absurd (List.mem_append_left _ hp) (hno path)

theorem failureEnds (h : Choice place ds source calls chosen) : FailureEnds calls chosen := by
  cases h with
  | failed look => exact look.failureEnds.of_result fun e he => by cases he; rfl
  | buildFile look => exact look.failureEnds.of_result fun e he => by cases he
  | nothing look => exact look.failureEnds.of_result fun e he => by cases he
  | language look answer =>
    refine look.failureEnds.append (.single fun e he => ?_)
    rw [eq_error_of_errorOf? he]
    rfl

end Choice

namespace Selection

variable {ds : List Detector} {source : Source} {choice : Option StrategyOverride}
  {calls : List Call} {chosen : Except Error Strategy}

theorem kind_ne_inspect (h : Selection ds source choice calls chosen) :
    ∀ call ∈ calls, call.kind ≠ .inspect := by
  have hk {place : String → String} {looking : List Call}
      (hl : Choice place ds source looking chosen) : ∀ call ∈ looking, call.kind ≠ .inspect := by
    intro call hc
    rcases hl.kind_eq call hc with h | h | h <;> simp [h]
  cases h with
  | refusedContext => simp
  | unseenContext => simp
  | context => simp [Call.kind]
  | builderImage => simp [Call.kind]
  | present hr hl => exact hk hl
  | refused => simp [Call.kind]
  | fetched hr hl =>
    refine List.forall_mem_append.mpr ⟨List.forall_mem_cons.mpr ⟨?_, hk hl⟩, ?_⟩ <;>
      simp [Call.kind]

theorem failureEnds (h : Selection ds source choice calls chosen) : FailureEnds calls chosen := by
  cases h with
  | refusedContext => exact .of_none (by simp)
  | unseenContext => exact .of_none (by simp)
  | context h hr answer =>
    refine .single fun e he => ?_
    rw [eq_error_of_errorOf? he]
    rfl
  | builderImage name answer =>
    refine .single fun e he => ?_
    rw [eq_error_of_errorOf? he]
    rfl
  | present hr hl => exact hl.failureEnds
  | refused hr e => exact .single fun e' he => by cases he; rfl
  | fetched hr hl => exact .cons hl.failureEnds.release rfl

/-- Only an image that the caller names and that brings its own tooling makes the strategy use
that. -/
theorem custom {strategy : Strategy} (h : Selection ds source choice calls (.ok strategy))
    (hk : strategy.kind = .customTooling) :
    ∃ name image, choice = some (.builderImage name) ∧ calls = [.resolve name (.ok image)] ∧
      image.isCustomBuilder = true := by
  cases h.chosen with
  | buildFile dir hf => cases hk
  | language image ht => cases hk
  | @named name image hn hc =>
    refine ⟨name, image, hn, hc, ?_⟩
    by_cases hi : image.isCustomBuilder = true
    · exact hi
    · simp [Strategy.ofNamedImage, hi] at hk

theorem context_kind {dir : String} (h : Selection ds source (some (.context dir)) calls chosen) :
    ∀ call ∈ calls, call.kind = .read := by
  intro call hc
  cases h with
  | refusedContext => cases hc
  | unseenContext => cases hc
  | context =>
    rw [List.mem_singleton.mp hc]
    rfl

/-- An image that the caller names is resolved, and nothing else happens. -/
theorem builderImage_calls {name : String}
    (h : Selection ds source (some (.builderImage name)) calls chosen) :
    ∃ answer, calls = [.resolve name answer] := by
  cases h with
  | builderImage name answer => exact ⟨answer, rfl⟩

/-- Without a word of the caller, a source is fetched if it has no local root, and only then. -/
theorem fetches (h : Selection ds source none calls chosen) :
    ∃ refusal, callsOf .fetch calls =
      if source.localRoot?.isNone then [.fetch source refusal] else [] := by
  have hn {place : String → String} {looking : List Call}
      (hl : Choice place ds source looking chosen) : callsOf .fetch looking = [] := by
    refine callsOf_eq_nil fun call hc => ?_
    rcases hl.kind_eq call hc with h | h | h <;> simp [h]
  have hr : source.buildRoot?.isNone = source.localRoot?.isNone := Option.isNone_map
  rw [← hr]
  cases h with
  | present hr hl =>
    rw [hr]
    exact ⟨none, hn hl⟩
  | refused hr e =>
    rw [hr]
    exact ⟨some e, rfl⟩
  | @fetched looking _ hr hl =>
    rw [hr, List.cons_append]
    refine ⟨none, ?_⟩
    show Call.fetch source none :: callsOf .fetch (looking ++ [.release]) = _
    rw [callsOf_append, hn hl]
    rfl

theorem resolvesMatch (h : Selection ds source none calls chosen) :
    ResolvesMatch source.fileAt ds calls := by
  rw [Source.fileAt]
  cases h with
  | present hr hl =>
    rw [hr]
    exact hl.resolvesMatch
  | refused hr e => exact ⟨fun path hp => (by simp at hp), fun _ => rfl⟩
  | fetched hr hl =>
    rw [hr]
    exact hl.resolvesMatch.around [.fetch source none] [.release] (by simp [Call.kind])
      (by simp [Call.kind])

end Selection

/-! ## The law -/

/-- How the collaborators are asked in a run. `found` is the source of the request, `settled` the
source with the strategy that is chosen for it, and `result` what the run ends with. -/
structure CallLaw (ds : List Detector) (r : Request) (found : Except Error Source)
    (settled : Except Error (Source × Strategy)) (calls : List Call)
    (result : Except Error (List Object)) : Prop where
  /-- The port 0 is refused before anybody is asked. -/
  port_zero : r.port = some 0 →
    calls = [] ∧ ∃ message, result = .error (.validation "port" message)
  /-- A directory is inspected at most once. -/
  inspections : (callsOf .inspect calls).length ≤ 1
  /-- An address is not inspected. -/
  address : ∀ a, r.location = .url a → callsOf .inspect calls = []
  /-- Without a source nothing but the search for it takes place. -/
  lost : ∀ e, found = .error e → ∀ call ∈ calls, call.kind = .fileStep ∨ call.kind = .inspect
  /-- With a context directory, nothing is fetched, looked for or resolved. -/
  context : ∀ dir, r.strategy = some (.context dir) →
    callsOf .fetch calls = [] ∧ callsOf .probe calls = [] ∧ callsOf .resolve calls = []
  /-- With an image that the caller names, nothing is fetched, read or looked for. -/
  builderImage : ∀ name, r.strategy = some (.builderImage name) →
    callsOf .fetch calls = [] ∧ callsOf .read calls = [] ∧ callsOf .probe calls = []
  /-- That image is resolved once, and no other one. -/
  resolution : ∀ name source, r.strategy = some (.builderImage name) → r.port ≠ some 0 →
    found = .ok source → ∃ answer, callsOf .resolve calls = [.resolve name answer]
  /-- Without a word of the caller, the source is fetched once if it has no local root, and else
  never. -/
  fetches : ∀ source, r.strategy = none → r.port ≠ some 0 → found = .ok source →
    ∃ refusal, callsOf .fetch calls =
      if source.localRoot?.isNone then [.fetch source refusal] else []
  /-- Then it is looked at: the build file is read, and without one the markers are looked for. -/
  detection : ∀ source, r.strategy = none → r.port ≠ some 0 → found = .ok source →
    ∃ searching selecting chosen, calls = searching ++ selecting ∧
      (∀ call ∈ searching, call.kind = .fileStep ∨ call.kind = .inspect) ∧
      Selection ds source none selecting chosen ∧
      settled = chosen.map fun strategy => (source, { strategy with options := r.options })
  /-- An image is resolved once if a marker is there, and it is that of the detector; else none
  is. -/
  matching : ∀ source, r.strategy = none → r.port ≠ some 0 → found = .ok source →
    ResolvesMatch source.fileAt ds calls
  /-- An image brings its own tooling only if the caller names it and its label says so. -/
  custom : ∀ source strategy, r.port ≠ some 0 → settled = .ok (source, strategy) →
    strategy.kind = .customTooling →
    ∃ name image, r.strategy = some (.builderImage name) ∧
      .resolve name (.ok image) ∈ calls ∧ image.isCustomBuilder = true
  /-- The first call that fails gives the result, and nothing but a release follows it. -/
  failure : FailureEnds calls result

namespace CallLaw

variable {ds : List Detector} {r : Request} {source : Source}

/-- A run that refuses the port asks nobody. -/
theorem of_port_zero {found : Except Error Source} {settled : Except Error (Source × Strategy)}
    (hp : r.port = some 0) (message : String) :
    CallLaw ds r found settled [] (.error (.validation "port" message)) where
  port_zero _ := ⟨rfl, message, rfl⟩
  inspections := Nat.zero_le 1
  address _ _ := rfl
  lost _ _ _ hc := by cases hc
  context _ _ := ⟨rfl, rfl, rfl⟩
  builderImage _ _ := ⟨rfl, rfl, rfl⟩
  resolution _ _ _ hn _ := absurd hp hn
  fetches _ _ hn _ := absurd hp hn
  detection _ _ hn _ := absurd hp hn
  matching _ _ hn _ := absurd hp hn
  custom _ _ hn _ _ := absurd hp hn
  failure := .of_none (by simp)

/-- A run that finds no source ends with the search for it. -/
theorem of_lost {calls : List Call} {e : Error} (hp : r.port ≠ some 0)
    (search : Search r.location calls (.error e)) :
    CallLaw ds r (.error e) (.error e) calls (.error e) where
  port_zero h := absurd h hp
  inspections := search.length_inspections
  address a ha := (ha ▸ search).callsOf_address
  lost _ _ := search.kind_eq
  context _ _ := by simp [search.callsOf_eq_nil]
  builderImage _ _ := by simp [search.callsOf_eq_nil]
  resolution _ _ _ _ hs := by cases hs
  fetches _ _ _ hs := by cases hs
  detection _ _ _ hs := by cases hs
  matching _ _ _ hs := by cases hs
  custom _ _ _ hs := by cases hs
  failure := search.failureEnds.of_result fun e' he => by cases he; rfl

/-- A run that finds a source goes on with the choice of a strategy. -/
theorem of_found {searching selecting : List Call} {chosen : Except Error Strategy}
    {result : Except Error (List Object)} (hp : r.port ≠ some 0)
    (search : Search r.location searching (.ok source))
    (selection : Selection ds source r.strategy selecting chosen)
    (hr : ∀ e, chosen = .error e → result = .error e) :
    CallLaw ds r (.ok source)
      (chosen.map fun strategy => (source, { strategy with options := r.options }))
      (searching ++ selecting) result := by
  have hc {kind : CallKind} (hs : kind ≠ .fileStep) (hi : kind ≠ .inspect) :
      callsOf kind (searching ++ selecting) = callsOf kind selecting := by
    rw [callsOf_append, search.callsOf_eq_nil hs hi, List.nil_append]
  have hn : callsOf .inspect (searching ++ selecting) = callsOf .inspect searching := by
    rw [callsOf_append, callsOf_eq_nil selection.kind_ne_inspect,
      List.append_nil]
  refine
    { port_zero := fun h => absurd h hp
      inspections := hn ▸ search.length_inspections
      address := fun a ha => hn ▸ (ha ▸ search).callsOf_address
      lost := fun _ hs => (by cases hs)
      context := ?context
      builderImage := ?builderImage
      resolution := ?resolution
      fetches := ?fetches
      detection := ?detection
      matching := ?matching
      custom := ?custom
      failure := search.failureEnds.append (selection.failureEnds.of_result hr) }
  case context =>
    intro dir hd
    rw [hd] at selection
    have hk {kind : CallKind} (hne : kind ≠ .read) : callsOf kind selecting = [] :=
      callsOf_eq_nil fun call hm h => hne (h.symm.trans (selection.context_kind call hm))
    refine ⟨?_, ?_, ?_⟩ <;> rw [hc (by decide) (by decide), hk (by decide)]
  case builderImage =>
    intro name hb
    rw [hb] at selection
    obtain ⟨answer, rfl⟩ := selection.builderImage_calls
    refine ⟨?_, ?_, ?_⟩ <;> exact hc (by decide) (by decide)
  case resolution =>
    intro name source' hb _ _
    rw [hb] at selection
    obtain ⟨answer, rfl⟩ := selection.builderImage_calls
    exact ⟨answer, hc (by decide) (by decide)⟩
  case fetches =>
    rintro source' hb - ⟨⟩
    rw [hb] at selection
    rw [hc (by decide) (by decide)]
    exact selection.fetches
  case detection =>
    rintro source' hb - ⟨⟩
    rw [hb] at selection
    exact ⟨searching, selecting, chosen, rfl, search.kind_eq, selection, rfl⟩
  case matching =>
    rintro source' hb - ⟨⟩
    rw [hb] at selection
    have hb : ∀ call ∈ searching, call.kind ≠ .probe ∧ call.kind ≠ .resolve := by
      intro call hm
      rcases search.kind_eq call hm with h | h <;> simp [h]
    have := selection.resolvesMatch.around searching [] hb (by simp)
    rwa [List.append_nil] at this
  case custom =>
    intro source' strategy _ hs hk
    cases chosen with
    | error e => cases hs
    | ok strategy' =>
      cases hs
      obtain ⟨name, image, hb, rfl, hi⟩ := selection.custom hk
      exact ⟨name, image, hb, List.mem_append_right _ List.mem_cons_self, hi⟩

end CallLaw

/-- Every run asks its collaborators as `CallLaw` says, whatever they answer. -/
theorem generate_calls (c : Collaborators (StateM σ)) (r : Request) (s : σ) :
    Records (generate c.noted r) (generate c r) s
      fun calls result _ =>
        CallLaw c.detectors r (runFrom (findSource c r) s).1 (runFrom (settle c r) s).1 calls
          result := by
  by_cases hp : r.port = some 0
  · rw [generate_eq, generate_eq, if_pos hp, if_pos hp]
    exact Records.throw _ (.of_port_zero hp _)
  · refine (generate_records c hp s).mono ?_
    rintro calls result - ⟨course, hr⟩
    generalize (runFrom (findSource c r) s).1 = found at course ⊢
    generalize (runFrom (settle c r) s).1 = settled at course hr ⊢
    cases course with
    | lost search =>
      rw [hr]
      exact .of_lost hp search
    | found search selection =>
      refine .of_found hp search selection fun e he => ?_
      rw [hr, he]
      rfl

end DeployPlan
