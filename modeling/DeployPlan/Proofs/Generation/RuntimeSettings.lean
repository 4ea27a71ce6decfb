import DeployPlan.Proofs.Generation.Objects

/-!
# Settings of the caller

A request says what to build, and beside that with which settings: a port, variables, and options of
the build. `generate_indifferent` says that the settings of a request touch nothing but their own
place in the objects. Requests for the same build (`Request.SameBuild`) make the same calls in the
same order and fail with the same error, and where they succeed, their plans are alike
(`PlanParts.Alike`).

All calls are made before the settings are looked at: a run is one computation that does not know
them (`settle` for `Request.bare`), and a plan of what it settles.
-/

namespace DeployPlan

variable {σ : Type}

namespace Request

/-- Both requests say the same of what is to be built. -/
structure SameBuild (r r' : Request) : Prop where
  location : r'.location = r.location
  name : r'.name = r.name
  ref : r'.ref = r.ref
  strategy : r'.strategy = r.strategy

/-- The request without its settings. -/
def bare (r : Request) : Request where
  location := r.location
  name := r.name
  ref := r.ref
  strategy := r.strategy

def onlyBuild (r : Request) : Request :=
  { r with options := { r.options with buildOnly := true } }

theorem SameBuild.bare_eq {r r' : Request} (h : r.SameBuild r') : r'.bare = r.bare := by
  simp only [bare, h.location, h.name, h.ref, h.strategy]

theorem sameBuild_onlyBuild (r : Request) : r.SameBuild r.onlyBuild :=
  ⟨rfl, rfl, rfl, rfl⟩

end Request

/-! ## Plans that are alike -/

/-- The strategy with these options of the caller in it. -/
def BuildStrategy.withOptions (strategy : BuildStrategy) (options : StrategyOptions) :
    BuildStrategy :=
  { strategy with
    buildFile := strategy.buildFile.map ({ · with noCache := options.noCache })
    builder := strategy.builder.map ({ · with incremental := options.incremental }) }

def BuildConfig.withOptions (build : BuildConfig) (options : StrategyOptions) : BuildConfig :=
  { build with strategy := build.strategy.withOptions options }

/-- The deployment without the ports and variables of its containers. -/
def DeploymentConfig.withoutSettings (d : DeploymentConfig) : DeploymentConfig :=
  { d with template :=
    { d.template with
      containers := d.template.containers.map (·.map ({ · with ports := none, env := none }))
      specified h := d.template.specified (Option.map_eq_none_iff.mp h) } }

/-- What two plans have in common whose requests are for the same build. -/
structure PlanParts.Alike (options options' : StrategyOptions) (p p' : PlanParts) : Prop where
  output : p'.output = p.output
  base : p'.base = p.base
  /-- Each build has the options of its own request, and but for these they are the same. -/
  build : p.build = p'.build.withOptions options
  build' : p'.build = p.build.withOptions options'
  deployment : ∀ d d', p.deployment = some d → p'.deployment = some d' →
    d'.withoutSettings = d.withoutSettings

/-- What comes of two requests for the same build. -/
inductive SameOutcome (options options' : StrategyOptions) :
    Except Error (List Object) → Except Error (List Object) → Prop
  | refused (e : Error) : SameOutcome options options' (.error e) (.error e)
  | planned {p p' : PlanParts} (h : p.Alike options options' p') :
    SameOutcome options options' (.ok p.objects) (.ok p'.objects)

theorem PlanParts.filter_objects (p : PlanParts) :
    p.objects.filter Object.isIdle = p.groundwork := by
  have hg : p.groundwork.filter Object.isIdle = p.groundwork :=
    List.filter_eq_self.mpr p.isIdle_groundwork
  have hd : (p.deployment.toList.map Object.deploymentConfig).filter Object.isIdle = [] := by
    cases p.deployment <;> rfl
  have hs : (p.services.map Object.service).filter Object.isIdle = [] := by
    simp [List.filter_map, Function.comp_def, Object.isIdle]
  rw [objects, List.filter_append, List.filter_append, hg, hd, hs, List.append_nil, List.append_nil]

/-! ## The part of a run that knows no settings -/

def Strategy.withSettings (strategy : Strategy) (r : Request) : Strategy :=
  { strategy with options := r.options, portOverride := r.port }

/-- The options are only put into the strategy that is selected. -/
theorem Strategy.select_eq (c : Collaborators (StateM σ)) (source : Source)
    (choice : Option StrategyOverride) (options : StrategyOptions) :
    select c.files c.resolver c.fetcher c.detectors source choice options =
      select c.files c.resolver c.fetcher c.detectors source choice {} >>= fun strategy =>
        pure { strategy with options } := by
  rcases choice with _ | _ | _ <;> simp only [select, bind_assoc, pure_bind]

/-- A run settles source and strategy without the settings, and then makes a plan with them. -/
theorem generate_eq_bare (c : Collaborators (StateM σ)) {r : Request} (hp : r.port ≠ some 0) :
    generate c r = settle c r.bare >>= fun (source, strategy) =>
      liftM (plan source (strategy.withSettings r) r.env) := by
  rw [generate_eq, if_neg hp, settle, settle]
  simp only [bind_assoc, pure_bind]
  refine bind_congr (x := findSource c r) fun source => ?_
  rw [Strategy.select_eq]
  simp only [bind_assoc, pure_bind]
  rfl

/-- The calls of a run, what it settles and the state that it leaves are the same for every request
for the same build. -/
theorem generate_records_bare (c : Collaborators (StateM σ)) (r : Request) (s : σ) :
    ∃ (calls : List Call) (settled : Except Error (Source × Strategy)) (t : σ),
      ∀ r', r.SameBuild r' → r'.port ≠ some 0 →
      Records (generate c.noted r') (generate c r') s fun calls' result t' =>
        calls' = calls ∧ t' = t ∧ result = settled.bind fun (source, strategy) =>
          plan source (strategy.withSettings r') r'.env := by
  obtain ⟨calls, hrun, -⟩ := settle_records c r.bare s
  refine ⟨calls, (runFrom (settle c r.bare) s).1, (runFrom (settle c r.bare) s).2, ?_⟩
  intro r' h hp
  rw [generate_eq_bare c hp, generate_eq_bare c.noted hp, h.bare_eq]
  have settled : Records (settle c.noted r.bare) (settle c r.bare) s fun calls' result t =>
      calls' = calls ∧ runFrom (settle c r.bare) s = (result, t) := ⟨calls, hrun, rfl, rfl⟩
  refine Records.bind settled ?_ ?_
  · rintro _ ⟨source, strategy⟩ t ⟨rfl, hr⟩
    rw [hr]
    exact Notes.pure id (plan source (strategy.withSettings r') r'.env)
      ⟨List.append_nil _, rfl, rfl⟩
  · rintro _ e t ⟨rfl, hr⟩
    rw [hr]
    exact ⟨rfl, rfl, rfl⟩

/-! ## Plans with settings -/

namespace Pipeline

/-- Either there is no plan with any settings, or there is one with all. -/
theorem plan_withSettings (source : Source) (strategy : Strategy) :
    (∃ e, ∀ r, plan source (strategy.withSettings r) r.env = .error e) ∨
      ∀ r, plan source (strategy.withSettings r) r.env =
        .ok (ofStrategy source (strategy.withSettings r) r.env).parts.objects := by
  have hfault (r : Request) : fault? source.name (strategy.withSettings r).base
      (strategy.withSettings r) = fault? source.name strategy.base strategy := rfl
  simp only [plan_eq, hfault]
  cases fault? source.name strategy.base strategy with
  | some e => exact .inl ⟨e, fun _ => rfl⟩
  | none => exact .inr fun _ => rfl

/-- The options of a strategy are in the build, and nowhere else in it. -/
theorem buildStrategy_eq_withOptions (p : Pipeline) (strategy : Strategy)
    (hk : strategy.kind = p.strategy.kind) :
    ({ p with strategy } : Pipeline).buildStrategy =
      p.buildStrategy.withOptions strategy.options := by
  simp only [buildStrategy, hk]
  cases p.strategy.kind <;> cases p.base <;> rfl

theorem buildConfig_withSettings (source : Source) (strategy : Strategy) (r r' : Request) :
    (ofStrategy source (strategy.withSettings r) r.env).buildConfig =
      (ofStrategy source (strategy.withSettings r') r'.env).buildConfig.withOptions r.options := by
  have hs := buildStrategy_eq_withOptions (ofStrategy source (strategy.withSettings r') r'.env)
    (strategy.withSettings r) rfl
  exact congrArg (fun build =>
    { (ofStrategy source (strategy.withSettings r) r.env).buildConfig with strategy := build }) hs

theorem parts_alike (source : Source) (strategy : Strategy) (r r' : Request) :
    (ofStrategy source (strategy.withSettings r) r.env).parts.Alike r.options r'.options
      (ofStrategy source (strategy.withSettings r') r'.env).parts where
  output := rfl
  base := rfl
  build := buildConfig_withSettings source strategy r r'
  build' := buildConfig_withSettings source strategy r' r
  deployment d d' h h' := by
    obtain ⟨plan, -, rfl⟩ := Option.map_eq_some_iff.mp h
    obtain ⟨plan', -, rfl⟩ := Option.map_eq_some_iff.mp h'
    rfl

/-- With the build alone, the same plan has nothing that runs. -/
theorem objects_onlyBuild (source : Source) (strategy : Strategy) (r : Request) :
    (ofStrategy source (strategy.withSettings r.onlyBuild) r.env).parts.objects =
      (ofStrategy source (strategy.withSettings r) r.env).parts.objects.filter Object.isIdle := by
  rw [PlanParts.filter_objects, PlanParts.objects]
  exact List.append_nil _

end Pipeline

/-! ## Two runs -/

/-- Requests for the same build make the same calls in the same order. They fail with the same
error, or their plans differ only in what each request itself asks for: in the options of the build,
and in the ports and variables of a deployment. Of a plan, a request for a build alone leaves all
but the deployment and the services. -/
theorem generate_indifferent {r r' : Request} (h : r.SameBuild r') (hp : r.port ≠ some 0)
    (hp' : r'.port ≠ some 0) (c : Collaborators (StateM σ)) (s : σ) :
    (∃ calls t,
      Records (generate c.noted r) (generate c r) s
        (fun calls' _ t' => calls' = calls ∧ t' = t) ∧
      Records (generate c.noted r') (generate c r') s
        fun calls' _ t' => calls' = calls ∧ t' = t) ∧
    SameOutcome r.options r'.options (runFrom (generate c r) s).1 (runFrom (generate c r') s).1 ∧
    (runFrom (generate c r.onlyBuild) s).1 =
      (runFrom (generate c r) s).1.map (·.filter Object.isIdle) := by
  obtain ⟨calls, settled, t, hall⟩ := generate_records_bare c r s
  have records := hall r ⟨rfl, rfl, rfl, rfl⟩ hp
  have records' := hall r' h hp'
  have recordsOnly := hall r.onlyBuild r.sameBuild_onlyBuild hp
  refine ⟨⟨calls, t, records.mono fun _ _ _ h => ⟨h.1, h.2.1⟩,
    records'.mono fun _ _ _ h => ⟨h.1, h.2.1⟩⟩, ?_⟩
  obtain ⟨-, -, -, -, hr⟩ := records
  obtain ⟨-, -, -, -, hr'⟩ := records'
  obtain ⟨-, -, -, -, ho⟩ := recordsOnly
  rw [runFrom, runFrom, runFrom, hr, hr', ho]
  rcases settled with e | ⟨source, strategy⟩
  · exact ⟨.refused e, rfl⟩
  show SameOutcome _ _ (plan source (strategy.withSettings r) r.env)
      (plan source (strategy.withSettings r') r'.env) ∧
    plan source (strategy.withSettings r.onlyBuild) r.onlyBuild.env =
      (plan source (strategy.withSettings r) r.env).map _
  rcases Pipeline.plan_withSettings source strategy with ⟨e, he⟩ | hplan
  · rw [he r, he r', he r.onlyBuild]
    exact ⟨.refused e, rfl⟩
  · rw [hplan r, hplan r', hplan r.onlyBuild]
    exact ⟨.planned (Pipeline.parts_alike source strategy r r'),
      congrArg Except.ok (Pipeline.objects_onlyBuild source strategy r)⟩

/-- The source in the directory `/ruby`, with a port and a variable, to be built without cache. -/
def tunedRuby : Request :=
  { rubySource none with
    port := some 9000
    env := StringMap.empty.insert "MODE" "fast"
    options := { noCache := true } }

/-- The port that is asked for leaves one service of two, and the rest of the plan as it is. -/
theorem generate_indifferent_tuned :
    (∃ objects objects',
      (runFrom (generate rubyFiles (rubySource none)) ()).1 = .ok objects ∧
      objects.map Object.key = [⟨.imageRepository, "ruby"⟩, ⟨.buildConfig, "ruby"⟩,
        ⟨.deploymentConfig, "ruby"⟩, ⟨.service, "ruby"⟩, ⟨.service, "ruby-8443"⟩] ∧
      (runFrom (generate rubyFiles tunedRuby) ()).1 = .ok objects' ∧
      objects'.map Object.key = [⟨.imageRepository, "ruby"⟩, ⟨.buildConfig, "ruby"⟩,
        ⟨.deploymentConfig, "ruby"⟩, ⟨.service, "ruby"⟩]) ∧
    (∃ calls t,
      Records (generate rubyFiles.noted (rubySource none)) (generate rubyFiles (rubySource none)) ()
        (fun calls' _ t' => calls' = calls ∧ t' = t) ∧
      Records (generate rubyFiles.noted tunedRuby) (generate rubyFiles tunedRuby) ()
        fun calls' _ t' => calls' = calls ∧ t' = t) ∧
    SameOutcome {} { noCache := true } (runFrom (generate rubyFiles (rubySource none)) ()).1
      (runFrom (generate rubyFiles tunedRuby) ()).1 ∧
    (runFrom (generate rubyFiles (rubySource none).onlyBuild) ()).1 =
      (runFrom (generate rubyFiles (rubySource none)) ()).1.map (·.filter Object.isIdle) := by
  have same : (rubySource none).SameBuild tunedRuby := ⟨rfl, rfl, rfl, rfl⟩
  exact ⟨⟨_, _, rfl, rfl, rfl, rfl⟩,
    generate_indifferent same (by decide) (by decide) rubyFiles ()⟩

end DeployPlan
