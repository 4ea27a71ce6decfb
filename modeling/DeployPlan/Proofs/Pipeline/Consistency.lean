import DeployPlan.Proofs.Pipeline.Links

/-!
# Pipelines are consistent

If the parts of a pipeline fit together, the definition of its build is never half filled: it has
the one section that its kind names, and starts from the base (`complete_buildConfig`). Whether the
result runs may be decided any number of times; the last decision counts (`decideAll_eq`).
`new_consistent` says which parts are accepted, and what the objects of the pipeline are after any
decisions.
-/

namespace DeployPlan

/-! ## Builds -/

/-- The kinds of the sections that a strategy has. -/
def BuildStrategy.sections (s : BuildStrategy) : List StrategyKind :=
  (s.buildFile.map fun _ => .buildFile).toList ++ (s.builder.map fun _ => .builderImage).toList ++
    (s.custom.map fun _ => .customTooling).toList

/-- The definition of a build is complete for what it is made from. -/
structure BuildConfig.Complete (b : BuildConfig) (base : Option Image) (strategy : Strategy)
    (source : Source) : Prop where
  kind : b.strategy.kind = strategy.kind
  /-- There is one section, that of the kind. -/
  sections : b.strategy.sections = [strategy.kind]
  /-- It names the base and no other image. -/
  references : b.strategy.references = base.toList.map Pipeline.baseReference
  /-- With a build file it names one if there is a base, and otherwise it always does. -/
  referring : (∃ ref, b.strategy.references = [ref]) ↔
    strategy.kind ≠ .buildFile ∨ ∃ image, base = some image
  /-- A base that is tracked starts the build, by the reference that the section has. -/
  imageChange : ∀ ref tag, .imageChange ref tag ∈ b.triggers ↔
    ∃ image, base = some image ∧ image.isTracked = true ∧ b.strategy.references = [ref] ∧
      tag = image.name.tagOrDefault
  configChange : b.triggers.getLast? = some .configChange
  remote : ∀ address, source.location = .url address →
    b.source.kind = "Git" ∧ b.source.git = some { uri := address, ref := source.ref }
  uploaded : ∀ path, source.location = .directory path →
    b.source.kind = "Binary" ∧ b.source.git = none

namespace Pipeline

variable {name : String} {base : Option Image} {strategy : Strategy} {source : Source}
  {p : Pipeline}

/-- The strategy of a build has the section of its kind. -/
theorem sections_buildStrategy (h : Fits p.name p.base p.strategy) :
    p.buildStrategy.sections = [p.strategy.kind] := by
  rw [buildStrategy, BuildStrategy.sections]
  cases hk : p.strategy.kind with
  | buildFile => rfl
  | builderImage =>
    obtain ⟨image, hb⟩ := h.based (by simp [hk])
    simp [hb]
  | customTooling =>
    obtain ⟨image, hb⟩ := h.based (by simp [hk])
    simp [hb]

theorem getLast?_buildTriggers (p : Pipeline) : p.buildTriggers.getLast? = some .configChange := by
  rw [buildTriggers_eq, List.getLast?_concat]

/-- The definition of the build is complete if the parts of the pipeline fit together. -/
theorem complete_buildConfig (h : Fits p.name p.base p.strategy) :
    p.buildConfig.Complete p.base p.strategy p.source := by
  have href : p.buildStrategy.references = p.base.toList.map baseReference :=
    p.references_buildStrategy
  refine
    { kind := p.kind_buildStrategy
      sections := sections_buildStrategy h
      references := href
      referring := ?referring
      imageChange := ?imageChange
      configChange := p.getLast?_buildTriggers
      remote := ?remote
      uploaded := ?uploaded }
  case referring =>
    show (∃ ref, p.buildStrategy.references = [ref]) ↔ _
    rw [href]
    cases hb : p.base with
    | some image => simp
    | none =>
      have hk : p.strategy.kind = .buildFile := by
        refine Decidable.byContradiction fun hk => ?_
        obtain ⟨image, hi⟩ := h.based hk
        cases hb.symm.trans hi
      simp [hk]
  case imageChange =>
    intro ref tag
    show _ ∈ p.buildTriggers ↔ ∃ image, _ ∧ _ ∧ p.buildStrategy.references = [ref] ∧ _
    rw [imageChange_mem_buildTriggers]
    refine exists_congr fun image => and_congr_right fun hb => and_congr_right fun _ => ?_
    rw [href, hb]
    simp [eq_comm]
  case remote =>
    intro address hl
    simp [buildConfig, buildSource, Source.uri?, hl]
  case uploaded =>
    intro path hl
    simp [buildConfig, buildSource, Source.uri?, hl]

/-! ## Decisions -/

/-- Decides again and again whether the result runs, each time with other variables: the answers,
and the pipeline after the last one. -/
def decideAll (p : Pipeline) : List (StringMap String) → List Bool × Pipeline
  | [] => ([], p)
  | env :: envs =>
    let (runs, p) := p.needsDeployment env
    let (rest, p) := decideAll p envs
    (runs :: rest, p)

/-- All answers are the same, and the last decision counts. -/
theorem decideAll_eq (p : Pipeline) (envs : List (StringMap String)) :
    p.decideAll envs =
      (envs.map fun _ => !p.strategy.isBuildOnly,
        { p with deployment := (envs.getLast?.map p.planFor).getD p.deployment }) := by
  induction envs generalizing p with
  | nil => rfl
  | cons env envs ih =>
    rw [decideAll, needsDeployment_eq]
    dsimp only
    rw [ih, List.getLast?_cons]
    cases envs.getLast? <;> rfl

end Pipeline

/-! ## Objects -/

def Object.build? : Object → Option BuildConfig
  | .buildConfig b => some b
  | _ => none

def Object.deployment? : Object → Option DeploymentConfig
  | .deploymentConfig d => some d
  | _ => none

/-- A deployment runs one container, with the variables of the base and those of `env`, which count
where both have one. -/
def DeploymentConfig.RunsWith (d : DeploymentConfig) (base : Option Image)
    (env : StringMap String) : Prop :=
  ∃ container vars, d.template.containers = some [container] ∧
    container.env.getD [] = (StringMap.entries vars).map .ofEntry ∧
    ∀ k, vars.get? k = (env.get? k).or (base.bind (·.env.get? k))

/-- Some objects are those of a pipeline after decisions with the variables `envs`. -/
structure Consistent (base : Option Image) (strategy : Strategy) (source : Source)
    (envs : List (StringMap String)) (answers : List Bool) (objects : List Object) : Prop where
  /-- One build is defined, and its definition is complete. -/
  build : ∃ b, objects.filterMap Object.build? = [b] ∧ b.Complete base strategy source
  /-- All decisions are the same. -/
  uniform : answers = envs.map fun _ => !strategy.isBuildOnly
  /-- If the last answer is yes, there is a deployment, with the variables of that decision. -/
  deployed : answers.getLast? = some true → ∃ env d, envs.getLast? = some env ∧
    objects.filterMap Object.deployment? = [d] ∧ d.RunsWith base env
  /-- If it is no, or nothing was decided, there is none. -/
  undeployed : answers.getLast? ≠ some true → objects.filterMap Object.deployment? = []

namespace Pipeline

variable {p : Pipeline}

theorem filterMap_build?_drafts (p : Pipeline) :
    p.drafts.filterMap Object.build? = [p.buildConfig] := by
  rw [drafts]
  cases p.baseRepository? <;> cases p.deployment <;> rfl

theorem filterMap_deployment?_drafts (p : Pipeline) :
    p.drafts.filterMap Object.deployment? = p.deployment.toList.map p.deploymentConfig := by
  rw [drafts]
  cases p.baseRepository? <;> cases p.deployment <;> rfl

/-- A deployment runs with what its plan says. -/
theorem runsWith_deploymentConfig {env : StringMap String} {plan : DeploymentPlan}
    (h : p.planFor env = some plan) : (p.deploymentConfig plan).RunsWith p.base env := by
  rw [planFor] at h
  split at h
  · cases h
  · cases h
    refine ⟨_, _, rfl, unlessEmpty_getD _, fun k => ?_⟩
    rw [StringMap.get?_overlay_eq_or]
    cases p.base <;> rfl

/-- What is drafted after some decisions is consistent, if the parts of the pipeline fit together
and nothing was decided before. -/
theorem consistent_drafts (h : Fits p.name p.base p.strategy) (hd : p.deployment = none)
    (envs : List (StringMap String)) :
    Consistent p.base p.strategy p.source envs (p.decideAll envs).1
      (p.decideAll envs).2.drafts := by
  rw [decideAll_eq]
  refine
    { build := ⟨p.buildConfig, filterMap_build?_drafts _, complete_buildConfig h⟩
      uniform := rfl
      deployed := fun hlast => ?deployed
      undeployed := fun hlast => ?undeployed }
  case deployed =>
    rw [List.getLast?_map] at hlast
    obtain ⟨env, he, hruns⟩ := Option.map_eq_some_iff.mp hlast
    rw [← p.isSome_planFor env] at hruns
    obtain ⟨plan, hplan⟩ := Option.isSome_iff_exists.mp hruns
    refine ⟨env, p.deploymentConfig plan, he, ?_, runsWith_deploymentConfig hplan⟩
    rw [filterMap_deployment?_drafts, he, Option.map_some, hplan]
    rfl
  case undeployed =>
    have hnone : (envs.getLast?.map p.planFor).getD p.deployment = none := by
      rw [List.getLast?_map] at hlast
      cases he : envs.getLast? with
      | none => exact hd
      | some env =>
        rw [he, Option.map_some, ← p.isSome_planFor env] at hlast
        exact Option.not_isSome_iff_eq_none.mp fun hs => hlast (congrArg some hs)
    rw [filterMap_deployment?_drafts]
    dsimp only
    rw [hnone]
    rfl

/-- A builder image in a registry that sets a variable. -/
def rubyBuilder : Image where
  name := { group := some "centos", name := "ruby" }
  env := .ofList [("RACK_ENV", "production")]
  origin := .registry

def rubyApp : Pipeline where
  name := "app"
  base := some rubyBuilder
  source := { name := "app", location := .url "https://git.example/app.git" }
  strategy := { kind := .builderImage, base := some rubyBuilder }

/-- The variables of two decisions. -/
def rubyVariables : List (StringMap String) :=
  [.ofList [("RACK_ENV", "test")], .ofList [("PORT", "8080")]]

end Pipeline

end DeployPlan
