import DeployPlan.Proofs.Generation.Objects

/-!
# A build and its base

What a build starts from, and what starts it, is its base. A base in a registry is referred to by
its name alone, as the result of the build is, so the two can meet: the repository of the result
then takes the place of the one that follows the base (`ShadowsBase`). `build_takes_base` says
that this is the only way: any other build takes nothing from its own result, and what it takes from
a registry is the one repository of that name among the objects, which follows the base.
-/

namespace DeployPlan

/-- The reference is to a repository of its own project, and `repo` is the only one of that name
among the objects. -/
structure ImageReference.Denotes (ref : ImageReference) (objects : List Object)
    (repo : ImageRepository) : Prop where
  isLocal : ref.isLocal = true
  unique : ∀ other, (.imageRepository other ∈ objects ∧ other.metadata.name = some ref.name) ↔
    other = repo

/-- Whether the base lies in a registry under the given name. The repository of a result of that
name takes the place of the one that would follow the base. -/
def ShadowsBase (name : String) (base : Option Image) : Prop :=
  ∃ image, base = some image ∧ image.origin = .registry ∧ image.name.name = name

/-- How the one build among some objects takes its base, for a result of the given name. -/
structure TakesBase (name : String) (base : Option Image) (objects : List Object)
    (build : BuildConfig) : Prop where
  only : ∀ other, .buildConfig other ∈ objects ↔ other = build
  /-- A build takes nothing from its own result. -/
  apart : ¬ ShadowsBase name base → ∀ ref ∈ build.inputs, ref ≠ build.output
  /-- What it takes from a registry is a repository that follows the base. -/
  follows : ¬ ShadowsBase name base → ∀ image, base = some image → image.origin = .registry →
    ∀ ref ∈ build.inputs, ∃ repo, ref.Denotes objects repo ∧
      repo.follows = some image.name.location
  /-- Where the result has the name of the base, its repository is the only one, and follows
  nothing. -/
  shadowed : ShadowsBase name base → ∃ repo, build.output.Denotes objects repo ∧
    repo.follows = none ∧ ∀ other, .imageRepository other ∈ objects ↔ other = repo

namespace Pipeline

variable {p : Pipeline} {base : Image}

theorem baseReference_of_registry (ho : base.origin = .registry) :
    baseReference base = .repository base.name.name none := by
  rw [baseReference, ho]

/-- The base and the result are referred to alike only if the base lies in a registry and has the
name of the result. -/
theorem of_baseReference_eq_output (h : baseReference base = p.outputReference) :
    base.origin = .registry ∧ base.name.name = p.name := by
  have hl : (baseReference base).isLocal = true := by rw [h]; rfl
  obtain ⟨ho, hn⟩ := isLocal_baseReference hl
  refine ⟨ho, ?_⟩
  rw [← hn, h]
  rfl

theorem parts_base_of_name_eq (hb : p.base = some base) (hn : base.name.name = p.name) :
    p.parts.base = none := by
  show p.baseRepository?.filter (fun repo => repo.metadata.name ≠ some p.name) = none
  refine Option.filter_eq_none_iff.mpr fun repo hr => ?_
  obtain ⟨base', hb', -, rfl⟩ := baseRepository?_eq_some hr
  obtain rfl : base = base' := Option.some.inj (hb.symm.trans hb')
  simp [Metadata.named, hn]

/-- A base with a name of its own is referred to by the one repository that follows it. -/
theorem denotes_followerOf (hb : p.base = some base) (ho : base.origin = .registry)
    (hn : base.name.name ≠ p.name) :
    (baseReference base).Denotes p.parts.objects (followerOf base) where
  isLocal := by
    rw [baseReference_of_registry ho]
    rfl
  unique other := by
    rw [PlanParts.imageRepository_mem_objects, parts_base_of_name_ne hb ho hn,
      baseReference_of_registry ho]
    constructor
    · rintro ⟨rfl | h, hname⟩
      · exact absurd (Option.some.inj hname).symm hn
      · exact (Option.some.inj h).symm
    · rintro rfl
      exact ⟨.inr rfl, rfl⟩

theorem parts_takesBase (p : Pipeline) :
    TakesBase p.name p.base p.parts.objects p.buildConfig where
  only _ := PlanParts.buildConfig_mem_objects
  apart hn ref hr heq := by
    obtain ⟨base, hb, rfl⟩ := mem_inputs_buildConfig hr
    exact hn ⟨base, hb, of_baseReference_eq_output heq⟩
  follows hn base hb ho ref hr := by
    obtain ⟨base', hb', rfl⟩ := mem_inputs_buildConfig hr
    obtain rfl : base = base' := Option.some.inj (hb.symm.trans hb')
    exact ⟨followerOf base, denotes_followerOf hb ho fun he => hn ⟨base, hb, ho, he⟩, rfl⟩
  shadowed := by
    rintro ⟨base, hb, -, hn⟩
    have hall : ∀ other, .imageRepository other ∈ p.parts.objects ↔ other = p.outputRepository := by
      intro other
      rw [PlanParts.imageRepository_mem_objects, parts_base_of_name_eq hb hn]
      exact or_iff_left (nomatch ·)
    refine ⟨p.outputRepository, ⟨rfl, fun other => ?_⟩, rfl, hall⟩
    rw [hall other]
    exact and_iff_left_of_imp fun h => by rw [h]; rfl

end Pipeline

variable {σ : Type} {c : Collaborators (StateM σ)} {r : Request} {s : σ} {objects : List Object}

/-- In a run that succeeds there is one build. Unless its base lies in a registry under the name of
the source, it takes nothing from its own result, and what it takes from a registry is the one
repository of that name among the objects, which follows the base. Otherwise the repository of the
result is the only one, and follows nothing. -/
theorem build_takes_base (h : (runFrom (generate c r) s).1 = .ok objects) :
    ∃ source strategy build, (runFrom (settle c r) s).1 = .ok (source, strategy) ∧
      TakesBase source.name strategy.base objects build := by
  obtain ⟨source, strategy, -, hs, hplan⟩ := generate_eq_ok h
  have hb := Pipeline.parts_takesBase
    (.ofStrategy source { strategy with portOverride := r.port } r.env)
  rw [Pipeline.plan_eq_ok hplan]
  exact ⟨source, strategy, _, hs, hb⟩

/-- A source `ruby` with the base `ruby` in a registry: the build takes its own result and starts
when that changes, and the only repository follows nothing. -/
theorem build_takes_its_result :
    ∃ output build rest,
      (runFrom (generate rubyFiles (rubySource (some (.builderImage "ruby")))) ()).1
        = .ok (.imageRepository output :: .buildConfig build :: rest) ∧
      rest.map Object.kind = [.deploymentConfig, .service, .service] ∧
      output.follows = none ∧
      build.output ∈ build.strategy.references ∧
      .imageChange build.output "latest" ∈ build.triggers :=
  ⟨_, _, _, rfl, rfl, rfl, List.mem_cons_self, List.mem_cons_self⟩

/-- The base `python` of the source `ruby` has a repository of its own. -/
theorem build_takes_base_python :
    ∃ objects,
      (runFrom (generate rubyFiles (rubySource (some (.builderImage "python")))) ()).1
        = .ok objects ∧
      objects.map Object.key = [⟨.imageRepository, "ruby"⟩, ⟨.imageRepository, "python"⟩,
        ⟨.buildConfig, "ruby"⟩, ⟨.deploymentConfig, "ruby"⟩, ⟨.service, "ruby"⟩,
        ⟨.service, "ruby-8443"⟩] ∧
      ∃ source strategy build,
        (runFrom (settle rubyFiles (rubySource (some (.builderImage "python")))) ()).1
          = .ok (source, strategy) ∧
        TakesBase source.name strategy.base objects build :=
  ⟨_, rfl, rfl, build_takes_base rfl⟩

end DeployPlan
