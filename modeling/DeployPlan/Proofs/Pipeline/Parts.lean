import DeployPlan.Generation
import DeployPlan.Proofs.Object.Services
import DeployPlan.Proofs.Pipeline.Assembly

/-!
# The parts of a plan

A plan consists of the repository for the result, perhaps one that follows the base, the definition
of the build, perhaps that of a deployment, and the services of its ports. `Pipeline.parts` says
what these are for a pipeline, and `Pipeline.objects_parts` that nothing is lost or added on the way
from the drafts to the plan: only the repository of a base with the name of the result is left out,
as that of the result stands for it. `plan_eq` says the same of a plan for a source and a
strategy.
-/

namespace DeployPlan

/-- What a plan consists of. -/
structure PlanParts where
  /-- The repository for the result of the build. -/
  output : ImageRepository
  /-- The repository that follows the base. -/
  base : Option ImageRepository
  build : BuildConfig
  deployment : Option DeploymentConfig
  services : List Service

namespace PlanParts

/-- The objects that do not depend on others: the repositories and the build. -/
def groundwork (p : PlanParts) : List Object :=
  .imageRepository p.output :: (p.base.toList.map .imageRepository ++ [.buildConfig p.build])

/-- The objects, in the order in which the platform needs them. -/
def objects (p : PlanParts) : List Object :=
  p.groundwork ++ (p.deployment.toList.map .deploymentConfig ++ p.services.map .service)

theorem isIdle_groundwork (p : PlanParts) : ∀ o ∈ p.groundwork, o.isIdle = true := by
  intro o ho
  rcases List.mem_cons.mp ho with rfl | ho
  · rfl
  · rcases List.mem_append.mp ho with ho | ho
    · obtain ⟨repo, -, rfl⟩ := List.mem_map.mp ho
      rfl
    · rw [List.mem_singleton.mp ho]
      rfl

theorem buildConfig_mem_objects {p : PlanParts} {build : BuildConfig} :
    .buildConfig build ∈ p.objects ↔ build = p.build := by
  simp [objects, groundwork]

theorem imageRepository_mem_objects {p : PlanParts} {repo : ImageRepository} :
    .imageRepository repo ∈ p.objects ↔ repo = p.output ∨ p.base = some repo := by
  simp [objects, groundwork]

theorem deploymentConfig_mem_objects {p : PlanParts} {d : DeploymentConfig} :
    .deploymentConfig d ∈ p.objects ↔ p.deployment = some d := by
  simp [objects, groundwork]

end PlanParts

/-! ## Ports -/

theorem distinctPorts_eq_self {seen ports : List Int} (hn : ports.Nodup)
    (hs : ∀ p ∈ ports, p ∉ seen) : distinctPorts seen ports = ports := by
  induction ports generalizing seen with
  | nil => rfl
  | cons port ports ih =>
    obtain ⟨hp, hn⟩ := List.nodup_cons.mp hn
    have hc : seen.contains port = false := by simpa using hs port List.mem_cons_self
    rw [distinctPorts, hc, if_neg Bool.false_ne_true, ih hn]
    intro p hm h
    rcases List.mem_cons.mp h with rfl | h
    · exact hp hm
    · exact hs p (List.mem_cons_of_mem _ hm) h

/-- The ports that the containers of a deployment declare, one after the other. -/
def DeploymentConfig.declaredPorts (d : DeploymentConfig) : List Int :=
  (d.template.containers.getD []).flatMap fun c => (c.ports.getD []).map (·.number)

theorem Strategy.exposedPorts_sorted (s : Strategy) : s.exposedPorts.Pairwise (· < ·) := by
  rw [exposedPorts]
  split
  · exact List.pairwise_singleton ..
  · split
    · split
      · exact s.detectedPorts.sorted
      · exact PortSet.sorted _
    · exact s.detectedPorts.sorted

theorem nodup_of_sorted {ports : List UInt16} (h : ports.Pairwise (· < ·)) :
    (ports.map fun port => (port.toNat : Int)).Nodup := by
  refine List.Pairwise.map _ (fun p q hpq heq => ?_) h
  have : p.toNat < q.toNat := hpq
  omega

namespace Pipeline

/-! ## The parts of a pipeline -/

/-- What the plan for a pipeline consists of. The result of the build stands for a base with the
same name. -/
def parts (p : Pipeline) : PlanParts where
  output := p.outputRepository
  base := p.baseRepository?.filter fun repo => repo.metadata.name ≠ some p.name
  build := p.buildConfig
  deployment := p.deployment.map p.deploymentConfig
  services := p.deployment.elim [] fun plan =>
    portServices p.name p.selector (plan.ports.map fun port => (port.toNat : Int))

theorem unlessEmpty_getD {α : Type} (l : List α) : (unlessEmpty l).getD [] = l := by
  cases l <;> rfl

theorem unlessEmpty_eq_none_iff {α : Type} {l : List α} : unlessEmpty l = none ↔ l = [] := by
  cases l <;> simp [unlessEmpty]

theorem unlessEmpty_map {α β : Type} (f : α → β) (l : List α) :
    unlessEmpty (l.map f) = (unlessEmpty l).map (·.map f) := by
  cases l <;> rfl

theorem declaredPorts_deploymentConfig (p : Pipeline) (plan : DeploymentPlan) :
    (p.deploymentConfig plan).declaredPorts = plan.ports.map fun port => (port.toNat : Int) := by
  show ((p.container plan).ports.getD []).map ContainerPort.number ++ [] = _
  rw [container, unlessEmpty_getD, List.append_nil, List.map_map]
  rfl

theorem containerPorts_deploymentConfig (p : Pipeline) {plan : DeploymentPlan}
    (h : plan.ports.Pairwise (· < ·)) :
    (p.deploymentConfig plan).containerPorts = plan.ports.map fun port => (port.toNat : Int) := by
  rw [DeploymentConfig.containerPorts, ← DeploymentConfig.declaredPorts,
    declaredPorts_deploymentConfig]
  exact distinctPorts_eq_self (nodup_of_sorted h) fun _ _ => List.not_mem_nil

/-- The repository of the base bears the name of the base. -/
theorem baseRepository?_eq_some {p : Pipeline} {repo : ImageRepository}
    (h : p.baseRepository? = some repo) :
    ∃ base, p.base = some base ∧ base.origin = .registry ∧
      repo = { metadata := .named base.name.name, follows := some base.name.location } := by
  rw [baseRepository?] at h
  split at h
  · rename_i base hb
    split at h
    · rename_i ho
      cases h
      exact ⟨base, hb, ho, rfl⟩
    · cases h
  · cases h

/-- Of the drafts, only the repository of a base with the name of the result is left out. -/
theorem keepFirst_drafts (p : Pipeline) :
    (keepFirst [] p.drafts).1 =
      p.parts.groundwork ++ p.parts.deployment.toList.map .deploymentConfig := by
  rw [drafts, parts, PlanParts.groundwork]
  cases hb : p.baseRepository? with
  | none =>
    cases hd : p.deployment <;>
      simp [keepFirst, Object.key, Object.kind, Object.name, Object.metadata]
  | some repo =>
    obtain ⟨base, -, -, rfl⟩ := baseRepository?_eq_some hb
    by_cases hn : base.name.name = p.name <;> cases hd : p.deployment <;>
      simp [keepFirst, Object.key, Object.kind, Object.name, Object.metadata, outputRepository,
        Metadata.named, Option.filter, hn]

theorem selector_isEmpty (p : Pipeline) : p.selector.isEmpty = false :=
  rfl

/-- What is kept of the drafts, with services added, are the parts of the pipeline. -/
theorem objects_parts {p : Pipeline}
    (hs : ∀ plan, p.deployment = some plan → plan.ports.Pairwise (· < ·)) :
    addServices (keepFirst [] p.drafts).1 = p.parts.objects := by
  rw [keepFirst_drafts, PlanParts.objects]
  cases hd : p.deployment with
  | none =>
    have hp : p.parts.deployment = none ∧ p.parts.services = [] := by simp [parts, hd]
    rw [hp.1, hp.2]
    simpa using addServices_idle p.parts.isIdle_groundwork
  | some plan =>
    have hp : p.parts.deployment = some (p.deploymentConfig plan) ∧
        p.parts.services = portServices p.name p.selector
          (p.deploymentConfig plan).containerPorts := by
      rw [containerPorts_deploymentConfig p (hs plan hd)]
      simp [parts, hd]
    have hn : (p.deploymentConfig plan).containerPorts.Nodup := by
      rw [containerPorts_deploymentConfig p (hs plan hd)]
      exact nodup_of_sorted (hs plan hd)
    rw [hp.1, hp.2]
    exact addServices_deployment p.parts.isIdle_groundwork p.selector_isEmpty hn

/-! ## The parts of a plan for a source -/

/-- What a deployment of a source and its strategy runs with, if there is one. -/
def deploymentOf (strategy : Strategy) (env : StringMap String) : Option DeploymentPlan :=
  if strategy.isBuildOnly then none
  else
    some
      { env := (strategy.base.elim .empty (·.env)).overlay env
        ports := strategy.exposedPorts }

def ofStrategy (source : Source) (strategy : Strategy) (env : StringMap String) : Pipeline where
  name := source.name
  base := strategy.base
  source := source
  strategy := strategy
  deployment := deploymentOf strategy env

/-- There is a deployment unless the strategy only builds. -/
theorem isSome_deployment_ofStrategy (source : Source) (strategy : Strategy)
    (env : StringMap String) :
    (ofStrategy source strategy env).parts.deployment.isSome = !strategy.isBuildOnly := by
  rw [parts, ofStrategy, deploymentOf]
  cases strategy.isBuildOnly <;> rfl

theorem ports_ofStrategy {source : Source} {strategy : Strategy} {env : StringMap String}
    {plan : DeploymentPlan} (h : (ofStrategy source strategy env).deployment = some plan) :
    strategy.isBuildOnly = false ∧ plan.ports = strategy.exposedPorts := by
  rw [ofStrategy, deploymentOf] at h
  split at h
  · cases h
  · rename_i hb
    cases h
    exact ⟨Bool.eq_false_iff.mpr hb, rfl⟩

/-- There is no plan if something is wrong with the parts of the pipeline for it. Otherwise a plan
consists of the parts of this pipeline. -/
theorem plan_eq (source : Source) (strategy : Strategy) (env : StringMap String) :
    plan source strategy env =
      match fault? source.name strategy.base strategy with
      | some e => .error e
      | none => .ok (ofStrategy source strategy env).parts.objects := by
  have hs : ∀ plan, (ofStrategy source strategy env).deployment = some plan →
      plan.ports.Pairwise (· < ·) := by
    intro plan hplan
    rw [(ports_ofStrategy hplan).2]
    exact strategy.exposedPorts_sorted
  rw [plan, new_eq]
  cases fault? source.name strategy.base strategy with
  | some e => rfl
  | none =>
    rw [← objects_parts hs]
    show Except.ok (addServices (keepFirst [] (needsDeployment _ env).2.drafts).1) = _
    rw [needsDeployment_eq]
    rfl

theorem plan_eq_ok {source : Source} {strategy : Strategy} {env : StringMap String}
    {objects : List Object} (h : plan source strategy env = .ok objects) :
    objects = (ofStrategy source strategy env).parts.objects := by
  rw [plan_eq] at h
  split at h
  · cases h
  · exact (Except.ok.inj h).symm

end Pipeline

end DeployPlan
