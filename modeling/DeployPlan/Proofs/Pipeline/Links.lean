import DeployPlan.Proofs.Pipeline.Parts

/-!
# The objects of a plan belong together

Objects of a plan refer to each other by name: the build to the repository of its result and to that
of its base, the deployment to the repository of the result and to its own containers.
`PlanParts.Linked` says that no two objects have one key and that no such name leads nowhere;
`Pipeline.parts_linked` says that this is so for each pipeline.
-/

namespace DeployPlan

/-! ## References -/

/-- Whether a reference is to a repository among the objects of its own project. -/
def ImageReference.isLocal (ref : ImageReference) : Bool :=
  ref.kind = ObjectKind.imageRepository.word ∧ ref.project = none

@[simp]
theorem ImageReference.isLocal_repository (name : String) (project : Option String) :
    (repository name project).isLocal = project.isNone := by
  cases project <;> rfl

@[simp]
theorem ImageReference.isLocal_pulled (pullSpec : String) : (pulled pullSpec).isLocal = false :=
  rfl

def BuildStrategy.references (s : BuildStrategy) : List ImageReference :=
  (s.buildFile.bind (·.from?)).toList ++ (s.builder.map (·.base)).toList ++
    (s.custom.map (·.base)).toList

/-- The image whose change starts a build. -/
def BuildTrigger.reference? : BuildTrigger → Option ImageReference
  | .imageChange base _ => some base
  | .configChange => none

/-- All references of a build: to its result, to what it starts from, and to what starts it. -/
def BuildConfig.references (b : BuildConfig) : List ImageReference :=
  b.output :: b.strategy.references ++ b.triggers.filterMap (·.reference?)

/-- What a build takes: the images that it starts from, and those whose change starts it. -/
def BuildConfig.inputs (b : BuildConfig) : List ImageReference :=
  b.strategy.references ++ b.triggers.filterMap (·.reference?)

theorem BuildConfig.references_eq (b : BuildConfig) : b.references = b.output :: b.inputs :=
  List.cons_append ..

def DeploymentTrigger.reference? : DeploymentTrigger → Option ImageReference
  | .imageChange _ _ image _ => some image
  | .configChange => none

/-- The containers that a change of an image concerns. -/
def DeploymentTrigger.containers? : DeploymentTrigger → Option (List String)
  | .imageChange _ containers _ _ => some containers
  | .configChange => none

def DeploymentConfig.references (d : DeploymentConfig) : List ImageReference :=
  d.triggers.filterMap (·.reference?)

namespace PlanParts

def references (p : PlanParts) : List ImageReference :=
  p.build.references ++ p.deployment.toList.flatMap (·.references)

/-- How the objects of a plan for the given name belong together. -/
structure Linked (name : String) (p : PlanParts) : Prop where
  /-- No two objects have one key. -/
  keys_nodup : (p.objects.map Object.key).Nodup
  output_name : p.output.metadata.name = some name
  build_name : p.build.metadata.name = some name
  deployment_name : ∀ d, p.deployment = some d → d.metadata.name = some name
  /-- A reference to a repository of the own project is to one of the objects. -/
  references : ∀ ref ∈ p.references, ref.isLocal = true →
    ∃ repo, .imageRepository repo ∈ p.objects ∧ repo.metadata.name = some ref.name
  /-- A change of the image concerns all containers, and no others. -/
  containers : ∀ d, p.deployment = some d → ∃ containers, d.template.containers = some containers ∧
    d.triggers.filterMap (·.containers?) = [containers.map (·.name)]

end PlanParts

namespace Pipeline

/-! ## References of a pipeline -/

theorem kind_buildStrategy (p : Pipeline) : p.buildStrategy.kind = p.strategy.kind := by
  rw [buildStrategy]
  cases p.strategy.kind <;> cases p.base <;> rfl

/-- The strategy of a build refers to the base, if there is one. -/
theorem references_buildStrategy (p : Pipeline) :
    p.buildStrategy.references = p.base.toList.map baseReference := by
  rw [buildStrategy]
  cases p.strategy.kind <;> cases p.base <;> rfl

/-- A build starts when a base that the platform follows changes, and when its definition does. -/
theorem buildTriggers_eq (p : Pipeline) :
    p.buildTriggers =
      ((p.base.filter Image.isTracked).toList.map fun base =>
        .imageChange (baseReference base) base.name.tagOrDefault) ++ [.configChange] := by
  rw [buildTriggers]
  cases p.base with
  | none => rfl
  | some base => cases ht : base.isTracked <;> simp [ht, Option.filter]

/-- A build that starts with an image starts with its base, and by the reference to it. -/
theorem imageChange_mem_buildTriggers {p : Pipeline} {ref : ImageReference} {tag : String} :
    .imageChange ref tag ∈ p.buildTriggers ↔
      ∃ base, p.base = some base ∧ base.isTracked = true ∧ ref = baseReference base ∧
        tag = base.name.tagOrDefault := by
  rw [buildTriggers_eq, List.mem_append, List.mem_map]
  constructor
  · rintro (⟨base, hm, he⟩ | hm)
    · obtain ⟨hb, ht⟩ := Option.filter_eq_some_iff.mp (Option.mem_toList.mp hm)
      cases he
      exact ⟨base, hb, ht, rfl, rfl⟩
    · cases List.mem_singleton.mp hm
  · rintro ⟨base, hb, ht, rfl, rfl⟩
    exact .inl ⟨base, Option.mem_toList.mpr (Option.filter_eq_some_iff.mpr ⟨hb, ht⟩), rfl⟩

theorem mem_references_buildTriggers {p : Pipeline} {ref : ImageReference}
    (h : ref ∈ p.buildTriggers.filterMap (·.reference?)) :
    ∃ base, p.base = some base ∧ ref = baseReference base := by
  obtain ⟨trigger, hm, hr⟩ := List.mem_filterMap.mp h
  cases trigger with
  | imageChange ref' tag =>
    cases hr
    obtain ⟨base, hb, -, rfl, -⟩ := imageChange_mem_buildTriggers.mp hm
    exact ⟨base, hb, rfl⟩
  | configChange => cases hr

/-- A build takes nothing but its base. -/
theorem mem_inputs_buildConfig {p : Pipeline} {ref : ImageReference}
    (h : ref ∈ p.buildConfig.inputs) :
    ∃ base, p.base = some base ∧ ref = baseReference base := by
  rcases List.mem_append.mp h with h | h
  · rw [show p.buildConfig.strategy.references = _ from p.references_buildStrategy] at h
    obtain ⟨base, hb, rfl⟩ := List.mem_map.mp h
    exact ⟨base, Option.mem_toList.mp hb, rfl⟩
  · exact mem_references_buildTriggers h

/-- A build refers to its result and to its base only. -/
theorem mem_references_buildConfig {p : Pipeline} {ref : ImageReference}
    (h : ref ∈ p.buildConfig.references) :
    ref = p.outputReference ∨ ∃ base, p.base = some base ∧ ref = baseReference base := by
  rw [BuildConfig.references_eq, List.mem_cons] at h
  exact h.imp_right mem_inputs_buildConfig

theorem references_deploymentConfig (p : Pipeline) (plan : DeploymentPlan) :
    (p.deploymentConfig plan).references = [p.outputReference] :=
  rfl

theorem mem_references_parts {p : Pipeline} {ref : ImageReference} (h : ref ∈ p.parts.references) :
    ref = p.outputReference ∨ ∃ base, p.base = some base ∧ ref = baseReference base := by
  rcases List.mem_append.mp h with h | h
  · exact mem_references_buildConfig h
  · obtain ⟨d, hd, h⟩ := List.mem_flatMap.mp h
    obtain ⟨plan, -, rfl⟩ := Option.map_eq_some_iff.mp (Option.mem_toList.mp hd)
    rw [references_deploymentConfig, List.mem_singleton] at h
    exact .inl h

theorem isLocal_baseReference {base : Image} (h : (baseReference base).isLocal = true) :
    base.origin = .registry ∧ (baseReference base).name = base.name.name := by
  rw [baseReference] at h ⊢
  cases ho : base.origin with
  | registry => exact ⟨rfl, rfl⟩
  | platform project => simp [ho] at h
  | localRuntime => simp [ho] at h
  | declared => simp [ho] at h

/-! ## Repositories of a pipeline -/

theorem output_mem_objects (p : Pipeline) : .imageRepository p.outputRepository ∈ p.parts.objects :=
  List.mem_append_left _ List.mem_cons_self

def followerOf (base : Image) : ImageRepository where
  metadata := .named base.name.name
  follows := some base.name.location

theorem parts_base_of_name_ne {p : Pipeline} {base : Image} (hb : p.base = some base)
    (ho : base.origin = .registry) (hn : base.name.name ≠ p.name) :
    p.parts.base = some (followerOf base) := by
  simp [parts, baseRepository?, followerOf, hb, ho, hn, Option.filter, Metadata.named]

/-- A base in a registry has its repository among the objects, if need be that of the result. -/
theorem exists_baseRepository {p : Pipeline} {base : Image} (hb : p.base = some base)
    (ho : base.origin = .registry) :
    ∃ repo, .imageRepository repo ∈ p.parts.objects ∧
      repo.metadata.name = some base.name.name := by
  by_cases hn : base.name.name = p.name
  · exact ⟨p.outputRepository, p.output_mem_objects, by rw [hn]; rfl⟩
  · refine ⟨followerOf base, ?_, rfl⟩
    refine List.mem_append_left _ (List.mem_cons_of_mem _ ?_)
    rw [parts_base_of_name_ne hb ho hn]
    exact List.mem_append_left _ List.mem_cons_self

/-! ## Keys of a pipeline -/

/-- The services of an object have different names. -/
theorem nodup_names_portServices {name : String} {selector : StringMap String} {ports : List Int}
    (h : ports.Nodup) :
    ((portServices name selector ports).map fun s => s.metadata.name.getD "").Nodup := by
  cases ports with
  | nil => exact List.nodup_nil
  | cons port ports =>
    have hm : (portServices name selector (port :: ports)).map (fun s => s.metadata.name.getD "") =
        name :: ports.map (portName name) := by
      rw [portServices, List.map_cons, List.map_map]
      rfl
    rw [hm, List.nodup_cons]
    refine ⟨fun hn => ?_, ?_⟩
    · obtain ⟨p, -, hp⟩ := List.mem_map.mp hn
      exact portName_ne name p hp
    · exact List.Pairwise.map _ (fun p q hpq heq => hpq (portName_injective heq))
        (List.nodup_cons.mp h).2

theorem kind_ne_service (p : Pipeline) : ∀ o ∈ (keepFirst [] p.drafts).1, o.kind ≠ .service := by
  rw [keepFirst_drafts]
  intro o ho hk
  rcases List.mem_append.mp ho with ho | ho
  · have hi := p.parts.isIdle_groundwork o ho
    cases o with
    | service s => cases hi
    | buildConfig b => cases hk
    | deploymentConfig d => cases hk
    | imageRepository repo => cases hk
  · obtain ⟨d, -, rfl⟩ := List.mem_map.mp ho
    cases hk

/-- The objects for a pipeline have different keys: those kept of its drafts have, and services
have names of their own. -/
theorem nodup_keys_parts {p : Pipeline}
    (hs : ∀ plan, p.deployment = some plan → plan.ports.Pairwise (· < ·)) :
    (p.parts.objects.map Object.key).Nodup := by
  have hn : (p.parts.services.map fun s => s.metadata.name.getD "").Nodup := by
    cases hd : p.deployment with
    | none => simp [parts, hd]
    | some plan => simpa [parts, hd] using nodup_names_portServices (nodup_of_sorted (hs plan hd))
  have hk : (p.parts.services.map Object.service).map Object.key =
      (p.parts.services.map fun s => s.metadata.name.getD "").map (ObjectKey.mk .service) := by
    rw [List.map_map, List.map_map]
    rfl
  rw [PlanParts.objects, ← List.append_assoc, ← keepFirst_drafts, List.map_append, hk,
    List.nodup_append]
  refine ⟨(keepFirst_keys [] p.drafts).1, ?_, ?_⟩
  · exact List.Pairwise.map _ (fun m n hmn heq => hmn (ObjectKey.mk.inj heq).2) hn
  · rintro _ ha _ hb rfl
    obtain ⟨o, ho, ha⟩ := List.mem_map.mp ha
    obtain ⟨n, -, hb⟩ := List.mem_map.mp hb
    exact p.kind_ne_service o ho (ObjectKey.mk.inj (ha.trans hb.symm)).1

/-- The objects for a pipeline belong together. -/
theorem parts_linked {p : Pipeline}
    (hs : ∀ plan, p.deployment = some plan → plan.ports.Pairwise (· < ·)) :
    p.parts.Linked p.name where
  keys_nodup := nodup_keys_parts hs
  output_name := rfl
  build_name := rfl
  deployment_name d hd := by
    obtain ⟨plan, -, rfl⟩ := Option.map_eq_some_iff.mp hd
    rfl
  references ref hr hl := by
    rcases mem_references_parts hr with rfl | ⟨base, hb, rfl⟩
    · exact ⟨p.outputRepository, p.output_mem_objects, rfl⟩
    · obtain ⟨ho, hn⟩ := isLocal_baseReference hl
      rw [hn]
      exact exists_baseRepository hb ho
  containers d hd := by
    obtain ⟨plan, -, rfl⟩ := Option.map_eq_some_iff.mp hd
    exact ⟨[p.container plan], rfl, rfl⟩

theorem linked_ofStrategy (source : Source) (strategy : Strategy) (env : StringMap String) :
    (ofStrategy source strategy env).parts.Linked source.name := by
  show (ofStrategy source strategy env).parts.Linked (ofStrategy source strategy env).name
  refine parts_linked fun plan hd => ?_
  rw [(ports_ofStrategy hd).2]
  exact strategy.exposedPorts_sorted

end Pipeline

end DeployPlan
