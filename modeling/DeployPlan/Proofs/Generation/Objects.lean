import DeployPlan.Proofs.Generation.Course
import DeployPlan.Proofs.Pipeline.Links

/-!
# The objects of a run

What is certain of the objects that a run yields, whatever its collaborators answer.
`generated_objects_linked` says that they belong together under the name of the source.
`ports_served` says when there is a deployment, which ports it declares, and that there is one
service for each of them.
-/

namespace DeployPlan

variable {σ : Type} {c : Collaborators (StateM σ)} {r : Request} {s : σ} {objects : List Object}

/-- The objects of a run that succeeds are those of a plan for its source, and belong together. -/
theorem generated_objects_linked (h : (runFrom (generate c r) s).1 = .ok objects) :
    ∃ source parts, (runFrom (findSource c r) s).1 = .ok source ∧
      objects = PlanParts.objects parts ∧ parts.Linked source.name := by
  obtain ⟨source, strategy, hp, hs, hplan⟩ := generate_eq_ok h
  obtain ⟨calls, -, course, -⟩ := generate_records c hp s
  rw [hs] at course
  exact ⟨source, _, course.of_ok.1, Pipeline.plan_eq_ok hplan, Pipeline.linked_ofStrategy ..⟩

/-- Collaborators for whom every path is a directory with a build file of the given text, and every
image lies in a registry. -/
def everywhere (text : String) : Collaborators (StateM Unit) where
  files :=
    { canonicalize := fun path => pure (.ok path)
      isDirectory := fun _ => pure (.ok true)
      exists? := fun _ => pure (.ok true)
      openDirectory := fun _ => pure (.ok ())
      read := fun _ => pure (.ok text)
      write := fun _ _ => pure (.ok ())
      createDirectories := fun _ => pure (.ok ())
      removeTree := fun _ => pure (.ok ()) }
  inspector := ⟨fun _ => pure none⟩
  fetcher := ⟨fun source => throw (.noStrategyMatch source.toString)⟩
  resolver :=
    { name := "registry"
      resolve := fun image => pure
        { name := { name := image }, origin := .registry, ports := .ofList [8443, 8080] } }
  detectors := Detector.standard

/-- Collaborators for whom there is a build file that starts from the image `ruby`. -/
def rubyFiles : Collaborators (StateM Unit) :=
  everywhere "FROM ruby:2.7\nEXPOSE 8443 8080/tcp"

/-- A source in the directory `/ruby`, to be built as the caller says. -/
def rubySource (strategy : Option StrategyOverride) : Request :=
  { location := .directory "/ruby", strategy }

/-- A source with the name of its base: one repository stands for both. -/
theorem generated_objects_linked_same_name :
    ∃ objects,
      (runFrom (generate rubyFiles (rubySource (some (.builderImage "ruby")))) ()).1
        = .ok objects ∧
      objects.map Object.key = [⟨.imageRepository, "ruby"⟩, ⟨.buildConfig, "ruby"⟩,
        ⟨.deploymentConfig, "ruby"⟩, ⟨.service, "ruby"⟩, ⟨.service, "ruby-8443"⟩] ∧
      ∃ source parts,
        (runFrom (findSource rubyFiles (rubySource (some (.builderImage "ruby"))))
          ()).1 = .ok source ∧
        objects = PlanParts.objects parts ∧ parts.Linked source.name :=
  ⟨_, rfl, rfl, generated_objects_linked rfl⟩

/-! ## Ports and services -/

/-- The ports that a chosen strategy detects are those of the build file that is read. -/
theorem Chosen.detectedPorts {choice : Option StrategyOverride} {calls : List Call}
    {strategy : Strategy} (h : Chosen choice calls strategy) :
    ∃ file, BuildFileRead (textsRead calls) file ∧ strategy.detectedPorts = file.ports := by
  cases h with
  | @buildFile dir file hf => exact ⟨file, hf, rfl⟩
  | language image ht => exact ⟨{}, ht ▸ .nothing, rfl⟩
  | named hn hc => exact ⟨{}, hc ▸ .nothing, rfl⟩

/-- The calls of a run that settles a strategy read the build file whose ports it detects. -/
theorem Course.detectedPorts {ds : List Detector} {found : Except Error Source} {calls : List Call}
    {source : Source} {strategy : Strategy}
    (h : Course ds r found calls (.ok (source, strategy))) :
    ∃ file, BuildFileRead (textsRead calls) file ∧ strategy.detectedPorts = file.ports := by
  obtain ⟨-, searching, selecting, chosen, rfl, search, selection, rfl⟩ := h.of_ok
  obtain ⟨file, hf, hp⟩ := selection.chosen.detectedPorts
  have hs : textsRead searching = [] := by
    refine textsRead_eq_nil fun call hc hk => ?_
    rcases search.kind_eq call hc with h | h <;> simp [h] at hk
  refine ⟨file, ?_, hp⟩
  rwa [textsRead_append, hs, List.nil_append]

/-- Whether there is nothing to run: only a build is asked for, or a label of the image that builds
says so. -/
def OnlyBuilds (options : StrategyOptions) (strategy : Strategy) : Prop :=
  options.buildOnly = true ∨
    ∃ base, strategy.base = some base ∧
      (strategy.kind = .builderImage ∧
          (base.labelIsTrue Image.nonRunnableLabel = true ∨
            base.labelIsTrue Image.buildOnlyLabel = true) ∨
        strategy.kind = .customTooling ∧ base.labelIsTrue Image.buildOnlyLabel = true)

theorem isBuildOnly_iff {strategy : Strategy} :
    strategy.isBuildOnly = true ↔ OnlyBuilds strategy.options strategy := by
  rw [Strategy.isBuildOnly, OnlyBuilds, Bool.or_eq_true]
  refine or_congr_right ?_
  cases hb : strategy.base with
  | none => cases strategy.kind <;> simp
  | some base =>
    cases strategy.kind <;> simp [Image.isRunnable, Image.isBuildOnly]

/-- The ports that count: the one that is asked for, else those of the base if it has any, else
those of the build file. -/
structure CountingPorts (requested : Option UInt16) (strategy : Strategy) (file : BuildFile)
    (ports : List UInt16) : Prop where
  sorted : ports.Pairwise (· < ·)
  of_request : ∀ port, requested = some port → ports = [port]
  of_base : ∀ base, requested = none → strategy.base = some base → base.ports.toList ≠ [] →
    ports = base.ports.toList
  of_file : requested = none → (∀ base, strategy.base = some base → base.ports.toList = []) →
    ports = file.ports.toList

theorem countingPorts_exposedPorts {strategy : Strategy} {file : BuildFile}
    (h : strategy.detectedPorts = file.ports) (requested : Option UInt16) :
    CountingPorts requested strategy file
      ({ strategy with portOverride := requested } : Strategy).exposedPorts where
  sorted := Strategy.exposedPorts_sorted _
  of_request port hp := by rw [hp]; rfl
  of_base base hp hb hn := by
    simp [Strategy.exposedPorts, hp, hb, PortSet.isEmpty, hn]
  of_file hp hn := by
    cases hb : strategy.base with
    | none => simp [Strategy.exposedPorts, hp, h]
    | some base => simp [Strategy.exposedPorts, hp, PortSet.isEmpty, hn base hb, h]

/-- How the ports of a deployment are served: it declares them, each once, and each of them has one
service, which leads to the pods of the deployment. -/
structure Served (name : String) (ports : List UInt16) (d : DeploymentConfig)
    (services : List Service) : Prop where
  declared : d.declaredPorts = ports.map fun port => (port.toNat : Int)
  nodup : d.declaredPorts.Nodup
  /-- The pods bear the labels by which they are found. -/
  labels : d.template.metadata.bind (·.labels) = some d.selector
  /-- The first service bears the name, the others have their port after it. -/
  services_eq : services = portServices name d.selector d.declaredPorts
  /-- There is one service for each port, and each covers nothing but its port. -/
  signatures_eq : services.map Service.signatures = d.declaredPorts.map fun p => [(p, d.selector)]

theorem Pipeline.services_parts {p : Pipeline} {plan : DeploymentPlan}
    (hd : p.deployment = some plan) :
    p.parts.services = portServices p.name (p.deploymentConfig plan).selector
      (p.deploymentConfig plan).declaredPorts := by
  rw [declaredPorts_deploymentConfig, parts, hd]
  rfl

/-- The ports of a pipeline are served. -/
theorem Pipeline.parts_served {p : Pipeline} {plan : DeploymentPlan}
    (hd : p.deployment = some plan) (hs : plan.ports.Pairwise (· < ·)) :
    Served p.name plan.ports (p.deploymentConfig plan) p.parts.services where
  declared := declaredPorts_deploymentConfig p plan
  nodup := by
    rw [declaredPorts_deploymentConfig]
    exact nodup_of_sorted hs
  labels := rfl
  services_eq := services_parts hd
  signatures_eq := by
    rw [services_parts hd, signatures_portServices]

end DeployPlan
