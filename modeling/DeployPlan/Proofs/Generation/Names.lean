import DeployPlan.Proofs.Generation.Objects
import DeployPlan.Proofs.ImageName.RoundTrip
import DeployPlan.Proofs.Source.Name

/-!
# The names of generated objects

The objects of a run are named in three ways (`Object.Named`): after the source, after the source
and a port, and after a base in a registry. The name of a source is checked when the caller gives it
and made a label when it is found, so it is always legal. The other two are not checked again:
`generated_names` says that a port can only make a name too long, and that the name of a base is
illegal if it is too long or has an underscore, which image names may have and names of objects not.
-/

namespace DeployPlan

open DnsName (isLabel isSubdomain maxSubdomain)

variable {σ : Type}

/-! ## Names of sources -/

theorem findSource_yields (c : Collaborators (StateM σ)) (r : Request) :
    Yields (findSource c r) fun source => isSubdomain source.name = true := by
  have hoverride (source : Source) (hs : isLabel source.name = true) :
      Yields (liftM (source.override r.name r.ref) : ExceptT Error (StateM σ) Source)
        fun source => isSubdomain source.name = true :=
    .ofExcept fun _ h => Source.isSubdomain_of_override (DnsName.isSubdomain_of_isLabel hs) h
  rw [findSource]
  cases r.location with
  | url address => exact (Yields.ofExcept fun _ => Source.isLabel_of_ofAddress).bind hoverride
  | directory path => exact (Source.ofDirectory_yields c.files c.inspector path).bind hoverride

/-! ## Names of bases -/

/-- Each image that is found has a name that can be written. -/
def Resolver.FindsNamed (resolver : Resolver (StateM σ)) : Prop :=
  ∀ asked, Yields (resolver.resolve asked) fun image =>
    ∃ text, ImageName.parse text = .ok image.name

/-- A base in a registry bears a component of an image name. -/
def BaseNamed (base : Option Image) : Prop :=
  ∀ image, base = some image → image.origin = .registry →
    ImageName.Component image.name.name.toList

namespace Strategy

variable {c : Collaborators (StateM σ)}

theorem baseNamed_of_parse {image : Image} (h : ∃ text, ImageName.parse text = .ok image.name) :
    BaseNamed (some image) := by
  rintro _ ⟨⟩ -
  obtain ⟨text, ht⟩ := h
  exact (ImageName.parse_eq_ok_iff_wellFormed.mp ht).1.name

theorem baseNamed_ofBuildFile (dir : Option String) (file : BuildFile) :
    BaseNamed (ofBuildFile dir file).base := by
  intro image hi ho
  obtain ⟨name, -, rfl⟩ := Option.map_eq_some_iff.mp hi
  cases ho

theorem ofContext_yields (files : Files (StateM σ)) (source : Source) (dir : String) :
    Yields (ofContext files source dir) fun strategy => BaseNamed strategy.base := by
  refine (Yields.trivial _).bind fun _ _ => ?_
  split
  · exact .pure (baseNamed_ofBuildFile _ _)
  · refine (Yields.trivial _).bind fun text _ => ?_
    cases text with
    | none => exact .pure (baseNamed_ofBuildFile _ _)
    | some text =>
      refine (Yields.trivial _).bind fun file _ => ?_
      exact .pure (baseNamed_ofBuildFile _ _)

theorem ofBuilder_yields {resolver : Resolver (StateM σ)} (h : resolver.FindsNamed)
    (name : String) :
    Yields (ofBuilder resolver name) fun strategy => BaseNamed strategy.base :=
  (h name).bind fun _ himage => .pure (baseNamed_of_parse himage)

theorem ofSnapshot_yields {resolver : Resolver (StateM σ)} (h : resolver.FindsNamed)
    (ds : List Detector) (source : Source) (snapshot : Snapshot (StateM σ)) :
    Yields (ofSnapshot resolver ds source snapshot) fun strategy => BaseNamed strategy.base := by
  refine (Yields.trivial _).bind fun detection _ => ?_
  rcases detection with _ | file | ⟨language, name⟩
  · exact .throw _
  · exact .pure (baseNamed_ofBuildFile _ _)
  · exact (h name).bind fun _ himage => .pure (baseNamed_of_parse himage)

theorem ofSource_yields {resolver : Resolver (StateM σ)} (h : resolver.FindsNamed)
    (files : Files (StateM σ)) (fetcher : Fetcher (StateM σ)) (ds : List Detector)
    (source : Source) :
    Yields (ofSource files resolver fetcher ds source) fun strategy => BaseNamed strategy.base := by
  refine (Yields.trivial _).bind fun snapshot _ => ?_
  exact ofSnapshot_yields h ds source snapshot

theorem select_yields (h : c.resolver.FindsNamed) (source : Source)
    (choice : Option StrategyOverride) (options : StrategyOptions) :
    Yields (select c.files c.resolver c.fetcher c.detectors source choice options)
      fun strategy => BaseNamed strategy.base := by
  have hoptions {x : ExceptT Error (StateM σ) Strategy}
      (hx : Yields x fun strategy => BaseNamed strategy.base) :
      Yields (x >>= fun strategy => pure { strategy with options })
        fun strategy => BaseNamed strategy.base :=
    hx.bind fun _ hs => .pure hs
  rcases choice with _ | dir | name
  · exact hoptions (ofSource_yields h c.files c.fetcher c.detectors source)
  · exact hoptions (ofContext_yields c.files source dir)
  · exact hoptions (ofBuilder_yields h name)

end Strategy

/-! ## Names of objects -/

/-- How an object is named: after the source, after the source and a port, or after a base in a
registry. -/
inductive Object.Named (name : String) (base : Option Image) (o : Object) : Prop
  | source (h : o.metadata.name = some name)
  | port (port : UInt16) (hk : o.kind = .service)
    (h : o.metadata.name = some (portName name port.toNat))
  | base (image : Image) (hb : base = some image) (ho : image.origin = .registry)
    (hk : o.kind = .imageRepository) (h : o.metadata.name = some image.name.name)

/-- How the objects of a plan are named, and which of these names are legal. -/
structure NamesOf (name : String) (base : Option Image) (objects : List Object) : Prop where
  named : ∀ o ∈ objects, o.Named name base
  /-- The name of the source is always legal. -/
  source : isSubdomain name = true
  /-- With a port, it may be too long. -/
  port : ∀ port : UInt16, isSubdomain (portName name port.toNat) = true ↔
    Text.byteLength (portName name port.toNat).toList ≤ maxSubdomain
  /-- The name of a base may be too long, or have an underscore. -/
  base : ∀ image, base = some image → image.origin = .registry →
    (isSubdomain image.name.name = true ↔
      Text.byteLength image.name.name.toList ≤ maxSubdomain ∧ '_' ∉ image.name.name.toList)

theorem mem_portServices {name : String} {selector : StringMap String} {ports : List Int}
    {service : Service} (h : service ∈ portServices name selector ports) :
    service.metadata.name = some name ∨
      ∃ port ∈ ports, service.metadata.name = some (portName name port) := by
  cases ports with
  | nil => cases h
  | cons port ports =>
    rcases List.mem_cons.mp h with rfl | h
    · exact .inl rfl
    · obtain ⟨port', hport, rfl⟩ := List.mem_map.mp h
      exact .inr ⟨port', List.mem_cons_of_mem port hport, rfl⟩

/-- The objects of a pipeline are named after it and its base. -/
theorem Pipeline.parts_named (p : Pipeline) : ∀ o ∈ p.parts.objects, o.Named p.name p.base := by
  intro o ho
  rcases List.mem_append.mp ho with ho | ho
  · rcases List.mem_cons.mp ho with rfl | ho
    · exact .source rfl
    · rcases List.mem_append.mp ho with ho | ho
      · obtain ⟨repo, hr, rfl⟩ := List.mem_map.mp ho
        have hr := (Option.filter_eq_some_iff.mp (Option.mem_toList.mp hr)).1
        obtain ⟨base, hb, hregistry, rfl⟩ := baseRepository?_eq_some hr
        exact .base base hb hregistry rfl rfl
      · rw [List.mem_singleton.mp ho]
        exact .source rfl
  · rcases List.mem_append.mp ho with ho | ho
    · obtain ⟨d, hd, rfl⟩ := List.mem_map.mp ho
      obtain ⟨plan, -, rfl⟩ := Option.map_eq_some_iff.mp (Option.mem_toList.mp hd)
      exact .source rfl
    · obtain ⟨service, hs, rfl⟩ := List.mem_map.mp ho
      cases hd : p.deployment with
      | none => simp [parts, hd] at hs
      | some plan =>
        simp only [parts, hd, Option.elim_some] at hs
        rcases mem_portServices hs with hn | ⟨number, hnumber, hn⟩
        · exact .source hn
        · obtain ⟨port, -, rfl⟩ := List.mem_map.mp hnumber
          exact .port port rfl hn

/-- A legal name with a port after it is legal if it is not too long. -/
theorem isSubdomain_portName_iff {name : String} (h : isSubdomain name = true) (port : Nat) :
    isSubdomain (portName name port) = true ↔
      Text.byteLength (portName name port).toList ≤ maxSubdomain := by
  have hdigits : ImageName.Run (Nat.toDigits 10 port) := by
    refine ⟨Nat.toDigits_ne_nil, fun c hc => ?_⟩
    have hd : c.isDigit = true := Nat.isDigit_of_mem_toDigits (by decide) (by decide) hc
    rw [DnsName.isAlnum, show Text.isDigit c = true from hd, Bool.or_true]
  have htext : (portName name port).toList = name.toList ++ '-' :: Nat.toDigits 10 port := by
    rw [portName, String.toList_append, String.toList_append, List.append_assoc, ← Nat.toList_repr]
    rfl
  have hc := DnsName.conforms_append_run (Bool.and_eq_true_iff.mp h).2 hdigits
  rw [isSubdomain, htext, hc, Bool.and_true, decide_eq_true_eq]

theorem isSubdomain_component_iff {name : String} (h : ImageName.Component name.toList) :
    isSubdomain name = true ↔ Text.byteLength name.toList ≤ maxSubdomain ∧ '_' ∉ name.toList := by
  rw [isSubdomain, Bool.and_eq_true, decide_eq_true_eq, DnsName.conforms_component_iff h]

theorem length_le_and_not_mem_of_isSubdomain {name : String} (h : isSubdomain name = true) :
    Text.byteLength name.toList ≤ maxSubdomain ∧ '_' ∉ name.toList := by
  obtain ⟨hlen, hc⟩ := Bool.and_eq_true_iff.mp h
  refine ⟨of_decide_eq_true hlen, fun hu => ?_⟩
  exact absurd (DnsName.forall_mem_of_conforms hc '_' hu) (by decide)

/-- An object of a plan has a legal name if it is not too long and has no underscore. -/
theorem NamesOf.legal_iff {name : String} {base : Option Image} {objects : List Object}
    (h : NamesOf name base objects) : ∀ o ∈ objects,
      (isSubdomain o.name = true ↔
        Text.byteLength o.name.toList ≤ maxSubdomain ∧ '_' ∉ o.name.toList) := by
  intro o ho
  refine ⟨length_le_and_not_mem_of_isSubdomain, fun hn => ?_⟩
  have hname {n : String} (hm : o.metadata.name = some n) : o.name = n := by
    rw [Object.name, hm, Option.getD_some]
  cases h.named o ho with
  | source hm =>
    rw [hname hm]
    exact h.source
  | port port hk hm =>
    rw [hname hm] at hn ⊢
    exact (h.port port).mpr hn.1
  | base image hb hregistry hk hm =>
    rw [hname hm] at hn ⊢
    exact (h.base image hb hregistry).mpr hn

variable {c : Collaborators (StateM σ)} {r : Request} {s : σ} {objects : List Object}

theorem settle_yields (hr : c.resolver.FindsNamed) :
    Yields (settle c r) fun (source, strategy) =>
      isSubdomain source.name = true ∧ BaseNamed strategy.base := by
  refine (findSource_yields c r).bind fun source hsource => ?_
  refine (Strategy.select_yields hr source r.strategy r.options).bind fun strategy hbase => ?_
  exact .pure ⟨hsource, hbase⟩

/-- In a run that succeeds each object is named after the source, or after it and a port, or after a
base in a registry. The name is legal unless it is too long or, being that of a base, has an
underscore. -/
theorem generated_names (hr : c.resolver.FindsNamed)
    (h : (runFrom (generate c r) s).1 = .ok objects) :
    ∃ source strategy, (runFrom (settle c r) s).1 = .ok (source, strategy) ∧
      NamesOf source.name strategy.base objects ∧
      ∀ o ∈ objects, (isSubdomain o.name = true ↔
        Text.byteLength o.name.toList ≤ maxSubdomain ∧ '_' ∉ o.name.toList) := by
  obtain ⟨source, strategy, -, hs, hplan⟩ := generate_eq_ok h
  obtain ⟨hsource, hbase⟩ := settle_yields hr s (source, strategy) hs
  have names : NamesOf source.name strategy.base objects :=
    { named := by
        rw [Pipeline.plan_eq_ok hplan]
        exact Pipeline.parts_named _
      source := hsource
      port := fun port => isSubdomain_portName_iff hsource port.toNat
      base := fun image hb ho => isSubdomain_component_iff (hbase image hb ho) }
  exact ⟨source, strategy, hs, names, names.legal_iff⟩

/-- Collaborators who find every image in a registry whose name is well formed. -/
def registryFiles : Collaborators (StateM Unit) :=
  { rubyFiles with
    resolver :=
      { name := "registry"
        resolve := fun asked => do
          let name ← ImageName.parse asked
          return { name, origin := .registry } } }

theorem registryFiles_findsNamed : registryFiles.resolver.FindsNamed := fun asked =>
  (Yields.ofExcept fun _ h => h).bind fun _ h => .pure ⟨asked, h⟩

/-- The base `my_image` gets a repository whose name is not legal. -/
theorem generated_name_illegal :
    registryFiles.resolver.FindsNamed ∧ ∃ objects,
      (runFrom (generate registryFiles (rubySource (some (.builderImage "my_image")))) ()).1
        = .ok objects ∧
      objects.map Object.key = [⟨.imageRepository, "ruby"⟩, ⟨.imageRepository, "my_image"⟩,
        ⟨.buildConfig, "ruby"⟩, ⟨.deploymentConfig, "ruby"⟩] ∧
      ∃ o ∈ objects, isSubdomain o.name = false := by
  refine ⟨registryFiles_findsNamed, _, rfl, rfl, ?_⟩
  exact ⟨_, List.mem_cons_of_mem _ List.mem_cons_self, rfl⟩

/-- The base `my-image` of the source `ruby` has a repository of its own, under its own name. -/
theorem generated_names_hyphen :
    registryFiles.resolver.FindsNamed ∧ ∃ objects,
      (runFrom (generate registryFiles (rubySource (some (.builderImage "my-image")))) ()).1
        = .ok objects ∧
      objects.map Object.key = [⟨.imageRepository, "ruby"⟩, ⟨.imageRepository, "my-image"⟩,
        ⟨.buildConfig, "ruby"⟩, ⟨.deploymentConfig, "ruby"⟩] ∧
      ∃ source strategy,
        (runFrom (settle registryFiles (rubySource (some (.builderImage "my-image")))) ()).1
          = .ok (source, strategy) ∧
        NamesOf source.name strategy.base objects ∧
        ∀ o ∈ objects, (isSubdomain o.name = true ↔
          Text.byteLength o.name.toList ≤ maxSubdomain ∧ '_' ∉ o.name.toList) :=
  ⟨registryFiles_findsNamed, _, rfl, rfl, generated_names registryFiles_findsNamed rfl⟩

end DeployPlan
