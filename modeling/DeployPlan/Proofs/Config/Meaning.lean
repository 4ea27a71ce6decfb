import DeployPlan.Proofs.Config.Values
import DeployPlan.Proofs.Recording
import DeployPlan.Proofs.Resolver.Projects
import DeployPlan.Proofs.Url.TrailingSlash

/-!
# What settings mean

Of the nodes of one name, the last one counts: `Means` says so of a document, `MeansSources` and
`MeansBuilders` of the children of one node. Each is kept by one more node (`Means.step`), as is
`Valid` (`Valid.step`), that the names of projects are labels and the address of a registry is one
of the web without a slash at its end, and so follows the fold over the nodes (`of_foldlM`). What
`addNode` and `addSource` may do is said once, by `addNode_cases` and `addSource_cases`.
-/

namespace DeployPlan.Config

open DnsName (isLabel)
open Kdl (Node)

/-! ## The last node of a name -/

def lastNamed (name : String) (nodes : List Node) : Option Node :=
  nodes.reverse.find? (·.name = name)

theorem lastNamed_concat (name : String) (nodes : List Node) (node : Node) :
    lastNamed name (nodes ++ [node]) =
      if node.name = name then some node else lastNamed name nodes := by
  unfold lastNamed
  rw [List.reverse_concat, List.find?_cons]
  by_cases h : node.name = name
  · rw [if_pos h, decide_eq_true h]
  · rw [if_neg h, decide_eq_false h]

/-- A text is that of the last node of a name, and there is none if no node has the name. -/
def IsLastText (name : String) (nodes : List Node) (text : Option String) : Prop :=
  (lastNamed name nodes).map Node.text? = text.map some

def childrenOf (name : String) (nodes : List Node) : List Node :=
  ((lastNamed name nodes).bind Node.children).getD []

section Concat

variable {name : String} {nodes : List Node} {node : Node} {text : Option String} {s : String}

theorem isLastText_concat (hn : node.name = name) (ht : node.text? = some s) :
    IsLastText name (nodes ++ [node]) (some s) := by
  rw [IsLastText, lastNamed_concat, if_pos hn, Option.map_some, ht, Option.map_some]

theorem isLastText_concat_of_ne (hn : node.name ≠ name) :
    IsLastText name (nodes ++ [node]) text ↔ IsLastText name nodes text := by
  rw [IsLastText, lastNamed_concat, if_neg hn, IsLastText]

theorem childrenOf_concat (hn : node.name = name) :
    childrenOf name (nodes ++ [node]) = node.children.getD [] := by
  rw [childrenOf, lastNamed_concat, if_pos hn, Option.bind_some]

theorem childrenOf_concat_of_ne (hn : node.name ≠ name) :
    childrenOf name (nodes ++ [node]) = childrenOf name nodes := by
  rw [childrenOf, lastNamed_concat, if_neg hn, childrenOf]

end Concat

/-! ## Image sources -/

/-- Whether a source is asked, as its node says. -/
def isEnabled (source : Node) : Bool :=
  (source.flag? "enabled").getD true

/-- The registry that a node names, without the slashes at the end of its address. -/
def registryOf (source : Node) : Option String :=
  if isEnabled source then
    some (String.ofList
      (Text.trimEndWhere (· == '/') (source.text?.getD defaultRegistry).toList))
  else none

/-- Some image sources are the usual ones, changed by the last node for each. -/
structure MeansSources (nodes : List Node) (s : ImageSources) : Prop where
  docker : s.docker = ((lastNamed "docker" nodes).map isEnabled).getD true
  cluster : s.cluster = ((lastNamed "cluster" nodes).map isEnabled).getD true
  registry : s.registry = ((lastNamed "registry" nodes).map registryOf).getD (some defaultRegistry)

/-- The address of a registry that can be asked. -/
structure IsRegistry (address : String) : Prop where
  web : IsWebAddress address
  plain : address.toList.getLast? ≠ some '/'

theorem isRegistry_defaultRegistry : IsRegistry defaultRegistry where
  web := isWebAddress_defaultRegistry
  plain := by decide

theorem isRegistry_of_checkRegistry {address a : String} (h : checkRegistry address = .ok a) :
    IsRegistry a := by
  obtain ⟨⟨url, hurl, hscheme⟩, rfl⟩ := checkRegistry_eq_ok_iff.mp h
  constructor
  · have hk : Url.Kind.of url.scheme = .web := by
      rcases hscheme with hs | hs <;>
      · rw [hs]
        rfl
    obtain ⟨u, hu, hus⟩ := Url.parse_of_trimmed_slashes hk ⟨url, hurl, rfl⟩
    exact ⟨u, hu, by rwa [hus]⟩
  · intro hlast
    rw [String.toList_ofList] at hlast
    exact absurd (Text.eq_false_of_mem_getLast?_trimEndWhere hlast) (by decide)

/-- What is added for the registry is what its node says, and can be asked. -/
theorem addSource_cases {s t : ImageSources} {source : Node} (h : addSource s source = .ok t) :
    (source.name = "docker" ∧ t = { s with docker := isEnabled source }) ∨
    (source.name = "cluster" ∧ t = { s with cluster := isEnabled source }) ∨
    (source.name = "registry" ∧ t = { s with registry := registryOf source } ∧
      ∀ a ∈ registryOf source, IsRegistry a) := by
  rcases addSource_eq_ok_iff.mp h with h | h | ⟨hn, he, a, ha, rfl⟩ | ⟨hn, he, rfl⟩
  · exact .inl h
  · exact .inr (.inl h)
  · have hregistry : registryOf source = some a := by
      rw [registryOf, isEnabled, if_pos he, (checkRegistry_eq_ok_iff.mp ha).2]
    rw [hregistry]
    refine .inr (.inr ⟨hn, rfl, ?_⟩)
    rintro _ ⟨⟩
    exact isRegistry_of_checkRegistry ha
  · have hregistry : registryOf source = none := by
      rw [registryOf, isEnabled, he, if_neg Bool.false_ne_true]
    rw [hregistry]
    exact .inr (.inr ⟨hn, rfl, nofun⟩)

theorem means_of_readSources {node : Node} {s : ImageSources} (h : readSources node = .ok s) :
    MeansSources (node.children.getD []) s ∧ ∀ a ∈ s.registry, IsRegistry a := by
  refine of_foldlM (P := fun nodes s => MeansSources nodes s ∧ ∀ a ∈ s.registry, IsRegistry a)
    ?_ ?_ h
  · refine ⟨⟨rfl, rfl, rfl⟩, ?_⟩
    rintro _ ⟨⟩
    exact isRegistry_defaultRegistry
  · rintro nodes s source t ⟨⟨hd, hc, hr⟩, hvalid⟩ hadd
    rcases addSource_cases hadd with ⟨hn, rfl⟩ | ⟨hn, rfl⟩ | ⟨hn, rfl, hregistry⟩
    · refine ⟨⟨?_, ?_, ?_⟩, hvalid⟩ <;> simp [lastNamed_concat, hn, hc, hr]
    · refine ⟨⟨?_, ?_, ?_⟩, hvalid⟩ <;> simp [lastNamed_concat, hn, hd, hr]
    · refine ⟨⟨?_, ?_, ?_⟩, hregistry⟩ <;> simp [lastNamed_concat, hn, hd, hc]

/-! ## Builders -/

/-- Some builders are those that the nodes name, each by its text. -/
def MeansBuilders (nodes : List Node) (builders : StringMap String) : Prop :=
  ∀ id image, builders.get? id = some image ↔
    ∃ node ∈ nodes, node.name = id ∧ node.text? = some image

theorem means_of_readBuilders {node : Node} {builders : StringMap String}
    (h : readBuilders node = .ok builders) : MeansBuilders (node.children.getD []) builders := by
  refine of_foldlM (P := MeansBuilders) ?_ ?_ h
  · intro id image
    simp
  · intro nodes builders node all hmeans hadd id image
    obtain ⟨text, htext, hfresh, rfl⟩ := addBuilder_eq_ok_iff.mp hadd
    rw [← Node.text?_eq_some_iff] at htext
    rw [StringMap.get?_insert]
    simp only [List.mem_append, List.mem_singleton]
    by_cases hid : node.name = id
    · have hnone : ∀ other ∈ nodes, other.name = id → other.text? ≠ some image := by
        intro other hother hn ho
        rw [hid, (hmeans id image).mpr ⟨other, hother, hn, ho⟩] at hfresh
        cases hfresh
      rw [if_pos hid]
      constructor
      · intro himage
        exact ⟨node, .inr rfl, hid, htext.trans himage⟩
      · rintro ⟨other, hother | rfl, hn, ho⟩
        · exact absurd ho (hnone other hother hn)
        · exact htext.symm.trans ho
    · rw [if_neg hid, hmeans]
      constructor
      · rintro ⟨other, hother, h⟩
        exact ⟨other, .inl hother, h⟩
      · rintro ⟨other, hother | rfl, hn, ho⟩
        · exact ⟨other, hother, hn, ho⟩
        · exact absurd hn hid

/-! ## Documents -/

/-- The names of nodes that say something. -/
def isKnown (node : Node) : Bool :=
  ["namespace", "default-namespace", "resolvers", "builders"].contains node.name

/-- Some settings are what the last node of each name says. -/
structure Means (nodes : List Node) (c : Config) : Prop where
  project : IsLastText "namespace" nodes c.project
  sharedProject : ∃ text, IsLastText "default-namespace" nodes text ∧
    c.sharedProject = text.getD "default"
  sources : MeansSources (childrenOf "resolvers" nodes) c.sources
  builders : MeansBuilders (childrenOf "builders" nodes) c.builders

/-- The projects have names, and the registry can be asked. -/
structure Valid (c : Config) : Prop where
  project : ∀ p ∈ c.project, isLabel p = true
  sharedProject : isLabel c.sharedProject = true
  registry : ∀ a ∈ c.sources.registry, IsRegistry a

theorem addNode_cases {c d : Config} {node : Node} (h : addNode c node = .ok d) :
    (node.name = "namespace" ∧ ∃ p, node.text? = some p ∧ isLabel p = true ∧
      d = { c with project := some p }) ∨
    (node.name = "default-namespace" ∧ ∃ p, node.text? = some p ∧ isLabel p = true ∧
      d = { c with sharedProject := p }) ∨
    (node.name = "resolvers" ∧ ∃ s, readSources node = .ok s ∧ d = { c with sources := s }) ∨
    (node.name = "builders" ∧ ∃ b, readBuilders node = .ok b ∧ d = { c with builders := b }) ∨
    ((node.name ≠ "namespace" ∧ node.name ≠ "default-namespace" ∧ node.name ≠ "resolvers" ∧
      node.name ≠ "builders") ∧ d = c) := by
  simp only [addNode] at h
  split at h
  · rename_i hn
    obtain ⟨p, htext, h⟩ := requiredProject_eq_ok_iff.mp h
    exact .inl ⟨hn, p, Node.text?_eq_some_iff.mpr htext, h⟩
  · rename_i hn
    obtain ⟨p, htext, h⟩ := requiredProject_eq_ok_iff.mp h
    exact .inr (.inl ⟨hn, p, Node.text?_eq_some_iff.mpr htext, h⟩)
  · rename_i hn
    obtain ⟨s, hs, h⟩ := bind_eq_ok.mp h
    cases h
    exact .inr (.inr (.inl ⟨hn, s, hs, rfl⟩))
  · rename_i hn
    obtain ⟨b, hb, h⟩ := bind_eq_ok.mp h
    cases h
    exact .inr (.inr (.inr (.inl ⟨hn, b, hb, rfl⟩)))
  · rename_i hp hs hr hb
    cases h
    exact .inr (.inr (.inr (.inr ⟨⟨hp, hs, hr, hb⟩, rfl⟩)))

theorem means_nil : Means [] {} where
  project := rfl
  sharedProject := ⟨none, rfl, rfl⟩
  sources := ⟨rfl, rfl, rfl⟩
  builders id image := by simp [childrenOf, lastNamed]

theorem valid_default : Valid {} where
  project := nofun
  sharedProject := by decide
  registry := by
    rintro _ ⟨⟩
    exact isRegistry_defaultRegistry

section Step

variable {nodes : List Node} {c d : Config} {node : Node}

theorem Valid.step (hc : Valid c) (h : addNode c node = .ok d) : Valid d := by
  rcases addNode_cases h with ⟨-, p, -, hlabel, rfl⟩ | ⟨-, p, -, hlabel, rfl⟩ |
    ⟨-, s, hread, rfl⟩ | ⟨-, b, -, rfl⟩ | ⟨-, rfl⟩
  · refine { hc with project := ?_ }
    rintro _ ⟨⟩
    exact hlabel
  · exact { hc with sharedProject := hlabel }
  · exact { hc with registry := (means_of_readSources hread).2 }
  · exact { hc with }
  · exact hc

/-- With one more node, settings are still what the last node of each name says. -/
theorem Means.step (hc : Means nodes c) (h : addNode c node = .ok d) :
    Means (nodes ++ [node]) d := by
  have hproject (hn : node.name ≠ "namespace") :
      IsLastText "namespace" (nodes ++ [node]) c.project :=
    (isLastText_concat_of_ne hn).mpr hc.project
  have hshared (hn : node.name ≠ "default-namespace") :
      ∃ text, IsLastText "default-namespace" (nodes ++ [node]) text ∧
        c.sharedProject = text.getD "default" :=
    hc.sharedProject.imp fun _ => And.imp_left (isLastText_concat_of_ne hn).mpr
  have hsources (hn : node.name ≠ "resolvers") :
      MeansSources (childrenOf "resolvers" (nodes ++ [node])) c.sources := by
    rw [childrenOf_concat_of_ne hn]
    exact hc.sources
  have hbuilders (hn : node.name ≠ "builders") :
      MeansBuilders (childrenOf "builders" (nodes ++ [node])) c.builders := by
    rw [childrenOf_concat_of_ne hn]
    exact hc.builders
  rcases addNode_cases h with ⟨hn, p, htext, -, rfl⟩ | ⟨hn, p, htext, -, rfl⟩ |
    ⟨hn, s, hread, rfl⟩ | ⟨hn, b, hread, rfl⟩ | ⟨⟨hnp, hns, hnr, hnb⟩, rfl⟩
  · refine ⟨isLastText_concat hn htext, hshared ?_, hsources ?_, hbuilders ?_⟩ <;>
    · rw [hn]
      decide
  · refine ⟨hproject ?_, ⟨some p, isLastText_concat hn htext, rfl⟩, hsources ?_, hbuilders ?_⟩ <;>
    · rw [hn]
      decide
  · have hmeans := (means_of_readSources hread).1
    rw [← childrenOf_concat hn] at hmeans
    refine ⟨hproject ?_, hshared ?_, hmeans, hbuilders ?_⟩ <;>
    · rw [hn]
      decide
  · have hmeans := means_of_readBuilders hread
    rw [← childrenOf_concat hn] at hmeans
    refine ⟨hproject ?_, hshared ?_, hsources ?_, hmeans⟩ <;>
    · rw [hn]
      decide
  · exact ⟨hproject hnp, hshared hns, hsources hnr, hbuilders hnb⟩

end Step

theorem means_of_ofNodes {nodes : List Node} {c : Config} (h : ofNodes nodes = .ok c) :
    Means nodes c ∧ Valid c :=
  of_foldlM (P := fun nodes c => Means nodes c ∧ Valid c) ⟨means_nil, valid_default⟩
    (fun _ _ _ _ hc hadd => ⟨hc.1.step hadd, hc.2.step hadd⟩) h

theorem addNode_of_unknown (c : Config) {node : Node} (h : isKnown node = false) :
    addNode c node = .ok c := by
  have hne {name : String}
      (hk : ["namespace", "default-namespace", "resolvers", "builders"].contains name = true) :
      node.name ≠ name := by
    rintro rfl
    rw [isKnown, hk] at h
    cases h
  simp only [addNode]
  split
  · exact absurd ‹_› (hne rfl)
  · exact absurd ‹_› (hne rfl)
  · exact absurd ‹_› (hne rfl)
  · exact absurd ‹_› (hne rfl)
  · rfl

theorem ofNodes_filter (nodes : List Node) : ofNodes (nodes.filter isKnown) = ofNodes nodes := by
  have hskip (c : Config) (node : Node) :
      (if isKnown node = true then addNode c node else pure c) = addNode c node := by
    cases hk : isKnown node with
    | true => rfl
    | false => exact (addNode_of_unknown c hk).symm
  rw [ofNodes, List.foldlM_filter, ofNodes]
  simp only [hskip]

/-! ## Another project -/

/-- A project that is asked for has to be a label like those in a document. -/
theorem withProject_eq_ok_iff {c d : Config} {project : Option String} :
    c.withProject project = .ok d ↔
      (∀ p ∈ project, isLabel p = true) ∧ d = { c with project := project.or c.project } := by
  cases project with
  | none =>
    rw [withProject, Except.ok.injEq, eq_comm, Option.none_or]
    refine (and_iff_right ?_).symm
    rintro _ ⟨⟩
  | some p =>
    rw [withProject, checkProject]
    by_cases h : isLabel p = true
    · rw [if_pos h]
      show Except.ok { c with project := some p } = _ ↔ _
      rw [Except.ok.injEq, eq_comm, Option.some_or]
      refine (and_iff_right ?_).symm
      rintro _ ⟨⟩
      exact h
    · rw [if_neg h]
      refine iff_of_false (fun hd => ?_) fun hd => h (hd.1 p rfl)
      cases hd

theorem Valid.withProject {c d : Config} {project : Option String} (h : Valid c)
    (hd : c.withProject project = .ok d) : Valid d := by
  obtain ⟨hlabel, rfl⟩ := withProject_eq_ok_iff.mp hd
  refine { h with project := fun p hp => ?_ }
  rcases Option.or_eq_some_iff.mp hp with hp | ⟨-, hp⟩
  · exact hlabel p hp
  · exact h.project p hp

theorem Valid.ne_empty {c : Config} (h : Valid c) : c.sharedProject ≠ "" ∧ c.project ≠ some "" := by
  have hempty : isLabel "" = false := by decide
  constructor
  · intro he
    have := h.sharedProject
    rw [he, hempty] at this
    cases this
  · intro he
    have := h.project "" he
    rw [hempty] at this
    cases this

/-- The projects in which images are looked for are the two that the settings name, each once. -/
theorem Valid.projects_eq {c : Config} (h : Valid c) :
    ImageStream.projects c.project c.sharedProject =
      (c.project.toList ++ [c.sharedProject]).eraseDups := by
  have hfilter : c.project.filter (· ≠ "") = c.project := by
    cases hp : c.project with
    | none => rfl
    | some p =>
      rw [Option.filter_some, if_pos]
      refine decide_eq_true fun he => h.ne_empty.2 ?_
      rw [hp, he]
  rw [ImageStream.projects_eq, hfilter, if_neg h.ne_empty.1]

theorem Valid.isLabel_of_mem_projects {c : Config} (h : Valid c) :
    ∀ p ∈ ImageStream.projects c.project c.sharedProject, isLabel p = true := by
  intro p hp
  rw [h.projects_eq, List.mem_eraseDups, List.mem_append, Option.mem_toList,
    List.mem_singleton] at hp
  rcases hp with hp | rfl
  · exact h.project p hp
  · exact h.sharedProject

/-- What is read from a document that is accepted is what the last node of each name says, with the
project replaced by one that is asked for, if that is accepted too. Everything of it is valid,
no builder is named twice in one node, and documents that differ in unknown nodes only say the same.
So images are looked for in the two projects that the settings name, both labels, each once; no other
project has to stand in for the shared one. -/
theorem means_of_accepted {nodes : List Node} {read c : Config} {project : Option String}
    (h : ofNodes nodes = .ok read) (hc : read.withProject project = .ok c) :
    Means nodes read ∧ c = { read with project := project.or read.project } ∧ Valid c ∧
      (∀ node ∈ nodes, node.name = "builders" →
        ((node.children.getD []).map Node.name).Nodup) ∧
      (∀ others, others.filter isKnown = nodes.filter isKnown → ofNodes others = .ok read) ∧
      c.sharedProject ≠ "" ∧
      ImageStream.projects c.project c.sharedProject =
        (c.project.toList ++ [c.sharedProject]).eraseDups ∧
      (ImageStream.projects c.project c.sharedProject).Nodup ∧
      ∀ p ∈ ImageStream.projects c.project c.sharedProject, isLabel p = true := by
  obtain ⟨hmeans, hvalid⟩ := means_of_ofNodes h
  have hvalid := hvalid.withProject hc
  have haccepts := (exists_ofNodes_iff nodes).mp ⟨read, h⟩
  refine ⟨hmeans, (withProject_eq_ok_iff.mp hc).2, hvalid,
    fun node hn hname => ((haccepts node hn).builders hname).2, fun others ho => ?_,
    hvalid.ne_empty.1, hvalid.projects_eq, ImageStream.nodup_projects _ _,
    hvalid.isLabel_of_mem_projects⟩
  rw [← ofNodes_filter, ho, ofNodes_filter, h]

/-- A document with two names of projects, a node that is not known, and two words on one source. -/
def crewNodes : List Node :=
  let named (name text : String) (children : Option (List Node)) : Node :=
    .mk name [⟨none, .text text⟩] children
  let switched (name : String) (on : Bool) : Node :=
    .mk name [⟨some "enabled", .bool on⟩] none
  [named "namespace" "team" none, named "theme" "dark" none, named "namespace" "crew" none,
    .mk "resolvers" [] (some [switched "docker" true, switched "registry" false,
      switched "docker" false]),
    .mk "builders" [] (some [named "ruby" "ruby:3" none])]

/-- What is read from it. -/
def crew : Config where
  project := some "crew"
  sources := { docker := false, registry := none }
  builders := .ofList [("ruby", "ruby:3")]

theorem means_of_accepted_crew :
    ofNodes crewNodes = .ok crew ∧
      crew.withProject (some "ops") = .ok { crew with project := some "ops" } ∧
      Means crewNodes crew ∧ ImageStream.projects (some "ops") "default" = ["ops", "default"] := by
  have hread : ofNodes crewNodes = .ok crew := by decide
  have hproject : crew.withProject (some "ops") = .ok { crew with project := some "ops" } := by
    decide
  obtain ⟨hmeans, -, -, -, -, -, hprojects, -⟩ := means_of_accepted hread hproject
  exact ⟨hread, hproject, hmeans, hprojects.trans (by decide)⟩

end DeployPlan.Config
