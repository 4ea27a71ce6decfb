import DeployPlan.Config.Settings
import DeployPlan.Proofs.Recording
import DeployPlan.Proofs.Url.PlainName

/-!
# The types of values in settings

What a document has to look like for its settings to be accepted (`Accepts`, `exists_ofNodes_iff`),
and which types its values then have. The names of projects and the images of builders are texts in
every accepted document. What is said of an image source is not held to a type: a value of another
type counts as if it was not there. `asRead` is the document without such values; it is always well
typed (`Typed`) and has the same settings (`ofNodes_map_asRead`), and what is accepted is well typed
exactly if nothing of it is passed over (`Accepts.typed_iff`).
-/

namespace DeployPlan

/-! ## Entries that are passed over -/

namespace Kdl

def Value.isBool : Value → Bool
  | .bool _ => true
  | _ => false

theorem Value.isBool_iff {v : Value} : v.isBool = true ↔ ∃ b, v = .bool b := by
  cases v <;> simp [isBool]

namespace Node

/-- The values under a name, in the order in which they are mentioned. -/
def mentions (node : Node) (key : String) : List Value :=
  (node.entries.filter (·.name = some key)).map (·.value)

theorem mem_mentions {node : Node} {key : String} {v : Value} :
    v ∈ node.mentions key ↔ ∃ e ∈ node.entries, e.name = some key ∧ e.value = v := by
  simp [mentions, and_assoc]

def keeping (wanted : Entry → Bool) : Node → Node
  | mk name entries children => mk name (entries.filter wanted) children

@[simp] theorem name_keeping (wanted : Entry → Bool) (node : Node) :
    (node.keeping wanted).name = node.name := by
  cases node
  rfl

@[simp] theorem entries_keeping (wanted : Entry → Bool) (node : Node) :
    (node.keeping wanted).entries = node.entries.filter wanted := by
  cases node
  rfl

theorem keeping_eq_self_iff {wanted : Entry → Bool} {node : Node} :
    node.keeping wanted = node ↔ ∀ e ∈ node.entries, wanted e = true := by
  cases node
  simp [keeping, entries]

theorem exists_entry_of_argument? {node : Node} {v : Value} (h : node.argument? = some v) :
    ∃ e ∈ node.entries, e.name = none ∧ e.value = v := by
  obtain ⟨e, he, rfl⟩ := Option.map_eq_some_iff.mp h
  exact ⟨e, List.mem_of_find?_eq_some he, by simpa using List.find?_some he, rfl⟩

theorem exists_argument?_of_entry {node : Node} {e : Entry} (he : e ∈ node.entries)
    (hn : e.name = none) : ∃ v, node.argument? = some v := by
  obtain ⟨first, hf⟩ := Option.isSome_iff_exists.mp
    (List.find?_isSome.mpr ⟨e, he, by simp [hn]⟩ :
      (node.entries.find? (·.name.isNone)).isSome = true)
  exact ⟨first.value, by rw [argument?, hf, Option.map_some]⟩

theorem text?_eq_some_iff {node : Node} {s : String} :
    node.text? = some s ↔ node.argument? = some (.text s) := by
  rw [text?]
  split <;> simp_all

theorem flag?_eq_some_iff {node : Node} {key : String} {b : Bool} :
    node.flag? key = some b ↔ node.property? key = some (.bool b) := by
  rw [flag?]
  split
  · simp_all
  · rename_i hb
    exact ⟨nofun, fun h => absurd h (hb b)⟩

theorem exists_property?_of_mentions {node : Node} {key : String} {v : Value}
    (h : v ∈ node.mentions key) : ∃ w ∈ node.mentions key, node.property? key = some w := by
  obtain ⟨e, he, hn, -⟩ := mem_mentions.mp h
  obtain ⟨last, hl⟩ := Option.isSome_iff_exists.mp
    (List.find?_isSome.mpr ⟨e, List.mem_reverse.mpr he, by simp [hn]⟩ :
      (node.entries.reverse.find? (·.name = some key)).isSome = true)
  refine ⟨last.value, mem_mentions.mpr ⟨last, ?_, ?_, rfl⟩, ?_⟩
  · exact List.mem_reverse.mp (List.mem_of_find?_eq_some hl)
  · simpa using List.find?_some hl
  · rw [property?, hl, Option.map_some]

end Node

end Kdl

namespace Config

open Kdl (Node Value)

/-! ## What is accepted -/

def HasText (node : Node) : Prop :=
  ∃ s, node.argument? = some (.text s)

def IsWebAddress (address : String) : Prop :=
  ∃ url, Url.parse address = .ok url ∧ (url.scheme = "http" ∨ url.scheme = "https")

/-- The source is not switched off. -/
def IsOn (source : Node) : Prop :=
  source.flag? "enabled" ≠ some false

/-- What a node has to be like to describe an image source. -/
structure AcceptsSource (source : Node) : Prop where
  known : source.name = "docker" ∨ source.name = "cluster" ∨ source.name = "registry"
  /-- If the first value is a text, it is the address of the registry. -/
  address : source.name = "registry" → IsOn source →
    ∀ s, source.argument? = some (.text s) → IsWebAddress s

/-- What a node has to be like to be read as settings. -/
structure Accepts (node : Node) : Prop where
  project : node.name = "namespace" ∨ node.name = "default-namespace" →
    ∃ s, node.argument? = some (.text s) ∧ DnsName.isLabel s = true
  sources : node.name = "resolvers" → ∀ source ∈ node.children.getD [], AcceptsSource source
  builders : node.name = "builders" →
    (∀ builder ∈ node.children.getD [], HasText builder) ∧
      ((node.children.getD []).map Node.name).Nodup

/-- Checks one after the other all succeed if each of them does, whatever it starts from. -/
theorem foldlM_eq_ok_iff {ε α β : Type} {f : β → α → Except ε β} {P : α → Prop}
    (h : ∀ b a, (∃ c, f b a = .ok c) ↔ P a) (l : List α) (b : β) :
    (∃ c, l.foldlM f b = .ok c) ↔ ∀ a ∈ l, P a := by
  induction l generalizing b with
  | nil => simp [pure, Except.pure]
  | cons a l ih =>
    rw [List.foldlM_cons, List.forall_mem_cons, ← h b a]
    cases hf : f b a with
    | error e => simp [bind, Except.bind]
    | ok c => simpa [bind, Except.bind] using ih c

theorem exists_bind_pure_iff {ε α β : Type} {r : Except ε α} {f : α → β} :
    (∃ b, (r >>= fun a => pure (f a)) = .ok b) ↔ ∃ a, r = .ok a := by
  cases r <;> simp [bind, Except.bind, pure, Except.pure]

theorem requiredText_eq_ok_iff {node : Node} {field s : String} :
    requiredText node field = .ok s ↔ node.argument? = some (.text s) := by
  rw [requiredText, ← Node.text?_eq_some_iff]
  cases node.text? <;> simp

theorem checkRegistry_eq_ok_iff {address a : String} :
    checkRegistry address = .ok a ↔
      IsWebAddress address ∧ String.ofList (Text.trimEndWhere (· == '/') address.toList) = a := by
  rw [checkRegistry, IsWebAddress]
  cases Url.parse address with
  | error e => simp
  | ok url =>
    by_cases h : url.scheme = "http" ∨ url.scheme = "https" <;> simp [h]

theorem isWebAddress_defaultRegistry : IsWebAddress defaultRegistry := by
  have hlower : ∀ c ∈ "registry-1.docker.io".toList, c.toNat < 0x80 ∧ ¬('A' ≤ c ∧ c ≤ 'Z') :=
    @of_decide_eq_true _ (List.decidableBAll _ _) rfl
  have hplain : ∀ c ∈ "registry-1.docker.io".toList, c ∉ Url.hostMarks :=
    @of_decide_eq_true _ (List.decidableBAll _ _) rfl
  have hdomain : Url.domainToAscii "registry-1.docker.io".toList =
      some "registry-1.docker.io".toList := by
    rw [Url.domainToAscii, Url.nameForm_self hlower]
    decide +kernel
  have hbytes : String.fromUTF8? ⟨(Url.percentDecode "registry-1.docker.io".toList).toArray⟩ =
      some "registry-1.docker.io" := by
    decide +kernel
  have hhost : Url.Host.parse "registry-1.docker.io".toList = .ok (.domain "registry-1.docker.io") :=
    Url.Host.parse_of_domain rfl hbytes hdomain (by decide) (by decide +kernel)
  exact ⟨_, Url.parse_of_host hplain (by decide +kernel) rfl (by decide) (by decide) hhost rfl,
    .inr rfl⟩

/-- The address of a registry that is asked is checked, the usual one if no text says another. -/
theorem addSource_registry {s : ImageSources} {source : Node} (hn : source.name = "registry")
    (he : (source.flag? "enabled").getD true = true) :
    addSource s source = (checkRegistry (source.text?.getD defaultRegistry)).map fun address =>
      { s with registry := some address } := by
  simp only [addSource, hn, he, if_true]
  cases checkRegistry (source.text?.getD defaultRegistry) <;> rfl

/-- All that a node may do to image sources. -/
theorem addSource_eq_ok_iff {s t : ImageSources} {source : Node} :
    addSource s source = .ok t ↔
      (source.name = "docker" ∧ t = { s with docker := (source.flag? "enabled").getD true }) ∨
      (source.name = "cluster" ∧ t = { s with cluster := (source.flag? "enabled").getD true }) ∨
      (source.name = "registry" ∧ (source.flag? "enabled").getD true = true ∧
        ∃ address, checkRegistry (source.text?.getD defaultRegistry) = .ok address ∧
          t = { s with registry := some address }) ∨
      (source.name = "registry" ∧ (source.flag? "enabled").getD true = false ∧
        t = { s with registry := none }) := by
  have hok (u : ImageSources) : (pure u : Except ConfigError ImageSources) = .ok t ↔ t = u :=
    ⟨fun h => (Except.ok.inj h).symm, fun h => congrArg Except.ok h.symm⟩
  simp only [addSource]
  split
  · rename_i hn
    simp [hn, hok]
  · rename_i hn
    simp [hn, hok]
  · rename_i hn
    cases (source.flag? "enabled").getD true with
    | true =>
      simp only [if_true, bind_eq_ok, hok]
      simp [hn]
    | false => simp [hn, hok]
  · rename_i hd hc hr
    refine iff_of_false nofun ?_
    rintro (⟨hn, -⟩ | ⟨hn, -⟩ | ⟨hn, -⟩ | ⟨hn, -⟩) <;> contradiction

theorem isOn_iff {source : Node} : IsOn source ↔ (source.flag? "enabled").getD true = true := by
  rw [IsOn]
  cases source.flag? "enabled" with
  | none => simp
  | some b => cases b <;> simp

/-- Without a text the usual registry is asked, whose address passes. -/
theorem isWebAddress_text?_iff {source : Node} :
    IsWebAddress (source.text?.getD defaultRegistry) ↔
      ∀ s, source.argument? = some (.text s) → IsWebAddress s := by
  simp only [← Node.text?_eq_some_iff]
  cases source.text? with
  | none => simpa using isWebAddress_defaultRegistry
  | some s => simp

theorem exists_addSource_iff (s : ImageSources) (source : Node) :
    (∃ t, addSource s source = .ok t) ↔ AcceptsSource source := by
  constructor
  · rintro ⟨t, h⟩
    rcases addSource_eq_ok_iff.mp h with ⟨hn, -⟩ | ⟨hn, -⟩ | ⟨hn, -, a, ha, -⟩ | ⟨hn, he, -⟩
    · exact ⟨.inl hn, fun hr => absurd (hn.symm.trans hr) (by decide)⟩
    · exact ⟨.inr (.inl hn), fun hr => absurd (hn.symm.trans hr) (by decide)⟩
    · have hweb := (checkRegistry_eq_ok_iff.mp ha).1
      exact ⟨.inr (.inr hn), fun _ _ => isWebAddress_text?_iff.mp hweb⟩
    · refine ⟨.inr (.inr hn), fun _ hon => absurd (isOn_iff.mp hon) ?_⟩
      rw [he]
      exact Bool.false_ne_true
  · intro h
    simp only [addSource_eq_ok_iff]
    rcases h.known with hn | hn | hn
    · exact ⟨_, .inl ⟨hn, rfl⟩⟩
    · exact ⟨_, .inr (.inl ⟨hn, rfl⟩)⟩
    · cases he : (source.flag? "enabled").getD true with
      | true =>
        have hweb := isWebAddress_text?_iff.mpr (h.address hn (isOn_iff.mpr he))
        exact ⟨_, .inr (.inr (.inl ⟨hn, rfl, _, checkRegistry_eq_ok_iff.mpr ⟨hweb, rfl⟩, rfl⟩))⟩
      | false => exact ⟨_, .inr (.inr (.inr ⟨hn, rfl, rfl⟩))⟩

/-- A builder is added exactly if its node has a text and no builder has its name. -/
theorem addBuilder_eq_ok_iff {builders all : StringMap String} {node : Node} :
    addBuilder builders node = .ok all ↔
      ∃ image, node.argument? = some (.text image) ∧ builders.get? node.name = none ∧
        all = builders.insert node.name image := by
  rw [addBuilder, bind_eq_ok]
  simp only [requiredText_eq_ok_iff]
  refine exists_congr fun image => and_congr_right fun _ => ?_
  cases builders.get? node.name with
  | some other => simp [bind, Except.bind]
  | none => simp [pure, Except.pure, eq_comm]

/-- Beside one more name, names are new exactly if they are not that one and were new before. -/
theorem forall_get?_insert_eq_none_iff {nodes : List Node} {builders : StringMap String}
    {name image : String} :
    (∀ node ∈ nodes, (builders.insert name image).get? node.name = none) ↔
      name ∉ nodes.map Node.name ∧ ∀ node ∈ nodes, builders.get? node.name = none := by
  have hname (node : Node) : (builders.insert name image).get? node.name = none ↔
      node.name ≠ name ∧ builders.get? node.name = none := by
    rw [StringMap.get?_insert]
    by_cases h : name = node.name
    · simp [h]
    · simp [h, Ne.symm h]
  simp only [hname, List.mem_map, not_exists, not_and]
  exact forall₂_and

/-- The builders that some nodes name can be added to others exactly if each node has a text, and no
language is named twice. -/
theorem exists_addBuilders_iff (nodes : List Node) (builders : StringMap String) :
    (∃ all, nodes.foldlM addBuilder builders = .ok all) ↔
      (∀ node ∈ nodes, HasText node) ∧ (nodes.map Node.name).Nodup ∧
        ∀ node ∈ nodes, builders.get? node.name = none := by
  induction nodes generalizing builders with
  | nil => simp [pure, Except.pure]
  | cons node nodes ih =>
    rw [List.foldlM_cons, List.map_cons, List.nodup_cons, List.forall_mem_cons,
      List.forall_mem_cons]
    constructor
    · rintro ⟨all, h⟩
      obtain ⟨next, hadd, h⟩ := bind_eq_ok.mp h
      obtain ⟨image, htext, hnone, rfl⟩ := addBuilder_eq_ok_iff.mp hadd
      obtain ⟨htexts, hnodup, hnew⟩ := (ih _).mp ⟨all, h⟩
      obtain ⟨hfresh, hnones⟩ := forall_get?_insert_eq_none_iff.mp hnew
      exact ⟨⟨⟨image, htext⟩, htexts⟩, ⟨hfresh, hnodup⟩, hnone, hnones⟩
    · rintro ⟨⟨⟨image, htext⟩, htexts⟩, ⟨hfresh, hnodup⟩, hnone, hnones⟩
      have hnew : ∀ other ∈ nodes, (builders.insert node.name image).get? other.name = none :=
        forall_get?_insert_eq_none_iff.mpr ⟨hfresh, hnones⟩
      obtain ⟨all, h⟩ := (ih _).mpr ⟨htexts, hnodup, hnew⟩
      exact ⟨all, bind_eq_ok.mpr ⟨_, addBuilder_eq_ok_iff.mpr ⟨image, htext, hnone, rfl⟩, h⟩⟩

theorem exists_readBuilders_iff (node : Node) :
    (∃ builders, readBuilders node = .ok builders) ↔
      (∀ builder ∈ node.children.getD [], HasText builder) ∧
        ((node.children.getD []).map Node.name).Nodup := by
  rw [readBuilders, exists_addBuilders_iff]
  simp

theorem exists_readSources_iff (node : Node) :
    (∃ sources, readSources node = .ok sources) ↔
      ∀ source ∈ node.children.getD [], AcceptsSource source := by
  rw [readSources]
  exact foldlM_eq_ok_iff exists_addSource_iff _ _

/-- The name of a project is read from the first value, which has to be a label. -/
theorem requiredProject_eq_ok_iff {γ : Type} {node : Node} {field missing : String}
    {f : String → γ} {d : γ} :
    (requiredText node missing >>= fun s => checkProject field s >>= fun p =>
        pure (f p) : Except ConfigError γ) = .ok d ↔
      ∃ s, node.argument? = some (.text s) ∧ DnsName.isLabel s = true ∧ d = f s := by
  rw [bind_eq_ok]
  simp only [requiredText_eq_ok_iff]
  refine exists_congr fun s => and_congr_right fun _ => ?_
  by_cases h : DnsName.isLabel s = true
  · rw [checkProject, if_pos h]
    exact ⟨fun hd => ⟨h, (Except.ok.inj hd).symm⟩, fun hd => congrArg Except.ok hd.2.symm⟩
  · rw [checkProject, if_neg h]
    exact iff_of_false nofun fun hd => h hd.1

theorem exists_requiredProject_iff {γ : Type} (node : Node) (field missing : String)
    (f : String → γ) :
    (∃ d, (requiredText node missing >>= fun s => checkProject field s >>= fun p =>
        pure (f p) : Except ConfigError γ) = .ok d) ↔
      ∃ s, node.argument? = some (.text s) ∧ DnsName.isLabel s = true := by
  simp only [requiredProject_eq_ok_iff]
  exact ⟨fun ⟨_, s, htext, hlabel, _⟩ => ⟨s, htext, hlabel⟩,
    fun ⟨s, htext, hlabel⟩ => ⟨f s, s, htext, hlabel, rfl⟩⟩

theorem addNode_resolvers {c : Config} {node : Node} (hn : node.name = "resolvers") :
    addNode c node = (readSources node).map fun sources => { c with sources } := by
  simp only [addNode, hn]
  cases readSources node <;> rfl

theorem exists_addNode_iff (c : Config) (node : Node) :
    (∃ d, addNode c node = .ok d) ↔ Accepts node := by
  simp only [addNode]
  split
  · rename_i hn
    rw [exists_requiredProject_iff]
    exact ⟨fun h => ⟨fun _ => h, by simp [hn], by simp [hn]⟩, fun h => h.project (.inl hn)⟩
  · rename_i hn
    rw [exists_requiredProject_iff]
    exact ⟨fun h => ⟨fun _ => h, by simp [hn], by simp [hn]⟩, fun h => h.project (.inr hn)⟩
  · rename_i hn
    rw [exists_bind_pure_iff, exists_readSources_iff]
    exact ⟨fun h => ⟨by simp [hn], fun _ => h, by simp [hn]⟩, fun h => h.sources hn⟩
  · rename_i hn
    rw [exists_bind_pure_iff, exists_readBuilders_iff]
    exact ⟨fun h => ⟨by simp [hn], by simp [hn], fun _ => h⟩, fun h => h.builders hn⟩
  · rename_i hp hs hr hb
    exact iff_of_true ⟨c, rfl⟩ ⟨fun h => by rcases h with h | h <;> contradiction,
      fun h => absurd h hr, fun h => absurd h hb⟩

/-- The settings of a document can be read exactly if all its nodes are accepted. -/
theorem exists_ofNodes_iff (nodes : List Node) :
    (∃ c, ofNodes nodes = .ok c) ↔ ∀ node ∈ nodes, Accepts node :=
  foldlM_eq_ok_iff exists_addNode_iff nodes {}

/-! ## What is passed over -/

/-- What is said of an image source is of the right types. -/
structure TypedSource (source : Node) : Prop where
  enabled : ∀ v ∈ source.mentions "enabled", ∃ b, v = .bool b
  address : source.name = "registry" → IsOn source →
    ∀ v, source.argument? = some v → ∃ s, v = .text s ∧ IsWebAddress s

/-- The values that settings are read from are of the right types. -/
structure Typed (node : Node) : Prop where
  project : node.name = "namespace" ∨ node.name = "default-namespace" → HasText node
  sources : node.name = "resolvers" → ∀ source ∈ node.children.getD [], TypedSource source
  builders : node.name = "builders" → ∀ builder ∈ node.children.getD [], HasText builder

/-- Whether an entry of an image source counts. The mentions of the switch only do if the last of
them is a truth value, and those that are none never do; the values of a registry that is asked only
do if the first of them is a text. -/
def counts (source : Node) (e : Kdl.Entry) : Bool :=
  match e.name with
  | none =>
    source.text?.isSome || source.name != "registry" || source.flag? "enabled" == some false
  | some key => key != "enabled" || (source.flag? "enabled").isSome && e.value.isBool

/-- The image source without the entries that do not count. -/
def sourceAsRead (source : Node) : Node :=
  source.keeping (counts source)

/-- The node without what does not count of image sources. -/
def asRead : Node → Node
  | .mk name entries children =>
    .mk name entries (if name = "resolvers" then children.map (·.map sourceAsRead) else children)

theorem counts_of_name_none {source : Node} {e : Kdl.Entry} (h : e.name = none) :
    counts source e = (source.text?.isSome || source.name != "registry" ||
      source.flag? "enabled" == some false) := by
  rw [counts, h]

theorem counts_of_enabled {source : Node} {e : Kdl.Entry} (h : e.name = some "enabled") :
    counts source e = ((source.flag? "enabled").isSome && e.value.isBool) := by
  rw [counts, h]
  rfl

theorem text?_sourceAsRead (source : Node) : (sourceAsRead source).text? = source.text? := by
  have hargument : (sourceAsRead source).argument? =
      if source.text?.isSome || source.name != "registry" || source.flag? "enabled" == some false
        then source.argument? else none := by
    rw [sourceAsRead, Node.argument?, Node.entries_keeping, List.find?_filter]
    split
    · rename_i h
      rw [Node.argument?]
      congr 2
      funext e
      cases hn : e.name with
      | none => simp [counts_of_name_none hn, h]
      | some key => simp
    · rename_i h
      rw [List.find?_eq_none.mpr, Option.map_none]
      intro e _ he
      obtain ⟨hc, hn⟩ := of_decide_eq_true he
      exact h ((counts_of_name_none (by simpa using hn)).symm.trans hc)
  refine Option.ext fun t => ?_
  rw [Node.text?_eq_some_iff, hargument]
  split
  · exact Node.text?_eq_some_iff.symm
  · rename_i h
    refine iff_of_false nofun fun ht => h ?_
    simp [ht]

theorem find?_filter_of_find? {α : Type} {p q : α → Bool} {l : List α} {a : α}
    (h : l.find? q = some a) (hp : p a = true) : (l.filter p).find? q = some a := by
  obtain ⟨hq, before, after, rfl, hb⟩ := List.find?_eq_some_iff_append.mp h
  rw [List.filter_append, List.filter_cons_of_pos hp, List.find?_append,
    List.find?_eq_none.mpr, Option.none_or, List.find?_cons_of_pos hq]
  intro b hm
  simpa using hb b (List.mem_filter.mp hm).1

theorem flag?_sourceAsRead (source : Node) :
    (sourceAsRead source).flag? "enabled" = source.flag? "enabled" := by
  cases hf : source.flag? "enabled" with
  | some b =>
    rw [Node.flag?_eq_some_iff, Node.property?, Option.map_eq_some_iff] at hf ⊢
    obtain ⟨e, he, hv⟩ := hf
    refine ⟨e, ?_, hv⟩
    rw [sourceAsRead, Node.entries_keeping, ← List.filter_reverse]
    refine find?_filter_of_find? he ?_
    have hn : e.name = some "enabled" := by simpa using List.find?_some he
    have hb : source.flag? "enabled" = some b :=
      Node.flag?_eq_some_iff.mpr (by rw [Node.property?, he, Option.map_some, hv])
    rw [counts_of_enabled hn, hb, hv]
    rfl
  | none =>
    have hproperty : (sourceAsRead source).property? "enabled" = none := by
      rw [Node.property?, List.find?_eq_none.mpr, Option.map_none]
      intro e he hn
      rw [sourceAsRead, Node.entries_keeping, List.mem_reverse, List.mem_filter,
        counts_of_enabled (of_decide_eq_true hn), hf] at he
      simp at he
    rw [Node.flag?, hproperty]

theorem addSource_sourceAsRead (s : ImageSources) (source : Node) :
    addSource s (sourceAsRead source) = addSource s source := by
  simp only [addSource, text?_sourceAsRead, flag?_sourceAsRead]
  rw [sourceAsRead, Node.name_keeping]

theorem readSources_map_sourceAsRead (name : String) (entries : List Kdl.Entry)
    (children : Option (List Node)) :
    readSources (.mk name entries (children.map (·.map sourceAsRead))) =
      readSources (.mk name entries children) := by
  cases children with
  | none => rfl
  | some children =>
    show (children.map sourceAsRead).foldlM addSource {} = children.foldlM addSource {}
    rw [List.foldlM_map]
    simp only [addSource_sourceAsRead]

theorem addNode_asRead (c : Config) (node : Node) : addNode c (asRead node) = addNode c node := by
  obtain ⟨name, entries, children⟩ := node
  by_cases hn : name = "resolvers"
  · subst hn
    show (readSources (.mk "resolvers" entries (children.map (·.map sourceAsRead))) >>= fun sources =>
      pure { c with sources }) = _
    rw [readSources_map_sourceAsRead]
    rfl
  · rw [asRead, if_neg hn]

/-- The document has the same settings without what does not count. -/
theorem ofNodes_map_asRead (nodes : List Node) : ofNodes (nodes.map asRead) = ofNodes nodes := by
  rw [ofNodes, ofNodes, List.foldlM_map]
  simp only [addNode_asRead]

theorem AcceptsSource.typed_sourceAsRead {source : Node} (h : AcceptsSource source) :
    TypedSource (sourceAsRead source) := by
  refine ⟨fun v hv => ?_, fun hn hon v hv => ?_⟩
  · obtain ⟨e, he, hname, rfl⟩ := Node.mem_mentions.mp hv
    rw [sourceAsRead, Node.entries_keeping, List.mem_filter, counts_of_enabled hname] at he
    exact Value.isBool_iff.mp (Bool.and_eq_true_iff.mp he.2).2
  · have hname : source.name = "registry" := by simpa [sourceAsRead] using hn
    have hswitch : IsOn source := by
      rw [IsOn, flag?_sourceAsRead] at hon
      exact hon
    obtain ⟨e, he, hnone, -⟩ := Node.exists_entry_of_argument? hv
    rw [sourceAsRead, Node.entries_keeping, List.mem_filter, counts_of_name_none hnone] at he
    have htext : source.text?.isSome = true := by
      simpa [hname, show ¬ source.flag? "enabled" = some false from hswitch] using he.2
    obtain ⟨s, hs⟩ := Option.isSome_iff_exists.mp htext
    have hread : (sourceAsRead source).argument? = some (.text s) :=
      Node.text?_eq_some_iff.mp ((text?_sourceAsRead source).trans hs)
    exact ⟨s, Option.some.inj (hv.symm.trans hread),
      h.address hname hswitch s (Node.text?_eq_some_iff.mp hs)⟩

/-- An image source that is accepted is of the right types exactly if all of it counts. -/
theorem AcceptsSource.typed_iff {source : Node} (h : AcceptsSource source) :
    TypedSource source ↔ sourceAsRead source = source := by
  refine ⟨fun ht => ?_, fun he => he ▸ h.typed_sourceAsRead⟩
  refine Node.keeping_eq_self_iff.mpr fun e he => ?_
  cases hn : e.name with
  | none =>
    rw [counts_of_name_none hn]
    by_cases hr : source.name = "registry"
    · by_cases hon : IsOn source
      · obtain ⟨v, hv⟩ := Node.exists_argument?_of_entry he hn
        obtain ⟨s, rfl, -⟩ := ht.address hr hon v hv
        simp [Node.text?_eq_some_iff.mpr hv]
      · have hoff : source.flag? "enabled" = some false := Decidable.not_not.mp hon
        simp [hoff]
    · simp [hr]
  | some key =>
    by_cases hk : key = "enabled"
    · subst hk
      have hv : e.value ∈ source.mentions "enabled" := Node.mem_mentions.mpr ⟨e, he, hn, rfl⟩
      obtain ⟨w, hw, hp⟩ := Node.exists_property?_of_mentions hv
      obtain ⟨b, rfl⟩ := ht.enabled w hw
      rw [counts_of_enabled hn, Node.flag?_eq_some_iff.mpr hp,
        Value.isBool_iff.mpr (ht.enabled _ hv)]
      rfl
    · simp [counts, hn, hk]

theorem Accepts.typed_asRead {node : Node} (h : Accepts node) : Typed (asRead node) := by
  obtain ⟨name, entries, children⟩ := node
  by_cases hn : name = "resolvers"
  · subst hn
    refine ⟨by simp [asRead, Node.name], fun _ source hs => ?_, by simp [asRead, Node.name]⟩
    cases children with
    | none => cases hs
    | some children =>
      obtain ⟨plain, hp, rfl⟩ := List.mem_map.mp (show source ∈ children.map sourceAsRead from hs)
      exact (h.sources rfl plain hp).typed_sourceAsRead
  · rw [asRead, if_neg hn]
    exact ⟨fun hp => (h.project hp).imp fun s hs => hs.1, fun hr => absurd hr hn,
      fun hb => (h.builders hb).1⟩

/-- A node that is accepted is of the right types exactly if all of it counts. -/
theorem Accepts.typed_iff {node : Node} (h : Accepts node) : Typed node ↔ asRead node = node := by
  refine ⟨fun ht => ?_, fun he => he ▸ h.typed_asRead⟩
  obtain ⟨name, entries, children⟩ := node
  rw [asRead]
  split
  · rename_i hn
    cases children with
    | none => rfl
    | some children =>
      rw [Option.map_some, List.map_congr_left fun source hs => ?_, List.map_id]
      exact (h.sources hn source hs).typed_iff.mp (ht.sources hn source hs)
  · rfl

theorem map_asRead_eq_self_iff (nodes : List Node) :
    nodes.map asRead = nodes ↔ ∀ node ∈ nodes, asRead node = node := by
  induction nodes with
  | nil => simp
  | cons node nodes ih => simp [ih]

/-- A document is accepted exactly if the names of projects and the images of builders are texts,
projects have legal names, no builder is named twice, all image sources are known, and the texts
that name registries are addresses of the web. What is said of image sources may be of other types:
then it counts as if it was not there, and what is left is of the right types. -/
theorem parse_as_typed (text : String) :
    ((∃ c, parse text = .ok c) ↔
      ∃ nodes, Kdl.parse text = some nodes ∧ ∀ node ∈ nodes, Accepts node) ∧
    ∀ nodes, Kdl.parse text = some nodes → (∀ node ∈ nodes, Accepts node) →
      parse text = ofNodes (nodes.map asRead) ∧ (∀ node ∈ nodes.map asRead, Typed node) ∧
      ((∀ node ∈ nodes, Typed node) ↔ nodes.map asRead = nodes) := by
  refine ⟨?_, fun nodes hp ha => ⟨?_, ?_, ?_⟩⟩
  · rw [parse]
    cases hp : Kdl.parse text with
    | none => simp
    | some nodes => simpa using exists_ofNodes_iff nodes
  · rw [parse, hp, ofNodes_map_asRead]
  · intro node hn
    obtain ⟨plain, hm, rfl⟩ := List.mem_map.mp hn
    exact (ha plain hm).typed_asRead
  · rw [map_asRead_eq_self_iff]
    exact ⟨fun h node hn => (ha node hn).typed_iff.mp (h node hn),
      fun h node hn => (ha node hn).typed_iff.mpr (h node hn)⟩

/-- A document that names a registry by a number. -/
def numberedRegistry : String := "resolvers \x7b\n registry 5\n\x7d"

theorem tokens_numberedRegistry : Kdl.tokens numberedRegistry.toList =
    some [.text "resolvers".toList, .space, .openBrace, .newline, .space, .text "registry".toList,
      .space, .value (.number "5"), .newline, .closeBrace] := by
  decide +kernel

theorem parse_numberedRegistry : Kdl.parse numberedRegistry =
    some [.mk "resolvers" [] (some [.mk "registry" [⟨none, .number "5"⟩] none])] := by
  rw [Kdl.parse, tokens_numberedRegistry]
  rfl

theorem accepts_numberedRegistry :
    ∀ node ∈ [Node.mk "resolvers" [] (some [.mk "registry" [⟨none, .number "5"⟩] none])],
      Accepts node := by
  have hsource : AcceptsSource (.mk "registry" [⟨none, .number "5"⟩] none) :=
    ⟨.inr (.inr rfl), fun _ _ s hs => by cases hs⟩
  intro node hn
  obtain rfl := List.mem_singleton.mp hn
  refine ⟨by simp [Node.name], fun _ source hs => ?_, by simp [Node.name]⟩
  obtain rfl := List.mem_singleton.mp hs
  exact hsource

/-- The number that names a registry is passed over. -/
theorem parse_as_typed_number :
    parse numberedRegistry = ofNodes [.mk "resolvers" [] (some [.mk "registry" [] none])] :=
  ((parse_as_typed numberedRegistry).2 _ parse_numberedRegistry accepts_numberedRegistry).1

/-- A number for the address of a registry is no error: the usual registry is asked in its place. -/
theorem number_replaced_by_default :
    (∃ c, parse numberedRegistry = .ok c ∧ c.sources.registry = some defaultRegistry) ∧
      ∃ nodes, Kdl.parse numberedRegistry = some nodes ∧ ¬ ∀ node ∈ nodes, Typed node := by
  refine ⟨?_, _, parse_numberedRegistry, fun h => ?_⟩
  · have hcheck : checkRegistry defaultRegistry = .ok defaultRegistry :=
      checkRegistry_eq_ok_iff.mpr ⟨isWebAddress_defaultRegistry, by decide⟩
    have htext : (Node.mk "registry" [⟨none, .number "5"⟩] none).text? = none := rfl
    have hread : readSources (.mk "resolvers" [] (some [.mk "registry" [⟨none, .number "5"⟩] none])) =
        .ok { registry := some defaultRegistry } := by
      rw [readSources, Node.children, Option.getD_some, List.foldlM_cons,
        addSource_registry rfl rfl, htext, Option.getD_none, hcheck]
      rfl
    refine ⟨{ sources := { registry := some defaultRegistry } }, ?_, rfl⟩
    rw [parse, parse_numberedRegistry]
    dsimp only
    rw [ofNodes, List.foldlM_cons, addNode_resolvers rfl, hread]
    rfl
  · have htyped := (h _ (List.mem_singleton_self _)).sources rfl _ (List.mem_singleton_self _)
    obtain ⟨s, hs, -⟩ := htyped.address rfl nofun (.number "5") rfl
    cases hs

end Config

end DeployPlan
