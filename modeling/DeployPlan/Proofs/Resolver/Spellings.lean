import DeployPlan.Proofs.Resolver.PullSpec

/-!
# One image, many spellings

An image of a registry can be asked for with the registry in front, under either of its names, or
without it, and with the tag that is meant or without. `Registry.spellings` are the texts for that;
each of them is read as a name that `Completes` the one that is meant, and names that complete each
other are the same question and get the same answer (`Completes.eq_question`).
`spelling_indifferent` puts this together for a registry that answers each question in one way: it
cannot be seen from the outside which of the texts was used.
-/

namespace DeployPlan

open ImageName (NamesRegistry WellFormed)

variable {σ : Type}

/-! ## Names that complete a name -/

namespace Registry

theorem isAddress_nameOf {host : String} (h : ImageName.IsAddress host.toList) :
    ImageName.IsAddress (nameOf host).toList := by
  refine ⟨namesRegistry_nameOf_iff.mpr h.names, ?_⟩
  rw [nameOf]
  split
  · exact (ImageName.IsAddress.of_all (.inl (by decide)) (by decide)).plain
  · exact h.plain

/-- The texts that ask a registry for an image: with the host, with the name of the registry, or
with neither in front, and each of them with the tag that is meant, if there is none and no
digest. -/
def spellings (host : String) (name : ImageName) : List String :=
  let plain := [name.toString, host ++ "/" ++ name.toString, nameOf host ++ "/" ++ name.toString]
  plain ++ if name.tag = none ∧ name.digest = none then plain.map (· ++ ":latest") else []

/-- What `meant` says is also said by `completed`, which may say the registry and the tag that are
meant as well. -/
structure Completes (host : String) (meant completed : ImageName) : Prop where
  registry : ∀ registry, completed.registry = some registry → serves host registry = true
  group : completed.group = meant.group
  name : completed.name = meant.name
  digest : completed.digest = meant.digest
  tag : completed.tag = meant.tag ∨
    meant.tag = none ∧ meant.digest = none ∧ completed.tag = some ImageName.defaultTag

namespace Completes

variable {host : String} {name completed : ImageName}

theorem any_serves (h : Completes host name completed) :
    completed.registry.any (!serves host ·) = false := by
  cases hr : completed.registry with
  | none => rfl
  | some registry => simp [h.registry registry hr]

/-- A name and what completes it are the same question, and the same answer is named alike. -/
theorem eq_question (h : Completes host name completed) :
    repositoryOf host completed = repositoryOf host name ∧
      referenceOf completed = referenceOf name ∧
      answerName host completed = answerName host name := by
  obtain ⟨registry, group, base, tag, digest⟩ := name
  obtain ⟨registry', group', base', tag', digest'⟩ := completed
  obtain rfl : group' = group := h.group
  obtain rfl : base' = base := h.name
  obtain rfl : digest' = digest := h.digest
  refine ⟨rfl, ?_⟩
  rcases h.tag with ht | ⟨ht, hd, ht'⟩
  · obtain rfl : tag' = tag := ht
    exact ⟨rfl, rfl⟩
  · obtain rfl : tag = none := ht
    obtain rfl : digest' = none := hd
    obtain rfl : tag' = some ImageName.defaultTag := ht'
    exact ⟨rfl, rfl⟩

/-- The tag that is meant may be said as well. -/
theorem withTag (h : Completes host name completed) (ht : name.tag = none)
    (hd : name.digest = none) :
    Completes host name { completed with tag := some ImageName.defaultTag } :=
  ⟨h.registry, h.group, h.name, h.digest, .inr ⟨ht, hd, rfl⟩⟩

end Completes

variable {host text : String} {name : ImageName}

/-- An answer stands for the image by the name that it gives to it. -/
theorem outcome_congr {completed : ImageName}
    (h : answerName host completed = answerName host name) :
    outcome host text completed = outcome host text name := by
  funext answer
  rcases answer with e | found?
  · rfl
  · cases found? with
    | none => rfl
    | some found => rw [outcome, outcome, h]

/-- Without the tag that is meant, a spelling is the text of a name that has the registry or
none. -/
theorem exists_completes (hhost : ImageName.IsAddress host.toList) (hname : name.WellFormed)
    (hnone : name.registry = none)
    (h : text ∈ [name.toString, host ++ "/" ++ name.toString,
      nameOf host ++ "/" ++ name.toString]) :
    ∃ completed, Completes host name completed ∧ completed.WellFormed ∧
      completed.toString = text ∧ completed.tag = name.tag := by
  have hwith (registry : String) (hs : serves host registry = true)
      (hr : ImageName.IsAddress registry.toList) : ∃ completed, Completes host name completed ∧
        completed.WellFormed ∧ completed.toString = registry ++ "/" ++ name.toString ∧
          completed.tag = name.tag := by
    refine ⟨{ name with registry := some registry }, ⟨?_, rfl, rfl, rfl, .inl rfl⟩,
      hname.withRegistry hr, ImageName.toString_withRegistry hnone registry, rfl⟩
    rintro _ ⟨⟩
    exact hs
  simp only [List.mem_cons, List.not_mem_nil, or_false] at h
  rcases h with rfl | rfl | rfl
  · exact ⟨name, ⟨fun r hr => (nomatch hnone.symm.trans hr), rfl, rfl, rfl, .inl rfl⟩, hname, rfl,
      rfl⟩
  · exact hwith host (by simp [serves]) hhost
  · exact hwith (nameOf host) (serves_nameOf host) (isAddress_nameOf hhost)

/-- Each spelling is the text of a name that completes the one that is meant. -/
theorem exists_completes_of_mem_spellings (hhost : ImageName.IsAddress host.toList)
    (hname : name.WellFormed) (hnone : name.registry = none) (h : text ∈ spellings host name) :
    ∃ completed, Completes host name completed ∧ completed.WellFormed ∧
      completed.toString = text := by
  rcases List.mem_append.mp h with h | h
  · obtain ⟨completed, hc, hw, hs, -⟩ := exists_completes hhost hname hnone h
    exact ⟨completed, hc, hw, hs⟩
  · split at h
    · rename_i hmeant
      obtain ⟨plain, hp, rfl⟩ := List.mem_map.mp h
      obtain ⟨completed, hc, hw, rfl, ht⟩ := exists_completes hhost hname hnone hp
      exact ⟨_, hc.withTag hmeant.1 hmeant.2, hw.withTag,
        ImageName.toString_withTag (ht.trans hmeant.1) (hc.digest.trans hmeant.2)⟩
    · cases h

end Registry

/-! ## Asking in many spellings -/

/-- The registry answers each question in one way, whatever it was asked before. -/
def RegistryClient.Answers (client : RegistryClient (StateM σ))
    (answer : String → String → Except Error (Option RegistryImage)) : Prop :=
  ∀ repository reference s,
    (runFrom (client.fetch repository reference) s).1 = answer repository reference

namespace Resolver

/-- All texts are one and the same question with one answer: then all stand for the same image, or
nobody knows what they were, or all fail with the error of the registry. -/
inductive ResolvesAlike (client : RegistryClient (StateM σ)) (texts : List String)
    (repository reference : String) : Except Error (Option RegistryImage) → Prop
  | found (found : RegistryImage) (image : Image)
    (h : ∀ text ∈ texts, ∀ s, IsQuestion client text s repository reference
      fun answer result => answer = .ok (some found) ∧ result = .ok image) :
    ResolvesAlike client texts repository reference (.ok (some found))
  | missing
    (h : ∀ text ∈ texts, ∀ s, IsQuestion client text s repository reference
      fun answer result => answer = .ok none ∧ result = .error (.resolverNoMatch text)) :
    ResolvesAlike client texts repository reference (.ok none)
  | failed (e : Error)
    (h : ∀ text ∈ texts, ∀ s, IsQuestion client text s repository reference
      fun answer result => answer = .error e ∧ result = .error e) :
    ResolvesAlike client texts repository reference (.error e)

/-- Texts with one answer resolve alike if it stands for the image by the same name. -/
theorem ResolvesAlike.of_outcome {client : RegistryClient (StateM σ)} {texts : List String}
    {repository reference : String} {name : ImageName}
    {answer : Except Error (Option RegistryImage)}
    (h : ∀ text ∈ texts, ∀ s, IsQuestion client text s repository reference fun given result =>
      given = answer ∧ result = Registry.outcome client.host text name given) :
    ResolvesAlike client texts repository reference answer := by
  rcases answer with e | found?
  · refine .failed e fun text ht s => (h text ht s).mono ?_
    rintro _ result ⟨rfl, hr⟩
    exact ⟨rfl, hr⟩
  · cases found? with
    | none =>
      refine .missing fun text ht s => (h text ht s).mono ?_
      rintro _ result ⟨rfl, hr⟩
      exact ⟨rfl, hr⟩
    | some found =>
      let image := Image.ofSettings (Registry.answerName client.host name) .registry found.digest
        found.settings
      refine .found found image fun text ht s => (h text ht s).mono ?_
      rintro _ result ⟨rfl, hr⟩
      exact ⟨rfl, hr⟩

/-- A name in another registry is not asked for. -/
theorem registry_foreign (client : RegistryClient (StateM σ)) {text registry : String}
    {name : ImageName} (hp : ImageName.parse text = .ok name)
    (hr : name.registry = some registry) (hs : Registry.serves client.host registry = false)
    (s : σ) :
    Records ((Resolver.registry client.noted).resolve text)
      ((Resolver.registry client).resolve text) s
      fun calls result t => calls = [] ∧ result = .error (.resolverNoMatch text) ∧ t = s := by
  have hforeign : name.registry.any (!Registry.serves client.host ·) = true := by
    rw [hr, Option.any_some, hs]
    rfl
  refine Records.bindExcept (fun n hn => ?_) fun e he => nomatch hp.symm.trans he
  obtain rfl : name = n := Except.ok.inj (hp.symm.trans hn)
  show Records (if name.registry.any (!Registry.serves client.host ·) then _ else _)
    (if name.registry.any (!Registry.serves client.host ·) then _ else _) s _
  rw [if_pos hforeign, if_pos hforeign]
  exact Records.throw _ ⟨rfl, rfl, rfl⟩

/-- A registry whose address can stand in a name, and that answers each question in one way, is
asked in the same way by all spellings of a name, each time once and for one repository with one
reference. They all find the same image, or all fail in the same way; only where there is no such
image, each names itself. The public hub keeps images without a group in the group `library`; any
other repository is as the name says. The reference is the digest, else the tag, else `latest`.
A name in another registry is not asked for at all. -/
theorem spelling_indifferent {client : RegistryClient (StateM σ)}
    {answer : String → String → Except Error (Option RegistryImage)}
    (hhost : ImageName.IsAddress client.host.toList) (hanswer : client.Answers answer)
    {name : ImageName} (hname : name.WellFormed) (hnone : name.registry = none) :
    (∃ repository reference,
      repository =
        (if (client.host = "registry-1.docker.io" ∨ client.host = "docker.io") ∧ name.group = none
          then "library/" ++ name.name else name.repository) ∧
      reference = name.digest.getD (name.tag.getD "latest") ∧
      ResolvesAlike client (Registry.spellings client.host name) repository reference
        (answer repository reference)) ∧
    ∀ text other registry, ImageName.parse text = .ok other → other.registry = some registry →
      registry ≠ client.host → registry ≠ Registry.nameOf client.host → ∀ s,
        Records ((Resolver.registry client.noted).resolve text)
          ((Resolver.registry client).resolve text) s
          fun calls result t => calls = [] ∧ result = .error (.resolverNoMatch text) ∧ t = s := by
  let repository := Registry.repositoryOf client.host name
  let reference := Registry.referenceOf name
  have hquestion : ∀ text ∈ Registry.spellings client.host name, ∀ s,
      IsQuestion client text s repository reference fun given result =>
        given = answer repository reference ∧
          result = Registry.outcome client.host text name given := by
    intro text ht s
    obtain ⟨completed, hc, hw, rfl⟩ :=
      Registry.exists_completes_of_mem_spellings hhost hname hnone ht
    obtain ⟨hrepository, hreference, hanswered⟩ := hc.eq_question
    have hasked := isQuestion_answered client hw.parse_toString hc.any_serves s
    rw [hrepository, hreference] at hasked
    refine hasked.mono fun given result ⟨hg, hr⟩ => ⟨hg.trans (hanswer _ _ s), ?_⟩
    rw [hr, Registry.outcome_congr hanswered]
  refine ⟨⟨repository, reference, ?_, rfl, ?_⟩, fun text other registry hp hr hn hn' s => ?_⟩
  · have hhub : Registry.nameOf client.host = Registry.hubName ↔
        client.host = "registry-1.docker.io" ∨ client.host = "docker.io" := by
      rw [Registry.nameOf]
      split
      · rename_i h
        exact iff_of_true rfl (.inl h)
      · rename_i h
        exact (or_iff_right h).symm
    show (if name.group.isNone ∧ _ then _ else _) = _
    simp only [Option.isNone_iff_eq_none, hhub, and_comm]
    rfl
  · exact ResolvesAlike.of_outcome hquestion
  · refine registry_foreign client hp hr ?_ s
    simp [Registry.serves, hn, hn']

/-- The answer of a registry that has one image: `library/ruby` with the tag `latest`. -/
def onlyRuby (repository reference : String) : Except Error (Option RegistryImage) :=
  .ok (if repository = "library/ruby" ∧ reference = "latest" then some { digest := "sha256:abc" }
    else none)

/-- The public hub, when it has that image only. -/
def hubWithRuby : RegistryClient (StateM Unit) where
  host := Registry.hubHost
  fetch repository reference := liftM (onlyRuby repository reference)

/-- Six texts ask the hub for its image `ruby`, and all of them find it. -/
theorem spelling_indifferent_ruby :
    ImageName.IsAddress hubWithRuby.host.toList ∧ hubWithRuby.Answers onlyRuby ∧
      WellFormed { name := "ruby" } ∧
      ResolvesAlike hubWithRuby
        ["ruby", "registry-1.docker.io/ruby", "docker.io/ruby", "ruby:latest",
          "registry-1.docker.io/ruby:latest", "docker.io/ruby:latest"]
        "library/ruby" "latest" (.ok (some { digest := "sha256:abc" })) := by
  have hhost : ImageName.IsAddress hubWithRuby.host.toList :=
    .of_all (.inl (by decide)) (by decide)
  have hanswers : hubWithRuby.Answers onlyRuby := fun _ _ _ => rfl
  have hruby : ImageName.parse "ruby" = .ok { name := "ruby" } :=
    eq_ok_of_toOption (by decide +kernel)
  have hname : WellFormed { name := "ruby" } := (ImageName.parse_eq_ok_iff_wellFormed.mp hruby).1
  obtain ⟨⟨repository, reference, rfl, rfl, h⟩, -⟩ :=
    spelling_indifferent hhost hanswers hname rfl
  exact ⟨hhost, hanswers, hname, h⟩

end Resolver

end DeployPlan
