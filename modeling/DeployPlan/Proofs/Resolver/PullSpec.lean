import DeployPlan.Proofs.ImageName.RoundTrip
import DeployPlan.Proofs.Recording
import DeployPlan.Proofs.Url.HostText
import DeployPlan.Proofs.Url.PlainName
import DeployPlan.Registry.Exchange

/-!
# Asking a registry for a found image again

An image that a registry has is named with the registry's host, and is pulled by that name. The name
can be read back just if the host names a registry (`wellFormed_answerName_iff`): all other parts
stay as they were given, and a host is written with characters that do not divide a name. Then it
stands for what was asked for: `question_answerName` says that completing a name changes neither the
repository nor the reference that it means.

`RegistryClient.noted` notes the questions to a registry. A text that names an image is one question
(`isQuestion_of_parse`). `found_again_iff` says what follows for an image that was found: whether it
can be asked for by the text by which it is pulled depends on the host alone.
-/

namespace DeployPlan

open ImageName (NamesRegistry WellFormed)

variable {σ : Type}

/-! ## The name of what is found -/

namespace Registry

theorem serves_nameOf (host : String) : serves host (nameOf host) = true := by
  simp [serves]

theorem namesRegistry_nameOf_iff {host : String} :
    NamesRegistry (nameOf host).toList ↔ NamesRegistry host.toList := by
  rw [nameOf]
  split
  · rename_i h
    rw [h]
    exact iff_of_true (.inl (by decide)) (.inl (by decide))
  · exact Iff.rfl

theorem isHostText_nameOf {host : String} (h : Url.IsHostText host.toList) :
    Url.IsHostText (nameOf host).toList := by
  rw [nameOf]
  split
  · decide
  · exact h

/-- A completed name means the same repository, with the same tag or digest, and is complete. -/
theorem question_answerName (host : String) (name : ImageName) :
    repositoryOf host (answerName host name) = repositoryOf host name ∧
      referenceOf (answerName host name) = referenceOf name ∧
      answerName host (answerName host name) = answerName host name := by
  refine ⟨rfl, ?_⟩
  obtain ⟨registry, group, name, tag, digest⟩ := name
  cases tag <;> cases digest <;> exact ⟨rfl, rfl⟩

/-- The name of an image that is found is well formed just if the host names a registry. -/
theorem wellFormed_answerName_iff {host : String} {name : ImageName} (h : name.WellFormed)
    (hh : Url.IsHostText host.toList) :
    (answerName host name).WellFormed ↔ NamesRegistry host.toList := by
  rw [← namesRegistry_nameOf_iff]
  constructor
  · intro hw
    exact (hw.registry (nameOf host).toList rfl).1
  · intro hn
    have haddress : ImageName.IsAddress (nameOf host).toList := by
      refine ⟨hn, fun c hc => ?_⟩
      have hc : Url.IsHostChar c := isHostText_nameOf hh c hc
      exact ⟨hc.2.2.1, hc.2.2.2, ImageName.isBlank_eq_false
        (p := fun c => decide (Url.IsHostChar c)) (by decide) (decide_eq_true hc)⟩
    rw [answerName]
    split
    · rename_i hnone
      have htag : referenceOf name = ImageName.defaultTag := by
        simp only [Option.isNone_iff_eq_none] at hnone
        rw [referenceOf, hnone.2, Option.getD_none, ImageName.tagOrDefault, hnone.1,
          Option.getD_none]
      rw [htag]
      exact h.withTag.withRegistry haddress
    · exact h.withRegistry haddress

end Registry

/-! ## Questions to a registry -/

/-- A question to a registry, with its answer. -/
structure RegistryQuestion where
  repository : String
  reference : String
  answer : Except Error (Option RegistryImage)

/-- The client, noting each question with its answer. -/
def RegistryClient.noted (client : RegistryClient (StateM σ)) :
    RegistryClient (Recording RegistryQuestion σ) where
  host := client.host
  fetch repository reference := ExceptT.mk
    (note (RegistryQuestion.mk repository reference) (client.fetch repository reference).run)

/-- What an answer says of the image that a text names. -/
def Registry.outcome (host text : String) (name : ImageName) :
    Except Error (Option RegistryImage) → Except Error Image
  | .ok (some found) =>
    .ok (.ofSettings (answerName host name) .registry found.digest found.settings)
  | .ok none => .error (.resolverNoMatch text)
  | .error e => .error e

theorem Registry.exists_found_of_outcome_eq_ok {host text : String} {name : ImageName}
    {answer : Except Error (Option RegistryImage)} {image : Image}
    (h : outcome host text name answer = .ok image) : ∃ found, answer = .ok (some found) ∧
      Image.ofSettings (answerName host name) .registry found.digest found.settings = image := by
  rcases answer with e | found?
  · cases h
  · cases found? with
    | none => cases h
    | some found => exact ⟨found, rfl, Except.ok.inj h⟩

namespace Resolver

variable (client : RegistryClient (StateM σ)) {text : String} {name : ImageName}

/-- Only names are resolved, and only those that the registry serves. -/
theorem exists_name_of_registry_eq_ok {client : RegistryClient (StateM σ)} {s : σ} {image : Image}
    (h : (runFrom ((registry client).resolve text) s).1 = .ok image) :
    ∃ name, ImageName.parse text = .ok name ∧
      name.registry.any (!Registry.serves client.host ·) = false := by
  obtain ⟨name, t, hp, h⟩ := runFrom_bind_eq_ok.mp h
  refine ⟨name, ?_, ?_⟩
  · cases hr : ImageName.parse text with
    | error e =>
      rw [hr] at hp
      cases hp
    | ok name' =>
      rw [hr] at hp
      cases hp
      rfl
  · refine (Bool.not_eq_true _).mp fun hs => ?_
    rw [if_pos hs] at h
    cases h

/-- A name that a registry serves is asked for there. -/
theorem resolve_registry {m : Type → Type} [Monad m] [LawfulMonad m] (client : RegistryClient m)
    (hp : ImageName.parse text = .ok name)
    (hs : name.registry.any (!Registry.serves client.host ·) = false) :
    (registry client).resolve text =
      (client.fetch (Registry.repositoryOf client.host name) (Registry.referenceOf name) >>=
        fun found? => liftM (Registry.outcome client.host text name (.ok found?))) := by
  show (liftM (ImageName.parse text) >>= fun _ => _) = _
  rw [hp]
  refine (pure_bind name _).trans ?_
  simp only [hs, Bool.false_eq_true, if_false]
  refine bind_congr fun found? => ?_
  cases found? <;> rfl

/-- A text, resolved from `s`, is one question for a repository with a tag or digest; `Q` holds of
the answer and of what the text is resolved to. -/
def IsQuestion (text : String) (s : σ) (repository reference : String)
    (Q : Except Error (Option RegistryImage) → Except Error Image → Prop) : Prop :=
  Records ((registry client.noted).resolve text) ((registry client).resolve text) s
    fun calls result _ => ∃ answer, calls = [⟨repository, reference, answer⟩] ∧ Q answer result

theorem IsQuestion.mono {client : RegistryClient (StateM σ)} {s : σ} {repository reference : String}
    {P Q : Except Error (Option RegistryImage) → Except Error Image → Prop}
    (h : IsQuestion client text s repository reference P)
    (hq : ∀ answer result, P answer result → Q answer result) :
    IsQuestion client text s repository reference Q := by
  obtain ⟨calls, hrun, answer, hc, hp⟩ := h
  exact ⟨calls, hrun, answer, hc, hq _ _ hp⟩

/-- A name that a registry serves is one question to it, with the answer that the registry gives. -/
theorem isQuestion_answered (hp : ImageName.parse text = .ok name)
    (hs : name.registry.any (!Registry.serves client.host ·) = false) (s : σ) :
    IsQuestion client text s (Registry.repositoryOf client.host name) (Registry.referenceOf name)
      fun answer result =>
        answer = (runFrom (client.fetch (Registry.repositoryOf client.host name)
          (Registry.referenceOf name)) s).1 ∧
        result = Registry.outcome client.host text name answer := by
  let question := RegistryQuestion.mk (Registry.repositoryOf client.host name)
    (Registry.referenceOf name)
  have hfetch : Records (client.noted.fetch (Registry.repositoryOf client.host name)
      (Registry.referenceOf name)) (client.fetch (Registry.repositoryOf client.host name)
        (Registry.referenceOf name)) s fun calls answer _ => calls = [question answer] :=
    .of_note question _ s
  rw [IsQuestion, resolve_registry client hp hs, resolve_registry client.noted hp hs]
  refine Records.bind hfetch.with_run (fun calls found? t ⟨hc, hr⟩ => ?_)
    fun calls e t ⟨hc, hr⟩ => ⟨_, hc, (congrArg Prod.fst hr).symm, rfl⟩
  subst hc
  have hanswer : Except.ok found? = (runFrom (client.fetch _ _) s).1 :=
    (congrArg Prod.fst hr).symm
  cases found? with
  | none => exact Records.throw _ ⟨_, rfl, hanswer, rfl⟩
  | some found => exact Records.pure _ ⟨_, rfl, hanswer, rfl⟩

/-- A name that a registry serves is one question to it. -/
theorem isQuestion_of_parse (hp : ImageName.parse text = .ok name)
    (hs : name.registry.any (!Registry.serves client.host ·) = false) (s : σ) :
    IsQuestion client text s (Registry.repositoryOf client.host name) (Registry.referenceOf name)
      fun answer result => result = Registry.outcome client.host text name answer :=
  (isQuestion_answered client hp hs s).mono fun _ _ h => h.2

/-- If the name of what is found can be read, its text is the same question as the name that was
given, and the same answer stands for the same image. -/
theorem isQuestion_answerName (hw : (Registry.answerName client.host name).WellFormed) (t : σ) :
    IsQuestion client (Registry.answerName client.host name).toString t
      (Registry.repositoryOf client.host name) (Registry.referenceOf name)
      fun answer result => ∀ found, answer = .ok (some found) → result = .ok (.ofSettings
        (Registry.answerName client.host name) .registry found.digest found.settings) := by
  obtain ⟨hrepository, hreference, hcomplete⟩ := Registry.question_answerName client.host name
  have hs : (Registry.answerName client.host name).registry.any
      (!Registry.serves client.host ·) = false := by
    simp [Registry.answerName, Registry.serves_nameOf]
  have hread := isQuestion_of_parse client (ImageName.WellFormed.parse_toString hw) hs t
  rw [hrepository, hreference] at hread
  refine hread.mono fun answer result hr found hf => ?_
  rw [hr, hf, Registry.outcome, hcomplete]

end Resolver

namespace RegistryServer

theorem isHostText_host {address : String} {server : RegistryServer}
    (h : ofAddress address = .ok server) : Url.IsHostText server.host.toList := by
  rw [ofAddress] at h
  split at h
  · cases h
  · rename_i url hu
    split at h
    · cases h
    · cases h
      exact Url.isHostText_hostAndPort hu

end RegistryServer

namespace Resolver

/-- Of an image that a registry has, the text by which it is pulled is read as its name just if the
host of the registry names a registry; then that text asks the registry for what was asked for
before, and the answer that was given before stands for the same image. -/
theorem found_again_iff {address : String} {server : RegistryServer}
    (h : RegistryServer.ofAddress address = .ok server) (http : HttpClient (StateM σ))
    {text : String} {s : σ} {image : Image}
    (hi : (runFrom ((registry (.overHttp http server)).resolve text) s).1 = .ok image) :
    ∃ repository reference found,
      IsQuestion (.overHttp http server) text s repository reference
        (fun answer _ => answer = .ok (some found)) ∧
      (ImageName.parse image.pullSpec = .ok image.name ↔ NamesRegistry server.host.toList) ∧
      (NamesRegistry server.host.toList → ∀ t,
        IsQuestion (.overHttp http server) image.pullSpec t repository reference
          fun answer result => answer = .ok (some found) → result = .ok image) := by
  obtain ⟨name, hp, hs⟩ := exists_name_of_registry_eq_ok hi
  have hname : name.WellFormed := (ImageName.parse_eq_ok_iff_wellFormed.mp hp).1
  have hwell := Registry.wellFormed_answerName_iff hname (RegistryServer.isHostText_host h)
  obtain ⟨calls, hrun, answer, hc, hr⟩ := isQuestion_of_parse (.overHttp http server) hp hs s
  have hok : Registry.outcome server.host text name answer = .ok image := hr.symm.trans hi
  obtain ⟨found, rfl, rfl⟩ := Registry.exists_found_of_outcome_eq_ok hok
  refine ⟨_, _, found, ⟨calls, hrun, _, hc, rfl⟩, ?_, fun hn t => ?_⟩
  · rw [← hwell]
    constructor
    · intro hread
      exact (ImageName.parse_eq_ok_iff_wellFormed.mp hread).1
    · intro hw
      exact ImageName.WellFormed.parse_toString hw
  · have hagain := isQuestion_answerName (.overHttp http server) (hwell.mpr hn) t
    exact hagain.mono fun answer result hr => hr found

/-- A registry that has every image and says nothing of it. -/
def sayingNothing : HttpClient (StateM Unit) where
  get _ := pure (.ok { status := 200, body := "\x7b\x7d" })

/-- An image of a registry at a numeric address with a port is found again. -/
theorem found_again_numeric :
    ∃ server image, RegistryServer.ofAddress "http://[::1]:5000/" = .ok server ∧
      (runFrom ((registry (.overHttp sayingNothing server)).resolve "ruby") ()).1 = .ok image ∧
      image.pullSpec = "[::1]:5000/ruby:latest" ∧
      ∃ repository reference found,
        IsQuestion (.overHttp sayingNothing server) "ruby" () repository reference
          (fun answer _ => answer = .ok (some found)) ∧
        (ImageName.parse image.pullSpec = .ok image.name ↔ NamesRegistry server.host.toList) ∧
        (NamesRegistry server.host.toList → ∀ t,
          IsQuestion (.overHttp sayingNothing server) image.pullSpec t repository reference
            fun answer result => answer = .ok (some found) → result = .ok image) := by
  have hserver : RegistryServer.ofAddress "http://[::1]:5000/" =
      .ok ⟨"http://[::1]:5000", "[::1]:5000"⟩ :=
    eq_ok_of_toOption (by decide +kernel)
  have himage : (runFrom ((registry (.overHttp sayingNothing
      ⟨"http://[::1]:5000", "[::1]:5000"⟩)).resolve "ruby") ()).1 = .ok
        { name := { registry := some "[::1]:5000", name := "ruby", tag := some "latest" }
          origin := .registry } :=
    eq_ok_of_toOption (by decide +kernel)
  exact ⟨_, _, hserver, himage, by decide, found_again_iff hserver sayingNothing himage⟩

/-- A registry whose host is a single label. -/
def singleLabel : RegistryServer where
  base := "http://registry"
  host := "registry"

theorem ofAddress_singleLabel :
    RegistryServer.ofAddress "http://registry" = .ok singleLabel := by
  -- Deciding this over the list of characters, not over all characters.
  have hlower : ∀ c ∈ "registry".toList, c.toNat < 0x80 ∧ ¬('A' ≤ c ∧ c ≤ 'Z') :=
    @of_decide_eq_true _ (List.decidableBAll _ _) rfl
  have hplain : ∀ c ∈ "registry".toList, c ∉ Url.hostMarks :=
    @of_decide_eq_true _ (List.decidableBAll _ _) rfl
  have hdomain : Url.domainToAscii "registry".toList = some "registry".toList := by
    rw [Url.domainToAscii, Url.nameForm_self hlower]
    decide +kernel
  have hbytes : String.fromUTF8? ⟨(Url.percentDecode "registry".toList).toArray⟩ =
      some "registry" := by
    decide +kernel
  have hhost : Url.Host.parse "registry".toList = .ok (.domain "registry") :=
    Url.Host.parse_of_domain rfl hbytes hdomain (by decide) (by decide +kernel)
  have hurl : Url.parse "http://registry" =
      .ok { scheme := "http", hierarchical := true, host := some (.domain "registry"),
            path := "/" } :=
    Url.parse_of_host hplain (by decide +kernel) rfl (by decide) (by decide) hhost rfl
  rw [RegistryServer.ofAddress, hurl]
  rfl

/-- An image of a registry whose host is a single label is not found again: the text by which it is
pulled is a name without a registry, and asks for another repository. -/
theorem not_found_again :
    ∃ server image, RegistryServer.ofAddress "http://registry" = .ok server ∧
      (runFrom ((registry (.overHttp sayingNothing server)).resolve "ruby") ()).1 = .ok image ∧
      ImageName.parse image.pullSpec ≠ .ok image.name ∧
      IsQuestion (.overHttp sayingNothing server) "ruby" () "ruby" "latest" (fun _ _ => True) ∧
      IsQuestion (.overHttp sayingNothing server) image.pullSpec () "registry/ruby" "latest"
        fun _ result => result ≠ .ok image := by
  let client : RegistryClient (StateM Unit) := .overHttp sayingNothing singleLabel
  let image : Image :=
    { name := { registry := some "registry", name := "ruby", tag := some "latest" }
      origin := .registry }
  have himage : (runFrom ((registry client).resolve "ruby") ()).1 = .ok image :=
    eq_ok_of_toOption (by decide +kernel)
  have hread : ImageName.parse image.pullSpec =
      .ok { group := some "registry", name := "ruby", tag := some "latest" } :=
    eq_ok_of_toOption (by decide +kernel)
  have hruby : ImageName.parse "ruby" = .ok { name := "ruby" } :=
    eq_ok_of_toOption (by decide +kernel)
  refine ⟨_, image, ofAddress_singleLabel, himage, ?_, ?_, ?_⟩
  · rw [hread]
    exact fun h => absurd (Except.ok.inj h) (by decide)
  · exact (isQuestion_of_parse client hruby rfl ()).mono fun _ _ _ => True.intro
  · refine (isQuestion_of_parse client hread rfl ()).mono fun answer result hr hok => ?_
    obtain ⟨found, -, hi⟩ := Registry.exists_found_of_outcome_eq_ok (hr.symm.trans hok)
    have hgroup : some "registry" = none := congrArg (·.name.group) hi
    cases hgroup

end Resolver

end DeployPlan
