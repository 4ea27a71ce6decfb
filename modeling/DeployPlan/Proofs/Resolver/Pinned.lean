import DeployPlan.Proofs.Resolver.PullSpec
import DeployPlan.Proofs.Resolver.StreamBase
import DeployPlan.Resolver.Docker

/-!
# Names with a digest

A name with a digest asks for one fixed image. The local runtime and a registry name what they find
as it was asked for (`docker_yields_name`, `registry_yields_answerName`), so the digest stays. An
image stream is looked up by its tag, and what is found bears the name that the stream records for
the tag; `imageStream_yields` says where it comes from. `digest_kept` puts the three together: an
image of a stream has the digest that was asked for exactly if the tag stands for it.
-/

namespace DeployPlan

variable {σ : Type}

namespace ImageStream

variable (lookup : StreamLookup (StateM σ)) (text : String) (name : ImageName)

/-- One project of a search is asked, and then maybe the others. -/
theorem runFrom_search_cons (unavailable : Option String) (project : String) (rest : List String)
    (s : σ) :
    runFrom (search lookup text name unavailable (project :: rest)) s =
      match runFrom (lookup.find project name) s with
      | (.ok (some image), t) => (.ok image, t)
      | (.ok none, t) => runFrom (search lookup text name unavailable rest) t
      | (.error (.resolverTransient message), t) =>
        runFrom (search lookup text name (some message) rest) t
      | (.error e, t) => (.error e, t) := by
  rw [search, runFrom, runFrom, ExceptT.run_mk, StateT.run_bind]
  rcases (lookup.find project name).run.run s with ⟨e | found?, t⟩
  · cases e <;> rfl
  · cases found? <;> rfl

/-- What is found in some projects is found in one of them. -/
theorem search_yields {P : Image → Prop} {projects : List String} (unavailable : Option String)
    (h : ∀ project ∈ projects, Yields (lookup.find project name) fun found? =>
      ∀ image, found? = some image → P image) :
    Yields (search lookup text name unavailable projects) P := by
  induction projects generalizing unavailable with
  | nil =>
    cases unavailable with
    | none => exact Yields.throw _
    | some message => exact Yields.throw _
  | cons project rest ih =>
    obtain ⟨hfind, hrest⟩ := List.forall_mem_cons.mp h
    intro s image hi
    have hfound := hfind s
    rw [runFrom_search_cons] at hi
    rcases hf : runFrom (lookup.find project name) s with ⟨e | found?, t⟩ <;> rw [hf] at hi hfound
    · cases e
      case resolverTransient message => exact ih (some message) hrest t image hi
      all_goals cases hi
    · cases found? with
      | none => exact ih unavailable hrest t image hi
      | some found =>
        cases hi
        exact hfound _ rfl _ rfl

end ImageStream

namespace Cluster

/-- What a stream has bears the digest that is recorded for the tag, if any. -/
theorem digest_nameOf_eq_some_iff {project digest : String} {asked : ImageName} {event : TagEvent} :
    (nameOf project asked event).digest = some digest ↔
      ∃ recorded, ImageName.parse event.reference = .ok recorded ∧
        recorded.digest = some digest := by
  rw [nameOf]
  cases ImageName.parse event.reference <;> simp

end Cluster

namespace Resolver

variable {text : String} {name : ImageName}

/-- The local runtime names what it has as it was asked for. -/
theorem docker_yields_name (daemon : HttpClient (StateM σ)) (hp : ImageName.parse text = .ok name) :
    Yields ((docker daemon).resolve text) fun image => image.name = name := by
  refine Yields.bindExcept hp ?_
  refine Yields.bind (.trivial _) fun answer _ => ?_
  refine Yields.bind (.trivial _) fun found _ => ?_
  exact Yields.pure rfl

/-- A registry completes the name that it was asked for. -/
theorem registry_yields_answerName (client : RegistryClient (StateM σ))
    (hp : ImageName.parse text = .ok name) :
    Yields ((registry client).resolve text) fun image =>
      image.name = Registry.answerName client.host name := by
  refine Yields.bindExcept hp ?_
  refine Yields.ite (Yields.throw_bind _ _) ?_
  refine Yields.bind (.trivial _) fun found? _ => ?_
  cases found? with
  | none => exact Yields.throw _
  | some found => exact Yields.pure rfl

/-- What an image stream has was recorded in one of the projects for the tag. -/
theorem imageStream_yields (api : HttpClient (StateM σ)) (projects : List String)
    (hp : ImageName.parse text = .ok name) :
    Yields ((imageStream (.ofCluster api) projects).resolve text) fun image =>
      ∃ project ∈ ImageStream.probes projects name, ∃ s stream event content,
        (runFrom (Cluster.fetch api (Cluster.streamPath project name.name) name.name) s).1 =
          .ok (some stream) ∧
        Cluster.latest? stream name.tagOrDefault = some event ∧
        image = Cluster.imageOf project name event content := by
  refine Yields.bindExcept hp ?_
  refine Yields.ite (Yields.throw_bind _ _) ?_
  refine ImageStream.search_yields _ text name none fun project hm s found? hf image hi => ?_
  subst hi
  obtain ⟨stream, event, content, hstream, hlatest, rfl⟩ := Cluster.find_eq_some hf
  exact ⟨project, hm, s, stream, event, content, hstream, hlatest, rfl⟩

/-- A name with a digest, resolved by the local runtime or a registry, keeps its digest. An image of
an image stream has it exactly if the reference that was recorded for the tag has it. -/
theorem digest_kept {digest : String} (hp : ImageName.parse text = .ok name)
    (hd : name.digest = some digest) :
    (∀ daemon : HttpClient (StateM σ), Yields ((docker daemon).resolve text) fun image =>
      image.name.digest = some digest) ∧
    (∀ client : RegistryClient (StateM σ), Yields ((registry client).resolve text) fun image =>
      image.name.digest = some digest) ∧
    ∀ (api : HttpClient (StateM σ)) (projects : List String),
      Yields ((imageStream (.ofCluster api) projects).resolve text) fun image =>
        ∃ project ∈ ImageStream.probes projects name, ∃ s stream event,
          (runFrom (Cluster.fetch api (Cluster.streamPath project name.name) name.name) s).1 =
            .ok (some stream) ∧
          Cluster.latest? stream name.tagOrDefault = some event ∧
          image.origin = .platform project ∧
          (image.name.digest = some digest ↔
            ∃ recorded, ImageName.parse event.reference = .ok recorded ∧
              recorded.digest = some digest) := by
  refine ⟨fun daemon => ?_, fun client => ?_, fun api projects => ?_⟩
  · refine (docker_yields_name daemon hp).mono fun image hn => ?_
    rw [hn, hd]
  · refine (registry_yields_answerName client hp).mono fun image hn => ?_
    rw [hn]
    exact hd
  · refine (imageStream_yields api projects hp).mono fun image hx => ?_
    obtain ⟨project, hm, s, stream, event, content, hstream, hlatest, rfl⟩ := hx
    refine ⟨project, hm, s, stream, event, hstream, hlatest, rfl, ?_⟩
    exact Cluster.digest_nameOf_eq_some_iff

/-- The tag `2.0` of a stream, with a digest. -/
def ruby20abc : String := "openshift/ruby:2.0@sha256:abc"

theorem parse_ruby20abc : ImageName.parse ruby20abc = .ok
    { group := some "openshift", name := "ruby", tag := some "2.0", digest := some "sha256:abc" } :=
  eq_ok_of_toOption (by decide +kernel)

/-- If the tag stands for the image with the digest, all of them find this image. -/
theorem digest_kept_abc :
    ∃ name, ImageName.parse ruby20abc = .ok name ∧ name.digest = some "sha256:abc" ∧
      (∃ image, (runFrom ((docker sayingNothing).resolve ruby20abc) ()).1 = .ok image ∧
        image.name.digest = some "sha256:abc") ∧
      (∃ image, (runFrom ((registry (.overHttp sayingNothing singleLabel)).resolve
          ruby20abc) ()).1 = .ok image ∧
        image.name.digest = some "sha256:abc") ∧
      ∃ image, (runFrom ((imageStream (.ofCluster (Cluster.clusterWith
            "docker.io/openshift/ruby@sha256:abc")) []).resolve ruby20abc) ()).1 = .ok image ∧
        ∃ project ∈ ImageStream.probes [] name, ∃ s stream event,
          (runFrom (Cluster.fetch (Cluster.clusterWith "docker.io/openshift/ruby@sha256:abc")
            (Cluster.streamPath project name.name) name.name) s).1 = .ok (some stream) ∧
          Cluster.latest? stream name.tagOrDefault = some event ∧
          image.origin = .platform project ∧
          (image.name.digest = some "sha256:abc" ↔
            ∃ recorded, ImageName.parse event.reference = .ok recorded ∧
              recorded.digest = some "sha256:abc") := by
  obtain ⟨hdocker, hregistry, hstream⟩ := digest_kept (σ := Unit) parse_ruby20abc rfl
  have hlocal : (runFrom ((docker sayingNothing).resolve ruby20abc) ()).1 = .ok
      { name := { group := some "openshift", name := "ruby", tag := some "2.0",
                  digest := some "sha256:abc" }
        origin := .localRuntime } :=
    eq_ok_of_toOption (by decide +kernel)
  have hremote : (runFrom ((registry (.overHttp sayingNothing singleLabel)).resolve
      ruby20abc) ()).1 = .ok
      { name := { registry := some "registry", group := some "openshift", name := "ruby",
                  tag := some "2.0", digest := some "sha256:abc" }
        origin := .registry } :=
    eq_ok_of_toOption (by decide +kernel)
  have hplatform : (runFrom ((imageStream (.ofCluster (Cluster.clusterWith
      "docker.io/openshift/ruby@sha256:abc")) []).resolve ruby20abc) ()).1 = .ok
      { name := { registry := some "docker.io", group := some "openshift", name := "ruby",
                  tag := some "2.0", digest := some "sha256:abc" }
        origin := .platform "openshift" } :=
    eq_ok_of_toOption (by decide +kernel)
  exact ⟨_, parse_ruby20abc, rfl, ⟨_, hlocal, hdocker _ () _ hlocal⟩,
    ⟨_, hremote, hregistry _ () _ hremote⟩, _, hplatform, hstream _ _ () _ hplatform⟩

/-- If the tag stands for another image by now, the stream gives that one. -/
theorem digest_replaced :
    ∃ name image, ImageName.parse ruby20abc = .ok name ∧ name.digest = some "sha256:abc" ∧
      (runFrom ((imageStream (.ofCluster (Cluster.clusterWith
        "docker.io/openshift/ruby@sha256:def")) []).resolve ruby20abc) ()).1 = .ok image ∧
      image.name.digest = some "sha256:def" := by
  have hplatform : (runFrom ((imageStream (.ofCluster (Cluster.clusterWith
      "docker.io/openshift/ruby@sha256:def")) []).resolve ruby20abc) ()).1 = .ok
      { name := { registry := some "docker.io", group := some "openshift", name := "ruby",
                  tag := some "2.0", digest := some "sha256:def" }
        origin := .platform "openshift" } :=
    eq_ok_of_toOption (by decide +kernel)
  exact ⟨_, _, parse_ruby20abc, rfl, hplatform, rfl⟩

end Resolver

end DeployPlan
