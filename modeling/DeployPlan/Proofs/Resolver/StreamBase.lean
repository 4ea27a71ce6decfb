import DeployPlan.Proofs.Pipeline.Links
import DeployPlan.Proofs.Recording
import DeployPlan.Resolver.Cluster

/-!
# Bases in image streams

A build refers to a base of the platform as a stream of a project and a tag of that stream. Both are
read off the name of the image, and this name is read off the reference that the stream records for
the tag. `nameOf_eq_asked_iff` says when it is the name that was asked for, and
`refers_to_stream_iff` that exactly then the build refers to the stream in which the image was found
and starts when the tag that was looked up changes.
-/

namespace DeployPlan

/-- The build starts from a stream of a project, and starts when this tag of the stream changes. -/
structure BuildConfig.FromStream (build : BuildConfig) (project stream tag : String) : Prop where
  references : build.strategy.references = [.repository stream (some project)]
  triggers : build.triggers =
    [.imageChange (.repository stream (some project)) tag, .configChange]

/-- A build refers to one stream and one tag. -/
theorem BuildConfig.FromStream.iff_eq {build : BuildConfig} {project stream tag : String}
    (h : build.FromStream project stream tag) (stream' tag' : String) :
    build.FromStream project stream' tag' ↔ stream = stream' ∧ tag = tag' := by
  constructor
  · intro h'
    have ht := h.triggers.symm.trans h'.triggers
    simp [ImageReference.repository] at ht
    exact ht
  · rintro ⟨rfl, rfl⟩
    exact h

namespace Pipeline

variable {p : Pipeline} {base : Image}

/-- A base of the platform is referred to by the short name and the tag of the image. -/
theorem buildConfig_fromStream {project : String} (hb : p.base = some base)
    (ho : base.origin = .platform project) :
    p.buildConfig.FromStream project base.name.name base.name.tagOrDefault := by
  have hr : baseReference base = .repository base.name.name (some project) := by
    rw [baseReference, ho]
  refine ⟨?_, ?_⟩
  · show p.buildStrategy.references = _
    rw [references_buildStrategy, hb, ← hr]
    rfl
  · have htracked : base.isTracked = true := by rw [Image.isTracked, ho]
    show p.buildTriggers = _
    rw [buildTriggers_eq, hb, Option.filter_some_pos htracked, ← hr]
    rfl

theorem buildConfig_mem_keepFirst {build : BuildConfig} :
    .buildConfig build ∈ (keepFirst [] p.drafts).1 ↔ build = p.buildConfig := by
  rw [keepFirst_drafts]
  simp [PlanParts.groundwork, parts]

end Pipeline

namespace Cluster

variable {project : String} {asked : ImageName} {event : TagEvent}

/-- The reference that is recorded for a tag says, as far as it can be read, the name of the stream
and no other tag than the one that is asked for. -/
def TagEvent.Agrees (event : TagEvent) (asked : ImageName) : Prop :=
  ∀ name, ImageName.parse event.reference = .ok name →
    name.name = asked.name ∧ ∀ tag, name.tag = some tag → tag = asked.tagOrDefault

theorem tagOrDefault_nameOf (project : String) (asked : ImageName) (event : TagEvent) :
    (nameOf project asked event).tagOrDefault =
      match ImageName.parse event.reference with
      | .ok name => name.tag.getD asked.tagOrDefault
      | .error _ => asked.tagOrDefault := by
  rw [nameOf]
  cases ImageName.parse event.reference <;> rfl

/-- The image bears the name of the stream and the tag that was asked for exactly if the recorded
reference agrees with them. -/
theorem nameOf_eq_asked_iff :
    (nameOf project asked event).name = asked.name ∧
        (nameOf project asked event).tagOrDefault = asked.tagOrDefault ↔
      event.Agrees asked := by
  rw [tagOrDefault_nameOf, nameOf, TagEvent.Agrees]
  cases ImageName.parse event.reference with
  | error e => simp
  | ok name => cases ht : name.tag <;> simp [ht]

variable {σ : Type} {api : HttpClient (StateM σ)} {s : σ} {image : Image}

/-- An image that is found stands for the latest event that the stream records for the tag. -/
theorem find_eq_some (h : (runFrom (find api project asked) s).1 = .ok (some image)) :
    ∃ stream event content,
      (runFrom (fetch api (streamPath project asked.name) asked.name) s).1 = .ok (some stream) ∧
      latest? stream asked.tagOrDefault = some event ∧
      image = imageOf project asked event content := by
  obtain ⟨stream?, t, hstream, h⟩ := runFrom_bind_eq_ok.mp h
  rw [hstream]
  cases stream? with
  | none => cases h
  | some stream =>
    cases hl : latest? stream asked.tagOrDefault with
    | none =>
      simp only [hl] at h
      cases h
    | some event =>
      simp only [hl] at h
      cases hi : event.image with
      | none =>
        simp only [hi] at h
        cases h
        exact ⟨stream, event, none, rfl, hl, rfl⟩
      | some id =>
        simp only [hi] at h
        obtain ⟨content, u, -, h⟩ := runFrom_bind_eq_ok.mp h
        cases h
        exact ⟨stream, event, content, rfl, hl, rfl⟩

/-- A build with a base that is found in a stream refers to this stream, and to the tag that was
looked up, exactly if the reference that the stream records for the tag agrees with both. -/
theorem refers_to_stream_iff (h : (runFrom (find api project asked) s).1 = .ok (some image)) :
    ∃ stream event,
      (runFrom (fetch api (streamPath project asked.name) asked.name) s).1 = .ok (some stream) ∧
      latest? stream asked.tagOrDefault = some event ∧
      ∀ p : Pipeline, p.base = some image → ∃ build,
        (∀ other, .buildConfig other ∈ (keepFirst [] p.drafts).1 ↔ other = build) ∧
        (build.FromStream project asked.name asked.tagOrDefault ↔ event.Agrees asked) := by
  obtain ⟨stream, event, content, hstream, hlatest, rfl⟩ := find_eq_some h
  refine ⟨stream, event, hstream, hlatest, fun p hp => ?_⟩
  refine ⟨p.buildConfig, fun other => Pipeline.buildConfig_mem_keepFirst, ?_⟩
  have hb : p.buildConfig.FromStream project (nameOf project asked event).name
      (nameOf project asked event).tagOrDefault := Pipeline.buildConfig_fromStream hp rfl
  rw [hb.iff_eq]
  exact nameOf_eq_asked_iff

/-! ## A stream of other images -/

/-- A cluster that answers every request with a stream whose tag `2.0` stands for a reference. -/
def clusterWith (reference : String) : HttpClient (StateM Unit) where
  get _ := pure <| .ok
    { status := 200
      body := "\x7b\"status\": \x7b\"tags\": [\x7b\"tag\": \"2.0\", \"items\": " ++
        "[\x7b\"dockerImageReference\": \"" ++ reference ++ "\"\x7d]\x7d]\x7d\x7d" }

/-- The tag `2.0` of the stream `ruby`. -/
def ruby20 : ImageName where
  name := "ruby"
  tag := some "2.0"

/-- A reference by digest to an image of the stream's name agrees with the stream. -/
theorem refers_to_stream_of_digest :
    ∃ image,
      (runFrom (find (clusterWith "172.30.1.1:5000/openshift/ruby@sha256:abc") "openshift" ruby20)
        ()).1 = .ok (some image) ∧
      ∃ stream event,
        (runFrom (fetch (clusterWith "172.30.1.1:5000/openshift/ruby@sha256:abc")
          (streamPath "openshift" ruby20.name) ruby20.name) ()).1 = .ok (some stream) ∧
        latest? stream ruby20.tagOrDefault = some event ∧
        ∀ p : Pipeline, p.base = some image → ∃ build,
          (∀ other, .buildConfig other ∈ (keepFirst [] p.drafts).1 ↔ other = build) ∧
          (build.FromStream "openshift" ruby20.name ruby20.tagOrDefault ↔ event.Agrees ruby20) := by
  have h : (runFrom (find (clusterWith "172.30.1.1:5000/openshift/ruby@sha256:abc") "openshift"
      ruby20) ()).1 = .ok (some
        { name := { ruby20 with
            registry := some "172.30.1.1:5000", group := some "openshift",
            digest := some "sha256:abc" }
          origin := .platform "openshift" }) :=
    eq_ok_of_toOption (by decide +kernel)
  exact ⟨_, h, refers_to_stream_iff h⟩

/-- The tag `2.0` of the stream `ruby` stands for an image with another name: the build refers to a
stream of that name. -/
theorem refers_to_other_stream :
    ∃ image p,
      (runFrom (find (clusterWith "docker.io/openshift/ruby-20-centos7@sha256:abc") "openshift"
        ruby20) ()).1 = .ok (some image) ∧
      Pipeline.new "hello" (some image) { kind := .builderImage, base := some image }
        { name := "hello", location := .directory "/hello" } = .ok p ∧
      p.buildConfig.FromStream "openshift" "ruby-20-centos7" "2.0" ∧
      ¬ p.buildConfig.FromStream "openshift" ruby20.name ruby20.tagOrDefault := by
  have h : (runFrom (find (clusterWith "docker.io/openshift/ruby-20-centos7@sha256:abc")
      "openshift" ruby20) ()).1 = .ok (some
        { name :=
            { registry := some "docker.io", group := some "openshift", name := "ruby-20-centos7"
              tag := some "2.0", digest := some "sha256:abc" }
          origin := .platform "openshift" }) :=
    eq_ok_of_toOption (by decide +kernel)
  refine ⟨_, _, h, rfl, ⟨rfl, rfl⟩, fun hf => ?_⟩
  exact absurd hf.references (by decide)

end Cluster

end DeployPlan
