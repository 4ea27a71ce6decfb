import DeployPlan.Proofs.Resolver.FirstAnswer
import DeployPlan.Proofs.Resolver.Requests

/-!
# Failures of the backends stay where they are

Whatever the backends answer, a chain of image sources ends with an image, or says that nobody knows
the image; only a text that is no image name is refused, and then nobody is asked. A backend is
asked only after all those before it in `Backend.order` failed. `firstAnswer_contained` says this of
the sources of any list of backends, and `chain_contains_failures` of the chain that the settings
ask for.
-/

namespace DeployPlan

/-- The order in which backends are asked. -/
def Backend.order : List Backend :=
  [.daemon, .cluster, .registry]

/-- The image source that asks a backend, if the settings ask for it and it is at hand. -/
def Backends.source? {m : Type → Type} [Monad m] (b : Backends m) (c : Config) :
    Backend → Option (Resolver m)
  | .daemon => if c.sources.docker then b.daemon.map .docker else none
  | .cluster =>
    if c.sources.cluster then
      b.cluster.map fun api =>
        .imageStream (.ofCluster api) (ImageStream.projects c.project c.sharedProject)
    else none
  | .registry => c.sources.registry.bind fun address =>
      (RegistryServer.ofAddress address).toOption.map fun server =>
        .registry (.overHttp b.network server)

theorem Backend.filterMap_order {α : Type} (f : Backend → Option α) :
    order.filterMap f = (f .daemon).toList ++ (f .cluster).toList ++ (f .registry).toList := by
  cases hd : f .daemon <;> cases hc : f .cluster <;> cases hr : f .registry <;>
    simp [order, hd, hc, hr]

namespace Resolver

theorem map_resolver_available {m : Type → Type} (docker cluster registry : Option (Resolver m)) :
    (available docker cluster registry).map (·.resolver) =
      docker.toList ++ cluster.toList ++ registry.toList := by
  cases docker <;> cases cluster <;> cases registry <;> rfl

theorem map_resolver_configured {m : Type → Type} [Monad m] (b : Backends m) (c : Config) :
    (configured b c).map (·.resolver) = Backend.order.filterMap (b.source? c) := by
  rw [configured, map_resolver_available, Backend.filterMap_order]
  rfl

variable {σ : Type} (b : Backends (StateM σ)) (c : Config)

/-- The source that asks a backend, noting its requests, does what the plain one does, asks this
backend only, and fails so that another source may still be asked. -/
theorem source?_noted (k : Backend) :
    Option.Rel (fun noted plain => ∀ {image name}, ImageName.parse image = .ok name →
        Asks k (Error.IsUnanswered image) (noted.resolve image) (plain.resolve image))
      (b.noted.source? c k) (b.source? c k) := by
  cases k with
  | daemon =>
    simp only [Backends.source?, Backends.noted]
    cases c.sources.docker with
    | false => exact .none
    | true =>
      cases b.daemon with
      | none => exact .none
      | some daemon => exact .some (docker_asks daemon)
  | cluster =>
    simp only [Backends.source?, Backends.noted]
    cases c.sources.cluster with
    | false => exact .none
    | true =>
      cases b.cluster with
      | none => exact .none
      | some api => exact .some (imageStream_asks api _)
  | registry =>
    simp only [Backends.source?, Backends.noted]
    cases c.sources.registry with
    | none => exact .none
    | some address =>
      simp only [Option.bind_some]
      cases RegistryServer.ofAddress address with
      | error e => exact .none
      | ok server => exact .some (registry_asks server b.network)

/-- How the sources of some backends, asked for an image one after the other, contain failures. -/
structure Contained (image : String) (order : List Backend) (s : σ) (calls : List BackendCall)
    (result : Except Error Image) : Prop where
  result : (∃ found, result = .ok found) ∨ result = .error (.resolution image)
  /-- All those before a backend that is asked fail. -/
  asked : ∀ call ∈ calls, ∃ before after, order = before ++ call.backend :: after ∧
    ∀ o ∈ answers image (before.filterMap (b.source? c)) s, ∃ e, o.1 = .error e

namespace Contained

variable {b c} {image : String} {backend : Backend} {order : List Backend} {s : σ}
  {calls : List BackendCall} {result : Except Error Image}

/-- A backend without a source is passed over. -/
theorem skip (hn : b.source? c backend = none) (h : Contained b c image order s calls result) :
    Contained b c image (backend :: order) s calls result where
  result := h.result
  asked call hc := by
    obtain ⟨before, after, rfl, hf⟩ := h.asked call hc
    refine ⟨backend :: before, after, rfl, ?_⟩
    rwa [List.filterMap_cons_none hn]

/-- The first backend is asked after nobody. -/
theorem asked_head (hc : ∀ call ∈ calls, call.backend = backend) :
    ∀ call ∈ calls, ∃ before after, backend :: order = before ++ call.backend :: after ∧
      ∀ o ∈ answers image (before.filterMap (b.source? c)) s, ∃ e, o.1 = .error e :=
  fun call h => ⟨[], order, by rw [hc call h]; rfl, nofun⟩

/-- After a source that fails, the backends behind it are asked. -/
theorem tail {source : Resolver (StateM σ)} {later : List BackendCall} {e : Error} {t : σ}
    (hs : b.source? c backend = some source)
    (hr : runFrom (source.resolve image) s = (.error e, t))
    (hc : ∀ call ∈ calls, call.backend = backend)
    (h : Contained b c image order t later result) :
    Contained b c image (backend :: order) s (calls ++ later) result where
  result := h.result
  asked := by
    refine List.forall_mem_append.mpr ⟨asked_head hc, fun call hcall => ?_⟩
    obtain ⟨before, after, rfl, hf⟩ := h.asked call hcall
    refine ⟨backend :: before, after, rfl, ?_⟩
    rw [List.filterMap_cons_some hs, answers, hr]
    exact List.forall_mem_cons.mpr ⟨⟨e, rfl⟩, hf⟩

end Contained

variable {b c}

/-- For the name of an image, the sources of any backends contain failures. -/
theorem firstAnswer_contained {image : String} {name : ImageName}
    (hp : ImageName.parse image = .ok name) (order : List Backend) (s : σ) :
    Records (firstAnswer image (order.filterMap (b.noted.source? c)))
      (firstAnswer image (order.filterMap (b.source? c))) s
      fun calls result _ => Contained b c image order s calls result := by
  induction order generalizing s with
  | nil => exact Records.throw _ ⟨.inr rfl, List.forall_mem_nil _⟩
  | cons backend order ih =>
    have hrel := source?_noted b c backend
    generalize hn : b.noted.source? c backend = noted? at hrel
    generalize hs : b.source? c backend = plain? at hrel
    cases hrel with
    | none =>
      rw [List.filterMap_cons_none hn, List.filterMap_cons_none hs]
      exact (ih s).mono fun calls result _ h => h.skip hs
    | @some noted plain asks =>
      rw [List.filterMap_cons_some hn, List.filterMap_cons_some hs, firstAnswer, firstAnswer]
      refine Notes.bind ((asks hp) s).with_run fun calls answer t hasked => ?_
      obtain ⟨⟨hc, he⟩, hr⟩ := hasked
      cases answer with
      | ok found =>
        refine Notes.pure id (Except.ok found) ⟨.inl ⟨found, rfl⟩, ?_⟩
        rw [List.append_nil]
        exact Contained.asked_head hc
      | error e =>
        simp only [id, (he e rfl).isSkippable, if_true]
        exact (ih t).mono fun later result _ h => h.tail hs hr hc

/-- A text that names no image is refused as such, and nobody is asked. Otherwise a chain of the
configured sources ends with an image or says that nobody knows it, whatever the backends answer,
and it asks a backend only if all those before it failed to give the image. -/
theorem chain_contains_failures (b : Backends (StateM σ)) (c : Config) (image : String) (s : σ) :
    Records ((chain (configured b.noted c)).resolve image) ((chain (configured b c)).resolve image)
      s fun calls result _ =>
        (∀ e, ImageName.parse image = .error e →
          (∃ message, e = .validation "image" message) ∧ result = .error e ∧ calls = []) ∧
        ∀ name, ImageName.parse image = .ok name →
          Contained b c image Backend.order s calls result := by
  refine Records.bindExcept (fun name hp => ?_) fun e hp => ?_
  · rw [map_resolver_configured, map_resolver_configured]
    refine (firstAnswer_contained hp Backend.order s).mono fun calls result _ h => ⟨?_, fun _ _ => h⟩
    intro e he
    rw [hp] at he
    cases he
  · refine ⟨fun e' he => ?_, fun name hn => ?_⟩
    · rw [hp] at he
      cases he
      exact ⟨ImageName.eq_validation_of_parse_eq_error hp, rfl, rfl⟩
    · rw [hp] at hn
      cases hn

end Resolver

end DeployPlan
