import DeployPlan.Proofs.Recording
import DeployPlan.Resolver.Configured

/-!
# Whom an image source asks, and how it fails

The image sources ask three backends: the daemon of the local runtime, the platform, and the
registry. `Backends.noted` makes backends that note each request. `Asks backend E x y` says of a
part of an image source that it makes requests to one backend only and that, whatever is answered,
its errors are among `E`; there is one rule for each way in which parts are put together. From these
`docker_asks`, `imageStream_asks` and `registry_asks` follow: for the name of an image, each source
asks its own backend, and either finds the image or fails so that another source may still be asked.
-/

namespace DeployPlan

variable {σ α β : Type}

/-- Whom the image sources ask. -/
inductive Backend
  | daemon
  | cluster
  | registry
  deriving DecidableEq, Repr

/-- A request, with whom it is made to. -/
structure BackendCall where
  backend : Backend
  request : HttpRequest
  deriving DecidableEq, Repr

/-- The client of a backend, noting each request. -/
def HttpClient.noting (backend : Backend) (http : HttpClient (StateM σ)) :
    HttpClient (Recording BackendCall σ) where
  get r := note (fun _ => ⟨backend, r⟩) (http.get r)

/-- The backends, noting each request. -/
def Backends.noted (b : Backends (StateM σ)) : Backends (Recording BackendCall σ) where
  daemon := b.daemon.map (·.noting .daemon)
  cluster := b.cluster.map (·.noting .cluster)
  network := b.network.noting .registry

/-- The recording `x` does what `y` does, makes requests to one backend only, and has errors among
`E` only. -/
def Asks (backend : Backend) (E : Error → Prop) (x : ExceptT Error (Recording BackendCall σ) α)
    (y : ExceptT Error (StateM σ) α) : Prop :=
  ∀ s, Records x y s fun calls result _ =>
    (∀ call ∈ calls, call.backend = backend) ∧ ∀ e, result = .error e → E e

namespace Asks

variable {backend : Backend} {E : Error → Prop} {x x' : ExceptT Error (Recording BackendCall σ) α}
  {y y' : ExceptT Error (StateM σ) α} {f : α → ExceptT Error (Recording BackendCall σ) β}
  {g : α → ExceptT Error (StateM σ) β}

protected theorem pure (a : α) :
    Asks backend E (pure a : ExceptT Error (Recording BackendCall σ) α) (pure a) :=
  fun _ => Records.pure a ⟨nofun, nofun⟩

protected theorem throw {e : Error} (h : E e) :
    Asks backend E (throw e : ExceptT Error (Recording BackendCall σ) α) (throw e) := by
  refine fun s => Records.throw e ⟨nofun, fun e' he => ?_⟩
  cases he
  exact h

theorem mono {E' : Error → Prop} (h : Asks backend E x y) (hE : ∀ e, E e → E' e) :
    Asks backend E' x y :=
  fun s => (h s).mono fun _ _ _ hx => ⟨hx.1, fun e he => hE e (hx.2 e he)⟩

theorem ite {c : Prop} [Decidable c] (h : Asks backend E x y) (h' : Asks backend E x' y') :
    Asks backend E (if c then x else x') (if c then y else y') := by
  split
  · exact h
  · exact h'

protected theorem bind (h : Asks backend E x y) (hf : ∀ a, Asks backend E (f a) (g a)) :
    Asks backend E (x >>= f) (y >>= g) := by
  refine fun s => Records.bind (h s) (fun calls a t hx => ?_) fun calls e t hx => ⟨hx.1, ?_⟩
  · exact (hf a t).mono fun later _ _ hy => ⟨List.forall_mem_append.mpr ⟨hx.1, hy.1⟩, hy.2⟩
  · rintro e' he
    cases he
    exact hx.2 e rfl

theorem ofExcept {r : Except Error α} (h : ∀ e, r = .error e → E e) :
    Asks backend E (liftM r : ExceptT Error (Recording BackendCall σ) α) (liftM r) := by
  cases r with
  | ok a => exact .pure a
  | error e => exact .throw (h e rfl)

theorem bindExcept {r : Except Error α} (h : ∀ e, r = .error e → E e)
    (hf : ∀ a, Asks backend E (f a) (g a)) : Asks backend E (liftM r >>= f) (liftM r >>= g) :=
  (ofExcept h).bind hf

theorem bindOk {r : Except Error α} {a : α} (hr : r = .ok a) (hf : Asks backend E (f a) (g a)) :
    Asks backend E (liftM r >>= f) (liftM r >>= g) := by
  rw [hr]
  exact hf

/-- A request is noted as one to its backend. -/
theorem bindGet {http : HttpClient (StateM σ)} {r : HttpRequest}
    {f : Except HttpFailure HttpResponse → ExceptT Error (Recording BackendCall σ) β}
    {g : Except HttpFailure HttpResponse → ExceptT Error (StateM σ) β}
    (hf : ∀ answer, Asks backend E (f answer) (g answer)) :
    Asks backend E (liftM ((http.noting backend).get r) >>= f) (liftM (http.get r) >>= g) := by
  intro s
  have hr : Notes id ((http.noting backend).get r) (http.get r) s
      fun calls _ _ => calls = [⟨backend, r⟩] :=
    .of_note (fun _ => BackendCall.mk backend r) (http.get r) s
  refine Records.bindState hr fun calls answer t hc => ?_
  refine (hf answer t).mono fun later _ _ hy => ⟨?_, hy.2⟩
  rw [hc]
  exact List.forall_mem_cons.mpr ⟨rfl, hy.1⟩

end Asks

namespace Error

/-- Somebody could not be asked. -/
def IsTransient (e : Error) : Prop :=
  ∃ message, e = .resolverTransient message

/-- Somebody could not be asked, or does not know the image. -/
def IsUnanswered (image : String) (e : Error) : Prop :=
  e.IsTransient ∨ e = .resolverNoMatch image

theorem IsUnanswered.isSkippable {image : String} {e : Error} (h : e.IsUnanswered image) :
    e.isSkippable = true := by
  rcases h with ⟨message, rfl⟩ | rfl <;> rfl

end Error

theorem eq_of_mapError_eq_error {ε ε' : Type} {r : Except ε α} {f : ε → ε'} {e : ε'}
    (h : r.mapError f = .error e) : ∃ e', e = f e' := by
  cases r with
  | ok a => cases h
  | error e' =>
    cases h
    exact ⟨e', rfl⟩

/-! ## The daemon -/

namespace LocalRuntime

theorem readAnswer_isUnanswered {image : String} {answer : Except HttpFailure HttpResponse}
    {e : Error} (h : readAnswer image answer = .error e) : e.IsUnanswered image := by
  cases answer with
  | error failure =>
    cases h
    exact .inl ⟨_, rfl⟩
  | ok r =>
    rw [readAnswer] at h
    split at h
    · obtain ⟨failure, rfl⟩ := eq_of_mapError_eq_error h
      exact .inl ⟨_, rfl⟩
    · split at h
      · cases h
        exact .inl ⟨_, rfl⟩
      · split at h
        · cases h
          exact .inr rfl
        · cases h
          exact .inl ⟨_, rfl⟩

end LocalRuntime

namespace Resolver

/-- The source of local images asks the daemon. -/
theorem docker_asks (daemon : HttpClient (StateM σ)) {image : String} {name : ImageName}
    (hp : ImageName.parse image = .ok name) :
    Asks .daemon (Error.IsUnanswered image) ((docker (daemon.noting .daemon)).resolve image)
      ((docker daemon).resolve image) := by
  refine Asks.bindOk hp (Asks.bindGet fun answer => ?_)
  exact Asks.bindExcept (fun e => LocalRuntime.readAnswer_isUnanswered) fun _ => Asks.pure _

end Resolver

/-! ## The platform -/

namespace Cluster

theorem readResource_isTransient {answer : Except HttpFailure HttpResponse} {e : Error}
    (h : readResource answer = .error e) : e.IsTransient := by
  cases answer with
  | error failure =>
    cases h
    exact ⟨_, rfl⟩
  | ok r =>
    simp only [readResource] at h
    split at h
    · split at h
      · cases h
      · cases h
        exact ⟨_, rfl⟩
    · obtain ⟨failure, rfl⟩ := eq_of_mapError_eq_error h
      exact ⟨_, rfl⟩

theorem fetch_asks (api : HttpClient (StateM σ)) (path name : String) :
    Asks .cluster Error.IsTransient (fetch (api.noting .cluster) path name)
      (fetch api path name) := by
  refine Asks.ite (Asks.throw ⟨_, rfl⟩) ?_
  refine Asks.ite (Asks.throw ⟨_, rfl⟩) ?_
  exact Asks.bindGet fun answer => Asks.ofExcept fun e => readResource_isTransient

theorem find_asks (api : HttpClient (StateM σ)) (project : String) (name : ImageName) :
    Asks .cluster Error.IsTransient (find (api.noting .cluster) project name)
      (find api project name) := by
  refine Asks.bind (fetch_asks api _ _) fun stream? => ?_
  cases stream? with
  | none => exact Asks.pure none
  | some stream =>
    cases hl : latest? stream name.tagOrDefault with
    | none =>
      simp only [hl]
      exact Asks.pure none
    | some event =>
      simp only [hl]
      cases event.image with
      | none => exact Asks.pure _
      | some id => exact Asks.bind (fetch_asks api _ _) fun _ => Asks.pure _

end Cluster

namespace ImageStream

/-- A search in some projects asks whom the lookup asks, and fails as a source of images does. -/
theorem search_asks {backend : Backend} {noted : StreamLookup (Recording BackendCall σ)}
    {lookup : StreamLookup (StateM σ)}
    (h : ∀ project name, Asks backend Error.IsTransient (noted.find project name)
      (lookup.find project name))
    (text : String) (name : ImageName) (unavailable : Option String) (projects : List String) :
    Asks backend (Error.IsUnanswered text) (search noted text name unavailable projects)
      (search lookup text name unavailable projects) := by
  induction projects generalizing unavailable with
  | nil =>
    cases unavailable with
    | none => exact Asks.throw (.inr rfl)
    | some message => exact Asks.throw (.inl ⟨message, rfl⟩)
  | cons project rest ih =>
    rw [search, search]
    intro s
    refine Notes.bind (h project name s) fun calls answer t hx => ?_
    have hc : ∀ later : List BackendCall, (∀ call ∈ later, call.backend = backend) →
        ∀ call ∈ calls ++ later, call.backend = backend :=
      fun later hl => List.forall_mem_append.mpr ⟨hx.1, hl⟩
    rcases answer with e | image?
    · obtain ⟨message, rfl⟩ := hx.2 e rfl
      exact (ih (some message) t).mono fun later _ _ hy => ⟨hc later hy.1, hy.2⟩
    · cases image? with
      | none => exact (ih unavailable t).mono fun later _ _ hy => ⟨hc later hy.1, hy.2⟩
      | some image => exact Notes.pure id (Except.ok image) ⟨hc [] nofun, nofun⟩

end ImageStream

namespace Resolver

/-- The source of images that the platform follows asks the platform. -/
theorem imageStream_asks (api : HttpClient (StateM σ)) (projects : List String) {image : String}
    {name : ImageName} (hp : ImageName.parse image = .ok name) :
    Asks .cluster (Error.IsUnanswered image)
      ((imageStream (.ofCluster (api.noting .cluster)) projects).resolve image)
      ((imageStream (.ofCluster api) projects).resolve image) := by
  refine Asks.bindOk hp (Asks.ite (Asks.throw (.inr rfl)) ?_)
  exact ImageStream.search_asks (Cluster.find_asks api) image name none _

end Resolver

/-! ## The registry -/

namespace RegistryServer

variable (server : RegistryServer) (http : HttpClient (StateM σ))

theorem orUnavailable_isTransient {server : RegistryServer} {r : Except HttpFailure α} {e : Error}
    (h : server.orUnavailable r = .error e) : e.IsTransient := by
  obtain ⟨failure, rfl⟩ := eq_of_mapError_eq_error h
  exact ⟨_, rfl⟩

theorem ask_asks (r : HttpRequest) :
    Asks .registry Error.IsTransient (server.ask (http.noting .registry) r) (server.ask http r) :=
  Asks.bindGet fun _ => Asks.ofExcept fun _ => orUnavailable_isTransient

theorem fetchToken_asks (c : BearerChallenge) :
    Asks .registry Error.IsTransient (server.fetchToken (http.noting .registry) c)
      (server.fetchToken http c) := by
  rw [fetchToken, fetchToken]
  cases tokenUrl c with
  | error e => exact Asks.throw ⟨_, rfl⟩
  | ok url =>
    refine Asks.bind (ask_asks server http _) fun response => ?_
    exact Asks.ite (Asks.pure none) (Asks.ofExcept fun _ => orUnavailable_isTransient)

theorem send_asks (token : Option String) (url : String) (accept : Option String) :
    Asks .registry Error.IsTransient (server.send (http.noting .registry) token url accept)
      (server.send http token url accept) := by
  refine Asks.bind (ask_asks server http _) fun response => ?_
  cases token with
  | some token => exact Asks.pure _
  | none =>
    cases challenge? response with
    | none => exact Asks.pure _
    | some challenge =>
      refine Asks.bind (fetchToken_asks server http challenge) fun fresh? => ?_
      cases fresh? with
      | none => exact Asks.pure _
      | some fresh => exact Asks.bind (ask_asks server http _) fun _ => Asks.pure _

theorem readManifest_isTransient {server : RegistryServer} {r : HttpResponse} {e : Error}
    (h : server.readManifest r = .error e) : e.IsTransient := by
  rw [readManifest] at h
  split at h
  · exact orUnavailable_isTransient h
  · split at h
    · cases h
    · cases h
      exact ⟨_, rfl⟩

theorem fetchManifest_asks (token : Option String) (repository reference : String) :
    Asks .registry Error.IsTransient
      (server.fetchManifest (http.noting .registry) token repository reference)
      (server.fetchManifest http token repository reference) :=
  Asks.bind (send_asks server http _ _ _) fun _ =>
    Asks.bindExcept (fun _ => readManifest_isTransient) fun _ => Asks.pure _

theorem fetchSettings_asks (token : Option String) (repository : String) (digest : Option String)
    (manifest : Manifest) :
    Asks .registry Error.IsTransient
      (server.fetchSettings (http.noting .registry) token repository digest manifest)
      (server.fetchSettings http token repository digest manifest) := by
  rw [fetchSettings, fetchSettings]
  cases manifest.config with
  | none => exact Asks.pure _
  | some config =>
    refine Asks.bind (send_asks server http _ _ _) fun _ => ?_
    exact Asks.bindExcept (fun _ => orUnavailable_isTransient) fun _ => Asks.pure _

theorem fetchImage_asks (repository reference : String) :
    Asks .registry Error.IsTransient
      (server.fetchImage (http.noting .registry) repository reference)
      (server.fetchImage http repository reference) := by
  refine Asks.bind (fetchManifest_asks server http _ _ _) fun ⟨found?, token⟩ => ?_
  cases found? with
  | none => exact Asks.pure none
  | some found =>
    obtain ⟨digest, manifest⟩ := found
    cases he : manifest.entries with
    | none =>
      simp only [he]
      exact Asks.bind (fetchSettings_asks server http _ _ _ _) fun _ => Asks.pure _
    | some entries =>
      cases hc : PlatformEntry.choose entries with
      | none =>
        simp only [he, hc]
        exact Asks.pure none
      | some chosen =>
        simp only [he, hc]
        refine Asks.bind (fetchManifest_asks server http _ _ _) fun ⟨found?, token⟩ => ?_
        cases found? with
        | none => exact Asks.pure none
        | some found =>
          exact Asks.bind (fetchSettings_asks server http _ _ _ _) fun _ => Asks.pure _

end RegistryServer

namespace Resolver

/-- The source of images in a registry asks the registry. -/
theorem registry_asks (server : RegistryServer) (network : HttpClient (StateM σ)) {image : String}
    {name : ImageName} (hp : ImageName.parse image = .ok name) :
    Asks .registry (Error.IsUnanswered image)
      ((registry (.overHttp (network.noting .registry) server)).resolve image)
      ((registry (.overHttp network server)).resolve image) := by
  have hf : ∀ repository reference,
      Asks .registry (Error.IsUnanswered image)
        (server.fetchImage (network.noting .registry) repository reference)
        (server.fetchImage network repository reference) :=
    fun _ _ => (RegistryServer.fetchImage_asks server network _ _).mono fun _ => .inl
  refine Asks.bindOk hp (Asks.ite (Asks.throw (.inr rfl)) ?_)
  refine Asks.bind (hf _ _) fun found? => ?_
  cases found? with
  | none => exact Asks.throw (.inr rfl)
  | some found => exact Asks.pure _

end Resolver

end DeployPlan
