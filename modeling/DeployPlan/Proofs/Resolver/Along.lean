import DeployPlan.Proofs.Along
import DeployPlan.Proofs.Resolver.Containment

/-!
# Where image sources take the state

The image sources do nothing but make requests: if each request takes the state along `r`, so does
each image source (`docker_along`, `imageStream_along`, `registry_along`), and so does the chain
that the settings ask for (`configured_along`).
-/

namespace DeployPlan

variable {σ : Type} {r : σ → σ → Prop}

/-- Each request takes the state along `r`. -/
def HttpClient.GoesAlong (r : σ → σ → Prop) (http : HttpClient (StateM σ)) : Prop :=
  ∀ request, StateAlong r (http.get request)

/-- Each request to one of the backends takes the state along `r`. -/
structure Backends.GoAlong (r : σ → σ → Prop) (b : Backends (StateM σ)) : Prop where
  daemon : ∀ http ∈ b.daemon, http.GoesAlong r
  cluster : ∀ http ∈ b.cluster, http.GoesAlong r
  network : b.network.GoesAlong r

theorem Backends.GoAlong.mono {r' : σ → σ → Prop} {b : Backends (StateM σ)} (h : b.GoAlong r)
    (hr : ∀ s s', r s s' → r' s s') : b.GoAlong r' where
  daemon http hd request := (h.daemon http hd request).mono hr
  cluster http hc request := (h.cluster http hc request).mono hr
  network request := (h.network request).mono hr

/-- Resolving an image takes the state along `r`, whatever its name. -/
def Resolver.GoesAlong (r : σ → σ → Prop) (resolver : Resolver (StateM σ)) : Prop :=
  ∀ image, Along r (resolver.resolve image)

variable [IsPreorder σ r]

/-! ## The daemon -/

namespace Resolver

theorem docker_along {daemon : HttpClient (StateM σ)} (h : daemon.GoesAlong r) :
    (docker daemon).GoesAlong r := by
  intro image
  refine Along.bindExcept fun name => ?_
  refine Along.bindState (h _) fun answer => ?_
  exact Along.bindExcept fun _ => Along.pure _

end Resolver

/-! ## The platform -/

namespace Cluster

variable {api : HttpClient (StateM σ)}

theorem fetch_along (h : api.GoesAlong r) (path name : String) : Along r (fetch api path name) := by
  refine Along.ite (Along.throw _) ?_
  refine Along.ite (Along.throw _) ?_
  exact Along.bindState (h _) fun _ => Along.ofExcept _

theorem find_along (h : api.GoesAlong r) (project : String) (name : ImageName) :
    Along r (find api project name) := by
  refine Along.bind (fetch_along h _ _) fun stream? => ?_
  cases stream? with
  | none => exact Along.pure none
  | some stream =>
    cases hl : latest? stream name.tagOrDefault with
    | none =>
      simp only [hl]
      exact Along.pure none
    | some event =>
      simp only [hl]
      cases event.image with
      | none => exact Along.pure _
      | some id => exact Along.bind (fetch_along h _ _) fun _ => Along.pure _

end Cluster

namespace ImageStream

theorem search_along {lookup : StreamLookup (StateM σ)}
    (h : ∀ project name, Along r (lookup.find project name)) (text : String) (name : ImageName)
    (unavailable : Option String) (projects : List String) :
    Along r (search lookup text name unavailable projects) := by
  induction projects generalizing unavailable with
  | nil =>
    cases unavailable with
    | none => exact Along.throw _
    | some message => exact Along.throw _
  | cons project rest ih =>
    refine StateAlong.bind (h project name) fun answer => ?_
    cases answer with
    | ok image? =>
      cases image? with
      | none => exact ih unavailable
      | some image => exact StateAlong.pure (Except.ok image)
    | error e =>
      cases e with
      | resolverTransient message => exact ih (some message)
      | _ => exact StateAlong.pure (Except.error _)

end ImageStream

namespace Resolver

theorem imageStream_along {api : HttpClient (StateM σ)} (h : api.GoesAlong r)
    (projects : List String) : (imageStream (.ofCluster api) projects).GoesAlong r := by
  intro image
  refine Along.bindExcept fun name => ?_
  refine Along.ite (Along.throw _) ?_
  exact ImageStream.search_along (Cluster.find_along h) image name none _

end Resolver

/-! ## The registry -/

namespace RegistryServer

variable (server : RegistryServer) {http : HttpClient (StateM σ)} (h : http.GoesAlong r)

include h

theorem ask_along (request : HttpRequest) : Along r (server.ask http request) :=
  Along.bindState (h request) fun _ => Along.ofExcept _

theorem fetchToken_along (c : BearerChallenge) : Along r (server.fetchToken http c) := by
  rw [fetchToken]
  cases tokenUrl c with
  | error e => exact Along.throw _
  | ok url =>
    refine Along.bind (ask_along server h _) fun response => ?_
    exact Along.ite (Along.pure none) (Along.ofExcept _)

theorem send_along (token : Option String) (url : String) (accept : Option String) :
    Along r (server.send http token url accept) := by
  refine Along.bind (ask_along server h _) fun response => ?_
  cases token with
  | some token => exact Along.pure _
  | none =>
    cases challenge? response with
    | none => exact Along.pure _
    | some challenge =>
      refine Along.bind (fetchToken_along server h challenge) fun fresh? => ?_
      cases fresh? with
      | none => exact Along.pure _
      | some fresh => exact Along.bind (ask_along server h _) fun _ => Along.pure _

theorem fetchManifest_along (token : Option String) (repository reference : String) :
    Along r (server.fetchManifest http token repository reference) :=
  Along.bind (send_along server h _ _ _) fun _ => Along.bindExcept fun _ => Along.pure _

theorem fetchSettings_along (token : Option String) (repository : String) (digest : Option String)
    (manifest : Manifest) :
    Along r (server.fetchSettings http token repository digest manifest) := by
  rw [fetchSettings]
  cases manifest.config with
  | none => exact Along.pure _
  | some config =>
    refine Along.bind (send_along server h _ _ _) fun _ => ?_
    exact Along.bindExcept fun _ => Along.pure _

theorem fetchImage_along (repository reference : String) :
    Along r (server.fetchImage http repository reference) := by
  refine Along.bind (fetchManifest_along server h _ _ _) fun ⟨found?, token⟩ => ?_
  cases found? with
  | none => exact Along.pure none
  | some found =>
    obtain ⟨digest, manifest⟩ := found
    cases he : manifest.entries with
    | none =>
      simp only [he]
      exact Along.bind (fetchSettings_along server h _ _ _ _) fun _ => Along.pure _
    | some entries =>
      cases hc : PlatformEntry.choose entries with
      | none =>
        simp only [he, hc]
        exact Along.pure none
      | some chosen =>
        simp only [he, hc]
        refine Along.bind (fetchManifest_along server h _ _ _) fun ⟨found?, token⟩ => ?_
        cases found? with
        | none => exact Along.pure none
        | some found => exact Along.bind (fetchSettings_along server h _ _ _ _) fun _ => Along.pure _

end RegistryServer

namespace Resolver

theorem registry_along (server : RegistryServer) {network : HttpClient (StateM σ)}
    (h : network.GoesAlong r) : (registry (.overHttp network server)).GoesAlong r := by
  intro image
  refine Along.bindExcept fun name => ?_
  refine Along.ite (Along.throw _) ?_
  refine Along.bind (server.fetchImage_along h _ _) fun found? => ?_
  cases found? with
  | none => exact Along.throw _
  | some found => exact Along.pure _

/-! ## One after the other -/

theorem firstAnswer_along {rs : List (Resolver (StateM σ))} (h : ∀ r' ∈ rs, r'.GoesAlong r)
    (image : String) : Along r (firstAnswer image rs) := by
  induction rs with
  | nil => exact Along.throw _
  | cons first rest ih =>
    refine StateAlong.bind (h first List.mem_cons_self image) fun answer => ?_
    cases answer with
    | ok i => exact StateAlong.pure (Except.ok i)
    | error e =>
      exact StateAlong.ite (ih fun r' hr => h r' (List.mem_cons_of_mem first hr))
        (StateAlong.pure (Except.error e))

theorem source?_along {b : Backends (StateM σ)} (h : b.GoAlong r) {c : Config} {k : Backend}
    {resolver : Resolver (StateM σ)} (hk : b.source? c k = some resolver) :
    resolver.GoesAlong r := by
  cases k with
  | daemon =>
    rw [Backends.source?] at hk
    split at hk
    · obtain ⟨daemon, hd, rfl⟩ := Option.map_eq_some_iff.mp hk
      exact docker_along (h.daemon daemon hd)
    · cases hk
  | cluster =>
    rw [Backends.source?] at hk
    split at hk
    · obtain ⟨api, ha, rfl⟩ := Option.map_eq_some_iff.mp hk
      exact imageStream_along (h.cluster api ha) _
    · cases hk
  | registry =>
    obtain ⟨address, -, hk⟩ := Option.bind_eq_some_iff.mp hk
    obtain ⟨server, -, rfl⟩ := Option.map_eq_some_iff.mp hk
    exact registry_along server h.network

/-- The chain that the settings ask for takes the state along `r` if all requests do. -/
theorem configured_along {b : Backends (StateM σ)} (h : b.GoAlong r) (c : Config) :
    (chain (configured b c)).GoesAlong r := by
  intro image
  refine Along.bindExcept fun _ => ?_
  rw [map_resolver_configured]
  refine firstAnswer_along (fun resolver hr => ?_) image
  obtain ⟨k, -, hk⟩ := List.mem_filterMap.mp hr
  exact source?_along h hk

end Resolver

end DeployPlan
