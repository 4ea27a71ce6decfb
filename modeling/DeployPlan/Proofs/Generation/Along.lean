import DeployPlan.Generation
import DeployPlan.Proofs.Resolver.Along
import DeployPlan.Proofs.Source.Directory

/-!
# Where a generation takes the state

A generation looks at files, asks for checkouts and images, and fetches the source if that lies in a
remote repository and there is no checkout of it (`findSource_local`). If all that takes the state
along `r`, so does the generation (`generate_along`).
-/

namespace DeployPlan

variable {σ : Type} {r : σ → σ → Prop}

/-- Looking at files takes the state along `r`. -/
structure Files.LooksAlong (r : σ → σ → Prop) (files : Files (StateM σ)) : Prop where
  canonicalize : ∀ path, StateAlong r (files.canonicalize path)
  isDirectory : ∀ path, StateAlong r (files.isDirectory path)
  exists? : ∀ path, StateAlong r (files.exists? path)
  openDirectory : ∀ path, StateAlong r (files.openDirectory path)
  read : ∀ path, StateAlong r (files.read path)

/-- Looking at a snapshot and giving it back takes the state along `r`. -/
structure Snapshot.GoesAlong (r : σ → σ → Prop) (snapshot : Snapshot (StateM σ)) : Prop where
  exists? : ∀ path, StateAlong r (snapshot.exists? path)
  read : ∀ path, Along r (snapshot.read path)
  release : StateAlong r snapshot.release

/-- A snapshot that is released in another way. -/
theorem Snapshot.GoesAlong.withRelease {r : σ → σ → Prop}
    {snapshot : Snapshot (StateM σ)} (h : snapshot.GoesAlong r) {release : StateM σ Unit}
    (hrelease : StateAlong r release) :
    ({ snapshot with release := release } : Snapshot (StateM σ)).GoesAlong r where
  exists? := h.exists?
  read := h.read
  release := hrelease

/-- Fetching a source takes the state along `r`, and so does the snapshot that is fetched. -/
structure Fetcher.FetchesAlong (r : σ → σ → Prop) (fetcher : Fetcher (StateM σ)) (source : Source) :
    Prop where
  fetch : Along r (fetcher.fetch source)
  snapshot : Yields (fetcher.fetch source) (Snapshot.GoesAlong r)

/-- The source that a request names by an address. -/
def Request.remoteSource? (request : Request) : Option Source :=
  match request.location with
  | .url address =>
    ((Source.ofAddress address).bind (·.override request.name request.ref)).toOption
  | .directory _ => none

/-- All that a request has the collaborators do takes the state along `r`. -/
structure Collaborators.GoAlong (r : σ → σ → Prop) (c : Collaborators (StateM σ))
    (request : Request) : Prop where
  files : c.files.LooksAlong r
  inspector : ∀ dir, Along r (c.inspector.inspect dir)
  fetcher : ∀ source ∈ request.remoteSource?, c.fetcher.FetchesAlong r source
  resolver : c.resolver.GoesAlong r

variable [IsPreorder σ r]

/-! ## The source -/

namespace Source

theorem buildRoot?_override {source source' : Source} {name ref : Option String}
    (h : source.override name ref = .ok source') : source'.buildRoot? = source.buildRoot? := by
  cases name with
  | none =>
    simp only [override, bind, Except.bind, pure, Except.pure] at h
    split at h <;> cases h <;> rfl
  | some name =>
    simp only [override, bind, Except.bind, pure, Except.pure] at h
    cases hv : DnsName.validate "name" name with
    | error e =>
      rw [hv] at h
      cases h
    | ok =>
      simp only [hv] at h
      split at h <;> cases h <;> rfl

theorem buildRoot?_ofDirectory (files : Files (StateM σ)) (inspector : Inspector (StateM σ))
    (path : String) :
    Yields (ofDirectory files inspector path) fun source => source.buildRoot?.isSome = true := by
  refine (Yields.trivial _).bind fun dir _ => ?_
  refine (Yields.trivial _).bind fun checkout? _ => ?_
  cases checkout? with
  | none =>
    refine .ofExcept fun source h => ?_
    rw [(localRoot?_plain h).1]
    rfl
  | some checkout =>
    refine (Yields.trivial _).bind fun root _ => ?_
    refine .ofExcept fun source h => ?_
    rw [buildRoot?, (localRoot?_ofCheckout h).1]
    rfl

variable {files : Files (StateM σ)} {inspector : Inspector (StateM σ)}

theorem openDirectory_along (hf : files.LooksAlong r) (path : String) :
    Along r (openDirectory files path) := by
  refine Along.bindState (hf.canonicalize path) fun _ => Along.bindExcept fun dir => ?_
  refine Along.bindState (hf.isDirectory dir) fun _ => Along.bindExcept fun isDirectory => ?_
  cases isDirectory with
  | false => exact Along.throw _
  | true =>
    refine Along.bindState (hf.openDirectory dir) fun _ => Along.bindExcept fun _ => ?_
    exact Along.pure dir

theorem ofDirectory_along (hf : files.LooksAlong r) (hi : ∀ dir, Along r (inspector.inspect dir))
    (path : String) : Along r (ofDirectory files inspector path) := by
  refine Along.bind (openDirectory_along hf path) fun dir => ?_
  refine Along.bind (hi dir) fun checkout? => ?_
  cases checkout? with
  | none => exact Along.ofExcept _
  | some checkout =>
    exact Along.bindState (hf.canonicalize checkout.root) fun _ => Along.ofExcept _

end Source

/-- A source has a local directory, or it is the one that the request names by its address. -/
theorem findSource_local (c : Collaborators (StateM σ)) (request : Request) :
    Yields (findSource c request) fun source =>
      source.buildRoot?.isSome = true ∨ request.remoteSource? = some source := by
  rw [findSource]
  cases hl : request.location with
  | url address =>
    refine Yields.bind (P := fun source => Source.ofAddress address = .ok source)
      (.ofExcept fun _ h => h) fun source hs => .ofExcept fun source' h => .inr ?_
    rw [Request.remoteSource?, hl]
    simp only [hs, Except.bind, h]
    rfl
  | directory path =>
    refine (Source.buildRoot?_ofDirectory c.files c.inspector path).bind fun source hs =>
      .ofExcept fun source' h => .inl ?_
    rw [Source.buildRoot?_override h, hs]

theorem findSource_along {c : Collaborators (StateM σ)} {request : Request}
    (h : c.GoAlong r request) : Along r (findSource c request) := by
  rw [findSource]
  cases request.location with
  | url address => exact Along.bindExcept fun _ => Along.ofExcept _
  | directory path =>
    exact Along.bind (Source.ofDirectory_along h.files h.inspector path) fun _ => Along.ofExcept _

/-! ## What a source needs -/

section

variable {files : Files (StateM σ)} (hf : files.LooksAlong r)

include hf

theorem Snapshot.readFile_along (path : String) : Along r (Snapshot.readFile files path) := by
  refine Along.bindState (hf.read path) fun answer => ?_
  cases answer with
  | ok text => exact Along.pure _
  | error e =>
    cases e with
    | notFound => exact Along.pure none
    | _ => exact Along.throw _

theorem Snapshot.ofDirectory_along (root : String) :
    (Snapshot.ofDirectory files root).GoesAlong r where
  exists? path := by
    refine StateAlong.bind (hf.exists? _) fun answer => ?_
    cases answer with
    | ok there => exact StateAlong.pure there
    | error e => exact StateAlong.pure false
  read path := Snapshot.readFile_along hf _
  release := StateAlong.pure ()

end

section

variable {snapshot : Snapshot (StateM σ)} (hs : snapshot.GoesAlong r)

include hs

theorem anyExists_along (markers : List String) :
    StateAlong r (Detector.anyExists snapshot markers) := by
  induction markers with
  | nil => exact StateAlong.pure false
  | cons marker rest ih =>
    refine StateAlong.bind (hs.exists? marker) fun there => ?_
    exact StateAlong.ite (StateAlong.pure true) ih

theorem firstMatch_along (ds : List Detector) :
    StateAlong r (Detector.firstMatch snapshot ds) := by
  induction ds with
  | nil => exact StateAlong.pure none
  | cons d ds ih =>
    refine StateAlong.bind (anyExists_along hs d.markers) fun matches? => ?_
    exact StateAlong.ite (StateAlong.pure (some d)) ih

theorem detect_along (ds : List Detector) : Along r (detect ds snapshot) := by
  refine Along.bind (hs.read buildFileName) fun content? => ?_
  cases content? with
  | some content => exact Along.bindExcept fun _ => Along.pure _
  | none => exact Along.bindState (firstMatch_along hs ds) fun _ => Along.pure _

end

/-! ## The strategy -/

namespace Strategy

variable {files : Files (StateM σ)} {resolver : Resolver (StateM σ)} {fetcher : Fetcher (StateM σ)}

theorem ofContext_along (hf : files.LooksAlong r) (source : Source) (dir : String) :
    Along r (ofContext files source dir) := by
  refine Along.bindExcept fun _ => ?_
  cases source.buildRoot? with
  | none => exact Along.pure _
  | some root =>
    refine Along.bind (Snapshot.readFile_along hf _) fun content? => ?_
    cases content? with
    | none => exact Along.pure _
    | some content => exact Along.bindExcept fun _ => Along.pure _

theorem ofBuilder_along (hr : resolver.GoesAlong r) (name : String) :
    Along r (ofBuilder resolver name) :=
  Along.bind (hr name) fun _ => Along.pure _

theorem ofSnapshot_along (hr : resolver.GoesAlong r) (ds : List Detector) (source : Source)
    {snapshot : Snapshot (StateM σ)} (hs : snapshot.GoesAlong r) :
    Along r (ofSnapshot resolver ds source snapshot) := by
  refine Along.bind (detect_along hs ds) fun detection? => ?_
  cases detection? with
  | none => exact Along.throw _
  | some detection =>
    cases detection with
    | buildFile file => exact Along.pure _
    | builderImage language name => exact Along.bind (hr name) fun _ => Along.pure _

/-- A source with a local directory is not fetched. -/
theorem ofSource_along (hf : files.LooksAlong r) (hr : resolver.GoesAlong r) (ds : List Detector)
    {source : Source}
    (hs : source.buildRoot?.isSome = true ∨ fetcher.FetchesAlong r source) :
    Along r (ofSource files resolver fetcher ds source) := by
  have hsnapshot : Along r (snapshotOf files fetcher source) ∧
      Yields (snapshotOf files fetcher source) (Snapshot.GoesAlong r) := by
    rw [snapshotOf]
    cases hb : source.buildRoot? with
    | some root => exact ⟨Along.pure _, Yields.pure (Snapshot.ofDirectory_along hf root)⟩
    | none =>
      rcases hs with hs | hs
      · rw [hb] at hs
        cases hs
      · exact ⟨hs.fetch, hs.snapshot⟩
  refine Along.bindYields hsnapshot.1 hsnapshot.2 fun snapshot hgo => ?_
  refine StateAlong.bind (ofSnapshot_along hr ds source hgo) fun result => ?_
  exact StateAlong.bind hgo.release fun _ => StateAlong.pure result

theorem select_along (hf : files.LooksAlong r) (hr : resolver.GoesAlong r) (ds : List Detector)
    {source : Source} (hs : source.buildRoot?.isSome = true ∨ fetcher.FetchesAlong r source)
    (choice : Option StrategyOverride) (options : StrategyOptions) :
    Along r (select files resolver fetcher ds source choice options) := by
  cases choice with
  | none => exact Along.bind (ofSource_along hf hr ds hs) fun _ => Along.pure _
  | some choice =>
    cases choice with
    | context dir => exact Along.bind (ofContext_along hf source dir) fun _ => Along.pure _
    | builderImage name => exact Along.bind (ofBuilder_along hr name) fun _ => Along.pure _

end Strategy

/-- A generation takes the state along `r` if all does that it has others do. -/
theorem generate_along {c : Collaborators (StateM σ)} {request : Request}
    (h : c.GoAlong r request) : Along r (generate c request) := by
  refine Along.ite (Along.throw _) ?_
  refine Along.bindYields (findSource_along h) (findSource_local c request) fun source hs => ?_
  have hs : source.buildRoot?.isSome = true ∨ c.fetcher.FetchesAlong r source :=
    hs.imp_right (h.fetcher source)
  refine Along.bind (Strategy.select_along h.files h.resolver c.detectors hs _ _) fun strategy => ?_
  exact Along.ofExcept _

end DeployPlan
