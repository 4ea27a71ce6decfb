import DeployPlan.Proofs.FileTree.Changes
import DeployPlan.Proofs.Generation.Context
import DeployPlan.Proofs.Source.Directory

/-!
# The source's own directory as a context

A source with a build file needs no word of the caller: `generate_here` says that a run finds out by
itself what it would be told by the context directory `.`, with the same objects and the same
errors, and that nothing is fetched and no image resolved either way.

The two runs read the build file by different paths (`runFrom_ofSource`, `runFrom_ofContext`) and
choose strategies that differ in their context directory, which leads nowhere (`plan_here`).
-/

namespace DeployPlan

variable {σ : Type}

/-! ## Plans -/

namespace Pipeline

theorem joinContext_here (outer : Option String) :
    joinContext outer (some ".") = joinContext outer none := by
  have hparts : contextParts (outer.toList ++ ["."]) = contextParts (outer.toList ++ []) := by
    rw [contextParts, contextParts, List.map_append, List.filter_append, List.append_nil]
    exact List.append_nil _
  rw [joinContext_eq, joinContext_eq, Option.toList_some, Option.toList_none, hparts]

/-- The source's own directory makes no difference to what a plan consists of. -/
theorem parts_here (source : Source) {strategy : Strategy} (hd : strategy.contextDir = none)
    (env : StringMap String) :
    (ofStrategy source { strategy with contextDir := some "." } env).parts =
      (ofStrategy source strategy env).parts := by
  have hsource : (ofStrategy source { strategy with contextDir := some "." } env).buildSource =
      (ofStrategy source strategy env).buildSource := by
    simp only [buildSource, ofStrategy, hd, joinContext_here]
    rfl
  have hbuild : (ofStrategy source { strategy with contextDir := some "." } env).buildConfig =
      (ofStrategy source strategy env).buildConfig := by
    rw [buildConfig, buildConfig, hsource]
    rfl
  rw [parts, parts, hbuild]
  rfl

/-- A plan with a build file is the same with the source's own directory and with none. -/
theorem plan_here (source : Source) (strategy : Strategy) (hk : strategy.kind = .buildFile)
    (hd : strategy.contextDir = none) (env : StringMap String) :
    plan source { strategy with contextDir := some "." } env = plan source strategy env := by
  have hblank : isBlankText "." = false := by decide
  have hnone : strategy.contextDir.any isBlankText = false := by rw [hd]; rfl
  have hhere := plan_of_buildFile source { strategy with contextDir := some "." } hk hblank env
  rw [hhere, plan_of_buildFile source strategy hk hnone, parts_here source hd]

end Pipeline

/-! ## Strategies -/

def BuildFile.ofRead (answer : Except FileError String) : Except Error BuildFile :=
  (answer.mapError .io).bind BuildFile.parse

/-- The strategy for a build file that is read, with the options of the caller. -/
def Strategy.ofRead (contextDir : Option String) (options : StrategyOptions)
    (answer : Except FileError String) : Except Error Strategy :=
  ((BuildFile.ofRead answer).map (ofBuildFile contextDir)).map ({ · with options })

section

variable {files : Files (StateM σ)} {source : Source} {root path : String} {s t : σ}
  {answer : Except FileError String}

/-- Reading a file that is there, or cannot be read. -/
theorem Snapshot.runFrom_readFile (hread : (files.read path).run s = (answer, t))
    (hthere : answer ≠ .error .notFound) :
    runFrom (readFile files path) s = ((answer.mapError .io).map some, t) := by
  rw [readFile, runFrom_bindState hread]
  cases answer with
  | ok text => rfl
  | error e =>
    cases e with
    | notFound => exact absurd rfl hthere
    | _ => rfl

namespace Strategy

/-- A source that is looked at where it is has the strategy of its build file. -/
theorem runFrom_ofSource (resolver : Resolver (StateM σ)) (fetcher : Fetcher (StateM σ))
    (ds : List Detector) (hr : source.buildRoot? = some root)
    (hread : (files.read (Path.join root buildFileName)).run s = (answer, t))
    (hthere : answer ≠ .error .notFound) :
    runFrom (ofSource files resolver fetcher ds source) s =
      ((BuildFile.ofRead answer).map (ofBuildFile none), t) := by
  have hfile := Snapshot.runFrom_readFile hread hthere
  have hdetect : runFrom (detect ds (.ofDirectory files root)) s =
      ((BuildFile.ofRead answer).map fun file => some (.buildFile file), t) := by
    rw [detect]
    cases answer with
    | error e => exact runFrom_bind_of_error hfile
    | ok text =>
      exact (runFrom_bind_of_eq hfile).trans (runFrom_map (runFrom_liftM _ _) _)
  have hsnapshot : runFrom (ofSnapshot resolver ds source (.ofDirectory files root)) s =
      ((BuildFile.ofRead answer).map (ofBuildFile none), t) := by
    rw [ofSnapshot, runFrom_bind, hdetect]
    cases BuildFile.ofRead answer <;> rfl
  rw [ofSource, snapshotOf, hr]
  show ((ofSnapshot resolver ds source (.ofDirectory files root)).run >>= fun result =>
    pure result).run s = _
  rw [bind_pure]
  exact hsnapshot

/-- A source that is told to use its own directory has it as well, by a path with a dot. -/
theorem runFrom_ofContext (hr : source.buildRoot? = some root)
    (hread : (files.read (Path.join (Path.join root ".") buildFileName)).run s = (answer, t))
    (hthere : answer ≠ .error .notFound) :
    runFrom (ofContext files source ".") s =
      ((BuildFile.ofRead answer).map (ofBuildFile (some ".")), t) := by
  have hfile := Snapshot.runFrom_readFile hread hthere
  have hv : validateContext "." = .ok () := rfl
  rw [ofContext, runFrom_bindExcept hv, hr]
  cases answer with
  | error e => exact runFrom_bind_of_error hfile
  | ok text => exact (runFrom_bind_of_eq hfile).trans (runFrom_map (runFrom_liftM _ _) _)

end Strategy

end

/-! ## Runs -/

section

variable {c : Collaborators (StateM σ)} {r : Request} {source : Source} {s t u : σ}
  {chosen : Except Error Strategy}

def Request.selectFor {m : Type → Type} [Monad m] (r : Request) (c : Collaborators m)
    (source : Source) : ExceptT Error m Strategy :=
  Strategy.select c.files c.resolver c.fetcher c.detectors source r.strategy r.options

/-- A run goes on with what is selected for its source. -/
theorem runFrom_generate (hf : runFrom (findSource c r) s = (.ok source, t))
    (hp : r.port ≠ some 0) (hc : runFrom (r.selectFor c source) t = (chosen, u)) :
    runFrom (generate c r) s =
      (chosen.bind fun strategy => plan source { strategy with portOverride := r.port } r.env,
        u) := by
  rw [generate_eq, if_neg hp, settle]
  simp only [bind_assoc, pure_bind]
  rw [Request.selectFor] at hc
  rw [runFrom_bind_of_eq hf, runFrom_bind, hc]
  cases chosen with
  | error e => rfl
  | ok strategy => exact runFrom_liftM _ _

/-- In the run nothing is fetched and no image is resolved. -/
def NeedsNoHelp (c : Collaborators (StateM σ)) (r : Request) (s : σ) : Prop :=
  Records (generate c.noted r) (generate c r) s fun calls _ _ =>
    ∀ call ∈ calls, call.kind ≠ .fetch ∧ call.kind ≠ .resolve

/-- A run that reads a file for its strategy, and does nothing else for it, needs no help. -/
theorem needsNoHelp {path : String} {answer : Except FileError String}
    (hf : runFrom (findSource c r) s = (.ok source, t))
    (hc : runFrom (r.selectFor c source) t = (chosen, u))
    (hn : ∀ log, runFrom (r.selectFor c.noted source) (t, log) =
      (chosen, u, log ++ [Call.ofRead path answer])) : NeedsNoHelp c r s := by
  have hselect : Records (r.selectFor c.noted source) (r.selectFor c source) t
      fun calls _ _ => calls = [Call.ofRead path answer] := by
    refine ⟨_, fun log => ?_, rfl⟩
    rw [show (r.selectFor c source).run.run t = _ from hc]
    exact hn log
  have hsearch {searching : List Call} {found : Except Error Source}
      (search : Search r.location searching found) :
      ∀ call ∈ searching, call.kind ≠ .fetch ∧ call.kind ≠ .resolve := by
    intro call hm
    rcases search.kind_eq call hm with h | h <;> simp [h]
  have hlooked {searching : List Call} {found : Except Error Source}
      (search : Search r.location searching found) :
      ∀ call ∈ searching ++ [Call.ofRead path answer],
        call.kind ≠ .fetch ∧ call.kind ≠ .resolve := by
    refine List.forall_mem_append.mpr ⟨hsearch search, fun call hm => ?_⟩
    rw [List.mem_singleton.mp hm, Call.kind_ofRead]
    decide
  rw [NeedsNoHelp, generate_eq, generate_eq]
  by_cases hp : r.port = some 0
  · rw [if_pos hp, if_pos hp]
    exact Records.throw _ (by simp)
  · rw [if_neg hp, if_neg hp, settle, settle]
    simp only [bind_assoc, pure_bind]
    refine Records.bind (findSource_records c r s).with_run ?_ ?_
    · rintro searching source' t' ⟨search, hrun⟩
      cases hf.symm.trans hrun
      refine Records.bind hselect ?_ ?_
      · rintro _ strategy u' rfl
        refine Notes.pure id (plan _ _ _) ?_
        rw [List.append_nil]
        exact hlooked search
      · rintro _ e u' rfl
        exact hlooked search
    · rintro searching e t' ⟨search, -⟩
      exact hsearch search

end

/-- If the build file of a local source is there, whether or not it can be read and says anything
that makes sense, a run without a word of the caller goes as one that is told to use the source's
own directory: it ends with the same objects or the same error in the same state, and neither run
fetches anything or resolves an image. Of the files it matters that the path with a dot leads to the
same file (`hdot`). In a tree it does as long as that path, which is longer by the dot, is within the
length that the system allows (`FileTree.read_join_dot`). -/
theorem generate_here {c : Collaborators (StateM σ)} {r : Request} {source : Source}
    {root : String} {s t : σ} (hs : r.strategy = none)
    (hf : runFrom (findSource c r) s = (.ok source, t)) (hr : source.buildRoot? = some root)
    (hthere : ((c.files.read (Path.join root buildFileName)).run t).1 ≠ .error .notFound)
    (hdot : (c.files.read (Path.join (Path.join root ".") buildFileName)).run t =
      (c.files.read (Path.join root buildFileName)).run t) :
    runFrom (generate c { r with strategy := some (.context ".") }) s =
        runFrom (generate c r) s ∧
      NeedsNoHelp c r s ∧ NeedsNoHelp c { r with strategy := some (.context ".") } s := by
  obtain ⟨answer, u, hread⟩ :
      ∃ answer u, (c.files.read (Path.join root buildFileName)).run t = (answer, u) := ⟨_, _, rfl⟩
  rw [hread] at hthere hdot
  have hnone {m} (c' : Collaborators (StateM m)) {t' u' : m}
      (hread : (c'.files.read (Path.join root buildFileName)).run t' = (answer, u')) :
      runFrom (r.selectFor c' source) t' = (Strategy.ofRead none r.options answer, u') := by
    rw [Request.selectFor, hs]
    exact runFrom_map (Strategy.runFrom_ofSource _ _ _ hr hread hthere) _
  have hhere {m} (c' : Collaborators (StateM m)) {t' u' : m}
      (hdot : (c'.files.read (Path.join (Path.join root ".") buildFileName)).run t' =
        (answer, u')) :
      runFrom (Request.selectFor { r with strategy := some (.context ".") } c' source) t' =
        (Strategy.ofRead (some ".") r.options answer, u') :=
    runFrom_map (Strategy.runFrom_ofContext hr hdot hthere) _
  have hplan : ((Strategy.ofRead (some ".") r.options answer).bind fun strategy =>
        plan source { strategy with portOverride := r.port } r.env) =
      (Strategy.ofRead none r.options answer).bind fun strategy =>
        plan source { strategy with portOverride := r.port } r.env := by
    rw [Strategy.ofRead, Strategy.ofRead]
    cases BuildFile.ofRead answer with
    | error e => rfl
    | ok file =>
      exact Pipeline.plan_here source
        { Strategy.ofBuildFile none file with options := r.options, portOverride := r.port }
        rfl rfl r.env
  refine ⟨?_, ?_, ?_⟩
  · by_cases hp : r.port = some 0
    · rw [generate_eq, generate_eq, if_pos hp, if_pos hp]
    · rw [runFrom_generate hf hp (hnone c hread), ← hplan]
      exact runFrom_generate hf hp (hhere c hdot)
  · exact needsNoHelp hf (hnone c hread) fun log => hnone c.noted (Files.run_read_noted hread log)
  · exact needsNoHelp hf (hhere c hdot) fun log => hhere c.noted (Files.run_read_noted hdot log)

/-- A tree with an application and its build file. -/
def appTree : FileTree :=
  ⟨[(["app"], .directory), (["app", "Dockerfile"], .file "FROM ruby:2.7".toUTF8)]⟩

/-- Collaborators who see a tree, and nothing else. -/
def treeOnly : Collaborators (StateM FileTree) where
  files := FileTree.files []
  inspector := ⟨fun _ => pure none⟩
  fetcher := ⟨fun source => throw (.noStrategyMatch source.toString)⟩
  resolver := { name := "none", resolve := fun image => throw (.noStrategyMatch image) }
  detectors := Detector.standard

/-- The request to build the application. -/
def appRequest : Request :=
  { location := .directory "/app" }

def appSource : Source :=
  { name := "app", location := .directory "/app", localDir := some "/app" }

theorem reachable_app : FileTree.Reachable appTree ["app"] :=
  (FileTree.Reachable.root _).child (by decide) rfl (by decide) (by decide) (by decide)

theorem findSource_app :
    runFrom (findSource treeOnly appRequest) appTree = (.ok appSource, appTree) := by
  have hplain : Source.plain "/app" = .ok appSource := eq_ok_of_toOption (by decide +kernel)
  have hopened : runFrom (Source.openDirectory (FileTree.files []) "/app") appTree =
      (.ok "/app", appTree) := by
    rw [show "/app" = FileTree.pathOf ["app"] by decide +kernel]
    exact Source.runFrom_openDirectory reachable_app
  have hdirectory : runFrom (Source.ofDirectory (FileTree.files []) treeOnly.inspector "/app")
      appTree = (.ok appSource, appTree) := by
    rw [Source.ofDirectory, runFrom_bind_of_eq hopened]
    show runFrom (liftM (Source.plain "/app")) appTree = _
    rw [hplain]
    rfl
  rw [findSource]
  exact runFrom_bind_of_eq hdirectory

/-- The application is built alike, told so or not. -/
theorem generate_here_app :
    runFrom (findSource treeOnly appRequest) appTree = (.ok appSource, appTree) ∧
      appSource.buildRoot? = some "/app" ∧
      (treeOnly.files.read "/app/Dockerfile").run appTree = (.ok "FROM ruby:2.7", appTree) ∧
      runFrom (generate treeOnly { appRequest with strategy := some (.context ".") }) appTree =
        runFrom (generate treeOnly appRequest) appTree ∧
      NeedsNoHelp treeOnly appRequest appTree ∧
      NeedsNoHelp treeOnly { appRequest with strategy := some (.context ".") } appTree := by
  have hroot : appSource.buildRoot? = some "/app" := rfl
  have hpath : Path.join "/app" buildFileName = "/app/Dockerfile" := by decide
  have hentry : appTree.entryAt [] "/app/Dockerfile" = .ok (.file "FROM ruby:2.7".toUTF8) := by
    rw [show "/app/Dockerfile" = FileTree.pathOf (["app"] ++ ["Dockerfile"]) by decide +kernel]
    exact reachable_app.entryAt_file [] "Dockerfile" rfl (by decide) (by decide) (by decide)
      (by decide)
  have hread : (treeOnly.files.read "/app/Dockerfile").run appTree =
      (.ok "FROM ruby:2.7", appTree) :=
    congrArg (·, appTree) (FileTree.read_of_entryAt hentry)
  have hdot : appTree.read [] (Path.join (Path.join "/app" ".") buildFileName) =
      appTree.read [] (Path.join "/app" buildFileName) :=
    FileTree.read_join_dot appTree [] isSegment_buildFileName (by decide)
  refine ⟨findSource_app, hroot, hread,
    generate_here rfl findSource_app hroot ?_ (congrArg (·, appTree) hdot)⟩
  rw [hpath, hread]
  exact nofun

end DeployPlan
