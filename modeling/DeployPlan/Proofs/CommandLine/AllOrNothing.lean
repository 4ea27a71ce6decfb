import DeployPlan.CommandLine.Run
import DeployPlan.Proofs.Source.Clone

/-!
# All or nothing

A run of `generate` reads its settings first (`settingsFor`, `run_objectsFor`): settings that cannot
be used end it before anybody is asked. Then it generates the objects, which spares all places but
those of the clone (`generation_spares`), and only then it writes them, to one place. So a run that
fails writes nothing (`generate_all_or_nothing`), unless the file for the objects lies inside of the
clone, which is removed (`output_in_clone_removed`).
-/

namespace DeployPlan.CommandLine

variable {σ : Type}

/-! ## The settings -/

/-- What `generate` settles before it asks anybody. -/
structure Settings where
  config : Config
  env : StringMap String
  detectors : List Detector

/-- The configuration in a file, which may be missing. -/
def configAt (t : FileTree) (here : Place) (path : String) : Except ConfigError Config :=
  match t.read here path with
  | .ok text => Config.parse text
  | .error .notFound => .ok {}
  | .error e => .error (.io e)

/-- The settings that files and options make. -/
def settingsFor (t : FileTree) (here : Place) (o : GenerateOptions) : Except Failure Settings := do
  let config ← orConfigFailure ("Failed to load config: " ++ o.config) (configAt t here o.config)
  let config ← orConfigFailure "Invalid namespace" (config.withProject o.project)
  let env ← orConfigFailure "Invalid environment" (Environment.parse o.env)
  let detectors ← orFailure "Invalid builder configuration" (detectorsOf config)
  return { config, env, detectors }

/-- Whom a generation with these settings asks. -/
def Settings.collaborators {m : Type → Type} [Monad m] (s : Settings) (around : Surroundings m) :
    Collaborators m where
  files := around.files
  inspector := .ofGit around.git
  fetcher := .ofGit around.files around.git around.workDir
  resolver := .chain (Resolver.configured around.backends s.config)
  detectors := s.detectors

/-- What is around a run on the files of a tree, in the directory `here`. -/
def surroundings (here : Place) (git : Git (StateM (FileTree × σ)))
    (backends : Backends (StateM (FileTree × σ))) (workDir : String) :
    Surroundings (StateM (FileTree × σ)) where
  files := filesAt here
  git := git
  backends := backends
  workDir := workDir

/-- The objects that settings and options make, from where a run starts. -/
def generation (around : Surroundings (StateM (FileTree × σ))) (o : GenerateOptions) (s : Settings)
    (w : FileTree × σ) : Except Error (List Object) × (FileTree × σ) :=
  runFrom (DeployPlan.generate (s.collaborators around) (o.request s.env)) w

/-- Failures that are there without asking anybody end a run where it is. -/
theorem run_bindExcept {α β : Type} (r : Except Failure α)
    (f : α → ExceptT Failure (StateM (FileTree × σ)) β) (w : FileTree × σ) :
    (liftM r >>= f : ExceptT Failure (StateM (FileTree × σ)) β).run.run w =
      match r with
      | .error failure => (.error failure, w)
      | .ok a => (f a).run.run w := by
  cases r with
  | error failure => rfl
  | ok a => rfl

theorem run_bindState {α β : Type} {x : StateM (FileTree × σ) α} {a : α} {w w' : FileTree × σ}
    (f : α → ExceptT Failure (StateM (FileTree × σ)) β) (h : x.run w = (a, w')) :
    (liftM x >>= f : ExceptT Failure (StateM (FileTree × σ)) β).run.run w = (f a).run.run w' := by
  show (f (x.run w).1).run.run (x.run w).2 = _
  rw [h]

section

variable (here : Place) (git : Git (StateM (FileTree × σ)))
  (backends : Backends (StateM (FileTree × σ))) (workDir : String) (o : GenerateOptions)

theorem run_load (path : String) (w : FileTree × σ) :
    (Config.load (filesAt here) path : StateM (FileTree × σ) _).run w =
      (configAt w.1 here path, w) := by
  rw [Config.load, StateT.run_bind, run_read, configAt]
  cases w.1.read here path with
  | ok text => rfl
  | error e => cases e <;> rfl

/-- The settings come first, and they change nothing. -/
theorem run_objectsFor (w : FileTree × σ) :
    (objectsFor (surroundings here git backends workDir) o).run.run w =
      match settingsFor w.1 here o with
      | .error failure => (.error failure, w)
      | .ok s =>
        let (result, w') := generation (surroundings here git backends workDir) o s w
        (orFailure ("Failed to generate objects for " ++ o.source) result, w') := by
  have hload : (Config.load (surroundings here git backends workDir).files o.config).run w =
      (configAt w.1 here o.config, w) := run_load here o.config w
  have hok {α β : Type} (a : α) (f : α → Except Failure β) : (Except.ok a >>= f) = f a := rfl
  rw [objectsFor, settingsFor, run_bindState _ hload, run_bindExcept]
  cases orConfigFailure ("Failed to load config: " ++ o.config) (configAt w.1 here o.config) with
  | error failure => rfl
  | ok loaded =>
    simp only [hok]
    rw [run_bindExcept]
    cases orConfigFailure "Invalid namespace" (loaded.withProject o.project) with
    | error failure => rfl
    | ok config =>
      simp only [hok]
      rw [run_bindExcept]
      cases orConfigFailure "Invalid environment" (Environment.parse o.env) with
      | error failure => rfl
      | ok env =>
        simp only [hok]
        rw [run_bindExcept]
        cases orFailure "Invalid builder configuration" (detectorsOf config) with
        | error failure => rfl
        | ok detectors =>
          exact run_bindState _ rfl

end

/-! ## The generation -/

/-- The source that is cloned, if it lies in a remote repository. -/
def GenerateOptions.remoteSource? (o : GenerateOptions) : Option Source :=
  (o.request .empty).remoteSource?

section

variable {here : Place} {git : Git (StateM (FileTree × σ))}
  {backends : Backends (StateM (FileTree × σ))}

/-- A generation changes the clone only. -/
theorem generation_spares (hgit : git.Tame here) (hbackends : backends.GoAlong SameTree)
    (workDir : String) (o : GenerateOptions) (s : Settings) (w : FileTree × σ) :
    Clone.SparesRest here workDir o.remoteSource? w
      (generation (surroundings here git backends workDir) o s w).2 := by
  have hall : (s.collaborators (surroundings here git backends workDir)).GoAlong
      (Clone.SparesRest here workDir o.remoteSource?) (o.request s.env) := {
    files := filesAt_along here
    inspector := hgit.inspect_along
    fetcher := fun source hs => by
      have hsource : o.remoteSource? = some source := hs
      rw [hsource]
      exact Clone.fetch_spares hgit source
    resolver := Resolver.configured_along (hbackends.mono fun _ _ h => h.sparesRest) s.config }
  exact generate_along hall w

end

/-! ## The whole run -/

/-- The text of some objects: the list of them as JSON in lines, and a line feed. -/
def textOf (objects : List Object) : String :=
  Json.write Json.pretty (Encoding.listOf objects) ++ "\n"

/-- How a run of `generate` on the files of `w` ends, and what it leaves. -/
structure AllOrNothing (here : Place) (environment : String → Option String) (args : List String)
    (git : Git (StateM (FileTree × σ))) (backends : Backends (StateM (FileTree × σ)))
    (workDir : String) (o : GenerateOptions) (w : FileTree × σ) : Prop where
  /-- Settings that cannot be used end the run before anything is done in the world, whoever could
  be asked there. -/
  refused : ∀ failure, settingsFor w.1 here o = .error failure → failure.outcome.code ≠ 0 ∧
    ∀ git backends workDir, (run (surroundings here git backends workDir) environment args).run w =
      (failure.outcome, w)
  /-- A generation that fails ends the run. -/
  failed : ∀ s e w', settingsFor w.1 here o = .ok s →
    generation (surroundings here git backends workDir) o s w = (.error e, w') →
    ((run (surroundings here git backends workDir) environment args).run w).1.code ≠ 0
  /-- A run that fails writes nothing, neither to the output nor to the file for the objects, nor
  to any other that does not lie inside of the clone. -/
  nothing : ∀ outcome w', (run (surroundings here git backends workDir) environment args).run w =
      (outcome, w') → outcome.code ≠ 0 →
    outcome.output = "" ∧ Clone.SparesRest here workDir o.remoteSource? w w' ∧
      ∀ path ∈ o.output,
        FileTree.KeepsFile (Clone.Holds here workDir o.remoteSource? w.1) here path w.1 w'.1
  /-- Objects that are generated are printed if there is no file for them, and written to it
  alone if there is one. -/
  all : ∀ s objects w', settingsFor w.1 here o = .ok s →
    generation (surroundings here git backends workDir) o s w = (.ok objects, w') →
    Clone.SparesRest here workDir o.remoteSource? w w' ∧
    (o.output = none → (run (surroundings here git backends workDir) environment args).run w =
      ({ output := textOf objects }, w')) ∧
    ∀ path ∈ o.output, ∀ t, w'.1.write here path (textOf objects) = .ok t →
      (run (surroundings here git backends workDir) environment args).run w = ({}, t, w'.2) ∧
      t.read here path = .ok (textOf objects) ∧
      ∃ p, t.locate here path = .ok p ∧ ∀ q, q ≠ p → t.get? q = w'.1.get? q

section

variable {here : Place} {environment : String → Option String} {args : List String}
  {o : GenerateOptions}

/-- A failure is told by the code and as an error only. -/
theorem Failure.outcome_spec (f : Failure) : f.outcome.code ≠ 0 ∧ f.outcome.output = "" :=
  ⟨show (1 : UInt8) ≠ 0 by decide, rfl⟩

def deliver (here : Place) (o : GenerateOptions) (objects : List Object) (w : FileTree × σ) :
    Outcome × (FileTree × σ) :=
  match o.output with
  | none => ({ output := textOf objects }, w)
  | some path =>
    match w.1.write here path (textOf objects) with
    | .ok t => ({}, t, w.2)
    | .error e => ((⟨"Failed to create " ++ path, [e.message]⟩ : Failure).outcome, w)

variable {git : Git (StateM (FileTree × σ))} {backends : Backends (StateM (FileTree × σ))}
  {workDir : String} {w w' : FileTree × σ}

theorem run_refused (hread : Command.read environment args = .ok (.generate o))
    {failure : Failure} (hs : settingsFor w.1 here o = .error failure) :
    (run (surroundings here git backends workDir) environment args).run w =
      (failure.outcome, w) := by
  have hobjects : (objectsFor (surroundings here git backends workDir) o).run.run w =
      (.error failure, w) := by
    rw [run_objectsFor, hs]
  simp only [run, hread]
  rw [generate, run_bind_of_run _ hobjects]
  rfl

theorem run_failed (hread : Command.read environment args = .ok (.generate o))
    {s : Settings} {e : Error} (hs : settingsFor w.1 here o = .ok s)
    (hg : generation (surroundings here git backends workDir) o s w = (.error e, w')) :
    (run (surroundings here git backends workDir) environment args).run w =
      ((⟨"Failed to generate objects for " ++ o.source, errorReasons e⟩ : Failure).outcome, w') := by
  have hobjects : (objectsFor (surroundings here git backends workDir) o).run.run w =
      (.error ⟨"Failed to generate objects for " ++ o.source, errorReasons e⟩, w') := by
    rw [run_objectsFor, hs]
    simp only [hg]
    rfl
  simp only [run, hread]
  rw [generate, run_bind_of_run _ hobjects]
  rfl

theorem run_generated (hread : Command.read environment args = .ok (.generate o))
    {s : Settings} {objects : List Object} (hs : settingsFor w.1 here o = .ok s)
    (hg : generation (surroundings here git backends workDir) o s w = (.ok objects, w')) :
    (run (surroundings here git backends workDir) environment args).run w =
      deliver here o objects w' := by
  have hobjects : (objectsFor (surroundings here git backends workDir) o).run.run w =
      (.ok objects, w') := by
    rw [run_objectsFor, hs]
    simp only [hg]
    rfl
  simp only [run, hread]
  rw [generate, run_bind_of_run _ hobjects, deliver]
  cases o.output with
  | none => rfl
  | some path =>
    have hfiles : (surroundings here git backends workDir).files.write path (textOf objects) =
        onTree (FileTree.change fun t => t.write here path (textOf objects)) :=
      filesAt_write here path (textOf objects)
    simp only
    cases hw : w'.1.write here path (textOf objects) with
    | ok t => exact run_bind_of_run _ (hfiles ▸ run_change_of_ok hw)
    | error e => exact run_bind_of_run _ (hfiles ▸ run_change_of_error hw)

/-- A run of `generate` is all or nothing, as far as its files lie outside of the clone. -/
theorem generate_all_or_nothing (hread : Command.read environment args = .ok (.generate o))
    (hgit : git.Tame here) (hbackends : backends.GoAlong SameTree) (workDir : String)
    (w : FileTree × σ) : AllOrNothing here environment args git backends workDir o w where
  refused failure hs := ⟨failure.outcome_spec.1, fun git backends workDir => run_refused hread hs⟩
  failed s e w' hs hg := by
    rw [run_failed hread hs hg]
    exact (Failure.outcome_spec _).1
  nothing outcome w' hrun hcode := by
    have hend (f : Failure) (v : FileTree × σ)
        (hspares : Clone.SparesRest here workDir o.remoteSource? w v)
        (hv : (f.outcome, v) = (outcome, w')) :
        outcome.output = "" ∧ Clone.SparesRest here workDir o.remoteSource? w w' ∧
          ∀ path ∈ o.output,
            FileTree.KeepsFile (Clone.Holds here workDir o.remoteSource? w.1) here path w.1 w'.1 := by
      cases hv
      exact ⟨f.outcome_spec.2, hspares, fun path _ => hspares.keepsFile here path⟩
    cases hs : settingsFor w.1 here o with
    | error failure =>
      rw [run_refused hread hs] at hrun
      exact hend failure w (refl_of _ w) hrun
    | ok s =>
      have hspares := generation_spares hgit hbackends workDir o s w
      obtain ⟨result, v, hg⟩ : ∃ result v,
        generation (surroundings here git backends workDir) o s w = (result, v) := ⟨_, _, rfl⟩
      rw [hg] at hspares
      cases result with
      | error e =>
        rw [run_failed hread hs hg] at hrun
        exact hend _ v hspares hrun
      | ok objects =>
        rw [run_generated hread hs hg, deliver] at hrun
        split at hrun
        · cases hrun
          exact absurd rfl hcode
        · split at hrun
          · cases hrun
            exact absurd rfl hcode
          · exact hend _ v hspares hrun
  all s objects w' hs hg := by
    have hspares := generation_spares hgit hbackends workDir o s w
    rw [hg] at hspares
    rw [run_generated hread hs hg, deliver]
    refine ⟨hspares, fun ho => ?_, fun path hpath t ht => ?_⟩
    · rw [ho]
    · rw [show o.output = some path from hpath]
      simp only [ht]
      exact ⟨trivial, FileTree.read_write ht⟩

end

def noGit : Git (StateM (FileTree × σ)) :=
  ⟨fun _ _ => pure .missing⟩

def noBackends : Backends (StateM (FileTree × σ)) where
  daemon := none
  cluster := none
  network := ⟨fun _ => pure (.error .malformed)⟩

theorem noGit_tame (here : Place) : (noGit : Git (StateM (FileTree × σ))).Tame here where
  keeps _ _ _ _ := rfl
  clones _ _ w _ := FileTree.Spares.refl _ w.1

theorem noBackends_goAlong : (noBackends : Backends (StateM (FileTree × σ))).GoAlong SameTree where
  daemon := nofun
  cluster := nofun
  network _ _ := rfl

/-- What remains of a run in a tree with nothing but one file in its root. -/
theorem generate_all_or_nothing_port_zero :
    let t : FileTree := ⟨[(["out.json"], .file "old".toUTF8)]⟩
    let args := ["generate", "-p", "0", "-o", "/out.json"]
    ∃ outcome w', (run (surroundings [] noGit noBackends "/work") (fun _ => none) args).run (t, ()) =
        (outcome, w') ∧
      outcome.code ≠ 0 ∧ outcome.output = "" ∧
      t.entryAt [] "/out.json" = .ok (.file "old".toUTF8) ∧
      w'.1.entryAt [] "/out.json" = .ok (.file "old".toUTF8) := by
  intro t args
  have hread : Command.read (fun _ => none) args =
      .ok (.generate { port := some 0, output := some "/out.json" }) :=
    eq_ok_of_toOption (by decide +kernel)
  have h := generate_all_or_nothing hread (noGit_tame []) noBackends_goAlong "/work" (t, ())
  obtain ⟨outcome, w', hrun⟩ : ∃ outcome w', (run (surroundings [] noGit noBackends "/work")
    (fun _ => none) args).run (t, ()) = (outcome, w') := ⟨_, _, rfl⟩
  have hcode : outcome.code ≠ 0 := by
    cases hs : settingsFor t [] { port := some 0, output := some "/out.json" } with
    | error failure =>
      obtain ⟨hcode, hrefused⟩ := h.refused failure hs
      rw [hrefused noGit noBackends "/work"] at hrun
      cases hrun
      exact hcode
    | ok s =>
      have hfailed := h.failed s _ _ hs rfl
      rwa [hrun] at hfailed
  obtain ⟨houtput, -, hkeeps⟩ := h.nothing outcome w' hrun hcode
  have hold : t.entryAt [] "/out.json" = .ok (.file "old".toUTF8) :=
    (FileTree.Reachable.root t).entryAt_file [] "out.json" rfl (by decide) (by decide) (by decide)
      (by decide)
  have houtside : t.LeadsOutside (Clone.Holds [] "/work" none t) [] "/out.json"
      (.file "old".toUTF8) := ⟨t, fun p e he => ⟨by simp [Clone.Holds], he⟩, hold⟩
  have hremote : ({ port := some 0, output := some "/out.json" } : GenerateOptions).remoteSource? =
      none := by
    have hlocal : Remote.isRemote "." = false := by decide +kernel
    simp [GenerateOptions.remoteSource?, Request.remoteSource?, GenerateOptions.request, hlocal]
  have hkept := hkeeps "/out.json" rfl
  rw [hremote] at hkept
  exact ⟨outcome, w', hrun, hcode, houtput, hold, hkept.content _ houtside⟩

/-! ## A file inside of the clone -/

open FileTree (pathOf)

def remoteApp : Source where
  name := "app"
  location := .url "git@h:app"

def appClone : String := "b5534b427cb2c66197d259095019d1ad"

def pathInClone : String := "/work/b5534b427cb2c66197d259095019d1ad/out.json"

/-- A tree with a work directory in which a clone has been left. -/
def treeWithClone : FileTree :=
  ⟨[(["work"], .directory), (["work", appClone], .directory),
    (["work", appClone, "out.json"], .file "old".toUTF8)]⟩

theorem reachable_work : FileTree.Reachable treeWithClone ["work"] :=
  (FileTree.Reachable.root _).child (by decide) rfl (by decide) (by decide) (by decide)

theorem reachable_clone : FileTree.Reachable treeWithClone ["work", appClone] :=
  reachable_work.child (by decide) rfl (by decide) (by decide) (by decide)

/-- The old clone is removed before it turns out that there is no program to clone with. -/
theorem runFrom_fetch_app :
    runFrom (Clone.fetch (filesAt []) noGit "/work" remoteApp) (treeWithClone, ()) =
      (.error (.io .notFound), treeWithClone.erase ["work", appClone], ()) := by
  have hpath : Clone.path "/work" remoteApp = pathOf ["work", appClone] := by decide +kernel
  have hslash : FileTree.withoutSlash (pathOf ["work"]) = pathOf ["work"] := by decide +kernel
  rw [Clone.fetch]
  show runFrom (Clone.prepare (filesAt []) (pathOf ["work"]) (Clone.path "/work" remoteApp) >>= _) _ =
    _
  rw [hpath, runFrom_bind_of_eq (Clone.runFrom_prepare reachable_work hslash reachable_clone)]
  rfl

theorem configAt_treeWithClone : configAt treeWithClone [] "appgen.kdl" = .ok {} := by
  have hnames : FileTree.namesOf "appgen.kdl" = ["appgen.kdl"] := by decide +kernel
  have hwalk : treeWithClone.walk [] true "appgen.kdl" =
      treeWithClone.walkFrom true FileTree.maxLinks [] ["appgen.kdl"] := by
    rw [FileTree.walk, hnames, if_neg (by decide), if_neg (by decide), if_neg (by decide),
      if_neg (by decide)]
  have hnothing : FileTree.FindsNothing treeWithClone true FileTree.maxLinks [] ["appgen.kdl"] :=
    .of_there [] rfl (by decide) (by decide) (by decide) rfl
  rw [configAt, FileTree.read, hnothing.entryAt hwalk]
  rfl

/-- What `generate` is told. -/
def intoClone : GenerateOptions where
  source := "git@h:app"
  output := some pathInClone

theorem exists_settings_intoClone : ∃ s, settingsFor treeWithClone [] intoClone = .ok s := by
  have hconfig : configAt treeWithClone [] intoClone.config = .ok {} := configAt_treeWithClone
  rw [settingsFor, hconfig]
  exact ⟨_, rfl⟩

theorem generation_intoClone (s : Settings) :
    generation (surroundings [] noGit noBackends "/work") intoClone s (treeWithClone, ()) =
      (.error (.io .notFound), treeWithClone.erase ["work", appClone], ()) := by
  have hremote : Remote.isRemote intoClone.source = true := by decide +kernel
  have hlocation : (intoClone.request s.env).location = .url intoClone.source := by
    rw [GenerateOptions.request, hremote, if_pos rfl]
  have haddress : Source.ofAddress intoClone.source = .ok remoteApp :=
    eq_ok_of_toOption (by decide +kernel)
  have hsource : runFrom (findSource (s.collaborators (surroundings [] noGit noBackends "/work"))
      (intoClone.request s.env)) (treeWithClone, ()) = (.ok remoteApp, treeWithClone, ()) := by
    simp only [findSource, hlocation]
    rw [runFrom_bindExcept haddress]
    rfl
  have hport : ¬(intoClone.request s.env).port = some 0 := Option.some_ne_none 0 |>.symm
  rw [generation, DeployPlan.generate, if_neg hport, runFrom_bind_of_eq hsource]
  exact runFrom_bind_of_error (runFrom_bind_of_error (runFrom_bind_of_error runFrom_fetch_app))

/-- A file for the objects that lies inside of the clone is removed by a run that fails. -/
theorem output_in_clone_removed :
    Command.read (fun _ => none) ["generate", "git@h:app", "-o", pathInClone] =
        .ok (.generate intoClone) ∧
      intoClone.output = some pathInClone ∧
      treeWithClone.entryAt [] pathInClone = .ok (.file "old".toUTF8) ∧
      ∃ outcome w', (run (surroundings [] noGit noBackends "/work") (fun _ => none)
          ["generate", "git@h:app", "-o", pathInClone]).run (treeWithClone, ()) = (outcome, w') ∧
        outcome.code ≠ 0 ∧ w'.1.entryAt [] pathInClone = .error .notFound := by
  have hread : Command.read (fun _ => none) ["generate", "git@h:app", "-o", pathInClone] =
      .ok (.generate intoClone) := eq_ok_of_toOption (by decide +kernel)
  have hold : treeWithClone.entryAt [] pathInClone = .ok (.file "old".toUTF8) :=
    reachable_clone.entryAt_file [] "out.json" rfl (by decide) (by decide) (by decide) (by decide)
  obtain ⟨s, hs⟩ := exists_settings_intoClone
  refine ⟨hread, rfl, hold, _, _, run_failed hread hs (generation_intoClone s),
    (Failure.outcome_spec _).1, ?_⟩
  have hlegal : Place.Legal ["work", appClone, "out.json"] :=
    reachable_clone.legal.concat (by decide)
  have hwalk : (treeWithClone.erase ["work", appClone]).walk [] true
      (pathOf ["work", appClone, "out.json"]) =
      (treeWithClone.erase ["work", appClone]).walkFrom true FileTree.maxLinks ([] ++ ["work"])
        [appClone, "out.json"] := by
    rw [FileTree.walk_pathOf hlegal (by decide) (by decide)]
    exact FileTree.walkFrom_into _ rfl (by decide) (by decide) (by decide) rfl nofun
  have hgone : FileTree.FindsNothing (treeWithClone.erase ["work", appClone]) true
      FileTree.maxLinks ([] ++ ["work"]) [appClone, "out.json"] :=
    .of_there _ rfl (by decide) (by decide) (by decide) rfl
  exact hgone.entryAt hwalk

end DeployPlan.CommandLine
