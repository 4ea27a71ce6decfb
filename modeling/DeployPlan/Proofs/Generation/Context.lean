import DeployPlan.Proofs.FileTree.Dots
import DeployPlan.Proofs.Generation.Bases
import DeployPlan.Proofs.Text.Blanks

/-!
# Context directories

A caller may say in which directory of a source its build file lies. `validateContext_eq_ok_iff`
says which directories are accepted. One that is stays inside of the source: `context_agrees` says
that the build file is read where the directory of the source and that of the caller lead, and that
the build is told the same way.

The two are put together differently. A path that is read is continued as it is, and the walk passes
over its dots; what a build is told is trimmed and joined as texts. `Path.way` is what both come to
(`Path.way_join`, `Pipeline.way_joinContext`).
-/

namespace DeployPlan

open Text (Blanks joinWith splitOn)

variable {σ : Type}

/-! ## What a build is told -/

namespace Pipeline

/-- A context directory without the slashes around it. -/
def trimSlashes (dir : String) : List Char :=
  Text.trimEndWhere (· == '/') (dir.toList.dropWhile (· == '/'))

/-- What is left of some context directories. -/
def contextParts (dirs : List String) : List (List Char) :=
  (dirs.map trimSlashes).filter fun s => s ≠ [] ∧ s ≠ ['.']

theorem joinContext_eq (outer inner : Option String) :
    joinContext outer inner =
      match contextParts (outer.toList ++ inner.toList) with
      | [] => none
      | parts => some (String.ofList (joinWith '/' parts)) :=
  rfl

theorem wayOf_joinContext_eq (outer inner : Option String) :
    Path.wayOf (joinContext outer inner) =
      ((contextParts (outer.toList ++ inner.toList)).flatMap Path.segmentsIn).filter
        (· ≠ ['.']) := by
  rw [joinContext_eq, ← Path.segmentsIn_joinWith]
  cases contextParts (outer.toList ++ inner.toList) with
  | nil => rfl
  | cons part parts =>
    rw [Path.wayOf, Option.elim_some, Path.way, Path.segments_eq, String.toList_ofList]

theorem way_trimSlashes (dir : String) :
    (Path.segmentsIn (trimSlashes dir)).filter (· ≠ ['.']) = Path.way dir := by
  rw [trimSlashes, Path.segmentsIn_trimEnd, Path.segmentsIn_dropWhile]
  rfl

theorem way_contextParts (dirs : List String) :
    ((contextParts dirs).flatMap Path.segmentsIn).filter (· ≠ ['.']) = dirs.flatMap Path.way := by
  induction dirs with
  | nil => rfl
  | cons dir dirs ih =>
    rw [List.flatMap_cons, ← way_trimSlashes, ← ih, contextParts, List.map_cons]
    by_cases ht : trimSlashes dir ≠ [] ∧ trimSlashes dir ≠ ['.']
    · rw [List.filter_cons_of_pos (by simpa using ht), List.flatMap_cons, List.filter_append]
      rfl
    · have hnone : (Path.segmentsIn (trimSlashes dir)).filter (· ≠ ['.']) = [] := by
        by_cases he : trimSlashes dir = []
        · rw [he]
          rfl
        · rw [Classical.not_not.mp fun hd => ht ⟨he, hd⟩]
          rfl
      rw [List.filter_cons_of_neg (by simpa using ht), hnone, List.nil_append]
      rfl

/-- Two context directories put together lead the way of the one and then that of the other. -/
theorem way_joinContext (outer inner : Option String) :
    Path.wayOf (joinContext outer inner) = Path.wayOf outer ++ Path.wayOf inner := by
  rw [wayOf_joinContext_eq, way_contextParts]
  cases outer <;> cases inner <;> simp [Path.wayOf]

end Pipeline

/-! ## What is accepted -/

/-- A directory is accepted if it is not blank, does not start at the root, and has no step back. -/
theorem Strategy.validateContext_eq_ok_iff {dir : String} :
    validateContext dir = .ok () ↔ ¬Blanks dir.toList ∧ dir.toList.head? ≠ some '/' ∧
      ['.', '.'] ∉ splitOn '/' dir.toList := by
  have hsteps : ((Path.steps dir).any fun s => s == .root || s == .parent) = true ↔
      dir.toList.head? = some '/' ∨ ['.', '.'] ∈ splitOn '/' dir.toList := by
    rw [← Path.parent_mem_steps_iff, ← Path.isAbsolute_iff, ← Path.root_mem_steps_iff]
    simp only [List.any_eq_true, Bool.or_eq_true, beq_iff_eq]
    constructor
    · rintro ⟨s, hs, rfl | rfl⟩
      · exact .inl hs
      · exact .inr hs
    · rintro (hs | hs)
      · exact ⟨_, hs, .inl rfl⟩
      · exact ⟨_, hs, .inr rfl⟩
  rw [validateContext, ← Text.trim_eq_nil_iff]
  by_cases hb : Text.trim dir.toList = []
  · simp [hb]
  · rw [if_neg hb, and_iff_right hb, ← not_or, ← hsteps]
    split <;> simp_all

/-! ## What is read -/

/-- The way from the root of a source to a directory that the caller names. -/
def Source.wayTo (source : Source) (dir : String) : List (List Char) :=
  Path.wayOf source.contextDir ++ Path.way dir

/-- The path leads to the build file in a directory of a source with this root, by names alone, and
so stays in the directory that is built from. -/
structure ReadsBelow (source : Source) (root dir path : String) : Prop where
  /-- The directory that is built from lies on the way. -/
  snapshot : ∃ place, source.buildRoot? = some place ∧
    Path.isAbsolute place = Path.isAbsolute root ∧
    Path.way place = Path.way root ++ Path.wayOf source.contextDir
  isAbsolute_eq : Path.isAbsolute path = Path.isAbsolute root
  way_eq : Path.way path = Path.way root ++ source.wayTo dir ++ [buildFileName.toList]
  /-- There is no step back on the way that the caller adds. -/
  inside : ['.', '.'] ∉ Path.way dir
  /-- In every tree of files this is where the build file is looked for. -/
  found : ∀ (t : FileTree) (here : Place), '\x00' ∉ path.toList →
    path.utf8ByteSize ≤ FileTree.maxPath →
    t.walk here true path =
      t.walkFrom true FileTree.maxLinks (if Path.isAbsolute root then [] else here)
        ((Path.way root ++ source.wayTo dir).map String.ofList ++ [buildFileName])

theorem isSegment_buildFileName : IsSegment buildFileName :=
  (by decide : IsEntryName buildFileName).toIsSegment

/-- The directory that is built from is reached from the root by the directory of the source. -/
theorem Source.way_buildRoot {source : Source} {root : String} (hl : source.localRoot? = some root)
    (hr : ∀ dir, source.contextDir = some dir → Path.isAbsolute dir = false) :
    ∃ place, source.buildRoot? = some place ∧ Path.isAbsolute place = Path.isAbsolute root ∧
      Path.way place = Path.way root ++ Path.wayOf source.contextDir := by
  rw [buildRoot?, hl, Option.map_some]
  cases hc : source.contextDir with
  | none => exact ⟨root, rfl, rfl, (List.append_nil _).symm⟩
  | some dir => exact ⟨_, rfl, Path.isAbsolute_join (hr dir hc), Path.way_join (hr dir hc)⟩

/-- The path by which the build file in a directory is read. -/
theorem readsBelow {source : Source} {root place dir : String} (hl : source.localRoot? = some root)
    (hr : ∀ dir, source.contextDir = some dir → Path.isAbsolute dir = false)
    (hp : source.buildRoot? = some place) (hv : Strategy.validateContext dir = .ok ()) :
    ReadsBelow source root dir (Path.join (Path.join place dir) buildFileName) := by
  obtain ⟨-, hslash, hback⟩ := Strategy.validateContext_eq_ok_iff.mp hv
  have hdir : Path.isAbsolute dir = false := by
    rw [Bool.eq_false_iff]
    exact fun h => hslash (Path.isAbsolute_iff.mp h)
  have hname := isSegment_buildFileName
  obtain ⟨place', hp', habsolute, hway⟩ := Source.way_buildRoot hl hr
  obtain rfl : place = place' := Option.some.inj (hp.symm.trans hp')
  have hwayDir : Path.way (Path.join place dir) = Path.way root ++ source.wayTo dir := by
    rw [Path.way_join hdir, hway, List.append_assoc, Source.wayTo]
  exact
    { snapshot := Source.way_buildRoot hl hr
      isAbsolute_eq := by
        rw [Path.isAbsolute_join hname.isAbsolute_eq, Path.isAbsolute_join hdir, habsolute]
      way_eq := by
        rw [Path.way_join hname.isAbsolute_eq, hwayDir]
        rfl
      inside := fun h => hback (List.mem_filter.mp (List.mem_filter.mp h).1).1
      found := fun t here hnul hfit => by
        rw [FileTree.walk_join t here true hname hnul hfit, hwayDir, Path.isAbsolute_join hdir,
          habsolute] }

/-! ## What is built -/

/-- The build of a pipeline is told the way of the source and then that of the strategy. -/
theorem Pipeline.wayOf_buildSource (p : Pipeline) :
    Path.wayOf p.buildSource.contextDir =
      Path.wayOf p.source.contextDir ++ Path.wayOf p.strategy.contextDir :=
  way_joinContext p.source.contextDir p.strategy.contextDir

/-- A build file in a directory that says something, or in none, fits every source with a name. -/
theorem Pipeline.plan_of_buildFile (source : Source) (strategy : Strategy)
    (hk : strategy.kind = .buildFile) (hd : strategy.contextDir.any isBlankText = false)
    (env : StringMap String) :
    plan source strategy env =
      if source.name = "" then .error (.pipelineConsistency "pipeline name is empty")
      else .ok (ofStrategy source strategy env).parts.objects := by
  have hkind : kindFault? source.name strategy.base strategy = none := by
    rw [kindFault?, hk]
    simp [hd]
  rw [plan_eq, fault?, hkind, baseFault?_self]
  by_cases hn : source.name = ""
  · rw [if_pos hn, if_pos hn]
  · rw [if_neg hn, if_neg hn]
    rfl

/-- What comes of a context directory that the caller names, with the calls that are made for it and
the strategy that is chosen. -/
structure ContextLaw (source : Source) (dir : String) (calls : List Call)
    (chosen : Except Error Strategy) : Prop where
  accepted : Strategy.validateContext dir = .ok () ↔ ¬Blanks dir.toList ∧
    dir.toList.head? ≠ some '/' ∧ ['.', '.'] ∉ splitOn '/' dir.toList
  refused : ∀ e, Strategy.validateContext dir = .error e → calls = [] ∧ chosen = .error e
  /-- The one call reads the build file in the directory. -/
  reads : Strategy.validateContext dir = .ok () → ∀ root, source.localRoot? = some root →
    ∃ path answer, calls = [.read path answer] ∧ ReadsBelow source root dir path
  /-- A plan with the strategy has one build, with the same way from the root of the source. -/
  builds : ∀ strategy, chosen = .ok strategy → ∀ options port env objects,
    plan source { strategy with options, portOverride := port } env = .ok objects →
    ∃ build, (∀ other, .buildConfig other ∈ objects ↔ other = build) ∧
      Path.wayOf build.source.contextDir = source.wayTo dir
  /-- There is such a plan, unless the source is without a name. -/
  planned : ∀ strategy, chosen = .ok strategy → source.name ≠ "" → ∀ options port env,
    ∃ objects, plan source { strategy with options, portOverride := port } env = .ok objects

/-- For every context directory that a caller names and every source whose own one is relative, the
build file is read in the directory that the build is told. -/
theorem context_agrees (files : Files (StateM σ)) (source : Source) (dir : String) (s : σ)
    (hr : ∀ outer, source.contextDir = some outer → Path.isAbsolute outer = false) :
    Records (Strategy.ofContext files.noted source dir) (Strategy.ofContext files source dir) s
      fun calls chosen _ => ContextLaw source dir calls chosen := by
  refine (Strategy.ofContext_records files [] source dir s).mono fun calls chosen _ h => ?_
  refine
    { accepted := Strategy.validateContext_eq_ok_iff
      refused := ?refused
      reads := ?reads
      builds := ?builds
      planned := ?planned }
  case refused =>
    intro e he
    cases h with
    | refusedContext h =>
      cases h.symm.trans he
      exact ⟨rfl, rfl⟩
    | unseenContext h | context h => cases h.symm.trans he
  case reads =>
    intro hv root hl
    obtain ⟨place, hp, -⟩ := Source.way_buildRoot hl hr
    cases h with
    | refusedContext h => cases h.symm.trans hv
    | unseenContext h hp' => cases hp.symm.trans hp'
    | context h hp' answer => exact ⟨_, answer, rfl, readsBelow hl hr hp' hv⟩
  case builds =>
    rintro strategy rfl options port env objects hplan
    obtain ⟨-, file, rfl, -⟩ := h.of_context
    rw [Pipeline.plan_eq_ok hplan]
    exact ⟨_, fun _ => PlanParts.buildConfig_mem_objects, Pipeline.wayOf_buildSource _⟩
  case planned =>
    rintro strategy rfl hn options port env
    obtain ⟨hv, file, rfl, -⟩ := h.of_context
    have hblank : Pipeline.isBlankText dir = false :=
      Pipeline.isBlankText_eq_false_iff.mpr (Strategy.validateContext_eq_ok_iff.mp hv).1
    have hplan := Pipeline.plan_of_buildFile source
      { Strategy.ofBuildFile (some dir) file with options, portOverride := port } rfl hblank env
    exact ⟨_, hplan.trans (if_neg hn)⟩

/-- A source with a context directory of its own. -/
def nestedSource : Source :=
  { name := "app", location := .directory "/repo", contextDir := some "sub/" }

/-- In the directory `sub` of a repository, `./a//b/.` leads to `sub/a/b`; it is read and built. -/
theorem context_agrees_nested :
    let files := (everywhere "FROM ruby:2.7").files
    (∀ outer, nestedSource.contextDir = some outer → Path.isAbsolute outer = false) ∧
      nestedSource.wayTo "./a//b/." = [['s', 'u', 'b'], ['a'], ['b']] ∧
      (∃ strategy objects,
        (runFrom (Strategy.ofContext files nestedSource "./a//b/.") ()).1 = .ok strategy ∧
        plan nestedSource strategy .empty = .ok objects) ∧
      Records (Strategy.ofContext files.noted nestedSource "./a//b/.")
        (Strategy.ofContext files nestedSource "./a//b/.") ()
        fun calls chosen _ => ContextLaw nestedSource "./a//b/." calls chosen :=
  have hr : ∀ outer, nestedSource.contextDir = some outer → Path.isAbsolute outer = false := by
    rintro outer ⟨⟩
    decide
  ⟨hr, by decide, ⟨_, _, rfl, rfl⟩, context_agrees _ _ _ _ hr⟩

end DeployPlan
