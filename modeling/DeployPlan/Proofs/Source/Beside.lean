import DeployPlan.Proofs.Source.Clone

/-!
# Looking at a tree that stays as it is

To choose a strategy for the files of a tree is to look at them and to ask for an image. The first
does not change the tree, and the second has nothing to do with it: the whole is done beside the
tree (`Beside`), as if it were not part of the world (`Strategy.ofSnapshot_beside`).
`Strategy.inTree` is what is done without the tree. It depends on what the places of the tree hold
and on nothing else of the tree (`Strategy.inTree_congr`).
-/

namespace DeployPlan

variable {σ α β : Type}

/-! ## Beside a tree -/

/-- The computation does beside a tree, which it leaves as it is, what `y` does without one. -/
def Beside (t : FileTree) (x : StateM (FileTree × σ) α) (y : StateM σ α) : Prop :=
  ∀ s, x.run (t, s) = ((y.run s).1, t, (y.run s).2)

/-- What is done without a tree, in a world with one. -/
def besideTree (y : StateM σ α) : StateM (FileTree × σ) α := fun (t, s) =>
  let (a, s') := y.run s
  (a, t, s')

namespace Beside

variable {t : FileTree}

protected theorem pure (a : α) : Beside (σ := σ) t (Pure.pure a) (Pure.pure a) :=
  fun _ => rfl

protected theorem bind {x : StateM (FileTree × σ) α} {y : StateM σ α}
    {f : α → StateM (FileTree × σ) β} {g : α → StateM σ β} (h : Beside t x y)
    (hf : ∀ a, Beside t (f a) (g a)) : Beside t (x >>= f) (y >>= g) := by
  intro s
  show (f (x.run (t, s)).1).run (x.run (t, s)).2 = _
  rw [h s, hf]
  rfl

/-- The rule for two parts that may fail. -/
theorem bindE {x : ExceptT Error (StateM (FileTree × σ)) α} {y : ExceptT Error (StateM σ) α}
    {f : α → ExceptT Error (StateM (FileTree × σ)) β} {g : α → ExceptT Error (StateM σ) β}
    (h : Beside t x.run y.run) (hf : ∀ a, Beside t (f a).run (g a).run) :
    Beside t (x >>= f).run (y >>= g).run := by
  rw [ExceptT.run_bind, ExceptT.run_bind]
  refine h.bind fun result => ?_
  cases result with
  | error e => exact .pure _
  | ok a => exact hf a

/-- The rule for two parts, the first one a computation that cannot fail. -/
theorem bindState {x : StateM (FileTree × σ) α} {y : StateM σ α}
    {f : α → ExceptT Error (StateM (FileTree × σ)) β} {g : α → ExceptT Error (StateM σ) β}
    (h : Beside t x y) (hf : ∀ a, Beside t (f a).run (g a).run) :
    Beside t (liftM x >>= f).run (liftM y >>= g).run := by
  rw [ExceptT.run_bind, ExceptT.run_bind, ExceptT.run_liftM, ExceptT.run_liftM, bind_map_left,
    bind_map_left]
  exact h.bind hf

/-- The rule for two parts, the first one computed without asking anybody. -/
theorem bindExcept {r : Except Error α} {f : α → ExceptT Error (StateM (FileTree × σ)) β}
    {g : α → ExceptT Error (StateM σ) β} (hf : ∀ a, r = .ok a → Beside t (f a).run (g a).run) :
    Beside t (liftM r >>= f).run (liftM r >>= g).run := by
  cases r with
  | error e => exact .pure (Except.error e)
  | ok a => exact hf a rfl

theorem of_besideTree (y : StateM σ α) : Beside t (besideTree y) y :=
  fun _ => rfl

end Beside

def Resolver.besideTree (resolver : Resolver (StateM σ)) : Resolver (StateM (FileTree × σ)) where
  name := resolver.name
  resolve name := ExceptT.mk (DeployPlan.besideTree (resolver.resolve name).run)

/-- The operations on a tree that stays as it is. -/
def filesOf (here : Place) (t : FileTree) : Files (StateM σ) :=
  (FileTree.files here).lift fun x => pure (x.run t).1

/-- Looking at a snapshot is done beside a tree. -/
structure Snapshot.Beside (t : FileTree) (snapshot : Snapshot (StateM (FileTree × σ)))
    (plain : Snapshot (StateM σ)) : Prop where
  exists? : ∀ path, DeployPlan.Beside t (snapshot.exists? path) (plain.exists? path)
  read : ∀ path, DeployPlan.Beside t (snapshot.read path).run (plain.read path).run

/-- What is looked at in a tree stays as it is. -/
theorem Snapshot.ofDirectory_beside (here : Place) (t : FileTree) (root : String) :
    (ofDirectory (filesAt here) root).Beside t
      (ofDirectory (filesOf here t) root : Snapshot (StateM σ)) where
  exists? path := by
    refine Beside.bind (fun s => rfl) fun answer => ?_
    cases answer <;> exact .pure _
  read path := by
    refine Beside.bindState (fun s => rfl) fun answer => ?_
    cases answer with
    | ok text => exact .pure _
    | error e => cases e <;> exact .pure _

/-- How a snapshot is released does not matter for what is seen in it. -/
theorem Snapshot.Beside.withRelease {t : FileTree} {snapshot : Snapshot (StateM (FileTree × σ))}
    {plain : Snapshot (StateM σ)} (h : snapshot.Beside t plain)
    (release : StateM (FileTree × σ) Unit) :
    ({ snapshot with release := release } : Snapshot (StateM (FileTree × σ))).Beside t plain where
  exists? := h.exists?
  read := h.read

/-! ## Detection beside a tree -/

section

variable {t : FileTree} {snapshot : Snapshot (StateM (FileTree × σ))} {plain : Snapshot (StateM σ)}
  (h : snapshot.Beside t plain)

include h

theorem Detector.anyExists_beside (markers : List String) :
    Beside t (anyExists snapshot markers) (anyExists plain markers) := by
  induction markers with
  | nil => exact .pure false
  | cons marker rest ih =>
    refine Beside.bind (h.exists? marker) fun there => ?_
    cases there with
    | true => exact .pure true
    | false => exact ih

theorem Detector.firstMatch_beside (ds : List Detector) :
    Beside t (firstMatch snapshot ds) (firstMatch plain ds) := by
  induction ds with
  | nil => exact .pure none
  | cons d rest ih =>
    refine Beside.bind (anyExists_beside h d.markers) fun there => ?_
    cases there with
    | true => exact .pure (some d)
    | false => exact ih

theorem detect_beside (ds : List Detector) :
    Beside t (detect ds snapshot).run (detect ds plain).run := by
  rw [detect, detect]
  refine Beside.bindE (h.read buildFileName) fun content? => ?_
  cases content? with
  | some content => exact Beside.bindExcept fun file _ => .pure _
  | none => exact Beside.bindState (Detector.firstMatch_beside h ds) fun matched => .pure _

/-- Choosing a strategy for what is looked at in a tree leaves the tree as it is. -/
theorem Strategy.ofSnapshot_beside (resolver : Resolver (StateM σ)) (ds : List Detector)
    (source : Source) :
    Beside t (ofSnapshot resolver.besideTree ds source snapshot).run
      (ofSnapshot resolver ds source plain).run := by
  rw [ofSnapshot, ofSnapshot]
  refine Beside.bindE (detect_beside h ds) fun detection => ?_
  match detection with
  | some (.buildFile file) => exact .pure _
  | some (.builderImage _ name) =>
    exact Beside.bindE (.of_besideTree _) fun image => .pure _
  | none => exact .pure _

end

/-! ## The strategy that a tree calls for -/

/-- The strategy that the files below a directory of a tree call for, with the options of the
caller. -/
def Strategy.inTree (here : Place) (t : FileTree) (resolver : Resolver (StateM σ))
    (ds : List Detector) (source : Source) (root : String) (options : StrategyOptions) :
    ExceptT Error (StateM σ) Strategy := do
  let strategy ← ofSnapshot resolver ds source (.ofDirectory (filesOf here t) root)
  return { strategy with options }

/-- What a tree calls for does not depend on the order of its entries. -/
theorem Strategy.inTree_congr {t t' : FileTree} (h : t.Same t') (here : Place)
    (resolver : Resolver (StateM σ)) (ds : List Detector) (source : Source) (root : String)
    (options : StrategyOptions) :
    inTree here t' resolver ds source root options = inTree here t resolver ds source root options := by
  have hfiles (path : String) :
      (filesOf here t' : Files (StateM σ)).exists? path = (filesOf here t).exists? path ∧
        (filesOf here t' : Files (StateM σ)).read path = (filesOf here t).read path := by
    constructor
    · exact congrArg pure (FileTree.exists?_congr h here path)
    · exact congrArg pure (FileTree.read_congr h here path)
  have hsnapshot : Snapshot.ofDirectory (filesOf here t' : Files (StateM σ)) root =
      Snapshot.ofDirectory (filesOf here t) root := by
    simp only [Snapshot.ofDirectory, Snapshot.readFile, hfiles]
  rw [inTree, inTree, hsnapshot]

end DeployPlan
