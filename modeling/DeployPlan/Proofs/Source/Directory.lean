import DeployPlan.Proofs.FileTree.Places
import DeployPlan.Proofs.Recording
import DeployPlan.SourceDetection

/-!
# Where a directory is built from

A source made of a directory is told as the root of its checkout and the way from there
(`ofCheckout`), and built from where the two lead together (`buildRoot?`). `Leads` is that way, and
`built_where_named` says when it is kept and leads back to the directory: if no name on it holds a
backslash, since a backslash on the way is turned into a slash (`withSlashes_eq_self_iff`), and then
the way is another one.
-/

namespace DeployPlan

open FileTree (pathOf wayText files)

/-! ## Backslashes -/

theorem toList_withSlashes (s : String) :
    (withSlashes s).toList = s.toList.map fun c => if c = '\\' then '/' else c := by
  rw [withSlashes, String.toList_ofList]

theorem backslash_not_mem_withSlashes (s : String) : '\\' ∉ (withSlashes s).toList := by
  rw [toList_withSlashes]
  intro h
  obtain ⟨c, -, hc⟩ := List.mem_map.mp h
  split at hc
  · cases hc
  · contradiction

/-- A text stays as it is exactly if it holds no backslash. -/
theorem withSlashes_eq_self_iff {s : String} : withSlashes s = s ↔ '\\' ∉ s.toList := by
  refine ⟨fun h => h ▸ backslash_not_mem_withSlashes s, fun h => ?_⟩
  have hkept : s.toList.map (fun c => if c = '\\' then '/' else c) = s.toList.map id := by
    refine List.map_congr_left fun c hc => if_neg ?_
    rintro rfl
    exact h hc
  rw [← String.toList_inj, toList_withSlashes, hkept, List.map_id]

theorem withSlashes_eq_empty_iff {s : String} : withSlashes s = "" ↔ s = "" := by
  rw [← String.toList_inj, toList_withSlashes]
  simp

/-- No name on the way holds a backslash. -/
def NoBackslash (way : Place) : Prop :=
  ∀ name ∈ way, '\\' ∉ name.toList

theorem backslash_not_mem_wayText_iff {way : Place} :
    '\\' ∉ (wayText way).toList ↔ NoBackslash way := by
  rw [FileTree.toList_wayText]
  constructor
  · intro h name hn hb
    exact h (Text.mem_joinWith_of_mem (List.mem_map_of_mem hn) hb)
  · intro h hb
    rcases Text.mem_joinWith hb with hs | ⟨piece, hp, hc⟩
    · cases hs
    · obtain ⟨name, hn, rfl⟩ := List.mem_map.mp hp
      exact h name hn hc

/-- The way with its backslashes turned into slashes leads to the same place exactly if there are
none. -/
theorem join_withSlashes_iff {root way : Place} (h : Place.Legal (root ++ way)) (hw : way ≠ []) :
    Path.join (pathOf root) (withSlashes (wayText way)) = pathOf (root ++ way) ↔
      NoBackslash way := by
  rw [← backslash_not_mem_wayText_iff]
  constructor
  · intro hj hb
    cases ha : Path.isAbsolute (withSlashes (wayText way)) with
    | true =>
      rw [Path.join, ha, if_pos rfl] at hj
      refine backslash_not_mem_withSlashes (wayText way) ?_
      rw [hj, FileTree.toList_pathOf_append hw]
      exact List.mem_append_right _ hb
    | false =>
      rw [← String.toList_inj, FileTree.toList_join_pathOf h.left ha,
        FileTree.toList_pathOf_append hw, List.append_cancel_left_eq, String.toList_inj,
        withSlashes_eq_self_iff] at hj
      exact hj hb
  · intro hb
    rw [withSlashes_eq_self_iff.mpr hb, FileTree.join_pathOf h hw]

/-! ## From the directory to the source -/

namespace Source

/-- The directory to build from, told by the way that leads there. -/
def contextOf (way : Place) : Option String :=
  if way = [] then none else some (wayText way)

/-- The way to a directory, from the root of the checkout that it belongs to. -/
inductive Leads (t : FileTree) (here dir : Place) : Option Checkout → Place → Prop
  /-- The directory belongs to no checkout. -/
  | alone : Leads t here dir none []
  | below {checkout : Checkout} {root way : Place} (located : t.locate here checkout.root = .ok root)
    (ends : dir = root ++ way) : Leads t here dir (some checkout) way

theorem localRoot?_plain {dir : String} {s : Source} (h : plain dir = .ok s) :
    s.buildRoot? = some dir ∧ s.contextDir = none := by
  rw [plain] at h
  cases hn : nameFor dir (nameOfPath dir) with
  | error e => simp [hn, bind, Except.bind] at h
  | ok name =>
    rw [hn] at h
    cases h
    exact ⟨rfl, rfl⟩

theorem localRoot?_ofCheckout {dir root : String} {checkout : Checkout} {s : Source}
    (h : ofCheckout dir root checkout = .ok s) :
    s.localRoot? = some root ∧
      s.contextDir = ((Path.relativeTo? root dir).map withSlashes).filter (· ≠ "") := by
  rw [ofCheckout] at h
  cases hn : nameFor dir ((checkout.origin.bind Remote.nameOf).or (nameOfPath root)) with
  | error e => simp [hn, bind, Except.bind] at h
  | ok name =>
    rw [hn] at h
    cases h
    refine ⟨?_, rfl⟩
    cases checkout.origin <;> rfl

/-- A source in a checkout is built from the directory exactly if no name on the way there holds a
backslash. -/
theorem builtFrom_ofCheckout_iff {root way : Place} (hl : Place.Legal (root ++ way))
    {checkout : Checkout} {s : Source}
    (h : ofCheckout (pathOf (root ++ way)) (pathOf root) checkout = .ok s) :
    (s.buildRoot? = some (pathOf (root ++ way)) ↔ NoBackslash way) ∧
      (s.contextDir = contextOf way ↔ NoBackslash way) := by
  obtain ⟨hroot, hcontext⟩ := localRoot?_ofCheckout h
  rw [FileTree.relativeTo?_pathOf hl, Option.map_some] at hcontext
  rw [buildRoot?, hroot, Option.map_some, contextOf]
  by_cases hw : way = []
  · subst hw
    have hnone : s.contextDir = none := hcontext
    have hplain : NoBackslash [] := nofun
    simp [hnone, hplain]
  · have hsome : s.contextDir = some (withSlashes (wayText way)) := by
      rw [hcontext, Option.filter_some, if_pos]
      have hne : withSlashes (wayText way) ≠ "" := fun he =>
        hw ((FileTree.wayText_eq_empty_iff hl.right).mp (withSlashes_eq_empty_iff.mp he))
      simpa using hne
    rw [hsome, if_neg hw, Option.elim_some, Option.some_inj, Option.some_inj,
      join_withSlashes_iff hl hw, withSlashes_eq_self_iff, backslash_not_mem_wayText_iff]
    exact ⟨Iff.rfl, Iff.rfl⟩

variable {σ α β : Type}

/-- What goes on after a step on files that did not fail. -/
theorem runFrom_located {x : StateM σ (Except FileError α)} {place : String}
    {f : α → ExceptT Error (StateM σ) β} {s s' t : σ} {r : Except FileError α} {b : β}
    (hx : x.run s = (r, s'))
    (h : runFrom (liftM x >>= fun r => liftM (located place r) >>= f) s = (.ok b, t)) :
    ∃ a, r = .ok a ∧ runFrom (f a) s' = (.ok b, t) := by
  rw [runFrom_bindState hx] at h
  cases r with
  | error e => cases h
  | ok a =>
    have hl : located place (.ok a) = .ok a := rfl
    rw [runFrom_bindExcept hl] at h
    exact ⟨a, rfl, h⟩

section

variable {here : Place} (path : String) (t : FileTree)

theorem run_canonicalize :
    ((files here).canonicalize path).run t = ((t.locate here path).map pathOf, t) :=
  rfl

theorem run_isDirectory : ((files here).isDirectory path).run t = (t.isDirectory here path, t) :=
  rfl

theorem run_open : ((files here).openDirectory path).run t = (t.openDirectory here path, t) :=
  rfl

end

/-- A directory that is opened is told by the place where it lies. -/
theorem run_openDirectory {here : Place} {t t' : FileTree} {path dir : String}
    (h : runFrom (openDirectory (files here) path) t = (.ok dir, t')) :
    ∃ p, t.locate here path = .ok p ∧ dir = pathOf p ∧ t' = t := by
  rw [openDirectory] at h
  obtain ⟨d, hd, h⟩ := runFrom_located (run_canonicalize path t) h
  obtain ⟨b, -, h⟩ := runFrom_located (run_isDirectory d t) h
  cases b with
  | false => cases h
  | true =>
    obtain ⟨u, -, h⟩ := runFrom_located (run_open d t) h
    cases h
    obtain ⟨p, hp, rfl⟩ : ∃ p, t.locate here path = .ok p ∧ pathOf p = dir := by
      cases hp : t.locate here path with
      | error e => simp [hp, Except.map] at hd
      | ok p => simpa [hp, Except.map] using hd
    exact ⟨p, hp, rfl, rfl⟩

/-- The root of a checkout as a path: in its canonical form, if it has one. -/
def rootPath (t : FileTree) (here : Place) (checkout : Checkout) : String :=
  match t.locate here checkout.root with
  | .ok root => pathOf root
  | .error _ => checkout.root

/-- What the source in a directory is made of: the place of the directory, and the answer of the
inspector that it is shown to. -/
theorem run_ofDirectory {here : Place} {inspector : Inspector (StateM FileTree)} {t : FileTree}
    {path : String} {s : Source}
    (h : (runFrom (ofDirectory (files here) inspector path) t).1 = .ok s) :
    ∃ dir answer t', t.locate here path = .ok dir ∧
      runFrom (inspector.inspect (pathOf dir)) t = (.ok answer, t') ∧
      answer.elim (plain (pathOf dir))
        (fun checkout => ofCheckout (pathOf dir) (rootPath t' here checkout) checkout) = .ok s := by
  rw [ofDirectory] at h
  obtain ⟨d, t₁, ho, hd⟩ := runFrom_bind_eq_ok.mp h
  obtain ⟨dir, hdir, rfl, rfl⟩ := run_openDirectory ho
  obtain ⟨answer, t', hi, ha⟩ := runFrom_bind_eq_ok.mp hd
  refine ⟨dir, answer, t', hdir, hi, ?_⟩
  cases answer with
  | none => exact ha
  | some checkout =>
    rw [runFrom_bindState (run_canonicalize checkout.root t')] at ha
    rw [Option.elim_some, rootPath]
    cases hr : t'.locate here checkout.root with
    | error e => rwa [hr] at ha
    | ok root => rwa [hr] at ha

/-- A directory that can be reached is opened. -/
theorem runFrom_openDirectory {here : Place} {t : FileTree} {dir : Place}
    (h : FileTree.Reachable t dir) :
    runFrom (openDirectory (files here) (pathOf dir)) t = (.ok (pathOf dir), t) := by
  have hlocated := h.locate here
  have hentry := h.entryAt here
  have hcanonical : ((files here).canonicalize (pathOf dir)).run t = (.ok (pathOf dir), t) := by
    rw [run_canonicalize, hlocated]
    rfl
  have hdirectory : ((files here).isDirectory (pathOf dir)).run t = (.ok true, t) := by
    rw [run_isDirectory, FileTree.isDirectory, hentry]
    rfl
  have hopened : ((files here).openDirectory (pathOf dir)).run t = (.ok (), t) := by
    rw [run_open, FileTree.openDirectory, hentry]
    rfl
  rw [openDirectory, runFrom_bindState hcanonical,
    runFrom_bindExcept (show located (pathOf dir) (.ok (pathOf dir)) = .ok (pathOf dir) from rfl),
    runFrom_bindState hdirectory,
    runFrom_bindExcept (show located (pathOf dir) (.ok true) = .ok true from rfl)]
  show runFrom (liftM ((files here).openDirectory (pathOf dir)) >>= _) t = _
  rw [runFrom_bindState hopened]
  rfl

/-- A directory that can be reached, in a checkout whose root can be reached, has the source that
the two make. -/
theorem ofDirectory_below {here : Place} {inspector : Inspector (StateM FileTree)} {t : FileTree}
    {dir root : Place} {checkout : Checkout} (hd : FileTree.Reachable t dir)
    (hr : FileTree.Reachable t root) (hc : checkout.root = pathOf root)
    (hi : runFrom (inspector.inspect (pathOf dir)) t = (.ok (some checkout), t)) :
    (runFrom (ofDirectory (files here) inspector (pathOf dir)) t).1 =
      ofCheckout (pathOf dir) (pathOf root) checkout := by
  have hcanonical : ((files here).canonicalize checkout.root).run t = (.ok (pathOf root), t) := by
    rw [run_canonicalize, hc, hr.locate]
    rfl
  rw [ofDirectory, runFrom_bind_of_eq (runFrom_openDirectory hd), runFrom_bind_of_eq hi]
  dsimp only
  rw [runFrom_bindState hcanonical]
  rfl

/-- A directory that is told by its path is built from where it lies, and the source says the way
there from the root of its checkout, exactly if no name on that way holds a backslash. -/
theorem built_where_named {here : Place} (hh : here.Legal) {inspector : Inspector (StateM FileTree)}
    {t : FileTree} {path : String} {s : Source}
    (h : (runFrom (ofDirectory (files here) inspector path) t).1 = .ok s) :
    ∃ dir answer t', t.locate here path = .ok dir ∧
      runFrom (inspector.inspect (pathOf dir)) t = (.ok answer, t') ∧
      ∀ way, Leads t' here dir answer way → s.buildRoot?.isSome = true ∧
        (s.buildRoot? = some (pathOf dir) ↔ NoBackslash way) ∧
        (s.contextDir = contextOf way ↔ NoBackslash way) := by
  obtain ⟨dir, answer, t', hdir, hi, hs⟩ := run_ofDirectory h
  refine ⟨dir, answer, t', hdir, hi, fun way hw => ?_⟩
  cases hw with
  | alone =>
    obtain ⟨hroot, hcontext⟩ := localRoot?_plain hs
    have hplain : NoBackslash [] := nofun
    simp [hroot, hcontext, contextOf, hplain]
  | @below checkout root way hroot hends =>
    have hlegal : Place.Legal (root ++ way) := hends ▸ FileTree.locate_legal hh hdir
    rw [Option.elim_some, rootPath, hroot, hends] at hs
    rw [hends]
    refine ⟨?_, builtFrom_ofCheckout_iff hlegal hs⟩
    rw [buildRoot?, (localRoot?_ofCheckout hs).1]
    rfl

/-- A tree with a checkout and a directory in it. -/
def checkoutWith (name : String) : FileTree :=
  ⟨[(["repo"], .directory), (["repo", name], .directory)]⟩

/-- Finds the checkout, wherever it is asked. -/
def inRepo : Inspector (StateM FileTree) :=
  ⟨fun _ => pure (some { root := pathOf ["repo"] })⟩

theorem reachable_repo (name : String) : FileTree.Reachable (checkoutWith name) ["repo"] :=
  (FileTree.Reachable.root _).child (by decide) rfl (by decide) (by decide) (by decide)

theorem reachable_web : FileTree.Reachable (checkoutWith "web") ["repo", "web"] :=
  (reachable_repo "web").child (by decide) rfl (by decide) (by decide) (by decide)

theorem reachable_backslash : FileTree.Reachable (checkoutWith "a\\b") ["repo", "a\\b"] :=
  (reachable_repo "a\\b").child (by decide) rfl (by decide) (by decide) (by decide)

theorem run_web :
    (runFrom (ofDirectory (files []) inRepo (pathOf ["repo", "web"])) (checkoutWith "web")).1 =
      .ok { name := "repo", location := .directory "/repo", contextDir := some "web",
            localDir := some "/repo" } := by
  rw [ofDirectory_below reachable_web (reachable_repo "web") rfl rfl]
  exact eq_ok_of_toOption (by decide +kernel)

/-- A directory in a checkout is built from where it lies. -/
theorem built_where_named_web : ∃ s, (runFrom (ofDirectory (files []) inRepo
      (pathOf ["repo", "web"])) (checkoutWith "web")).1 = .ok s ∧
    s.buildRoot? = some (pathOf ["repo", "web"]) ∧ s.contextDir = some "web" := by
  obtain ⟨dir, answer, t', hdir, hi, h⟩ :=
    built_where_named (show Place.Legal [] from nofun) run_web
  rw [reachable_web.locate] at hdir
  cases hdir
  cases hi
  have hway : NoBackslash ["web"] := by
    intro name hn
    rw [List.mem_singleton.mp hn]
    decide
  have hroot := (reachable_repo "web").locate []
  obtain ⟨-, hbuilt, hcontext⟩ := h ["web"] (.below hroot rfl)
  exact ⟨_, run_web, hbuilt.mpr hway, hcontext.mpr hway⟩

/-- A directory with a backslash in its name is built from elsewhere. -/
theorem backslash_built_elsewhere :
    (checkoutWith "a\\b").locate [] (pathOf ["repo", "a\\b"]) = .ok ["repo", "a\\b"] ∧
    (checkoutWith "a\\b").locate [] (pathOf ["repo"]) = .ok ["repo"] ∧
    ∃ s, (runFrom (ofDirectory (files []) inRepo (pathOf ["repo", "a\\b"]))
        (checkoutWith "a\\b")).1 = .ok s ∧
      s.buildRoot? = some "/repo/a/b" ∧ s.contextDir = some "a/b" := by
  refine ⟨reachable_backslash.locate [], (reachable_repo "a\\b").locate [],
    { name := "repo", location := .directory "/repo", contextDir := some "a/b",
      localDir := some "/repo" }, ?_, by decide +kernel, rfl⟩
  rw [ofDirectory_below reachable_backslash (reachable_repo "a\\b") rfl rfl]
  exact eq_ok_of_toOption (by decide +kernel)

end Source

end DeployPlan
