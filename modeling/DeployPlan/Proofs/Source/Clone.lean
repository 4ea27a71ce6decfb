import DeployPlan.Clone
import DeployPlan.Proofs.FileTree.Room
import DeployPlan.Proofs.Generation.Along

/-!
# What clones leave as it was

A world is a tree of files and whatever else is around. A clone is made in a directory named by the
digest of the source's text, which is the last name on its path (`getLast?_namesOf_path`). Making
room for the clone, making it and removing it again spare all that is not where this path leads
(`fetch_spares`), provided that `git` does so when it clones (`Git.Tame`).
-/

namespace DeployPlan

variable {σ α : Type}

/-! ## Files in a world -/

/-- What is done to the tree, in a world with more than a tree. -/
def onTree (x : StateM FileTree α) : StateM (FileTree × σ) α := fun (t, s) =>
  let (a, t') := x.run t
  (a, t', s)

/-- The operations on the tree, for a program that runs in the directory `here`. -/
def filesAt (here : Place) : Files (StateM (FileTree × σ)) :=
  (FileTree.files here).lift onTree

section

variable (here : Place) (path : String)

theorem filesAt_write (text : String) :
    (filesAt here : Files (StateM (FileTree × σ))).write path text =
      onTree (FileTree.change fun t => t.write here path text) :=
  rfl

theorem filesAt_createDirectories :
    (filesAt here : Files (StateM (FileTree × σ))).createDirectories path =
      onTree (FileTree.change fun t =>
        t.createDirectories here (Path.segments path).length path) := by
  simp only [filesAt, Files.lift, FileTree.files]

theorem filesAt_removeTree :
    (filesAt here : Files (StateM (FileTree × σ))).removeTree path =
      onTree (FileTree.change fun t => t.removeTree here path) :=
  rfl

theorem run_read (w : FileTree × σ) :
    ((filesAt here).read path).run w = (w.1.read here path, w) :=
  rfl

theorem run_exists? (w : FileTree × σ) :
    ((filesAt here).exists? path).run w = (w.1.exists? here path, w) :=
  rfl

end

/-- A change that fails is none. -/
theorem run_change (f : FileTree → Except FileError FileTree) (w : FileTree × σ) :
    (onTree (FileTree.change f)).run w =
      match f w.1 with
      | .ok t => (.ok (), t, w.2)
      | .error e => (.error e, w) := by
  obtain ⟨t, s⟩ := w
  show ((FileTree.change f t).1, (FileTree.change f t).2, s) = _
  rw [FileTree.change]
  cases f t <;> rfl

theorem run_change_of_ok {f : FileTree → Except FileError FileTree} {w : FileTree × σ}
    {t : FileTree} (h : f w.1 = .ok t) :
    (onTree (FileTree.change f)).run w = (.ok (), t, w.2) := by
  rw [run_change, h]

theorem run_change_of_error {f : FileTree → Except FileError FileTree} {w : FileTree × σ}
    {e : FileError} (h : f w.1 = .error e) :
    (onTree (FileTree.change f)).run w = (.error e, w) := by
  rw [run_change, h]

theorem eq_ok_of_run_change {f : FileTree → Except FileError FileTree} {w w' : FileTree × σ}
    {u : Unit} (h : (onTree (FileTree.change f)).run w = (.ok u, w')) : f w.1 = .ok w'.1 := by
  cases hf : f w.1 with
  | error e =>
    rw [run_change_of_error hf] at h
    cases h
  | ok t =>
    rw [run_change_of_ok hf] at h
    cases h
    rfl

theorem snd_run_change (f : FileTree → Except FileError FileTree) (w : FileTree × σ) :
    ((onTree (FileTree.change f)).run w).2.2 = w.2 := by
  rw [run_change]
  split <;> rfl

/-! ## The name of a clone -/

namespace Digest

theorem toList_md5 (text : String) :
    (md5 text).toList ≠ [] ∧ ∀ c ∈ (md5 text).toList, ∃ n < 16, c = Nat.digitChar n := by
  obtain ⟨w, hw⟩ : ∃ w : Words, md5 text = String.ofList
      ([w.a, w.b, w.c, w.d].flatMap fun x => (littleEndian 4 x.toNat).flatMap hexByte) :=
    ⟨_, rfl⟩
  rw [hw, String.toList_ofList]
  refine ⟨by simp [littleEndian, hexByte, List.range_succ], fun c hc => ?_⟩
  obtain ⟨x, -, hc⟩ := List.mem_flatMap.mp hc
  obtain ⟨b, -, hc⟩ := List.mem_flatMap.mp hc
  have hb := b.toNat_lt
  simp only [hexByte, List.mem_cons, List.not_mem_nil, or_false] at hc
  rcases hc with rfl | rfl
  · exact ⟨b.toNat / 16, by omega, rfl⟩
  · exact ⟨b.toNat % 16, by omega, rfl⟩

theorem isEntryName_md5 (text : String) : IsEntryName (md5 text) := by
  obtain ⟨hne, hdigits⟩ := toList_md5 text
  have hmarks : ∀ n < 16, Nat.digitChar n ≠ '/' ∧ Nat.digitChar n ≠ '.' := by decide
  have hno (c : Char) (hc : ∀ n < 16, Nat.digitChar n ≠ c) : c ∉ (md5 text).toList := by
    intro hm
    obtain ⟨n, hn, rfl⟩ := hdigits c hm
    exact hc n hn rfl
  have hdot := hno '.' fun n hn => (hmarks n hn).2
  refine ⟨⟨fun he => hne (by rw [he]; rfl), hno '/' fun n hn => (hmarks n hn).1⟩, ?_, ?_⟩
  · intro he
    exact hdot (by rw [he]; decide)
  · intro he
    exact hdot (by rw [he]; decide)

end Digest

/-! ## The relation between worlds -/

namespace Clone

/-- The path of a clone ends in its name. -/
theorem getLast?_namesOf_path (workDir : String) (source : Source) :
    (FileTree.namesOf (path workDir source)).getLast? = some (Digest.md5 source.toString) := by
  rw [path, FileTree.namesOf_join workDir (Digest.isEntryName_md5 _).toIsSegment,
    List.getLast?_concat]

/-- The place is in the clone of a source, if there is a source to clone. -/
def Holds (here : Place) (workDir : String) (source? : Option Source) (t : FileTree) (p : Place) :
    Prop :=
  ∃ source ∈ source?, FileTree.AtPath here (path workDir source) t p

/-- The tree changes in the clone only, apart from directories where there was nothing. -/
def SparesRest (here : Place) (workDir : String) (source? : Option Source)
    (w w' : FileTree × σ) : Prop :=
  FileTree.Spares (Holds here workDir source? w.1) w.1 w'.1

theorem sparesRest_some {here : Place} {workDir : String} {source : Source} {w w' : FileTree × σ} :
    SparesRest here workDir (some source) w w' ↔
      FileTree.Spares (FileTree.AtPath here (path workDir source) w.1) w.1 w'.1 := by
  have hholds : Holds here workDir (some source) w.1 =
      FileTree.AtPath here (path workDir source) w.1 := by
    funext p
    simp [Holds]
  rw [SparesRest, hholds]

instance (here : Place) (workDir : String) (source? : Option Source) :
    IsPreorder (FileTree × σ) (SparesRest here workDir source?) where
  refl w := .refl _ w.1
  trans u v w h h' := by
    cases source? with
    | none => exact h.trans (h'.mono fun p => by simp [Holds])
    | some source =>
      have hn := Digest.isEntryName_md5 source.toString
      rw [sparesRest_some] at h h' ⊢
      exact h.transAtPath (getLast?_namesOf_path workDir source) hn.ne_here hn.ne_parent h'

end Clone

def SameTree (w w' : FileTree × σ) : Prop :=
  w'.1 = w.1

open Clone (SparesRest)

variable {here : Place} {workDir : String} {source? : Option Source}

theorem SameTree.sparesRest {w w' : FileTree × σ} (h : SameTree w w') :
    SparesRest here workDir source? w w' := by
  rw [SparesRest, h]
  exact .refl _ w.1

/-- Looking at files changes none. -/
theorem filesAt_along (there : Place) :
    (filesAt there : Files (StateM (FileTree × σ))).LooksAlong
      (SparesRest here workDir source?) where
  canonicalize _ := fun w => .refl _ w.1
  isDirectory _ := fun w => .refl _ w.1
  exists? _ := fun w => .refl _ w.1
  openDirectory _ := fun w => .refl _ w.1
  read _ := fun w => .refl _ w.1

theorem change_along {f : FileTree → Except FileError FileTree}
    (h : ∀ t t', f t = .ok t' → FileTree.Spares (Clone.Holds here workDir source? t) t t') :
    StateAlong (SparesRest here workDir source?)
      (onTree (FileTree.change f) : StateM (FileTree × σ) (Except FileError Unit)) := by
  intro w
  cases hf : f w.1 with
  | error e =>
    rw [run_change_of_error hf]
    exact refl_of _ w
  | ok t =>
    rw [run_change_of_ok hf]
    exact h w.1 t hf

theorem createDirectories_along (path : String) :
    StateAlong (SparesRest here workDir source?)
      ((filesAt here : Files (StateM (FileTree × σ))).createDirectories path) := by
  rw [filesAt_createDirectories]
  exact change_along fun t t' h => FileTree.createDirectories_spares h

/-- Removing a clone changes nothing else. -/
theorem removeTree_along (source : Source) :
    StateAlong (SparesRest here workDir (some source))
      ((filesAt here : Files (StateM (FileTree × σ))).removeTree (Clone.path workDir source)) := by
  rw [filesAt_removeTree]
  refine change_along fun t t' h => (FileTree.removeTree_spares h).mono fun p hp => ?_
  exact ⟨source, rfl, hp⟩

/-! ## Cloning -/

/-- How the `git` program treats files, run in the directory `here` or in one that it is told:
nothing but a clone changes any, and a clone to where nothing is makes directories on the way and
changes what is there. -/
structure Git.Tame (here : Place) (git : Git (StateM (FileTree × σ))) : Prop where
  keeps : ∀ dir args, args.head? ≠ some "clone" → StateAlong SameTree (git.run dir args)
  clones : ∀ args path (w : FileTree × σ), w.1.exists? here path = .ok false →
    FileTree.Spares (FileTree.AtPath here path w.1) w.1
      ((git.run none ("clone" :: args ++ [path])).run w).2.1

namespace Clone

/-- What goes on after a step on files that did not fail. -/
theorem runFrom_orThrow {α β : Type} {x : StateM σ (Except FileError α)}
    {f : α → ExceptT Error (StateM σ) β} {s t : σ} {b : β}
    (h : runFrom (liftM x >>= fun r => liftM (orThrow r) >>= f) s = (.ok b, t)) :
    ∃ a s', x.run s = (.ok a, s') ∧ runFrom (f a) s' = (.ok b, t) := by
  obtain ⟨result, s', hx⟩ : ∃ result s', x.run s = (result, s') := ⟨_, _, rfl⟩
  rw [runFrom_bindState hx] at h
  cases result with
  | error e => cases h
  | ok a =>
    rw [runFrom_bindExcept (rfl : orThrow (.ok a) = .ok a)] at h
    exact ⟨a, s', hx, h⟩

/-- Making room for a clone changes nothing else. -/
theorem prepare_along (source : Source) :
    Along (SparesRest here workDir (some source))
      (prepare (filesAt here : Files (StateM (FileTree × σ))) workDir (path workDir source)) := by
  refine Along.bindState (createDirectories_along workDir) fun _ => ?_
  refine Along.bindExcept fun _ => ?_
  refine Along.bindState ((filesAt_along here).exists? _) fun _ => ?_
  refine Along.bindExcept fun there => ?_
  refine Along.ite ?_ (Along.pure ())
  exact Along.bindState (removeTree_along source) fun _ => Along.ofExcept _

/-- What room is made of: the work directory, and nothing where the path leads. -/
theorem exists_of_prepare {path : String} {w w' : FileTree × σ}
    (h : runFrom (prepare (filesAt here) workDir path) w = (.ok (), w')) :
    w'.2 = w.2 ∧ ∃ made,
      w.1.createDirectories here (Path.segments workDir).length workDir = .ok made ∧
        FileTree.Clears here path made w'.1 := by
  rw [prepare] at h
  obtain ⟨_, w₁, hmade, h⟩ := runFrom_orThrow h
  obtain ⟨there, w₂, hthere, h⟩ := runFrom_orThrow h
  rw [filesAt_createDirectories] at hmade
  have hdirectories := eq_ok_of_run_change hmade
  have hsnd := snd_run_change
    (fun t => t.createDirectories here (Path.segments workDir).length workDir) w
  rw [hmade] at hsnd
  rw [run_exists?] at hthere
  obtain ⟨hfound, rfl⟩ := Prod.mk.inj hthere
  cases there with
  | false =>
    cases h
    exact ⟨hsnd, _, hdirectories, .inl ⟨hfound, rfl⟩⟩
  | true =>
    rw [if_pos rfl, ← bind_pure (liftM ((filesAt here).removeTree path) >>= _), bind_assoc] at h
    obtain ⟨_, w₃, hremoved, h⟩ := runFrom_orThrow h
    cases h
    rw [filesAt_removeTree] at hremoved
    have hkept := snd_run_change (fun t => t.removeTree here path) w₁
    rw [hremoved] at hkept
    exact ⟨hkept.trans hsnd, _, hdirectories, .inr (eq_ok_of_run_change hremoved)⟩

/-- Then there is nothing where the clone will be. -/
theorem exists?_prepare {source : Source} {w w' : FileTree × σ}
    (h : runFrom (prepare (filesAt here) workDir (path workDir source)) w = (.ok (), w')) :
    w'.1.exists? here (path workDir source) = .ok false := by
  have hn := Digest.isEntryName_md5 source.toString
  obtain ⟨-, made, -, hclears⟩ := exists_of_prepare h
  exact hclears.exists? (getLast?_namesOf_path workDir source) hn.ne_here hn.ne_parent

open FileTree (pathOf) in
/-- Room is made in a work directory that is there by removing an old clone. -/
theorem runFrom_prepare {here : Place} {t : FileTree} {s : σ} {p q : Place}
    (hp : FileTree.Reachable t p) (hslash : FileTree.withoutSlash (pathOf p) = pathOf p)
    (hq : FileTree.Reachable t q) :
    runFrom (prepare (filesAt here) (pathOf p) (pathOf q)) (t, s) = (.ok (), t.erase q, s) := by
  have hmade : ((filesAt here).createDirectories (pathOf p)).run (t, s) = (.ok (), t, s) := by
    rw [filesAt_createDirectories]
    exact run_change_of_ok (hp.createDirectories here hslash _)
  have hthere : ((filesAt here).exists? (pathOf q)).run (t, s) = (.ok true, t, s) := by
    rw [run_exists?, hq.exists? here]
  have hremoved : ((filesAt here).removeTree (pathOf q)).run (t, s) = (.ok (), t.erase q, s) := by
    rw [filesAt_removeTree]
    exact run_change_of_ok (hq.removeTree here)
  rw [prepare, runFrom_bindState hmade, runFrom_bindExcept (rfl : orThrow (.ok ()) = .ok ()),
    runFrom_bindState hthere, runFrom_bindExcept (rfl : orThrow (.ok true) = .ok true),
    if_pos rfl, runFrom_bindState hremoved]
  rfl

theorem exists_arguments (source : Source) (uri path : String) :
    ∃ args, arguments source uri path = "clone" :: args ++ [path] := by
  rw [arguments]
  cases source.ref with
  | none => exact ⟨["--depth", "1", "--single-branch", uri], rfl⟩
  | some ref => exact ⟨["--depth", "1", "--single-branch", "--branch", ref, uri], rfl⟩

variable {git : Git (StateM (FileTree × σ))}

/-- Looking at a clone changes nothing, and removing it nothing else. -/
theorem snapshot_along (source : Source) (contextDir : Option String) :
    (snapshot (filesAt here : Files (StateM (FileTree × σ))) (path workDir source)
      contextDir).GoesAlong (SparesRest here workDir (some source)) := by
  rw [snapshot]
  exact (Snapshot.ofDirectory_along (filesAt_along here) _).withRelease
    (StateAlong.bind (removeTree_along source) fun _ => StateAlong.pure ())

/-- Cloning a source and removing the clone changes nothing but the clone. -/
theorem fetch_spares (h : git.Tame here) (source : Source) :
    (Fetcher.ofGit (filesAt here) git workDir).FetchesAlong
      (SparesRest here workDir (some source)) source := by
  constructor
  · show Along _ (fetch (filesAt here) git workDir source)
    rw [fetch]
    cases source.uri? with
    | none => exact Along.throw _
    | some uri =>
      refine Along.bindFrom (prepare_along source) fun w _ w' hprepared => ?_
      obtain ⟨args, hargs⟩ := exists_arguments source uri (path workDir source)
      have hcloned := h.clones args _ w' (exists?_prepare hprepared)
      obtain ⟨run, w'', hrun⟩ : ∃ run w'', (git.run none
        (arguments source uri (path workDir source))).run w' = (run, w'') := ⟨_, _, rfl⟩
      rw [← hargs, hrun] at hcloned
      rw [runFrom_bindState hrun]
      cases run with
      | missing | failed _ => exact sparesRest_some.mpr hcloned
      | ended code output errors =>
        cases code with
        | zero | succ _ => exact sparesRest_some.mpr hcloned
  · show Yields (fetch (filesAt here) git workDir source) _
    rw [fetch]
    cases source.uri? with
    | none => exact Yields.throw _
    | some uri =>
      refine (Yields.trivial _).bind fun _ _ => (Yields.trivial _).bind fun run _ => ?_
      cases run with
      | missing | failed _ => exact Yields.throw _
      | ended code output errors =>
        cases code with
        | zero => exact Yields.pure (snapshot_along source source.contextDir)
        | succ n => exact Yields.throw _

end Clone

namespace Git

variable {git : Git (StateM (FileTree × σ))}

theorem Tame.ask_along (h : git.Tame here) (dir : String) {args : List String}
    (ha : args.head? ≠ some "clone") :
    Along (SparesRest here workDir source?) (git.ask dir args) := by
  refine Along.bindState ((h.keeps _ args ha).mono fun _ _ hw => hw.sparesRest) fun run => ?_
  cases run with
  | missing => exact Along.pure none
  | failed cause => exact Along.throw _
  | ended code output errors =>
    cases code with
    | zero => exact Along.pure _
    | succ n => exact Along.pure none

theorem Tame.inspect_along (h : git.Tame here) (dir : String) :
    Along (SparesRest here workDir source?) (git.inspect dir) := by
  refine Along.bind (h.ask_along dir (by decide)) fun root? => ?_
  cases root? with
  | none => exact Along.pure none
  | some root =>
    refine Along.bind (h.ask_along dir (by decide)) fun _ => ?_
    exact Along.bind (h.ask_along dir (by decide)) fun _ => Along.pure _

end Git

end DeployPlan
