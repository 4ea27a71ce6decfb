import DeployPlan.Proofs.Source.Beside

/-!
# Fresh clones

The strategy for a remote source is found in a clone, which is made for this purpose and removed
again. `Cloned` says what `git` does when it succeeds: it lays a tree where the path of the clone
leads. Room has been made there, so the clone consists of this tree and nothing else
(`Cloned.vacant`, `Cloned.get?_append`), and the strategy is the one that it calls for
(`Cloned.runFrom_strategyFor`). However the run ends, what is left is what was there when room had
been made (`Cloned.same_erase`), and nothing of it depends on an older clone (`Cloned.same`).
`fresh_and_gone` puts this together.
-/

namespace DeployPlan

variable {σ : Type}

/-! ## Clones -/

theorem Source.exists_uri {source : Source} (h : source.localRoot? = none) :
    source.buildRoot? = none ∧ ∃ uri, source.uri? = some uri := by
  refine ⟨by rw [buildRoot?, h, Option.map_none], ?_⟩
  cases hl : source.location with
  | url address => exact ⟨address, by rw [uri?, hl]⟩
  | directory path =>
    rw [localRoot?, hl] at h
    cases h

namespace Clone

/-- The directory of a clone that a source is built from. -/
def root (workDir : String) (source : Source) : String :=
  source.contextDir.elim (path workDir source) (Path.join (path workDir source))

/-- The place of the context directory in the tree of a source. -/
def contextPlace (source : Source) : Place :=
  (Path.wayOf source.contextDir).map String.ofList

/-- The strategy for a source in a world with a tree of files, without a word of the caller. -/
def strategyFor (here : Place) (git : Git (StateM (FileTree × σ))) (workDir : String)
    (resolver : Resolver (StateM σ)) (ds : List Detector) (source : Source)
    (options : StrategyOptions) : ExceptT Error (StateM (FileTree × σ)) Strategy :=
  Strategy.select (filesAt here) resolver.besideTree (.ofGit (filesAt here) git workDir) ds source
    none options

/-- The way to the directory that a source is built from. -/
theorem way_root (workDir : String) {source : Source}
    (hc : ∀ dir ∈ source.contextDir, Path.isAbsolute dir = false) :
    Path.way (root workDir source) =
        Path.way (path workDir source) ++ Path.wayOf source.contextDir ∧
      Path.isAbsolute (root workDir source) = Path.isAbsolute (path workDir source) := by
  rw [root, Path.wayOf]
  cases hdir : source.contextDir with
  | none => exact ⟨(List.append_nil _).symm, rfl⟩
  | some dir =>
    have hrelative := hc dir hdir
    exact ⟨Path.way_join hrelative, Path.isAbsolute_join hrelative⟩

/-- A clone is made: from `w`, a tree without gaps and what is around it, room is made for the clone
in `w₁`. From there `git` succeeds in `w₂`, having laid the tree `repo` where the path of the clone
leads, which is no link, and changed nothing else. -/
structure Cloned (here : Place) (git : Git (StateM (FileTree × σ))) (workDir : String)
    (source : Source) (repo : FileTree) (p : Place) (w w₁ w₂ : FileTree × σ) : Prop where
  grounded : w.1.Grounded
  prepared : runFrom (prepare (filesAt here) workDir (path workDir source)) w = (.ok (), w₁)
  ended : ∀ uri ∈ source.uri?, ∃ output errors,
    (git.run none (arguments source uri (path workDir source))).run w₁ =
      (.ended 0 output errors, w₂)
  leads : ∃ goal, w₁.1.walk here false (path workDir source) = .ok goal ∧ goal.place = p
  no_link : ∀ target, w₁.1.get? p ≠ some (.link target)
  laid : w₁.1.Lays p repo w₂.1

section

variable {here : Place} {git : Git (StateM (FileTree × σ))} {workDir : String} {source : Source}
  {repo : FileTree} {p p' : Place} {w w₁ w₂ v v₁ v₂ : FileTree × σ}

namespace Cloned

variable (h : Cloned here git workDir source repo p w w₁ w₂)

include h

/-- Nothing, not even a link, is where the clone will be. -/
theorem vacant : w₁.1.walk here false (path workDir source) = .ok (.vacant p) := by
  have hn := Digest.isEntryName_md5 source.toString
  obtain ⟨goal, hw, rfl⟩ := h.leads
  rw [hw, FileTree.eq_vacant_of_exists? (getLast?_namesOf_path workDir source) hn.ne_here
    hn.ne_parent hw (exists?_prepare h.prepared) h.no_link, FileTree.Goal.place]

theorem get?_eq_none : w₁.1.get? p = none :=
  (FileTree.walkFrom_vacant (FileTree.walkFrom_of_walk h.vacant)).2

theorem grounded_prepared : w₁.1.Grounded := by
  obtain ⟨-, made, hmade, hclears⟩ := exists_of_prepare h.prepared
  exact hclears.grounded (h.grounded.createDirectories hmade)

theorem found : w₂.1.walk here false (path workDir source) = .ok (.found p) :=
  h.laid.walk h.grounded_prepared h.vacant

/-- What has been cloned is all that is there. -/
theorem get?_append (q : Place) : w₂.1.get? (p ++ q) = repo.get? q :=
  h.laid.get?_append h.grounded_prepared h.get?_eq_none q

theorem get?_eq_directory : w₂.1.get? p = some .directory := by
  have hroot := h.get?_append []
  rwa [List.append_nil] at hroot

theorem removeTree : w₂.1.removeTree here (path workDir source) = .ok (w₂.1.erase p) := by
  rw [FileTree.removeTree, h.found]
  simp only [bind, Except.bind, h.get?_eq_directory]

/-- Removing the clone leaves the tree that had room for it. -/
theorem same_erase : w₁.1.Same (w₂.1.erase p) :=
  h.laid.erase h.grounded_prepared h.get?_eq_none

theorem runFrom_fetch {uri : String} (hu : source.uri? = some uri) :
    runFrom (fetch (filesAt here) git workDir source) w =
      (.ok (snapshot (filesAt here) (path workDir source) source.contextDir), w₂) := by
  obtain ⟨output, errors, hrun⟩ := h.ended uri hu
  rw [fetch]
  simp only [hu]
  rw [runFrom_bind_of_eq h.prepared, runFrom_bindState hrun]
  rfl

/-- The strategy for a source is chosen in its clone, which is removed however that ends. -/
theorem runFrom_ofSource (hs : source.localRoot? = none) (resolver : Resolver (StateM σ))
    (ds : List Detector) {chosen : Except Error Strategy} {s : σ}
    (hr : runFrom (Strategy.ofSnapshot resolver ds source
      (.ofDirectory (filesOf here w₂.1) (root workDir source))) w₂.2 = (chosen, s)) :
    runFrom (Strategy.ofSource (filesAt here) resolver.besideTree
      (Fetcher.ofGit (filesAt here) git workDir) ds source) w = (chosen, w₂.1.erase p, s) := by
  obtain ⟨hbuild, uri, hu⟩ := Source.exists_uri hs
  have hseen : Snapshot.Beside (σ := σ) w₂.1
      (snapshot (filesAt here) (path workDir source) source.contextDir)
      (.ofDirectory (filesOf here w₂.1) (root workDir source)) := by
    rw [snapshot, root]
    exact (Snapshot.ofDirectory_beside here w₂.1 _).withRelease _
  have hchosen : (Strategy.ofSnapshot resolver.besideTree ds source
      (snapshot (filesAt here) (path workDir source) source.contextDir)).run.run w₂ =
        (chosen, w₂.1, s) := by
    have hbeside := Strategy.ofSnapshot_beside hseen resolver ds source w₂.2
    have hplain : (Strategy.ofSnapshot resolver ds source
        (.ofDirectory (filesOf here w₂.1) (root workDir source))).run.run w₂.2 = (chosen, s) := hr
    rwa [hplain] at hbeside
  have hreleased : (snapshot (filesAt here) (path workDir source) source.contextDir).release.run
      (w₂.1, s) = ((), w₂.1.erase p, s) := by
    have hremoved : ((filesAt here).removeTree (path workDir source)).run (w₂.1, s) =
        (.ok (), w₂.1.erase p, s) := by
      rw [filesAt_removeTree]
      exact run_change_of_ok h.removeTree
    exact run_bind_of_run _ hremoved
  rw [Strategy.ofSource, Strategy.snapshotOf, hbuild]
  show runFrom (fetch (filesAt here) git workDir source >>= _) w = _
  rw [runFrom_bind_of_eq (h.runFrom_fetch hu)]
  exact (run_bind_of_run _ hchosen).trans (run_bind_of_run _ hreleased)

/-- The strategy is the one that the clone calls for. -/
theorem runFrom_strategyFor (hs : source.localRoot? = none) (resolver : Resolver (StateM σ))
    (ds : List Detector) (options : StrategyOptions) {result : Except Error Strategy} {s : σ}
    (hr : runFrom (Strategy.inTree here w₂.1 resolver ds source (root workDir source) options) w₂.2 =
      (result, s)) :
    runFrom (strategyFor here git workDir resolver ds source options) w =
      (result, w₂.1.erase p, s) := by
  obtain ⟨chosen, s', hchosen⟩ : ∃ chosen s', runFrom (Strategy.ofSnapshot resolver ds source
      (.ofDirectory (filesOf here w₂.1) (root workDir source))) w₂.2 = (chosen, s') := ⟨_, _, rfl⟩
  have hplain := runFrom_map hchosen fun strategy => { strategy with options }
  have hrun := runFrom_map (h.runFrom_ofSource hs resolver ds hchosen)
    fun strategy => { strategy with options }
  rw [Strategy.inTree, hplain] at hr
  obtain ⟨rfl, rfl⟩ := Prod.mk.inj hr
  exact hrun

theorem locate : w₂.1.locate here (path workDir source) = .ok p := by
  have hn := Digest.isEntryName_md5 source.toString
  obtain ⟨e, he, hfollow⟩ := FileTree.walkFrom_follow (getLast?_namesOf_path workDir source)
    hn.ne_here hn.ne_parent (FileTree.walkFrom_of_walk h.found)
  rw [h.get?_eq_directory] at he
  cases he
  rw [FileTree.locate_eq_ok_iff, FileTree.walk_eq_walkFrom h.found, hfollow nofun]

/-- From the clone, a walk along a path in it goes on through the context directory. -/
theorem walk_root (hc : ∀ dir ∈ source.contextDir, Path.isAbsolute dir = false)
    (hd : repo.Reachable (contextPlace source)) {name : String} (hn : IsEntryName name)
    (hw : FileTree.Walkable (Path.join (root workDir source) name)) :
    ∃ links, w₂.1.walk here true (Path.join (root workDir source) name) =
      w₂.1.walkFrom true links (p ++ contextPlace source) [name] := by
  have hclone : w₂.1.walkFrom true FileTree.maxLinks
      (if Path.isAbsolute (path workDir source) then [] else here)
      ((Path.way (path workDir source)).map String.ofList) = .ok (.found p) := by
    have hdigest := Digest.isEntryName_md5 source.toString
    have hlocated := FileTree.locate_eq_ok_iff.mp h.locate
    have hwalkable := FileTree.Walkable.of_walk hlocated
    rw [path, FileTree.walk_join w₂.1 here true hdigest.toIsSegment hwalkable.no_nul
      hwalkable.fits] at hlocated
    rw [path, Path.isAbsolute_join hdigest.isAbsolute_eq, Path.way_join hdigest.isAbsolute_eq,
      hdigest.way_eq, List.map_append, List.map_singleton, String.ofList_toList, hlocated]
  obtain ⟨links, hrest⟩ := FileTree.walkFrom_append hclone
  have hthrough : w₂.1.walkFrom true links p (contextPlace source ++ [name]) =
      w₂.1.walkFrom true links (p ++ contextPlace source) [name] :=
    FileTree.walkFrom_through true links [name] hd.legal hd.names_fit
      fun q hq => by rw [h.get?_append, hd.directories q hq]
  refine ⟨links, ?_⟩
  obtain ⟨hway, hstart⟩ := way_root workDir hc
  rw [FileTree.walk_join w₂.1 here true hn.toIsSegment hw.no_nul hw.fits, hway, hstart,
    List.map_append, List.append_assoc, hrest true _ (by simp)]
  exact hthrough

/-- What is in the context directory is found there as it has been cloned. -/
theorem entryAt_root (hc : ∀ dir ∈ source.contextDir, Path.isAbsolute dir = false)
    (hd : repo.Reachable (contextPlace source)) {name : String} (hn : IsEntryName name)
    (hfit : name.utf8ByteSize ≤ FileTree.maxName)
    (hw : FileTree.Walkable (Path.join (root workDir source) name))
    (hlink : ∀ target, repo.get? (contextPlace source ++ [name]) ≠ some (.link target)) :
    w₂.1.entryAt here (Path.join (root workDir source) name) =
      (repo.get? (contextPlace source ++ [name])).elim (.error .notFound) .ok := by
  obtain ⟨links, hwalk⟩ := h.walk_root hc hd hn hw
  have hdirectory : w₂.1.get? (p ++ contextPlace source) = some .directory := by
    rw [h.get?_append, hd.directories _ List.prefix_rfl]
  have hthere : w₂.1.get? (p ++ contextPlace source ++ [name]) =
      repo.get? (contextPlace source ++ [name]) := by
    rw [List.append_assoc, h.get?_append]
  have hshort : ¬name.utf8ByteSize > FileTree.maxName := Nat.not_lt.mpr hfit
  cases he : repo.get? (contextPlace source ++ [name]) with
  | none =>
    have hnothing : FileTree.FindsNothing w₂.1 true links (p ++ contextPlace source) [name] :=
      .of_there [] hdirectory hn.ne_here hn.ne_parent hshort (hthere.trans he)
    exact hnothing.entryAt hwalk
  | some e =>
    rw [FileTree.walkFrom_into [] hdirectory hn.ne_here hn.ne_parent hshort (hthere.trans he)
      fun target htarget => hlink target (htarget ▸ he), FileTree.walkFrom] at hwalk
    exact FileTree.entryAt_eq_ok_iff.mpr
      ⟨_, FileTree.locate_eq_ok_iff.mpr hwalk, hthere.trans he⟩

end Cloned

end

/-! ## What a run sees and leaves -/

/-- What is seen of a tree `repo` that has been cloned to a place, and what is left of the files in
`t` afterwards. -/
structure Fresh (here : Place) (workDir : String) (source : Source) (repo : FileTree) (p : Place)
    (t cloned left : FileTree) : Prop where
  /-- The path of the clone leads to what has been cloned, and nothing else is there. -/
  found : cloned.locate here (path workDir source) = .ok p
  all : ∀ q, cloned.get? (p ++ q) = repo.get? q
  /-- What is in the context directory is found there as it has been cloned. -/
  seen : (∀ dir ∈ source.contextDir, Path.isAbsolute dir = false) →
    repo.Reachable (contextPlace source) → ∀ name, IsEntryName name →
    name.utf8ByteSize ≤ FileTree.maxName →
    FileTree.Walkable (Path.join (root workDir source) name) →
    (∀ target, repo.get? (contextPlace source ++ [name]) ≠ some (.link target)) →
    cloned.entryAt here (Path.join (root workDir source) name) =
      (repo.get? (contextPlace source ++ [name])).elim (.error .notFound) .ok
  /-- Nothing is left of the clone. -/
  gone : left.exists? here (path workDir source) = .ok false
  nothing : ∀ q, left.get? (p ++ q) = none
  /-- All that is left is what was there, with the work directory. -/
  rest : ∃ made, t.createDirectories here (Path.segments workDir).length workDir = .ok made ∧
    FileTree.Spares (fun _ => False) t made ∧ ∀ q, ¬p <+: q → left.get? q = made.get? q

section

variable {here : Place} {git : Git (StateM (FileTree × σ))} {workDir : String} {source : Source}
  {repo : FileTree} {p p' : Place} {w w₁ w₂ v v₁ v₂ : FileTree × σ}

theorem Cloned.fresh (h : Cloned here git workDir source repo p w w₁ w₂) :
    Fresh here workDir source repo p w.1 w₂.1 (w₂.1.erase p) where
  found := h.locate
  all := h.get?_append
  seen hc hd name hn := h.entryAt_root hc hd hn
  gone := by
    rw [FileTree.exists?_congr h.same_erase]
    exact exists?_prepare h.prepared
  nothing q := by
    rw [h.same_erase]
    exact h.grounded_prepared.get?_append_of_none h.get?_eq_none q
  rest := by
    obtain ⟨-, made, hmade, hclears⟩ := exists_of_prepare h.prepared
    refine ⟨made, hmade, FileTree.createDirectories_spares hmade, fun q hq => ?_⟩
    rw [h.same_erase]
    exact hclears.get?_of_outside h.vacant hq

/-- It does not matter what was there before the clone. -/
theorem Cloned.same (h : Cloned here git workDir source repo p w w₁ w₂)
    (h' : Cloned here git workDir source repo p' v v₁ v₂)
    (hv : FileTree.SameApart here (path workDir source) w.1 v.1) : p' = p ∧ w₂.1.Same v₂.1 := by
  obtain ⟨-, made, hmade, hclears⟩ := exists_of_prepare h.prepared
  obtain ⟨-, made', hmade', hclears'⟩ := exists_of_prepare h'.prepared
  obtain ⟨rfl, hsame⟩ := FileTree.Clears.same (Digest.isEntryName_md5 _) h.grounded hv hmade hmade'
    hclears hclears' h.vacant h'.vacant h'.grounded
  refine ⟨rfl, fun q => ?_⟩
  by_cases hq : p' <+: q
  · obtain ⟨below, rfl⟩ := hq
    rw [h.get?_append, h'.get?_append]
  · rw [h.laid.rest q hq, h'.laid.rest q hq, hsame q]

/-- A run in which `git` complains ends with the complaint, and nothing is done after it. -/
theorem runFrom_select_of_complaint {files : Files (StateM σ)} {git : Git (StateM σ)}
    (hs : source.localRoot? = none) {uri : String} (hu : source.uri? = some uri)
    (resolver : Resolver (StateM σ)) (ds : List Detector) (options : StrategyOptions)
    {w w₁ w₂ : σ} (hp : runFrom (prepare files workDir (path workDir source)) w = (.ok (), w₁))
    {code : Nat} {output errors : String}
    (hr : (git.run none (arguments source uri (path workDir source))).run w₁ =
      (.ended code output errors, w₂)) (hcode : code ≠ 0) :
    runFrom (Strategy.select files resolver (.ofGit files git workDir) ds source none options) w =
      (.error (.sourceDetection
        ("cloning " ++ uri ++ ": " ++ String.ofList (Text.trim errors.toList))), w₂) := by
  have hfetch : runFrom (fetch files git workDir source) w = (.error (.sourceDetection
      ("cloning " ++ uri ++ ": " ++ String.ofList (Text.trim errors.toList))), w₂) := by
    rw [fetch]
    simp only [hu]
    rw [runFrom_bind_of_eq hp, runFrom_bindState hr]
    cases code with
    | zero => exact absurd rfl hcode
    | succ n => rfl
  rw [Strategy.select, Strategy.ofSource, Strategy.snapshotOf, (Source.exists_uri hs).1]
  exact runFrom_bind_of_error (runFrom_bind_of_error hfetch)

end

/-- The strategy for a remote source is found in a fresh clone: it is what the tree that `git` has
laid there calls for, whatever was there before. However the run ends, nothing is left of the clone,
and all else is as it was, with the work directory. If `git` complains, nothing is looked at. -/
theorem fresh_and_gone {source : Source} (hs : source.localRoot? = none) (here : Place)
    (workDir : String) :
    (∀ {σ : Type} (git : Git (StateM (FileTree × σ))) (resolver : Resolver (StateM σ))
      (ds : List Detector) (options : StrategyOptions) (repo : FileTree) (p : Place)
      (w w₁ w₂ : FileTree × σ), Cloned here git workDir source repo p w w₁ w₂ →
      ∀ result s, runFrom (Strategy.inTree here w₂.1 resolver ds source (root workDir source)
        options) w₂.2 = (result, s) →
      ∃ left, runFrom (strategyFor here git workDir resolver ds source options) w =
          (result, left, s) ∧ Fresh here workDir source repo p w.1 w₂.1 left) ∧
    (∀ {σ : Type} (git : Git (StateM (FileTree × σ))) (resolver : Resolver (StateM σ))
      (ds : List Detector) (options : StrategyOptions) (repo : FileTree) (p p' : Place)
      (w w₁ w₂ v v₁ v₂ : FileTree × σ), Cloned here git workDir source repo p w w₁ w₂ →
      Cloned here git workDir source repo p' v v₁ v₂ →
      FileTree.SameApart here (path workDir source) w.1 v.1 → v₂.2 = w₂.2 →
      ∃ result left left' s,
        runFrom (strategyFor here git workDir resolver ds source options) w = (result, left, s) ∧
        runFrom (strategyFor here git workDir resolver ds source options) v = (result, left', s) ∧
        left.Same left') ∧
    ∀ {σ : Type} (files : Files (StateM σ)) (git : Git (StateM σ)) (resolver : Resolver (StateM σ))
      (ds : List Detector) (options : StrategyOptions) (w w₁ w₂ : σ) (uri : String) (code : Nat)
      (output errors : String), source.uri? = some uri →
      runFrom (prepare files workDir (path workDir source)) w = (.ok (), w₁) →
      (git.run none (arguments source uri (path workDir source))).run w₁ =
        (.ended code output errors, w₂) → code ≠ 0 →
      runFrom (Strategy.select files resolver (.ofGit files git workDir) ds source none options) w =
        (.error (.sourceDetection
          ("cloning " ++ uri ++ ": " ++ String.ofList (Text.trim errors.toList))), w₂) := by
  refine ⟨?_, ?_, ?_⟩
  · intro σ git resolver ds options repo p w w₁ w₂ h result s hr
    exact ⟨_, h.runFrom_strategyFor hs resolver ds options hr, h.fresh⟩
  · intro σ git resolver ds options repo p p' w w₁ w₂ v v₁ v₂ h h' hv hstate
    obtain ⟨rfl, hsame⟩ := h.same h' hv
    obtain ⟨result, s, hr⟩ : ∃ result s, runFrom (Strategy.inTree here w₂.1 resolver ds source
      (root workDir source) options) w₂.2 = (result, s) := ⟨_, _, rfl⟩
    have hr' := hr
    rw [← Strategy.inTree_congr hsame, ← hstate] at hr'
    exact ⟨result, _, _, s, h.runFrom_strategyFor hs resolver ds options hr,
      h'.runFrom_strategyFor hs resolver ds options hr', hsame.erase p'⟩
  · intro σ files git resolver ds options w w₁ w₂ uri code output errors hu hp hr hcode
    exact runFrom_select_of_complaint hs hu resolver ds options hp hr hcode

/-! ## A clone in place of an old one -/

def app : Source where
  name := "app"
  location := .url "git@h:app"

def appPlace : Place := ["work", "b5534b427cb2c66197d259095019d1ad"]

/-- A tree with a directory `/work`. -/
def workTree : FileTree :=
  FileTree.put ⟨[]⟩ ["work"] .directory

/-- A tree in which a clone has been left. -/
def oldTree : FileTree :=
  (workTree.put appPlace .directory).put (appPlace ++ ["Gemfile"]) (.file "old".toUTF8)

/-- What is in the repository now. -/
def appTree : FileTree :=
  ⟨[(["Dockerfile"], .file "FROM base".toUTF8)]⟩

/-- A program that lays this tree over the place of the clone. -/
def appGit : Git (StateM (FileTree × σ)) where
  run _ _ := fun (t, s) =>
    (.ended 0 "" "", (t.put appPlace .directory).put (appPlace ++ ["Dockerfile"])
      (.file "FROM base".toUTF8), s)

theorem lays_appTree {t : FileTree} (ht : t.Grounded) (hp : t.get? appPlace = none) :
    t.Lays appPlace appTree ((t.put appPlace .directory).put (appPlace ++ ["Dockerfile"])
      (.file "FROM base".toUTF8)) where
  laid q := by
    rw [FileTree.get?_put (by simp), FileTree.get?_put (by decide),
      ht.get?_append_of_none hp, Option.or_none]
    by_cases hq : q = []
    · simp [hq, FileTree.get?]
    · by_cases hname : ["Dockerfile"] = q
      · simp [← hname, FileTree.get?, appTree, FileTree.find]
      · simp [hq, hname, FileTree.get?, appTree, FileTree.find]
  rest q hq := by
    rw [FileTree.get?_put (by simp), if_neg, FileTree.get?_put (by decide), if_neg]
    · rintro rfl
      exact hq List.prefix_rfl
    · rintro rfl
      exact hq (List.prefix_append _ _)

theorem grounded_workTree : workTree.Grounded :=
  FileTree.grounded_empty.put [] "work" rfl rfl .directory

theorem grounded_oldTree : oldTree.Grounded := by
  have hclone : (workTree.put appPlace .directory).Grounded :=
    grounded_workTree.put ["work"] "b5534b427cb2c66197d259095019d1ad" rfl rfl .directory
  exact hclone.put appPlace "Gemfile" rfl rfl (.file "old".toUTF8)

theorem path_app : path "/work" app = FileTree.pathOf appPlace := by
  decide +kernel

theorem reachable_work {t : FileTree} (hd : t.get? ["work"] = some .directory) :
    t.Reachable ["work"] :=
  (FileTree.Reachable.root t).child (by decide) hd (by decide) (by decide) (by decide)

theorem reachable_appPlace : oldTree.Reachable appPlace :=
  (reachable_work rfl).child (by decide) rfl (by decide) (by decide) (by decide)

/-- In a tree with a work directory, the path of the clone leads through it. -/
theorem walk_app {t : FileTree} (hd : t.get? ["work"] = some .directory) (follow : Bool) :
    t.walk [] follow (path "/work" app) =
      t.walkFrom follow FileTree.maxLinks ["work"] ["b5534b427cb2c66197d259095019d1ad"] := by
  rw [path_app, FileTree.walk_pathOf reachable_appPlace.legal reachable_appPlace.path_fits
    reachable_appPlace.no_nul]
  exact FileTree.walkFrom_into _ rfl (by decide) (by decide) (by decide) hd nofun

theorem walk_app_of_none {t : FileTree} (hd : t.get? ["work"] = some .directory)
    (hn : t.get? appPlace = none) :
    t.walk [] false (path "/work" app) = .ok (.vacant appPlace) ∧
      t.exists? [] (path "/work" app) = .ok false := by
  have hthere : t.get? (["work"] ++ ["b5534b427cb2c66197d259095019d1ad"]) = none := hn
  have hnothing : FileTree.FindsNothing t true FileTree.maxLinks ["work"]
      ["b5534b427cb2c66197d259095019d1ad"] :=
    .of_there [] hd (by decide) (by decide) (by decide) hthere
  constructor
  · rw [walk_app hd, FileTree.walkFrom]
    simp only [hd, hthere]
    rfl
  · rw [FileTree.exists?, hnothing.entryAt (walk_app hd true)]

/-- The program makes a clone wherever there is room for one. -/
theorem cloned_app {w : FileTree × Unit} {t : FileTree} (hw : w.1.Grounded)
    (hp : runFrom (prepare (filesAt []) "/work" (path "/work" app)) w = (.ok (), t, ()))
    (hd : t.get? ["work"] = some .directory) (hn : t.get? appPlace = none) :
    Cloned [] appGit "/work" app appTree appPlace w (t, ())
      ((t.put appPlace .directory).put (appPlace ++ ["Dockerfile"]) (.file "FROM base".toUTF8),
        ()) where
  grounded := hw
  prepared := hp
  ended _ _ := ⟨"", "", rfl⟩
  leads := ⟨_, (walk_app_of_none hd hn).1, rfl⟩
  no_link target := by
    rw [hn]
    exact nofun
  laid := by
    obtain ⟨-, made, hmade, hclears⟩ := exists_of_prepare hp
    exact lays_appTree (hclears.grounded (hw.createDirectories hmade)) hn

theorem pathOf_work : FileTree.pathOf ["work"] = "/work" ∧
    FileTree.withoutSlash (FileTree.pathOf ["work"]) = FileTree.pathOf ["work"] := by
  decide +kernel

theorem prepare_oldTree : runFrom (prepare (filesAt []) "/work" (path "/work" app)) (oldTree, ()) =
    (.ok (), oldTree.erase appPlace, ()) := by
  rw [path_app, ← pathOf_work.1]
  exact runFrom_prepare (reachable_work rfl) pathOf_work.2 reachable_appPlace

/-- Without an old clone there is room for a new one. -/
theorem prepare_workTree :
    runFrom (prepare (filesAt []) "/work" (path "/work" app)) (workTree, ()) =
      (.ok (), workTree, ()) := by
  have hmade : ((filesAt []).createDirectories "/work").run (workTree, ()) =
      (.ok (), workTree, ()) := by
    rw [filesAt_createDirectories, ← pathOf_work.1]
    exact run_change_of_ok ((reachable_work rfl).createDirectories [] pathOf_work.2 _)
  have hthere : ((filesAt []).exists? (path "/work" app)).run (workTree, ()) =
      (.ok false, workTree, ()) := by
    rw [run_exists?, (walk_app_of_none rfl rfl).2]
  rw [prepare, runFrom_bindState hmade, runFrom_bindExcept (rfl : orThrow (.ok ()) = .ok ()),
    runFrom_bindState hthere, runFrom_bindExcept (rfl : orThrow (.ok false) = .ok false),
    if_neg Bool.false_ne_true]
  rfl

theorem sameApart_oldTree : FileTree.SameApart [] (path "/work" app) oldTree workTree := by
  intro q hq
  have hled : oldTree.walk [] false (path "/work" app) = .ok (.found appPlace) := by
    rw [path_app, reachable_appPlace.walk [] false]
  have hout : ¬appPlace <+: q := hq _ hled
  rw [oldTree, FileTree.get?_put (by simp), if_neg, FileTree.get?_put (by decide), if_neg]
  · rintro rfl
    exact hout List.prefix_rfl
  · rintro rfl
    exact hout (List.prefix_append _ _)

/-- Nobody who could be asked for images. -/
def noResolver : Resolver (StateM Unit) where
  name := "none"
  resolve name := throw (.resolution name)

/-- The strategy for a source is that of its build file, even if an old clone has another file. -/
theorem fresh_and_gone_app :
    app.localRoot? = none ∧ ∃ w₁ w₂ v₁ v₂ : FileTree × Unit,
      Cloned [] appGit "/work" app appTree appPlace (oldTree, ()) w₁ w₂ ∧
      Cloned [] appGit "/work" app appTree appPlace (workTree, ()) v₁ v₂ ∧
      FileTree.SameApart [] (path "/work" app) oldTree workTree ∧
      ∃ result left left',
        runFrom (strategyFor [] appGit "/work" noResolver Detector.standard app {}) (oldTree, ()) =
          (result, left, ()) ∧
        runFrom (strategyFor [] appGit "/work" noResolver Detector.standard app {}) (workTree, ()) =
          (result, left', ()) ∧
        left.Same left' ∧ left.exists? [] (path "/work" app) = .ok false := by
  have hcloned := cloned_app grounded_oldTree prepare_oldTree rfl rfl
  have hcloned' := cloned_app grounded_workTree prepare_workTree rfl rfl
  have hlocal : app.localRoot? = none := rfl
  have h := fresh_and_gone hlocal [] "/work"
  obtain ⟨result, left, left', _, hrun, hrun', hsame⟩ := h.2.1 appGit noResolver Detector.standard {}
    appTree _ _ _ _ _ _ _ _ hcloned hcloned' sameApart_oldTree rfl
  obtain ⟨left₁, hrun₁, hfresh⟩ := h.1 appGit noResolver Detector.standard {} appTree _ _ _ _
    hcloned _ _ rfl
  have hleft : left = left₁ := by
    rw [hrun] at hrun₁
    cases hrun₁
    rfl
  exact ⟨hlocal, _, _, _, _, hcloned, hcloned', sameApart_oldTree, result, left, left', hrun, hrun',
    hsame, hleft ▸ hfresh.gone⟩

end Clone

end DeployPlan
