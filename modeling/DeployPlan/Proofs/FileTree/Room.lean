import DeployPlan.Proofs.FileTree.Dots
import DeployPlan.Proofs.FileTree.Vacant

/-!
# Making room

Room is made for something in a directory: the directory is made if it is not there, and what is in
it by the same name is removed. A path to something in a directory tells that the directory is
there, so that it is not made again (`createDirectories_of_walk`). Hence it does not matter what was
there before: trees that differ in what the path leads to hold the same when room has been made
(`Clears.same`).
-/

namespace DeployPlan.FileTree

variable {t t' : FileTree} {here p : Place} {path : String}

/-! ## Directories that are there -/

theorem directory_of_walkFrom {follow : Bool} {links : Nat} {names : List String} {goal : Goal}
    (hn : names ≠ []) (h : t.walkFrom follow links here names = .ok goal) :
    t.get? here = some .directory := by
  by_contra hd
  rw [walkFrom_of_not_directory links hd hn (List.cons_ne_nil "." []), walkFrom] at h
  split at h
  · cases h
  · cases h
  · cases h
  · rename_i hdirectory
    exact hd hdirectory

/-- From what it finds, a walk goes on. -/
theorem walkFrom_append {links : Nat} {front : List String}
    (h : t.walkFrom true links here front = .ok (.found p)) :
    ∃ links', ∀ follow rest, rest ≠ [] →
      t.walkFrom follow links here (front ++ rest) = t.walkFrom follow links' p rest := by
  fun_induction walkFrom t true links here front with
  | case1 links here =>
    cases h
    exact ⟨links, fun _ _ _ => rfl⟩
  | case5 links here rest hd ih =>
    obtain ⟨links', hrest⟩ := ih h
    refine ⟨links', fun follow back hb => ?_⟩
    rw [List.cons_append, walkFrom_here _ hd, hrest follow back hb]
  | case6 links here rest hd hne ih =>
    obtain ⟨links', hrest⟩ := ih h
    refine ⟨links', fun follow back hb => ?_⟩
    rw [List.cons_append, walkFrom_parent _ hd, hrest follow back hb]
  | case12 here name rest hd h1 h2 hsize there target hv hlast links ih =>
    obtain ⟨links', hrest⟩ := ih h
    refine ⟨links', fun follow back hb => ?_⟩
    rw [List.cons_append, walkFrom_link hd h1 h2 hsize hv (by simp [hb]), ← List.append_assoc]
    exact hrest follow back hb
  | case13 links here name rest hd h1 h2 hsize there e hlink hv ih =>
    obtain ⟨links', hrest⟩ := ih h
    refine ⟨links', fun follow back hb => ?_⟩
    rw [List.cons_append, walkFrom_into _ hd h1 h2 hsize hv hlink, hrest follow back hb]
  | case10 _ _ _ _ _ _ _ _ _ _ _ hlast => exact absurd hlast.2 (by simp)
  | case2 | case3 | case4 | case7 | case8 | case9 | case11 => cases h

/-- A walk that goes on finds something on its way. -/
theorem exists_found_of_append {follow : Bool} {links : Nat} {front back : List String}
    {goal : Goal} (hb : back ≠ []) (h : t.walkFrom follow links here (front ++ back) = .ok goal) :
    ∃ d, t.walkFrom true links here front = .ok (.found d) := by
  fun_induction walkFrom t true links here front with
  | case1 links here => exact ⟨here, rfl⟩
  | case5 links here rest hd ih =>
    rw [List.cons_append, walkFrom_here _ hd] at h
    exact ih h
  | case6 links here rest hd hne ih =>
    rw [List.cons_append, walkFrom_parent _ hd] at h
    exact ih h
  | case8 links here name hd h1 h2 hsize there hv
  | case9 links here name rest hd h1 h2 hsize there hv _ =>
    have hnone : t.get? (here ++ [name]) = none := hv
    rw [List.cons_append, walkFrom] at h
    simp only [hd, if_neg h1, if_neg h2, if_neg hsize, hnone] at h
    rw [if_neg (List.append_ne_nil_of_right_ne_nil _ hb)] at h
    cases h
  | case11 here name rest hd h1 h2 hsize there target hv hlast =>
    have hthere : t.get? (here ++ [name]) = some (.link target) := hv
    have hgoes : ¬(rest ++ back = [] ∧ (!follow) = true) := by simp [hb]
    rw [List.cons_append, walkFrom] at h
    simp only [hd, if_neg h1, if_neg h2, if_neg hsize, hthere, if_neg hgoes] at h
    cases h
  | case12 here name rest hd h1 h2 hsize there target hv hlast links ih =>
    rw [List.cons_append, walkFrom_link hd h1 h2 hsize hv (by simp [hb]), ← List.append_assoc] at h
    exact ih h
  | case13 links here name rest hd h1 h2 hsize there e hlink hv ih =>
    rw [List.cons_append, walkFrom_into _ hd h1 h2 hsize hv hlink] at h
    exact ih h
  | case10 _ _ _ _ _ _ _ _ _ _ _ hlast => exact absurd hlast.2 (by simp)
  | case2 | case3 | case4 | case7 =>
    rw [List.cons_append, walkFrom] at h
    simp_all

/-- A walk that finds something finds something if the last link is not followed, too. -/
theorem exists_walkFrom_found {links : Nat} {names : List String}
    (h : t.walkFrom true links here names = .ok (.found p)) :
    ∃ q, t.walkFrom false links here names = .ok (.found q) := by
  fun_induction walkFrom t true links here names with
  | case1 links here =>
    rw [walkFrom]
    exact ⟨here, rfl⟩
  | case5 links here rest hd ih =>
    rw [walkFrom_here rest hd]
    exact ih h
  | case6 links here rest hd hne ih =>
    rw [walkFrom_parent rest hd]
    exact ih h
  | case12 here name rest hd h1 h2 hsize there target hv hlast links ih =>
    by_cases hr : rest = []
    · have hthere : t.get? (here ++ [name]) = some (.link target) := hv
      rw [walkFrom]
      simp only [hd, if_neg h1, if_neg h2, if_neg hsize, hthere, hr]
      exact ⟨here ++ [name], rfl⟩
    · rw [walkFrom_link hd h1 h2 hsize hv fun hc => hr hc.1]
      exact ih h
  | case13 links here name rest hd h1 h2 hsize there e hlink hv ih =>
    rw [walkFrom_into rest hd h1 h2 hsize hv hlink]
    exact ih h
  | case10 _ _ _ _ _ _ _ _ _ _ _ hlast => exact absurd hlast.2 (by simp)
  | case2 | case3 | case4 | case7 | case8 | case9 | case11 => cases h

theorem Walkable.left {front back : String} (h : Walkable (front ++ back)) (hne : front ≠ "") :
    Walkable front where
  ne_empty := hne
  no_nul hmem := h.no_nul (by simp [hmem])
  fits := by
    have hfits := h.fits
    rw [String.utf8ByteSize_append] at hfits
    omega

/-- Without the slashes at its end, a path goes through the same segments and no dot at the end. -/
theorem withoutSlash_spec {path : String} (hne : path ≠ "") :
    (∃ back, path = withoutSlash path ++ back) ∧ withoutSlash path ≠ "" ∧
      namesOf (withoutSlash path) = (Path.segments path).map String.ofList := by
  obtain ⟨back, -, hback⟩ := Text.exists_append_trimEndWhere (· == '/') path.toList
  have hsegments := Path.segmentsIn_trimEnd path.toList
  rw [withoutSlash]
  split
  · rename_i hnil
    have hnone : Path.segments path = [] := by
      rw [hnil] at hsegments
      exact hsegments.symm
    refine ⟨⟨"", by simp⟩, hne, ?_⟩
    rw [namesOf, hnone]
    rfl
  · rename_i hcons
    have hlast : (Text.trimEndWhere (· == '/') path.toList).getLast? ≠ some '/' := by
      intro hslash
      have hno := Text.eq_false_of_mem_getLast?_trimEndWhere hslash
      simp at hno
    refine ⟨⟨String.ofList back, ?_⟩, ?_, ?_⟩
    · rw [← String.toList_inj, String.toList_append, String.toList_ofList, String.toList_ofList,
        hback]
    · intro hempty
      rw [← String.toList_inj, String.toList_ofList] at hempty
      exact hcons hempty
    · rw [namesOf, if_neg, Path.segments_eq, String.toList_ofList, hsegments, Path.segments_eq]
      rw [String.toList_ofList]
      exact fun h => hlast h.2

/-- The segments of the path lead to a directory. -/
structure LeadsTo (t : FileTree) (here : Place) (path : String) (d : Place) : Prop where
  walkable : Walkable path
  found : t.walkFrom true maxLinks (if Path.isAbsolute path then [] else here)
    ((Path.segments path).map String.ofList) = .ok (.found d)
  directory : t.get? d = some .directory

/-- A path to something in a directory leads to that directory first. -/
theorem LeadsTo.of_walk_join {dirs name : String} {goal : Goal} (hn : IsEntryName name)
    (hne : dirs ≠ "") (h : t.walk here false (Path.join dirs name) = .ok goal) :
    ∃ d, t.LeadsTo here dirs d := by
  obtain ⟨back, hback⟩ : ∃ back, Path.join dirs name = dirs ++ back := by
    rw [Path.join, hn.isAbsolute_eq, if_neg Bool.false_ne_true]
    split
    · exact ⟨name, rfl⟩
    · exact ⟨"/" ++ name, String.append_assoc⟩
  have hfrom := walkFrom_of_walk h
  rw [namesOf_join dirs hn.toIsSegment, Path.isAbsolute_join hn.isAbsolute_eq] at hfrom
  obtain ⟨d, hfound⟩ := exists_found_of_append (List.cons_ne_nil _ _) hfrom
  obtain ⟨links, hrest⟩ := walkFrom_append hfound
  rw [hrest false [name] (List.cons_ne_nil _ _)] at hfrom
  exact ⟨d, Walkable.left (hback ▸ Walkable.of_walk h) hne, hfound,
    directory_of_walkFrom (List.cons_ne_nil _ _) hfrom⟩

theorem LeadsTo.isDirectory {d : Place} (h : t.LeadsTo here path d) :
    t.isDirectory here path = .ok true := by
  obtain ⟨links, hrest⟩ := walkFrom_append h.found
  have hfound : t.walk here true path = .ok (.found d) := by
    have hnames : namesOf path = (Path.segments path).map String.ofList ∨
        namesOf path = (Path.segments path).map String.ofList ++ ["."] := by
      rw [namesOf]
      split
      · exact .inr rfl
      · exact .inl rfl
    rw [h.walkable.walk]
    rcases hnames with hnames | hnames
    · rw [hnames, h.found]
    · rw [hnames, hrest true ["."] (List.cons_ne_nil _ _), walkFrom_here [] h.directory, walkFrom]
  have hentry : t.entryAt here path = .ok .directory :=
    entryAt_eq_ok_iff.mpr ⟨d, locate_eq_ok_iff.mpr hfound, h.directory⟩
  rw [FileTree.isDirectory, hentry]
  rfl

theorem LeadsTo.createDirectory {d : Place} (h : t.LeadsTo here path d) :
    t.createDirectory here path = .error .exists := by
  obtain ⟨⟨tail, htail⟩, hshort, hnames⟩ := withoutSlash_spec h.walkable.ne_empty
  have hstart : Path.isAbsolute (withoutSlash path) = Path.isAbsolute path := by
    conv_rhs => rw [htail]
    exact (Path.isAbsolute_append hshort tail).symm
  obtain ⟨q, hq⟩ := exists_walkFrom_found h.found
  have hthere : t.walk here false (withoutSlash path) = .ok (.found q) := by
    rw [Walkable.walk (Walkable.left (htail ▸ h.walkable) hshort), hnames, hstart, hq]
  rw [FileTree.createDirectory, hthere]
  rfl

/-- Directories that a path goes through to its end are there, and not made again. -/
theorem createDirectories_of_walk {dirs name : String} {goal : Goal} (hn : IsEntryName name)
    (h : t.walk here false (Path.join dirs name) = .ok goal) (depth : Nat) :
    t.createDirectories here depth dirs = .ok t := by
  rw [FileTree.createDirectories.eq_def]
  by_cases hne : dirs = ""
  · rw [if_pos hne]
  · obtain ⟨d, hleads⟩ := LeadsTo.of_walk_join hn hne h
    rw [if_neg hne, hleads.createDirectory]
    show createDirectories.keepDirectory here dirs t (.error .exists) = .ok t
    rw [createDirectories.keepDirectory, hleads.isDirectory]
    rfl

/-! ## What is removed -/

/-- What the path leads to is removed from a tree, if anything. -/
def Clears (here : Place) (path : String) (t t' : FileTree) : Prop :=
  t.exists? here path = .ok false ∧ t' = t ∨ t.removeTree here path = .ok t'

/-- The trees hold the same but for what the path leads to. -/
def SameApart (here : Place) (path : String) (t t' : FileTree) : Prop :=
  ∀ q, (∀ goal, t.walk here false path = .ok goal → ¬goal.place <+: q) → t'.get? q = t.get? q

namespace Clears

variable (h : Clears here path t t')

include h

theorem grounded (ht : t.Grounded) : t'.Grounded := by
  rcases h with ⟨-, rfl⟩ | hremoved
  · exact ht
  · obtain ⟨p, -, rfl⟩ := removeTree_eq_ok hremoved
    exact ht.erase p

theorem exists? {name : String} (hl : (namesOf path).getLast? = some name) (hh : name ≠ ".")
    (hp : name ≠ "..") : t'.exists? here path = .ok false := by
  rcases h with ⟨hnothing, rfl⟩ | hremoved
  · exact hnothing
  · exact exists?_removeTree hl hh hp hremoved

theorem get?_eq_some {q : Place} {e : Entry} (he : t'.get? q = some e) : t.get? q = some e := by
  rcases h with ⟨-, rfl⟩ | hremoved
  · exact he
  · obtain ⟨p, -, rfl⟩ := removeTree_eq_ok hremoved
    rcases get?_erase_or t p q with hgone | hkept
    · rw [hgone] at he
      cases he
    · rw [← hkept, he]

variable (hw : t'.walk here false path = .ok (.vacant p))

include hw

/-- The path led to the place where it leads now. -/
theorem walk : t.walk here false path = .ok (t.goalAt p) :=
  walk_of_vacant (fun _ _ => h.get?_eq_some) hw

theorem get?_of_outside {q : Place} (hq : ¬p <+: q) : t'.get? q = t.get? q := by
  rcases h with ⟨-, rfl⟩ | hremoved
  · rfl
  · have hled := walk (.inr hremoved) hw
    obtain ⟨p', hfound, rfl⟩ := removeTree_eq_ok hremoved
    have hplace : p' = p := by
      have hgoal : Goal.found p' = t.goalAt p := Except.ok.inj (hfound.symm.trans hled)
      rw [← place_goalAt t p, ← hgoal, Goal.place]
    by_cases hroot : q = []
    · rw [hroot]
      rfl
    · rw [get?_erase hroot, if_neg]
      rwa [hplace, List.isPrefixOf_iff_prefix]

end Clears

section

variable {u u' made made' : FileTree} {p' : Place} {dirs name : String} {depth : Nat}
  (hn : IsEntryName name) (ht : u.Grounded) (hu : SameApart here (Path.join dirs name) u u')
  (hm : u.createDirectories here depth dirs = .ok made)
  (hm' : u'.createDirectories here depth dirs = .ok made')
  (h : Clears here (Path.join dirs name) made t) (h' : Clears here (Path.join dirs name) made' t')
  (hw : t.walk here false (Path.join dirs name) = .ok (.vacant p))
  (hw' : t'.walk here false (Path.join dirs name) = .ok (.vacant p'))

include hu hm hm' h h' hw hw'

include hn ht in
/-- If the path leads anywhere, it leads there in both trees, and no directory is made in them. -/
theorem Clears.outside_of_walk {goal : Goal}
    (hled : u.walk here false (Path.join dirs name) = .ok goal) :
    p' = p ∧ ∀ q, ¬p <+: q → made'.get? q = made.get? q := by
  have hsame : made = u := by
    rw [createDirectories_of_walk hn hled] at hm
    exact (Except.ok.inj hm).symm
  subst hsame
  have hgoal : goal = made.goalAt p := Except.ok.inj (hled.symm.trans (h.walk hw))
  have houtside : ∀ q, ¬p <+: q → u'.get? q = made.get? q := by
    intro q hq
    refine hu q fun goal' hgoal' => ?_
    rw [Except.ok.inj (hgoal'.symm.trans hled), hgoal, place_goalAt]
    exact hq
  have hgone := (h.grounded ht).get?_append_of_none (walkFrom_vacant (walkFrom_of_walk hw)).2
  have hkept : ∀ q e, t.get? q = some e → u'.get? q = some e := by
    intro q e he
    rw [houtside q ?_, h.get?_eq_some he]
    rintro ⟨below, rfl⟩
    rw [hgone below] at he
    cases he
  have hled' := walk_of_vacant hkept hw
  have hsame' : made' = u' := by
    rw [createDirectories_of_walk hn hled'] at hm'
    exact (Except.ok.inj hm').symm
  subst hsame'
  have hplace : made'.goalAt p = made'.goalAt p' :=
    Except.ok.inj (hled'.symm.trans (h'.walk hw'))
  refine ⟨?_, houtside⟩
  rw [← place_goalAt made' p, hplace, place_goalAt]

theorem Clears.outside_of_error (hled : ∀ goal, u.walk here false (Path.join dirs name) ≠ .ok goal) :
    p' = p ∧ ∀ q, ¬p <+: q → made'.get? q = made.get? q := by
  have hsame : u.Same u' := fun q => hu q fun goal hgoal => absurd hgoal (hled goal)
  have hmade := createDirectories_congr hsame here depth dirs
  rw [hm, hm'] at hmade
  cases hmade with
  | ok hmade =>
    have hgoals : made'.goalAt p' = made.goalAt p := by
      have hwalk := walk_congr hmade here false (Path.join dirs name)
      rw [h.walk hw, h'.walk hw'] at hwalk
      exact Except.ok.inj hwalk
    refine ⟨?_, fun q _ => hmade q⟩
    rw [← place_goalAt made' p', hgoals, place_goalAt]

include hn ht in
/-- Trees that differ in what a path leads to hold the same when room has been made there. -/
theorem Clears.same (ht' : u'.Grounded) : p' = p ∧ t.Same t' := by
  have houtside : p' = p ∧ ∀ q, ¬p <+: q → made'.get? q = made.get? q := by
    by_cases hled : ∃ goal, u.walk here false (Path.join dirs name) = .ok goal
    · obtain ⟨goal, hled⟩ := hled
      exact outside_of_walk hn ht hu hm hm' h h' hw hw' hled
    · exact outside_of_error hu hm hm' h h' hw hw' (not_exists.mp hled)
  obtain ⟨rfl, houtside⟩ := houtside
  have hgone := (h.grounded (ht.createDirectories hm)).get?_append_of_none
    (walkFrom_vacant (walkFrom_of_walk hw)).2
  have hgone' := (h'.grounded (ht'.createDirectories hm')).get?_append_of_none
    (walkFrom_vacant (walkFrom_of_walk hw')).2
  refine ⟨rfl, fun q => ?_⟩
  by_cases hq : p' <+: q
  · obtain ⟨below, rfl⟩ := hq
    rw [hgone below, hgone' below]
  · rw [h'.get?_of_outside hw' hq, h.get?_of_outside hw hq, houtside q hq]

end

end DeployPlan.FileTree
