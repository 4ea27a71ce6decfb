import DeployPlan.Proofs.FileTree.Places

/-!
# What a change leaves as it was

`Spares inside t t'` says that a change from `t` to `t'` leaves all places as they were but those
`inside`, apart from directories that are new. Making directories spares every place, and removing
what a path leads to spares the places that are not there (`createDirectories_spares`,
`removeTree_spares`). What a path leads to by other places is then still there
(`Spares.keepsFile`). Writing a text changes one place, where it is read again (`write_eq_ok`,
`read_write`).
-/

namespace DeployPlan.FileTree

/-- All places but those inside hold what they held, apart from directories where there was
nothing. -/
def Spares (inside : Place → Prop) (t t' : FileTree) : Prop :=
  ∀ p, ¬inside p → t'.get? p = t.get? p ∨ t.get? p = none ∧ t'.get? p = some .directory

namespace Spares

variable {inside : Place → Prop} {t t₁ t₂ : FileTree}

protected theorem refl (inside : Place → Prop) (t : FileTree) : Spares inside t t :=
  fun _ _ => .inl rfl

theorem mono {inside' : Place → Prop} (h : Spares inside t t₁) (hi : ∀ p, inside p → inside' p) :
    Spares inside' t t₁ :=
  fun p hp => h p fun hin => hp (hi p hin)

protected theorem trans (h : Spares inside t t₁) (h' : Spares inside t₁ t₂) :
    Spares inside t t₂ := by
  intro p hp
  rcases h p hp with h | ⟨hnone, hnew⟩
  · rw [← h]
    exact h' p hp
  · rcases h' p hp with h' | ⟨hold, -⟩
    · exact .inr ⟨hnone, h'.trans hnew⟩
    · rw [hnew] at hold
      cases hold

theorem put_directory {p : Place} (hp : p ≠ []) (hnone : t.get? p = none) :
    Spares inside t (t.put p .directory) := by
  intro q _
  rw [get?_put hp]
  split
  · rename_i hq
    exact .inr ⟨hq ▸ hnone, rfl⟩
  · exact .inl rfl

theorem get?_eq_some (h : Spares inside t t₁) {p : Place} (hp : ¬inside p) {e : Entry}
    (he : t.get? p = some e) : t₁.get? p = some e := by
  rcases h p hp with h | ⟨hnone, -⟩
  · rw [h, he]
  · rw [he] at hnone
    cases hnone

theorem get?_eq_file (h : Spares inside t t₁) {p : Place} (hp : ¬inside p) {content : ByteArray}
    (hf : t₁.get? p = some (.file content)) : t.get? p = some (.file content) := by
  rcases h p hp with h | ⟨-, hnew⟩
  · rw [← h, hf]
  · rw [hnew] at hf
    cases hf

end Spares

/-! ## Making directories -/

/-- Nothing is at a place that a walk finds vacant. -/
theorem walkFrom_vacant {t : FileTree} {follow : Bool} {links : Nat} {here p : Place}
    {names : List String} (h : t.walkFrom follow links here names = .ok (.vacant p)) :
    p ≠ [] ∧ t.get? p = none := by
  fun_induction walkFrom t follow links here names with
  | case8 links here name hd h1 h2 hsize there hv =>
    have hp : here ++ [name] = p := by simpa [there] using h
    rw [← hp]
    exact ⟨by simp, hv⟩
  | case5 _ _ _ _ ih | case6 _ _ _ _ _ ih => exact ih h
  | case12 _ _ _ _ _ _ _ _ _ _ _ _ ih | case13 _ _ _ _ _ _ _ _ _ _ _ _ ih => exact ih h
  | case1 | case2 | case3 | case4 | case7 | case9 | case10 | case11 => cases h

/-- A path that can be walked along in one tree is walked through its names in every tree. -/
theorem walk_eq_walkFrom {t : FileTree} {here : Place} {follow : Bool} {path : String} {goal : Goal}
    (h : t.walk here follow path = .ok goal) (t' : FileTree) (follow' : Bool) :
    t'.walk here follow' path =
      t'.walkFrom follow' maxLinks (if Path.isAbsolute path then [] else here) (namesOf path) :=
  (Walkable.of_walk h).walk t' here follow'

theorem walkFrom_of_walk {t : FileTree} {here : Place} {follow : Bool} {path : String} {goal : Goal}
    (h : t.walk here follow path = .ok goal) :
    t.walkFrom follow maxLinks (if Path.isAbsolute path then [] else here) (namesOf path) =
      .ok goal :=
  walk_eq_walkFrom h t follow ▸ h

theorem createDirectory_spares {inside : Place → Prop} {t t' : FileTree} {here : Place}
    {path : String} (h : t.createDirectory here path = .ok t') : Spares inside t t' := by
  obtain ⟨goal, hw, h⟩ := bind_eq_ok.mp h
  cases goal with
  | found p => cases h
  | vacant p =>
    cases h
    obtain ⟨hp, hnone⟩ := walkFrom_vacant (walkFrom_of_walk hw)
    exact .put_directory hp hnone

theorem keepDirectory_eq_ok {t t' : FileTree} {here : Place} {path : String}
    {r : Except FileError FileTree} (h : createDirectories.keepDirectory here path t r = .ok t') :
    t' = t ∨ r = .ok t' := by
  cases r with
  | ok t₁ => exact .inr h
  | error e =>
    rw [createDirectories.keepDirectory] at h
    split at h
    · cases h
      exact .inl rfl
    · cases h

/-- Making directories leaves all that is there as it was. -/
theorem createDirectories_spares {inside : Place → Prop} {t t' : FileTree} {here : Place}
    {depth : Nat} {path : String} (h : t.createDirectories here depth path = .ok t') :
    Spares inside t t' := by
  fun_induction createDirectories t here depth path generalizing t' with
  | case1 =>
    cases h
    exact .refl inside t
  | case2 depth path hne t₁ hc =>
    cases h
    exact createDirectory_spares hc
  | case3 | case4 => cases h
  | case5 path hne hc depth t₁ hd ih =>
    rcases keepDirectory_eq_ok h with rfl | hc
    · exact ih hd
    · exact (ih hd).trans (createDirectory_spares hc)
  | case6 depth path hne e he hc =>
    rcases keepDirectory_eq_ok h with rfl | hc
    · exact .refl inside t'
    · cases hc

/-! ## Removing -/

theorem getLast?_cons_eq_some {a name : String} {rest : List String}
    (h : (a :: rest).getLast? = some name) : rest = [] ∧ a = name ∨ rest.getLast? = some name := by
  cases rest with
  | nil => exact .inl ⟨rfl, Option.some.inj h⟩
  | cons b rest => exact .inr (List.getLast?_cons_cons ▸ h)

/-- A walk that does not follow a link in the last place ends at an entry with the last name. -/
theorem walkFrom_ends {t : FileTree} {links : Nat} {here : Place} {names : List String}
    {name : String} {goal : Goal} (hl : names.getLast? = some name) (hh : name ≠ ".")
    (hp : name ≠ "..") (h : t.walkFrom false links here names = .ok goal) :
    ∃ q, goal.place = q ++ [name] := by
  fun_induction walkFrom t false links here names with
  | case1 => cases hl
  | case5 links here rest hd ih =>
    rcases getLast?_cons_eq_some hl with ⟨-, hname⟩ | hl
    · exact absurd hname.symm hh
    · exact ih hl h
  | case6 links here rest hd hne ih =>
    rcases getLast?_cons_eq_some hl with ⟨-, hname⟩ | hl
    · exact absurd hname.symm hp
    · exact ih hl h
  | case8 links here last hd h1 h2 hsize there hv =>
    rw [List.getLast?_singleton, Option.some_inj] at hl
    cases h
    exact ⟨here, hl ▸ rfl⟩
  | case10 links here last rest hd h1 h2 hsize there target hv hlast =>
    rw [hlast.1, List.getLast?_singleton, Option.some_inj] at hl
    cases h
    exact ⟨here, hl ▸ rfl⟩
  | case12 here last rest hd h1 h2 hsize there target hv hlast links ih =>
    rcases getLast?_cons_eq_some hl with ⟨hrest, -⟩ | hl
    · exact absurd ⟨hrest, rfl⟩ hlast
    · exact ih (by rw [List.getLast?_append, hl, Option.some_or]) h
  | case13 links here last rest hd h1 h2 hsize there e hlink hv ih =>
    rcases getLast?_cons_eq_some hl with ⟨hrest, hname⟩ | hl
    · rw [hrest, walkFrom] at h
      cases h
      exact ⟨here, hname ▸ rfl⟩
    · exact ih hl h
  | case2 | case3 | case4 | case7 | case9 | case11 => cases h

theorem get?_erase_or (t : FileTree) (p q : Place) :
    (t.erase p).get? q = none ∨ (t.erase p).get? q = t.get? q := by
  by_cases hq : q = []
  · rw [hq]
    exact .inr rfl
  · rw [get?_erase hq]
    split
    · exact .inl rfl
    · exact .inr rfl

/-- The walk ends because something is not there. -/
def FindsNothing (t : FileTree) (follow : Bool) (links : Nat) (here : Place) (names : List String) :
    Prop :=
  t.walkFrom follow links here names = .error .notFound ∨
    ∃ q, t.walkFrom follow links here names = .ok (.vacant q)

theorem FindsNothing.of_here {t : FileTree} {follow : Bool} {links : Nat} {here : Place}
    (name : String) (rest : List String) (h : t.get? here = none) :
    FindsNothing t follow links here (name :: rest) := by
  rw [FindsNothing, walkFrom]
  simp only [h]
  exact .inl trivial

theorem FindsNothing.of_there {t : FileTree} {follow : Bool} {links : Nat} {here : Place}
    {name : String} (rest : List String) (hd : t.get? here = some .directory) (hh : name ≠ ".")
    (hp : name ≠ "..") (hs : ¬name.utf8ByteSize > maxName) (h : t.get? (here ++ [name]) = none) :
    FindsNothing t follow links here (name :: rest) := by
  rw [FindsNothing, walkFrom]
  simp only [hd, if_neg hh, if_neg hp, if_neg hs, h]
  split
  · exact .inr ⟨_, rfl⟩
  · exact .inl rfl

/-- Then the path leads to nothing. -/
theorem FindsNothing.entryAt {t : FileTree} {links : Nat} {start here : Place} {path : String}
    {names : List String} (h : FindsNothing t true links start names)
    (hw : t.walk here true path = t.walkFrom true links start names) :
    t.entryAt here path = .error .notFound := by
  have hlocate : t.locate here path = .error .notFound := by
    rw [locate, hw]
    rcases h with h | ⟨q, h⟩
    · rw [h]
    · rw [h]
  rw [FileTree.entryAt, hlocate]
  rfl

section Erase

variable {t : FileTree} {follow : Bool} {links : Nat} {here p : Place} {name : String}
  {rest : List String}

/-- A directory that a walk comes to is as it was, or the walk ends there. -/
theorem FindsNothing.erase_here (hd : t.get? here = some .directory)
    (h : (t.erase p).get? here = some .directory →
      FindsNothing (t.erase p) follow links here (name :: rest)) :
    FindsNothing (t.erase p) follow links here (name :: rest) := by
  rcases get?_erase_or t p here with he | he
  · exact .of_here name rest he
  · exact h (he.trans hd)

/-- An entry that a walk asks for is as it was, or the walk ends there. -/
theorem FindsNothing.erase_there {e : Entry} (hd : (t.erase p).get? here = some .directory)
    (hh : name ≠ ".") (hp : name ≠ "..") (hs : ¬name.utf8ByteSize > maxName)
    (hv : t.get? (here ++ [name]) = some e)
    (h : (t.erase p).get? (here ++ [name]) = some e →
      FindsNothing (t.erase p) follow links here (name :: rest)) :
    FindsNothing (t.erase p) follow links here (name :: rest) := by
  rcases get?_erase_or t p (here ++ [name]) with he | he
  · exact .of_there rest hd hh hp hs he
  · exact h (he.trans hv)

end Erase

/-- What is removed is not found any more, whether links are followed or not. -/
theorem findsNothing_erase {t : FileTree} (follow : Bool) {links : Nat} {here p : Place}
    {names : List String} {name : String} (hl : names.getLast? = some name) (hh : name ≠ ".")
    (hp : name ≠ "..") (h : t.walkFrom false links here names = .ok (.found p)) :
    FindsNothing (t.erase p) follow links here names := by
  have hpne : p ≠ [] := by
    obtain ⟨q, hq⟩ := walkFrom_ends hl hh hp h
    rw [show p = q ++ [name] from hq]
    simp
  have hgone : (t.erase p).get? p = none := by
    rw [get?_erase hpne, if_pos (by simp)]
  fun_induction walkFrom t false links here names with
  | case1 => cases hl
  | case5 links here rest hd ih =>
    refine .erase_here hd fun hd => ?_
    rcases getLast?_cons_eq_some hl with ⟨-, hname⟩ | hl
    · exact absurd hname.symm hh
    · rw [FindsNothing, walkFrom_here rest hd]
      exact ih hl h
  | case6 links here rest hd hne ih =>
    refine .erase_here hd fun hd => ?_
    rcases getLast?_cons_eq_some hl with ⟨-, hname⟩ | hl
    · exact absurd hname.symm hp
    · rw [FindsNothing, walkFrom_parent rest hd]
      exact ih hl h
  | case10 links here last rest hd h1 h2 hsize there target hv hlast =>
    have hfound : here ++ [last] = p := by simpa [there] using h
    refine .erase_here hd fun hd => .of_there rest hd h1 h2 hsize ?_
    rw [hfound, hgone]
  | case12 here last rest hd h1 h2 hsize there target hv hlast links ih =>
    have hrest : rest ≠ [] := fun hr => hlast ⟨hr, rfl⟩
    refine .erase_here hd fun hd => .erase_there hd h1 h2 hsize hv fun hv => ?_
    rcases getLast?_cons_eq_some hl with ⟨hr, -⟩ | hl
    · exact absurd hr hrest
    · have hlater : (namesOf target ++ rest).getLast? = some name := by
        rw [List.getLast?_append, hl, Option.some_or]
      rw [FindsNothing, walkFrom_link hd h1 h2 hsize hv fun hr => hrest hr.1]
      exact ih hlater h
  | case13 links here last rest hd h1 h2 hsize there e hlink hv ih =>
    refine .erase_here hd fun hd => .erase_there hd h1 h2 hsize hv fun hv => ?_
    rcases getLast?_cons_eq_some hl with ⟨hr, -⟩ | hl
    · have hfound : here ++ [last] = p := by simpa [hr, walkFrom, there] using h
      refine .of_there rest hd h1 h2 hsize ?_
      rw [hfound, hgone]
    · rw [FindsNothing, walkFrom_into rest hd h1 h2 hsize hv hlink]
      exact ih hl h
  | case2 | case3 | case4 | case7 | case8 | case9 | case11 => cases h

/-- What is removed: the place that the path leads to, with all below it. -/
theorem removeTree_eq_ok {t t' : FileTree} {here : Place} {path : String}
    (h : t.removeTree here path = .ok t') :
    ∃ p, t.walk here false path = .ok (.found p) ∧ t' = t.erase p := by
  obtain ⟨goal, hw, h⟩ := bind_eq_ok.mp h
  cases goal with
  | vacant p => cases h
  | found p =>
    refine ⟨p, hw, ?_⟩
    dsimp only at h
    split at h
    · cases h
    · exact (Except.ok.inj h).symm

/-- The place goes through an entry with the last name of a path. -/
def ThroughLast (path : String) (p : Place) : Prop :=
  ∃ name ∈ (namesOf path).getLast?, name ∈ p

/-- The place is where a path leads or below it; under the last name of the path there may be
something else meanwhile. -/
def AtPath (here : Place) (path : String) (t : FileTree) (p : Place) : Prop :=
  ∃ t' goal, Spares (ThroughLast path) t t' ∧ t'.walk here false path = .ok goal ∧ goal.place <+: p

/-- Removing what a path leads to spares the places that are not there. -/
theorem removeTree_spares {t t' : FileTree} {here : Place} {path : String}
    (h : t.removeTree here path = .ok t') : Spares (AtPath here path t) t t' := by
  obtain ⟨p, hw, rfl⟩ := removeTree_eq_ok h
  intro place hplace
  left
  by_cases hroot : place = []
  · rw [hroot]
    rfl
  · rw [get?_erase hroot, if_neg]
    intro hprefix
    exact hplace ⟨t, .found p, .refl _ t, hw, List.isPrefixOf_iff_prefix.mp hprefix⟩

section

variable {t t' : FileTree} {here : Place} {path name : String}
  (hl : (namesOf path).getLast? = some name) (hh : name ≠ ".") (hp : name ≠ "..")

include hl hh hp

theorem exists?_removeTree (h : t.removeTree here path = .ok t') :
    t'.exists? here path = .ok false := by
  obtain ⟨p, hw, rfl⟩ := removeTree_eq_ok h
  have hnothing := findsNothing_erase true hl hh hp (walkFrom_of_walk hw)
  rw [exists?, hnothing.entryAt (walk_eq_walkFrom hw _ true)]

theorem AtPath.throughLast {p : Place} (h : AtPath here path t p) : ThroughLast path p := by
  obtain ⟨t', goal, -, hw, hprefix⟩ := h
  obtain ⟨q, hq⟩ := walkFrom_ends hl hh hp (walkFrom_of_walk hw)
  have hmem : name ∈ goal.place := by
    rw [hq]
    exact List.mem_append_right q (List.mem_singleton_self name)
  exact ⟨name, hl, hprefix.subset hmem⟩

theorem Spares.transAtPath {t₁ t₂ : FileTree} (h : Spares (AtPath here path t) t t₁)
    (h' : Spares (AtPath here path t₁) t₁ t₂) : Spares (AtPath here path t) t t₂ := by
  have hnamed : Spares (ThroughLast path) t t₁ := h.mono fun p => AtPath.throughLast hl hh hp
  refine h.trans (h'.mono fun p => ?_)
  rintro ⟨t', goal, hspares, hw, hprefix⟩
  exact ⟨t', goal, hnamed.trans hspares, hw, hprefix⟩

end

/-! ## Directories that can be reached -/

namespace Reachable

variable {t : FileTree} {p : Place} (h : Reachable t p) (here : Place)

include h

theorem exists? : t.exists? here (pathOf p) = .ok true := by
  rw [FileTree.exists?, h.entryAt here]

theorem removeTree : t.removeTree here (pathOf p) = .ok (t.erase p) := by
  rw [FileTree.removeTree, h.walk here false]
  simp only [bind, Except.bind, h.directories p (List.prefix_refl p)]

theorem createDirectories (hslash : withoutSlash (pathOf p) = pathOf p) (depth : Nat) :
    t.createDirectories here depth (pathOf p) = .ok t := by
  have hmade : t.createDirectory here (pathOf p) = .error .exists := by
    rw [createDirectory, hslash, h.walk here false]
    rfl
  have hdirectory : t.isDirectory here (pathOf p) = .ok true := by
    rw [isDirectory, h.entryAt here]
    rfl
  have hkept : createDirectories.keepDirectory here (pathOf p) t (.error .exists) = .ok t := by
    rw [createDirectories.keepDirectory, hdirectory]
    rfl
  rw [FileTree.createDirectories.eq_def, if_neg (pathOf_ne_empty p), hmade]
  exact hkept

end Reachable

/-! ## What a path leads to -/

/-- What is found by a walk is found in every tree that has all the entries of the first one. -/
theorem walkFrom_mono {t t' : FileTree} (ht : ∀ q e, t.get? q = some e → t'.get? q = some e)
    {follow : Bool} {links : Nat} {here p : Place} {names : List String}
    (h : t.walkFrom follow links here names = .ok (.found p)) :
    t'.walkFrom follow links here names = .ok (.found p) := by
  fun_induction walkFrom t follow links here names with
  | case1 =>
    rw [walkFrom]
    exact h
  | case5 links here rest hd ih =>
    rw [walkFrom_here rest (ht _ _ hd)]
    exact ih h
  | case6 links here rest hd hne ih =>
    rw [walkFrom_parent rest (ht _ _ hd)]
    exact ih h
  | case10 links here last rest hd h1 h2 hsize there target hv hlast =>
    have hthere : t'.get? (here ++ [last]) = some (.link target) := ht _ _ hv
    rw [walkFrom]
    simp only [ht _ _ hd, if_neg h1, if_neg h2, if_neg hsize, hthere, if_pos hlast]
    exact h
  | case12 here last rest hd h1 h2 hsize there target hv hlast links ih =>
    rw [walkFrom_link (ht _ _ hd) h1 h2 hsize (ht _ _ hv) hlast]
    exact ih h
  | case13 links here last rest hd h1 h2 hsize there e hlink hv ih =>
    rw [walkFrom_into rest (ht _ _ hd) h1 h2 hsize (ht _ _ hv) hlink]
    exact ih h
  | case2 | case3 | case4 | case7 | case8 | case9 | case11 => cases h

/-- What a path leads to, it leads to in every tree that has all the entries of the first one. -/
theorem entryAt_mono {t t' : FileTree} (ht : ∀ q e, t.get? q = some e → t'.get? q = some e)
    {here : Place} {path : String} {e : Entry} (h : t.entryAt here path = .ok e) :
    t'.entryAt here path = .ok e := by
  obtain ⟨p, hl, he⟩ := entryAt_eq_ok_iff.mp h
  have hw := locate_eq_ok_iff.mp hl
  have hw' : t'.walk here true path = .ok (.found p) := by
    rw [walk_eq_walkFrom hw]
    exact walkFrom_mono ht (walkFrom_of_walk hw)
  exact entryAt_eq_ok_iff.mpr ⟨p, locate_eq_ok_iff.mpr hw', ht p e he⟩

/-- The path leads to an entry by places that are not inside: a part of the tree without those is
enough to find it. -/
def LeadsOutside (inside : Place → Prop) (t : FileTree) (here : Place) (path : String) (e : Entry) :
    Prop :=
  ∃ part : FileTree, (∀ p e', part.get? p = some e' → ¬inside p ∧ t.get? p = some e') ∧
    part.entryAt here path = .ok e

/-- A path still leads to the file that it led to by places that are not inside, and no file has
come to be where it led to nothing. -/
structure KeepsFile (inside : Place → Prop) (here : Place) (path : String) (t t' : FileTree) :
    Prop where
  content : ∀ content, t.LeadsOutside inside here path (.file content) →
    t'.entryAt here path = .ok (.file content)
  absent : ∀ p, t.walk here true path = .ok (.vacant p) → ¬inside p →
    ∀ content, t'.get? p ≠ some (.file content)

theorem Spares.keepsFile {inside : Place → Prop} {t t' : FileTree} (h : Spares inside t t')
    (here : Place) (path : String) : KeepsFile inside here path t t' where
  content content := by
    rintro ⟨part, hpart, hentry⟩
    refine entryAt_mono (fun p e he => ?_) hentry
    obtain ⟨hp, he⟩ := hpart p e he
    exact h.get?_eq_some hp he
  absent p hw hp content hf := by
    have hnone := (walkFrom_vacant (walkFrom_of_walk hw)).2
    rw [h.get?_eq_file hp hf] at hnone
    cases hnone

/-! ## Writing -/

/-- With a file where a walk has led, to a file or to nothing, the walk leads to that file. -/
theorem walkFrom_put {t : FileTree} {links : Nat} {here p : Place} {names : List String}
    {goal : Goal} (hg : goal.place = p) (hp : p ≠ [])
    (hold : ∀ e, t.get? p = some e → ∃ old, e = .file old) (content : ByteArray)
    (h : t.walkFrom true links here names = .ok goal) :
    (t.put p (.file content)).walkFrom true links here names = .ok (.found p) := by
  have hkept {q : Place} {e : Entry} (he : t.get? q = some e) (hfile : ∀ old, e ≠ .file old) :
      (t.put p (.file content)).get? q = some e := by
    rw [get?_put hp, if_neg, he]
    rintro rfl
    obtain ⟨old, rfl⟩ := hold e he
    exact hfile old rfl
  have hnew : (t.put p (.file content)).get? p = some (.file content) := by
    rw [get?_put hp, if_pos rfl]
  fun_induction walkFrom t true links here names with
  | case1 links here =>
    cases h
    rw [walkFrom, ← hg, Goal.place]
  | case5 links here rest hd ih =>
    rw [walkFrom_here rest (hkept hd (by simp))]
    exact ih h
  | case6 links here rest hd hne ih =>
    rw [walkFrom_parent rest (hkept hd (by simp))]
    exact ih h
  | case8 links here last hd h1 h2 hsize there hv =>
    cases h
    have hthere : here ++ [last] = p := hg
    have hfile : (t.put p (.file content)).get? (here ++ [last]) = some (.file content) := by
      rw [hthere, hnew]
    rw [walkFrom_into [] (hkept hd (by simp)) h1 h2 hsize hfile (by simp), walkFrom, hthere]
  | case10 links here last rest hd h1 h2 hsize there target hv hlast => exact absurd hlast.2 (by simp)
  | case12 here last rest hd h1 h2 hsize there target hv hlast links ih =>
    rw [walkFrom_link (hkept hd (by simp)) h1 h2 hsize (hkept hv (by simp)) hlast]
    exact ih h
  | case13 links here last rest hd h1 h2 hsize there e hlink hv ih =>
    have hthere : ∃ e', (t.put p (.file content)).get? (here ++ [last]) = some e' ∧
        ∀ target, e' ≠ .link target := by
      by_cases hfile : here ++ [last] = p
      · exact ⟨.file content, hfile ▸ hnew, by simp⟩
      · exact ⟨e, by rw [get?_put hp, if_neg (Ne.symm hfile), ← hv], hlink⟩
    obtain ⟨e', he', hlink'⟩ := hthere
    rw [walkFrom_into rest (hkept hd (by simp)) h1 h2 hsize he' hlink']
    exact ih h
  | case2 | case3 | case4 | case7 | case9 | case11 => cases h

/-- What is written: one file, where the path leads and where there was a file or nothing. -/
theorem write_eq_ok {t t' : FileTree} {here : Place} {path text : String}
    (h : t.write here path text = .ok t') :
    ∃ goal, t.walk here true path = .ok goal ∧ goal.place ≠ [] ∧
      (∀ e, t.get? goal.place = some e → ∃ old, e = .file old) ∧
      t' = t.put goal.place (.file text.toUTF8) := by
  rw [write] at h
  split at h
  · obtain ⟨_, _, h⟩ := bind_eq_ok.mp h
    cases h
  · obtain ⟨goal, hw, h⟩ := bind_eq_ok.mp h
    refine ⟨goal, hw, ?_⟩
    cases goal with
    | vacant p =>
      obtain ⟨hp, hnone⟩ := walkFrom_vacant (walkFrom_of_walk hw)
      refine ⟨hp, fun e he => ?_, (Except.ok.inj h).symm⟩
      rw [Goal.place, hnone] at he
      cases he
    | found p =>
      dsimp only at h
      split at h
      · rename_i old hold
        refine ⟨fun hp => ?_, fun e he => ⟨old, ?_⟩, (Except.ok.inj h).symm⟩
        · rw [show p = [] from hp] at hold
          cases hold
        · rw [Goal.place, hold] at he
          exact (Option.some.inj he).symm
      · cases h

theorem read_of_entryAt {t : FileTree} {here : Place} {path text : String}
    (h : t.entryAt here path = .ok (.file text.toUTF8)) : t.read here path = .ok text := by
  have htext : String.fromUTF8? text.toUTF8 = some text := by
    rw [String.fromUTF8?, dif_pos (show text.toUTF8.IsValidUTF8 from text.isValidUTF8)]
    rfl
  rw [read, h]
  simp only [bind, Except.bind, htext]

/-- What has been written is read again, and nothing else has changed. -/
theorem read_write {t t' : FileTree} {here : Place} {path text : String}
    (h : t.write here path text = .ok t') :
    t'.read here path = .ok text ∧ ∃ p, t'.locate here path = .ok p ∧
      ∀ q, q ≠ p → t'.get? q = t.get? q := by
  obtain ⟨goal, hw, hp, hold, rfl⟩ := write_eq_ok h
  have hwalk := walkFrom_put rfl hp hold text.toUTF8 (walkFrom_of_walk hw)
  rw [← walk_eq_walkFrom hw, ← locate_eq_ok_iff] at hwalk
  have hfile : (t.put goal.place (.file text.toUTF8)).get? goal.place =
      some (.file text.toUTF8) := by
    rw [get?_put hp, if_pos rfl]
  have hentry := entryAt_eq_ok_iff.mpr ⟨goal.place, hwalk, hfile⟩
  refine ⟨read_of_entryAt hentry, goal.place, hwalk, fun q hq => ?_⟩
  rw [get?_put hp, if_neg (Ne.symm hq)]

end DeployPlan.FileTree
