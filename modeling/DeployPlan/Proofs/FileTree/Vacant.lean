import DeployPlan.Proofs.FileTree.Same

/-!
# Vacant places

Where nothing is, there is nothing below in a tree without gaps (`Grounded.get?_append`). A walk to
a vacant place goes the same way in every tree that has more entries, and finds what is there
(`walkFrom_of_vacant`), so a tree that is laid over a vacant place is found by the same path, and
nothing but this tree is found there (`Lays.walk`, `Lays.get?_append`).
-/

namespace DeployPlan.FileTree

variable {t t' : FileTree} {here p : Place} {path : String}

/-! ## Trees without gaps -/

/-- What is there lies in a directory. -/
def Grounded (t : FileTree) : Prop :=
  ∀ p name, t.get? (p ++ [name]) ≠ none → t.get? p = some .directory

/-- Nothing is below a place that holds no directory. -/
theorem Grounded.get?_append (h : t.Grounded) (hp : t.get? p ≠ some .directory) {q : Place}
    (hq : q ≠ []) : t.get? (p ++ q) = none := by
  induction q using List.reverseRecOn with
  | nil => exact absurd rfl hq
  | append_singleton q name ih =>
    by_contra hsome
    rw [← List.append_assoc] at hsome
    have hdirectory := h (p ++ q) name hsome
    by_cases hnil : q = []
    · rw [hnil, List.append_nil] at hdirectory
      exact hp hdirectory
    · rw [ih hnil] at hdirectory
      cases hdirectory

theorem Grounded.get?_append_of_none (h : t.Grounded) (hp : t.get? p = none) (q : Place) :
    t.get? (p ++ q) = none := by
  by_cases hq : q = []
  · rw [hq, List.append_nil, hp]
  · exact h.get?_append (by simp [hp]) hq

theorem Grounded.erase (h : t.Grounded) (p : Place) : (t.erase p).Grounded := by
  intro q name hsome
  have hne : q ++ [name] ≠ [] := by simp
  rw [get?_erase hne] at hsome
  by_cases hp : p.isPrefixOf (q ++ [name]) = true
  · rw [if_pos hp] at hsome
    exact absurd rfl hsome
  · rw [if_neg hp] at hsome
    have hdirectory := h q name hsome
    by_cases hq : q = []
    · rw [hq]
      rfl
    · rw [get?_erase hq, if_neg, hdirectory]
      intro hq
      rw [List.isPrefixOf_iff_prefix] at hp hq
      exact hp (hq.trans (List.prefix_append q [name]))

/-- A vacant place lies in a directory. -/
theorem exists_directory_of_vacant {follow : Bool} {links : Nat} {names : List String}
    (h : t.walkFrom follow links here names = .ok (.vacant p)) :
    ∃ q name, p = q ++ [name] ∧ t.get? q = some .directory := by
  fun_induction walkFrom t follow links here names with
  | case8 links here name hd h1 h2 hsize there hv =>
    have hplace : there = p := by simpa using h
    exact ⟨here, name, hplace.symm, hd⟩
  | case5 _ _ _ _ ih | case6 _ _ _ _ _ ih => exact ih h
  | case12 _ _ _ _ _ _ _ _ _ _ _ _ ih | case13 _ _ _ _ _ _ _ _ _ _ _ _ ih => exact ih h
  | case1 | case2 | case3 | case4 | case7 | case9 | case10 | case11 => cases h

theorem grounded_empty : Grounded ⟨[]⟩ := by
  intro p name hsome
  have hne : p ++ [name] ≠ [] := by simp
  rw [get?, if_neg hne] at hsome
  exact absurd rfl hsome

/-- A new entry in a directory leaves no gap. -/
theorem Grounded.put (h : t.Grounded) (parent : Place) (name : String)
    (hd : t.get? parent = some .directory) (hn : t.get? (parent ++ [name]) = none) (e : Entry) :
    (t.put (parent ++ [name]) e).Grounded := by
  have hne : parent ++ [name] ≠ [] := by simp
  intro q name' hsome
  rw [get?_put hne] at hsome ⊢
  split at hsome
  · rename_i heq
    have hparent : parent = q := (List.append_inj' heq rfl).1
    rw [if_neg (by simp [hparent]), ← hparent, hd]
  · have hdirectory := h q name' hsome
    rw [if_neg, hdirectory]
    rintro rfl
    rw [hn] at hdirectory
    cases hdirectory

theorem Grounded.createDirectory (h : t.Grounded) (hc : t.createDirectory here path = .ok t') :
    t'.Grounded := by
  obtain ⟨goal, hw, hc⟩ := bind_eq_ok.mp hc
  cases goal with
  | found p => cases hc
  | vacant p =>
    cases hc
    have hwalk := walkFrom_of_walk hw
    obtain ⟨parent, name, rfl, hparent⟩ := exists_directory_of_vacant hwalk
    exact h.put parent name hparent (walkFrom_vacant hwalk).2 .directory

theorem Grounded.createDirectories (h : t.Grounded) {depth : Nat}
    (hc : t.createDirectories here depth path = .ok t') : t'.Grounded := by
  fun_induction FileTree.createDirectories t here depth path generalizing t' with
  | case1 =>
    cases hc
    exact h
  | case2 depth path hne t₁ hmade =>
    cases hc
    exact h.createDirectory hmade
  | case3 | case4 => cases hc
  | case5 path hne hmade depth t₁ hd ih =>
    rcases keepDirectory_eq_ok hc with rfl | hc
    · exact ih hd
    · exact (ih hd).createDirectory hc
  | case6 depth path hne e he hmade =>
    rcases keepDirectory_eq_ok hc with rfl | hc
    · exact h
    · cases hc

/-! ## Walks to a vacant place -/

/-- The goal of a walk that ends at a place: what is there is found. -/
def goalAt (t : FileTree) (p : Place) : Goal :=
  if t.get? p = none then .vacant p else .found p

@[simp]
theorem place_goalAt (t : FileTree) (p : Place) : (t.goalAt p).place = p := by
  rw [goalAt]
  split <;> rfl

/-- A walk to a vacant place ends there in every tree that has all the entries of the first one. -/
theorem walkFrom_of_vacant (ht : ∀ q e, t.get? q = some e → t'.get? q = some e) {links : Nat}
    {names : List String} (h : t.walkFrom false links here names = .ok (.vacant p)) :
    t'.walkFrom false links here names = .ok (t'.goalAt p) := by
  fun_induction walkFrom t false links here names with
  | case5 links here rest hd ih =>
    rw [walkFrom_here rest (ht _ _ hd)]
    exact ih h
  | case6 links here rest hd hne ih =>
    rw [walkFrom_parent rest (ht _ _ hd)]
    exact ih h
  | case8 links here name hd h1 h2 hsize there hv =>
    have hplace : here ++ [name] = p := by simpa [there] using h
    rw [goalAt, walkFrom, ← hplace]
    simp only [ht _ _ hd, if_neg h1, if_neg h2, if_neg hsize]
    cases hthere : t'.get? (here ++ [name]) with
    | none => simp
    | some e => cases e <;> simp [walkFrom]
  | case12 here last rest hd h1 h2 hsize there target hv hlast links ih =>
    rw [walkFrom_link (ht _ _ hd) h1 h2 hsize (ht _ _ hv) hlast]
    exact ih h
  | case13 links here last rest hd h1 h2 hsize there e hlink hv ih =>
    rw [walkFrom_into rest (ht _ _ hd) h1 h2 hsize (ht _ _ hv) hlink]
    exact ih h
  | case1 | case2 | case3 | case4 | case7 | case9 | case10 | case11 => cases h

theorem walk_of_vacant (ht : ∀ q e, t.get? q = some e → t'.get? q = some e)
    (h : t.walk here false path = .ok (.vacant p)) :
    t'.walk here false path = .ok (t'.goalAt p) := by
  rw [walk_eq_walkFrom h, walkFrom_of_vacant ht (walkFrom_of_walk h)]

/-- A walk that ends at an entry that is no link ends there if links are followed as well. -/
theorem walkFrom_follow {links : Nat} {names : List String} {name : String}
    (hl : names.getLast? = some name) (hh : name ≠ ".") (hp : name ≠ "..")
    (h : t.walkFrom false links here names = .ok (.found p)) :
    ∃ e, t.get? p = some e ∧
      ((∀ target, e ≠ .link target) → t.walkFrom true links here names = .ok (.found p)) := by
  fun_induction walkFrom t false links here names with
  | case1 => cases hl
  | case5 links here rest hd ih =>
    rw [walkFrom_here rest hd]
    rcases getLast?_cons_eq_some hl with ⟨-, hname⟩ | hl
    · exact absurd hname.symm hh
    · exact ih hl h
  | case6 links here rest hd hne ih =>
    rw [walkFrom_parent rest hd]
    rcases getLast?_cons_eq_some hl with ⟨-, hname⟩ | hl
    · exact absurd hname.symm hp
    · exact ih hl h
  | case10 links here last rest hd h1 h2 hsize there target hv hlast =>
    have hplace : there = p := by simpa using h
    exact ⟨.link target, hplace ▸ hv, fun hlink => absurd rfl (hlink target)⟩
  | case12 here last rest hd h1 h2 hsize there target hv hlast links ih =>
    have hrest : rest ≠ [] := fun hr => hlast ⟨hr, rfl⟩
    rw [walkFrom_link hd h1 h2 hsize hv (fun hr => hrest hr.1)]
    rcases getLast?_cons_eq_some hl with ⟨hr, -⟩ | hl
    · exact absurd hr hrest
    · exact ih (by rw [List.getLast?_append, hl, Option.some_or]) h
  | case13 links here last rest hd h1 h2 hsize there e hlink hv ih =>
    rw [walkFrom_into rest hd h1 h2 hsize hv hlink]
    rcases getLast?_cons_eq_some hl with ⟨hr, -⟩ | hl
    · rw [hr, walkFrom] at h ⊢
      have hplace : there = p := by simpa using h
      exact ⟨e, hplace ▸ hv, fun _ => hplace ▸ rfl⟩
    · exact ih hl h
  | case2 | case3 | case4 | case7 | case8 | case9 | case11 => cases h

/-- A path that leads to nothing, and that does not end at a link, leads to a vacant place. -/
theorem eq_vacant_of_exists? {goal : Goal} {name : String}
    (hl : (namesOf path).getLast? = some name) (hh : name ≠ ".") (hp : name ≠ "..")
    (hw : t.walk here false path = .ok goal) (hnothing : t.exists? here path = .ok false)
    (hlink : ∀ target, t.get? goal.place ≠ some (.link target)) : goal = .vacant goal.place := by
  cases goal with
  | vacant p => rfl
  | found p =>
    obtain ⟨e, he, hfollow⟩ := walkFrom_follow hl hh hp (walkFrom_of_walk hw)
    have hwalk : t.walk here true path = .ok (.found p) := by
      rw [walk_eq_walkFrom hw]
      exact hfollow fun target htarget => hlink target (htarget ▸ he)
    have hentry : t.entryAt here path = .ok e :=
      entryAt_eq_ok_iff.mpr ⟨p, locate_eq_ok_iff.mpr hwalk, he⟩
    rw [exists?, hentry] at hnothing
    cases hnothing

/-! ## Laying a tree over a place -/

/-- The tree `t'` is `t` with the tree `repo` laid over a place. -/
structure Lays (t : FileTree) (p : Place) (repo t' : FileTree) : Prop where
  laid : ∀ q, t'.get? (p ++ q) = (repo.get? q).or (t.get? (p ++ q))
  rest : ∀ q, ¬p <+: q → t'.get? q = t.get? q

namespace Lays

variable {repo : FileTree} (h : t.Lays p repo t') (ht : t.Grounded) (hp : t.get? p = none)

include h ht hp

/-- Over a vacant place, what is laid is all that is there. -/
theorem get?_append (q : Place) : t'.get? (p ++ q) = repo.get? q := by
  rw [h.laid, ht.get?_append_of_none hp, Option.or_none]

theorem get?_eq_some {q : Place} {e : Entry} (he : t.get? q = some e) : t'.get? q = some e := by
  rw [h.rest q, he]
  rintro ⟨below, rfl⟩
  rw [ht.get?_append_of_none hp] at he
  cases he

/-- Without what has been laid there, the tree holds what it held. -/
theorem erase : t.Same (t'.erase p) := by
  intro q
  by_cases hroot : q = []
  · rw [hroot]
    rfl
  · rw [get?_erase hroot]
    split
    · rename_i hbelow
      obtain ⟨below, rfl⟩ := List.isPrefixOf_iff_prefix.mp hbelow
      rw [ht.get?_append_of_none hp]
    · rename_i hout
      rw [h.rest q fun hq => hout (List.isPrefixOf_iff_prefix.mpr hq)]

end Lays

/-- What is laid where a path leads is found by that path. -/
theorem Lays.walk {repo : FileTree} (h : t.Lays p repo t') (ht : t.Grounded)
    (hw : t.walk here false path = .ok (.vacant p)) :
    t'.walk here false path = .ok (.found p) := by
  have hnone := (walkFrom_vacant (walkFrom_of_walk hw)).2
  have hthere : t'.get? p = some .directory := by
    have hroot := h.get?_append ht hnone []
    rwa [List.append_nil] at hroot
  rw [walk_of_vacant (fun q e => h.get?_eq_some ht hnone) hw, goalAt, if_neg (by simp [hthere])]

end DeployPlan.FileTree
