import DeployPlan.Proofs.FileTree.Changes

/-!
# Trees that hold the same

A tree keeps its entries in the order in which they were made, which nobody can see: all that is
done to a tree asks what its places hold (`walkFrom_congr`). So trees that hold the same answer the
same (`exists?_congr`, `read_congr`), and they still hold the same after the same changes
(`Same.erase`, `createDirectories_congr`).
-/

namespace DeployPlan.FileTree

/-- The trees hold the same at each place. -/
def Same (t t' : FileTree) : Prop :=
  ∀ p, t'.get? p = t.get? p

variable {t t' : FileTree}

/-! ## Looking -/

/-- A walk only asks what places hold. -/
theorem walkFrom_congr (h : t.Same t') (follow : Bool) (links : Nat) (here : Place)
    (names : List String) :
    t'.walkFrom follow links here names = t.walkFrom follow links here names := by
  cases names with
  | nil => rw [walkFrom, walkFrom]
  | cons name rest =>
    have hstay := walkFrom_congr h follow links here rest
    have hback := walkFrom_congr h follow links here.dropLast rest
    have hinto := walkFrom_congr h follow links (here ++ [name]) rest
    rw [walkFrom, walkFrom, h here]
    simp only [h (here ++ [name]), hstay, hback, hinto]
    cases links with
    | zero => rfl
    | succ links =>
      have hlink (start : Place) (target : String) :=
        walkFrom_congr h follow links start (namesOf target ++ rest)
      simp only [hlink]
termination_by (links, names.length)

theorem walk_congr (h : t.Same t') (here : Place) (follow : Bool) (path : String) :
    t'.walk here follow path = t.walk here follow path := by
  rw [walk, walk, walkFrom_congr h]

theorem entryAt_congr (h : t.Same t') (here : Place) (path : String) :
    t'.entryAt here path = t.entryAt here path := by
  have hlocate : t'.locate here path = t.locate here path := by
    rw [locate, locate, walk_congr h]
  have hentry (p : Place) : t'.get? p = t.get? p := h p
  rw [entryAt, entryAt, hlocate]
  simp only [hentry]

theorem exists?_congr (h : t.Same t') (here : Place) (path : String) :
    t'.exists? here path = t.exists? here path := by
  rw [exists?, exists?, entryAt_congr h]

theorem read_congr (h : t.Same t') (here : Place) (path : String) :
    t'.read here path = t.read here path := by
  rw [read, read, entryAt_congr h]

/-! ## Changing -/

theorem Same.erase (h : t.Same t') (p : Place) : (t.erase p).Same (t'.erase p) := by
  intro q
  by_cases hq : q = []
  · rw [hq]
    rfl
  · rw [get?_erase hq, get?_erase hq, h q]

/-- Two changes fail alike, or both succeed with trees that hold the same. -/
inductive SameEnd : Except FileError FileTree → Except FileError FileTree → Prop
  | ok {t t' : FileTree} (h : t.Same t') : SameEnd (.ok t) (.ok t')
  | error (e : FileError) : SameEnd (.error e) (.error e)

namespace SameEnd

theorem exists_eq_ok {r : Except FileError FileTree} (h : SameEnd (.ok t) r) :
    ∃ t', r = .ok t' ∧ t.Same t' := by
  cases h with
  | ok h => exact ⟨_, rfl, h⟩

theorem eq_error {r : Except FileError FileTree} {e : FileError} (h : SameEnd (.error e) r) :
    r = .error e := by
  cases h
  rfl

end SameEnd

theorem createDirectory_congr (h : t.Same t') (here : Place) (path : String) :
    SameEnd (t.createDirectory here path) (t'.createDirectory here path) := by
  rw [createDirectory, createDirectory, walk_congr h]
  cases hw : t.walk here false (withoutSlash path) with
  | error e => exact .error e
  | ok goal =>
    cases goal with
    | found p => exact .error .exists
    | vacant p =>
      have hp : p ≠ [] := (walkFrom_vacant (walkFrom_of_walk hw)).1
      refine .ok fun q => ?_
      rw [get?_put hp, get?_put hp, h q]

theorem createDirectory_eq_error (h : t.Same t') {here : Place} {path : String} {e : FileError}
    (he : t.createDirectory here path = .error e) : t'.createDirectory here path = .error e :=
  (he ▸ createDirectory_congr h here path).eq_error

theorem keepDirectory_congr (h : t.Same t') (here : Place) (path : String)
    {r r' : Except FileError FileTree} (hr : SameEnd r r') :
    SameEnd (createDirectories.keepDirectory here path t r)
      (createDirectories.keepDirectory here path t' r') := by
  have hdirectory : t'.isDirectory here path = t.isDirectory here path := by
    rw [isDirectory, isDirectory, entryAt_congr h]
  cases hr with
  | ok hs => exact .ok hs
  | error e =>
    rw [createDirectories.keepDirectory, createDirectories.keepDirectory, hdirectory]
    split
    · exact .ok h
    · exact .error e

theorem createDirectories_congr (h : t.Same t') (here : Place) (depth : Nat) (path : String) :
    SameEnd (t.createDirectories here depth path) (t'.createDirectories here depth path) := by
  fun_induction createDirectories t here depth path with
  | case1 =>
    rw [createDirectories.eq_def, if_pos rfl]
    exact .ok h
  | case2 depth path hne t₁ hc =>
    have hmade := createDirectory_congr h here path
    rw [hc] at hmade
    obtain ⟨t₁', hc', hs⟩ := hmade.exists_eq_ok
    rw [createDirectories.eq_def, if_neg hne, hc']
    exact .ok hs
  | case3 path hne hc =>
    rw [createDirectories.eq_def, if_neg hne, createDirectory_eq_error h hc]
    exact .error .notFound
  | case4 path hne hc depth e hd ih =>
    rw [hd] at ih
    rw [createDirectories.eq_def, if_neg hne, createDirectory_eq_error h hc]
    dsimp only
    rw [ih.eq_error]
    exact .error e
  | case5 path hne hc depth t₁ hd ih =>
    rw [hd] at ih
    obtain ⟨t₁', hd', hs⟩ := ih.exists_eq_ok
    rw [createDirectories.eq_def, if_neg hne, createDirectory_eq_error h hc]
    dsimp only
    rw [hd']
    exact keepDirectory_congr hs here path (createDirectory_congr hs here path)
  | case6 depth path hne e he hc =>
    have hkept := keepDirectory_congr h here path (SameEnd.error e)
    rw [createDirectories.eq_def, if_neg hne, createDirectory_eq_error h hc]
    split
    · rename_i heq
      cases heq
    · rename_i heq
      exact absurd (Except.error.inj heq) he
    · rename_i heq
      cases heq
      exact hkept

end DeployPlan.FileTree
