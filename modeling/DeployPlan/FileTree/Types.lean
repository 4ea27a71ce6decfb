import DeployPlan.Path
import DeployPlan.Text.Decimal

/-!
# A tree of files in memory

A tree says what each place holds. A place is the list of names on the way from the root, which is
always a directory. `get?_put` and `get?_erase` say what a change does to the other places.
-/

namespace DeployPlan

/-- What a place in a tree holds. -/
inductive Entry
  | file (content : ByteArray)
  | directory
  /-- A symbolic link with the path that it stands for. -/
  | link (target : String)
  deriving Inhabited

/-- The names on the way from the root to a place. -/
abbrev Place := List String

/-- What the places below the root hold, the last change in front. -/
structure FileTree where
  entries : List (Place × Entry) := []
  deriving Inhabited

namespace FileTree

def find (p : Place) : List (Place × Entry) → Option Entry
  | [] => none
  | (q, e) :: rest => if q = p then some e else find p rest

def get? (t : FileTree) (p : Place) : Option Entry :=
  if p = [] then some .directory else find p t.entries

/-- The tree with `e` at a place. -/
def put (t : FileTree) (p : Place) (e : Entry) : FileTree :=
  ⟨(p, e) :: t.entries.filter (·.1 ≠ p)⟩

/-- The tree without a place and everything below it. -/
def erase (t : FileTree) (p : Place) : FileTree :=
  ⟨t.entries.filter fun e => !p.isPrefixOf e.1⟩

/-- The places below a place, each with its entry. -/
def below (t : FileTree) (p : Place) : List (Place × Entry) :=
  t.entries.filter fun e => p.isPrefixOf e.1 && e.1 != p

/-- The tree with directories at a place and on the way to it, wherever there is nothing yet. -/
def putDirectories (t : FileTree) (p : Place) : FileTree :=
  ((List.range p.length).map fun n => p.take (n + 1)).foldl
    (fun t q => if (t.get? q).isNone then t.put q .directory else t) t

def pathOf (p : Place) : String :=
  "/" ++ "/".intercalate p

theorem find_filter {f : Place × Entry → Bool} {p : Place} (h : ∀ e, f (p, e) = true)
    (l : List (Place × Entry)) : find p (l.filter f) = find p l := by
  induction l with
  | nil => rfl
  | cons x r ih =>
    obtain ⟨q, e⟩ := x
    by_cases hq : q = p
    · subst hq
      simp [h, find]
    · rw [List.filter_cons]
      split <;> simp [find, hq, ih]

theorem find_filter_of_false {f : Place × Entry → Bool} {p : Place} (h : ∀ e, f (p, e) = false)
    (l : List (Place × Entry)) : find p (l.filter f) = none := by
  induction l with
  | nil => rfl
  | cons x r ih =>
    obtain ⟨q, e⟩ := x
    rw [List.filter_cons]
    split
    · rename_i hf
      have hq : q ≠ p := by rintro rfl; simp [h] at hf
      simp [find, hq, ih]
    · exact ih

/-- A change of one place leaves the others alone. -/
theorem get?_put {t : FileTree} {p q : Place} {e : Entry} (hp : p ≠ []) :
    (t.put p e).get? q = if p = q then some e else t.get? q := by
  by_cases h : p = q
  · subst h
    simp [get?, put, find, hp]
  · rw [if_neg h, get?, get?, put]
    congr 1
    rw [find, if_neg h, find_filter]
    intro _
    simpa using Ne.symm h

/-- What is erased is gone, with all below it, and the rest is as it was. -/
theorem get?_erase {t : FileTree} {p q : Place} (hq : q ≠ []) :
    (t.erase p).get? q = if p.isPrefixOf q then none else t.get? q := by
  rw [get?, if_neg hq, get?, if_neg hq, erase]
  split
  · rename_i h
    exact find_filter_of_false (fun _ => by simp [h]) _
  · rename_i h
    exact find_filter (fun _ => by simp [h]) _

end FileTree

end DeployPlan
