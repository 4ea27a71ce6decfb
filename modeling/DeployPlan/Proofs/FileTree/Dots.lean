import DeployPlan.Proofs.FileTree.Places

/-!
# Dots on a path

A dot on a path that goes on leads nowhere: wherever the walk is, it goes on as it would without the
dot (`walkFrom_dots`). So what is read in a directory is found by the way to the directory and
nothing else of its path (`walk_join`), and a dot at the end of that path does not count
(`walk_join_dot`, `read_join_dot`), as long as the paths are not too long.
-/

namespace DeployPlan.FileTree

variable {t : FileTree} {follow : Bool} {rest : List String}

/-- Where there is no directory, it does not matter how the path goes on. -/
theorem walkFrom_of_not_directory (links : Nat) {here : Place} {names names' : List String}
    (hd : t.get? here ≠ some .directory) (hn : names ≠ []) (hn' : names' ≠ []) :
    t.walkFrom follow links here names = t.walkFrom follow links here names' := by
  obtain ⟨name, rest, rfl⟩ := List.exists_cons_of_ne_nil hn
  obtain ⟨name', rest', rfl⟩ := List.exists_cons_of_ne_nil hn'
  rw [walkFrom, walkFrom]
  cases hg : t.get? here with
  | none => rfl
  | some e =>
    cases e with
    | file content | link target => rfl
    | directory => exact absurd hg hd

/-- The dots in front of what remains of a path do not count. -/
theorem walkFrom_dots (hr : rest ≠ []) (links : Nat) (here : Place) (front : List String) :
    t.walkFrom follow links here (front ++ rest) =
      t.walkFrom follow links here (front.filter (· ≠ ".") ++ rest) := by
  have hne (front : List String) : front ++ rest ≠ [] := List.append_ne_nil_of_right_ne_nil _ hr
  by_cases hd : t.get? here = some .directory
  · cases front with
    | nil => rfl
    | cons name front =>
      by_cases hh : name = "."
      · rw [hh, List.cons_append, walkFrom_here _ hd, List.filter_cons_of_neg (by simp)]
        exact walkFrom_dots hr links here front
      · rw [List.filter_cons_of_pos (by simpa using hh), List.cons_append, List.cons_append,
          walkFrom, walkFrom]
        simp only [hd, if_neg hh, hne, false_and, if_false]
        split
        · exact walkFrom_dots hr links here.dropLast front
        · split
          · rfl
          · split
            · rfl
            · cases links with
              | zero => rfl
              | succ links =>
                rename_i target _
                have hleft := walkFrom_dots hr links
                  (if Path.isAbsolute target then [] else here) (namesOf target ++ front)
                have hright := walkFrom_dots hr links
                  (if Path.isAbsolute target then [] else here)
                  (namesOf target ++ front.filter (· ≠ "."))
                simp only [List.filter_append, List.filter_filter, Bool.and_self] at hleft hright
                rw [← List.append_assoc, ← List.append_assoc]
                exact hleft.trans hright.symm
            · exact walkFrom_dots hr links (here ++ [name]) front
  · exact walkFrom_of_not_directory links hd (hne _) (hne _)
termination_by (links, front.length)

/-! ## Reading in a directory -/

/-- What a directory holds under a name is found by the way to the directory. -/
theorem walk_join (t : FileTree) (here : Place) (follow : Bool) {dir name : String}
    (hn : IsSegment name) (hnul : '\x00' ∉ (Path.join dir name).toList)
    (hfit : (Path.join dir name).utf8ByteSize ≤ maxPath) :
    t.walk here follow (Path.join dir name) =
      t.walkFrom follow maxLinks (if Path.isAbsolute dir then [] else here)
        ((Path.way dir).map String.ofList ++ [name]) := by
  have hempty : Path.join dir name ≠ "" := by
    obtain ⟨lead, hlead⟩ := Path.exists_lead dir
    rw [hlead hn.isAbsolute_eq, Ne, String.append_eq_empty_iff]
    exact fun he => hn.ne_empty he.2
  have hway : ((Path.segments dir).map String.ofList).filter (· ≠ ".") =
      (Path.way dir).map String.ofList := by
    rw [List.filter_map, Path.way]
    congr 1
    refine List.filter_congr fun segment _ => ?_
    rw [Function.comp_apply, decide_eq_decide]
    exact not_congr (String.ofList_inj : String.ofList segment = String.ofList ['.'] ↔ _)
  have hwalkable : Walkable (Path.join dir name) := ⟨hempty, hnul, hfit⟩
  rw [hwalkable.walk, Path.isAbsolute_join hn.isAbsolute_eq, namesOf_join dir hn,
    walkFrom_dots (List.cons_ne_nil _ _), hway]

/-- A dot behind the path of a directory does not change what is found there. -/
theorem walk_join_dot (t : FileTree) (here : Place) (follow : Bool) {dir name : String}
    (hn : IsSegment name) (hfit : (Path.join (Path.join dir ".") name).utf8ByteSize ≤ maxPath) :
    t.walk here follow (Path.join (Path.join dir ".") name) =
      t.walk here follow (Path.join dir name) := by
  have hdot : Path.isAbsolute "." = false := by decide
  obtain ⟨lead, hlead⟩ := Path.exists_lead dir
  have hlong : Path.join (Path.join dir ".") name = lead ++ "." ++ "/" ++ name := by
    rw [Path.join_join_dot dir hn.isAbsolute_eq, hlead hdot]
  have hshort : Path.join dir name = lead ++ name := hlead hn.isAbsolute_eq
  have hnul : '\x00' ∈ (Path.join (Path.join dir ".") name).toList ↔
      '\x00' ∈ (Path.join dir name).toList := by
    simp [hlong, hshort, String.toList_append]
  by_cases h : '\x00' ∈ (Path.join dir name).toList
  · rw [walk, walk, if_pos (by simpa using hnul.mpr h), if_pos (by simpa using h)]
  · have hfit' : (Path.join dir name).utf8ByteSize ≤ maxPath := by
      rw [hlong] at hfit
      simp only [hshort, String.utf8ByteSize_append] at hfit ⊢
      omega
    rw [walk_join t here follow hn (mt hnul.mp h) hfit, walk_join t here follow hn h hfit',
      Path.isAbsolute_join hdot, Path.way_join hdot]
    rw [show Path.way "." = [] by decide, List.append_nil]

/-- A file in a directory says the same by a path with a dot behind that of the directory. -/
theorem read_join_dot (t : FileTree) (here : Place) {dir name : String} (hn : IsSegment name)
    (hfit : (Path.join (Path.join dir ".") name).utf8ByteSize ≤ maxPath) :
    t.read here (Path.join (Path.join dir ".") name) = t.read here (Path.join dir name) := by
  rw [read, read, entryAt, entryAt, locate, locate, walk_join_dot t here true hn hfit]

end DeployPlan.FileTree
