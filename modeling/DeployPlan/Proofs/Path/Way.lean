import DeployPlan.Path

/-!
# The way that a path leads

`Path.way` are the segments of a path that lead anywhere: what stands between its slashes and is
neither empty nor a dot. A path that is continued by another one has the segments of both
(`segments_join`), and starts where the first one does (`isAbsolute_join`).

The steps of a path tell where it could leave a directory: `root_mem_steps_iff` and
`parent_mem_steps_iff` say which texts have such steps.
-/

namespace DeployPlan

open Text (joinWith splitOn)

namespace Path

/-! ## Segments -/

/-- What stands between the slashes of a text and is not empty. -/
def segmentsIn (s : List Char) : List (List Char) :=
  (splitOn '/' s).filter (· ≠ [])

theorem segments_eq (p : String) : segments p = segmentsIn p.toList :=
  rfl

theorem segmentsIn_append (a b : List Char) :
    segmentsIn (a ++ '/' :: b) = segmentsIn a ++ segmentsIn b := by
  rw [segmentsIn, Text.splitOn_append, List.filter_append, segmentsIn, segmentsIn]

theorem segmentsIn_slash_cons (s : List Char) : segmentsIn ('/' :: s) = segmentsIn s :=
  segmentsIn_append [] s

theorem segmentsIn_concat_slash (s : List Char) : segmentsIn (s ++ ['/']) = segmentsIn s :=
  (segmentsIn_append s []).trans (List.append_nil _)

theorem segmentsIn_of_not_mem {s : List Char} (hs : '/' ∉ s) (hn : s ≠ []) :
    segmentsIn s = [s] := by
  rw [segmentsIn, Text.splitOn_of_not_mem hs, List.filter_cons_of_pos (by simpa using hn)]
  rfl

theorem segmentsIn_dropWhile (s : List Char) :
    segmentsIn (s.dropWhile (· == '/')) = segmentsIn s := by
  induction s with
  | nil => rfl
  | cons c s ih =>
    rw [List.dropWhile_cons]
    split
    · rename_i hc
      rw [eq_of_beq hc, segmentsIn_slash_cons, ih]
    · rfl

theorem segmentsIn_trimEnd (s : List Char) :
    segmentsIn (Text.trimEndWhere (· == '/') s) = segmentsIn s := by
  rw [Text.trimEndWhere]
  generalize hr : s.reverse = r
  rw [← List.reverse_reverse s, hr]
  clear hr
  induction r with
  | nil => rfl
  | cons c r ih =>
    rw [List.dropWhile_cons]
    split
    · rename_i hc
      rw [ih, eq_of_beq hc, List.reverse_cons, segmentsIn_concat_slash]
    · rfl

theorem segmentsIn_joinWith (texts : List (List Char)) :
    segmentsIn (joinWith '/' texts) = texts.flatMap segmentsIn := by
  induction texts with
  | nil => rfl
  | cons text texts ih =>
    cases texts with
    | nil => rw [Text.joinWith_singleton, List.flatMap_singleton]
    | cons next texts => rw [Text.joinWith_cons_cons, segmentsIn_append, ih, ← List.flatMap_cons]

theorem isAbsolute_iff {p : String} : isAbsolute p = true ↔ p.toList.head? = some '/' :=
  beq_iff_eq

theorem isAbsolute_append {p : String} (hp : p ≠ "") (q : String) :
    isAbsolute (p ++ q) = isAbsolute p := by
  have hne : p.toList ≠ [] := by simpa using hp
  obtain ⟨c, r, hcons⟩ := List.exists_cons_of_ne_nil hne
  simp [isAbsolute, hcons]

/-! ## Continued paths -/

section

variable {p q : String} (hq : isAbsolute q = false)
include hq

/-- A path that is continued by another one goes through the segments of both. -/
theorem segments_join : segments (join p q) = segments p ++ segments q := by
  rw [join, hq, if_neg Bool.false_ne_true, segments_eq, segments_eq, segments_eq]
  split
  · rename_i hp
    rw [String.toList_append]
    rcases hp with rfl | hp
    · rfl
    · obtain ⟨front, hfront⟩ := List.getLast?_eq_some_iff.mp hp
      rw [hfront, List.append_assoc, List.singleton_append, segmentsIn_append,
        segmentsIn_concat_slash]
  · rw [String.toList_append, String.toList_append, List.append_assoc]
    exact segmentsIn_append p.toList q.toList

/-- A path that is continued starts where it did. -/
theorem isAbsolute_join : isAbsolute (join p q) = isAbsolute p := by
  rw [join, hq, if_neg Bool.false_ne_true]
  by_cases hp : p = ""
  · rw [if_pos (.inl hp), hp, String.empty_append, hq]
    rfl
  · split
    · exact isAbsolute_append hp q
    · rw [String.append_assoc]
      exact isAbsolute_append hp _

end

theorem exists_lead (p : String) : ∃ lead, ∀ {q}, isAbsolute q = false → join p q = lead ++ q := by
  by_cases hp : p = "" ∨ p.toList.getLast? = some '/'
  · refine ⟨p, fun hq => ?_⟩
    rw [join, hq, if_neg Bool.false_ne_true, if_pos hp]
  · refine ⟨p ++ "/", fun hq => ?_⟩
    rw [join, hq, if_neg Bool.false_ne_true, if_neg hp]

theorem join_join_dot (p : String) {q : String} (hq : isAbsolute q = false) :
    join (join p ".") q = join p "." ++ "/" ++ q := by
  obtain ⟨lead, hlead⟩ := exists_lead p
  have hdot : (join p ".").toList = lead.toList ++ ['.'] := by
    rw [hlead (by decide), String.toList_append]
    rfl
  have hnot : ¬(join p "." = "" ∨ (join p ".").toList.getLast? = some '/') := by
    rw [← String.toList_eq_nil_iff, hdot, List.getLast?_concat]
    simp
  rw [join, hq, if_neg Bool.false_ne_true, if_neg hnot]

/-! ## The way -/

/-- The segments of a path that lead anywhere. -/
def way (p : String) : List (List Char) :=
  (segments p).filter (· ≠ ['.'])

/-- The way to a directory, of which there may be none. -/
def wayOf (dir : Option String) : List (List Char) :=
  dir.elim [] way

theorem way_join {p q : String} (hq : isAbsolute q = false) : way (join p q) = way p ++ way q := by
  rw [way, segments_join hq, List.filter_append, way, way]

/-! ## Steps that may leave a directory -/

theorem root_mem_steps_iff {p : String} : .root ∈ steps p ↔ isAbsolute p = true := by
  have hstep : Step.root ∉ (segments p).map stepOf := by
    intro hm
    obtain ⟨segment, -, hs⟩ := List.mem_map.mp hm
    rw [stepOf] at hs
    split at hs
    · cases hs
    · split at hs <;> cases hs
  have hnot (f : Step → Bool) (n : Nat) : Step.root ∉ ((segments p).map stepOf).take n ++
      (((segments p).map stepOf).drop n).filter f := by
    rw [List.mem_append, not_or]
    exact ⟨fun hm => hstep (List.mem_of_mem_take hm),
      fun hm => hstep (List.mem_of_mem_drop (List.mem_filter.mp hm).1)⟩
  rw [steps]
  split
  · rename_i ha
    exact iff_of_true List.mem_cons_self ha
  · rename_i ha
    split
    · exact iff_of_false (hnot _ 1) ha
    · exact iff_of_false (hnot _ 0) ha

theorem parent_mem_steps_iff {p : String} :
    .parent ∈ steps p ↔ ['.', '.'] ∈ splitOn '/' p.toList := by
  have hstep : Step.parent ∈ (segments p).map stepOf ↔ ['.', '.'] ∈ splitOn '/' p.toList := by
    constructor
    · intro hm
      obtain ⟨segment, hs, he⟩ := List.mem_map.mp hm
      rw [stepOf] at he
      split at he
      · cases he
      · split at he
        · rename_i hp
          exact hp ▸ (List.mem_filter.mp hs).1
        · cases he
    · intro hm
      exact List.mem_map.mpr ⟨['.', '.'], List.mem_filter.mpr ⟨hm, rfl⟩, rfl⟩
  rw [← hstep, steps]
  split
  · simp
  · split
    · generalize (segments p).map stepOf = steps
      cases steps <;> simp
    · simp

end Path

end DeployPlan
