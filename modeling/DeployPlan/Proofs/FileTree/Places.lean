import DeployPlan.FileTree.Access
import DeployPlan.Proofs.Path.Way
import DeployPlan.Proofs.Recording

/-!
# Places and their paths

A path only ever leads to places made of names that an entry can have (`Legal`): `walkFrom_legal`
follows the walk, `locate_legal` says it of a whole path. The path of such a place leads through its
names and nothing else (`steps_pathOf`), so that the way from a place to one below it is made of the
names in between (`relativeTo?_pathOf`), and going that way leads there (`join_pathOf`).

The equations for the steps of a walk (`walkFrom_here`, `walkFrom_parent`, `walkFrom_link`,
`walkFrom_into`) are what is used of `walkFrom` where two trees are compared, and where a place is
known to be `Reachable` through directories.
-/

namespace DeployPlan

open Text (joinWith splitOn)

/-- What stands between the slashes of a path. -/
structure IsSegment (name : String) : Prop where
  ne_empty : name ≠ ""
  no_slash : '/' ∉ name.toList

/-- A name that an entry of a directory can have. -/
structure IsEntryName (name : String) : Prop extends IsSegment name where
  ne_here : name ≠ "."
  ne_parent : name ≠ ".."

instance (name : String) : Decidable (IsEntryName name) :=
  decidable_of_iff ((name ≠ "" ∧ '/' ∉ name.toList) ∧ name ≠ "." ∧ name ≠ "..")
    ⟨fun h => ⟨⟨h.1.1, h.1.2⟩, h.2.1, h.2.2⟩, fun h => ⟨⟨h.1.1, h.1.2⟩, h.2, h.3⟩⟩

/-- A place with names that entries can have. -/
def Place.Legal (p : Place) : Prop :=
  ∀ name ∈ p, IsEntryName name

namespace Place.Legal

theorem concat {p : Place} {name : String} (h : p.Legal) (hn : IsEntryName name) :
    Place.Legal (p ++ [name]) := by
  intro n hm
  rcases List.mem_append.mp hm with hm | hm
  · exact h n hm
  · rwa [List.mem_singleton.mp hm]

theorem dropLast {p : Place} (h : p.Legal) : Place.Legal p.dropLast :=
  fun n hn => h n (List.dropLast_subset p hn)

theorem left {p q : Place} (h : Place.Legal (p ++ q)) : p.Legal :=
  fun n hn => h n (List.mem_append_left q hn)

theorem right {p q : Place} (h : Place.Legal (p ++ q)) : q.Legal :=
  fun n hn => h n (List.mem_append_right p hn)

end Place.Legal

/-! ## Where a path leads -/

theorem IsSegment.isAbsolute_eq {name : String} (h : IsSegment name) :
    Path.isAbsolute name = false := by
  rw [Path.isAbsolute, beq_eq_false_iff_ne]
  exact fun he => h.no_slash (List.mem_of_head? he)

theorem IsSegment.segments_eq {name : String} (h : IsSegment name) :
    Path.segments name = [name.toList] := by
  rw [Path.segments_eq, Path.segmentsIn_of_not_mem h.no_slash (by simpa using h.ne_empty)]

theorem IsEntryName.way_eq {name : String} (h : IsEntryName name) :
    Path.way name = [name.toList] := by
  have hdot : name.toList ≠ ['.'] := fun he => h.ne_here (String.toList_inj.mp he)
  rw [Path.way, h.segments_eq, List.filter_cons_of_pos (by simpa using hdot), List.filter_nil]

namespace FileTree

theorem namesOf_join (p : String) {name : String} (h : IsSegment name) :
    namesOf (Path.join p name) = (Path.segments p).map String.ofList ++ [name] := by
  have hne : name.toList ≠ [] := by simpa using h.ne_empty
  have hsegments : Path.segments (Path.join p name) = Path.segments p ++ [name.toList] := by
    rw [Path.segments_join h.isAbsolute_eq, h.segments_eq]
  have hslash : (Path.join p name).toList.getLast? ≠ some '/' := by
    obtain ⟨lead, hlead⟩ := Path.exists_lead p
    rw [hlead h.isAbsolute_eq, String.toList_append, List.getLast?_append,
      List.getLast?_eq_some_getLast hne, Option.some_or]
    exact fun he => h.no_slash (Option.some.inj he ▸ List.getLast_mem hne)
  rw [namesOf, if_neg fun hc => hslash hc.2, hsegments, List.map_append, List.map_singleton,
    String.ofList_toList]

theorem isSegment_of_mem_namesOf {path name : String} (h : name ∈ namesOf path) :
    IsSegment name := by
  have hsegment (hm : name ∈ (Path.segments path).map String.ofList) : IsSegment name := by
    obtain ⟨segment, hs, rfl⟩ := List.mem_map.mp hm
    obtain ⟨hs, hne⟩ := List.mem_filter.mp hs
    refine ⟨fun he => ?_, ?_⟩
    · simp_all
    · rw [String.toList_ofList]
      exact Text.not_mem_of_mem_splitOn hs
  rw [namesOf] at h
  split at h
  · rcases List.mem_append.mp h with h | h
    · exact hsegment h
    · rw [List.mem_singleton.mp h]
      exact ⟨by decide, by decide⟩
  · exact hsegment h

def Goal.place : Goal → Place
  | .found p | .vacant p => p

/-- Going on from a legal place leads to legal places only. -/
theorem walkFrom_legal {t : FileTree} {follow : Bool} {links : Nat} {here : Place}
    {names : List String} {goal : Goal} (hh : here.Legal) (hn : ∀ name ∈ names, IsSegment name)
    (h : t.walkFrom follow links here names = .ok goal) : goal.place.Legal := by
  have hentry {here : Place} {name : String} (hh : here.Legal) (hn : IsSegment name)
      (h1 : name ≠ ".") (h2 : name ≠ "..") : Place.Legal (here ++ [name]) :=
    hh.concat ⟨hn, h1, h2⟩
  fun_induction walkFrom t follow links here names with
  | case1 links here =>
    cases h
    exact hh
  | case5 links here rest hd ih =>
    exact ih hh (List.forall_mem_cons.mp hn).2 h
  | case6 links here rest hd hne ih =>
    exact ih hh.dropLast (List.forall_mem_cons.mp hn).2 h
  | case8 links here name hd h1 h2 hsize there hv =>
    cases h
    exact hentry hh (List.forall_mem_cons.mp hn).1 h1 h2
  | case10 links here name rest hd h1 h2 hsize there target hl hlast =>
    cases h
    exact hentry hh (List.forall_mem_cons.mp hn).1 h1 h2
  | case12 here name rest hd h1 h2 hsize there target hl hlast links ih =>
    refine ih ?_ (fun n hm => ?_) h
    · split
      · exact nofun
      · exact hh
    · rcases List.mem_append.mp hm with hm | hm
      · exact isSegment_of_mem_namesOf hm
      · exact (List.forall_mem_cons.mp hn).2 n hm
  | case13 links here name rest hd h1 h2 hsize there e hlink he ih =>
    exact ih (hentry hh (List.forall_mem_cons.mp hn).1 h1 h2) (List.forall_mem_cons.mp hn).2 h
  | case2 | case3 | case4 | case7 | case9 | case11 => cases h

/-- A path that can be walked along. -/
structure Walkable (path : String) : Prop where
  ne_empty : path ≠ ""
  no_nul : '\x00' ∉ path.toList
  fits : path.utf8ByteSize ≤ maxPath

/-- Such a path is walked through its names, in every tree. -/
theorem Walkable.walk {path : String} (h : Walkable path) (t : FileTree) (here : Place)
    (follow : Bool) :
    t.walk here follow path =
      t.walkFrom follow maxLinks (if Path.isAbsolute path then [] else here) (namesOf path) := by
  rw [FileTree.walk, if_neg (by simpa using h.no_nul), if_neg h.ne_empty,
    if_neg (Nat.not_lt.mpr h.fits)]

theorem Walkable.of_walk {t : FileTree} {here : Place} {follow : Bool} {path : String} {goal : Goal}
    (h : t.walk here follow path = .ok goal) : Walkable path := by
  rw [FileTree.walk] at h
  split at h
  · cases h
  · rename_i hnul
    split at h
    · cases h
    · rename_i hempty
      split at h
      · cases h
      · rename_i hlong
        exact ⟨hempty, by simpa using hnul, Nat.not_lt.mp hlong⟩

theorem walk_legal {t : FileTree} {here : Place} {follow : Bool} {path : String} {goal : Goal}
    (hh : here.Legal) (h : t.walk here follow path = .ok goal) : goal.place.Legal := by
  rw [(Walkable.of_walk h).walk] at h
  refine walkFrom_legal ?_ (fun name hn => isSegment_of_mem_namesOf hn) h
  split
  · exact nofun
  · exact hh

theorem locate_eq_ok_iff {t : FileTree} {here p : Place} {path : String} :
    t.locate here path = .ok p ↔ t.walk here true path = .ok (.found p) := by
  rw [locate]
  split <;> simp_all

theorem locate_legal {t : FileTree} {here p : Place} {path : String} (hh : here.Legal)
    (h : t.locate here path = .ok p) : p.Legal :=
  walk_legal hh (locate_eq_ok_iff.mp h)

theorem entryAt_eq_ok_iff {t : FileTree} {here : Place} {path : String} {e : Entry} :
    t.entryAt here path = .ok e ↔ ∃ p, t.locate here path = .ok p ∧ t.get? p = some e := by
  refine bind_eq_ok.trans (exists_congr fun p => and_congr_right fun _ => ?_)
  cases t.get? p with
  | none => simp
  | some e' => simp

/-! ## The path of a place -/

/-- The text of the names on the way from one place to another. -/
def wayText (way : Place) : String :=
  "/".intercalate way

theorem toList_wayText (way : Place) : (wayText way).toList = joinWith '/' (way.map (·.toList)) := by
  rw [wayText, String.toList_intercalate, joinWith]
  rfl

theorem toList_pathOf (p : Place) :
    (pathOf p).toList = '/' :: joinWith '/' (p.map (·.toList)) := by
  rw [pathOf, String.toList_append, ← toList_wayText, wayText]
  rfl

theorem isAbsolute_pathOf (p : Place) : Path.isAbsolute (pathOf p) = true := by
  rw [Path.isAbsolute, toList_pathOf]
  rfl

theorem pathOf_ne_empty (p : Place) : pathOf p ≠ "" := by
  intro he
  have habsolute := isAbsolute_pathOf p
  rw [he] at habsolute
  exact absurd habsolute (by decide)

theorem segments_pathOf {p : Place} (h : p.Legal) :
    Path.segments (pathOf p) = p.map (·.toList) := by
  have hslash : ∀ piece ∈ p.map (·.toList), '/' ∉ piece := by
    intro piece hm
    obtain ⟨name, hn, rfl⟩ := List.mem_map.mp hm
    exact (h name hn).no_slash
  have hne : ∀ piece ∈ p.map (·.toList), piece ≠ [] := by
    intro piece hm
    obtain ⟨name, hn, rfl⟩ := List.mem_map.mp hm
    simpa using (h name hn).ne_empty
  rw [Path.segments, toList_pathOf, ← List.nil_append ('/' :: _), Text.splitOn_append,
    List.filter_append]
  show [] ++ List.filter _ _ = _
  rw [List.nil_append]
  by_cases hp : p = []
  · subst hp
    rfl
  · rw [Text.splitOn_joinWith (by simpa using hp) hslash, List.filter_eq_self.mpr]
    intro piece hm
    simpa using hne piece hm

/-- The path of a legal place leads from the root through its names. -/
theorem steps_pathOf {p : Place} (h : p.Legal) :
    Path.steps (pathOf p) = .root :: p.map fun name => .name name.toList := by
  have hstep : (p.map (·.toList)).map Path.stepOf =
      p.map fun name => Path.Step.name name.toList := by
    rw [List.map_map]
    refine List.map_congr_left fun name hn => ?_
    have h1 : name.toList ≠ ['.'] := fun he => (h name hn).ne_here (String.toList_inj.mp he)
    have h2 : name.toList ≠ ['.', '.'] := fun he => (h name hn).ne_parent (String.toList_inj.mp he)
    rw [Function.comp_apply, Path.stepOf, if_neg h1, if_neg h2]
  rw [Path.steps, segments_pathOf h, isAbsolute_pathOf, if_pos rfl, hstep, List.filter_eq_self.mpr]
  simp

theorem stripSteps?_append (lead steps : List Path.Step) :
    Path.stripSteps? lead (lead ++ steps) = some steps := by
  induction lead with
  | nil => rfl
  | cons a lead ih => rw [List.cons_append, Path.stripSteps?, if_pos rfl, ih]

/-- The way to a place below another one. -/
theorem relativeTo?_pathOf {root way : Place} (h : Place.Legal (root ++ way)) :
    Path.relativeTo? (pathOf root) (pathOf (root ++ way)) = some (wayText way) := by
  have htext : Path.ofSteps (way.map fun name => .name name.toList) = wayText way := by
    have hchars : ((way.map fun name => Path.Step.name name.toList).map Path.Step.toChars) =
        way.map (·.toList) := by
      rw [List.map_map]
      rfl
    rw [← String.toList_inj, toList_wayText]
    cases way with
    | nil => rfl
    | cons name way => rw [← hchars]; exact String.toList_ofList
  rw [Path.relativeTo?, steps_pathOf h.left, steps_pathOf h, List.map_append, ← List.cons_append,
    stripSteps?_append, Option.map_some, htext]

theorem wayText_eq_empty_iff {way : Place} (h : way.Legal) : wayText way = "" ↔ way = [] := by
  refine ⟨fun he => ?_, fun he => he ▸ rfl⟩
  rw [← String.toList_inj, toList_wayText] at he
  cases way with
  | nil => rfl
  | cons name way =>
    obtain ⟨back, hb⟩ := Text.exists_joinWith_cons '/' name.toList (way.map (·.toList))
    rw [List.map_cons, hb] at he
    have hname : name.toList = [] := (List.append_eq_nil_iff.mp he).1
    exact absurd (String.toList_eq_nil_iff.mp hname) (h name List.mem_cons_self).ne_empty

/-- The path of a place below another one consists of the path of that one and the way. -/
theorem toList_pathOf_append {root way : Place} (h : way ≠ []) :
    (pathOf (root ++ way)).toList =
      (if root = [] then ['/'] else (pathOf root).toList ++ ['/']) ++ (wayText way).toList := by
  rw [toList_pathOf, List.map_append, toList_wayText]
  split
  · rename_i hr
    subst hr
    rfl
  · rename_i hr
    rw [Text.joinWith_append '/' (by simpa using hr) (by simpa using h), toList_pathOf]
    simp

theorem getLast?_pathOf {p : Place} (h : p.Legal) :
    (pathOf p).toList.getLast? = some '/' ↔ p = [] := by
  refine ⟨fun hl => ?_, fun hp => hp ▸ rfl⟩
  rcases List.eq_nil_or_concat p with hp | ⟨front, name, hp⟩
  · exact hp
  · rw [List.concat_eq_append] at hp
    subst hp
    have hn := h name (List.mem_append_right front (List.mem_singleton_self name))
    have hne : name.toList ≠ [] := by simpa using hn.ne_empty
    rw [toList_pathOf_append (List.cons_ne_nil name []), toList_wayText, List.map_singleton,
      Text.joinWith_singleton, List.getLast?_append, List.getLast?_eq_some_getLast hne,
      Option.some_or] at hl
    exact absurd (Option.some.inj hl ▸ List.getLast_mem hne) hn.no_slash

theorem isAbsolute_wayText {way : Place} (h : way.Legal) : Path.isAbsolute (wayText way) = false := by
  rw [Path.isAbsolute, toList_wayText]
  cases way with
  | nil => rfl
  | cons name way =>
    have hn := h name List.mem_cons_self
    obtain ⟨back, hb⟩ := Text.exists_joinWith_cons '/' name.toList (way.map (·.toList))
    rw [List.map_cons, hb]
    cases hc : name.toList with
    | nil => exact absurd (String.toList_eq_nil_iff.mp hc) hn.ne_empty
    | cons c r =>
      have hslash : c ≠ '/' := by
        rintro rfl
        exact hn.no_slash (hc ▸ List.mem_cons_self)
      simpa using hslash

/-- A relative path goes on behind the path of a place. -/
theorem toList_join_pathOf {root : Place} (h : root.Legal) {q : String}
    (hq : Path.isAbsolute q = false) : (Path.join (pathOf root) q).toList =
      (if root = [] then ['/'] else (pathOf root).toList ++ ['/']) ++ q.toList := by
  rw [Path.join, hq, if_neg Bool.false_ne_true]
  by_cases hr : root = []
  · rw [if_pos (.inr ((getLast?_pathOf h).mpr hr)), if_pos hr, String.toList_append, hr]
    rfl
  · rw [if_neg (by simp [pathOf_ne_empty, getLast?_pathOf h, hr]), if_neg hr, String.toList_append,
      String.toList_append]
    rfl

/-- Going the way from a place to one below it leads there. -/
theorem join_pathOf {root way : Place} (h : Place.Legal (root ++ way)) (hw : way ≠ []) :
    Path.join (pathOf root) (wayText way) = pathOf (root ++ way) := by
  rw [← String.toList_inj, toList_join_pathOf h.left (isAbsolute_wayText h.right),
    toList_pathOf_append hw]

/-! ## The steps of a walk -/

section

variable {t : FileTree} {follow : Bool} {links : Nat} {here : Place} {name : String}

theorem walkFrom_here (rest : List String) (hd : t.get? here = some .directory) :
    t.walkFrom follow links here ("." :: rest) = t.walkFrom follow links here rest := by
  rw [walkFrom]
  simp only [hd, if_true]

theorem walkFrom_parent (rest : List String) (hd : t.get? here = some .directory) :
    t.walkFrom follow links here (".." :: rest) = t.walkFrom follow links here.dropLast rest := by
  rw [walkFrom]
  simp only [hd, if_neg (show ¬".." = "." by decide), if_true]

/-- The walk goes on where a link says, unless the link is the last and not followed. -/
theorem walkFrom_link {target : String} {rest : List String} (hd : t.get? here = some .directory)
    (hh : name ≠ ".") (hp : name ≠ "..") (hs : ¬name.utf8ByteSize > maxName)
    (hlink : t.get? (here ++ [name]) = some (.link target))
    (hlast : ¬(rest = [] ∧ (!follow) = true)) :
    t.walkFrom follow (links + 1) here (name :: rest) =
      t.walkFrom follow links (if Path.isAbsolute target then [] else here)
        (namesOf target ++ rest) := by
  rw [walkFrom]
  simp only [hd, if_neg hh, if_neg hp, if_neg hs, hlink, if_neg hlast]

/-- The walk goes into what is no link. -/
theorem walkFrom_into {e : Entry} (rest : List String) (hd : t.get? here = some .directory)
    (hh : name ≠ ".") (hp : name ≠ "..") (hs : ¬name.utf8ByteSize > maxName)
    (he : t.get? (here ++ [name]) = some e) (hlink : ∀ target, e ≠ .link target) :
    t.walkFrom follow links here (name :: rest) = t.walkFrom follow links (here ++ [name]) rest := by
  rw [walkFrom]
  simp only [hd, if_neg hh, if_neg hp, if_neg hs, he]

end

/-- Names of directories lead down to the last of them, and on from there. -/
theorem walkFrom_through {t : FileTree} (follow : Bool) (links : Nat) {here names : Place}
    (rest : List String) (hl : names.Legal)
    (hfit : ∀ name ∈ names, name.utf8ByteSize ≤ maxName)
    (hd : ∀ q, q <+: names → t.get? (here ++ q) = some .directory) :
    t.walkFrom follow links here (names ++ rest) =
      t.walkFrom follow links (here ++ names) rest := by
  induction names generalizing here with
  | nil => rw [List.nil_append, List.append_nil]
  | cons name names ih =>
    have hname := hl name List.mem_cons_self
    have hhere : t.get? here = some .directory := by
      simpa using hd [] List.nil_prefix
    have hthere : t.get? (here ++ [name]) = some .directory :=
      hd [name] (by simp)
    have hbelow : ∀ q, q <+: names → t.get? (here ++ [name] ++ q) = some .directory := by
      intro q hq
      simpa using hd (name :: q) (List.cons_prefix_cons.mpr ⟨rfl, hq⟩)
    rw [List.cons_append, walkFrom_into (names ++ rest) hhere hname.ne_here hname.ne_parent
      (Nat.not_lt.mpr (hfit name List.mem_cons_self)) hthere nofun,
      ih (fun n hn => hl n (List.mem_cons_of_mem name hn))
        (fun n hn => hfit n (List.mem_cons_of_mem name hn)) hbelow, List.append_assoc,
      List.singleton_append]

theorem namesOf_pathOf {p : Place} (h : p.Legal) : namesOf (pathOf p) = p := by
  have hnames : (Path.segments (pathOf p)).map String.ofList = p := by
    rw [segments_pathOf h, List.map_map]
    refine (List.map_congr_left fun name _ => ?_).trans (List.map_id p)
    exact String.ofList_toList
  rw [namesOf, hnames, if_neg]
  rintro ⟨hp, hs⟩
  exact hp ((getLast?_pathOf h).mp hs)

/-- The path of a legal place is walked along through its names. -/
theorem walk_pathOf {p : Place} (h : p.Legal) (hfit : (pathOf p).utf8ByteSize ≤ maxPath)
    (hnul : ∀ name ∈ p, '\x00' ∉ name.toList) (t : FileTree) (here : Place) (follow : Bool) :
    t.walk here follow (pathOf p) = t.walkFrom follow maxLinks [] p := by
  have hnul : '\x00' ∉ (pathOf p).toList := by
    intro hc
    rw [toList_pathOf, List.mem_cons] at hc
    rcases hc with hc | hc
    · cases hc
    · rcases Text.mem_joinWith hc with hs | ⟨piece, hp, hm⟩
      · cases hs
      · obtain ⟨name, hn, rfl⟩ := List.mem_map.mp hp
        exact hnul name hn hm
  have hwalkable : Walkable (pathOf p) := ⟨pathOf_ne_empty p, hnul, hfit⟩
  rw [hwalkable.walk, isAbsolute_pathOf, if_pos rfl, namesOf_pathOf h]

/-! ## The way down -/

/-- A directory that its path leads to: there are directories all the way, and nothing is too
long. -/
structure Reachable (t : FileTree) (p : Place) : Prop where
  legal : p.Legal
  directories : ∀ q, q <+: p → t.get? q = some .directory
  names_fit : ∀ name ∈ p, name.utf8ByteSize ≤ maxName
  path_fits : (pathOf p).utf8ByteSize ≤ maxPath
  no_nul : ∀ name ∈ p, '\x00' ∉ name.toList

theorem Reachable.root (t : FileTree) : Reachable t [] where
  legal := nofun
  directories q hq := by
    rw [List.prefix_nil.mp hq]
    rfl
  names_fit := nofun
  path_fits := by decide
  no_nul := nofun

/-- A directory in one that can be reached can be reached. -/
theorem Reachable.child {t : FileTree} {p : Place} {name : String} (h : Reachable t p)
    (hn : IsEntryName name) (hd : t.get? (p ++ [name]) = some .directory)
    (hfit : name.utf8ByteSize ≤ maxName) (hnul : '\x00' ∉ name.toList)
    (hpath : (pathOf (p ++ [name])).utf8ByteSize ≤ maxPath) : Reachable t (p ++ [name]) where
  legal := h.legal.concat hn
  directories q hq := by
    rcases List.prefix_concat_iff.mp hq with rfl | hq
    · exact hd
    · exact h.directories q hq
  names_fit := List.forall_mem_append.mpr ⟨h.names_fit, by simpa using hfit⟩
  path_fits := hpath
  no_nul := List.forall_mem_append.mpr ⟨h.no_nul, by simpa using hnul⟩

/-- The path of a directory that can be reached leads there. -/
theorem Reachable.walk {t : FileTree} {p : Place} (h : Reachable t p) (here : Place)
    (follow : Bool) : t.walk here follow (pathOf p) = .ok (.found p) := by
  have hthrough : t.walkFrom follow maxLinks [] (p ++ []) = t.walkFrom follow maxLinks p [] :=
    walkFrom_through follow maxLinks [] h.legal h.names_fit h.directories
  rw [List.append_nil] at hthrough
  rw [walk_pathOf h.legal h.path_fits h.no_nul, hthrough, walkFrom]

theorem Reachable.locate {t : FileTree} {p : Place} (h : Reachable t p) (here : Place) :
    t.locate here (pathOf p) = .ok p :=
  locate_eq_ok_iff.mpr (h.walk here true)

theorem Reachable.entryAt {t : FileTree} {p : Place} (h : Reachable t p) (here : Place) :
    t.entryAt here (pathOf p) = .ok .directory :=
  entryAt_eq_ok_iff.mpr ⟨p, h.locate here, h.directories p (List.prefix_refl p)⟩

/-- The path of a file in a directory that can be reached leads to the file. -/
theorem Reachable.entryAt_file {t : FileTree} {p : Place} (h : Reachable t p) (here : Place)
    (name : String) {content : ByteArray} (hf : t.get? (p ++ [name]) = some (.file content))
    (hn : IsEntryName name) (hfit : name.utf8ByteSize ≤ maxName) (hnul : '\x00' ∉ name.toList)
    (hpath : (pathOf (p ++ [name])).utf8ByteSize ≤ maxPath) :
    t.entryAt here (pathOf (p ++ [name])) = .ok (.file content) := by
  have hthrough : t.walkFrom true maxLinks [] (p ++ [name]) = t.walkFrom true maxLinks p [name] :=
    walkFrom_through true maxLinks [name] h.legal h.names_fit h.directories
  have hnul : ∀ n ∈ p ++ [name], '\x00' ∉ n.toList :=
    List.forall_mem_append.mpr ⟨h.no_nul, by simpa using hnul⟩
  have hwalk : t.walk here true (pathOf (p ++ [name])) = .ok (.found (p ++ [name])) := by
    rw [walk_pathOf (h.legal.concat hn) hpath hnul, hthrough,
      walkFrom_into [] (h.directories p (List.prefix_refl p)) hn.ne_here hn.ne_parent
        (Nat.not_lt.mpr hfit) hf nofun, walkFrom]
  exact entryAt_eq_ok_iff.mpr ⟨p ++ [name], locate_eq_ok_iff.mpr hwalk, hf⟩

end FileTree

end DeployPlan
