import DeployPlan.Proofs.DnsName.Normal
import Mathlib.Computability.Language

/-!
# The grammar of names

The checks of names go through a text once, from place to place. Here they are compared with two
ways to say what a name is:

* as a pattern (`labels`, `subdomains`), with a repeated group in it that has an optional end;
* by its parts, the pieces between dots, of which each one has letters, digits and inner hyphens.

`conforms_eq_all_splitOn` takes the check apart at the dots, so that both ways come down to one part
(`mem_labels_iff`, `mem_subdomains_iff`). From the parts it follows that names may be joined with
dots (`isSubdomain_join`).
-/

namespace DeployPlan.DnsName

open Computability Text

variable {place : Place} {s : List Char}

/-! ## Checks in parts -/

theorem conforms_of_dot_not_mem (h : '.' ∉ s) (place : Place) :
    conforms true place s = conforms false place s := by
  induction s generalizing place with
  | nil => rfl
  | cons c s ih =>
    obtain ⟨hc, hs⟩ := List.ne_and_not_mem_of_not_mem_cons h
    have hdot : (c == '.') = false := by simpa using Ne.symm hc
    simp only [conforms, ih hs, hdot, Bool.and_false, Bool.false_and]

theorem conforms_append_dot (h : '.' ∉ s) (place : Place) (r : List Char) :
    conforms true place (s ++ '.' :: r) = (conforms false place s && conforms true .start r) := by
  induction s generalizing place with
  | nil =>
    have halnum : isAlnum '.' = false := rfl
    simp [conforms, halnum]
  | cons c s ih =>
    obtain ⟨hc, hs⟩ := List.ne_and_not_mem_of_not_mem_cons h
    have hdot : (c == '.') = false := by simpa using Ne.symm hc
    rw [List.cons_append, conforms, conforms, ih hs, ih hs, hdot]
    split
    · rfl
    · split
      · rw [Bool.and_assoc]
      · simp

/-- A name is checked piece by piece. -/
theorem conforms_joinWith {pieces : List (List Char)} (hn : pieces ≠ [])
    (h : ∀ piece ∈ pieces, '.' ∉ piece) :
    conforms true .start (joinWith '.' pieces) = pieces.all (conforms false .start) := by
  induction pieces with
  | nil => exact absurd rfl hn
  | cons piece pieces ih =>
    obtain ⟨hpiece, hpieces⟩ := List.forall_mem_cons.mp h
    cases pieces with
    | nil =>
      rw [joinWith_singleton, conforms_of_dot_not_mem hpiece]
      simp
    | cons next rest =>
      have hrest := ih (List.cons_ne_nil next rest) hpieces
      rw [joinWith_cons_cons, conforms_append_dot hpiece, List.all_cons, hrest]

/-- The pieces between the dots of a name are checked one by one. -/
theorem conforms_eq_all_splitOn (s : List Char) :
    conforms true .start s = (splitOn '.' s).all (conforms false .start) := by
  have hjoin : joinWith '.' (splitOn '.' s) = s := joinWith_splitOn '.' s
  have hcheck := conforms_joinWith (splitWhere_ne_nil _ s) fun piece (hp : piece ∈ splitOn '.' s) =>
    not_mem_of_mem_splitOn hp
  rw [← splitOn, hjoin] at hcheck
  exact hcheck

theorem Part.dot_not_mem (h : Part s) : '.' ∉ s := by
  intro hdot
  rcases h.forall_mem '.' hdot with h | h
  · cases h
  · cases h

/-! ## Patterns -/

/-- The texts of one character with a property. -/
def oneOf (p : Char → Bool) : Language Char :=
  {s | ∃ c, p c = true ∧ s = [c]}

/-- A letter or digit, and perhaps more of them after letters, digits and hyphens:
`[a-z0-9]([-a-z0-9]*[a-z0-9])?`. -/
def labels : Language Char :=
  oneOf isAlnum * ((oneOf fun c => c == '-' || isAlnum c)∗ * oneOf isAlnum + 1)

/-- Such parts, with a dot before each but the first: `L(\.L)*`, `L` being the pattern of a part. -/
def subdomains : Language Char :=
  labels * (oneOf (· == '.') * labels)∗

theorem mem_kstar_oneOf_iff {p : Char → Bool} : s ∈ (oneOf p)∗ ↔ ∀ c ∈ s, p c = true := by
  rw [Language.mem_kstar]
  constructor
  · rintro ⟨words, rfl, hwords⟩ c hc
    obtain ⟨word, hword, hc⟩ := List.mem_flatten.mp hc
    obtain ⟨d, hd, rfl⟩ := hwords word hword
    rwa [List.mem_singleton.mp hc]
  · intro h
    refine ⟨s.map fun c => [c], ?_, fun word hword => ?_⟩
    · rw [← List.flatMap_def, List.flatMap_singleton']
    · obtain ⟨c, hc, rfl⟩ := List.mem_map.mp hword
      exact ⟨c, h c hc, rfl⟩

/-- The pattern of a part describes letters, digits and inner hyphens. -/
theorem mem_labels_iff : s ∈ labels ↔ s ≠ [] ∧ Part s := by
  have hhyphen : isAlnum '-' = false := isAlnum_hyphen
  constructor
  · rintro ⟨_, ⟨c, hc, rfl⟩, t, ht, rfl⟩
    refine ⟨List.cons_ne_nil c t, ?_⟩
    have hhead : (c :: t).head? ≠ some '-' := by
      rw [List.head?_cons, Ne, Option.some_inj]
      rintro rfl
      rw [hhyphen] at hc
      cases hc
    rcases ht with ⟨inner, hinner, _, ⟨d, hd, rfl⟩, rfl⟩ | ht
    · refine ⟨fun e he => ?_, hhead, ?_⟩
      · have hmem : e = c ∨ e ∈ inner ∨ e = d := by simpa using he
        rcases hmem with rfl | he | rfl
        · exact .inl hc
        · have hbetween := mem_kstar_oneOf_iff.mp hinner e he
          rw [Bool.or_eq_true, beq_iff_eq] at hbetween
          exact hbetween.symm
        · exact .inl hd
      · show ((c :: inner) ++ [d]).getLast? ≠ some '-'
        rw [List.getLast?_concat, Ne, Option.some_inj]
        rintro rfl
        rw [hhyphen] at hd
        cases hd
    · obtain rfl : t = [] := ht
      refine ⟨fun e he => ?_, hhead, hhead⟩
      rw [List.mem_singleton.mp he]
      exact .inl hc
  · rintro ⟨hn, part⟩
    obtain ⟨c, t, rfl⟩ := List.exists_cons_of_ne_nil hn
    obtain ⟨hc, ht⟩ := List.forall_mem_cons.mp part.forall_mem
    have hc : isAlnum c = true := hc.resolve_right fun h => part.head (congrArg some h)
    refine ⟨[c], ⟨c, hc, rfl⟩, t, ?_, rfl⟩
    rcases List.eq_nil_or_concat t with rfl | ⟨inner, d, rfl⟩
    · exact .inr rfl
    · rw [List.concat_eq_append] at ht part
      obtain ⟨hinner, hd⟩ := List.forall_mem_append.mp ht
      have hlast : d ≠ '-' := by
        rintro rfl
        exact part.last (List.getLast?_concat (l := c :: inner))
      have hd : isAlnum d = true := (hd d (List.mem_singleton_self d)).resolve_right hlast
      refine .inl ⟨inner, mem_kstar_oneOf_iff.mpr fun e he => ?_, [d], ⟨d, hd, rfl⟩, by simp⟩
      rw [Bool.or_eq_true, beq_iff_eq]
      exact (hinner e he).symm

theorem joinWith_cons_eq_append_flatten (first : List Char) (rest : List (List Char)) :
    joinWith '.' (first :: rest) = first ++ (rest.map ('.' :: ·)).flatten := by
  induction rest generalizing first with
  | nil => simp [joinWith_singleton]
  | cons next rest ih => rw [joinWith_cons_cons, ih next, List.map_cons, List.flatten_cons]; rfl

/-- The pattern of names describes parts with dots between them. -/
theorem mem_subdomains_iff :
    s ∈ subdomains ↔ ∀ piece ∈ splitOn '.' s, piece ≠ [] ∧ Part piece := by
  constructor
  · rintro ⟨first, hfirst, _, ⟨words, rfl, hwords⟩, rfl⟩
    obtain ⟨rest, rfl⟩ : ∃ rest : List (List Char), words = rest.map ('.' :: ·) := by
      refine ⟨words.map List.tail, ?_⟩
      rw [List.map_map]
      refine (List.map_id words).symm.trans (List.map_congr_left fun word hword => ?_)
      obtain ⟨_, ⟨c, hc, rfl⟩, piece, -, rfl⟩ := hwords word hword
      rw [beq_iff_eq.mp hc]
      rfl
    have hrest : ∀ piece ∈ rest, piece ∈ labels := by
      intro piece hp
      obtain ⟨_, ⟨c, -, rfl⟩, _, hpiece, he⟩ := hwords ('.' :: piece) (List.mem_map_of_mem hp)
      obtain ⟨-, rfl⟩ := List.cons.inj he
      exact hpiece
    have hall : ∀ piece ∈ first :: rest, piece ≠ [] ∧ Part piece := fun piece hp =>
      mem_labels_iff.mp ((List.forall_mem_cons.mpr ⟨hfirst, hrest⟩) piece hp)
    show ∀ piece ∈ splitOn '.' (first ++ (rest.map ('.' :: ·)).flatten), _
    rw [← joinWith_cons_eq_append_flatten, splitOn_joinWith (List.cons_ne_nil first rest)
      fun piece hp => (hall piece hp).2.dot_not_mem]
    exact hall
  · intro h
    obtain ⟨first, rest, hpieces⟩ := List.exists_cons_of_ne_nil (splitWhere_ne_nil (· == '.') s)
    have hpieces : splitOn '.' s = first :: rest := hpieces
    rw [hpieces] at h
    obtain ⟨hfirst, hrest⟩ := List.forall_mem_cons.mp h
    rw [← joinWith_splitOn '.' s, hpieces, joinWith_cons_eq_append_flatten]
    refine Language.append_mem_mul (mem_labels_iff.mpr hfirst) (Language.join_mem_kstar ?_)
    intro word hword
    obtain ⟨piece, hp, rfl⟩ := List.mem_map.mp hword
    exact ⟨['.'], ⟨'.', rfl, rfl⟩, piece, mem_labels_iff.mpr (hrest piece hp), rfl⟩

/-! ## Names -/

theorem isSubdomain_iff {name : String} :
    isSubdomain name = true ↔ byteLength name.toList ≤ 253 ∧
      ∀ piece ∈ splitOn '.' name.toList, piece ≠ [] ∧ Part piece := by
  rw [isSubdomain, Bool.and_eq_true, decide_eq_true_eq, conforms_eq_all_splitOn, List.all_eq_true]
  simp only [conforms_label_iff]
  exact Iff.rfl

/-- Names joined with dots have the parts of all of them. -/
theorem isSubdomain_join {names : List String} (hn : names ≠ [])
    (h : ∀ name ∈ names, isSubdomain name = true)
    (hbytes : byteLength (".".intercalate names).toList ≤ 253) :
    isSubdomain (".".intercalate names) = true := by
  have htext : (".".intercalate names).toList = joinWith '.' (names.map (·.toList)) := by
    rw [String.toList_intercalate, joinWith]
    rfl
  refine isSubdomain_iff.mpr ⟨hbytes, ?_⟩
  rw [htext]
  clear hbytes htext
  induction names with
  | nil => exact absurd rfl hn
  | cons name names ih =>
    obtain ⟨hname, hnames⟩ := List.forall_mem_cons.mp h
    have hfirst := (isSubdomain_iff.mp hname).2
    cases names with
    | nil => rwa [List.map_singleton, joinWith_singleton]
    | cons next rest =>
      have hrest := ih (List.cons_ne_nil next rest) hnames
      rw [List.map_cons, List.map_cons, joinWith_cons_cons, splitOn_append, ← List.map_cons]
      exact List.forall_mem_append.mpr ⟨hfirst, hrest⟩

theorem not_mem_of_isSubdomain {name : String} {c : Char} (hc : isAlnum c = false)
    (hh : c ≠ '-') (hd : c ≠ '.') (h : isSubdomain name = true) : c ∉ name.toList := by
  intro hm
  have hconforms := (Bool.and_eq_true_iff.mp h).2
  rcases forall_mem_of_conforms hconforms c hm with ha | rfl | rfl
  · rw [hc] at ha
    cases ha
  · exact hh rfl
  · exact hd rfl

/-- The checks accept exactly their patterns, of no more bytes than may be: a name of several parts
is one to which the pattern applies, which is to say that each of its pieces between dots is a part;
a label is one such part, and has no dot. So labels are names, names joined with dots are names as
far as their length goes, and nothing that ends in a line feed is a name. -/
theorem names_accepted :
    (∀ name : String, isSubdomain name = true ↔
      byteLength name.toList ≤ 253 ∧ name.toList ∈ subdomains) ∧
    (∀ name : String, isSubdomain name = true ↔
      byteLength name.toList ≤ 253 ∧ ∀ piece ∈ splitOn '.' name.toList, piece ≠ [] ∧ Part piece) ∧
    (∀ name : String, isLabel name = true ↔
      byteLength name.toList ≤ 63 ∧ name.toList ∈ labels) ∧
    (∀ name : String, isLabel name = true ↔
      byteLength name.toList ≤ 63 ∧ name.toList ≠ [] ∧ Part name.toList ∧ '.' ∉ name.toList) ∧
    (∀ name : String, isLabel name = true → isSubdomain name = true) ∧
    (∀ names : List String, names ≠ [] → (∀ name ∈ names, isSubdomain name = true) →
      byteLength (".".intercalate names).toList ≤ 253 →
        isSubdomain (".".intercalate names) = true) ∧
    ∀ name : String, isLabel (name ++ "\n") = false ∧ isSubdomain (name ++ "\n") = false := by
  have hnewline (name : String) : isSubdomain (name ++ "\n") = false := by
    refine Bool.eq_false_iff.mpr fun h => ?_
    refine not_mem_of_isSubdomain (c := '\n') rfl (by decide) (by decide) h ?_
    rw [String.toList_append]
    exact List.mem_append_right _ (List.mem_singleton_self '\n')
  refine ⟨fun name => ?_, fun name => isSubdomain_iff, fun name => ?_, fun name => ?_,
    fun name => isSubdomain_of_isLabel, fun names => isSubdomain_join, fun name => ⟨?_, ?_⟩⟩
  · rw [isSubdomain_iff, mem_subdomains_iff]
  · rw [isLabel_iff_part, mem_labels_iff]
  · rw [isLabel_iff_part]
    refine and_congr_right fun _ => and_congr_right fun _ => ?_
    exact ⟨fun part => ⟨part, part.dot_not_mem⟩, And.left⟩
  · refine Bool.eq_false_iff.mpr fun h => ?_
    have hname := isSubdomain_of_isLabel h
    rw [hnewline name] at hname
    cases hname
  · exact hnewline name

example : isSubdomain "a-1.b" = true ∧ isSubdomain "a..b" = false ∧ isSubdomain "a.-b" = false ∧
    isLabel "a.b" = false ∧ isLabel "a-b" = true := by
  decide

end DeployPlan.DnsName
