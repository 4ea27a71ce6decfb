import DeployPlan.Proofs.ImageName.Form

/-!
# Reading and writing image names

A `Spelling` is an image name taken apart: the pieces that the marks `/`, `:` and `@` divide it
into. `Spelling.text` puts them together and `spell` takes a text apart; `text_spell` and
`spell_text` say that these undo each other for proper pieces. So reading is taking apart and
checking (`readTrimmed_eq_ok_iff`), and `parse_inverts_toString` says what follows for names: the
names that can be read are the well-formed ones, and each is read from its own text, with or
without blanks around it.
-/

namespace DeployPlan.ImageName

open Text (splitOn joinWith cut cutLast isBlank)

/-- The pieces of an image name. -/
structure Spelling where
  registry : Option (List Char)
  group : List (List Char)
  name : List Char
  tag : Option (List Char)
  digest : Option (List Char)

def ending (mark : Char) (piece : Option (List Char)) : List Char :=
  piece.elim [] (mark :: ·)

/-- The text with what comes after the mark, if it is there. -/
def withEnding (s : List Char) (p : Option (List Char × List Char)) :
    List Char × Option (List Char) :=
  p.elim (s, none) fun (a, b) => (a, some b)

/-- A text taken apart: at the first `@`, at each `/`, and at the last `:` of what is last then. -/
def spell (input : List Char) : Spelling :=
  let (rest, digest) := withEnding input (cut '@' input)
  let pieces := splitOn '/' rest
  let last := pieces.getLastD []
  let (name, tag) := withEnding last (cutLast ':' last)
  let (registry, group) := splitRegistry pieces.dropLast
  { registry, group, name, tag, digest }

def groupText (parts : List (List Char)) : Option String :=
  if parts = [] then none else some (String.ofList (joinWith '/' parts))

def groupParts (group : Option String) : List (List Char) :=
  group.elim [] fun g => splitOn '/' g.toList

theorem groupText_groupParts (group : Option String) : groupText (groupParts group) = group := by
  cases group with
  | none => rfl
  | some g =>
    have hn : splitOn '/' g.toList ≠ [] := Text.splitWhere_ne_nil _ _
    rw [groupParts, Option.elim_some, groupText, if_neg hn, Text.joinWith_splitOn,
      String.ofList_toList]

theorem groupParts_groupText {parts : List (List Char)} (h : ∀ part ∈ parts, '/' ∉ part) :
    groupParts (groupText parts) = parts := by
  by_cases hn : parts = []
  · rw [hn]
    rfl
  · rw [groupText, if_neg hn, groupParts, Option.elim_some, String.toList_ofList,
      Text.splitOn_joinWith hn h]

theorem joinWith_groupParts (group : Option String) (last : List Char) :
    joinWith '/' (groupParts group ++ [last]) = group.elim [] (·.toList ++ ['/']) ++ last := by
  cases group with
  | none => exact Text.joinWith_singleton '/' last
  | some g =>
    have hn : splitOn '/' g.toList ≠ [] := Text.splitWhere_ne_nil _ _
    rw [groupParts, Option.elim_some, Text.joinWith_append '/' hn (List.cons_ne_nil last []),
      Text.joinWith_splitOn, Text.joinWith_singleton, Option.elim_some, List.append_assoc,
      List.singleton_append]

namespace Spelling

def pieces (p : Spelling) : List (List Char) :=
  p.registry.toList ++ p.group ++ [p.name ++ ending ':' p.tag]

/-- The text of the pieces. -/
def text (p : Spelling) : List Char :=
  joinWith '/' p.pieces ++ ending '@' p.digest

def toName (p : Spelling) : ImageName where
  registry := p.registry.map String.ofList
  group := groupText p.group
  name := String.ofList p.name
  tag := p.tag.map String.ofList
  digest := p.digest.map String.ofList

/-- The pieces are what they should be. -/
structure Proper (p : Spelling) : Prop where
  name : Component p.name
  group : ∀ part ∈ p.group, Component part
  tag : ∀ t, p.tag = some t → Tag t
  digest : ∀ d, p.digest = some d → d ≠ []
  registry : ∀ r, p.registry = some r → NamesRegistry r ∧ '/' ∉ r ∧ '@' ∉ r
  /-- What stands first in the group is not the registry. -/
  unambiguous : p.registry = none → ∀ first, p.group.head? = some first → ¬ NamesRegistry first

/-- The pieces are what they should be, and no blanks stand around them. -/
structure WellFormed (p : Spelling) : Prop extends p.Proper where
  registry_start : ∀ r, p.registry = some r → ∀ c, r.head? = some c → isBlank c = false
  digest_end : ∀ d, p.digest = some d → ∀ c, d.getLast? = some c → isBlank c = false

/-! ## Putting together and taking apart -/

theorem pieces_ne_nil (p : Spelling) : p.pieces ≠ [] := by
  simp [pieces]

theorem ending_of_cut {mark : Char} {s : List Char} {p : Option (List Char × List Char)}
    (h : ∀ a b, p = some (a, b) → s = a ++ mark :: b) :
    (withEnding s p).1 ++ ending mark (withEnding s p).2 = s := by
  cases p with
  | none => exact List.append_nil s
  | some ab =>
    obtain ⟨a, b⟩ := ab
    exact (h a b rfl).symm

theorem splitRegistry_append (pieces : List (List Char)) :
    (splitRegistry pieces).1.toList ++ (splitRegistry pieces).2 = pieces := by
  cases pieces with
  | nil => rfl
  | cons first rest =>
    rw [splitRegistry]
    split <;> rfl

/-- Taking a text apart loses nothing. -/
theorem text_spell (input : List Char) : (spell input).text = input := by
  let cutOff := withEnding input (cut '@' input)
  let slashed := splitOn '/' cutOff.1
  let last := slashed.getLastD []
  have hn : slashed ≠ [] := Text.splitWhere_ne_nil _ _
  have hlast : (withEnding last (cutLast ':' last)).1 ++
      ending ':' (withEnding last (cutLast ':' last)).2 = last :=
    ending_of_cut fun a b h => (Text.cutLast_eq_some_iff.mp h).1
  have hpieces : (spell input).pieces = slashed := by
    show (splitRegistry slashed.dropLast).1.toList ++ (splitRegistry slashed.dropLast).2 ++
      [(withEnding last (cutLast ':' last)).1 ++
        ending ':' (withEnding last (cutLast ':' last)).2] = slashed
    rw [hlast, splitRegistry_append]
    show slashed.dropLast ++ [slashed.getLastD []] = slashed
    rw [List.getLastD_eq_getLast?, List.getLast?_eq_some_getLast hn]
    exact List.dropLast_concat_getLast hn
  rw [text, hpieces]
  show joinWith '/' (splitOn '/' cutOff.1) ++ ending '@' cutOff.2 = input
  rw [Text.joinWith_splitOn]
  exact ending_of_cut fun a b h => (Text.cut_eq_some_iff.mp h).1

/-- A registry is the first piece and looks like one; without a registry the first piece does
not. -/
theorem splitRegistry_spec (pieces : List (List Char)) :
    (∀ r, (splitRegistry pieces).1 = some r → NamesRegistry r ∧ r ∈ pieces) ∧
      ((splitRegistry pieces).1 = none →
        ∀ first, (splitRegistry pieces).2.head? = some first → ¬ NamesRegistry first) := by
  cases pieces with
  | nil => exact ⟨fun r hr => (nomatch hr), fun _ first hf => (nomatch hf)⟩
  | cons first rest =>
    rw [splitRegistry]
    by_cases hl : looksLikeRegistry first = true
    · rw [if_pos hl]
      refine ⟨fun r hr => ?_, fun hn => nomatch hn⟩
      obtain rfl : first = r := Option.some.inj hr
      exact ⟨looksLikeRegistry_iff.mp hl, List.mem_cons_self⟩
    · rw [if_neg hl]
      refine ⟨fun r hr => (nomatch hr), fun _ f hf hn => ?_⟩
      obtain rfl : first = f := Option.some.inj hf
      exact hl (looksLikeRegistry_iff.mpr hn)

/-- Of a text taken apart only the parts that are read need a check. -/
theorem proper_spell_iff {input : List Char} :
    (spell input).Proper ↔ (spell input).digest ≠ some [] ∧
      (∀ t, (spell input).tag = some t → Tag t) ∧
      Component (spell input).name ∧ ∀ part ∈ (spell input).group, Component part := by
  constructor
  · intro h
    exact ⟨fun hd => h.digest [] hd rfl, h.tag, h.name, h.group⟩
  · rintro ⟨hd, ht, hn, hg⟩
    let rest := (withEnding input (cut '@' input)).1
    obtain ⟨hr, hu⟩ := splitRegistry_spec (splitOn '/' rest).dropLast
    have hat : '@' ∉ rest := by
      show '@' ∉ (withEnding input (cut '@' input)).1
      cases hc : cut '@' input with
      | none => exact Text.cut_eq_none_iff.mp hc
      | some p => exact (Text.cut_eq_some_iff.mp hc).2
    refine ⟨hn, hg, ht, fun d he hnil => hd (by rw [he, hnil]), fun r he => ?_, hu⟩
    obtain ⟨hnames, hm⟩ := hr r he
    have hm : r ∈ splitOn '/' rest := List.dropLast_subset _ hm
    refine ⟨hnames, Text.not_mem_of_mem_splitOn hm, fun hc => hat ?_⟩
    rw [← Text.joinWith_splitOn '/' rest]
    exact Text.mem_joinWith_of_mem hm hc

namespace Proper

variable {p : Spelling} (h : p.Proper)
include h

theorem not_mem_pieces : ∀ piece ∈ p.pieces, '/' ∉ piece ∧ '@' ∉ piece := by
  have hlast : '/' ∉ p.name ++ ending ':' p.tag ∧ '@' ∉ p.name ++ ending ':' p.tag := by
    obtain ⟨hs, ha, -⟩ := h.name.not_mem
    cases ht : p.tag with
    | none => simpa [ending] using ⟨hs, ha⟩
    | some t =>
      obtain ⟨hts, hta, -⟩ := (h.tag t ht).not_mem
      simp [ending, hs, ha, hts, hta]
  intro piece hp
  rw [pieces, List.mem_append, List.mem_append, List.mem_singleton] at hp
  rcases hp with (hp | hp) | rfl
  · exact (h.registry piece (Option.mem_toList.mp hp)).2
  · obtain ⟨hs, ha, -⟩ := (h.group piece hp).not_mem
    exact ⟨hs, ha⟩
  · exact hlast

theorem at_not_mem : '@' ∉ joinWith '/' p.pieces := by
  intro hm
  obtain hc | ⟨piece, hp, hc⟩ := Text.mem_joinWith hm
  · exact absurd hc (by decide)
  · exact (h.not_mem_pieces piece hp).2 hc

theorem splitRegistry_path :
    splitRegistry (p.registry.toList ++ p.group) = (p.registry, p.group) := by
  cases hr : p.registry with
  | some r =>
    have hn : looksLikeRegistry r = true := looksLikeRegistry_iff.mpr (h.registry r hr).1
    rw [Option.toList_some, List.singleton_append, splitRegistry, if_pos hn]
  | none =>
    rw [Option.toList_none, List.nil_append]
    cases hg : p.group with
    | nil => rfl
    | cons first rest =>
      have hn : ¬ NamesRegistry first := h.unambiguous hr first (by rw [hg]; rfl)
      rw [splitRegistry, if_neg (mt looksLikeRegistry_iff.mp hn)]

/-- Proper pieces are found again. -/
theorem spell_text : spell p.text = p := by
  have hcut : withEnding p.text (cut '@' p.text) = (joinWith '/' p.pieces, p.digest) := by
    rw [text]
    cases p.digest with
    | none =>
      rw [ending, Option.elim_none, List.append_nil, Text.cut_eq_none_iff.mpr h.at_not_mem]
      rfl
    | some d =>
      rw [ending, Option.elim_some, Text.cut_append h.at_not_mem]
      rfl
  have hsplit : splitOn '/' (joinWith '/' p.pieces) = p.pieces :=
    Text.splitOn_joinWith p.pieces_ne_nil fun piece hp => (h.not_mem_pieces piece hp).1
  have hlast : withEnding (p.name ++ ending ':' p.tag) (cutLast ':' (p.name ++ ending ':' p.tag)) =
      (p.name, p.tag) := by
    cases ht : p.tag with
    | none =>
      rw [ending, Option.elim_none, List.append_nil,
        Text.cutLast_eq_none_iff.mpr h.name.not_mem.2.2]
      rfl
    | some t =>
      rw [ending, Option.elim_some,
        Text.cutLast_eq_some_iff.mpr ⟨rfl, (h.tag t ht).not_mem.2.2⟩]
      rfl
  simp only [spell, hcut, hsplit]
  rw [pieces, List.dropLast_concat, List.getLastD_concat, hlast, h.splitRegistry_path]

theorem exists_text_start : ∃ first back, p.text = first ++ back ∧ first ≠ [] ∧
    (p.registry = some first ∨ p.registry = none ∧ Component first) := by
  have hstart (first : List Char) (rest : List (List Char)) (hp : p.pieces = first :: rest) :
      ∃ back, p.text = first ++ back := by
    obtain ⟨back, hb⟩ := Text.exists_joinWith_cons '/' first rest
    exact ⟨back ++ ending '@' p.digest, by rw [text, hp, hb, List.append_assoc]⟩
  cases hr : p.registry with
  | some r =>
    obtain ⟨back, hb⟩ := hstart r _ (by rw [pieces, hr]; rfl)
    exact ⟨r, back, hb, (h.registry r hr).1.ne_nil, .inl rfl⟩
  | none =>
    cases hg : p.group with
    | cons first rest =>
      obtain ⟨back, hb⟩ := hstart first _ (by rw [pieces, hr, hg]; rfl)
      have hf : Component first := h.group first (by rw [hg]; exact List.mem_cons_self)
      exact ⟨first, back, hb, hf.ne_nil, .inr ⟨rfl, hf⟩⟩
    | nil =>
      obtain ⟨back, hb⟩ := hstart (p.name ++ ending ':' p.tag) _ (by rw [pieces, hr, hg]; rfl)
      rw [List.append_assoc] at hb
      exact ⟨p.name, _, hb, h.name.ne_nil, .inr ⟨rfl, h.name⟩⟩

/-- The text ends with the digest, or with what ends in no blank. -/
theorem exists_text_end : ∃ front last, p.text = front ++ last ∧ last ≠ [] ∧
    (p.digest = some last ∨
      p.digest = none ∧ ∀ c, last.getLast? = some c → isBlank c = false) := by
  cases hd : p.digest with
  | some d =>
    refine ⟨joinWith '/' p.pieces ++ ['@'], d, ?_, h.digest d hd, .inl rfl⟩
    rw [text, hd, List.append_assoc]
    rfl
  | none =>
    obtain ⟨front, hf⟩ := Text.exists_joinWith_concat '/' (p.registry.toList ++ p.group)
      (p.name ++ ending ':' p.tag)
    have htext : p.text = front ++ (p.name ++ ending ':' p.tag) := by
      rw [text, hd, pieces, hf]
      exact List.append_nil _
    cases ht : p.tag with
    | none =>
      refine ⟨front, p.name, ?_, h.name.ne_nil, .inr ⟨rfl, h.name.not_isBlank_ends.2⟩⟩
      rw [htext, ht, ending, Option.elim_none, List.append_nil]
    | some t =>
      have htag := h.tag t ht
      refine ⟨front ++ p.name ++ [':'], t, ?_, htag.ne_nil, .inr ⟨rfl, fun c hc => ?_⟩⟩
      · rw [htext, ht, ending, Option.elim_some]
        simp only [List.append_assoc]
        rfl
      · exact htag.not_isBlank c (List.mem_of_getLast? hc)

theorem wellFormed_iff : p.WellFormed ↔
    (∀ c ∈ p.text.head?, isBlank c = false) ∧ ∀ c ∈ p.text.getLast?, isBlank c = false := by
  obtain ⟨first, back, hs, hfirst, hstart⟩ := h.exists_text_start
  obtain ⟨front, last, he, hlast, hend⟩ := h.exists_text_end
  have hhead : p.text.head? = first.head? := by
    rw [hs, List.head?_append, Option.or_of_isSome (by simpa using hfirst)]
  have hgetLast : p.text.getLast? = last.getLast? := by
    rw [he, List.getLast?_append, Option.or_of_isSome (by simpa using hlast)]
  rw [hhead, hgetLast]
  constructor
  · intro hw
    constructor
    · rcases hstart with hr | ⟨-, hc⟩
      · exact hw.registry_start first hr
      · exact hc.not_isBlank_ends.1
    · rcases hend with hd | ⟨-, hc⟩
      · exact hw.digest_end last hd
      · exact hc
  · rintro ⟨hh, hl⟩
    refine ⟨h, fun r hr => ?_, fun d hd => ?_⟩
    · rcases hstart with hf | ⟨hn, -⟩
      · obtain rfl : first = r := Option.some.inj (hf.symm.trans hr)
        exact hh
      · rw [hn] at hr
        cases hr
    · rcases hend with hf | ⟨hn, -⟩
      · obtain rfl : last = d := Option.some.inj (hf.symm.trans hd)
        exact hl
      · rw [hn] at hd
        cases hd

end Proper

end Spelling

/-! ## Reading -/

/-- The name of the pieces of a text, if tag, name and group are what they should be. -/
def Spelling.check (input : List Char) (p : Spelling) : Except Fault ImageName := do
  if let some t := p.tag then
    if !isTag t then .error (.invalidTag input t)
  if p.name = [] then .error (.missingName input)
  if let some bad := (p.group ++ [p.name]).find? (!isComponent ·) then
    .error (.invalidComponent input bad)
  return p.toName

/-- A text is taken apart, and then its pieces are checked. -/
theorem readTrimmed_eq (input : List Char) :
    readTrimmed input =
      if (spell input).digest = some [] then .error (.emptyDigest input)
      else (spell input).check input := by
  unfold readTrimmed spell
  cases cut '@' input with
  | none =>
    simp only [withEnding, Option.elim_none, reduceCtorEq, if_false, bind, Except.bind]
    cases cutLast ':' ((splitOn '/' input).getLastD []) <;> rfl
  | some p =>
    obtain ⟨rest, digest⟩ := p
    cases digest with
    | nil => rfl
    | cons c digest =>
      simp only [withEnding, Option.elim_some, reduceCtorEq, if_false, Option.some.injEq, bind,
        Except.bind]
      cases cutLast ':' ((splitOn '/' rest).getLastD []) <;> rfl

/-- The check of the path comes down to its parts. -/
theorem find?_path_eq_none_iff {group : List (List Char)} {name : List Char} :
    (group ++ [name]).find? (!isComponent ·) = none ↔
      Component name ∧ ∀ part ∈ group, Component part := by
  simp [List.find?_eq_none, isComponent_iff, and_comm]

theorem Spelling.check_eq_ok_iff {input : List Char} {p : Spelling} {n : ImageName} :
    p.check input = .ok n ↔ (∀ t, p.tag = some t → Tag t) ∧
      (Component p.name ∧ ∀ part ∈ p.group, Component part) ∧ p.toName = n := by
  have hpath : (if p.name = [] then .error (.missingName input)
      else match (p.group ++ [p.name]).find? (!isComponent ·) with
        | some bad => .error (.invalidComponent input bad)
        | _ => .ok p.toName : Except Fault ImageName) = .ok n ↔
      (Component p.name ∧ ∀ part ∈ p.group, Component part) ∧ p.toName = n := by
    rw [← find?_path_eq_none_iff]
    by_cases hn : p.name = []
    · have hf : (p.group ++ [p.name]).find? (!isComponent ·) ≠ none :=
        fun hf => (find?_path_eq_none_iff.mp hf).1.ne_nil hn
      rw [if_pos hn]
      exact ⟨fun h => (nomatch h), fun h => absurd h.1 hf⟩
    · rw [if_neg hn]
      cases (p.group ++ [p.name]).find? (!isComponent ·) <;> simp
  simp only [check, bind, Except.bind, pure, Except.pure]
  cases ht : p.tag with
  | none => simpa using hpath
  | some t =>
    by_cases hi : isTag t = true
    · simpa [hi, ← isTag_iff] using hpath
    · simp [hi, ← isTag_iff]

/-- Reading is taking apart and checking the pieces. -/
theorem readTrimmed_eq_ok_iff {input : List Char} {n : ImageName} :
    readTrimmed input = .ok n ↔ (spell input).Proper ∧ (spell input).toName = n := by
  rw [readTrimmed_eq, Spelling.proper_spell_iff]
  by_cases hd : (spell input).digest = some []
  · rw [if_pos hd]
    exact ⟨fun h => (nomatch h), fun h => absurd hd h.1.1⟩
  · rw [if_neg hd, Spelling.check_eq_ok_iff, and_iff_right hd]
    simp only [and_assoc]

/-! ## Writing -/

def spelling (n : ImageName) : Spelling where
  registry := n.registry.map String.toList
  group := groupParts n.group
  name := n.name.toList
  tag := n.tag.map String.toList
  digest := n.digest.map String.toList

theorem toName_spelling (n : ImageName) : n.spelling.toName = n := by
  have ho (o : Option String) : (o.map String.toList).map String.ofList = o := by
    cases o <;> simp
  simp only [spelling, Spelling.toName, ho, groupText_groupParts, String.ofList_toList]

theorem Spelling.Proper.spelling_toName {p : Spelling} (h : p.Proper) : p.toName.spelling = p := by
  have ho (o : Option (List Char)) : (o.map String.ofList).map String.toList = o := by
    cases o <;> simp
  have hg : groupParts (groupText p.group) = p.group :=
    groupParts_groupText fun part hp => (h.group part hp).not_mem.1
  simp only [spelling, Spelling.toName, ho, hg, String.toList_ofList]

theorem toList_toString (n : ImageName) : n.toString.toList = n.spelling.text := by
  have hrep : n.repository.toList = n.group.elim [] (·.toList ++ ['/']) ++ n.name.toList := by
    cases hg : n.group <;> simp [repository, hg]
  have hloc : n.location.toList =
      n.registry.elim [] (·.toList ++ ['/']) ++ n.repository.toList := by
    cases hr : n.registry <;> simp [location, hr]
  have htag : (n.tag.elim "" (":" ++ ·)).toList = ending ':' (n.tag.map String.toList) := by
    cases n.tag <;> simp [ending]
  have hdigest : (n.digest.elim "" ("@" ++ ·)).toList =
      ending '@' (n.digest.map String.toList) := by
    cases n.digest <;> simp [ending]
  have hpieces : joinWith '/' n.spelling.pieces =
      n.registry.elim [] (·.toList ++ ['/']) ++
        joinWith '/' (groupParts n.group ++ [n.name.toList ++ ending ':' (n.tag.map String.toList)])
      := by
    rw [Spelling.pieces, spelling, List.append_assoc]
    cases n.registry with
    | none => rfl
    | some r =>
      rw [Option.map_some, Option.toList_some, Text.joinWith_append '/' (List.cons_ne_nil _ _)
        (by simp), Text.joinWith_singleton, Option.elim_some, List.append_assoc,
        List.singleton_append]
  rw [Spelling.text, hpieces, joinWith_groupParts, ImageName.toString, String.toList_append,
    String.toList_append, hloc, hrep, htag, hdigest]
  simp only [List.append_assoc]
  rfl

/-- A name is well formed if its pieces are. -/
def WellFormed (n : ImageName) : Prop :=
  n.spelling.WellFormed

/-! ## Parts put into a name -/

/-- The address of a registry as it can stand in front of a name: it names a registry, and holds no
mark that divides a name and no blank. -/
structure IsAddress (s : List Char) : Prop where
  names : NamesRegistry s
  plain : ∀ c ∈ s, c ≠ '/' ∧ c ≠ '@' ∧ Text.isBlank c = false

theorem IsAddress.of_all {s : List Char} (hn : NamesRegistry s)
    (h : s.all (fun c => c ≠ '/' ∧ c ≠ '@' ∧ Text.isBlank c = false) = true) : IsAddress s :=
  ⟨hn, fun c hc => of_decide_eq_true (List.all_eq_true.mp h c hc)⟩

theorem WellFormed.withRegistry {n : ImageName} (h : n.WellFormed) {registry : String}
    (hr : IsAddress registry.toList) : WellFormed { n with registry := some registry } := by
  refine ⟨⟨h.name, h.group, h.tag, h.digest, ?_, nofun⟩, ?_, h.digest_end⟩
  · rintro _ ⟨⟩
    exact ⟨hr.names, fun hm => (hr.plain _ hm).1 rfl, fun hm => (hr.plain _ hm).2.1 rfl⟩
  · rintro _ ⟨⟩ c hc
    exact (hr.plain c (List.mem_of_head? hc)).2.2

theorem toString_withRegistry {n : ImageName} (hn : n.registry = none) (registry : String) :
    ({ n with registry := some registry } : ImageName).toString =
      registry ++ "/" ++ n.toString := by
  have hlocation : n.location = n.repository := by rw [location, hn]
  rw [ImageName.toString, ImageName.toString, hlocation, location]
  simp only [String.append_assoc]
  rfl

theorem WellFormed.withTag {n : ImageName} (h : n.WellFormed) :
    WellFormed { n with tag := some defaultTag } := by
  refine ⟨⟨h.name, h.group, ?_, h.digest, h.registry, h.unambiguous⟩, h.registry_start,
    h.digest_end⟩
  rintro _ ⟨⟩
  exact isTag_iff.mp (by decide +kernel)

theorem toString_withTag {n : ImageName} (ht : n.tag = none) (hd : n.digest = none) :
    ({ n with tag := some defaultTag } : ImageName).toString = n.toString ++ ":latest" := by
  rw [ImageName.toString, ImageName.toString, ht, hd]
  simp only [Option.elim_none, Option.elim_some, String.append_empty]
  rfl

/-! ## Both together -/

theorem parse_eq_ok_iff {s : String} {n : ImageName} :
    parse s = .ok n ↔ readTrimmed (Text.trim s.toList) = .ok n := by
  have hmap {r : Except Fault ImageName} : r.mapError Fault.toError = .ok n ↔ r = .ok n := by
    cases r with
    | error fault => exact iff_of_false (by intro h; cases h) (by intro h; cases h)
    | ok name => exact ⟨by rintro ⟨⟩; rfl, by rintro ⟨⟩; rfl⟩
  rw [parse, hmap, read]
  cases Text.trim s.toList with
  | nil => exact iff_of_false (by intro h; cases h) (by intro h; cases h)
  | cons c r => exact Iff.rfl

theorem parse_eq_ok_iff_wellFormed {s : String} {n : ImageName} :
    parse s = .ok n ↔ n.WellFormed ∧ n.toString = String.ofList (Text.trim s.toList) := by
  have hends := Text.not_isBlank_ends_trim s.toList
  rw [parse_eq_ok_iff, readTrimmed_eq_ok_iff, ← String.toList_inj, toList_toString,
    String.toList_ofList, WellFormed]
  generalize Text.trim s.toList = input at hends ⊢
  constructor
  · rintro ⟨hp, rfl⟩
    rw [hp.spelling_toName, hp.wellFormed_iff, Spelling.text_spell]
    exact ⟨hends, rfl⟩
  · rintro ⟨hw, rfl⟩
    rw [hw.toProper.spell_text]
    exact ⟨hw.toProper, toName_spelling n⟩

theorem WellFormed.trim_toString {n : ImageName} (h : n.WellFormed) :
    String.ofList (Text.trim n.toString.toList) = n.toString := by
  have hends := h.toProper.wellFormed_iff.mp h
  rw [toList_toString, Text.trim_eq_self_of_ends hends.1 hends.2, ← toList_toString,
    String.ofList_toList]

theorem WellFormed.parse_toString {n : ImageName} (h : n.WellFormed) : parse n.toString = .ok n :=
  parse_eq_ok_iff_wellFormed.mpr ⟨h, h.trim_toString.symm⟩

/-- The names that can be read from a text are the well-formed ones that are written like it, apart
from blanks around it; and each of them is read from what is written for it. -/
theorem parse_inverts_toString (s : String) (n : ImageName) :
    (parse s = .ok n ↔ n.WellFormed ∧ n.toString = String.ofList (Text.trim s.toList)) ∧
      (n.WellFormed → parse n.toString = .ok n) :=
  ⟨parse_eq_ok_iff_wellFormed, fun h => parse_eq_ok_iff_wellFormed.mpr ⟨h, h.trim_toString.symm⟩⟩

example : (parse " localhost:5000/team/web_app:1.0@sha256:0a ").toOption = some
    { registry := some "localhost:5000", group := some "team", name := "web_app"
      tag := some "1.0", digest := some "sha256:0a" } := by
  decide +kernel

end DeployPlan.ImageName
