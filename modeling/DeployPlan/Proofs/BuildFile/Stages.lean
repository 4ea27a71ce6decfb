import DeployPlan.BuildFile
import DeployPlan.Proofs.Recording
import Mathlib.Data.List.Forall2
import Mathlib.Data.List.Induction

/-!
# What the stages of a build file start from

A stage starts from an image or from an earlier stage, which it calls by the name that stands after
`AS`. `OriginOf` says which of the two, in terms of the stages alone, and `Base` what a stage goes
back to in the end. `Follows` is what holds between the instructions that are read and what is known
then: `Follows.step` keeps it over one instruction, `follows_run` over all of them, and
`parse_reads_last_stage` reads off it what is known of a whole build file.
-/

namespace DeployPlan.BuildFile

/-- The words of a line make an instruction. -/
inductive Makes : List (List Char) → Instruction → Prop
  /-- `FROM`, in any case, with the words after it that do not begin with two hyphens. -/
  | stage {keyword : List Char} {words : List (List Char)}
      (hk : Text.equalIgnoringCase keyword "FROM".toList = true) :
      Makes (keyword :: words) (.stage (words.filter fun word => !"--".toList.isPrefixOf word))
  /-- `EXPOSE`, in any case, with the words after it. -/
  | expose {keyword : List Char} {words : List (List Char)}
      (hk : Text.equalIgnoringCase keyword "EXPOSE".toList = true) :
      Makes (keyword :: words) (.expose words)
  /-- Anything else. -/
  | other {words : List (List Char)}
      (hf : ∀ keyword ∈ words.head?, Text.equalIgnoringCase keyword "FROM".toList = false)
      (he : ∀ keyword ∈ words.head?, Text.equalIgnoringCase keyword "EXPOSE".toList = false) :
      Makes words .other

/-- A stage, by the arguments that start it: its image and what follows the image. -/
abbrev Stage := List (List Char)

def Instruction.stage? : Instruction → Option Stage
  | .stage args => some args
  | _ => none

/-- The stages that some instructions start, in their order. -/
def stagesOf (l : List Instruction) : List Stage :=
  l.filterMap Instruction.stage?

/-- A stage bears the name that stands after `AS` behind its image; case does not count. -/
def Bears (stage : Stage) (name : List Char) : Prop :=
  ∃ image keyword given rest, stage = image :: keyword :: given :: rest ∧
    Text.equalIgnoringCase keyword "AS".toList = true ∧ Text.lower given = name

/-- The last one of some stages that bears a name is the one at the place `j`. -/
structure LastNamed (stages : List Stage) (name : List Char) (j : Nat) : Prop where
  bears : ∃ stage, stages[j]? = some stage ∧ Bears stage name
  last : ∀ k stage, j < k → stages[k]? = some stage → ¬ Bears stage name

/-- An image that cannot be named: it depends on variables, or is the empty image. -/
def Nameless (image : List Char) : Prop :=
  '$' ∈ image ∨ Text.equalIgnoringCase image "scratch".toList = true

/-- What a stage starts from. -/
inductive Origin
  /-- The stage at this place. -/
  | earlier (j : Nat)
  /-- An image, or nothing that can be named. -/
  | image (base : Option ImageName)
  /-- The stage cannot be read. -/
  | refused (e : Error)

/-- What a stage starts from when it follows others: from the last one of them that bears the name
of its image, if there is one, else from nothing if the image is nameless, else from the image that
is named. -/
inductive OriginOf (before : List Stage) : Stage → Origin → Prop
  | empty : OriginOf before [] (.refused (.validation "Dockerfile" "FROM without an image"))
  | earlier {image : List Char} {args : Stage} {j : Nat}
      (hj : LastNamed before (Text.lower image) j) :
      OriginOf before (image :: args) (.earlier j)
  | nameless {image : List Char} {args : Stage}
      (hj : ∀ j, ¬ LastNamed before (Text.lower image) j) (hn : Nameless image) :
      OriginOf before (image :: args) (.image none)
  | image {image : List Char} {args : Stage} {name : ImageName}
      (hj : ∀ j, ¬ LastNamed before (Text.lower image) j) (hn : ¬ Nameless image)
      (hp : ImageName.parse (String.ofList image) = .ok name) :
      OriginOf before (image :: args) (.image (some name))
  | invalid {image : List Char} {args : Stage} {e : Error}
      (hj : ∀ j, ¬ LastNamed before (Text.lower image) j) (hn : ¬ Nameless image)
      (hp : ImageName.parse (String.ofList image) = .error e) :
      OriginOf before (image :: args) (.refused e)

def StartsFrom (stages : List Stage) (i : Nat) (origin : Origin) : Prop :=
  ∃ stage, stages[i]? = some stage ∧ OriginOf (stages.take i) stage origin

/-- What the stage at a place goes back to. -/
inductive Base (stages : List Stage) : Nat → Option ImageName → Prop
  | image {i : Nat} {base : Option ImageName} (h : StartsFrom stages i (.image base)) :
      Base stages i base
  | earlier {i j : Nat} {base : Option ImageName} (h : StartsFrom stages i (.earlier j))
      (hb : Base stages j base) : Base stages i base

/-- The first stage that cannot be read cannot be read for this reason. -/
def FirstRefused (stages : List Stage) (e : Error) : Prop :=
  ∃ i, StartsFrom stages i (.refused e) ∧ ∀ j < i, ∀ e', ¬ StartsFrom stages j (.refused e')

/-- What the last stage goes back to; nothing if there is no stage. -/
def LastBase (stages : List Stage) (base : Option ImageName) : Prop :=
  stages = [] ∧ base = none ∨ ∃ n, stages.length = n + 1 ∧ Base stages n base

/-- A name stands for the base of the last stage that bears it. -/
def Stands (stages : List Stage) (name : List Char) (base : Option ImageName) : Prop :=
  ∃ j, LastNamed stages name j ∧ Base stages j base

/-- A port is declared by an instruction that no further stage follows. -/
def Declared (l : List Instruction) (port : UInt16) : Prop :=
  ∃ before words after, l = before ++ .expose words :: after ∧ stagesOf after = [] ∧
    ∃ word ∈ words, ExposedPort.readChars word = some port

/-! ## Instructions -/

theorem isOption_eq (word : List Char) : isOption word = "--".toList.isPrefixOf word := by
  rw [isOption, Bool.eq_iff_iff, Option.isSome_iff_exists, List.isPrefixOf_iff_prefix]
  exact exists_congr fun rest => Text.stripLead?_eq_some_iff.trans eq_comm

theorem makes_instructionOf (words : List (List Char)) : Makes words (instructionOf words) := by
  cases words with
  | nil => exact .other nofun nofun
  | cons keyword words =>
    rw [instructionOf]
    split
    · rename_i hk
      simp only [isOption_eq]
      exact .stage hk
    · rename_i hf
      split
      · rename_i hk
        exact .expose hk
      · rename_i he
        refine .other (fun other h => ?_) fun other h => ?_
        · cases h
          simpa using hf
        · cases h
          simpa using he

theorem makes_instructions (content : List Char) :
    List.Forall₂ Makes ((logicalLines content).map Text.words) (instructions content) := by
  rw [instructions, List.forall₂_map_left_iff, List.forall₂_map_right_iff, List.forall₂_same]
  exact fun line _ => makes_instructionOf (Text.words line)

section Stages

variable {stages more : List Stage} {stage : Stage} {name : List Char} {i j : Nat}
  {base base' : Option ImageName} {o o' : Origin} {e e' : Error}

/-! ## Names of stages -/

theorem bears_cons_iff {image : List Char} {args : Stage} :
    Bears (image :: args) name ↔ aliasOf args = some name := by
  constructor
  · rintro ⟨_, keyword, given, rest, h, hk, rfl⟩
    cases h
    rw [aliasOf, if_pos hk]
  · intro h
    rcases args with _ | ⟨keyword, _ | ⟨given, rest⟩⟩
    · cases h
    · cases h
    · rw [aliasOf] at h
      split at h
      · rename_i hk
        exact ⟨image, keyword, given, rest, rfl, hk, Option.some.inj h⟩
      · cases h

theorem LastNamed.lt_length (h : LastNamed stages name j) : j < stages.length := by
  obtain ⟨stage, hj, -⟩ := h.bears
  exact (List.getElem?_eq_some_iff.mp hj).1

theorem LastNamed.unique {j' : Nat} (h : LastNamed stages name j) (h' : LastNamed stages name j') :
    j = j' := by
  obtain ⟨stage, hj, hb⟩ := h.bears
  obtain ⟨stage', hj', hb'⟩ := h'.bears
  rcases Nat.lt_trichotomy j j' with hlt | heq | hlt
  · exact absurd hb' (h.last j' stage' hlt hj')
  · exact heq
  · exact absurd hb (h'.last j stage hlt hj)

/-- The places in a row of stages with one more at its end. -/
theorem getElem?_concat_eq_some_iff {last : Stage} {k : Nat} :
    (stages ++ [last])[k]? = some stage ↔
      stages[k]? = some stage ∨ k = stages.length ∧ stage = last := by
  rcases Nat.lt_trichotomy k stages.length with hlt | rfl | hgt
  · rw [List.getElem?_append_left hlt]
    simp [Nat.ne_of_lt hlt]
  · simp [eq_comm]
  · rw [List.getElem?_append_right (by omega), List.getElem?_eq_none (l := stages) (by omega)]
    simp [Nat.ne_of_gt hgt, Nat.sub_eq_zero_iff_le, Nat.not_le_of_lt hgt]

theorem lastNamed_concat_of_bears (h : Bears stage name) :
    LastNamed (stages ++ [stage]) name j ↔ j = stages.length := by
  have hself : (stages ++ [stage])[stages.length]? = some stage := List.getElem?_concat_length
  constructor
  · intro hj
    have hlt := hj.lt_length
    rw [List.length_append, List.length_singleton] at hlt
    by_contra hne
    exact hj.last stages.length stage (by omega) hself h
  · rintro rfl
    refine ⟨⟨stage, hself, h⟩, fun k later hk hs => ?_⟩
    have hlt := (List.getElem?_eq_some_iff.mp hs).1
    rw [List.length_append, List.length_singleton] at hlt
    omega

theorem lastNamed_concat_of_not_bears (h : ¬ Bears stage name) :
    LastNamed (stages ++ [stage]) name j ↔ LastNamed stages name j := by
  have hbefore (k : Nat) (s : Stage) (hb : Bears s name) :
      (stages ++ [stage])[k]? = some s ↔ stages[k]? = some s := by
    rw [getElem?_concat_eq_some_iff, or_iff_left]
    rintro ⟨-, rfl⟩
    exact h hb
  constructor
  · intro hj
    obtain ⟨s, hs, hb⟩ := hj.bears
    refine ⟨⟨s, (hbefore j s hb).mp hs, hb⟩, fun k later hk hs' hb' => ?_⟩
    exact hj.last k later hk ((hbefore k later hb').mpr hs') hb'
  · intro hj
    obtain ⟨s, hs, hb⟩ := hj.bears
    refine ⟨⟨s, (hbefore j s hb).mpr hs, hb⟩, fun k later hk hs' hb' => ?_⟩
    exact hj.last k later hk ((hbefore k later hb').mp hs') hb'

/-! ## Origins and bases -/

theorem OriginOf.unique (h : OriginOf stages stage o) (h' : OriginOf stages stage o') : o = o' := by
  cases h with
  | empty =>
    cases h'
    rfl
  | earlier hj =>
    cases h' with
    | earlier hj' => rw [hj.unique hj']
    | nameless hj' => exact absurd hj (hj' _)
    | image hj' => exact absurd hj (hj' _)
    | invalid hj' => exact absurd hj (hj' _)
  | nameless hj hn =>
    cases h' with
    | earlier hj' => exact absurd hj' (hj _)
    | nameless => rfl
    | image _ hn' => exact absurd hn hn'
    | invalid _ hn' => exact absurd hn hn'
  | image hj hn hp =>
    cases h' with
    | earlier hj' => exact absurd hj' (hj _)
    | nameless _ hn' => exact absurd hn' hn
    | image _ _ hp' => rw [Except.ok.inj (hp.symm.trans hp')]
    | invalid _ _ hp' => cases hp.symm.trans hp'
  | invalid hj hn hp =>
    cases h' with
    | earlier hj' => exact absurd hj' (hj _)
    | nameless _ hn' => exact absurd hn' hn
    | image _ _ hp' => cases hp.symm.trans hp'
    | invalid _ _ hp' => rw [Except.error.inj (hp.symm.trans hp')]

namespace StartsFrom

theorem lt_length (h : StartsFrom stages i o) : i < stages.length := by
  obtain ⟨stage, hi, -⟩ := h
  exact (List.getElem?_eq_some_iff.mp hi).1

theorem unique (h : StartsFrom stages i o) (h' : StartsFrom stages i o') : o = o' := by
  obtain ⟨stage, hi, ho⟩ := h
  obtain ⟨stage', hi', ho'⟩ := h'
  cases hi.symm.trans hi'
  exact ho.unique ho'

theorem append_iff (hi : i < stages.length) :
    StartsFrom (stages ++ more) i o ↔ StartsFrom stages i o := by
  rw [StartsFrom, StartsFrom, List.getElem?_append_left hi,
    List.take_append_of_le_length (Nat.le_of_lt hi)]

theorem concat_iff : StartsFrom (stages ++ [stage]) stages.length o ↔ OriginOf stages stage o := by
  rw [StartsFrom, List.getElem?_concat_length, List.take_append_length]
  simp

theorem lt_of_earlier (h : StartsFrom stages i (.earlier j)) : j < i := by
  obtain ⟨stage, hi, ho⟩ := h
  cases ho with
  | earlier hj =>
    have hlt := hj.lt_length
    rw [List.length_take] at hlt
    omega

end StartsFrom

namespace Base

theorem lt_length (h : Base stages i base) : i < stages.length := by
  cases h with
  | image h => exact h.lt_length
  | earlier h => exact h.lt_length

theorem unique (h : Base stages i base) (h' : Base stages i base') : base = base' := by
  induction h with
  | image h =>
    cases h' with
    | image h' =>
      cases h.unique h'
      rfl
    | earlier h' => cases h.unique h'
  | earlier h _ ih =>
    cases h' with
    | image h' => cases h.unique h'
    | earlier h' hb' =>
      cases h.unique h'
      exact ih hb'

theorem not_refused (h : Base stages i base) : ¬ StartsFrom stages i (.refused e) := by
  intro hr
  cases h with
  | image h => cases h.unique hr
  | earlier h => cases h.unique hr

theorem append (h : Base stages i base) : Base (stages ++ more) i base := by
  induction h with
  | image h => exact .image ((StartsFrom.append_iff h.lt_length).mpr h)
  | earlier h _ ih => exact .earlier ((StartsFrom.append_iff h.lt_length).mpr h) ih

theorem of_append (h : Base (stages ++ more) i base) (hi : i < stages.length) :
    Base stages i base := by
  induction h with
  | image h => exact .image ((StartsFrom.append_iff hi).mp h)
  | earlier h _ ih =>
    exact .earlier ((StartsFrom.append_iff hi).mp h) (ih (Nat.lt_trans h.lt_of_earlier hi))

theorem append_iff (hi : i < stages.length) :
    Base (stages ++ more) i base ↔ Base stages i base :=
  ⟨fun h => h.of_append hi, append⟩

end Base

theorem FirstRefused.append (h : FirstRefused stages e) : FirstRefused (stages ++ more) e := by
  obtain ⟨i, hi, hfirst⟩ := h
  refine ⟨i, (StartsFrom.append_iff hi.lt_length).mpr hi, fun j hj e' hr => ?_⟩
  exact hfirst j hj e' ((StartsFrom.append_iff (Nat.lt_trans hj hi.lt_length)).mp hr)

theorem FirstRefused.unique (h : FirstRefused stages e) (h' : FirstRefused stages e') : e = e' := by
  obtain ⟨i, hi, hfirst⟩ := h
  obtain ⟨i', hi', hfirst'⟩ := h'
  rcases Nat.lt_trichotomy i i' with hlt | rfl | hlt
  · exact absurd hi (hfirst' i hlt e)
  · cases hi.unique hi'
    rfl
  · exact absurd hi' (hfirst i' hlt e')

theorem LastBase.unique (h : LastBase stages base) (h' : LastBase stages base') : base = base' := by
  rcases h with ⟨rfl, rfl⟩ | ⟨n, hn, hb⟩ <;> rcases h' with ⟨hs, rfl⟩ | ⟨n', hn', hb'⟩
  · rfl
  · cases hn'
  · rw [hs] at hn
    cases hn
  · obtain rfl : n = n' := by omega
    exact hb.unique hb'

theorem stands_concat_of_bears (h : Bears stage name) :
    Stands (stages ++ [stage]) name base ↔ Base (stages ++ [stage]) stages.length base := by
  simp only [Stands, lastNamed_concat_of_bears h, exists_eq_left]

theorem stands_concat_of_not_bears (h : ¬ Bears stage name) :
    Stands (stages ++ [stage]) name base ↔ Stands stages name base := by
  simp only [Stands, lastNamed_concat_of_not_bears h]
  exact exists_congr fun j => and_congr_right fun hj => Base.append_iff hj.lt_length

end Stages

/-! ## Following the instructions -/

section Following

variable {l : List Instruction} {p : Progress} {stage : Stage} {port : UInt16}

theorem stagesOf_append (l l' : List Instruction) :
    stagesOf (l ++ l') = stagesOf l ++ stagesOf l' :=
  List.filterMap_append

theorem stagesOf_concat_stage (l : List Instruction) (stage : Stage) :
    stagesOf (l ++ [.stage stage]) = stagesOf l ++ [stage] :=
  stagesOf_append l [.stage stage]

theorem stagesOf_concat_of_none {i : Instruction} (h : i.stage? = none) :
    stagesOf (l ++ [i]) = stagesOf l := by
  have hi : stagesOf [i] = [] := List.filterMap_cons_none h
  rw [stagesOf_append, hi, List.append_nil]

/-- What is declared after one more instruction is declared by it, or was before if the instruction
starts no stage. -/
theorem declared_concat_iff {i : Instruction} :
    Declared (l ++ [i]) port ↔
      (∃ words, i = .expose words ∧ ∃ word ∈ words, ExposedPort.readChars word = some port) ∨
        i.stage? = none ∧ Declared l port := by
  constructor
  · rintro ⟨before, words, after, hl, ha, hw⟩
    rcases List.eq_nil_or_concat after with rfl | ⟨after, last, rfl⟩
    · obtain ⟨-, hi⟩ := List.append_inj' hl rfl
      exact .inl ⟨words, (List.cons.inj hi).1, hw⟩
    · rw [List.concat_eq_append, ← List.cons_append, ← List.append_assoc] at hl
      obtain ⟨rfl, hi⟩ := List.append_inj' hl rfl
      obtain rfl : i = last := (List.cons.inj hi).1
      rw [List.concat_eq_append, stagesOf_append, List.append_eq_nil_iff] at ha
      refine .inr ⟨?_, before, words, after, rfl, ha.1, hw⟩
      cases i with
      | stage args => cases ha.2
      | expose words => rfl
      | other => rfl
  · rintro (⟨words, rfl, hw⟩ | ⟨hi, before, words, after, rfl, ha, hw⟩)
    · exact ⟨l, words, [], rfl, rfl, hw⟩
    · refine ⟨before, words, after ++ [i], by rw [List.append_assoc, List.cons_append], ?_, hw⟩
      rw [stagesOf_append, ha, List.nil_append, stagesOf, List.filterMap_cons_none hi]
      rfl

theorem stageBase?_cons (named : List Char × Option ImageName)
    (stages : List (List Char × Option ImageName)) (name : List Char) :
    stageBase? (named :: stages) name =
      if named.1 = name then some named.2 else stageBase? stages name := by
  rw [stageBase?, List.find?_cons, stageBase?]
  by_cases h : named.1 = name <;> simp [h]

/-- What is known after some instructions is what their stages stand for and what is declared after
the last one of them. -/
structure Follows (l : List Instruction) (p : Progress) : Prop where
  bases : ∀ i < (stagesOf l).length, ∃ base, Base (stagesOf l) i base
  names : ∀ name base, stageBase? p.stages name = some base ↔ Stands (stagesOf l) name base
  base : LastBase (stagesOf l) p.current.base
  ports : ∀ port, port ∈ p.current.ports ↔ Declared l port

/-- Following some instructions ends as their stages say. -/
def EndsAs (l : List Instruction) : Except Error Progress → Prop
  | .ok p => Follows l p
  | .error e => FirstRefused (stagesOf l) e

/-- A stage with the name of an image gives its base; without one, a nameless image has no base, and
any other image is read as a name. -/
theorem baseOf_cases (stages : List (List Char × Option ImageName)) (image : List Char) :
    (∃ known, stageBase? stages (Text.lower image) = some known ∧
      baseOf stages image = .ok known) ∨
    (stageBase? stages (Text.lower image) = none ∧ Nameless image ∧
      baseOf stages image = .ok none) ∨
    (stageBase? stages (Text.lower image) = none ∧ ¬ Nameless image ∧
      baseOf stages image = (ImageName.parse (String.ofList image)).map some) := by
  rw [baseOf]
  cases stageBase? stages (Text.lower image) with
  | some known => exact .inl ⟨known, rfl, rfl⟩
  | none =>
    by_cases hn : Nameless image
    · exact .inr (.inl ⟨rfl, hn, if_pos (by simpa [Nameless] using hn)⟩)
    · exact .inr (.inr ⟨rfl, hn, if_neg (by simpa [Nameless] using hn)⟩)

namespace Follows

theorem nil : Follows [] {} where
  bases i hi := absurd hi (Nat.not_lt_zero i)
  names name base := by
    constructor
    · intro h
      cases h
    · rintro ⟨j, hj, -⟩
      exact absurd hj.lt_length (Nat.not_lt_zero j)
  base := .inl ⟨rfl, rfl⟩
  ports port := by
    constructor
    · intro h
      cases h
    · rintro ⟨before, words, after, hl, -⟩
      exact absurd hl.symm (by simp)

theorem not_refused (h : Follows l p) (i : Nat) (e : Error) :
    ¬ StartsFrom (stagesOf l) i (.refused e) := by
  intro hr
  obtain ⟨base, hb⟩ := h.bases i hr.lt_length
  exact hb.not_refused hr

theorem not_lastNamed (h : Follows l p) {name : List Char} (hs : stageBase? p.stages name = none)
    (j : Nat) : ¬ LastNamed (stagesOf l) name j := by
  intro hj
  obtain ⟨base, hb⟩ := h.bases j hj.lt_length
  rw [(h.names name base).mpr ⟨j, hj, hb⟩] at hs
  cases hs

/-- The base that is found for an image is the one that a next stage with this image goes back
to. -/
theorem base_of_baseOf (h : Follows l p) {image : List Char} {args : Stage}
    {base : Option ImageName} (hb : baseOf p.stages image = .ok base) :
    Base (stagesOf l ++ [image :: args]) (stagesOf l).length base := by
  rcases baseOf_cases p.stages image with ⟨known, hs, hfound⟩ | ⟨hs, hn, hfound⟩ | ⟨hs, hn, hfound⟩
  · rw [hfound] at hb
    cases hb
    obtain ⟨j, hj, hbase⟩ := (h.names _ _).mp hs
    exact .earlier (StartsFrom.concat_iff.mpr (.earlier hj)) hbase.append
  · rw [hfound] at hb
    cases hb
    exact .image (StartsFrom.concat_iff.mpr (.nameless (h.not_lastNamed hs) hn))
  · rw [hfound] at hb
    cases hp : ImageName.parse (String.ofList image) with
    | error e =>
      rw [hp] at hb
      cases hb
    | ok name =>
      rw [hp] at hb
      cases hb
      exact .image (StartsFrom.concat_iff.mpr (.image (h.not_lastNamed hs) hn hp))

/-- If no base is found for an image, a next stage with this image cannot be read, for the same
reason. -/
theorem refused_of_baseOf (h : Follows l p) {image : List Char} {args : Stage} {e : Error}
    (hb : baseOf p.stages image = .error e) :
    OriginOf (stagesOf l) (image :: args) (.refused e) := by
  rcases baseOf_cases p.stages image with ⟨known, hs, hfound⟩ | ⟨hs, hn, hfound⟩ | ⟨hs, hn, hfound⟩
  · exact nomatch hfound.symm.trans hb
  · exact nomatch hfound.symm.trans hb
  · rw [hfound] at hb
    cases hp : ImageName.parse (String.ofList image) with
    | error e =>
      rw [hp] at hb
      cases hb
      exact .invalid (h.not_lastNamed hs) hn hp
    | ok name =>
      rw [hp] at hb
      cases hb

/-- The next stage is the first one that cannot be read. -/
theorem firstRefused (h : Follows l p) {e : Error}
    (ho : OriginOf (stagesOf l) stage (.refused e)) :
    FirstRefused (stagesOf l ++ [stage]) e := by
  refine ⟨(stagesOf l).length, StartsFrom.concat_iff.mpr ho, fun j hj e' hr => ?_⟩
  exact h.not_refused j e' ((StartsFrom.append_iff hj).mp hr)

/-- After the start of a stage its base is known, and its name if it has one. No port is declared
yet. -/
theorem start (h : Follows l p) {image : List Char} {args : Stage} {base : Option ImageName}
    (hb : baseOf p.stages image = .ok base) :
    Follows (l ++ [.stage (image :: args)])
      { stages := match aliasOf args with
          | some name => (name, base) :: p.stages
          | none => p.stages
        current := { base } } := by
  have hbase : Base (stagesOf l ++ [image :: args]) (stagesOf l).length base := h.base_of_baseOf hb
  rw [← stagesOf_concat_stage] at hbase
  refine ⟨fun i hi => ?_, fun name other => ?_, ?_, fun port => ?_⟩
  · rw [stagesOf_concat_stage, List.length_append, List.length_singleton] at hi
    rcases Nat.lt_or_ge i (stagesOf l).length with hlt | hge
    · obtain ⟨known, hk⟩ := h.bases i hlt
      exact ⟨known, by rw [stagesOf_concat_stage]; exact hk.append⟩
    · obtain rfl : i = (stagesOf l).length := by omega
      exact ⟨base, hbase⟩
  · rw [stagesOf_concat_stage] at hbase ⊢
    by_cases hn : Bears (image :: args) name
    · rw [stands_concat_of_bears hn, bears_cons_iff.mp hn, stageBase?_cons, if_pos rfl,
        Option.some.injEq]
      exact ⟨fun he => he ▸ hbase, fun h' => hbase.unique h'⟩
    · rw [stands_concat_of_not_bears hn, ← h.names]
      cases ha : aliasOf args with
      | none => rfl
      | some given =>
        have hne : given ≠ name := fun he => hn (bears_cons_iff.mpr (he ▸ ha))
        rw [stageBase?_cons, if_neg hne]
  · refine .inr ⟨(stagesOf l).length, ?_, hbase⟩
    rw [stagesOf_concat_stage, List.length_append, List.length_singleton]
  · rw [declared_concat_iff]
    constructor
    · intro hp
      cases hp
    · rintro (⟨words, hi, -⟩ | ⟨hi, -⟩)
      · cases hi
      · cases hi

/-- An instruction that starts no stage changes nothing but the ports. -/
theorem keep (h : Follows l p) {i : Instruction} (hi : i.stage? = none) {q : Progress}
    (hs : q.stages = p.stages) (hb : q.current.base = p.current.base)
    (hp : ∀ port, port ∈ q.current.ports ↔ Declared (l ++ [i]) port) : Follows (l ++ [i]) q where
  bases := by
    rw [stagesOf_concat_of_none hi]
    exact h.bases
  names := by
    rw [stagesOf_concat_of_none hi, hs]
    exact h.names
  base := by
    rw [stagesOf_concat_of_none hi, hb]
    exact h.base
  ports := hp

/-- Ports are added to those of the stage that is being built. -/
theorem expose (h : Follows l p) (words : List (List Char)) :
    Follows (l ++ [.expose words])
      { p with current := { p.current with
          ports := (words.filterMap ExposedPort.readChars).foldl PortSet.insert p.current.ports } } := by
  refine h.keep rfl rfl rfl fun port => ?_
  rw [declared_concat_iff, PortSet.mem_foldl_insert, List.mem_filterMap, h.ports]
  simp [Instruction.stage?]

theorem other (h : Follows l p) : Follows (l ++ [.other]) p := by
  refine h.keep rfl rfl rfl fun port => ?_
  rw [declared_concat_iff, h.ports]
  simp [Instruction.stage?]

/-- One instruction keeps what is known in agreement with the stages. -/
theorem step (h : Follows l p) (i : Instruction) : EndsAs (l ++ [i]) (follow p i) := by
  cases i with
  | stage args =>
    cases args with
    | nil =>
      show FirstRefused _ _
      rw [stagesOf_concat_stage]
      exact h.firstRefused .empty
    | cons image args =>
      rw [follow]
      cases hb : baseOf p.stages image with
      | error e =>
        show FirstRefused _ _
        rw [stagesOf_concat_stage]
        exact h.firstRefused (h.refused_of_baseOf hb)
      | ok base => exact h.start hb
  | expose words => exact h.expose words
  | other => exact h.other

end Follows

/-- What is known when instructions have been followed is what their stages stand for. -/
theorem follows_run (l : List Instruction) : EndsAs l (l.foldlM follow {}) := by
  induction l using List.reverseRecOn with
  | nil => exact Follows.nil
  | append_singleton l i ih =>
    rw [List.foldlM_append]
    cases hl : l.foldlM follow {} with
    | error e =>
      rw [hl] at ih
      show FirstRefused _ _
      rw [stagesOf_append]
      exact FirstRefused.append ih
    | ok p =>
      rw [hl] at ih
      have hstep : EndsAs (l ++ [i]) (follow p i) := Follows.step ih i
      show EndsAs _ (follow p i >>= pure)
      rwa [bind_pure]

/-! ## The last stage -/

/-- Two rows of stages whose names stand for the same bases. -/
def SameNames (stages stages' : List Stage) : Prop :=
  ∀ name base, Stands stages name base ↔ Stands stages' name base

/-- What is declared and based on after the last stage does not depend on the names of stages. -/
theorem map_current_foldlM {after : List Instruction} (ha : stagesOf after = []) {p q : Progress}
    (h : p.current = q.current) :
    (after.foldlM follow p).map (·.current) = (after.foldlM follow q).map (·.current) := by
  induction after generalizing p q with
  | nil => exact congrArg Except.ok h
  | cons i after ih =>
    cases i with
    | stage args => cases ha
    | expose words =>
      rw [List.foldlM_cons, List.foldlM_cons]
      exact ih ha (by simp only [h])
    | other => exact ih ha h

/-- A stage after others whose names stand for the same bases is followed by the same. -/
theorem map_current_stage {before before' after : List Instruction} {p q : Progress}
    (hp : Follows before p) (hq : Follows before' q)
    (hn : SameNames (stagesOf before) (stagesOf before')) (ha : stagesOf after = [])
    (stage : Stage) :
    ((Instruction.stage stage :: after).foldlM follow p).map (·.current) =
      ((Instruction.stage stage :: after).foldlM follow q).map (·.current) := by
  cases stage with
  | nil => rfl
  | cons image args =>
    have hs : stageBase? p.stages (Text.lower image) = stageBase? q.stages (Text.lower image) :=
      Option.ext fun base => by rw [hp.names, hq.names, hn]
    have hb : baseOf p.stages image = baseOf q.stages image := by rw [baseOf, baseOf, hs]
    rw [List.foldlM_cons, List.foldlM_cons, follow, follow, hb]
    cases baseOf q.stages image with
    | error e => rfl
    | ok base => exact map_current_foldlM ha rfl

theorem parse_eq (content : String) :
    parse content = ((instructions content.toList).foldlM follow {}).map (·.current) := rfl

theorem parse_eq_error_iff {content : String} {e : Error} :
    parse content = .error e ↔ FirstRefused (stagesOf (instructions content.toList)) e := by
  have hrun := follows_run (instructions content.toList)
  rw [parse_eq]
  cases hf : (instructions content.toList).foldlM follow {} with
  | error e' =>
    rw [hf] at hrun
    constructor
    · intro h
      cases h
      exact hrun
    · intro h
      exact congrArg Except.error (FirstRefused.unique hrun h)
  | ok p =>
    rw [hf] at hrun
    constructor
    · intro h
      cases h
    · rintro ⟨i, hi, -⟩
      exact absurd hi (Follows.not_refused hrun i e)

/-- A build file all of whose stages can be read says what the last one goes back to and which ports
are declared for it. -/
theorem parse_eq_ok_iff {content : String} {file : BuildFile} :
    parse content = .ok file ↔
      (∀ i e, ¬ StartsFrom (stagesOf (instructions content.toList)) i (.refused e)) ∧
      LastBase (stagesOf (instructions content.toList)) file.base ∧
      ∀ port, port ∈ file.ports ↔ Declared (instructions content.toList) port := by
  have hrun := follows_run (instructions content.toList)
  rw [parse_eq]
  cases hf : (instructions content.toList).foldlM follow {} with
  | error e =>
    rw [hf] at hrun
    constructor
    · intro h
      cases h
    · rintro ⟨hread, -⟩
      obtain ⟨i, hi, -⟩ := hrun
      exact absurd hi (hread i e)
  | ok p =>
    rw [hf] at hrun
    have hp : Follows (instructions content.toList) p := hrun
    constructor
    · intro h
      cases h
      exact ⟨hp.not_refused, hp.base, hp.ports⟩
    · rintro ⟨-, hbase, hports⟩
      have hb : p.current.base = file.base := hp.base.unique hbase
      have hs : p.current.ports = file.ports :=
        PortSet.ext_mem fun port => (hp.ports port).trans (hports port).symm
      show Except.ok (⟨p.current.base, p.current.ports⟩ : BuildFile) = _
      rw [hb, hs]

theorem exists_follows (h : ∀ i e, ¬ StartsFrom (stagesOf l) i (.refused e)) :
    ∃ p, l.foldlM follow {} = .ok p ∧ Follows l p := by
  have hrun := follows_run l
  cases hf : l.foldlM follow {} with
  | error e =>
    rw [hf] at hrun
    obtain ⟨i, hi, -⟩ := hrun
    exact absurd hi (h i e)
  | ok p =>
    rw [hf] at hrun
    exact ⟨p, rfl, hrun⟩

/-- What stands before the last stage counts only for the names that it gives to bases. -/
theorem parse_congr {content content' : String} {before before' after : List Instruction}
    (hc : instructions content.toList = before ++ .stage stage :: after)
    (hc' : instructions content'.toList = before' ++ .stage stage :: after)
    (ha : stagesOf after = [])
    (hb : ∀ i e, ¬ StartsFrom (stagesOf before) i (.refused e))
    (hb' : ∀ i e, ¬ StartsFrom (stagesOf before') i (.refused e))
    (hn : SameNames (stagesOf before) (stagesOf before')) :
    parse content = parse content' := by
  obtain ⟨p, hf, hp⟩ := exists_follows hb
  obtain ⟨q, hg, hq⟩ := exists_follows hb'
  rw [parse_eq, parse_eq, hc, hc', List.foldlM_append, List.foldlM_append, hf, hg]
  exact map_current_stage hp hq hn ha stage

/-- The stages of a build file, which its lines with `FROM` make, decide what is known of it. It is
refused exactly if one of its stages cannot be read, for the reason of the first one. Otherwise its
base is what the last stage goes back to, and its ports are those that are declared after the start
of this stage. What stands before the last stage counts only for the names it gives to bases, if all
of it can be read. -/
theorem parse_reads_last_stage (content : String) :
    List.Forall₂ Makes ((logicalLines content.toList).map Text.words)
      (instructions content.toList) ∧
    (∀ e, parse content = .error e ↔ FirstRefused (stagesOf (instructions content.toList)) e) ∧
    (∀ file, parse content = .ok file ↔
      (∀ i e, ¬ StartsFrom (stagesOf (instructions content.toList)) i (.refused e)) ∧
      LastBase (stagesOf (instructions content.toList)) file.base ∧
      ∀ port, port ∈ file.ports ↔ Declared (instructions content.toList) port) ∧
    ∀ (content' : String) (before before' after : List Instruction) (stage : Stage),
      instructions content.toList = before ++ .stage stage :: after →
      instructions content'.toList = before' ++ .stage stage :: after →
      stagesOf after = [] →
      (∀ i e, ¬ StartsFrom (stagesOf before) i (.refused e)) →
      (∀ i e, ¬ StartsFrom (stagesOf before') i (.refused e)) →
      SameNames (stagesOf before) (stagesOf before') →
      parse content = parse content' :=
  ⟨makes_instructions _, fun _ => parse_eq_error_iff, fun _ => parse_eq_ok_iff,
    fun _ _ _ _ _ hc hc' ha hb hb' hn => parse_congr hc hc' ha hb hb' hn⟩

-- A name that is given again stands for the later stage, and ports of earlier stages do not count.
example :
    (parse "FROM ruby:2 AS app\nEXPOSE 1\nFROM $X as APP\nFROM --platform=x App\nEXPOSE 80").toOption =
      some { base := none, ports := .ofList [80] } := by
  decide +kernel

end Following

end DeployPlan.BuildFile
