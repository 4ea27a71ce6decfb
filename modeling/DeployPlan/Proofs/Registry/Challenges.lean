import DeployPlan.Proofs.Config.Variables
import DeployPlan.Proofs.ImageName.Form
import DeployPlan.Proofs.Text.Blanks
import DeployPlan.Proofs.Text.Case
import DeployPlan.Registry.Challenge

/-!
# Challenges as they are written

Registries write a challenge as a scheme, a space and parameters with separators between them:
`Lists text ps` says that a text lists parameters, whatever they are called and in whatever order
they stand, and `Presents header ps` that a header does. A challenge is read by looking through the
text for parameters. `parameters_of_lists` says that this finds those that are listed and no other
ones: no separator has a character of a key, and a value is skipped up to the quotation mark that
ends it. `parse_presented` says what is read from a header, and which headers are refused.
-/

namespace DeployPlan

namespace BearerChallenge

open Text

/-! ## Lists of parameters -/

/-- What may stand between parameters: no word characters, quotation marks or equals signs. -/
def IsSeparator (s : List Char) : Prop :=
  ∀ c ∈ s, isWordChar c = false ∧ c ≠ '"' ∧ c ≠ '='

/-- A key of word characters, and a value without quotation marks. -/
structure IsParameter (p : List Char × List Char) : Prop where
  key_ne_nil : p.1 ≠ []
  key_word : ∀ c ∈ p.1, isWordChar c = true
  value_unquoted : '"' ∉ p.2

/-- The text `key="value"`. -/
def parameterText (p : List Char × List Char) : List Char :=
  p.1 ++ '=' :: '"' :: (p.2 ++ ['"'])

/-- The text lists parameters, with separators between and around them. A separator may be empty. -/
inductive Lists : List Char → List (List Char × List Char) → Prop
  | nil {separator : List Char} (hs : IsSeparator separator) : Lists separator []
  | cons {separator text : List Char} {p : List Char × List Char}
      {ps : List (List Char × List Char)} (hs : IsSeparator separator) (hp : IsParameter p)
      (h : Lists text ps) : Lists (separator ++ (parameterText p ++ text)) (p :: ps)

theorem parameters_separator_append {s : List Char} (h : IsSeparator s) (text : List Char) :
    parameters (s ++ text) = parameters text := by
  induction s with
  | nil => rfl
  | cons c s ih =>
    obtain ⟨hc, hs⟩ := List.forall_mem_cons.mp h
    rw [List.cons_append, parameters, if_neg (by simp [hc.1]), ih hs]

theorem parameters_parameterText_append {p : List Char × List Char} (h : IsParameter p)
    (text : List Char) : parameters (parameterText p ++ text) = p :: parameters text := by
  obtain ⟨key, value⟩ := p
  obtain ⟨c, key, rfl⟩ := List.exists_cons_of_ne_nil h.key_ne_nil
  obtain ⟨hc, hkey⟩ := List.forall_mem_cons.mp h.key_word
  have hequals : ¬isWordChar '=' = true := by decide
  have htext : parameterText (c :: key, value) ++ text =
      c :: (key ++ '=' :: '"' :: (value ++ '"' :: text)) := by
    simp [parameterText]
  have htake : (key ++ '=' :: '"' :: (value ++ '"' :: text)).takeWhile isWordChar = key := by
    rw [List.takeWhile_append_of_pos hkey, List.takeWhile_cons_of_neg hequals, List.append_nil]
  have hdrop : (key ++ '=' :: '"' :: (value ++ '"' :: text)).dropWhile isWordChar =
      '=' :: '"' :: (value ++ '"' :: text) := by
    rw [List.dropWhile_append_of_pos hkey, List.dropWhile_cons_of_neg hequals]
  have hvalue : quotedValue? ('=' :: '"' :: (value ++ '"' :: text)) = some (value, text) :=
    cut_append h.value_unquoted text
  rw [htext, parameters, if_pos hc, htake]
  split
  · rename_i found rest hfound
    rw [hdrop, hvalue] at hfound
    cases hfound
    rfl
  · rename_i hnone
    rw [hdrop, hvalue] at hnone
    cases hnone

/-- The parameters that a text lists are found, and no other ones. -/
theorem parameters_of_lists {text : List Char} {ps : List (List Char × List Char)}
    (h : Lists text ps) : parameters text = ps := by
  induction h with
  | @nil separator hs =>
    have hnone := parameters_separator_append hs []
    rw [List.append_nil, parameters] at hnone
    exact hnone
  | cons hs hp _ ih =>
    rw [parameters_separator_append hs, parameters_parameterText_append hp, ih]

theorem Lists.trimEnd {text : List Char} {ps : List (List Char × List Char)} (h : Lists text ps) :
    Lists (Text.trimEnd text) ps := by
  induction h with
  | @nil separator hs =>
    refine .nil fun c hc => hs c ?_
    obtain ⟨blanks, -, hback⟩ := exists_blanks_trimEnd separator
    rw [← hback]
    exact List.mem_append_left blanks hc
  | @cons separator text p ps hs hp _ ih =>
    have hquote : isBlank '"' = false := rfl
    have hsplit (rest : List Char) : separator ++ (parameterText p ++ rest) =
        (separator ++ (p.1 ++ '=' :: '"' :: p.2)) ++ '"' :: rest := by
      simp [parameterText]
    rw [hsplit, trimEnd_append_cons hquote, ← hsplit]
    exact .cons hs hp ih

/-! ## Which value counts -/

def Gives (p : List Char × List Char) (key value : String) : Prop :=
  p.1 = key.toList ∧ p.2 = value.toList

theorem last?_eq_some_iff {key value : String} {ps : List (List Char × List Char)} :
    last? key ps = some value ↔ LastGives Gives ps key value := by
  have hvalue (p : List Char × List Char) : String.ofList p.2 = value ↔ p.2 = value.toList := by
    rw [← String.toList_inj, String.toList_ofList]
  have hnone (p : List Char × List Char) : (∀ w, ¬Gives p key w) ↔ p.1 ≠ key.toList := by
    refine ⟨fun h hp => h (String.ofList p.2) ⟨hp, ?_⟩, fun h w hw => h hw.1⟩
    rw [String.toList_ofList]
  simp only [last?, Option.map_eq_some_iff, List.find?_eq_some_iff_append, decide_eq_true_eq,
    hvalue]
  constructor
  · rintro ⟨p, ⟨hp, after, before, hps, hafter⟩, hv⟩
    refine ⟨before.reverse, p, after.reverse, ?_, ⟨hp, hv⟩, fun q hq => ?_⟩
    · rw [← List.reverse_reverse ps, hps]
      simp
    · have hkey := hafter q (List.mem_reverse.mp hq)
      exact (hnone q).mpr (by simpa using hkey)
  · rintro ⟨before, p, after, rfl, ⟨hp, hv⟩, hafter⟩
    refine ⟨p, ⟨hp, after.reverse, before.reverse, by simp, fun q hq => ?_⟩, hv⟩
    have hkey := (hnone q).mp (hafter q (List.mem_reverse.mp hq))
    simpa using hkey

theorem last?_eq_none_iff {key : String} {ps : List (List Char × List Char)} :
    last? key ps = none ↔ ∀ p ∈ ps, p.1 ≠ key.toList := by
  simp [last?, List.find?_eq_none]

/-! ## Headers -/

def scheme : List Char :=
  ['b', 'e', 'a', 'r', 'e', 'r']

/-- The header presents parameters: blanks, the scheme in any case, a space, a list of the
parameters and blanks. -/
inductive Presents : List Char → List (List Char × List Char) → Prop
  | mk {front word text back : List Char} {ps : List (List Char × List Char)} (hf : Blanks front)
      (hw : InAnyCase scheme word) (hl : Lists text ps) (hb : Blanks back) :
    Presents (front ++ (word ++ ' ' :: text) ++ back) ps

/-- Realm, service and scope are the values of the last parameters with these keys. -/
structure SaidBy (ps : List (List Char × List Char)) (challenge : BearerChallenge) : Prop where
  realm : LastGives Gives ps "realm" challenge.realm
  service : ∀ value, challenge.service = some value ↔ LastGives Gives ps "service" value
  scope : ∀ value, challenge.scope = some value ↔ LastGives Gives ps "scope" value

def ofParameters (ps : List (List Char × List Char)) : Option BearerChallenge :=
  (last? "realm" ps).map fun realm =>
    { realm, service := last? "service" ps, scope := last? "scope" ps }

theorem ofParameters_eq_some_iff {ps : List (List Char × List Char)}
    {challenge : BearerChallenge} :
    ofParameters ps = some challenge ↔ challenge.SaidBy ps := by
  rw [ofParameters, Option.map_eq_some_iff]
  constructor
  · rintro ⟨realm, hrealm, rfl⟩
    exact ⟨last?_eq_some_iff.mp hrealm, fun _ => last?_eq_some_iff, fun _ => last?_eq_some_iff⟩
  · rintro ⟨hrealm, hservice, hscope⟩
    obtain ⟨realm, service, scope⟩ := challenge
    refine ⟨realm, last?_eq_some_iff.mpr hrealm, ?_⟩
    have hservice : last? "service" ps = service :=
      Option.ext fun value => last?_eq_some_iff.trans (hservice value).symm
    have hscope : last? "scope" ps = scope :=
      Option.ext fun value => last?_eq_some_iff.trans (hscope value).symm
    rw [hservice, hscope]

theorem ofParameters_eq_none_iff {ps : List (List Char × List Char)} :
    ofParameters ps = none ↔ ∀ p ∈ ps, p.1 ≠ "realm".toList := by
  rw [ofParameters, Option.map_eq_none_iff, last?_eq_none_iff]

theorem isScheme_iff {word : List Char} :
    equalIgnoringCase word "bearer".toList = true ↔ InAnyCase scheme word := by
  have hscheme : "bearer".toList = scheme := rfl
  rw [hscheme]
  exact equalIgnoringCase_iff (by decide)

theorem not_isBlank_of_isScheme {word : List Char} (h : InAnyCase scheme word) :
    ∀ c ∈ word, isBlank c = false := by
  have hletters : (scheme.all fun letter => !isBlank letter && !isBlank letter.toUpper) = true := by
    decide
  intro c hc
  obtain ⟨letter, hl, hcase⟩ := h.exists_letter hc
  have hletter := List.all_eq_true.mp hletters letter hl
  rw [Bool.and_eq_true, Bool.not_eq_true', Bool.not_eq_true'] at hletter
  rcases hcase with rfl | rfl
  · exact hletter.1
  · exact hletter.2

theorem parseChars_of_not_mem {header : List Char} (h : ' ' ∉ trim header) :
    parseChars header = none := by
  rw [parseChars, cut_eq_none_iff.mpr h]
  rfl

/-- What is read of a header that names the scheme: what its parameters say. -/
theorem parseChars_of_trim {header word text : List Char}
    (h : trim header = word ++ ' ' :: text) (hspace : ' ' ∉ word) (hw : InAnyCase scheme word) :
    parseChars header = ofParameters (parameters text) := by
  rw [parseChars, h, cut_append hspace]
  simp only [Option.bind_eq_bind, Option.bind_some, isScheme_iff.mpr hw, Bool.not_true,
    Bool.false_eq_true, if_false, ofParameters]
  cases last? "realm" (parameters text) <;> rfl

/-- Nothing is read of a header that names another scheme. -/
theorem parseChars_of_not_inAnyCase {header word text : List Char}
    (h : trim header = word ++ ' ' :: text) (hspace : ' ' ∉ word) (hw : ¬InAnyCase scheme word) :
    parseChars header = none := by
  have hname : equalIgnoringCase word "bearer".toList = false :=
    Bool.eq_false_iff.mpr fun hname => hw (isScheme_iff.mp hname)
  rw [parseChars, h, cut_append hspace]
  simp only [Option.bind_eq_bind, Option.bind_some, hname, Bool.not_false, if_true]
  rfl

theorem parseChars_of_presents {header : List Char} {ps : List (List Char × List Char)}
    (h : Presents header ps) : parseChars header = ofParameters ps := by
  obtain @⟨front, word, text, back, ps, hf, hw, hl, hb⟩ := h
  have hblank := not_isBlank_of_isScheme hw
  have hspace : ' ' ∉ word := fun hc => Bool.noConfusion (hblank ' ' hc)
  have hself : trim word = word :=
    trim_eq_self_of_ends (fun c hc => hblank c (List.mem_of_mem_head? hc))
      fun c hc => hblank c (List.mem_of_getLast? hc)
  have hpad : trim (front ++ (word ++ ' ' :: text) ++ back) = trim (word ++ ' ' :: text) :=
    trim_pad hf hb
  by_cases htext : Blanks text
  · have htrim : trim (word ++ ' ' :: text) = word := by
      have hspaces : Blanks (' ' :: text) := blanks_cons_iff.mpr ⟨rfl, htext⟩
      have hword := trim_pad (s := word) blanks_nil hspaces
      rwa [List.nil_append, hself] at hword
    have hnil : ps = [] := by
      cases hl with
      | nil _ => rfl
      | @cons separator text p _ _ _ _ =>
        have hquote : '"' ∈ separator ++ (parameterText p ++ text) := by simp [parameterText]
        cases htext '"' hquote
    rw [parseChars_of_not_mem (by rwa [hpad, htrim]), hnil]
    rfl
  · have htrim : trim (word ++ ' ' :: text) = word ++ ' ' :: Text.trimEnd text := by
      cases word with
      | nil => cases hw
      | cons c rest =>
        have hc : isBlank c = false := hblank c List.mem_cons_self
        have hspaced : (c :: rest) ++ ' ' :: text = ((c :: rest) ++ [' ']) ++ text := by simp
        rw [hspaced, trim, List.cons_append, List.cons_append, trimStart_cons_of_not_isBlank hc,
          ← List.cons_append, trimEnd_append htext]
        simp
    rw [parseChars_of_trim (hpad.trans htrim) hspace hw, parameters_of_lists hl.trimEnd]

/-- Reading a header that presents parameters gives the challenge that they say, or none if they
give no realm; a header without a space and one that names another scheme give none. -/
theorem parse_presented (header : String) :
    (∀ ps, Presents header.toList ps →
      (∀ challenge, parse header = some challenge ↔ challenge.SaidBy ps) ∧
        (parse header = none ↔ ∀ p ∈ ps, p.1 ≠ "realm".toList)) ∧
      (' ' ∉ trim header.toList → parse header = none) ∧
        ∀ word rest, trim header.toList = word ++ ' ' :: rest → ' ' ∉ word →
          ¬InAnyCase scheme word → parse header = none := by
  refine ⟨fun ps h => ?_, parseChars_of_not_mem, fun word rest => parseChars_of_not_inAnyCase⟩
  have hparse : parse header = ofParameters ps := parseChars_of_presents h
  rw [hparse]
  exact ⟨fun challenge => ofParameters_eq_some_iff, ofParameters_eq_none_iff⟩

end BearerChallenge

end DeployPlan
