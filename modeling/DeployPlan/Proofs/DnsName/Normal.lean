import DeployPlan.Proofs.DnsName.Form
import Mathlib.Data.List.Chain
import Mathlib.Data.List.TakeWhile

/-!
# Labels made out of texts

`normalize` makes a label out of every text that has a letter or digit of ASCII in its lower case
(`normalize_eq_none_iff`). What it makes is a label (`isLabel_iff` says what these are) without two
hyphens in a row (`Single`), and each of these is left as it is: `Labelled.of_normalChars` is the
one direction, `Labelled.normalChars_eq` the other.
-/

namespace DeployPlan.DnsName

variable {dots : Bool} {place : Place} {s : List Char}

/-! ## Letters and digits -/

theorem isAlnum_hyphen : isAlnum '-' = false := rfl

theorem isAlnum_eq_isAlphanum {c : Char} (h : ¬('A' ≤ c ∧ c ≤ 'Z')) :
    isAlnum c = c.isAlphanum := by
  have hupper : c.isUpper = false := Bool.eq_false_iff.mpr fun hc => h (of_decide_eq_true hc)
  show isAlnum c = (c.isUpper || c.isLower || c.isDigit)
  rw [hupper, Bool.false_or]
  rfl

/-! ## Labels -/

theorem forall_mem_of_conforms_label (h : conforms false place s = true) :
    ∀ c ∈ s, isAlnum c = true ∨ c = '-' := by
  induction s generalizing place with
  | nil => exact nofun
  | cons c s ih =>
    rw [conforms] at h
    split at h
    · rename_i hc
      exact List.forall_mem_cons.mpr ⟨.inl hc, ih h⟩
    · split at h
      · rename_i hh
        exact List.forall_mem_cons.mpr ⟨.inr hh, ih (Bool.and_eq_true_iff.mp h).2⟩
      · simp at h

theorem exists_conforms_tail {c : Char} (h : conforms dots place (c :: s) = true) :
    ∃ place, conforms dots place s = true := by
  rw [conforms] at h
  split at h
  · exact ⟨_, h⟩
  · split at h
    · exact ⟨_, (Bool.and_eq_true_iff.mp h).2⟩
    · exact ⟨_, (Bool.and_eq_true_iff.mp h).2⟩

theorem getLast?_of_conforms (h : conforms dots place s = true) : s.getLast? ≠ some '-' := by
  induction s generalizing place with
  | nil => exact nofun
  | cons c s ih =>
    cases s with
    | nil =>
      intro hc
      obtain rfl : c = '-' := Option.some.inj hc
      simp [DnsName.conforms, isAlnum_hyphen] at h
    | cons d s =>
      obtain ⟨place, h⟩ := exists_conforms_tail h
      rw [List.getLast?_cons_cons]
      exact ih h

theorem Part.of_conforms (h : DnsName.conforms false .start s = true) : Part s := by
  refine ⟨forall_mem_of_conforms_label h, fun hh => ?_, getLast?_of_conforms h⟩
  obtain ⟨r, rfl⟩ := List.head?_eq_some_iff.mp hh
  simp [DnsName.conforms, isAlnum_hyphen] at h

theorem Part.byteLength_eq (h : Part s) : Text.byteLength s = s.length :=
  byteLength_eq_length fun c hc => (h.forall_mem c hc).imp id .inl

theorem conforms_label_iff : conforms false .start s = true ↔ s ≠ [] ∧ Part s := by
  constructor
  · intro h
    refine ⟨?_, .of_conforms h⟩
    rintro rfl
    cases h
  · rintro ⟨hn, part⟩
    exact part.conforms hn

theorem isLabel_iff_part {name : String} :
    isLabel name = true ↔
      Text.byteLength name.toList ≤ 63 ∧ name.toList ≠ [] ∧ Part name.toList := by
  rw [isLabel, Bool.and_eq_true, decide_eq_true_eq, conforms_label_iff]
  exact Iff.rfl

/-- The check of labels accepts letters, digits and inner hyphens, of one to sixty-three bytes. -/
theorem isLabel_iff {name : String} :
    isLabel name = true ↔
      Part name.toList ∧ 1 ≤ Text.byteLength name.toList ∧ Text.byteLength name.toList ≤ 63 := by
  rw [isLabel_iff_part]
  constructor
  · rintro ⟨hlength, hn, part⟩
    refine ⟨part, ?_, hlength⟩
    rw [part.byteLength_eq]
    exact List.length_pos_iff.mpr hn
  · rintro ⟨part, hpos, hlength⟩
    rw [part.byteLength_eq] at hpos
    exact ⟨hlength, List.length_pos_iff.mp hpos, part⟩

theorem isSubdomain_of_isLabel {name : String} (h : isLabel name = true) :
    isSubdomain name = true := by
  obtain ⟨part, hpos, hlength⟩ := isLabel_iff.mp h
  have hconforms : conforms true .start name.toList = true := part.conforms fun hnil => by
    rw [hnil] at hpos
    cases hpos
  rw [isSubdomain, hconforms, Bool.and_true, decide_eq_true_eq]
  exact Nat.le_trans hlength (by decide)

/-! ## Hyphens in a row -/

/-- No hyphen follows another one. -/
def Single (s : List Char) : Prop :=
  s.IsChain fun a b => ¬(a = '-' ∧ b = '-')

theorem single_collapse (s : List Char) : Single (collapse s) := by
  induction s with
  | nil => exact .nil
  | cons c s ih =>
    rw [collapse]
    cases hs : collapse s with
    | nil => exact .singleton c
    | cons d r =>
      rw [hs] at ih
      show Single (if c = '-' ∧ d = '-' then d :: r else c :: d :: r)
      split
      · exact ih
      · rename_i hne
        exact List.isChain_cons_cons.mpr ⟨hne, ih⟩

theorem Single.collapse_eq (h : Single s) : collapse s = s := by
  induction s with
  | nil => rfl
  | cons c s ih =>
    cases s with
    | nil => rfl
    | cons d r =>
      obtain ⟨hne, hr⟩ := List.isChain_cons_cons.mp h
      rw [collapse, ih hr]
      exact if_neg hne

theorem mem_collapse_iff {c : Char} : c ∈ collapse s ↔ c ∈ s := by
  induction s with
  | nil => exact Iff.rfl
  | cons d s ih =>
    rw [collapse, List.mem_cons, ← ih]
    cases collapse s with
    | nil => simp
    | cons e r =>
      show c ∈ (if d = '-' ∧ e = '-' then e :: r else d :: e :: r) ↔ _
      split
      · rename_i hh
        simp [hh]
      · exact List.mem_cons

/-! ## Hyphens at the ends -/

theorem prefix_trimHyphens (s : List Char) : trimHyphens s <+: s := by
  obtain ⟨rest, -, hrest⟩ := Text.exists_append_trimEndWhere (· == '-') s
  exact ⟨rest, hrest⟩

theorem length_trimHyphens_le (s : List Char) : (trimHyphens s).length ≤ s.length :=
  (prefix_trimHyphens s).length_le

theorem trimHyphens_eq_nil_iff : trimHyphens s = [] ↔ ∀ c ∈ s, c = '-' := by
  rw [trimHyphens, Text.trimEndWhere, List.reverse_eq_nil_iff, List.dropWhile_eq_nil_iff]
  simp

theorem trimHyphens_self (h : s.getLast? ≠ some '-') : trimHyphens s = s := by
  rw [trimHyphens, Text.trimEndWhere]
  rw [← List.head?_reverse] at h
  cases hs : s.reverse with
  | nil => rw [List.reverse_eq_nil_iff.mp hs]; rfl
  | cons c r =>
    rw [hs] at h
    have hc : ¬(c == '-') = true := by simpa using h
    rw [List.dropWhile_cons, if_neg hc, ← hs, List.reverse_reverse]

theorem forall_mem_dropWhile_hyphens_iff :
    (∀ c ∈ s.dropWhile (· == '-'), c = '-') ↔ ∀ c ∈ s, c = '-' := by
  induction s with
  | nil => exact Iff.rfl
  | cons c s ih =>
    rw [List.dropWhile_cons]
    split
    · rename_i hc
      rw [ih, List.forall_mem_cons, and_iff_right (eq_of_beq hc)]
    · exact Iff.rfl

/-! ## What is made -/

/-- A text in lower case with a hyphen for each character that may not stand in a label. -/
def hyphened (raw : List Char) : List Char :=
  (Text.lower raw).map fun c => if isAlnum c then c else '-'

/-- A text without the hyphens around it and all but one of those in a row. -/
def stripped (s : List Char) : List Char :=
  trimHyphens ((collapse s).dropWhile (· == '-'))

/-- What is made of a text is cut to the length of a label. -/
theorem normalChars_eq (raw : List Char) :
    normalChars raw =
      if (stripped (hyphened raw)).length > maxLabel then
        trimHyphens ((stripped (hyphened raw)).take maxLabel)
      else stripped (hyphened raw) :=
  rfl

theorem forall_mem_hyphened (raw : List Char) :
    ∀ c ∈ hyphened raw, isAlnum c = true ∨ c = '-' := by
  intro c hc
  obtain ⟨d, -, rfl⟩ := List.mem_map.mp hc
  split
  · rename_i hd
    exact .inl hd
  · exact .inr rfl

theorem isInfix_stripped (s : List Char) : stripped s <:+: collapse s :=
  (prefix_trimHyphens _).isInfix.trans (List.dropWhile_suffix _).isInfix

theorem part_stripped (hs : ∀ c ∈ s, isAlnum c = true ∨ c = '-') : Part (stripped s) := by
  refine .trimHyphens (fun c hc => hs c ?_) fun hh => ?_
  · exact mem_collapse_iff.mp ((List.dropWhile_sublist _).subset hc)
  · have hfirst := List.head?_dropWhile_not (· == '-') (collapse s)
    rw [hh] at hfirst
    exact absurd hfirst (by decide)

/-- The characters of a label, with no two hyphens in a row. -/
structure Labelled (s : List Char) : Prop where
  part : Part s
  length_le : s.length ≤ maxLabel
  single : Single s

namespace Labelled

/-- What is made of a text, if anything, is a label without hyphens in a row. -/
theorem of_normalChars (raw : List Char) : Labelled (normalChars raw) := by
  have part : Part (stripped (hyphened raw)) := part_stripped (forall_mem_hyphened raw)
  have single : Single (stripped (hyphened raw)) :=
    List.IsChain.infix (single_collapse _) (isInfix_stripped _)
  rw [DnsName.normalChars_eq]
  split
  · -- The cut may lay a hyphen bare at the end, and then it is taken away as well.
    refine ⟨.trimHyphens (fun c hc => part.forall_mem c (List.mem_of_mem_take hc)) ?_, ?_, ?_⟩
    · rw [List.head?_take, if_neg (by decide)]
      exact part.head
    · exact Nat.le_trans (length_trimHyphens_le _) (List.length_take_le ..)
    · exact List.IsChain.prefix (single.take _) (prefix_trimHyphens _)
  · rename_i hlength
    exact ⟨part, Nat.le_of_not_lt hlength, single⟩

theorem hyphened_eq (h : Labelled s) : hyphened s = s := by
  have hlower : Text.lower s = s := by
    refine Text.lower_self fun c hc => ?_
    rcases h.part.forall_mem c hc with hc | rfl
    · rw [isAlnum_iff] at hc
      refine ⟨by omega, fun hcapital => ?_⟩
      have hcapital : 0x41 ≤ c.toNat ∧ c.toNat ≤ 0x5a := hcapital
      omega
    · decide
  have hkept : s.map (fun c => if isAlnum c then c else '-') = s.map id := by
    refine List.map_congr_left fun c hc => ?_
    rcases h.part.forall_mem c hc with hc | rfl
    · exact if_pos hc
    · rfl
  rw [hyphened, hlower, hkept, List.map_id]

/-- A label without hyphens in a row is left as it is. -/
theorem normalChars_eq (h : Labelled s) : normalChars s = s := by
  have hfront : s.dropWhile (· == '-') = s := by
    cases s with
    | nil => rfl
    | cons c r =>
      refine List.dropWhile_cons_of_neg fun hc => h.part.head ?_
      rw [List.head?_cons, eq_of_beq hc]
  have hstripped : stripped (hyphened s) = s := by
    rw [stripped, h.hyphened_eq, h.single.collapse_eq, hfront, trimHyphens_self h.part.last]
  rw [DnsName.normalChars_eq, hstripped, if_neg (Nat.not_lt.mpr h.length_le)]

end Labelled

theorem normalChars_eq_nil_iff {raw : List Char} :
    normalChars raw = [] ↔ ∀ c ∈ Text.lower raw, isAlnum c = false := by
  have hstripped : stripped (hyphened raw) = [] ↔ ∀ c ∈ Text.lower raw, isAlnum c = false := by
    rw [stripped, trimHyphens_eq_nil_iff, forall_mem_dropWhile_hyphens_iff]
    simp only [mem_collapse_iff, hyphened, List.forall_mem_map]
    refine forall₂_congr fun c _ => ?_
    cases hc : isAlnum c with
    | false => simp
    | true =>
      simp only [if_true, Bool.true_eq_false, iff_false]
      rintro rfl
      cases hc
  rw [← hstripped, normalChars_eq]
  split
  · rename_i hlength
    refine iff_of_false (fun hnil => ?_) fun hnil => ?_
    · rw [trimHyphens_eq_nil_iff] at hnil
      have part : Part (stripped (hyphened raw)) := part_stripped (forall_mem_hyphened raw)
      cases hs : stripped (hyphened raw) with
      | nil => rw [hs] at hlength; cases hlength
      | cons c r =>
        rw [hs] at hnil part
        refine part.head ?_
        rw [List.head?_cons, hnil c List.mem_cons_self]
    · rw [hnil] at hlength
      cases hlength
  · exact Iff.rfl


/-- Nothing can be made of a text exactly if its lower case has no letter or digit of ASCII. -/
theorem normalize_eq_none_iff {raw : String} :
    normalize raw = none ↔ ∀ c ∈ Text.lower raw.toList, c.isAlphanum = false := by
  have hnil : normalize raw = none ↔ normalChars raw.toList = [] := by
    rw [normalize]
    split
    · rename_i h
      exact iff_of_true rfl h
    · rename_i hn
      exact iff_of_false nofun hn
  rw [hnil, normalChars_eq_nil_iff]
  refine forall₂_congr fun c hc => ?_
  rw [isAlnum_eq_isAlphanum (Text.not_capital_of_mem_lower hc)]

theorem normalize_eq_some_iff {raw name : String} :
    normalize raw = some name ↔ normalChars raw.toList = name.toList ∧ name ≠ "" := by
  rw [normalize]
  cases hc : normalChars raw.toList with
  | nil =>
    refine iff_of_false nofun fun ⟨hname, hne⟩ => hne ?_
    rw [← String.toList_inj, ← hname]
    rfl
  | cons c r =>
    rw [Option.some_inj, ← String.toList_inj, String.toList_ofList]
    refine ⟨fun h => ⟨h, ?_⟩, And.left⟩
    rintro rfl
    cases h

theorem normalize_self_iff {name : String} :
    normalize name = some name ↔ isLabel name = true ∧ Single name.toList := by
  rw [normalize_eq_some_iff, isLabel_iff]
  constructor
  · rintro ⟨hname, hne⟩
    have labelled : Labelled name.toList := hname ▸ .of_normalChars name.toList
    have hbytes := labelled.part.byteLength_eq
    refine ⟨⟨labelled.part, ?_, ?_⟩, labelled.single⟩
    · rw [hbytes, Nat.one_le_iff_ne_zero, Ne, List.length_eq_zero_iff, String.toList_eq_nil_iff]
      exact hne
    · rw [hbytes]
      exact labelled.length_le
  · rintro ⟨⟨part, hpos, hlength⟩, single⟩
    rw [part.byteLength_eq] at hpos hlength
    refine ⟨Labelled.normalChars_eq ⟨part, hlength, single⟩, ?_⟩
    rintro rfl
    cases hpos

theorem normalize_normalize {raw name : String} (h : normalize raw = some name) :
    normalize name = some name := by
  obtain ⟨hname, hne⟩ := normalize_eq_some_iff.mp h
  have labelled : Labelled name.toList := hname ▸ .of_normalChars raw.toList
  exact normalize_eq_some_iff.mpr ⟨labelled.normalChars_eq, hne⟩

/-- A label as it is made of a text. -/
structure IsNormal (name : String) : Prop where
  label : isLabel name = true
  one_le_bytes : 1 ≤ Text.byteLength name.toList
  bytes_le : Text.byteLength name.toList ≤ 63
  first : ∃ c, name.toList.head? = some c ∧ isAlnum c = true
  last : ∃ c, name.toList.getLast? = some c ∧ isAlnum c = true
  single : Single name.toList

theorem isNormal_of_normalize {raw name : String} (h : normalize raw = some name) :
    IsNormal name := by
  obtain ⟨label, single⟩ := normalize_self_iff.mp (normalize_normalize h)
  obtain ⟨part, hpos, hle⟩ := isLabel_iff.mp label
  have hne : name.toList ≠ [] := by
    intro hnil
    rw [hnil] at hpos
    cases hpos
  have halnum {c : Char} (hc : c ∈ name.toList) (hh : c ≠ '-') : isAlnum c = true :=
    (part.forall_mem c hc).resolve_right hh
  refine ⟨label, hpos, hle, ?_, ?_, single⟩
  · refine ⟨name.toList.head hne, List.head?_eq_some_head hne, halnum (List.head_mem hne) ?_⟩
    intro hh
    exact part.head (by rw [List.head?_eq_some_head hne, hh])
  · refine ⟨name.toList.getLast hne, List.getLast?_eq_some_getLast hne,
      halnum (List.getLast_mem hne) ?_⟩
    intro hh
    exact part.last (by rw [List.getLast?_eq_some_getLast hne, hh])

theorem isLabel_of_normalize {raw name : String} (h : normalize raw = some name) :
    isLabel name = true :=
  (isNormal_of_normalize h).label

end DeployPlan.DnsName
