import DeployPlan.Proofs.ImageName.Form

/-!
# Which texts are legal names

The check of a name goes through it once; `conforms_append` says that it may be taken apart at each
letter. From it follows what is legal by construction: a text of letters, digits and inner hyphens
(`Part.conforms`), and a legal name with a hyphen and a number after it, if it is not too long
(`conforms_append_run`). A component of an image name is checked by other rules, and
`conforms_component_iff` says where the two differ: a component may have underscores.
-/

namespace DeployPlan.DnsName

open ImageName (Run Component)

variable {dots : Bool} {place : Place} {s t : List Char}

/-! ## The check in pieces -/

theorem isAlnum_iff {c : Char} :
    isAlnum c = true ↔ 0x61 ≤ c.toNat ∧ c.toNat ≤ 0x7a ∨ 0x30 ≤ c.toNat ∧ c.toNat ≤ 0x39 := by
  simp only [isAlnum, Text.isDigit, Bool.or_eq_true, Bool.and_eq_true, decide_eq_true_eq]
  exact Iff.rfl

theorem conforms_cons_alnum {c : Char} (hc : isAlnum c = true) (place : Place) (r : List Char) :
    conforms dots place (c :: r) = conforms dots .letter r :=
  if_pos hc

/-- A name that is legal up to here is checked on as after a letter. -/
theorem conforms_append (h : conforms dots place s = true) (t : List Char) :
    conforms dots place (s ++ t) = conforms dots .letter t := by
  induction s generalizing place with
  | nil =>
    obtain rfl : place = .letter := by simpa [conforms] using h
    rfl
  | cons c s ih =>
    rw [conforms] at h
    rw [List.cons_append, conforms]
    split at h
    · rename_i hc
      rw [if_pos hc, ih h]
    · rename_i hc
      rw [if_neg hc]
      split at h
      · rename_i hh
        obtain ⟨hp, hs⟩ := Bool.and_eq_true_iff.mp h
        rw [if_pos hh, hp, ih hs, Bool.true_and]
      · rename_i hh
        obtain ⟨hd, hs⟩ := Bool.and_eq_true_iff.mp h
        rw [if_neg hh, hd, ih hs, Bool.true_and]

theorem forall_mem_of_conforms (h : conforms dots place s = true) :
    ∀ c ∈ s, isAlnum c = true ∨ c = '-' ∨ c = '.' := by
  induction s generalizing place with
  | nil => exact fun c hc => nomatch hc
  | cons c s ih =>
    rw [conforms] at h
    split at h
    · rename_i hc
      exact List.forall_mem_cons.mpr ⟨.inl hc, ih h⟩
    · split at h
      · rename_i hh
        exact List.forall_mem_cons.mpr ⟨.inr (.inl hh), ih (Bool.and_eq_true_iff.mp h).2⟩
      · obtain ⟨hd, hs⟩ := Bool.and_eq_true_iff.mp h
        refine List.forall_mem_cons.mpr ⟨.inr (.inr ?_), ih hs⟩
        simpa using (Bool.and_eq_true_iff.mp (Bool.and_eq_true_iff.mp hd).1).2

theorem conforms_run (h : Run s) (place : Place) : conforms dots place s = true := by
  obtain ⟨hn, ha⟩ := h
  induction s generalizing place with
  | nil => exact absurd rfl hn
  | cons c s ih =>
    obtain ⟨hc, hs⟩ := List.forall_mem_cons.mp ha
    rw [conforms_cons_alnum hc]
    cases s with
    | nil => rfl
    | cons d s => exact ih .letter (List.cons_ne_nil d s) hs

theorem conforms_hyphens (n : Nat) (t : List Char) :
    conforms dots .letter (List.replicate (n + 1) '-' ++ t) = conforms dots .hyphen t := by
  induction n with
  | zero => rfl
  | succ n ih => exact ih

/-- A legal name may have a hyphen with letters and digits after it. -/
theorem conforms_append_run (h : conforms dots place s = true) (ht : Run t) :
    conforms dots place (s ++ '-' :: t) = true := by
  rw [conforms_append h]
  exact conforms_run ht .hyphen

/-! ## Parts -/

/-- Letters, digits and inner hyphens. -/
structure Part (s : List Char) : Prop where
  forall_mem : ∀ c ∈ s, isAlnum c = true ∨ c = '-'
  head : s.head? ≠ some '-'
  last : s.getLast? ≠ some '-'

/-- After its first letter, a part may have hyphens. -/
theorem conforms_of_getLast? (hs : ∀ c ∈ s, isAlnum c = true ∨ c = '-')
    (hl : s.getLast? ≠ some '-') (hp : place ≠ .start) (hn : s = [] → place = .letter) :
    conforms dots place s = true := by
  induction s generalizing place with
  | nil =>
    rw [hn rfl]
    rfl
  | cons c s ih =>
    obtain ⟨hc, hrest⟩ := List.forall_mem_cons.mp hs
    have hl' : s.getLast? ≠ some '-' := by
      cases s with
      | nil => exact nofun
      | cons d s => rwa [List.getLast?_cons_cons] at hl
    rcases hc with hc | rfl
    · rw [conforms_cons_alnum hc]
      exact ih hrest hl' nofun fun _ => rfl
    · have hne : s ≠ [] := by
        rintro rfl
        exact hl rfl
      have hstart : (place != .start) = true := bne_iff_ne.mpr hp
      have hs : conforms dots .hyphen s = true := ih hrest hl' nofun fun h => absurd h hne
      rw [conforms, if_neg (by decide), if_pos rfl, hstart, hs]
      rfl

namespace Part

/-- A part that is not empty is a legal name. -/
theorem conforms (h : Part s) (hn : s ≠ []) : DnsName.conforms dots .start s = true := by
  obtain ⟨c, r, rfl⟩ := List.exists_cons_of_ne_nil hn
  obtain ⟨hc, hr⟩ := List.forall_mem_cons.mp h.forall_mem
  have hc : isAlnum c = true := hc.resolve_right fun hh => h.head (congrArg some hh)
  rw [conforms_cons_alnum hc]
  refine conforms_of_getLast? hr ?_ nofun fun _ => rfl
  cases r with
  | nil => exact nofun
  | cons d r => simpa [List.getLast?_cons_cons] using h.last

theorem trimHyphens (hs : ∀ c ∈ s, isAlnum c = true ∨ c = '-') (hh : s.head? ≠ some '-') :
    Part (DnsName.trimHyphens s) := by
  obtain ⟨rest, -, hrest⟩ := Text.exists_append_trimEndWhere (· == '-') s
  refine ⟨fun c hc => hs c ?_, fun h => hh ?_, fun h => ?_⟩
  · rw [← hrest]
    exact List.mem_append_left rest hc
  · obtain ⟨r, hr⟩ := List.head?_eq_some_iff.mp h
    rw [← hrest, ← DnsName.trimHyphens, hr]
    rfl
  · have := Text.eq_false_of_mem_getLast?_trimEndWhere (Option.mem_def.mpr h)
    exact absurd this (by decide)

end Part

/-! ## Checked names -/

theorem byteLength_eq_length (h : ∀ c ∈ s, isAlnum c = true ∨ c = '-' ∨ c = '.') :
    Text.byteLength s = s.length := by
  induction s with
  | nil => rfl
  | cons c s ih =>
    obtain ⟨hc, hs⟩ := List.forall_mem_cons.mp h
    have hsize : c.utf8Size = 1 := by
      rcases hc with hc | rfl | rfl
      · rw [isAlnum_iff] at hc
        rw [Char.utf8Size_eq_one_iff]
        show c.toNat ≤ 0x7f
        omega
      · rfl
      · rfl
    rw [Text.byteLength, hsize, ih hs, List.length_cons, Nat.add_comm]

theorem validate_eq_ok_iff {field value : String} :
    validate field value = .ok () ↔ isSubdomain value = true := by
  rw [validate]
  by_cases he : value = ""
  · subst he
    exact iff_of_false nofun nofun
  · rw [if_neg he]
    split <;> simp_all

/-! ## Components of image names -/

/-- A component is checked as a name is, but it may have underscores. -/
theorem conforms_component_iff (h : Component s) : conforms true .start s = true ↔ '_' ∉ s := by
  constructor
  · intro hs hu
    exact absurd (forall_mem_of_conforms hs '_' hu) (by decide)
  intro hu
  induction h with
  | run h => exact conforms_run h .start
  | @more s separator rest h hs hr ih =>
    rw [List.append_assoc, conforms_append (conforms_run h .start)]
    have hrest : conforms true .start rest = true := ih fun hc => hu (List.mem_append_right _ hc)
    cases hs with
    | dot => exact hrest
    | lowLine => simp at hu
    | twoLowLines => simp at hu
    | hyphens n =>
      obtain ⟨c, r, rfl, hc⟩ := hr.exists_cons
      rw [conforms_cons_alnum hc] at hrest
      rw [conforms_hyphens, conforms_cons_alnum hc, hrest]

end DeployPlan.DnsName
