import DeployPlan.ImageName

/-!
# What image names are made of

The parts of an image name, said without the checks that read them: a component consists of runs of
letters and digits with separators between them (`Component`), a tag of word characters, dots and
hyphens (`Tag`), and an address of a registry has a dot or a colon or is the local host
(`NamesRegistry`). `isComponent_iff`, `isTag_iff` and `looksLikeRegistry_iff` say that the checks
accept just these.
-/

namespace DeployPlan.ImageName

/-! ## Components -/

/-- A run of lower case letters and digits. -/
def Run (s : List Char) : Prop :=
  s ≠ [] ∧ ∀ c ∈ s, DnsName.isAlnum c = true

/-- What stands between two runs. -/
inductive Separator : List Char → Prop
  | dot : Separator ['.']
  | lowLine : Separator ['_']
  | twoLowLines : Separator ['_', '_']
  | hyphens (n : Nat) : Separator (List.replicate (n + 1) '-')

/-- Runs with separators between them. -/
inductive Component : List Char → Prop
  | run {s : List Char} (h : Run s) : Component s
  | more {s separator rest : List Char} (h : Run s) (hs : Separator separator)
    (hr : Component rest) : Component (s ++ separator ++ rest)

theorem Run.cons {c : Char} {s : List Char} (hc : DnsName.isAlnum c = true) (h : Run s) :
    Run (c :: s) :=
  ⟨List.cons_ne_nil c s, List.forall_mem_cons.mpr ⟨hc, h.2⟩⟩

theorem Run.single {c : Char} (hc : DnsName.isAlnum c = true) : Run [c] :=
  ⟨List.cons_ne_nil c [], by simpa using hc⟩

namespace Component

theorem exists_cons {s : List Char} (h : Component s) :
    ∃ c r, s = c :: r ∧ DnsName.isAlnum c = true := by
  cases h with
  | run h =>
    obtain ⟨c, r, rfl⟩ := List.exists_cons_of_ne_nil h.1
    exact ⟨c, r, rfl, h.2 c List.mem_cons_self⟩
  | more h hs hr =>
    obtain ⟨c, r, rfl⟩ := List.exists_cons_of_ne_nil h.1
    exact ⟨c, _, rfl, h.2 c List.mem_cons_self⟩

theorem ne_nil {s : List Char} (h : Component s) : s ≠ [] := by
  obtain ⟨c, r, rfl, -⟩ := h.exists_cons
  exact List.cons_ne_nil c r

theorem cons {c : Char} {s : List Char} (hc : DnsName.isAlnum c = true) (h : Component s) :
    Component (c :: s) := by
  cases h with
  | run h => exact .run (h.cons hc)
  | more h hs hr => exact .more (h.cons hc) hs hr

theorem after {c : Char} {separator rest : List Char} (hc : DnsName.isAlnum c = true)
    (hs : Separator separator) (hr : Component rest) : Component (c :: (separator ++ rest)) :=
  .more (.single hc) hs hr

theorem exists_append {s : List Char} (h : Component s) :
    ∃ r c, s = r ++ [c] ∧ DnsName.isAlnum c = true := by
  induction h with
  | @run s h =>
    refine ⟨s.dropLast, s.getLast h.1, (List.dropLast_concat_getLast h.1).symm, ?_⟩
    exact h.2 _ (List.getLast_mem h.1)
  | @more s separator rest h hs hr ih =>
    obtain ⟨r, c, rfl, hc⟩ := ih
    exact ⟨s ++ separator ++ r, c, by rw [List.append_assoc _ r], hc⟩

theorem forall_mem {s : List Char} (h : Component s) :
    ∀ c ∈ s, DnsName.isAlnum c = true ∨ c = '.' ∨ c = '_' ∨ c = '-' := by
  induction h with
  | run h => exact fun c hc => .inl (h.2 c hc)
  | more h hs hr ih =>
    intro c hc
    rcases List.mem_append.mp hc with hc | hc
    · rcases List.mem_append.mp hc with hc | hc
      · exact .inl (h.2 c hc)
      · cases hs with
        | dot => simp_all
        | lowLine => simp_all
        | twoLowLines => simp_all
        | hyphens n => exact .inr (.inr (.inr (List.eq_of_mem_replicate hc)))
    · exact ih c hc

theorem not_mem {s : List Char} (h : Component s) : '/' ∉ s ∧ '@' ∉ s ∧ ':' ∉ s := by
  refine ⟨fun hc => ?_, fun hc => ?_, fun hc => ?_⟩ <;>
    exact absurd (h.forall_mem _ hc) (by decide)

end Component

/-- What the rest of a component has to be at each place of the check. -/
def Follows : Place → List Char → Prop
  | .start, s | .dot, s | .twoLowLines, s => Component s
  | .letter, s => ∀ c, DnsName.isAlnum c = true → Component (c :: s)
  | .lowLine, s => Component s ∨ ∃ r, s = '_' :: r ∧ Component r
  | .hyphens, s => ∃ n r, s = List.replicate n '-' ++ r ∧ Component r

theorem Follows.of_component {place : Place} {s : List Char} (h : Component s) :
    Follows place s := by
  cases place with
  | start => exact h
  | letter => exact fun c hc => h.cons hc
  | dot => exact h
  | lowLine => exact .inl h
  | twoLowLines => exact h
  | hyphens => exact ⟨0, s, rfl, h⟩

/-- All that the check lets pass at a place, and where it goes on. -/
theorem componentFrom_cons_cases {place : Place} {c : Char} {r : List Char}
    (h : componentFrom place (c :: r) = true) :
    (DnsName.isAlnum c = true ∧ componentFrom .letter r = true) ∨
    (c = '.' ∧ place = .letter ∧ componentFrom .dot r = true) ∨
    (c = '_' ∧ place = .letter ∧ componentFrom .lowLine r = true) ∨
    (c = '_' ∧ place = .lowLine ∧ componentFrom .twoLowLines r = true) ∨
    (c = '-' ∧ (place = .letter ∨ place = .hyphens) ∧ componentFrom .hyphens r = true) := by
  unfold componentFrom at h
  split at h
  · rename_i hc
    exact .inl ⟨hc, h⟩
  · split at h
    · rename_i hdot
      rw [Bool.and_eq_true, beq_iff_eq] at h
      exact .inr (.inl ⟨hdot, h⟩)
    · split at h
      · rename_i hline
        cases place with
        | letter => exact .inr (.inr (.inl ⟨hline, rfl, h⟩))
        | lowLine => exact .inr (.inr (.inr (.inl ⟨hline, rfl, h⟩)))
        | start => cases h
        | dot => cases h
        | twoLowLines => cases h
        | hyphens => cases h
      · simp only [Bool.and_eq_true, Bool.or_eq_true, beq_iff_eq, and_assoc] at h
        exact .inr (.inr (.inr (.inr h)))

theorem follows_of_componentFrom {place : Place} {s : List Char}
    (h : componentFrom place s = true) : Follows place s := by
  induction s generalizing place with
  | nil =>
    have hp : place = .letter := by simpa [componentFrom] using h
    subst hp
    exact fun c hc => .run (.single hc)
  | cons c r ih =>
    rcases componentFrom_cons_cases h with ⟨hc, hr⟩ | ⟨rfl, rfl, hr⟩ | ⟨rfl, rfl, hr⟩ |
      ⟨rfl, rfl, hr⟩ | ⟨rfl, hp, hr⟩
    · have hletter : Follows .letter r := ih hr
      exact .of_component (hletter c hc)
    · have hdot : Component r := ih hr
      exact fun a ha => .after ha .dot hdot
    · have hline : Follows .lowLine r := ih hr
      rcases hline with hc | ⟨rest, rfl, hc⟩
      · exact fun a ha => .after ha .lowLine hc
      · exact fun a ha => .after ha .twoLowLines hc
    · have hlines : Component r := ih hr
      exact .inr ⟨r, rfl, hlines⟩
    · have hhyphens : Follows .hyphens r := ih hr
      obtain ⟨n, rest, rfl, hc⟩ := hhyphens
      rcases hp with rfl | rfl
      · exact fun a ha => .after ha (.hyphens n) hc
      · exact ⟨n + 1, rest, rfl, hc⟩

theorem componentFrom_alnum {place : Place} {c : Char} {r : List Char}
    (hc : DnsName.isAlnum c = true) : componentFrom place (c :: r) = componentFrom .letter r :=
  if_pos hc

theorem componentFrom_run {place : Place} {s : List Char} (h : Run s) (r : List Char) :
    componentFrom place (s ++ r) = componentFrom .letter r := by
  obtain ⟨hn, ha⟩ := h
  induction s generalizing place with
  | nil => exact absurd rfl hn
  | cons c s ih =>
    obtain ⟨hc, hs⟩ := List.forall_mem_cons.mp ha
    rw [List.cons_append, componentFrom_alnum hc]
    cases s with
    | nil => rfl
    | cons d s => exact ih (List.cons_ne_nil d s) hs

theorem componentFrom_hyphens (n : Nat) (r : List Char) :
    componentFrom .hyphens (List.replicate n '-' ++ r) = componentFrom .hyphens r := by
  induction n with
  | zero => rfl
  | succ n ih => exact ih

/-- After a separator the check reads a component as it does at the start. -/
theorem componentFrom_separator {separator r : List Char} (hs : Separator separator)
    (hr : Component r) :
    componentFrom .letter (separator ++ r) = componentFrom .start r := by
  obtain ⟨c, t, rfl, hc⟩ := hr.exists_cons
  have hp (place : Place) : componentFrom place (c :: t) = componentFrom .letter t :=
    componentFrom_alnum hc
  cases hs with
  | dot =>
    rw [hp, ← hp .dot]
    rfl
  | lowLine =>
    rw [hp, ← hp .lowLine]
    rfl
  | twoLowLines =>
    rw [hp, ← hp .twoLowLines]
    rfl
  | hyphens n =>
    rw [hp, ← hp .hyphens, ← componentFrom_hyphens n]
    rfl

/-- The check accepts just the components. -/
theorem isComponent_iff {s : List Char} : isComponent s = true ↔ Component s := by
  refine ⟨fun h => follows_of_componentFrom h, fun h => ?_⟩
  rw [isComponent]
  induction h with
  | @run s h =>
    rw [← List.append_nil s, componentFrom_run h]
    rfl
  | more h hs hr ih => rw [List.append_assoc, componentFrom_run h, componentFrom_separator hs hr, ih]

/-! ## Blanks -/

def blankNumbers : List Nat :=
  [0x9, 0xa, 0xb, 0xc, 0xd, 0x20, 0x85, 0xa0, 0x1680, 0x2000, 0x2001, 0x2002, 0x2003, 0x2004,
   0x2005, 0x2006, 0x2007, 0x2008, 0x2009, 0x200a, 0x2028, 0x2029, 0x202f, 0x205f, 0x3000]

theorem toNat_mem_blankNumbers {c : Char} (h : Text.isBlank c = true) :
    c.toNat ∈ blankNumbers := by
  simp only [Text.isBlank, Bool.or_eq_true, Bool.and_eq_true, decide_eq_true_eq, beq_iff_eq] at h
  simp only [blankNumbers, List.mem_cons, List.not_mem_nil, or_false]
  omega

theorem isBlank_eq_false {p : Char → Bool} (hp : ∀ n ∈ blankNumbers, p (Char.ofNat n) = false)
    {c : Char} (hc : p c = true) : Text.isBlank c = false := by
  refine (Bool.not_eq_true _).mp fun hb => ?_
  have hn := hp _ (toNat_mem_blankNumbers hb)
  rw [Char.ofNat_toNat, hc] at hn
  cases hn

theorem isBlank_of_isAlnum {c : Char} (h : DnsName.isAlnum c = true) : Text.isBlank c = false :=
  isBlank_eq_false (by decide) h

theorem isBlank_of_isWordChar {c : Char} (h : Text.isWordChar c = true) :
    Text.isBlank c = false :=
  isBlank_eq_false (by decide +kernel) h

/-- No blank stands at the ends of a component. -/
theorem Component.not_isBlank_ends {s : List Char} (h : Component s) :
    (∀ c, s.head? = some c → Text.isBlank c = false) ∧
      ∀ c, s.getLast? = some c → Text.isBlank c = false := by
  obtain ⟨a, r, hs, ha⟩ := h.exists_cons
  obtain ⟨t, b, ht, hb⟩ := h.exists_append
  constructor
  · intro c hc
    obtain rfl : a = c := by simpa [hs] using hc
    exact isBlank_of_isAlnum ha
  · intro c hc
    obtain rfl : b = c := by simpa [ht] using hc
    exact isBlank_of_isAlnum hb

/-! ## Tags -/

/-- A word character, then at most 127 word characters, dots and hyphens. -/
def Tag (s : List Char) : Prop :=
  ∃ c r, s = c :: r ∧ Text.isWordChar c = true ∧
    (∀ d ∈ r, Text.isWordChar d = true ∨ d = '.' ∨ d = '-') ∧ r.length ≤ 127

theorem isTag_iff {s : List Char} : isTag s = true ↔ Tag s := by
  cases s with
  | nil => simp [isTag, Tag]
  | cons c r => simp [isTag, Tag, and_assoc, or_assoc]

namespace Tag

theorem ne_nil {s : List Char} (h : Tag s) : s ≠ [] := by
  obtain ⟨c, r, rfl, -⟩ := h
  exact List.cons_ne_nil c r

theorem forall_mem {s : List Char} (h : Tag s) :
    ∀ c ∈ s, Text.isWordChar c = true ∨ c = '.' ∨ c = '-' := by
  obtain ⟨c, r, rfl, hc, hr, -⟩ := h
  exact List.forall_mem_cons.mpr ⟨.inl hc, hr⟩

theorem not_mem {s : List Char} (h : Tag s) : '/' ∉ s ∧ '@' ∉ s ∧ ':' ∉ s := by
  refine ⟨fun hc => ?_, fun hc => ?_, fun hc => ?_⟩ <;>
    exact absurd (h.forall_mem _ hc) (by decide)

theorem not_isBlank {s : List Char} (h : Tag s) : ∀ c ∈ s, Text.isBlank c = false := by
  intro c hc
  rcases h.forall_mem c hc with h | rfl | rfl
  · exact isBlank_of_isWordChar h
  · rfl
  · rfl

end Tag

/-! ## Registries -/

/-- The address of a registry: it has a dot or a colon, or is the local host. -/
def NamesRegistry (s : List Char) : Prop :=
  '.' ∈ s ∨ ':' ∈ s ∨ s = "localhost".toList

theorem looksLikeRegistry_iff {s : List Char} : looksLikeRegistry s = true ↔ NamesRegistry s := by
  simp [looksLikeRegistry, NamesRegistry, or_assoc]

theorem NamesRegistry.ne_nil {s : List Char} (h : NamesRegistry s) : s ≠ [] := by
  rintro rfl
  exact absurd h (by simp [NamesRegistry])

end DeployPlan.ImageName
