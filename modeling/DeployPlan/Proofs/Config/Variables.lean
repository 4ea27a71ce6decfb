import DeployPlan.Config.Environment
import DeployPlan.Image
import DeployPlan.Proofs.Recording

/-!
# Which variable counts

Variables come from the pairs in a caller's arguments (`Environment.Sets`) and from the entries of
an image (`EnvVar.Defines`). Of several values for a name the last one counts (`LastGives`), in both
places: `Gathers` is how a map takes them up one by one, each step as `Takes` says, and
`Gathers.get?_eq_some_iff` what it then holds.
-/

namespace DeployPlan

variable {α : Type} {gives : α → String → String → Prop} {x : α} {l : List α} {k v : String}

/-- The last element of a list that gives `k` a value gives it `v`. -/
def LastGives (gives : α → String → String → Prop) (l : List α) (k v : String) : Prop :=
  ∃ before x after, l = before ++ x :: after ∧ gives x k v ∧ ∀ y ∈ after, ∀ w, ¬gives y k w

theorem not_lastGives_nil : ¬LastGives gives [] k v := by
  rintro ⟨before, x, after, h, -⟩
  simp at h

theorem lastGives_cons : LastGives gives (x :: l) k v ↔
    LastGives gives l k v ∨ gives x k v ∧ ∀ y ∈ l, ∀ w, ¬gives y k w := by
  constructor
  · rintro ⟨before, y, after, h, hy, hafter⟩
    cases before with
    | nil =>
      obtain ⟨rfl, rfl⟩ := List.cons.inj h
      exact .inr ⟨hy, hafter⟩
    | cons z before =>
      obtain ⟨rfl, rfl⟩ := List.cons.inj h
      exact .inl ⟨before, y, after, rfl, hy, hafter⟩
  · rintro (⟨before, y, after, rfl, hy, hafter⟩ | ⟨hx, hl⟩)
    · exact ⟨x :: before, y, after, rfl, hy, hafter⟩
    · exact ⟨[], x, l, rfl, hx, hl⟩

theorem exists_lastGives_iff : (∃ v, LastGives gives l k v) ↔ ∃ x ∈ l, ∃ v, gives x k v := by
  constructor
  · rintro ⟨v, before, x, after, rfl, hx, -⟩
    exact ⟨x, List.mem_append_right _ List.mem_cons_self, v, hx⟩
  · intro h
    induction l with
    | nil => simp at h
    | cons x l ih =>
      by_cases hl : ∃ y ∈ l, ∃ v, gives y k v
      · obtain ⟨v, hv⟩ := ih hl
        exact ⟨v, lastGives_cons.mpr (.inl hv)⟩
      · have hno : ∀ y ∈ l, ∀ w, ¬gives y k w := fun y hy w hw => hl ⟨y, hy, w, hw⟩
        obtain ⟨y, hy, v, hv⟩ := h
        rcases List.mem_cons.mp hy with rfl | hy
        · exact ⟨v, lastGives_cons.mpr (.inr ⟨hv, hno⟩)⟩
        · exact absurd hv (hno y hy v)

/-! ## Gathering values -/

/-- The map `m'` is `m` with what an element gives. -/
def Takes (gives : α → String → String → Prop) (x : α) (m m' : StringMap String) : Prop :=
  ∀ k v, m'.get? k = some v ↔ gives x k v ∨ (∀ w, ¬gives x k w) ∧ m.get? k = some v

/-- A map takes up what the elements of a list give, one after the other. -/
inductive Gathers (gives : α → String → String → Prop) :
    StringMap String → List α → StringMap String → Prop
  | nil (m : StringMap String) : Gathers gives m [] m
  | cons {m m' m'' : StringMap String} {x : α} {l : List α} (head : Takes gives x m m')
      (tail : Gathers gives m' l m'') :
    Gathers gives m (x :: l) m''

/-- Then the last value counts, and without any that which was there. -/
theorem Gathers.get?_eq_some_iff {m m' : StringMap String} (h : Gathers gives m l m') :
    m'.get? k = some v ↔
      LastGives gives l k v ∨ (∀ x ∈ l, ∀ w, ¬gives x k w) ∧ m.get? k = some v := by
  induction h with
  | nil m => simp [not_lastGives_nil]
  | @cons m m' m'' x l head tail ih =>
    rw [ih, head k v, lastGives_cons, List.forall_mem_cons]
    constructor
    · rintro (h | ⟨hl, hx | ⟨hx, hm⟩⟩)
      · exact .inl (.inl h)
      · exact .inl (.inr ⟨hx, hl⟩)
      · exact .inr ⟨⟨hx, hl⟩, hm⟩
    · rintro ((h | ⟨hx, hl⟩) | ⟨⟨hx, hl⟩, hm⟩)
      · exact .inl h
      · exact .inr ⟨hl, .inl hx⟩
      · exact .inr ⟨hl, .inr ⟨hx, hm⟩⟩

theorem takes_of_none {m : StringMap String} (h : ∀ k v, ¬gives x k v) : Takes gives x m m := by
  intro k v
  simp [h k]

theorem takes_insert {m : StringMap String} {key value : String}
    (h : ∀ k v, gives x k v ↔ key = k ∧ value = v) : Takes gives x m (m.insert key value) := by
  intro k v
  rw [StringMap.get?_insert, h k v]
  by_cases hk : key = k
  · simp [h, hk]
  · simp [h, hk]

/-! ## Entries of an image -/

namespace EnvVar

/-- An entry defines what stands before its first equals sign as what stands behind it. -/
def Defines (entry k v : String) : Prop :=
  entry.toList = k.toList ++ '=' :: v.toList ∧ '=' ∉ k.toList

theorem defines_iff {entry k v : String} :
    Defines entry k v ↔ readEntry entry = some (k, v) := by
  rw [Defines, ← Text.cut_eq_some_iff, readEntry]
  cases Text.cut '=' entry.toList with
  | none => simp
  | some halves =>
    simp [Prod.ext_iff, ← String.toList_inj]

theorem gathers_ofEntries (entries : List String) :
    Gathers Defines .empty entries (ofEntries entries) := by
  have hall (m : StringMap String) : Gathers Defines m entries
      ((entries.filterMap readEntry).foldl (fun m e => m.insert e.1 e.2) m) := by
    induction entries generalizing m with
    | nil => exact .nil m
    | cons entry entries ih =>
      cases he : readEntry entry with
      | none =>
        rw [List.filterMap_cons_none he]
        refine .cons (takes_of_none fun k v h => ?_) (ih m)
        rw [defines_iff, he] at h
        cases h
      | some read =>
        rw [List.filterMap_cons_some he]
        refine .cons (takes_insert fun k v => ?_) (ih _)
        rw [defines_iff, he, Option.some.injEq, Prod.ext_iff]
  exact hall .empty

theorem get?_ofEntries {entries : List String} {k v : String} :
    (ofEntries entries).get? k = some v ↔ LastGives Defines entries k v := by
  rw [(gathers_ofEntries entries).get?_eq_some_iff]
  simp

end EnvVar

/-! ## Pairs in arguments -/

namespace Environment

/-- A pair, without the blanks around it, sets what stands before its first equals sign, without
blanks again, to what stands behind it. -/
def Sets (pair : List Char) (k v : String) : Prop :=
  ∃ lead, Text.trim pair = lead ++ '=' :: v.toList ∧ '=' ∉ lead ∧ k.toList = Text.trim lead

theorem sets_iff {pair : List Char} {read : Option (String × String)}
    (h : readPair pair = .ok read) {k v : String} : Sets pair k v ↔ read = some (k, v) := by
  rw [readPair] at h
  rw [Sets]
  generalize Text.trim pair = text at h ⊢
  cases text with
  | nil =>
    cases h
    simp
  | cons c text =>
    cases hc : Text.cut '=' (c :: text) with
    | none =>
      simp only [hc] at h
      cases h
    | some halves =>
      obtain ⟨lead, rest⟩ := halves
      simp only [hc] at h
      split at h
      · cases h
        constructor
        · rintro ⟨lead', htext, hlead, hk⟩
          have hcut : Text.cut '=' (c :: text) = some (lead', v.toList) :=
            Text.cut_eq_some_iff.mpr ⟨htext, hlead⟩
          obtain ⟨rfl, rfl⟩ := Prod.mk.inj (Option.some.inj (hc.symm.trans hcut))
          rw [← hk, String.ofList_toList, String.ofList_toList]
        · intro hread
          obtain ⟨rfl, rfl⟩ := Prod.mk.inj (Option.some.inj hread)
          obtain ⟨htext, hlead⟩ := Text.cut_eq_some_iff.mp hc
          exact ⟨lead, by rw [String.toList_ofList, htext], hlead, String.toList_ofList⟩
      · cases h

theorem takes_addPair {pair : List Char} {m m' : StringMap String}
    (h : addPair m pair = .ok m') : Takes Sets pair m m' := by
  rw [addPair] at h
  obtain ⟨read, hread, h⟩ := bind_eq_ok.mp h
  cases read with
  | none =>
    cases h
    exact takes_of_none fun k v hs => nomatch (sets_iff hread).mp hs
  | some read =>
    cases h
    refine takes_insert fun k v => ?_
    rw [sets_iff hread, Option.some.injEq, Prod.ext_iff]

theorem gathers_parse {args : List String} {env : StringMap String} (h : parse args = .ok env) :
    Gathers Sets .empty (args.flatMap pairsOf) env := by
  have hall {pairs : List (List Char)} {m : StringMap String}
      (h : pairs.foldlM addPair m = .ok env) : Gathers Sets m pairs env := by
    induction pairs generalizing m with
    | nil =>
      cases h
      exact .nil env
    | cons pair pairs ih =>
      rw [List.foldlM_cons] at h
      cases hp : addPair m pair with
      | error e =>
        rw [hp] at h
        cases h
      | ok m' =>
        rw [hp] at h
        exact .cons (takes_addPair hp) (ih h)
  exact hall h

theorem get?_parse {args : List String} {env : StringMap String} (h : parse args = .ok env)
    {k v : String} : env.get? k = some v ↔ LastGives Sets (args.flatMap pairsOf) k v := by
  rw [(gathers_parse h).get?_eq_some_iff]
  simp

end Environment

end DeployPlan
