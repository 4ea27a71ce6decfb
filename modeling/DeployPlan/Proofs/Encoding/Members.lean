import DeployPlan.Encoding.Schema
import Mathlib.Data.List.Basic

/-!
# What is written of a value shows it

`Shows write view` means that two values are written alike exactly if they look alike to `view`. It
carries over to parts that may be missing, to lists, to maps and to records: parts that are missing
are left out, but no two parts share a name, so what is there tells what is not
(`present_eq_present_iff`, `sorted_eq_sorted_iff`).
-/

namespace DeployPlan.Encoding

/-- Two values are written alike exactly if they look alike to `view`. -/
def Shows {α β γ : Type} (write : α → γ) (view : α → β) : Prop :=
  ∀ a b, write a = write b ↔ view a = view b

namespace Shows

variable {α β γ : Type} {write : α → γ} {view : α → β}

theorem of_injective (h : Function.Injective write) : Shows write id :=
  fun _ _ => ⟨fun he => h he, fun he => congrArg write he⟩

theorem option (h : Shows write view) : Shows (Option.map write) (Option.map view) := by
  rintro (_ | a) (_ | b)
  · simp
  · simp
  · simp
  · simpa using h a b

theorem list (h : Shows write view) : Shows (List.map write) (List.map view) := by
  intro l l'
  induction l generalizing l' with
  | nil => cases l' <;> simp
  | cons a l ih =>
    cases l' with
    | nil => simp
    | cons b l' => simp [h a b, ih l']

theorem items {write : α → Json} (h : Shows write view) :
    Shows (fun l => Json.arr (l.map write)) (List.map view) := fun l l' => by
  rw [Json.arr.injEq, h.list l l']

theorem entries {write : α → Json} (h : Shows write view) :
    Shows (fun m : StringMap α => Json.obj (m.entries.map fun e => (e.1, write e.2)))
      (StringMap.map view) := by
  have hentry : Shows (fun e : String × α => (e.1, write e.2)) fun e => (e.1, view e.2) := by
    intro e e'
    rw [Prod.mk.injEq, Prod.mk.injEq, h]
  intro m m'
  rw [Json.obj.injEq, hentry.list, StringMap.map, StringMap.map, StringMap.mk.injEq]

end Shows

/-! ## Parts that may be missing -/

theorem given_eq_present {α : Type} (key : String) (value : Option α) (encode : α → Json) :
    given key value encode = present [(key, value.map encode)] := by
  cases value <;> rfl

theorem cons_present (key : String) (j : Json) (parts : List (String × Option Json)) :
    (key, j) :: present parts = present ((key, some j) :: parts) :=
  rfl

theorem singleton_eq_present (key : String) (j : Json) : [(key, j)] = present [(key, some j)] :=
  rfl

theorem present_append (parts more : List (String × Option Json)) :
    present parts ++ present more = present (parts ++ more) :=
  List.filterMap_append.symm

theorem mem_present_iff {parts : List (String × Option Json)} {key : String} {j : Json} :
    (key, j) ∈ present parts ↔ (key, some j) ∈ parts := by
  rw [present, List.mem_filterMap]
  constructor
  · rintro ⟨⟨k, v⟩, hm, hv⟩
    obtain ⟨i, rfl, he⟩ := Option.map_eq_some_iff.mp hv
    cases he
    exact hm
  · intro hm
    exact ⟨_, hm, rfl⟩

theorem mem_keys {parts : List (String × Option Json)} {key : String} {v : Option Json}
    (h : (key, v) ∈ parts) : key ∈ parts.map (·.1) :=
  List.mem_map.mpr ⟨_, h, rfl⟩

/-- Parts of the same names, no two of which are the same, are told apart by the members that are
there. -/
theorem eq_of_same_members {parts parts' : List (String × Option Json)}
    (hn : (parts.map (·.1)).Nodup) (hk : parts'.map (·.1) = parts.map (·.1))
    (h : ∀ key j, (key, some j) ∈ parts ↔ (key, some j) ∈ parts') : parts = parts' := by
  induction parts generalizing parts' with
  | nil => exact (List.map_eq_nil_iff.mp hk).symm
  | cons part parts ih =>
    obtain ⟨⟨key, v'⟩, parts', rfl⟩ : ∃ p ps, parts' = p :: ps :=
      List.exists_cons_of_ne_nil (by rintro rfl; cases hk)
    obtain ⟨k, v⟩ := part
    simp only [List.map_cons, List.cons.injEq, List.nodup_cons] at hk hn
    obtain ⟨rfl, hk⟩ := hk
    have hrest (j : Json) : (key, some j) ∉ parts := fun hm => hn.1 (mem_keys hm)
    have hrest' (j : Json) : (key, some j) ∉ parts' := fun hm => hn.1 (hk ▸ mem_keys hm)
    have hv : v = v' := by
      refine Option.ext fun j => ?_
      simpa [hrest, hrest', eq_comm] using h key j
    subst hv
    rw [ih hn.2 hk fun k j => ?_]
    by_cases hkey : k = key
    · subst hkey
      simp [hrest, hrest']
    · simpa [hkey] using h k j

/-- The members that are there show the parts. -/
theorem present_eq_present_iff {parts parts' : List (String × Option Json)}
    (hn : (parts.map (·.1)).Nodup) (hk : parts'.map (·.1) = parts.map (·.1)) :
    present parts = present parts' ↔ parts = parts' := by
  refine ⟨fun h => eq_of_same_members hn hk fun key j => ?_, congrArg present⟩
  rw [← mem_present_iff, h, mem_present_iff]

theorem mem_sorted_iff {parts : List (String × Option Json)} (hn : (parts.map (·.1)).Nodup)
    {key : String} {j : Json} :
    (key, j) ∈ present (StringMap.ofList parts).entries ↔ (key, some j) ∈ parts := by
  rw [mem_present_iff, ← StringMap.get?_eq_some_iff, StringMap.get?_ofList hn]

/-- So do the members in ascending order of their names. -/
theorem sorted_eq_sorted_iff {parts parts' : List (String × Option Json)}
    (hn : (parts.map (·.1)).Nodup) (hk : parts'.map (·.1) = parts.map (·.1)) :
    sorted parts = sorted parts' ↔ parts = parts' := by
  refine ⟨fun h => eq_of_same_members hn hk fun key j => ?_, congrArg sorted⟩
  rw [← mem_sorted_iff hn, Json.obj.inj h, mem_sorted_iff (hk ▸ hn)]

/-- Objects with the same parts have the same values. -/
theorem members_injective {parts parts' : List (String × Option Json)}
    (h : Json.obj (present parts) = .obj (present parts')) (hn : (parts.map (·.1)).Nodup)
    (hk : parts'.map (·.1) = parts.map (·.1)) : parts = parts' :=
  (present_eq_present_iff hn hk).mp (Json.obj.inj h)

theorem items_injective {α : Type} {f : α → Json} (hf : Function.Injective f) :
    Function.Injective fun items : List α => Json.arr (items.map f) :=
  fun _ _ h => hf.list_map (Json.arr.inj h)

/-! ## Texts and numbers -/

theorem str_injective : Function.Injective Json.str :=
  fun _ _ h => Json.str.inj h

theorem bool_injective : Function.Injective Json.bool :=
  fun _ _ h => Json.bool.inj h

theorem int_injective : Function.Injective Json.int :=
  fun _ _ h => Json.int.inj h

theorem texts_injective : Function.Injective texts :=
  items_injective str_injective

theorem intOrText_injective : Function.Injective intOrText := by
  intro v w h
  cases v <;> cases w <;> simp_all [intOrText]

theorem stringMap_injective : Function.Injective stringMap := by
  intro m m' h
  obtain ⟨entries, hs⟩ := m
  obtain ⟨entries', hs'⟩ := m'
  have hentry : Function.Injective fun e : String × String => (e.1, Json.str e.2) := by
    intro e e' he
    exact Prod.ext (Prod.mk.inj he).1 (Json.str.inj (Prod.mk.inj he).2)
  obtain rfl : entries = entries' := hentry.list_map (Json.obj.inj h)
  rfl

end DeployPlan.Encoding
