/-!
# Maps with text keys

A map whose entries stand in ascending order of their keys, each key once; the order is part of the
type. `get?_insert` says what a map holds after an insertion, `ext_get?` that a map is determined by
what it holds, and `ofList_of_perm` that it is made of its entries in any order.
-/

namespace DeployPlan

/-- Entries in strictly ascending order of their keys. -/
structure StringMap (α : Type) where
  entries : List (String × α)
  sorted : entries.Pairwise fun a b => a.1 < b.1

namespace StringMap

variable {α : Type}

instance [DecidableEq α] : DecidableEq (StringMap α) := fun a b =>
  decidable_of_iff (a.entries = b.entries) <| by
    cases a; cases b; simp

instance [Repr α] : Repr (StringMap α) := ⟨fun m p => reprPrec m.entries p⟩

def empty : StringMap α := ⟨[], .nil⟩

instance : Inhabited (StringMap α) := ⟨empty⟩

instance : EmptyCollection (StringMap α) := ⟨empty⟩

def isEmpty (m : StringMap α) : Bool := m.entries.isEmpty

def keys (m : StringMap α) : List String := m.entries.map (·.1)

/-- The value of `k` among entries. -/
def lookupIn (k : String) : List (String × α) → Option α
  | [] => none
  | (key, v) :: r => if key = k then some v else lookupIn k r

def get? (m : StringMap α) (k : String) : Option α := lookupIn k m.entries

/-- Entries with the value of `k` set. -/
def insertIn (k : String) (v : α) : List (String × α) → List (String × α)
  | [] => [(k, v)]
  | (key, w) :: r =>
    if k < key then (k, v) :: (key, w) :: r
    else if key < k then (key, w) :: insertIn k v r
    else (k, v) :: r

theorem mem_insertIn {k : String} {v : α} {l : List (String × α)} {e : String × α}
    (h : e ∈ insertIn k v l) : e = (k, v) ∨ e ∈ l := by
  induction l with
  | nil => simpa [insertIn] using h
  | cons p r ih =>
    obtain ⟨key, w⟩ := p
    rw [insertIn] at h
    split at h
    · simpa using h
    · split at h
      · rcases List.mem_cons.1 h with rfl | h
        · exact .inr List.mem_cons_self
        · exact (ih h).imp id (List.mem_cons_of_mem _)
      · rcases List.mem_cons.1 h with rfl | h
        · exact .inl rfl
        · exact .inr (List.mem_cons_of_mem _ h)

theorem eq_of_not_lt {a b : String} (h : ¬a < b) (h' : ¬b < a) : a = b :=
  String.le_antisymm (String.not_lt.1 h') (String.not_lt.1 h)

theorem pairwise_insertIn {k : String} {v : α} {l : List (String × α)}
    (h : l.Pairwise fun a b => a.1 < b.1) : (insertIn k v l).Pairwise fun a b => a.1 < b.1 := by
  induction l with
  | nil => simp [insertIn]
  | cons p r ih =>
    obtain ⟨key, w⟩ := p
    obtain ⟨hp, hr⟩ := List.pairwise_cons.1 h
    rw [insertIn]
    split
    · rename_i hk
      refine List.pairwise_cons.2 ⟨fun e he => ?_, h⟩
      rcases List.mem_cons.1 he with rfl | he
      · exact hk
      · exact String.lt_trans hk (hp e he)
    · rename_i hk
      split
      · rename_i hk'
        refine List.pairwise_cons.2 ⟨fun e he => ?_, ih hr⟩
        rcases mem_insertIn he with rfl | he
        · exact hk'
        · exact hp e he
      · rename_i hk'
        obtain rfl := eq_of_not_lt hk hk'
        exact List.pairwise_cons.2 ⟨hp, hr⟩

def insert (m : StringMap α) (k : String) (v : α) : StringMap α :=
  ⟨insertIn k v m.entries, pairwise_insertIn m.sorted⟩

/-- The map of some entries; of entries with one key the last one counts. -/
def ofList (l : List (String × α)) : StringMap α :=
  l.foldl (fun m e => m.insert e.1 e.2) empty

/-- Both maps together; on keys that they share, the second one counts. -/
def overlay (m n : StringMap α) : StringMap α :=
  n.entries.foldl (fun m e => m.insert e.1 e.2) m

def map {β : Type} (f : α → β) (m : StringMap α) : StringMap β :=
  ⟨m.entries.map fun e => (e.1, f e.2), by simpa [List.pairwise_map] using m.sorted⟩

theorem map_eq_self {f : α → α} (h : ∀ a, f a = a) (m : StringMap α) : m.map f = m := by
  obtain ⟨entries, hs⟩ := m
  have he : ∀ e ∈ entries, (e.1, f e.2) = e := fun e _ => by rw [h]
  simp only [map, List.map_congr_left he, List.map_id']

theorem lookupIn_insertIn (k k' : String) (v : α) (l : List (String × α))
    (h : l.Pairwise fun a b => a.1 < b.1) :
    lookupIn k' (insertIn k v l) = if k = k' then some v else lookupIn k' l := by
  induction l with
  | nil => simp [insertIn, lookupIn]
  | cons p r ih =>
    obtain ⟨key, w⟩ := p
    obtain ⟨-, hr⟩ := List.pairwise_cons.1 h
    rw [insertIn]
    split
    · simp [lookupIn]
    · rename_i hk
      split
      · rename_i hk'
        have hne : key ≠ k := fun e => String.lt_irrefl _ (e ▸ hk')
        rw [lookupIn, ih hr, lookupIn]
        by_cases hkey : key = k'
        · subst hkey
          simp [Ne.symm hne]
        · simp [hkey]
      · rename_i hk'
        obtain rfl := eq_of_not_lt hk hk'
        rw [lookupIn, lookupIn]
        split <;> rfl

@[simp] theorem get?_empty (k : String) : (empty : StringMap α).get? k = none := rfl

/-- An insertion sets one key and leaves the others alone. -/
theorem get?_insert (m : StringMap α) (k k' : String) (v : α) :
    (m.insert k v).get? k' = if k = k' then some v else m.get? k' :=
  lookupIn_insertIn k k' v m.entries m.sorted

theorem lookupIn_eq_none_of_lt {k : String} {l : List (String × α)}
    (h : ∀ e ∈ l, k < e.1) : lookupIn k l = none := by
  induction l with
  | nil => rfl
  | cons p r ih =>
    have hp := h p List.mem_cons_self
    rw [lookupIn, if_neg fun e => String.lt_irrefl _ (e ▸ hp)]
    exact ih fun e he => h e (List.mem_cons_of_mem _ he)

theorem eq_of_lookupIn_eq {l l' : List (String × α)}
    (h : l.Pairwise fun a b => a.1 < b.1) (h' : l'.Pairwise fun a b => a.1 < b.1)
    (he : ∀ k, lookupIn k l = lookupIn k l') : l = l' := by
  induction l generalizing l' with
  | nil =>
    cases l' with
    | nil => rfl
    | cons q t => have := he q.1; simp [lookupIn] at this
  | cons p r ih =>
    cases l' with
    | nil => have := he p.1; simp [lookupIn] at this
    | cons q t =>
      obtain ⟨hp, hr⟩ := List.pairwise_cons.1 h
      obtain ⟨hq, ht⟩ := List.pairwise_cons.1 h'
      have hpq : p.1 = q.1 := by
        refine eq_of_not_lt (fun hlt => ?_) fun hlt => ?_
        · have := he p.1
          rw [lookupIn_eq_none_of_lt (l := q :: t) fun e hm => ?_] at this
          · simp [lookupIn] at this
          · rcases List.mem_cons.1 hm with rfl | hm
            · exact hlt
            · exact String.lt_trans hlt (hq e hm)
        · have := he q.1
          rw [lookupIn_eq_none_of_lt (l := p :: r) fun e hm => ?_] at this
          · simp [lookupIn] at this
          · rcases List.mem_cons.1 hm with rfl | hm
            · exact hlt
            · exact String.lt_trans hlt (hp e hm)
      obtain ⟨k, v⟩ := p
      obtain ⟨k', v'⟩ := q
      obtain rfl : k = k' := hpq
      have hv := he k
      simp [lookupIn] at hv
      subst hv
      rw [ih hr ht fun k' => ?_]
      have := he k'
      rw [lookupIn, lookupIn] at this
      by_cases hk : k = k'
      · subst hk
        rw [lookupIn_eq_none_of_lt hp, lookupIn_eq_none_of_lt hq]
      · simpa [hk] using this

/-- Two maps that hold the same values are the same map. -/
theorem ext_get? {m m' : StringMap α} (h : ∀ k, m.get? k = m'.get? k) : m = m' := by
  cases m with
  | mk l hl =>
    cases m' with
    | mk l' hl' =>
      obtain rfl := eq_of_lookupIn_eq hl hl' h
      rfl

theorem lookupIn_eq_some_iff {k : String} {v : α} {l : List (String × α)}
    (h : l.Pairwise fun a b => a.1 < b.1) : lookupIn k l = some v ↔ (k, v) ∈ l := by
  induction l with
  | nil => simp [lookupIn]
  | cons p r ih =>
    obtain ⟨key, w⟩ := p
    obtain ⟨hp, hr⟩ := List.pairwise_cons.1 h
    rw [lookupIn]
    split
    · rename_i hk
      subst hk
      have hn : (key, v) ∉ r := fun hm => String.lt_irrefl key (hp (key, v) hm)
      simp [hn, eq_comm]
    · rename_i hk
      rw [ih hr, List.mem_cons, Prod.mk.injEq]
      exact ⟨.inr, fun hm => hm.resolve_left fun he => hk he.1.symm⟩

theorem get?_foldl_insert {l : List (String × α)} (h : (l.map (·.1)).Nodup) (m : StringMap α)
    (k : String) (v : α) :
    (l.foldl (fun m e => m.insert e.1 e.2) m).get? k = some v ↔
      (k, v) ∈ l ∨ k ∉ l.map (·.1) ∧ m.get? k = some v := by
  induction l generalizing m with
  | nil => simp
  | cons p r ih =>
    obtain ⟨key, w⟩ := p
    obtain ⟨hp, hr⟩ := List.nodup_cons.1 h
    rw [List.foldl_cons, ih hr, get?_insert]
    by_cases hk : key = k
    · subst hk
      have hn : (key, v) ∉ r := fun hm => hp (List.mem_map.mpr ⟨(key, v), hm, rfl⟩)
      simp [hp, hn, eq_comm]
    · simp [hk, Ne.symm hk]

theorem get?_ofList {l : List (String × α)} (h : (l.map (·.1)).Nodup) {k : String} {v : α} :
    (ofList l).get? k = some v ↔ (k, v) ∈ l := by
  rw [ofList, get?_foldl_insert h]
  simp

/-- What a map holds are its entries. -/
theorem get?_eq_some_iff {m : StringMap α} {k : String} {v : α} :
    m.get? k = some v ↔ (k, v) ∈ m.entries :=
  lookupIn_eq_some_iff m.sorted

theorem nodup_keys (m : StringMap α) : m.keys.Nodup :=
  List.pairwise_map.mpr (m.sorted.imp String.ne_of_lt)

theorem mem_keys_iff {m : StringMap α} {k : String} : k ∈ m.keys ↔ ∃ v, m.get? k = some v := by
  simp [keys, get?_eq_some_iff]

theorem get?_overlay {m n : StringMap α} {k : String} {v : α} :
    (m.overlay n).get? k = some v ↔ n.get? k = some v ∨ k ∉ n.keys ∧ m.get? k = some v := by
  rw [overlay, get?_foldl_insert n.nodup_keys, ← get?_eq_some_iff]
  rfl

theorem get?_overlay_eq_or (m n : StringMap α) (k : String) :
    (m.overlay n).get? k = (n.get? k).or (m.get? k) := by
  refine Option.ext fun v => ?_
  rw [get?_overlay, mem_keys_iff]
  cases n.get? k <;> simp

theorem overlay_insert (m n : StringMap α) (k : String) (v : α) :
    m.overlay (n.insert k v) = (m.overlay n).insert k v := by
  refine ext_get? fun k' => ?_
  rw [get?_overlay_eq_or, get?_insert, get?_insert, get?_overlay_eq_or]
  by_cases hk : k = k'
  · rw [if_pos hk, if_pos hk, Option.some_or]
  · rw [if_neg hk, if_neg hk]

/-- A map is made of its entries, in any order. -/
theorem ofList_of_perm {m : StringMap α} {l : List (String × α)} (h : l.Perm m.entries) :
    ofList l = m := by
  have hn : (m.entries.map (·.1)).Nodup := m.nodup_keys
  have hl : (l.map (·.1)).Nodup := (h.map (·.1)).nodup_iff.mpr hn
  refine ext_get? fun k => Option.ext fun v => ?_
  rw [get?_ofList hl, get?_eq_some_iff, h.mem_iff]

end StringMap

end DeployPlan
