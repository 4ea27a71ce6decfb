/-!
# Sets of ports

Ports in ascending order, each once; the order is part of the type. `mem_insert` says what a set
holds after an insertion, `ext_mem` that a set is determined by what it holds.
-/

namespace DeployPlan

/-- Ports in strictly ascending order. -/
structure PortSet where
  toList : List UInt16
  sorted : toList.Pairwise (· < ·)
  deriving Repr

namespace PortSet

instance : DecidableEq PortSet := fun a b =>
  decidable_of_iff (a.toList = b.toList) <| by
    cases a; cases b; simp

def empty : PortSet := ⟨[], .nil⟩

instance : Inhabited PortSet := ⟨empty⟩

instance : EmptyCollection PortSet := ⟨empty⟩

instance : Membership UInt16 PortSet := ⟨fun s p => p ∈ s.toList⟩

def isEmpty (s : PortSet) : Bool := s.toList.isEmpty

/-- Ascending ports with `p` among them. -/
def insertIn (p : UInt16) : List UInt16 → List UInt16
  | [] => [p]
  | q :: r => if p < q then p :: q :: r else if q < p then q :: insertIn p r else q :: r

theorem mem_insertIn {p q : UInt16} {l : List UInt16} : q ∈ insertIn p l ↔ q = p ∨ q ∈ l := by
  induction l with
  | nil => simp [insertIn]
  | cons a r ih =>
    rw [insertIn]
    split
    · simp
    · split
      · simp [ih, or_left_comm]
      · rename_i h h'
        obtain rfl : p = a := UInt16.le_antisymm (UInt16.not_lt.1 h') (UInt16.not_lt.1 h)
        simp

theorem pairwise_insertIn {p : UInt16} {l : List UInt16} (h : l.Pairwise (· < ·)) :
    (insertIn p l).Pairwise (· < ·) := by
  induction l with
  | nil => simp [insertIn]
  | cons a r ih =>
    obtain ⟨ha, hr⟩ := List.pairwise_cons.1 h
    rw [insertIn]
    split
    · rename_i hp
      refine List.pairwise_cons.2 ⟨fun q hq => ?_, h⟩
      rcases List.mem_cons.1 hq with rfl | hq
      · exact hp
      · exact UInt16.lt_trans hp (ha q hq)
    · split
      · rename_i hp
        refine List.pairwise_cons.2 ⟨fun q hq => ?_, ih hr⟩
        rcases mem_insertIn.1 hq with rfl | hq
        · exact hp
        · exact ha q hq
      · exact h

def insert (s : PortSet) (p : UInt16) : PortSet :=
  ⟨insertIn p s.toList, pairwise_insertIn s.sorted⟩

def ofList (l : List UInt16) : PortSet :=
  l.foldl insert empty

theorem mem_insert {s : PortSet} {p q : UInt16} : q ∈ s.insert p ↔ q = p ∨ q ∈ s :=
  mem_insertIn

theorem mem_foldl_insert {l : List UInt16} {s : PortSet} {q : UInt16} :
    q ∈ l.foldl insert s ↔ q ∈ l ∨ q ∈ s := by
  induction l generalizing s with
  | nil => simp
  | cons p r ih => simp [ih, mem_insert, or_left_comm, or_assoc]

theorem mem_ofList {l : List UInt16} {q : UInt16} : q ∈ ofList l ↔ q ∈ l := by
  rw [ofList, mem_foldl_insert]
  exact or_iff_left List.not_mem_nil

/-- Two sets that hold the same ports are the same set. -/
theorem ext_mem {s t : PortSet} (h : ∀ p, p ∈ s ↔ p ∈ t) : s = t := by
  have hnodup (s : PortSet) : s.toList.Nodup := s.sorted.imp UInt16.ne_of_lt
  have hperm : s.toList.Perm t.toList :=
    (List.perm_ext_iff_of_nodup (hnodup s) (hnodup t)).mpr h
  have hlist : s.toList = t.toList :=
    hperm.eq_of_pairwise (fun a b _ _ hab hba => absurd hba (UInt16.lt_asymm hab)) s.sorted t.sorted
  cases s
  cases t
  obtain rfl := hlist
  rfl

theorem ofList_perm {l l' : List UInt16} (h : l.Perm l') : ofList l = ofList l' :=
  ext_mem fun p => by rw [mem_ofList, mem_ofList, h.mem_iff]

end PortSet

end DeployPlan
