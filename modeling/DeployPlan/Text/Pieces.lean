import DeployPlan.Text.Blank

/-!
# Pieces of a text

Cutting a text at separators: at all of them (`splitOn`), at the first (`cut`), at the last
(`cutLast`), at blanks (`words`) and at line ends (`lines`). `joinWith_splitOn` says that nothing is
lost, `splitOn_joinWith` that pieces are found again, `not_mem_of_mem_splitOn` that no piece holds a
separator, `cut_eq_some_iff` and `cutLast_eq_some_iff` what the two halves of a cut are.
-/

namespace DeployPlan.Text

/-- The pieces between the characters that satisfy `p`; there is always at least one. -/
def splitWhere (p : Char → Bool) : List Char → List (List Char)
  | [] => [[]]
  | c :: r =>
    if p c then [] :: splitWhere p r
    else
      match splitWhere p r with
      | [] => [[c]]
      | piece :: pieces => (c :: piece) :: pieces

/-- The pieces between the occurrences of `sep`. -/
def splitOn (sep : Char) (s : List Char) : List (List Char) :=
  splitWhere (· == sep) s

/-- The pieces put together again, with `sep` between them. -/
def joinWith (sep : Char) (pieces : List (List Char)) : List Char :=
  [sep].intercalate pieces

/-- The text before and the text after the first `sep`. -/
def cut (sep : Char) : List Char → Option (List Char × List Char)
  | [] => none
  | c :: r => if c == sep then some ([], r) else (cut sep r).map fun (a, b) => (c :: a, b)

/-- The text before and the text after the last `sep`. -/
def cutLast (sep : Char) : List Char → Option (List Char × List Char)
  | [] => none
  | c :: r =>
    match cutLast sep r with
    | some (a, b) => some (c :: a, b)
    | none => if c == sep then some ([], r) else none

/-- The words of a text: its longest runs without blanks. -/
def words (s : List Char) : List (List Char) :=
  (splitWhere isBlank s).filter (· ≠ [])

/-- The lines of a text. A line feed ends a line, a carriage return before it belongs to the line
end, and a text that ends in a line feed has no further line. -/
def lines (s : List Char) : List (List Char) :=
  let pieces := splitOn '\n' s
  let ended := pieces.dropLast.map fun l => if l.getLast? = some '\r' then l.dropLast else l
  match pieces.getLast? with
  | some [] => ended
  | some l => ended ++ [l]
  | none => ended

/-- The text after `lead`, if it starts with it. -/
def stripLead? : (lead s : List Char) → Option (List Char)
  | [], s => some s
  | _ :: _, [] => none
  | l :: lead, c :: s => if l == c then stripLead? lead s else none

/-- The text before `tail`, if it ends with it. -/
def stripTail? (tail s : List Char) : Option (List Char) :=
  (stripLead? tail.reverse s.reverse).map List.reverse

theorem stripLead?_eq_some_iff {lead s rest : List Char} :
    stripLead? lead s = some rest ↔ s = lead ++ rest := by
  induction lead generalizing s with
  | nil => simp [stripLead?, eq_comm]
  | cons l lead ih =>
    cases s with
    | nil => simp [stripLead?]
    | cons c s =>
      rw [stripLead?, List.cons_append, List.cons.injEq]
      by_cases hl : l = c
      · simp [hl, ih]
      · simp [hl, Ne.symm hl]

theorem stripTail?_eq_some_iff {tail s rest : List Char} :
    stripTail? tail s = some rest ↔ s = rest ++ tail := by
  rw [stripTail?, Option.map_eq_some_iff]
  constructor
  · rintro ⟨r, hr, rfl⟩
    rw [stripLead?_eq_some_iff] at hr
    rw [← List.reverse_reverse s, hr, List.reverse_append, List.reverse_reverse]
  · rintro rfl
    refine ⟨rest.reverse, ?_, List.reverse_reverse rest⟩
    rw [stripLead?_eq_some_iff, List.reverse_append]

theorem splitWhere_ne_nil (p : Char → Bool) (s : List Char) : splitWhere p s ≠ [] := by
  induction s with
  | nil => simp [splitWhere]
  | cons c r ih =>
    rw [splitWhere]
    split
    · simp
    · split <;> simp

theorem not_mem_of_mem_splitWhere {p : Char → Bool} {s piece : List Char}
    (h : piece ∈ splitWhere p s) : ∀ c ∈ piece, p c = false := by
  induction s generalizing piece with
  | nil => simp [splitWhere] at h; simp [h]
  | cons a r ih =>
    rw [splitWhere] at h
    split at h
    · rcases List.mem_cons.1 h with rfl | h
      · simp
      · exact ih h
    · rename_i ha
      split at h
      · simp at h; subst h; simpa using ha
      · rename_i first rest hr
        rcases List.mem_cons.1 h with rfl | h
        · intro c hc
          rcases List.mem_cons.1 hc with rfl | hc
          · simpa using ha
          · exact ih (by rw [hr]; exact List.mem_cons_self) c hc
        · exact ih (by rw [hr]; exact List.mem_cons_of_mem _ h)

/-- No piece holds the separator. -/
theorem not_mem_of_mem_splitOn {sep : Char} {s piece : List Char} (h : piece ∈ splitOn sep s) :
    sep ∉ piece := by
  intro hs
  simpa using not_mem_of_mem_splitWhere h sep hs

theorem joinWith_cons_cons (sep : Char) (a b : List Char) (r : List (List Char)) :
    joinWith sep (a :: b :: r) = a ++ sep :: joinWith sep (b :: r) := by
  simp [joinWith, List.intercalate, List.intersperse]

theorem joinWith_singleton (sep : Char) (a : List Char) : joinWith sep [a] = a := by
  simp [joinWith, List.intercalate, List.intersperse]

theorem joinWith_nil_cons (sep : Char) {r : List (List Char)} (h : r ≠ []) :
    joinWith sep ([] :: r) = sep :: joinWith sep r := by
  cases r with
  | nil => exact absurd rfl h
  | cons b r => simp [joinWith_cons_cons]

theorem joinWith_cons_head (sep c : Char) (a : List Char) (r : List (List Char)) :
    joinWith sep ((c :: a) :: r) = c :: joinWith sep (a :: r) := by
  cases r with
  | nil => simp [joinWith_singleton]
  | cons b r => simp [joinWith_cons_cons]

/-- Nothing is lost by splitting. -/
theorem joinWith_splitOn (sep : Char) (s : List Char) : joinWith sep (splitOn sep s) = s := by
  induction s with
  | nil => rfl
  | cons c r ih =>
    rw [splitOn, splitWhere]
    split
    · rename_i hc
      rw [joinWith_nil_cons sep (splitWhere_ne_nil _ r)]
      rw [splitOn] at ih
      rw [ih]
      simp at hc
      rw [hc]
    · split
      · rename_i hr
        exact absurd hr (splitWhere_ne_nil _ r)
      · rename_i hr
        rw [splitOn, hr] at ih
        rw [joinWith_cons_head, ih]

theorem joinWith_append (sep : Char) {a b : List (List Char)} (ha : a ≠ []) (hb : b ≠ []) :
    joinWith sep (a ++ b) = joinWith sep a ++ sep :: joinWith sep b := by
  induction a with
  | nil => exact absurd rfl ha
  | cons x a ih =>
    cases a with
    | nil =>
      obtain ⟨y, b, rfl⟩ := List.exists_cons_of_ne_nil hb
      rw [List.singleton_append, joinWith_cons_cons, joinWith_singleton]
    | cons y a =>
      have ht := ih (List.cons_ne_nil y a)
      rw [List.cons_append, List.cons_append, joinWith_cons_cons, ← List.cons_append, ht,
        joinWith_cons_cons, List.append_assoc, List.cons_append]

theorem mem_joinWith {sep c : Char} {pieces : List (List Char)} (h : c ∈ joinWith sep pieces) :
    c = sep ∨ ∃ piece ∈ pieces, c ∈ piece := by
  induction pieces with
  | nil => simp [joinWith] at h
  | cons a pieces ih =>
    cases pieces with
    | nil =>
      rw [joinWith_singleton] at h
      exact .inr ⟨a, List.mem_cons_self, h⟩
    | cons b pieces =>
      rw [joinWith_cons_cons, List.mem_append, List.mem_cons] at h
      rcases h with h | h | h
      · exact .inr ⟨a, List.mem_cons_self, h⟩
      · exact .inl h
      · obtain h | ⟨piece, hp, hc⟩ := ih h
        · exact .inl h
        · exact .inr ⟨piece, List.mem_cons_of_mem a hp, hc⟩

theorem mem_joinWith_of_mem {sep c : Char} {piece : List Char} {pieces : List (List Char)}
    (hp : piece ∈ pieces) (hc : c ∈ piece) : c ∈ joinWith sep pieces := by
  induction pieces with
  | nil => cases hp
  | cons a pieces ih =>
    cases pieces with
    | nil =>
      rw [List.mem_singleton.mp hp] at hc
      rwa [joinWith_singleton]
    | cons b pieces =>
      rw [joinWith_cons_cons, List.mem_append, List.mem_cons]
      rcases List.mem_cons.mp hp with rfl | hp
      · exact .inl hc
      · exact .inr (.inr (ih hp))

theorem exists_joinWith_cons (sep : Char) (a : List Char) (r : List (List Char)) :
    ∃ back, joinWith sep (a :: r) = a ++ back := by
  cases r with
  | nil => exact ⟨[], by rw [joinWith_singleton, List.append_nil]⟩
  | cons b r => exact ⟨_, joinWith_cons_cons sep a b r⟩

theorem exists_joinWith_concat (sep : Char) (r : List (List Char)) (a : List Char) :
    ∃ front, joinWith sep (r ++ [a]) = front ++ a := by
  by_cases hr : r = []
  · exact ⟨[], by rw [hr, List.nil_append, joinWith_singleton, List.nil_append]⟩
  · refine ⟨joinWith sep r ++ [sep], ?_⟩
    rw [joinWith_append sep hr (List.cons_ne_nil a []), joinWith_singleton, List.append_assoc,
      List.singleton_append]

theorem splitOn_of_not_mem {sep : Char} {s : List Char} (h : sep ∉ s) : splitOn sep s = [s] := by
  induction s with
  | nil => rfl
  | cons c r ih =>
    obtain ⟨hc, hr⟩ := List.ne_and_not_mem_of_not_mem_cons h
    have ht : splitWhere (· == sep) r = [r] := ih hr
    rw [splitOn, splitWhere, if_neg (by simpa using Ne.symm hc), ht]

theorem splitOn_append (sep : Char) (a b : List Char) :
    splitOn sep (a ++ sep :: b) = splitOn sep a ++ splitOn sep b := by
  induction a with
  | nil => rw [List.nil_append, splitOn, splitWhere, if_pos (beq_self_eq_true sep)]; rfl
  | cons c a ih =>
    rw [splitOn, splitOn] at ih
    rw [List.cons_append, splitOn, splitOn, splitWhere, splitWhere, ih]
    split
    · rfl
    · obtain ⟨piece, pieces, hp⟩ := List.exists_cons_of_ne_nil (splitWhere_ne_nil (· == sep) a)
      rw [hp]
      rfl

/-- Pieces without separators are found again after they have been put together. -/
theorem splitOn_joinWith {sep : Char} {pieces : List (List Char)} (hn : pieces ≠ [])
    (h : ∀ piece ∈ pieces, sep ∉ piece) : splitOn sep (joinWith sep pieces) = pieces := by
  induction pieces with
  | nil => exact absurd rfl hn
  | cons a pieces ih =>
    have ha : sep ∉ a := h a List.mem_cons_self
    cases pieces with
    | nil => rw [joinWith_singleton, splitOn_of_not_mem ha]
    | cons b pieces =>
      rw [joinWith_cons_cons, splitOn_append, splitOn_of_not_mem ha, ih (List.cons_ne_nil b pieces)]
      · rfl
      · exact fun piece hp => h piece (List.mem_cons_of_mem a hp)

theorem cut_append {sep : Char} {a : List Char} (h : sep ∉ a) (b : List Char) :
    cut sep (a ++ sep :: b) = some (a, b) := by
  induction a with
  | nil => simp [cut]
  | cons c a ih =>
    have hc : (c == sep) = false := by
      rw [beq_eq_false_iff_ne]; rintro rfl; exact h List.mem_cons_self
    rw [List.cons_append, cut, hc, ih fun m => h (List.mem_cons_of_mem _ m)]
    rfl

theorem cut_eq_none_iff {sep : Char} {s : List Char} : cut sep s = none ↔ sep ∉ s := by
  induction s with
  | nil => simp [cut]
  | cons c r ih =>
    rw [cut]
    split
    · rename_i hc
      simp at hc
      simp [hc]
    · rename_i hc
      simp at hc
      simp [ih, Ne.symm hc]

/-- A cut is made at the first separator and loses nothing else. -/
theorem cut_eq_some_iff {sep : Char} {s a b : List Char} :
    cut sep s = some (a, b) ↔ s = a ++ sep :: b ∧ sep ∉ a := by
  constructor
  · intro h
    induction s generalizing a b with
    | nil => simp [cut] at h
    | cons c r ih =>
      rw [cut] at h
      split at h
      · rename_i hc
        simp at hc h
        obtain ⟨rfl, rfl⟩ := h
        simp [hc]
      · rename_i hc
        simp at hc
        obtain ⟨⟨x, y⟩, hxy, he⟩ := Option.map_eq_some_iff.1 h
        simp at he
        obtain ⟨rfl, hn⟩ := ih hxy
        obtain ⟨rfl, rfl⟩ := he
        simp [hn, Ne.symm hc]
  · rintro ⟨rfl, h⟩
    exact cut_append h b

theorem cutLast_eq_none_iff {sep : Char} {s : List Char} : cutLast sep s = none ↔ sep ∉ s := by
  induction s with
  | nil => simp [cutLast]
  | cons c r ih =>
    rw [cutLast]
    cases hr : cutLast sep r with
    | some p =>
      have hm : sep ∈ r := by
        rw [hr] at ih
        simpa using ih
      simp [hm]
    | none =>
      have hm : sep ∉ r := ih.mp hr
      by_cases hc : c = sep
      · simp [hc]
      · simp [hc, hm, Ne.symm hc]

/-- A cut is made at the last separator and loses nothing else. -/
theorem cutLast_eq_some_iff {sep : Char} {s a b : List Char} :
    cutLast sep s = some (a, b) ↔ s = a ++ sep :: b ∧ sep ∉ b := by
  constructor
  · intro h
    induction s generalizing a with
    | nil => simp [cutLast] at h
    | cons c r ih =>
      rw [cutLast] at h
      cases hr : cutLast sep r with
      | some p =>
        obtain ⟨x, y⟩ := p
        rw [hr] at h
        obtain ⟨rfl, rfl⟩ : c :: x = a ∧ y = b := by simpa using h
        obtain ⟨rfl, hb⟩ := ih hr
        exact ⟨rfl, hb⟩
      | none =>
        rw [hr] at h
        by_cases hc : c = sep
        · obtain ⟨rfl, rfl⟩ : [] = a ∧ r = b := by simpa [hc] using h
          exact ⟨by rw [hc]; rfl, cutLast_eq_none_iff.mp hr⟩
        · simp [hc] at h
  · rintro ⟨rfl, hb⟩
    induction a with
    | nil =>
      have hr : cutLast sep b = none := cutLast_eq_none_iff.mpr hb
      rw [List.nil_append, cutLast, hr]
      exact if_pos (beq_self_eq_true sep)
    | cons c a ih => rw [List.cons_append, cutLast, ih]

end DeployPlan.Text
