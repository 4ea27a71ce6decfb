import DeployPlan.Text.Pieces

/-!
# Blanks around words

What blanks do to a text: trimming takes away those around it (`trim_pad`, `trim_append`), and the
words of a text do not depend on how many stand between them (`words_append_cons`,
`words_append_blanks_append`) or around them (`words_trim`).
-/

namespace DeployPlan.Text

/-- A text that consists of blanks. -/
def Blanks (s : List Char) : Prop :=
  ∀ c ∈ s, isBlank c = true

instance (s : List Char) : Decidable (Blanks s) :=
  decidable_of_iff (s.all isBlank = true) List.all_eq_true

variable {a b s w : List Char} {c : Char}

theorem blanks_nil : Blanks [] :=
  fun _ h => absurd h List.not_mem_nil

theorem blanks_cons_iff : Blanks (c :: s) ↔ isBlank c = true ∧ Blanks s :=
  List.forall_mem_cons

theorem blanks_append_iff : Blanks (a ++ b) ↔ Blanks a ∧ Blanks b :=
  List.forall_mem_append

theorem blanks_reverse_iff : Blanks s.reverse ↔ Blanks s := by
  simp [Blanks]

/-! ## Trimming -/

theorem trimStart_eq_nil_iff : trimStart s = [] ↔ Blanks s := by
  induction s with
  | nil => exact iff_of_true rfl blanks_nil
  | cons c s ih =>
    rw [trimStart, List.dropWhile_cons, blanks_cons_iff]
    split
    · rename_i hc
      rw [← ih, and_iff_right hc]
      rfl
    · rename_i hc
      simp [hc]

theorem exists_blanks_trimStart (s : List Char) : ∃ w, Blanks w ∧ w ++ trimStart s = s := by
  refine ⟨s.takeWhile isBlank, fun c hc => ?_, List.takeWhile_append_dropWhile⟩
  exact List.all_eq_true.mp List.all_takeWhile c hc

theorem trimStart_append_of_blanks (h : Blanks w) : trimStart (w ++ s) = trimStart s :=
  List.dropWhile_append_of_pos h

theorem trimStart_append (h : ¬ Blanks a) : trimStart (a ++ b) = trimStart a ++ b := by
  rw [trimStart, List.dropWhile_append, if_neg]
  · rfl
  · rw [List.isEmpty_iff]
    exact fun he => h (trimStart_eq_nil_iff.mp he)

theorem trimEnd_eq (s : List Char) : trimEnd s = (trimStart s.reverse).reverse := rfl

theorem trimEnd_append_of_blanks (h : Blanks w) : trimEnd (s ++ w) = trimEnd s := by
  rw [trimEnd_eq, List.reverse_append, trimStart_append_of_blanks (blanks_reverse_iff.mpr h),
    ← trimEnd_eq]

theorem trimEnd_append (h : ¬ Blanks b) : trimEnd (a ++ b) = a ++ trimEnd b := by
  rw [trimEnd_eq, List.reverse_append, trimStart_append fun hb => h (blanks_reverse_iff.mp hb),
    List.reverse_append, List.reverse_reverse, ← trimEnd_eq]

theorem exists_blanks_trimEnd (s : List Char) : ∃ w, Blanks w ∧ trimEnd s ++ w = s := by
  obtain ⟨w, hw, h⟩ := exists_blanks_trimStart s.reverse
  refine ⟨w.reverse, blanks_reverse_iff.mpr hw, ?_⟩
  rw [trimEnd_eq, ← List.reverse_append, h, List.reverse_reverse]

theorem trimEnd_append_cons (h : isBlank c = false) (a b : List Char) :
    trimEnd (a ++ c :: b) = a ++ c :: trimEnd b := by
  have hsplit : a ++ c :: b = a ++ [c] ++ b := by simp
  by_cases hb : Blanks b
  · have hnone : trimEnd b = [] := by
      rw [trimEnd_eq, trimStart_eq_nil_iff.mpr (blanks_reverse_iff.mpr hb)]
      rfl
    rw [hsplit, trimEnd_append_of_blanks hb, hnone]
    exact trimEndWhere_concat h a
  · rw [hsplit, trimEnd_append hb, List.append_assoc, List.singleton_append]

theorem trim_eq_nil_iff : trim s = [] ↔ Blanks s := by
  rw [← trimStart_eq_nil_iff, trim, trimEnd_eq, List.reverse_eq_nil_iff, trimStart_eq_nil_iff,
    blanks_reverse_iff]
  obtain ⟨w, hw, h⟩ := exists_blanks_trimStart s
  constructor
  · intro hb
    rw [trimStart_eq_nil_iff, ← h, blanks_append_iff]
    exact ⟨hw, hb⟩
  · intro he
    rw [he]
    exact blanks_nil

/-- Blanks around a text do not count. -/
theorem trim_pad {front back : List Char} (hf : Blanks front) (hb : Blanks back) :
    trim (front ++ s ++ back) = trim s := by
  rw [List.append_assoc, trim, trimStart_append_of_blanks hf, trim]
  by_cases hs : Blanks s
  · have hback : trimStart (s ++ back) = [] :=
      trimStart_eq_nil_iff.mpr (blanks_append_iff.mpr ⟨hs, hb⟩)
    rw [hback, trimStart_eq_nil_iff.mpr hs]
  · rw [trimStart_append hs, trimEnd_append_of_blanks hb]

/-- Of two texts neither of which is blank, the first one loses its start and the second one its
end. -/
theorem trim_append (ha : ¬ Blanks a) (hb : ¬ Blanks b) :
    trim (a ++ b) = trimStart a ++ trimEnd b := by
  rw [trim, trimStart_append ha, trimEnd_append hb]

theorem head?_trim (s : List Char) : (trim s).head? = (trimStart s).head? := by
  cases hs : trimStart s with
  | nil => rw [trim, hs]; rfl
  | cons c r =>
    have hc : isBlank c = false := not_isBlank_head_trimStart hs
    have hn : ¬ Blanks [c] := by
      rw [blanks_cons_iff, hc]
      simp
    obtain ⟨back, hback, hr⟩ := exists_blanks_trimEnd (trimStart s)
    rw [hs] at hr
    rw [trim, hs]
    cases ht : trimEnd (c :: r) with
    | nil =>
      rw [ht, List.nil_append] at hr
      rw [hr, blanks_cons_iff, hc] at hback
      exact absurd hback.1 Bool.false_ne_true
    | cons d t =>
      rw [ht] at hr
      rw [List.head?_cons, List.head?_cons, (List.cons.inj hr).1]

/-! ## Words -/

theorem splitWhere_append_cons {p : Char → Bool} (hc : p c = true) (a b : List Char) :
    splitWhere p (a ++ c :: b) = splitWhere p a ++ splitWhere p b := by
  induction a with
  | nil => simp [splitWhere, hc]
  | cons x a ih =>
    rw [List.cons_append, splitWhere, splitWhere, ih]
    split
    · rfl
    · cases ha : splitWhere p a with
      | nil => exact absurd ha (splitWhere_ne_nil p a)
      | cons piece pieces => rfl

/-- A blank ends a word. -/
theorem words_append_cons (hc : isBlank c = true) (a b : List Char) :
    words (a ++ c :: b) = words a ++ words b := by
  rw [words, splitWhere_append_cons hc, List.filter_append]
  rfl

theorem words_nil : words [] = [] := rfl

theorem words_append_of_blanks (h : Blanks w) : words (w ++ s) = words s := by
  induction w with
  | nil => rfl
  | cons c w ih =>
    obtain ⟨hc, hw⟩ := blanks_cons_iff.mp h
    have hwords := words_append_cons hc [] (w ++ s)
    rwa [words_nil, List.nil_append, List.nil_append, ih hw] at hwords

theorem words_eq_nil_of_blanks (h : Blanks w) : words w = [] := by
  rw [← List.append_nil w, words_append_of_blanks h, words_nil]

/-- Words before blanks and words after them are words of the whole. -/
theorem words_append_blanks_append (h : Blanks w) (hw : w ≠ []) (a b : List Char) :
    words (a ++ w ++ b) = words a ++ words b := by
  cases w with
  | nil => exact absurd rfl hw
  | cons c w =>
    obtain ⟨hc, hw⟩ := blanks_cons_iff.mp h
    rw [List.append_assoc, List.cons_append, words_append_cons hc, words_append_of_blanks hw]

theorem words_append_of_blanks_right (h : Blanks w) : words (s ++ w) = words s := by
  cases w with
  | nil => rw [List.append_nil]
  | cons c w =>
    obtain ⟨hc, hw⟩ := blanks_cons_iff.mp h
    rw [words_append_cons hc, words_eq_nil_of_blanks hw, List.append_nil]

theorem words_append_of_getLast? (h : ∀ c ∈ a.getLast?, isBlank c = true) (b : List Char) :
    words (a ++ b) = words a ++ words b := by
  rcases List.eq_nil_or_concat a with rfl | ⟨front, c, rfl⟩
  · rfl
  · rw [List.concat_eq_append] at h ⊢
    have hc : isBlank c = true := h c (by simp)
    rw [List.append_assoc, List.singleton_append, words_append_cons hc,
      words_append_of_blanks_right (blanks_cons_iff.mpr ⟨hc, blanks_nil⟩)]

theorem words_trimStart (s : List Char) : words (trimStart s) = words s := by
  obtain ⟨w, hw, h⟩ := exists_blanks_trimStart s
  have hwords : words (w ++ trimStart s) = words (trimStart s) := words_append_of_blanks hw
  rw [← hwords, h]

theorem words_trimEnd (s : List Char) : words (trimEnd s) = words s := by
  obtain ⟨w, hw, h⟩ := exists_blanks_trimEnd s
  have hwords : words (trimEnd s ++ w) = words (trimEnd s) := words_append_of_blanks_right hw
  rw [← hwords, h]

/-- The words of a text are those of the trimmed text. -/
theorem words_trim (s : List Char) : words (trim s) = words s := by
  rw [trim, words_trimEnd, words_trimStart]

/-! ## Ends of texts -/

theorem stripTail?_concat (s : List Char) (c d : Char) :
    stripTail? [c] (s ++ [d]) = if c = d then some s else none := by
  by_cases h : c = d <;> simp [stripTail?, stripLead?, h]

theorem stripTail?_append (hb : b ≠ []) :
    stripTail? [c] (a ++ b) = (stripTail? [c] b).map (a ++ ·) := by
  rcases List.eq_nil_or_concat b with rfl | ⟨front, d, rfl⟩
  · exact absurd rfl hb
  · rw [List.concat_eq_append, ← List.append_assoc, stripTail?_concat, stripTail?_concat]
    split <;> rfl

end DeployPlan.Text
