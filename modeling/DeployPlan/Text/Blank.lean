/-!
# Blank space

What counts as blank, and how a text loses the blanks around it. `trim_eq_self_of_ends` names the
texts that trimming leaves alone, `not_isBlank_ends_trim` says that nothing blank is left at either
end.
-/

namespace DeployPlan.Text

/-- A character with the Unicode property White_Space. -/
def isBlank (c : Char) : Bool :=
  let n := c.toNat
  (9 ≤ n && n ≤ 13) || n == 0x20 || n == 0x85 || n == 0xa0 || n == 0x1680 ||
    (0x2000 ≤ n && n ≤ 0x200a) || n == 0x2028 || n == 0x2029 || n == 0x202f || n == 0x205f ||
    n == 0x3000

def trimStart (s : List Char) : List Char :=
  s.dropWhile isBlank

/-- The text without the characters at its end that satisfy `p`. -/
def trimEndWhere (p : Char → Bool) (s : List Char) : List Char :=
  (s.reverse.dropWhile p).reverse

def trimEnd (s : List Char) : List Char :=
  trimEndWhere isBlank s

def trim (s : List Char) : List Char :=
  trimEnd (trimStart s)

theorem not_isBlank_head_trimStart {s r : List Char} {c : Char} (h : trimStart s = c :: r) :
    isBlank c = false := by
  induction s with
  | nil => simp [trimStart] at h
  | cons a s ih =>
    cases ha : isBlank a with
    | true =>
      rw [trimStart, List.dropWhile_cons, if_pos ha] at h
      exact ih h
    | false =>
      rw [trimStart, List.dropWhile_cons, if_neg (by simp [ha])] at h
      cases h
      exact ha

theorem trimStart_cons_of_not_isBlank {c : Char} {s : List Char} (h : isBlank c = false) :
    trimStart (c :: s) = c :: s := by
  simp [trimStart, h]

/-- A text that neither starts nor ends with a blank is its own trimmed form. -/
theorem trim_eq_self_of_ends {s : List Char} (hs : ∀ c ∈ s.head?, isBlank c = false)
    (he : ∀ c ∈ s.getLast?, isBlank c = false) : trim s = s := by
  cases s with
  | nil => rfl
  | cons a s =>
    have ha : isBlank a = false := hs a rfl
    rw [trim, trimStart_cons_of_not_isBlank ha, trimEnd, trimEndWhere]
    have hr : ∀ c ∈ (a :: s).reverse.head?, isBlank c = false := by
      intro c hc
      rw [List.head?_reverse] at hc
      exact he c hc
    cases hrev : (a :: s).reverse with
    | nil => simp at hrev
    | cons b t =>
      have hb : isBlank b = false := hr b (by simp [hrev])
      rw [List.dropWhile_cons, if_neg (by simp [hb]), ← hrev, List.reverse_reverse]

theorem eq_false_of_mem_getLast?_trimEndWhere {p : Char → Bool} {s : List Char} {c : Char}
    (h : c ∈ (trimEndWhere p s).getLast?) : p c = false := by
  have hd : c ∈ (s.reverse.dropWhile p).head? := by
    rwa [trimEndWhere, List.getLast?_reverse] at h
  have hn := List.head?_dropWhile_not p s.reverse
  rw [Option.mem_def.mp hd] at hn
  simpa using hn

theorem exists_append_trimEndWhere (p : Char → Bool) (s : List Char) :
    ∃ rest, (∀ c ∈ rest, p c = true) ∧ trimEndWhere p s ++ rest = s := by
  refine ⟨(s.reverse.takeWhile p).reverse, fun c hc => ?_, ?_⟩
  · exact List.all_eq_true.mp List.all_takeWhile c (List.mem_reverse.mp hc)
  rw [trimEndWhere, ← List.reverse_append, List.takeWhile_append_dropWhile, List.reverse_reverse]

theorem trimEndWhere_concat {p : Char → Bool} {c : Char} (h : p c = false) (s : List Char) :
    trimEndWhere p (s ++ [c]) = s ++ [c] := by
  have hc : ¬p c = true := by
    rw [h]
    decide
  rw [trimEndWhere, List.reverse_concat, List.dropWhile_cons_of_neg hc, List.reverse_cons,
    List.reverse_reverse]

/-- A trimmed text neither starts nor ends with a blank. -/
theorem not_isBlank_ends_trim (s : List Char) :
    (∀ c ∈ (trim s).head?, isBlank c = false) ∧ ∀ c ∈ (trim s).getLast?, isBlank c = false := by
  refine ⟨fun c hc => ?_, fun c hc => eq_false_of_mem_getLast?_trimEndWhere hc⟩
  obtain ⟨r, hr⟩ : ∃ r, trim s = c :: r := List.head?_eq_some_iff.mp hc
  obtain ⟨blanks, -, hb⟩ := exists_append_trimEndWhere isBlank (trimStart s)
  have hs : trimStart s = c :: (r ++ blanks) := by
    rw [← hb, ← trimEnd, ← trim, hr, List.cons_append]
  exact not_isBlank_head_trimStart hs

end DeployPlan.Text
