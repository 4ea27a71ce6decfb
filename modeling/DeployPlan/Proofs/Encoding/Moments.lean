import DeployPlan.Timestamp

/-!
# Moments are told apart by their seconds

Of what is written of a moment the digits and the marks between them are found again, so that two
moments are written alike exactly if they are the same but for the parts of their seconds
(`write_eq_write_iff`).
-/

namespace DeployPlan.Timestamp

open Text (isDigit digitsValue)

theorem isDigit_of_mem_padded {width n : Nat} {c : Char} (h : c ∈ padded width n) :
    isDigit c = true := by
  rcases List.mem_append.mp h with h | h
  · rw [List.eq_of_mem_replicate h]
    decide
  · exact Text.isDigit_of_mem_decimal h

theorem digitsValue_padded (width n : Nat) : digitsValue (padded width n) = n := by
  rw [padded, Text.digitsValue_zeros_append, Text.digitsValue_decimal]

/-- Digits end at the first character that is none. -/
theorem digits_append_inj {ds ds' r r' : List Char} {mark : Char}
    (h : ∀ c ∈ ds, isDigit c = true) (h' : ∀ c ∈ ds', isDigit c = true)
    (hm : isDigit mark = false) (he : ds ++ mark :: r = ds' ++ mark :: r') : ds = ds' ∧ r = r' := by
  have htake (ds r : List Char) (h : ∀ c ∈ ds, isDigit c = true) :
      (ds ++ mark :: r).takeWhile isDigit = ds := by
    rw [List.takeWhile_append_of_pos h, List.takeWhile_cons, hm, if_neg Bool.false_ne_true,
      List.append_nil]
  have hds : ds = ds' := by
    rw [← htake ds r h, he, htake ds' r' h']
  rw [hds] at he
  exact ⟨hds, (List.cons.inj (List.append_cancel_left he)).2⟩

theorem padded_append_inj {width n n' : Nat} {r r' : List Char} {mark : Char}
    (hm : isDigit mark = false) (h : padded width n ++ mark :: r = padded width n' ++ mark :: r') :
    n = n' ∧ r = r' := by
  obtain ⟨hp, hr⟩ := digits_append_inj (fun _ => isDigit_of_mem_padded)
    (fun _ => isDigit_of_mem_padded) hm h
  refine ⟨?_, hr⟩
  rw [← digitsValue_padded width n, hp, digitsValue_padded]

theorem padded_ne_cons {width n : Nat} {c : Char} (hc : isDigit c = false) (r s : List Char) :
    padded width n ++ r ≠ c :: s := by
  intro h
  obtain ⟨d, t, ht⟩ := List.exists_cons_of_ne_nil
    (show padded width n ≠ [] from List.append_ne_nil_of_right_ne_nil _ (Text.decimal_ne_nil n))
  have hd := isDigit_of_mem_padded (show d ∈ padded width n by rw [ht]; exact List.mem_cons_self)
  rw [ht, List.cons_append] at h
  rw [(List.cons.inj h).1, hc] at hd
  cases hd

theorem yearChars_cases (y : Int) :
    y < 0 ∧ yearChars y = '-' :: padded 4 y.natAbs ∨
      9999 < y ∧ yearChars y = '+' :: padded 4 y.natAbs ∨
      (0 ≤ y ∧ y ≤ 9999) ∧ yearChars y = padded 4 y.natAbs := by
  rw [yearChars]
  split
  · rename_i h
    exact .inl ⟨h, rfl⟩
  · split
    · rename_i h
      exact .inr (.inl ⟨h, rfl⟩)
    · exact .inr (.inr ⟨by omega, rfl⟩)

theorem yearChars_append_inj {y y' : Int} {r r' : List Char}
    (h : yearChars y ++ '-' :: r = yearChars y' ++ '-' :: r') : y = y' ∧ r = r' := by
  have hminus : isDigit '-' = false := by decide
  have hplus : isDigit '+' = false := by decide
  obtain ⟨hy, hc⟩ | ⟨hy, hc⟩ | ⟨hy, hc⟩ := yearChars_cases y <;>
    obtain ⟨hy', hc'⟩ | ⟨hy', hc'⟩ | ⟨hy', hc'⟩ := yearChars_cases y' <;>
    rw [hc, hc'] at h
  · obtain ⟨hn, hr⟩ := padded_append_inj hminus (List.cons.inj h).2
    exact ⟨by omega, hr⟩
  · exact absurd (List.cons.inj h).1 (by decide)
  · exact absurd h.symm (padded_ne_cons hminus _ _)
  · exact absurd (List.cons.inj h).1 (by decide)
  · obtain ⟨hn, hr⟩ := padded_append_inj hminus (List.cons.inj h).2
    exact ⟨by omega, hr⟩
  · exact absurd h.symm (padded_ne_cons hplus _ _)
  · exact absurd h (padded_ne_cons hminus _ _)
  · exact absurd h (padded_ne_cons hplus _ _)
  · obtain ⟨hn, hr⟩ := padded_append_inj hminus h
    exact ⟨by omega, hr⟩

/-- The moment without the parts of its second. -/
def truncate (t : Timestamp) : Timestamp :=
  { t with second := t.wholeSecond, nanosecond := 0 }

theorem write_truncate (t : Timestamp) : t.truncate.write = t.write := by
  simp only [write, truncate, wholeSecond, Nat.zero_div, Nat.add_zero]

/-- Two moments are written alike exactly if they are the same but for the parts of their
seconds. -/
theorem write_eq_write_iff {t t' : Timestamp} : t.write = t'.write ↔ t.truncate = t'.truncate := by
  refine ⟨fun h => ?_, fun h => by rw [← write_truncate t, h, write_truncate]⟩
  have hchars := congrArg String.toList h
  simp only [write, String.toList_ofList, List.append_assoc, List.cons_append] at hchars
  obtain ⟨hyear, h⟩ := yearChars_append_inj hchars
  obtain ⟨hmonth, h⟩ := padded_append_inj (by decide) h
  obtain ⟨hday, h⟩ := padded_append_inj (by decide) h
  obtain ⟨hhour, h⟩ := padded_append_inj (by decide) h
  obtain ⟨hminute, h⟩ := padded_append_inj (by decide) h
  obtain ⟨hsecond, -⟩ := padded_append_inj (by decide) h
  obtain ⟨⟨_, _, _⟩, _, _, _, _⟩ := t
  obtain ⟨⟨_, _, _⟩, _, _, _, _⟩ := t'
  simp_all [truncate]

end DeployPlan.Timestamp
