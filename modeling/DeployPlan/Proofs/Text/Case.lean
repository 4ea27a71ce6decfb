import DeployPlan.Text.Decimal
import Mathlib.Data.List.Forall2

/-!
# Words in any case

`equalIgnoringCase` compares texts by their small letters. `equalIgnoringCase_iff` says which texts
are equal to a word of small letters in this way: those in which each letter stands as it is or as
its capital.
-/

namespace DeployPlan.Text

/-- The text is the word, each letter of it as it is or as its capital. -/
def InAnyCase (word text : List Char) : Prop :=
  List.Forall₂ (fun letter c => c = letter ∨ c = letter.toUpper) word text

theorem InAnyCase.exists_letter {word text : List Char} (h : InAnyCase word text) {c : Char}
    (hc : c ∈ text) : ∃ letter ∈ word, c = letter ∨ c = letter.toUpper := by
  induction h with
  | nil => cases hc
  | @cons letter d word text hd _ ih =>
    rcases List.mem_cons.mp hc with rfl | hc
    · exact ⟨letter, List.mem_cons_self, hd⟩
    · obtain ⟨found, hfound, hcase⟩ := ih hc
      exact ⟨found, List.mem_cons_of_mem letter hfound, hcase⟩

def IsSmall (word : List Char) : Prop :=
  ∀ letter ∈ word, 'a' ≤ letter ∧ letter ≤ 'z'

instance (word : List Char) : Decidable (IsSmall word) :=
  decidable_of_iff ((word.all fun letter => 'a' ≤ letter && letter ≤ 'z') = true)
    (by simp [IsSmall])

theorem exists_lt_eq_ofNat {first c last : Char} (h : first ≤ c ∧ c ≤ last) :
    ∃ n < last.toNat - first.toNat + 1, c = Char.ofNat (first.toNat + n) := by
  have hlow : first.toNat ≤ c.toNat := h.1
  have hhigh : c.toNat ≤ last.toNat := h.2
  refine ⟨c.toNat - first.toNat, by omega, ?_⟩
  rw [Nat.add_sub_cancel' hlow, Char.ofNat_toNat]

theorem asciiLower_eq_iff {letter c : Char} (h : 'a' ≤ letter ∧ letter ≤ 'z') :
    asciiLower c = letter ↔ c = letter ∨ c = letter.toUpper := by
  have hcapital : ∀ n < 26, (asciiLower (Char.ofNat (65 + n))).toUpper = Char.ofNat (65 + n) := by
    decide
  have hsmall : ∀ n < 26, asciiLower (Char.ofNat (97 + n)) = Char.ofNat (97 + n) ∧
      asciiLower (Char.ofNat (97 + n)).toUpper = Char.ofNat (97 + n) := by
    decide
  constructor
  · rintro rfl
    by_cases hc : 'A' ≤ c ∧ c ≤ 'Z'
    · obtain ⟨n, hn, rfl⟩ := exists_lt_eq_ofNat hc
      exact .inr (hcapital n hn).symm
    · rw [asciiLower, if_neg hc]
      exact .inl rfl
  · obtain ⟨n, hn, rfl⟩ := exists_lt_eq_ofNat h
    rintro (rfl | rfl)
    · exact (hsmall n hn).1
    · exact (hsmall n hn).2

/-- What is equal to a word of small letters when the case does not count. -/
theorem equalIgnoringCase_iff {word text : List Char} (h : IsSmall word) :
    equalIgnoringCase text word = true ↔ InAnyCase word text := by
  have hword : word.map asciiLower = word := by
    refine (List.map_congr_left fun letter hl => ?_).trans (List.map_id word)
    exact (asciiLower_eq_iff (h letter hl)).mpr (.inl rfl)
  rw [equalIgnoringCase, beq_iff_eq, hword]
  clear hword
  induction word generalizing text with
  | nil => simp [InAnyCase]
  | cons letter word ih =>
    obtain ⟨hletter, hrest⟩ := List.forall_mem_cons.mp h
    cases text with
    | nil => simp [InAnyCase]
    | cons c text =>
      have htext : text.map asciiLower = word ↔ InAnyCase word text := ih hrest
      rw [List.map_cons, List.cons.injEq, asciiLower_eq_iff hletter, htext, InAnyCase, InAnyCase,
        List.forall₂_cons]

end DeployPlan.Text
