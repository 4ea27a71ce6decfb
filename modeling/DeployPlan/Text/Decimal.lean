import DeployPlan.Text.Pieces

/-!
# Numbers in texts

Reading a run of ASCII digits as a number, and the size and case of texts. `readDecimal_eq_some_iff`
says which texts are numbers, `digitsValue_decimal` that the digits of a number are read as that
number.
-/

namespace DeployPlan.Text

/-- One of the ten digits of ASCII. -/
def isDigit (c : Char) : Bool :=
  '0' ≤ c && c ≤ '9'

/-- The value of a run of digits, highest digit first. -/
def digitsValue (s : List Char) : Nat :=
  s.foldl (fun n c => 10 * n + (c.toNat - 48)) 0

/-- The number that a text writes: at least one digit, nothing else. -/
def readDecimal (s : List Char) : Option Nat :=
  if s ≠ [] ∧ s.all isDigit then some (digitsValue s) else none

/-- The number in a text that may have one plus sign in front. -/
def readSigned (s : List Char) : Option Nat :=
  match s with
  | '+' :: r => readDecimal r
  | s => readDecimal s

def decimal (n : Nat) : List Char :=
  Nat.toDigits 10 n

theorem decimal_ne_nil (n : Nat) : decimal n ≠ [] :=
  Nat.toDigits_ne_nil

theorem isDigit_of_mem_decimal {n : Nat} {c : Char} (h : c ∈ decimal n) : isDigit c = true :=
  Nat.isDigit_of_mem_toDigits (by decide) (by decide) h

/-- A number is the value of its digits. -/
theorem digitsValue_decimal (n : Nat) : digitsValue (decimal n) = n :=
  Nat.ofDigitChars_ten_toDigits

theorem digitsValue_zeros_append (k : Nat) (s : List Char) :
    digitsValue (List.replicate k '0' ++ s) = digitsValue s := by
  induction k with
  | zero => rfl
  | succ k ih => exact ih

theorem eq_zero_of_decimal {n : Nat} {r : List Char} (h : decimal n = '0' :: r) : n = 0 := by
  induction n using Nat.strongRecOn generalizing r with
  | ind n ih =>
    by_cases hn : n < 10
    · have hchar : ∀ n < 10, Nat.digitChar n = '0' → n = 0 := by decide
      rw [decimal, Nat.toDigits_of_lt_base hn] at h
      exact hchar n hn (List.cons.inj h).1
    · rw [decimal, Nat.toDigits_of_base_le (by decide) (by omega)] at h
      obtain ⟨c, front, hc⟩ := List.exists_cons_of_ne_nil (decimal_ne_nil (n / 10))
      rw [decimal] at hc
      rw [hc, List.cons_append] at h
      have hzero := ih (n / 10) (by omega) (hc.trans (by rw [(List.cons.inj h).1]))
      omega

def hexValue? (c : Char) : Option Nat :=
  if isDigit c then some (c.toNat - 48)
  else if 'a' ≤ c ∧ c ≤ 'f' then some (c.toNat - 87)
  else if 'A' ≤ c ∧ c ≤ 'F' then some (c.toNat - 55)
  else none

/-- The number of bytes that the text takes in UTF-8. -/
def byteLength : List Char → Nat
  | [] => 0
  | c :: r => c.utf8Size + byteLength r

/-- A capital letter of ASCII in lower case; every other character stays. -/
def asciiLower (c : Char) : Char :=
  if 'A' ≤ c ∧ c ≤ 'Z' then Char.ofNat (c.toNat + 32) else c

/-- Whether two texts are equal when the case of ASCII letters does not count. -/
def equalIgnoringCase (a b : List Char) : Bool :=
  a.map asciiLower == b.map asciiLower

theorem readDecimal_eq_some_iff {s : List Char} {n : Nat} :
    readDecimal s = some n ↔ s ≠ [] ∧ (∀ c ∈ s, isDigit c = true) ∧ digitsValue s = n := by
  rw [readDecimal]
  split
  · rename_i h
    simp only [List.all_eq_true] at h
    simp [h.1]
    exact fun _ => h.2
  · rename_i h
    simp only [List.all_eq_true] at h
    constructor
    · intro h'; simp at h'
    · rintro ⟨h1, h2, -⟩
      exact absurd ⟨h1, h2⟩ h

end DeployPlan.Text
