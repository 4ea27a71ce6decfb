import DeployPlan.ExposedPort
import DeployPlan.Proofs.ImageName.Form
import DeployPlan.Proofs.Text.Blanks
import DeployPlan.Proofs.Text.Case
import Mathlib.Data.List.Induction

/-!
# The grammar of declared ports

`Declares text n` says how a number `n` of any size is declared: blanks, perhaps a plus sign, zeros,
the digits of `n` and blanks, and perhaps a slash and the protocol. The reader finds every such
number (`readSigned_trim_eq_some_iff`), and only then it asks whether the number is a port. So it is
never one that has lost digits, and `readChars_eq_some_iff` holds for texts of any length.
-/

namespace DeployPlan

namespace Text

/-! ## Digits -/

theorem digitsValue_concat (s : List Char) (c : Char) :
    digitsValue (s ++ [c]) = 10 * digitsValue s + (c.toNat - 48) := by
  rw [digitsValue, List.foldl_append]
  rfl

theorem digitChar_of_isDigit {c : Char} (hc : isDigit c = true) :
    c.toNat - 48 < 10 ∧ Nat.digitChar (c.toNat - 48) = c := by
  rw [isDigit, Bool.and_eq_true, decide_eq_true_eq, decide_eq_true_eq] at hc
  have hlow : 48 ≤ c.toNat := hc.1
  have hhigh : c.toNat ≤ 57 := hc.2
  have hdigit : c.toNat - 48 < 10 := by omega
  refine ⟨hdigit, ?_⟩
  rw [← Char.toNat_inj, Nat.toNat_digitChar_of_lt_ten hdigit]
  omega

theorem decimal_ten_mul_add {n : Nat} {c : Char} (hn : 0 < n) (hc : isDigit c = true) :
    decimal (10 * n + (c.toNat - 48)) = decimal n ++ [c] := by
  obtain ⟨hdigit, hchar⟩ := digitChar_of_isDigit hc
  have happend := Nat.toDigits_append_toDigits (b := 10) (n := n) (by decide) hn hdigit
  rw [Nat.toDigits_of_lt_base hdigit, hchar] at happend
  exact happend.symm

theorem decimal_of_isDigit {c : Char} (hc : isDigit c = true) : decimal (c.toNat - 48) = [c] := by
  obtain ⟨hdigit, hchar⟩ := digitChar_of_isDigit hc
  rw [decimal, Nat.toDigits_of_lt_base hdigit, hchar]

/-- A run of digits is some zeros and the digits of its value. -/
theorem exists_zeros_append_decimal {s : List Char} (hn : s ≠ [])
    (hs : ∀ c ∈ s, isDigit c = true) :
    ∃ k, s = List.replicate k '0' ++ decimal (digitsValue s) := by
  induction s using List.reverseRecOn with
  | nil => exact absurd rfl hn
  | append_singleton s c ih =>
    obtain ⟨hs, hc⟩ := List.forall_mem_append.mp hs
    have hc : isDigit c = true := hc c (List.mem_singleton_self c)
    rw [digitsValue_concat]
    by_cases he : s = []
    · subst he
      refine ⟨0, ?_⟩
      show [c] = [] ++ decimal (10 * 0 + (c.toNat - 48))
      rw [Nat.mul_zero, Nat.zero_add, decimal_of_isDigit hc, List.nil_append]
    · obtain ⟨k, hk⟩ := ih he hs
      rcases Nat.eq_zero_or_pos (digitsValue s) with hzero | hpos
      · refine ⟨k + 1, ?_⟩
        rw [hzero, Nat.mul_zero, Nat.zero_add, decimal_of_isDigit hc, List.replicate_succ']
        rw [hzero] at hk
        rw [hk]
        rfl
      · refine ⟨k, ?_⟩
        rw [decimal_ten_mul_add hpos hc, ← List.append_assoc, ← hk]

theorem readDecimal_eq_some_iff_zeros {s : List Char} {n : Nat} :
    readDecimal s = some n ↔ ∃ k, s = List.replicate k '0' ++ decimal n := by
  rw [readDecimal_eq_some_iff]
  constructor
  · rintro ⟨hne, hdigits, rfl⟩
    exact exists_zeros_append_decimal hne hdigits
  · rintro ⟨k, rfl⟩
    refine ⟨by simp [decimal_ne_nil], fun c hc => ?_, ?_⟩
    · rcases List.mem_append.mp hc with hc | hc
      · rw [List.eq_of_mem_replicate hc]
        rfl
      · exact isDigit_of_mem_decimal hc
    · rw [digitsValue_zeros_append, digitsValue_decimal]

end Text

namespace ExposedPort

open Text

/-! ## The number part -/

def IsSign (sign : List Char) : Prop :=
  sign = [] ∨ sign = ['+']

/-- The texts of a number without blanks around it: perhaps a plus sign, some zeros, the digits. -/
inductive Numeral : List Char → Nat → Prop
  | mk {sign : List Char} (hs : IsSign sign) (zeros n : Nat) :
    Numeral (sign ++ (List.replicate zeros '0' ++ decimal n)) n

theorem isDigit_of_mem_zeros_append_decimal {k n : Nat} {c : Char}
    (h : c ∈ List.replicate k '0' ++ decimal n) : isDigit c = true :=
  (readDecimal_eq_some_iff.mp (readDecimal_eq_some_iff_zeros.mpr ⟨k, rfl⟩)).2.1 c h

theorem readSigned_eq_some_iff {s : List Char} {n : Nat} :
    readSigned s = some n ↔ Numeral s n := by
  constructor
  · intro h
    unfold readSigned at h
    split at h
    · obtain ⟨k, rfl⟩ := readDecimal_eq_some_iff_zeros.mp h
      exact .mk (.inr rfl) k n
    · obtain ⟨k, rfl⟩ := readDecimal_eq_some_iff_zeros.mp h
      exact .mk (.inl rfl) k n
  · rintro ⟨rfl | rfl, k, n⟩
    · have hread : readDecimal (List.replicate k '0' ++ decimal n) = some n :=
        readDecimal_eq_some_iff_zeros.mpr ⟨k, rfl⟩
      rw [List.nil_append]
      unfold readSigned
      split
      · rename_i r hr
        have hplus : isDigit '+' = true :=
          isDigit_of_mem_zeros_append_decimal (hr ▸ List.mem_cons_self)
        cases hplus
      · exact hread
    · exact readDecimal_eq_some_iff_zeros.mpr ⟨k, rfl⟩

theorem Numeral.forall_mem {s : List Char} {n : Nat} (h : Numeral s n) :
    ∀ c ∈ s, isDigit c = true ∨ c = '+' := by
  obtain ⟨hsign, k, n⟩ := h
  intro c hc
  rcases List.mem_append.mp hc with hc | hc
  · rcases hsign with rfl | rfl
    · cases hc
    · exact .inr (List.mem_singleton.mp hc)
  · exact .inl (isDigit_of_mem_zeros_append_decimal hc)

theorem Numeral.not_isBlank {s : List Char} {n : Nat} (h : Numeral s n) :
    ∀ c ∈ s, isBlank c = false := by
  intro c hc
  rcases h.forall_mem c hc with hc | rfl
  · exact ImageName.isBlank_eq_false (p := isDigit) (by decide) hc
  · rfl

/-- The texts of a number, with blanks around it. -/
inductive NumberPart : List Char → Nat → Prop
  | mk {front numeral back : List Char} {n : Nat} (hf : Blanks front) (hn : Numeral numeral n)
      (hb : Blanks back) : NumberPart (front ++ numeral ++ back) n

/-- The number in a part is read, however large it is. -/
theorem readSigned_trim_eq_some_iff {s : List Char} {n : Nat} :
    readSigned (trim s) = some n ↔ NumberPart s n := by
  rw [readSigned_eq_some_iff]
  constructor
  · intro h
    obtain ⟨front, hf, hfront⟩ := exists_blanks_trimStart s
    obtain ⟨back, hb, hback⟩ := exists_blanks_trimEnd (trimStart s)
    have hs : front ++ trim s ++ back = s := by
      rw [List.append_assoc, trim, hback, hfront]
    rw [← hs]
    exact .mk hf h hb
  · rintro ⟨hf, hn, hb⟩
    have hself : trim _ = _ := trim_eq_self_of_ends
      (fun c hc => hn.not_isBlank c (List.mem_of_mem_head? hc))
      (fun c hc => hn.not_isBlank c (List.mem_of_mem_getLast? hc))
    rwa [trim_pad hf hb, hself]

theorem NumberPart.slash_not_mem {s : List Char} {n : Nat} (h : NumberPart s n) : '/' ∉ s := by
  obtain ⟨hf, hn, hb⟩ := h
  have hblank {w : List Char} (hw : Blanks w) : '/' ∉ w := by
    intro hc
    cases hw '/' hc
  intro hc
  rcases List.mem_append.mp hc with hc | hc
  · rcases List.mem_append.mp hc with hc | hc
    · exact hblank hf hc
    · rcases hn.forall_mem '/' hc with h | h
      · cases h
      · cases h
  · exact hblank hb hc

/-! ## Declarations -/

/-- How a number is declared for TCP: alone, or with a slash after it and the protocol. -/
inductive Declares : List Char → Nat → Prop
  | alone {number : List Char} {n : Nat} (h : NumberPart number n) : Declares number n
  | protocol {number protocol : List Char} {n : Nat} (h : NumberPart number n)
      (hp : InAnyCase ['t', 'c', 'p'] protocol) : Declares (number ++ '/' :: protocol) n

/-- A port is a number from 1 to 65535. -/
def IsPort (n : Nat) : Prop :=
  1 ≤ n ∧ n ≤ 65535

theorem readNumber_eq_some_iff {s : List Char} {port : UInt16} :
    readNumber s = some port ↔ NumberPart s port.toNat ∧ IsPort port.toNat := by
  have hport : port.toNat < 65536 := port.toNat_lt
  simp only [← readSigned_trim_eq_some_iff, readNumber, IsPort]
  cases readSigned (trim s) with
  | none => simp
  | some n =>
    dsimp only
    rw [Option.some_inj]
    split
    · rename_i hn
      have hvalue : (UInt16.ofNat n).toNat = n := UInt16.toNat_ofNat_of_lt' (show n < 65536 by omega)
      rw [Option.some_inj, ← UInt16.toNat_inj, hvalue]
      exact ⟨fun h => ⟨h, h ▸ hn⟩, And.left⟩
    · rename_i hn
      refine iff_of_false nofun ?_
      rintro ⟨rfl, h⟩
      exact hn h

theorem isTcp_iff {protocol : List Char} :
    equalIgnoringCase protocol ['t', 'c', 'p'] = true ↔ InAnyCase ['t', 'c', 'p'] protocol :=
  equalIgnoringCase_iff (by decide)

/-- What is read is a port that is declared. -/
theorem readChars_eq_some_iff {s : List Char} {port : UInt16} :
    readChars s = some port ↔ Declares s port.toNat ∧ IsPort port.toNat := by
  rw [readChars]
  constructor
  · intro h
    split at h
    · obtain ⟨hnumber, hport⟩ := readNumber_eq_some_iff.mp h
      exact ⟨.alone hnumber, hport⟩
    · rename_i number protocol hcut
      obtain ⟨rfl, -⟩ := cut_eq_some_iff.mp hcut
      split at h
      · rename_i hp
        obtain ⟨hnumber, hport⟩ := readNumber_eq_some_iff.mp h
        exact ⟨.protocol hnumber (isTcp_iff.mp hp), hport⟩
      · cases h
  · rintro ⟨hdeclares, hport⟩
    cases hdeclares with
    | alone hnumber =>
      rw [cut_eq_none_iff.mpr hnumber.slash_not_mem]
      exact readNumber_eq_some_iff.mpr ⟨hnumber, hport⟩
    | protocol hnumber hp =>
      rw [cut_append hnumber.slash_not_mem]
      dsimp only
      rw [if_pos (isTcp_iff.mpr hp)]
      exact readNumber_eq_some_iff.mpr ⟨hnumber, hport⟩

/-- A port is read exactly from the texts that declare it. No other text is a declaration, and none
whose number is zero or too large, by however much. -/
theorem read_declared (declaration : String) :
    (∀ port : UInt16, read declaration = some port ↔
      Declares declaration.toList port.toNat ∧ 1 ≤ port.toNat ∧ port.toNat ≤ 65535) ∧
    (read declaration = none ↔
      ∀ n, Declares declaration.toList n → n = 0 ∨ 65535 < n) := by
  refine ⟨fun port => readChars_eq_some_iff, ?_⟩
  constructor
  · intro hnone n hn
    by_contra hport
    have hvalue : (UInt16.ofNat n).toNat = n := UInt16.toNat_ofNat_of_lt' (show n < 65536 by omega)
    have hread : readChars declaration.toList = some (UInt16.ofNat n) := by
      rw [readChars_eq_some_iff, hvalue]
      exact ⟨hn, by omega, by omega⟩
    rw [read, hread] at hnone
    cases hnone
  · intro h
    cases hread : read declaration with
    | none => rfl
    | some port =>
      obtain ⟨hdeclares, hlow, hhigh⟩ := readChars_eq_some_iff.mp hread
      have := h port.toNat hdeclares
      omega

example : read "\t+0008080 /Tcp" = some 8080 ∧ read "65536" = none ∧ read "4295032832" = none ∧
    read "80/tcp/" = none ∧ read "+" = none := by
  decide

end ExposedPort

end DeployPlan
