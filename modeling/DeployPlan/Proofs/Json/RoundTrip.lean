import DeployPlan.Json.Printer
import DeployPlan.Json.Reader

/-!
# Reading what is written

A value that is written is read back as it was, in every layout that puts nothing but blanks between
the parts (`Layout.Lawful`). The value only has to be one that a text can write (`Proper`): its
integers have at most sixty-four bits, and its other numbers a point or a power of ten.

`stringRest_stringChars` is the round trip of texts, one character after the other, and
`number?_numeral` the one of numbers, which end where no more of a number follows (`EndsNumber`).
`Proper.readable` puts them together by induction over the value, with `readItems?_readable` and
`readMembers?_readable` for what stands in brackets; `read_write` is what follows for whole texts,
and `write_injective` that no two values are written alike.
-/

namespace DeployPlan.Json

open Text (isDigit decimal)

/-! ## Blanks -/

def Blank (s : List Char) : Prop :=
  ∀ c ∈ s, isSpace c = true

theorem Blank.nil : Blank [] :=
  nofun

theorem Blank.dropWhile_append {blank : List Char} (h : Blank blank) (s : List Char) :
    (blank ++ s).dropWhile isSpace = s.dropWhile isSpace :=
  List.dropWhile_append_of_pos h

/-- A layout with blanks between the parts, and a colon between a name and its value. -/
structure Layout.Lawful (l : Layout) : Prop where
  lineBreak : ∀ depth, Blank (l.lineBreak depth)
  colon : ∃ before after, l.colon = before ++ ':' :: after ∧ Blank before ∧ Blank after

theorem lawful_compact : compact.Lawful where
  lineBreak _ := Blank.nil
  colon := ⟨[], [], rfl, Blank.nil, Blank.nil⟩

theorem lawful_pretty : pretty.Lawful where
  lineBreak depth := by
    intro c hc
    rcases List.mem_cons.mp hc with hc | hc
    · rw [hc]
      decide
    · rw [List.eq_of_mem_replicate hc]
      decide
  colon := ⟨[], [' '], rfl, Blank.nil, by simp [Blank, isSpace]⟩

/-! ## Texts -/

/-- How a character of a text is written. -/
inductive IsWritten (c : Char) : List Char → Prop
  | escaped {e : Char} (h : simpleEscape? e = some c) : IsWritten c ['\\', e]
  | control (h : c.toNat < 0x20) : IsWritten c
      ['\\', 'u', '0', '0', Nat.digitChar (c.toNat / 16), Nat.digitChar (c.toNat % 16)]
  | plain (hquote : c ≠ '"') (hslash : c ≠ '\\') (h : ¬c.toNat < 0x20) : IsWritten c [c]

theorem isWritten_stringChar (c : Char) : IsWritten c (stringChar c) := by
  rw [stringChar]
  iterate 7
    split
    · rename_i hc
      subst hc
      exact .escaped rfl
  split
  · rename_i h
    exact .control h
  · rename_i hquote hslash _ _ _ _ _ h
    exact .plain hquote hslash h

theorem escape?_of_simple {e c : Char} (h : simpleEscape? e = some c) (r : List Char) :
    escape? (e :: r) = .ok (c, r) := by
  have hu : e ≠ 'u' := by
    intro he
    rw [he] at h
    cases h
  rw [escape?]
  · simp only [h]
  · exact hu

theorem unit?_control {n : Nat} (h : n < 0x20) (r : List Char) :
    unit? ('0' :: '0' :: Nat.digitChar (n / 16) :: Nat.digitChar (n % 16) :: r) = .ok (n, r) := by
  have hsize : ∀ n < 0x20, ¬Text.byteLength ['0', '0', Nat.digitChar (n / 16),
      Nat.digitChar (n % 16)] < 4 := by decide
  have hvalue : ∀ n < 0x20, hexUnit? '0' '0' (Nat.digitChar (n / 16)) (Nat.digitChar (n % 16)) =
      some n := by decide
  have htake : ('0' :: '0' :: Nat.digitChar (n / 16) :: Nat.digitChar (n % 16) :: r).take 4 =
      ['0', '0', Nat.digitChar (n / 16), Nat.digitChar (n % 16)] := rfl
  rw [unit?, htake, if_neg (hsize n h)]
  simp only [hvalue n h]

theorem escape?_control {c : Char} (h : c.toNat < 0x20) (r : List Char) :
    escape? ('u' :: '0' :: '0' :: Nat.digitChar (c.toNat / 16) :: Nat.digitChar (c.toNat % 16) ::
      r) = .ok (c, r) := by
  have hhigh : isHighUnit c.toNat = false := by
    simp only [isHighUnit, Bool.and_eq_false_iff, decide_eq_false_iff_not]
    omega
  have hlow : isLowUnit c.toNat = false := by
    simp only [isLowUnit, Bool.and_eq_false_iff, decide_eq_false_iff_not]
    omega
  show unitEscape? _ = _
  rw [unitEscape?, unit?_control h]
  simp only [bind, Except.bind, hhigh, hlow, Bool.false_eq_true, if_false, Char.ofNat_toNat]
  rfl

theorem stringRest_escape {s r : List Char} {c : Char} (h : escape? s = .ok (c, r)) (fuel : Nat) :
    stringRest (fuel + 1) ('\\' :: s) =
      (stringRest fuel r).map fun (s, rest) => (c :: s, rest) := by
  rw [stringRest, h]
  simp only [bind, Except.bind]
  cases stringRest fuel r <;> rfl

/-- A character that is written in a text is read back. -/
theorem IsWritten.stringRest {c : Char} {written : List Char} (h : IsWritten c written) (fuel : Nat)
    (r : List Char) : stringRest (fuel + 1) (written ++ r) =
      (Json.stringRest fuel r).map fun (s, rest) => (c :: s, rest) := by
  cases h with
  | escaped he => exact stringRest_escape (escape?_of_simple he r) fuel
  | control hc => exact stringRest_escape (escape?_control hc r) fuel
  | plain hquote hslash hc =>
    show Json.stringRest (fuel + 1) (c :: r) = _
    rw [Json.stringRest, if_neg hc]
    · exact hquote
    · exact hslash

theorem IsWritten.ne_nil {c : Char} {written : List Char} (h : IsWritten c written) :
    written ≠ [] := by
  cases h <;> exact List.cons_ne_nil _ _

/-- A text that is written up to its closing quotation mark is read back. -/
theorem stringRest_stringChars {fuel : Nat} (s r : List Char)
    (h : (s.flatMap stringChar).length < fuel) :
    stringRest fuel (s.flatMap stringChar ++ '"' :: r) = .ok (s, r) := by
  induction s generalizing fuel with
  | nil =>
    obtain ⟨fuel, rfl⟩ : ∃ n, fuel = n + 1 := ⟨fuel - 1, by simp at h; omega⟩
    rfl
  | cons c s ih =>
    have hlength := List.length_pos_iff.mpr (isWritten_stringChar c).ne_nil
    rw [List.flatMap_cons, List.length_append] at h
    obtain ⟨fuel, rfl⟩ : ∃ n, fuel = n + 1 := ⟨fuel - 1, by omega⟩
    rw [List.flatMap_cons, List.append_assoc, (isWritten_stringChar c).stringRest,
      ih (by omega)]
    rfl

/-- The length of what is to be read is steps enough. -/
theorem stringRest_length_succ (s r : List Char) :
    stringRest ((s.flatMap stringChar ++ '"' :: r).length + 1)
      (s.flatMap stringChar ++ '"' :: r) = .ok (s, r) := by
  refine stringRest_stringChars s r ?_
  rw [List.length_append]
  omega

/-! ## Numbers -/

/-- What may follow digits: no digit. -/
def EndsDigits (rest : List Char) : Prop :=
  ∀ c ∈ rest.head?, isDigit c = false

/-- What may follow a number: nothing that would go on with it. -/
def EndsNumber (rest : List Char) : Prop :=
  ∀ c ∈ rest.head?, isDigit c = false ∧ c ≠ '.' ∧ c ≠ 'e' ∧ c ≠ 'E'

theorem EndsNumber.of_isSpace {rest : List Char} (h : ∀ c ∈ rest.head?, isSpace c = true) :
    EndsNumber rest := by
  intro c hc
  have hspace := h c hc
  simp only [isSpace, Bool.or_eq_true, decide_eq_true_eq] at hspace
  rcases hspace with ((hs | hs) | hs) | hs <;> subst hs <;> decide

theorem EndsNumber.endsDigits {rest : List Char} (h : EndsNumber rest) : EndsDigits rest :=
  fun c hc => (h c hc).1

/-- At least one digit. -/
structure IsDigits (ds : List Char) : Prop where
  ne_nil : ds ≠ []
  digits : ∀ c ∈ ds, isDigit c = true

theorem isDigits_decimal (n : Nat) : IsDigits (decimal n) :=
  ⟨Text.decimal_ne_nil n, fun _ hc => Text.isDigit_of_mem_decimal hc⟩

theorem digits?_append {ds rest : List Char} (h : IsDigits ds) (hr : EndsDigits rest) :
    digits? (ds ++ rest) = .ok (ds, rest) := by
  have hends : rest.takeWhile isDigit = [] ∧ rest.dropWhile isDigit = rest := by
    cases rest with
    | nil => exact ⟨rfl, rfl⟩
    | cons c r =>
      have hc := hr c rfl
      exact ⟨by rw [List.takeWhile_cons, hc]; rfl, by rw [List.dropWhile_cons, hc]; rfl⟩
  rw [digits?, List.takeWhile_append_of_pos h.digits, List.dropWhile_append_of_pos h.digits,
    hends.1, hends.2, List.append_nil]
  obtain ⟨c, r, rfl⟩ := List.exists_cons_of_ne_nil h.ne_nil
  rfl

/-- The whole part of a number: digits with no zero in front of others. -/
structure IsWhole (s : List Char) : Prop extends IsDigits s where
  no_zero : ∀ r, s = '0' :: r → r = []

/-- The fraction of a number: a point and digits, or nothing. -/
inductive IsFraction : List Char → Prop
  | none : IsFraction []
  | digits {ds : List Char} (h : IsDigits ds) : IsFraction ('.' :: ds)

/-- The power of ten of a number: its letter, possibly a sign, and digits, or nothing. -/
inductive IsPower : List Char → Prop
  | none : IsPower []
  | plain {e : Char} {ds : List Char} (he : e = 'e' ∨ e = 'E') (h : IsDigits ds) : IsPower (e :: ds)
  | signed {e sign : Char} {ds : List Char} (he : e = 'e' ∨ e = 'E') (hs : sign = '+' ∨ sign = '-')
    (h : IsDigits ds) : IsPower (e :: sign :: ds)

theorem isWhole_decimal (n : Nat) : IsWhole (decimal n) where
  toIsDigits := isDigits_decimal n
  no_zero r h := by
    have hn := Text.eq_zero_of_decimal h
    rw [hn] at h
    exact (List.cons.inj h).2.symm

theorem wholePart?_append {whole rest : List Char} (h : IsWhole whole) (hr : EndsDigits rest) :
    wholePart? (whole ++ rest) = .ok (whole, rest) := by
  obtain ⟨c, r, rfl⟩ := List.exists_cons_of_ne_nil h.ne_nil
  by_cases hc : c = '0'
  · subst hc
    rw [h.no_zero r rfl]
    rfl
  · rw [wholePart?, digits?_append h.toIsDigits hr]
    intro s hs
    exact hc (List.cons.inj hs).1

theorem IsPower.endsDigits_append {power rest : List Char} (h : IsPower power)
    (hr : EndsNumber rest) : EndsDigits (power ++ rest) := by
  have hletter {e : Char} (he : e = 'e' ∨ e = 'E') : isDigit e = false := by
    rcases he with he | he <;> subst he <;> decide
  cases h with
  | none => exact hr.endsDigits
  | plain he =>
    intro c hc
    cases hc
    exact hletter he
  | signed he =>
    intro c hc
    cases hc
    exact hletter he

theorem IsFraction.endsDigits_append {fraction rest : List Char} (h : IsFraction fraction)
    (hr : EndsDigits rest) : EndsDigits (fraction ++ rest) := by
  cases h with
  | none => exact hr
  | digits =>
    intro c hc
    cases hc
    decide

theorem fraction?_append {fraction power rest : List Char} (h : IsFraction fraction)
    (hp : IsPower power) (hr : EndsNumber rest) :
    fraction? (fraction ++ (power ++ rest)) = .ok (fraction, power ++ rest) := by
  cases h with
  | none =>
    have hpoint : ∀ r, power ++ rest ≠ '.' :: r := by
      intro r hs
      cases hp with
      | none =>
        rw [List.nil_append] at hs
        exact (hr '.' (by rw [hs]; rfl)).2.1 rfl
      | plain he => rcases he with he | he <;> rw [he] at hs <;> cases hs
      | signed he => rcases he with he | he <;> rw [he] at hs <;> cases hs
    rw [List.nil_append, fraction?]
    exact hpoint
  | digits hd =>
    rw [List.cons_append, fraction?, digits?_append hd (hp.endsDigits_append hr)]
    rfl

theorem exponent?_append {power rest : List Char} (h : IsPower power) (hr : EndsNumber rest) :
    exponent? (power ++ rest) = .ok (power, rest) := by
  cases h with
  | none =>
    cases rest with
    | nil => rfl
    | cons c r =>
      have hc := hr c rfl
      have hletter : ¬(c = 'e' ∨ c = 'E') := not_or.mpr ⟨hc.2.2.1, hc.2.2.2⟩
      simp only [List.nil_append, exponent?, if_neg hletter]
  | @plain e ds he hd =>
    have hsign : ∀ sign r, ds = sign :: r → ¬(sign = '+' ∨ sign = '-') := by
      intro sign r hs hm
      have hdigit := hd.digits sign (by rw [hs]; exact List.mem_cons_self)
      rcases hm with hm | hm <;> rw [hm] at hdigit <;> exact absurd hdigit (by decide)
    obtain ⟨sign, r, rfl⟩ := List.exists_cons_of_ne_nil hd.ne_nil
    have hdigits := digits?_append hd hr.endsDigits
    rw [List.cons_append] at hdigits
    simp only [List.cons_append, exponent?, if_pos he, if_neg (hsign sign r rfl), hdigits]
    rfl
  | @signed e sign ds he hs hd =>
    simp only [List.cons_append, exponent?, if_pos he, if_pos hs, digits?_append hd hr.endsDigits]
    rfl

/-- The parts of a number are read up to where it ends. -/
theorem number?_append (negative : Bool) {whole fraction power rest : List Char}
    (hw : IsWhole whole) (hf : IsFraction fraction) (hp : IsPower power) (hr : EndsNumber rest) :
    number? ((if negative then ['-'] else []) ++ whole ++ fraction ++ power ++ rest) =
      .ok (numberValue negative whole (fraction ++ power), rest) := by
  have hparts : (do
      let (w, s) ← wholePart? (whole ++ (fraction ++ (power ++ rest)))
      let (f, s) ← fraction? s
      let (p, s) ← exponent? s
      return (numberValue negative w (f ++ p), s)) =
        (.ok (numberValue negative whole (fraction ++ power), rest) :
          Except Fault (Json × List Char)) := by
    rw [wholePart?_append hw (hf.endsDigits_append (hp.endsDigits_append hr))]
    simp only [bind, Except.bind, fraction?_append hf hp hr, exponent?_append hp hr]
    rfl
  simp only [List.append_assoc]
  cases negative with
  | true => exact hparts
  | false =>
    obtain ⟨c, r, rfl⟩ := List.exists_cons_of_ne_nil hw.ne_nil
    have hminus : c ≠ '-' := by
      intro hc
      have hdigit := hw.digits c List.mem_cons_self
      rw [hc] at hdigit
      exact absurd hdigit (by decide)
    show number? (c :: _) = _
    rw [number?]
    · exact hparts
    · intro s hs
      exact hminus (List.cons.inj hs).1

/-- A number that is no integer, as it is written. -/
inductive IsNumeral : List Char → Prop
  | mk (negative : Bool) {whole fraction power : List Char} (hw : IsWhole whole)
    (hf : IsFraction fraction) (hp : IsPower power) (hmore : fraction ++ power ≠ []) :
    IsNumeral ((if negative then ['-'] else []) ++ whole ++ fraction ++ power)

/-- An integer of sixty-four bits, with or without a sign. -/
def IsWord (n : Int) : Prop :=
  -0x8000000000000000 ≤ n ∧ n < 0x10000000000000000

theorem number?_numeral {s rest : List Char} (h : IsNumeral s) (hr : EndsNumber rest) :
    number? (s ++ rest) = .ok (.number (String.ofList s), rest) := by
  cases h with
  | mk negative hw hf hp hmore =>
    rw [number?_append negative hw hf hp hr, numberValue, if_pos hmore, if_neg hmore]
    simp only [List.append_assoc]

theorem number?_intChars {n : Int} {rest : List Char} (h : IsWord n) (hr : EndsNumber rest) :
    number? (intChars n ++ rest) = .ok (.int n, rest) := by
  have hread (negative : Bool) := number?_append negative (isWhole_decimal n.natAbs) .none .none hr
  obtain ⟨hlow, hhigh⟩ := h
  rw [intChars]
  split
  · rename_i hn
    have hsize : 0 < n.natAbs ∧ n.natAbs ≤ 0x8000000000000000 := by omega
    have hvalue : -(n.natAbs : Int) = n := by omega
    have hnegative := hread true
    simp only [numberValue, Text.digitsValue_decimal, hsize, hvalue] at hnegative
    simpa using hnegative
  · rename_i hn
    have hsize : n.natAbs < 0x10000000000000000 := by omega
    have hvalue : (n.natAbs : Int) = n := by omega
    have hpositive := hread false
    simp only [numberValue, Text.digitsValue_decimal, hsize, hvalue] at hpositive
    simpa using hpositive

/-! ## Values -/

/-- A value that a text can write: its integers have at most sixty-four bits, and its other numbers
a point or a power of ten. -/
inductive Proper : Json → Prop
  | null : Proper .null
  | bool (b : Bool) : Proper (.bool b)
  | int {n : Int} (h : IsWord n) : Proper (.int n)
  | number {s : List Char} (h : IsNumeral s) : Proper (.number (String.ofList s))
  | str (s : String) : Proper (.str s)
  | arr {items : List Json} (h : ∀ j ∈ items, Proper j) : Proper (.arr items)
  | obj {members : List (String × Json)} (h : ∀ m ∈ members, Proper m.2) : Proper (.obj members)

/-- The value is read back wherever it is written, given steps enough. -/
def Readable (l : Layout) (j : Json) : Prop :=
  ∀ depth fuel rest, EndsNumber rest → 2 * (chars l depth j).length ≤ fuel →
    readValue? fuel (chars l depth j ++ rest) = .ok (j, rest)

theorem endsNumber_blank_append {blank rest : List Char} {c : Char} (hb : Blank blank)
    (hc : c = ',' ∨ c = ']' ∨ c = '\x7d') : EndsNumber (blank ++ c :: rest) := by
  cases blank with
  | nil =>
    intro d hd
    cases hd
    rcases hc with hc | hc | hc <;> subst hc <;> decide
  | cons b blank =>
    refine .of_isSpace fun d hd => ?_
    cases hd
    exact hb b List.mem_cons_self

theorem readValue?_blank {blank : List Char} (h : Blank blank) (fuel : Nat) (s : List Char) :
    readValue? fuel (blank ++ s) = readValue? fuel s := by
  cases fuel with
  | zero => rw [readValue?, readValue?]
  | succ fuel => rw [readValue?, readValue?, h.dropWhile_append]

/-- A character that numbers start with. -/
def StartsNumber (c : Char) : Prop :=
  isDigit c = true ∨ c = '-'

theorem StartsNumber.ne {c d : Char} (h : StartsNumber c) (hd : isDigit d = false) (hm : d ≠ '-') :
    c ≠ d := by
  intro he
  rw [StartsNumber, he, hd] at h
  rcases h with h | h
  · cases h
  · exact hm h

theorem StartsNumber.not_isSpace {c : Char} (h : StartsNumber c) : isSpace c = false := by
  have h1 := h.ne (d := ' ') (by decide) (by decide)
  have h2 := h.ne (d := '\n') (by decide) (by decide)
  have h3 := h.ne (d := '\r') (by decide) (by decide)
  have h4 := h.ne (d := '\t') (by decide) (by decide)
  simp only [isSpace, h1, h2, h3, h4, decide_false, Bool.or_false]

theorem readValue?_number {c : Char} (h : StartsNumber c) (fuel : Nat) (r : List Char) :
    readValue? (fuel + 1) (c :: r) = number? (c :: r) := by
  have hdrop : (c :: r).dropWhile isSpace = c :: r := by
    rw [List.dropWhile_cons, h.not_isSpace, if_neg Bool.false_ne_true]
  rw [readValue?, hdrop]
  split
  case h_1 hs => cases hs
  case h_2 hs | h_3 hs | h_4 hs | h_5 hs | h_6 hs | h_7 hs =>
    exact absurd (List.cons.inj hs).1 (h.ne (by decide) (by decide))
  case h_8 => rfl

/-- A numeral starts with a digit or with a minus sign. -/
theorem exists_cons_of_isWhole (negative : Bool) {whole : List Char} (h : IsWhole whole)
    (more : List Char) : ∃ c r, (if negative then ['-'] else []) ++ whole ++ more = c :: r ∧
      StartsNumber c := by
  cases negative with
  | true => exact ⟨'-', whole ++ more, rfl, .inr rfl⟩
  | false =>
    obtain ⟨c, r, rfl⟩ := List.exists_cons_of_ne_nil h.ne_nil
    exact ⟨c, r ++ more, rfl, .inl (h.digits c List.mem_cons_self)⟩

theorem exists_cons_of_isNumeral {s : List Char} (h : IsNumeral s) :
    ∃ c r, s = c :: r ∧ StartsNumber c := by
  cases h with
  | mk negative hw =>
    rw [List.append_assoc]
    exact exists_cons_of_isWhole negative hw _

theorem exists_cons_intChars (n : Int) : ∃ c r, intChars n = c :: r ∧ StartsNumber c := by
  have hwhole := isWhole_decimal n.natAbs
  rw [intChars]
  split
  · exact ⟨'-', _, rfl, .inr rfl⟩
  · obtain ⟨c, r, hc⟩ := List.exists_cons_of_ne_nil hwhole.ne_nil
    exact ⟨c, r, hc, .inl (hwhole.digits c (by rw [hc]; exact List.mem_cons_self))⟩

theorem Proper.exists_cons {j : Json} (h : j.Proper) (l : Layout) (depth : Nat) :
    ∃ c r, chars l depth j = c :: r ∧ isSpace c = false ∧ c ≠ ']' ∧ c ≠ '\x7d' := by
  have hnumber {c : Char} (hc : StartsNumber c) : isSpace c = false ∧ c ≠ ']' ∧ c ≠ '\x7d' :=
    ⟨hc.not_isSpace, hc.ne (by decide) (by decide), hc.ne (by decide) (by decide)⟩
  cases h with
  | null => exact ⟨_, _, rfl, by decide⟩
  | bool b => cases b <;> exact ⟨_, _, rfl, by decide⟩
  | @int n hn =>
    obtain ⟨c, r, hs, hc⟩ := exists_cons_intChars n
    exact ⟨c, r, hs, hnumber hc⟩
  | @number s hs =>
    obtain ⟨c, r, hs, hc⟩ := exists_cons_of_isNumeral hs
    exact ⟨c, r, String.toList_ofList.trans hs, hnumber hc⟩
  | str s => exact ⟨_, _, rfl, by decide⟩
  | @arr items hi => cases items <;> exact ⟨_, _, rfl, by decide⟩
  | @obj members hm => cases members <;> exact ⟨_, _, rfl, by decide⟩

/-- Items are read up to their bracket if each of them is read. -/
theorem readItems?_readable {l : Layout} (hl : l.Lawful) {depth : Nat} {items : List Json}
    {j : Json} (hj : Readable l j) (hi : ∀ i ∈ items, Readable l i) (fuel : Nat)
    {front blank rest : List Char} (hf : Blank front) (hb : Blank blank)
    (hfuel : 2 * ((chars l depth j).length + (itemChars l depth items).length) < fuel) :
    readItems? fuel (front ++ chars l depth j ++ itemChars l depth items ++ blank ++ ']' :: rest) =
      .ok (j :: items, rest) := by
  induction items generalizing j fuel front with
  | nil =>
    obtain ⟨fuel, rfl⟩ : ∃ n, fuel = n + 1 := ⟨fuel - 1, by omega⟩
    have hvalue := hj depth fuel (blank ++ ']' :: rest)
      (endsNumber_blank_append hb (.inr (.inl rfl))) (by omega)
    simp only [itemChars, List.append_nil, List.append_assoc]
    rw [readItems?, readValue?_blank hf, hvalue]
    simp only [bind, Except.bind, hb.dropWhile_append]
    rfl
  | cons i items ih =>
    obtain ⟨fuel, rfl⟩ : ∃ n, fuel = n + 1 := ⟨fuel - 1, by omega⟩
    simp only [itemChars, List.length_cons, List.length_append] at hfuel
    have hmore := ih (hi i List.mem_cons_self) (fun k hk => hi k (List.mem_cons_of_mem i hk)) fuel
      (hl.lineBreak depth) (by omega)
    have hvalue := hj depth fuel
      (',' :: (l.lineBreak depth ++ chars l depth i ++ itemChars l depth items ++ blank ++ ']' :: rest))
      (endsNumber_blank_append Blank.nil (.inl rfl)) (by omega)
    simp only [itemChars, List.cons_append, List.append_assoc] at hvalue hmore ⊢
    rw [readItems?, readValue?_blank hf, hvalue]
    have hcomma (s : List Char) : (',' :: s).dropWhile isSpace = ',' :: s := rfl
    simp only [bind, Except.bind, hcomma, hmore]
    rfl

/-- A member is read up to the comma or the brace behind its value. -/
theorem readMembers?_member {l : Layout} (hl : l.Lawful) {depth : Nat} {j : Json}
    (hj : Readable l j) (key : String) {fuel : Nat} {front rest : List Char} (hf : Blank front)
    (hr : EndsNumber rest) (hfuel : 2 * (chars l depth j).length ≤ fuel) :
    (∀ r, rest.dropWhile isSpace = ',' :: r →
      readMembers? (fuel + 1) (front ++ stringChars key ++ l.colon ++ chars l depth j ++ rest) =
        (readMembers? fuel r).map fun (members, rest) => ((key, j) :: members, rest)) ∧
    ∀ r, rest.dropWhile isSpace = '\x7d' :: r →
      readMembers? (fuel + 1) (front ++ stringChars key ++ l.colon ++ chars l depth j ++ rest) =
        .ok ([(key, j)], r) := by
  obtain ⟨before, after, hcolon, hbefore, hafter⟩ := hl.colon
  have hquote (s : List Char) : ('"' :: s).dropWhile isSpace = '"' :: s := rfl
  have hmark (s : List Char) : (':' :: s).dropWhile isSpace = ':' :: s := rfl
  simp only [stringChars, hcolon, List.cons_append, List.append_assoc, List.nil_append]
  rw [readMembers?, hf.dropWhile_append, hquote]
  simp only [stringRest_length_succ, bind, Except.bind, hbefore.dropWhile_append, hmark, readValue?_blank hafter,
    hj depth fuel rest hr hfuel, String.ofList_toList]
  refine ⟨fun r hs => ?_, fun r hs => ?_⟩
  · simp only [hs]
    cases readMembers? fuel r <;> rfl
  · simp only [hs]
    rfl

/-- Members are read up to their brace if the value of each of them is read. -/
theorem readMembers?_readable {l : Layout} (hl : l.Lawful) {depth : Nat}
    {members : List (String × Json)} (key : String) {j : Json} (hj : Readable l j)
    (hm : ∀ m ∈ members, Readable l m.2) (fuel : Nat) {front blank rest : List Char}
    (hf : Blank front) (hb : Blank blank)
    (hfuel : 2 * ((chars l depth j).length + (memberChars l depth members).length) < fuel) :
    readMembers? fuel (front ++ stringChars key ++ l.colon ++ chars l depth j ++
      (memberChars l depth members ++ blank ++ '\x7d' :: rest)) = .ok ((key, j) :: members, rest) := by
  induction members generalizing key j fuel front with
  | nil =>
    obtain ⟨fuel, rfl⟩ : ∃ n, fuel = n + 1 := ⟨fuel - 1, by omega⟩
    have hends : EndsNumber (blank ++ '\x7d' :: rest) :=
      endsNumber_blank_append hb (.inr (.inr rfl))
    rw [memberChars, List.nil_append]
    exact (readMembers?_member hl hj key hf hends (by omega)).2 rest (hb.dropWhile_append _)
  | cons m members ih =>
    obtain ⟨other, i⟩ := m
    obtain ⟨fuel, rfl⟩ : ∃ n, fuel = n + 1 := ⟨fuel - 1, by omega⟩
    simp only [memberChars, List.length_cons, List.length_append] at hfuel
    have hi : Readable l i := hm (other, i) List.mem_cons_self
    have hmore := ih other hi (fun k hk => hm k (List.mem_cons_of_mem (other, i) hk)) fuel
      (hl.lineBreak depth) (by omega)
    have hends : EndsNumber (',' :: (l.lineBreak depth ++ stringChars other ++ l.colon ++
        chars l depth i ++ (memberChars l depth members ++ blank ++ '\x7d' :: rest))) :=
      endsNumber_blank_append Blank.nil (.inl rfl)
    have hsplit : memberChars l depth ((other, i) :: members) ++ blank ++ '\x7d' :: rest =
        ',' :: (l.lineBreak depth ++ stringChars other ++ l.colon ++ chars l depth i ++
          (memberChars l depth members ++ blank ++ '\x7d' :: rest)) := by
      simp only [memberChars, List.cons_append, List.append_assoc]
    rw [hsplit, (readMembers?_member hl hj key hf hends (by omega)).1 _ rfl, hmore]
    rfl

theorem readValue?_word (fuel : Nat) (rest : List Char) :
    readValue? (fuel + 1) ('n' :: 'u' :: 'l' :: 'l' :: rest) = .ok (.null, rest) ∧
    readValue? (fuel + 1) ('t' :: 'r' :: 'u' :: 'e' :: rest) = .ok (.bool true, rest) ∧
    readValue? (fuel + 1) ('f' :: 'a' :: 'l' :: 's' :: 'e' :: rest) = .ok (.bool false, rest) := by
  refine ⟨?_, ?_, ?_⟩ <;> rw [readValue?] <;> rfl

theorem readValue?_text (fuel : Nat) (s : String) (rest : List Char) :
    readValue? (fuel + 1) (stringChars s ++ rest) = .ok (.str s, rest) := by
  have hquote (s : List Char) : ('"' :: s).dropWhile isSpace = '"' :: s := rfl
  simp only [stringChars, List.cons_append, List.append_assoc, List.nil_append]
  rw [readValue?, hquote]
  simp only [stringRest_length_succ, Except.map, String.ofList_toList]

/-- Items in brackets are a list. -/
theorem readValue?_items {fuel : Nat} {r rest : List Char} {items : List Json}
    (hne : ∀ s, r.dropWhile isSpace ≠ ']' :: s) (h : readItems? fuel r = .ok (items, rest)) :
    readValue? (fuel + 1) ('[' :: r) = .ok (.arr items, rest) := by
  have hbracket : ('[' :: r).dropWhile isSpace = '[' :: r := rfl
  rw [readValue?, hbracket]
  simp only [h]
  rfl

/-- Members in braces are an object. -/
theorem readValue?_members {fuel : Nat} {r rest : List Char} {members : List (String × Json)}
    (hne : ∀ s, r.dropWhile isSpace ≠ '\x7d' :: s)
    (h : readMembers? fuel r = .ok (members, rest)) :
    readValue? (fuel + 1) ('\x7b' :: r) = .ok (.obj members, rest) := by
  have hbrace : ('\x7b' :: r).dropWhile isSpace = '\x7b' :: r := rfl
  rw [readValue?, hbrace]
  simp only [h]
  rfl

/-- No value is written without a character, so there is always a step to read it. -/
theorem Proper.readable_of_succ {l : Layout} {j : Json} (h : j.Proper)
    (hread : ∀ depth fuel rest, EndsNumber rest → 2 * (chars l depth j).length ≤ fuel + 1 →
      readValue? (fuel + 1) (chars l depth j ++ rest) = .ok (j, rest)) : Readable l j := by
  intro depth fuel rest hr hfuel
  obtain ⟨c, r, hs, -⟩ := h.exists_cons l depth
  have hlength : 0 < (chars l depth j).length := by
    rw [hs]
    exact Nat.succ_pos _
  obtain ⟨fuel, rfl⟩ : ∃ n, fuel = n + 1 := ⟨fuel - 1, by omega⟩
  exact hread depth fuel rest hr hfuel

theorem Proper.readable_arr {l : Layout} (hl : l.Lawful) {items : List Json}
    (hi : ∀ i ∈ items, i.Proper) (hread : ∀ i ∈ items, Readable l i) : Readable l (.arr items) := by
  refine (Proper.arr hi).readable_of_succ fun depth fuel rest _ hfuel => ?_
  cases items with
  | nil => rfl
  | cons i items =>
    have hfront := hl.lineBreak (depth + 1)
    simp only [chars, List.length_cons, List.length_append, List.length_nil] at hfuel
    have hitems : readItems? fuel (l.lineBreak (depth + 1) ++ chars l (depth + 1) i ++
        itemChars l (depth + 1) items ++ l.lineBreak depth ++ ']' :: rest) =
          .ok (i :: items, rest) :=
      readItems?_readable hl (hread i List.mem_cons_self)
        (fun k hk => hread k (List.mem_cons_of_mem i hk)) fuel hfront (hl.lineBreak depth)
        (by omega)
    obtain ⟨c, r, hs, hc, hne, -⟩ := (hi i List.mem_cons_self).exists_cons l (depth + 1)
    simp only [chars, List.cons_append, List.append_assoc, List.nil_append] at hitems ⊢
    refine readValue?_items (fun s hclosed => ?_) hitems
    rw [hfront.dropWhile_append, hs, List.cons_append, List.dropWhile_cons, hc,
      if_neg Bool.false_ne_true] at hclosed
    exact hne (List.cons.inj hclosed).1

theorem Proper.readable_obj {l : Layout} (hl : l.Lawful) {members : List (String × Json)}
    (hm : ∀ m ∈ members, m.2.Proper) (hread : ∀ m ∈ members, Readable l m.2) :
    Readable l (.obj members) := by
  refine (Proper.obj hm).readable_of_succ fun depth fuel rest _ hfuel => ?_
  cases members with
  | nil => rfl
  | cons m members =>
    obtain ⟨key, i⟩ := m
    have hfront := hl.lineBreak (depth + 1)
    simp only [chars, List.length_cons, List.length_append, List.length_nil] at hfuel
    have hi : Readable l i := hread (key, i) List.mem_cons_self
    have hmembers : readMembers? fuel (l.lineBreak (depth + 1) ++ stringChars key ++ l.colon ++
        chars l (depth + 1) i ++ (memberChars l (depth + 1) members ++ l.lineBreak depth ++
          '\x7d' :: rest)) = .ok ((key, i) :: members, rest) :=
      readMembers?_readable hl key hi
        (fun k hk => hread k (List.mem_cons_of_mem (key, i) hk)) fuel hfront (hl.lineBreak depth)
        (by omega)
    simp only [chars, stringChars, List.cons_append, List.append_assoc, List.nil_append]
      at hmembers ⊢
    refine readValue?_members (fun s hclosed => ?_) hmembers
    rw [hfront.dropWhile_append] at hclosed
    cases hclosed

/-- A value that a text can write is read back. -/
theorem Proper.readable {l : Layout} (hl : l.Lawful) {j : Json} (h : j.Proper) : Readable l j := by
  induction h with
  | null => exact Proper.null.readable_of_succ fun _ fuel rest _ _ => (readValue?_word fuel rest).1
  | bool b =>
    refine (Proper.bool b).readable_of_succ fun _ fuel rest _ _ => ?_
    cases b with
    | true => exact (readValue?_word fuel rest).2.1
    | false => exact (readValue?_word fuel rest).2.2
  | @int n hn =>
    refine (Proper.int hn).readable_of_succ fun _ fuel rest hr _ => ?_
    obtain ⟨c, r, hs, hc⟩ := exists_cons_intChars n
    have hread := number?_intChars hn hr
    rw [hs, List.cons_append] at hread
    rw [chars, hs, List.cons_append, readValue?_number hc, hread]
  | @number s hs =>
    refine (Proper.number hs).readable_of_succ fun _ fuel rest hr _ => ?_
    obtain ⟨c, r, hcons, hc⟩ := exists_cons_of_isNumeral hs
    have hread := number?_numeral hs hr
    rw [hcons, List.cons_append] at hread
    rw [chars, String.toList_ofList, hcons, List.cons_append, readValue?_number hc, hread]
  | str s => exact (Proper.str s).readable_of_succ fun _ fuel rest _ _ => readValue?_text fuel s rest
  | arr hi ih => exact Proper.readable_arr hl hi ih
  | obj hm ih => exact Proper.readable_obj hl hm ih

/-! ## Whole texts -/

/-- What is written is read back, with blanks behind it. -/
theorem read_write {l : Layout} (hl : l.Lawful) {j : Json} (h : j.Proper) {blank : String}
    (hb : Blank blank.toList) : read (write l j ++ blank) = some j := by
  have hends : EndsNumber blank.toList := .of_isSpace fun c hc => hb c (List.mem_of_mem_head? hc)
  have hvalue := h.readable hl 0 (2 * (chars l 0 j ++ blank.toList).length + 2) blank.toList hends
    (by rw [List.length_append]; omega)
  have hall : blank.toList.all isSpace = true := List.all_eq_true.mpr hb
  rw [read, parse, parseChars, write, String.toList_append, String.toList_ofList, hvalue]
  simp only [bind, Except.bind, hall, if_true]
  rfl

/-- No two values are written alike, not even in two layouts. -/
theorem write_injective {l l' : Layout} (hl : l.Lawful) (hl' : l'.Lawful) {i j : Json}
    (hi : i.Proper) (hj : j.Proper) (h : write l i = write l' j) : i = j := by
  have hblank : Blank "".toList := Blank.nil
  have hread := read_write hl hi hblank
  rw [h, read_write hl' hj hblank] at hread
  exact (Option.some.inj hread).symm

end DeployPlan.Json
