/-!
# Punycode

The labels of a host that are not ASCII are written with ASCII letters and digits: the ASCII
characters first, then a list of numbers that says which other characters go where. `encode` writes
a label so, `decode` reads it.
-/

namespace DeployPlan.Url.Punycode

/-- The letter or digit that stands for a number below thirty-six. -/
def digitOf (n : Nat) : Char :=
  if n < 26 then Char.ofNat (97 + n) else Char.ofNat (22 + n)

/-- The number that a letter or digit stands for. -/
def valueOf? (c : Char) : Option Nat :=
  if 'a' ≤ c ∧ c ≤ 'z' then some (c.toNat - 97)
  else if 'A' ≤ c ∧ c ≤ 'Z' then some (c.toNat - 65)
  else if '0' ≤ c ∧ c ≤ '9' then some (c.toNat - 22)
  else none

/-- The least value of a digit at position `k` after which more digits follow. -/
def threshold (bias k : Nat) : Nat :=
  max 1 (min 26 (k - bias))

theorem threshold_bounds (bias k : Nat) : 1 ≤ threshold bias k ∧ threshold bias k ≤ 26 := by
  unfold threshold
  omega

/-- A difference divided down to the size from which a bias is made, and the bias collected so
far. -/
def shrink (delta bias : Nat) : Nat × Nat :=
  if 455 < delta then shrink (delta / 35) (bias + 36) else (delta, bias)
termination_by delta
decreasing_by exact Nat.div_lt_self (by omega) (by omega)

/-- The bias for the next number, after a number `delta` that was one of `count`. -/
def adapt (delta count : Nat) (first : Bool) : Nat :=
  let delta := if first then delta / 700 else delta / 2
  let (delta, bias) := shrink (delta + delta / count) 0
  bias + 36 * delta / (delta + 38)

def writeNumber (bias k n : Nat) : List Char :=
  let t := threshold bias k
  if n < t then [digitOf n]
  else digitOf (t + (n - t) % (36 - t)) :: writeNumber bias (k + 36) ((n - t) / (36 - t))
termination_by n
decreasing_by
  have := threshold_bounds bias k
  have : (n - threshold bias k) / (36 - threshold bias k) ≤ n - threshold bias k :=
    Nat.div_le_self _ _
  omega

/-- What is known while a label is written. -/
structure Writer where
  /-- The digits so far, the last number in front. -/
  written : List (List Char)
  /-- How many positions have gone by since the last number. -/
  delta : Nat
  bias : Nat
  /-- How many characters are placed. -/
  placed : Nat

/-- Goes by one character of the label while the characters with code `n` are placed. -/
def Writer.pass (basic n : Nat) (w : Writer) (c : Char) : Writer :=
  if c.toNat < n then { w with delta := w.delta + 1 }
  else if c.toNat = n then
    { written := writeNumber w.bias 36 w.delta :: w.written
      delta := 0
      bias := adapt w.delta (w.placed + 1) (w.placed = basic)
      placed := w.placed + 1 }
  else w

/-- Places the characters of the label with the given codes, in ascending order, from code `n`
on. -/
def Writer.place (label : List Char) (basic : Nat) (n : Nat) (w : Writer) : List Nat → Writer
  | [] => w
  | code :: codes =>
    let w := { w with delta := w.delta + (code - n) * (w.placed + 1) }
    let w := label.foldl (Writer.pass basic code) w
    Writer.place label basic (code + 1) { w with delta := w.delta + 1 } codes

/-- The label in ASCII. -/
def encode (label : List Char) : List Char :=
  let basic := label.filter (·.toNat < 128)
  let codes := ((label.map Char.toNat).filter (128 ≤ ·)).mergeSort.eraseDups
  let w := Writer.place label basic.length 128 ⟨[], 0, 72, basic.length⟩ codes
  basic ++ (if basic = [] then [] else ['-']) ++ w.written.reverse.flatten

/-- The number at the start of a text, and what follows it. -/
def readNumber (bias k weight : Nat) : List Char → Option (Nat × List Char)
  | [] => none
  | c :: r => do
    let digit ← valueOf? c
    let t := threshold bias k
    if digit < t then some (digit * weight, r)
    else
      let (n, r) ← readNumber bias (k + 36) (weight * (36 - t)) r
      some (digit * weight + n, r)

/-- Puts characters into a label, as the numbers in a text say; `fuel` bounds their count. -/
def insertAll (fuel code position bias : Nat) (label s : List Char) : Option (List Char) :=
  match fuel, s with
  | _, [] => some label
  | 0, _ => none
  | fuel + 1, s => do
    let (n, r) ← readNumber bias 36 1 s
    let count := label.length + 1
    let code := code + (position + n) / count
    let place := (position + n) % count
    if 0x110000 ≤ code ∨ (0xd800 ≤ code ∧ code < 0xe000) then none
    insertAll fuel code (place + 1) (adapt n count (label.all (·.toNat < 128)))
      (label.insertIdx place (Char.ofNat code)) r

/-- The label that a text in ASCII writes. -/
def decode (s : List Char) : Option (List Char) :=
  let after := (s.reverse.takeWhile (· ≠ '-')).reverse
  let basic := s.take (s.length - after.length - 1)
  if s.any (128 ≤ ·.toNat) then none else insertAll after.length 128 0 72 basic after

end DeployPlan.Url.Punycode
