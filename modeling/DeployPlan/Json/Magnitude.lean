import DeployPlan.Json.Value
import DeployPlan.Text.Decimal

/-!
# The size of numbers

Numbers that are no integers of sixty-four bits are held as floating point numbers of that size, and
one that is too large for these is refused. `Json.isBounded` says that a value has no such number. A
number is rounded as it is read: its first digits, as many as fit into sixty-four bits, times a
power of ten, each of the two with fifty-three bits.
-/

namespace DeployPlan.Json

/-- The number that digits in front add to `n` as long as it stays below 2^64, and what follows. -/
def significand (n : Nat) : List Char → Nat × List Char
  | [] => (n, [])
  | c :: r =>
    let more := 10 * n + (c.toNat - 48)
    if Text.isDigit c ∧ more < 0x10000000000000000 then significand more r else (n, c :: r)

/-- A number rounded to fifty-three bits, a half to the even neighbour. -/
def round53 (n : Nat) : Nat :=
  let step := 1 <<< (n.log2 - 52)
  let quotient := n / step
  let twice := 2 * (n % step)
  (if step < twice ∨ (twice = step ∧ quotient % 2 = 1) then quotient + 1 else quotient) * step

/-- The least number that rounds to infinity. -/
def infinity : Nat := (1 <<< 1024) - (1 <<< 970)

/-- The greatest power of ten that is below infinity. -/
def greatestPower : Int := 308

def powerOfTen : List Char → Int
  | _ :: '-' :: digits => -Text.digitsValue digits
  | _ :: '+' :: digits | _ :: digits => Text.digitsValue digits
  | [] => 0

/-- Whether a number is too large, written without its sign. -/
def isInfinite (s : List Char) : Bool :=
  let (n, s) := significand 0 s
  let skipped := (s.takeWhile Text.isDigit).length
  let (n, used, s) := match s.dropWhile Text.isDigit with
    | '.' :: r =>
      let (n, rest) := significand n r
      (n, r.length - rest.length, rest.dropWhile Text.isDigit)
    | s => (n, 0, s)
  let power := skipped - used + powerOfTen s
  n != 0 && (greatestPower < power ||
    (0 ≤ power && infinity ≤ round53 n * round53 (Nat.pow 10 power.toNat)))

mutual

/-- Whether no number in a value is too large. -/
def isBounded : Json → Bool
  | .number written => !isInfinite (written.toList.dropWhile (· == '-'))
  | .arr items => areItemsBounded items
  | .obj members => areMembersBounded members
  | _ => true

/-- Whether no number in items is too large. -/
def areItemsBounded : List Json → Bool
  | [] => true
  | j :: items => j.isBounded && areItemsBounded items

/-- Whether no number in the values of members is too large. -/
def areMembersBounded : List (String × Json) → Bool
  | [] => true
  | (_, j) :: members => j.isBounded && areMembersBounded members

end

end DeployPlan.Json
