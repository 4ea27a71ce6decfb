import DeployPlan.Text.Pieces
import DeployPlan.Url.Percent

/-!
# Numeric addresses

Hosts that are numbers: four bytes with dots (also in base eight or sixteen, and with fewer dots),
or eight groups in brackets, of which one run of zeros may be left out.
-/

namespace DeployPlan.Url

/-- The number in a text in a base up to sixteen, if all its characters are digits of that base. -/
def readInBase (base : Nat) (s : List Char) : Option Nat :=
  s.foldlM (fun n c => do
    let d ← Text.hexValue? c
    if d < base then some (n * base + d) else none) 0

/-- A number of an address: in base sixteen after `0x`, in base eight after another zero in
front. -/
def addressNumber : List Char → Option Nat
  | [] => none
  | '0' :: 'x' :: r | '0' :: 'X' :: r => readInBase 16 r
  | '0' :: c :: r => readInBase 8 (c :: r)
  | s => readInBase 10 s

/-- The parts of a host between dots, without the empty part after a last dot. -/
def hostParts (s : List Char) : List (List Char) :=
  let parts := Text.splitOn '.' s
  if parts.length > 1 ∧ parts.getLast? = some [] then parts.dropLast else parts

/-- Whether a host has to be read as a numeric address, because its last part is a number. -/
def endsInNumber (s : List Char) : Bool :=
  match (hostParts s).getLast? with
  | some [] | none => false
  | some part => part.all Text.isDigit || (addressNumber part).isSome

/-- The address that up to four numbers make: the last one fills all the bytes that are left. -/
def readIPv4 (s : List Char) : Option UInt32 := do
  let numbers ← (hostParts s).mapM addressNumber
  if numbers.length > 4 then none
  let last ← numbers.getLast?
  let front := numbers.dropLast
  if front.any (· > 255) ∨ last ≥ 1 <<< (8 * (4 - front.length)) then none
  some (UInt32.ofNat (front.zipIdx.foldl (fun n (b, i) => n + b <<< (8 * (3 - i))) last))

/-- Four numbers with dots between them. -/
def writeIPv4 (a : UInt32) : List Char :=
  Text.joinWith '.' ([3, 2, 1, 0].map fun i => Text.decimal ((a.toNat >>> (8 * i)) % 256))

/-- A byte in base ten, without a zero in front. -/
def readByte (s : List Char) : Option Nat :=
  match s with
  | '0' :: _ :: _ => none
  | s => (Text.readDecimal s).bind fun n => if n ≤ 255 then some n else none

/-- The two groups that four bytes with dots make. -/
def readTail (s : List Char) : Option (List Nat) := do
  match ← (Text.splitOn '.' s).mapM readByte with
  | [a, b, c, d] => some [a * 256 + b, c * 256 + d]
  | _ => none

/-- The groups of an address: up to four digits each, with colons between them; four bytes with dots
may stand in place of the last two. -/
def readGroups : List (List Char) → Option (List Nat)
  | [] => some []
  | [last] =>
    if last.contains '.' then readTail last
    else (readGroup last).map fun n => [n]
  | group :: rest => do
    let n ← readGroup group
    (← readGroups rest) |> (n :: ·) |> some
where
  readGroup (s : List Char) : Option Nat :=
    if s = [] ∨ s.length > 4 then none else readInBase 16 s

/-- The text before and after the first double colon. -/
def cutGap : List Char → Option (List Char × List Char)
  | ':' :: ':' :: r => some ([], r)
  | c :: r => (cutGap r).map fun (a, b) => (c :: a, b)
  | [] => none

/-- The groups in a text between colons; none in an empty text. -/
def groupsIn (s : List Char) : Option (List Nat) :=
  if s = [] then some [] else readGroups (Text.splitOn ':' s)

/-- The eight groups of an address. A double colon stands for the zeros that are missing. -/
def readIPv6 (s : List Char) : Option (List Nat) :=
  match cutGap s with
  | none => do
    let groups ← groupsIn s
    if groups.length = 8 then some groups else none
  | some (front, back) => do
    if front.contains '.' then none
    let front ← groupsIn front
    let back ← groupsIn back
    let known := front.length + back.length
    if known ≤ 7 then some (front ++ List.replicate (8 - known) 0 ++ back) else none

/-- The place and the length of the longest run of zeros in a list, the first one of equals. -/
def longestZeros (groups : List Nat) : Nat × Nat :=
  let runAt (i : Nat) : Nat := ((groups.drop i).takeWhile (· == 0)).length
  (List.range groups.length).foldl
    (fun best i => if runAt i > best.2 then (i, runAt i) else best) (0, 0)

/-- Groups with colons between them, the longest run of at least two zeros left out. -/
def writeIPv6 (groups : List Nat) : List Char :=
  let write (gs : List Nat) : List Char := Text.joinWith ':' (gs.map (Nat.toDigits 16))
  let (start, length) := longestZeros groups
  if length < 2 then write groups
  else write (groups.take start) ++ [':', ':'] ++ write (groups.drop (start + length))

end DeployPlan.Url
