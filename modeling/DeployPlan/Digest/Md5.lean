/-!
# MD5

The message digest that turns any text into a name of thirty-two hexadecimal digits.
-/

namespace DeployPlan.Digest

/-- The four words that the digest is computed in. -/
structure Words where
  a : UInt32
  b : UInt32
  c : UInt32
  d : UInt32
  deriving DecidableEq, Repr

def Words.start : Words := ⟨0x67452301, 0xefcdab89, 0x98badcfe, 0x10325476⟩

/-- The constant of each of the sixty-four steps: the fraction of the sine of the step's number. -/
def sines : List UInt32 := [
  0xd76aa478, 0xe8c7b756, 0x242070db, 0xc1bdceee, 0xf57c0faf, 0x4787c62a, 0xa8304613, 0xfd469501,
  0x698098d8, 0x8b44f7af, 0xffff5bb1, 0x895cd7be, 0x6b901122, 0xfd987193, 0xa679438e, 0x49b40821,
  0xf61e2562, 0xc040b340, 0x265e5a51, 0xe9b6c7aa, 0xd62f105d, 0x02441453, 0xd8a1e681, 0xe7d3fbc8,
  0x21e1cde6, 0xc33707d6, 0xf4d50d87, 0x455a14ed, 0xa9e3e905, 0xfcefa3f8, 0x676f02d9, 0x8d2a4c8a,
  0xfffa3942, 0x8771f681, 0x6d9d6122, 0xfde5380c, 0xa4beea44, 0x4bdecfa9, 0xf6bb4b60, 0xbebfbc70,
  0x289b7ec6, 0xeaa127fa, 0xd4ef3085, 0x04881d05, 0xd9d4d039, 0xe6db99e5, 0x1fa27cf8, 0xc4ac5665,
  0xf4292244, 0x432aff97, 0xab9423a7, 0xfc93a039, 0x655b59c3, 0x8f0ccc92, 0xffeff47d, 0x85845dd1,
  0x6fa87e4f, 0xfe2ce6e0, 0xa3014314, 0x4e0811a1, 0xf7537e82, 0xbd3af235, 0x2ad7d2bb, 0xeb86d391]

/-- How far the steps of each round rotate. -/
def rotations : List (List UInt32) :=
  [[7, 12, 17, 22], [5, 9, 14, 20], [4, 11, 16, 23], [6, 10, 15, 21]]

/-- The word with its bits moved to the left, those that fall out coming back on the right. -/
def rotateLeft (x n : UInt32) : UInt32 :=
  (x <<< n) ||| (x >>> (32 - n))

/-- The words mixed in a step, and the number of the block's word that goes in. -/
def mix (i : Nat) (w : Words) : UInt32 × Nat :=
  match i / 16 with
  | 0 => ((w.b &&& w.c) ||| (~~~w.b &&& w.d), i)
  | 1 => ((w.d &&& w.b) ||| (~~~w.d &&& w.c), (5 * i + 1) % 16)
  | 2 => (w.b ^^^ w.c ^^^ w.d, (3 * i + 5) % 16)
  | _ => (w.c ^^^ (w.b ||| ~~~w.d), (7 * i) % 16)

/-- One step with its constant. -/
def step (block : List UInt32) (w : Words) (i : Nat) (sine : UInt32) : Words :=
  let (f, g) := mix i w
  let turn := ((rotations[i / 16]?).bind (·[i % 4]?)).getD 0
  ⟨w.d, w.b + rotateLeft (w.a + f + sine + block[g]?.getD 0) turn, w.b, w.c⟩

/-- The words after a block of sixteen words. -/
def absorb (w : Words) (block : List UInt32) : Words :=
  let m := sines.zipIdx.foldl (fun m (sine, i) => step block m i sine) w
  ⟨w.a + m.a, w.b + m.b, w.c + m.c, w.d + m.d⟩

/-- The bytes of `n` from the lowest one on, `count` of them. -/
def littleEndian (count n : Nat) : List UInt8 :=
  (List.range count).map fun i => UInt8.ofNat (n >>> (8 * i))

/-- The word that four bytes make, lowest one first. -/
def wordOf (bytes : List UInt8) : UInt32 :=
  bytes.foldr (fun b n => n * 256 + b.toUInt32) 0

/-- The list in pieces of `size`, the last one shorter if it has to be. -/
def chunks {α : Type} (size : Nat) (l : List α) : List (List α) :=
  if _h : size = 0 ∨ l = [] then []
  else l.take size :: chunks size (l.drop size)
termination_by l.length
decreasing_by
  simp only [not_or] at _h
  have := List.length_pos_iff.2 _h.2
  simp only [List.length_drop]
  omega

/-- The message with a mark after it, zeros up to the end of a block, and its length in bits. -/
def padded (message : List UInt8) : List UInt8 :=
  let zeros := (119 - message.length % 64) % 64
  message ++ 0x80 :: List.replicate zeros 0 ++ littleEndian 8 (8 * message.length)

def hexByte (b : UInt8) : List Char :=
  [Nat.digitChar (b.toNat / 16), Nat.digitChar (b.toNat % 16)]

/-- The digest of a text, taken over its bytes in UTF-8. -/
def md5 (text : String) : String :=
  let blocks := (chunks 64 (padded text.toUTF8.toList)).map fun b => (chunks 4 b).map wordOf
  let w := blocks.foldl absorb .start
  String.ofList <|
    [w.a, w.b, w.c, w.d].flatMap fun x => (littleEndian 4 x.toNat).flatMap hexByte

end DeployPlan.Digest
