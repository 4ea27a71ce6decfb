import DeployPlan.Text.SpacingMark

/-!
# Direction of writing

The direction in which characters are written. A label of a name is legible beside others
(`isLegible`) if it runs in one direction from its first to its last character.
-/

namespace DeployPlan.Text

/-- The directions of characters. -/
inductive Direction
  | left
  | right
  /-- A digit that goes with both directions. -/
  | number
  /-- A digit that goes with right to left only. -/
  | arabicNumber
  /-- A mark, which has the direction of its character. -/
  | nonspacing
  /-- A sign, which has the direction of its surroundings. -/
  | neutral
  deriving DecidableEq, Repr

/-- The characters that names may have and that do not follow the rule: first, last, and the
direction of all of them. -/
def directions : List (Nat × Nat × Direction) :=
  [(0x21, 0x2f, .neutral), (0x30, 0x39, .number), (0x3a, 0x40, .neutral), (0x5b, 0x60, .neutral),
   (0x7b, 0xd7, .neutral), (0xf7, 0xf7, .neutral), (0x2b9, 0x2ba, .neutral),
   (0x2c2, 0x2cf, .neutral), (0x2d2, 0x2ed, .neutral), (0x2ef, 0x2ff, .neutral),
   (0x375, 0x375, .neutral), (0x3f6, 0x3f6, .neutral), (0x58a, 0x58f, .neutral),
   (0x5be, 0x5be, .right), (0x5c0, 0x5c0, .right), (0x5c3, 0x5c3, .right), (0x5c6, 0x5c6, .right),
   (0x5d0, 0x5f4, .right), (0x606, 0x607, .neutral), (0x608, 0x608, .right),
   (0x609, 0x60a, .neutral), (0x60b, 0x60b, .right), (0x60c, 0x60c, .neutral),
   (0x60d, 0x60d, .right), (0x60e, 0x60f, .neutral), (0x61b, 0x64a, .right),
   (0x660, 0x669, .arabicNumber), (0x66a, 0x66a, .neutral), (0x66b, 0x66c, .arabicNumber),
   (0x66d, 0x66f, .right), (0x671, 0x6d5, .right), (0x6de, 0x6de, .neutral), (0x6e5, 0x6e6, .right),
   (0x6e9, 0x6e9, .neutral), (0x6ee, 0x6ef, .right), (0x6f0, 0x6f9, .number),
   (0x6fa, 0x710, .right), (0x712, 0x72f, .right), (0x74d, 0x7a5, .right), (0x7b1, 0x7ea, .right),
   (0x7f4, 0x7f5, .right), (0x7f6, 0x7f9, .neutral), (0x7fa, 0x7fa, .right), (0x7fe, 0x815, .right),
   (0x81a, 0x81a, .right), (0x824, 0x824, .right), (0x828, 0x828, .right), (0x830, 0x858, .right),
   (0x85e, 0x88f, .right), (0x8a0, 0x8c9, .right), (0x9f2, 0x9f3, .neutral),
   (0x9fb, 0x9fb, .neutral), (0xaf1, 0xaf1, .neutral), (0xbf3, 0xbfa, .neutral),
   (0xc78, 0xc7e, .neutral), (0xcbf, 0xcbf, .left), (0xcc6, 0xcc6, .left), (0xe3f, 0xe3f, .neutral),
   (0xf3a, 0xf3d, .neutral), (0x1390, 0x1399, .neutral), (0x1400, 0x1400, .neutral),
   (0x169b, 0x169c, .neutral), (0x17db, 0x17db, .neutral), (0x17f0, 0x180a, .neutral),
   (0x1940, 0x1945, .neutral), (0x19de, 0x19ff, .neutral), (0x200c, 0x20c1, .neutral),
   (0x2104, 0x214d, .neutral), (0x218a, 0x2335, .neutral), (0x237b, 0x2394, .neutral),
   (0x2396, 0x26ab, .neutral), (0x26ad, 0x27ff, .neutral), (0x2900, 0x2bff, .neutral),
   (0x2ce5, 0x2cea, .neutral), (0x2cf9, 0x2cff, .neutral), (0x2e00, 0x3004, .neutral),
   (0x3008, 0x3020, .neutral), (0x3030, 0x3030, .neutral), (0x3037, 0x3037, .neutral),
   (0x303d, 0x303f, .neutral), (0x30a0, 0x30a0, .neutral), (0x30fb, 0x30fb, .neutral),
   (0x31c0, 0x31e5, .neutral), (0x4dc0, 0x4dff, .neutral), (0xa490, 0xa4c6, .neutral),
   (0xa60d, 0xa60f, .neutral), (0xa673, 0xa673, .neutral), (0xa67e, 0xa67f, .neutral),
   (0xa700, 0xa721, .neutral), (0xa788, 0xa788, .neutral), (0xa828, 0xa82b, .neutral),
   (0xa838, 0xa839, .neutral), (0xa874, 0xa877, .neutral), (0xab6a, 0xab6b, .neutral),
   (0xfbb2, 0xfbc2, .right), (0xfbc3, 0xfdff, .neutral), (0xfe45, 0xfe46, .neutral),
   (0xfe73, 0xfe73, .right), (0x10101, 0x10101, .neutral), (0x10140, 0x1018c, .neutral),
   (0x10190, 0x101a0, .neutral), (0x102e1, 0x102fb, .number), (0x10800, 0x1091b, .right),
   (0x1091f, 0x1091f, .neutral), (0x10920, 0x10a00, .right), (0x10a10, 0x10a35, .right),
   (0x10a40, 0x10ae4, .right), (0x10aeb, 0x10b35, .right), (0x10b39, 0x10b3f, .neutral),
   (0x10b40, 0x10d23, .right), (0x10d30, 0x10d39, .arabicNumber), (0x10d40, 0x10d4f, .right),
   (0x10d6e, 0x10d6e, .neutral), (0x10d6f, 0x10d8f, .right), (0x10e60, 0x10e7e, .arabicNumber),
   (0x10e80, 0x10ea9, .right), (0x10ead, 0x10ed0, .right), (0x10ed1, 0x10ed8, .neutral),
   (0x10f00, 0x10f45, .right), (0x10f51, 0x10f81, .right), (0x10f86, 0x10ff6, .right),
   (0x11052, 0x11065, .neutral), (0x11660, 0x1166c, .neutral), (0x1171e, 0x1171e, .nonspacing),
   (0x11a07, 0x11a08, .left), (0x11c3f, 0x11c3f, .left), (0x11fd5, 0x11ff1, .neutral),
   (0x16fe2, 0x16fe2, .neutral), (0x1cc00, 0x1cef0, .neutral), (0x1d1e9, 0x1d241, .neutral),
   (0x1d245, 0x1d245, .neutral), (0x1d300, 0x1d356, .neutral), (0x1e2ff, 0x1e2ff, .neutral),
   (0x1e800, 0x1e8cf, .right), (0x1e922, 0x1e943, .right), (0x1e94b, 0x1ed3d, .right),
   (0x1eef0, 0x1f12f, .neutral), (0x1f16d, 0x1f16f, .neutral), (0x1f1ad, 0x1f1ad, .neutral),
   (0x1f260, 0x1fbfa, .neutral)]

/-- The direction of a character: marks go along, and what is not listed is written from left to
right. -/
def direction (c : Char) : Direction :=
  (rangeValue c.toNat directions).getD (if isNonspacing c then .nonspacing else .left)

def turnsRight (c : Char) : Bool :=
  direction c == .right || direction c == .arabicNumber

/-- Whether a label runs in one direction. Its first character gives the direction, which the last
one before any marks has to have; digits may end it as well. From right to left, digits of one kind
only may be used. -/
def isLegible (label : List Char) : Bool :=
  let ds := label.map direction
  let last := ds.reverse.find? (· != .nonspacing)
  match ds.head? with
  | none => true
  | some .left =>
    ds.all (fun d => d != .right && d != .arabicNumber) &&
      (last == some .left || last == some .number)
  | some .right =>
    ds.all (· != .left) && !(ds.contains .number && ds.contains .arabicNumber) &&
      (last == some .right || last == some .number || last == some .arabicNumber)
  | _ => false

end DeployPlan.Text
