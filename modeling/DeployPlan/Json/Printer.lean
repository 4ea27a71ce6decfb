import DeployPlan.Json.Value
import DeployPlan.Text.Decimal
import DeployPlan.Text.Quoted

/-!
# Writing JSON

`Json.write` renders a value in one of two layouts: `compact` without any blank, and `pretty` with
an item or member on each line, two spaces deeper than what holds it.
-/

namespace DeployPlan.Json

/-- Where blanks go between the parts of a value. -/
structure Layout where
  /-- What stands before an item at a depth, and before the bracket that closes that depth. -/
  lineBreak : Nat → List Char
  /-- What stands between a name and its value. -/
  colon : List Char

/-- No blanks. -/
def compact : Layout := ⟨fun _ => [], [':']⟩

/-- One item a line, two spaces for each level. -/
def pretty : Layout := ⟨fun depth => '\n' :: List.replicate (2 * depth) ' ', [':', ' ']⟩

/-- A character inside a string. Quotation marks, backslashes and the controls below the space are
escaped. -/
def stringChar (c : Char) : List Char :=
  if c = '"' then ['\\', '"']
  else if c = '\\' then ['\\', '\\']
  else if c = '\n' then ['\\', 'n']
  else if c = '\r' then ['\\', 'r']
  else if c = '\t' then ['\\', 't']
  else if c = '\x08' then ['\\', 'b']
  else if c = '\x0c' then ['\\', 'f']
  else if c.toNat < 0x20 then
    ['\\', 'u', '0', '0', Nat.digitChar (c.toNat / 16), Nat.digitChar (c.toNat % 16)]
  else [c]

def stringChars (s : String) : List Char :=
  '"' :: s.toList.flatMap stringChar ++ ['"']

/-- The digits of an integer, with a minus sign if it is negative. -/
def intChars (n : Int) : List Char :=
  if n < 0 then '-' :: Text.decimal n.natAbs else Text.decimal n.natAbs

mutual

/-- The text of a value that stands at the given depth. -/
def chars (l : Layout) (depth : Nat) : Json → List Char
  | .null => ['n', 'u', 'l', 'l']
  | .bool true => ['t', 'r', 'u', 'e']
  | .bool false => ['f', 'a', 'l', 's', 'e']
  | .int n => intChars n
  | .number written => written.toList
  | .str s => stringChars s
  | .arr [] => ['[', ']']
  | .arr (j :: items) =>
    '[' :: l.lineBreak (depth + 1) ++ chars l (depth + 1) j ++ itemChars l (depth + 1) items ++
      l.lineBreak depth ++ [']']
  | .obj [] => ['\x7b', '\x7d']
  | .obj ((key, j) :: members) =>
    '\x7b' :: l.lineBreak (depth + 1) ++ stringChars key ++ l.colon ++ chars l (depth + 1) j ++
      memberChars l (depth + 1) members ++ l.lineBreak depth ++ ['\x7d']

def itemChars (l : Layout) (depth : Nat) : List Json → List Char
  | [] => []
  | j :: items => ',' :: l.lineBreak depth ++ chars l depth j ++ itemChars l depth items

def memberChars (l : Layout) (depth : Nat) : List (String × Json) → List Char
  | [] => []
  | (key, j) :: members =>
    ',' :: l.lineBreak depth ++ stringChars key ++ l.colon ++ chars l depth j ++
      memberChars l depth members

end

/-- The text of a value. -/
def write (l : Layout) (j : Json) : String :=
  String.ofList (chars l 0 j)

end DeployPlan.Json
