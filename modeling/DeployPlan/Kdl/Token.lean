import DeployPlan.Kdl.Document
import DeployPlan.Text.Decimal

/-!
# Tokens of a node document

`Kdl.tokens` cuts the text of a document into tokens. Comments between tokens and line ends that are
taken back by a backslash count as blanks; the mark that discards what follows is a token of its
own.
-/

namespace DeployPlan.Kdl

/-- A token. -/
inductive Token
  | space
  | newline
  /-- A text, quoted or bare. -/
  | text (s : List Char)
  /-- A number or a word that stands for a value. -/
  | value (v : Value)
  | openBrace
  | closeBrace
  | openParen
  | closeParen
  | equals
  | semicolon
  /-- The mark that takes back what follows it. -/
  | discard
  deriving DecidableEq, Repr

/-- A blank inside a line. -/
def isSpace (c : Char) : Bool :=
  let n := c.toNat
  n == 9 || n == 0x20 || n == 0xa0 || n == 0x1680 || (0x2000 ≤ n && n ≤ 0x200a) || n == 0x202f ||
    n == 0x205f || n == 0x3000

def isNewline (c : Char) : Bool :=
  let n := c.toNat
  (0xa ≤ n && n ≤ 0xd) || n == 0x85 || n == 0x2028 || n == 0x2029

/-- A character that no document may hold as it is. -/
def isDisallowed (c : Char) : Bool :=
  let n := c.toNat
  n ≤ 8 || (0xe ≤ n && n ≤ 0x1f) || (0x200e ≤ n && n ≤ 0x200f) || (0x202a ≤ n && n ≤ 0x202e) ||
    (0x2066 ≤ n && n ≤ 0x2069) || n == 0xfeff

/-- A character of a bare text. -/
def isBare (c : Char) : Bool :=
  !isSpace c && !isNewline c && !isDisallowed c && !"\\/()\x7b\x7d;[]\"#=".toList.contains c

/-- A line end as it is in all texts: one line feed. -/
def dropNewline : List Char → Option (List Char)
  | '\r' :: '\n' :: r => some r
  | c :: r => if isNewline c then some r else none
  | [] => none

/-- What follows the comment of which `depth` beginnings are open. -/
def closeComment (depth : Nat) : List Char → Option (List Char)
  | '*' :: '/' :: r =>
    match depth with
    | 0 | 1 => some r
    | depth + 1 => closeComment depth r
  | '/' :: '*' :: r => closeComment (depth + 1) r
  | _ :: r => closeComment depth r
  | [] => none

/-! ## Numbers -/

/-- Whether digits of a base follow, with low lines between them. -/
def isDigits (isDigit : Char → Bool) : List Char → Bool
  | [] => false
  | c :: r => isDigit c && r.all fun d => isDigit d || d == '_'

/-- The value of digits in a base, low lines left out. -/
def digitsIn (base : Nat) (s : List Char) : Nat :=
  (s.filter (· ≠ '_')).foldl (fun n c => n * base + (Text.hexValue? c).getD 0) 0

/-- Whether a whole number fits into a hundred and twenty-eight bits. -/
def fits (negative : Bool) (n : Nat) : Bool :=
  let limit := 0x80000000000000000000000000000000
  if negative then n ≤ limit else n < limit

/-- Whether a text is a whole number in a base, after its mark. -/
def isWhole (base : Nat) (negative : Bool) (s : List Char) : Bool :=
  isDigits (fun c => (Text.hexValue? c).any (· < base)) s && fits negative (digitsIn base s)

/-- A power of ten after its letter, or nothing. -/
def isPower (s : List Char) : Bool :=
  match s with
  | [] => true
  | e :: r => (e == 'e' || e == 'E') &&
    match r with
    | '+' :: r | '-' :: r => isWhole 10 false r
    | r => isWhole 10 false r

/-- A number in base ten without its sign. Each run of its digits has to fit. -/
def isDecimal (negative : Bool) (s : List Char) : Bool :=
  let inWhole (c : Char) : Bool := Text.isDigit c || c == '_'
  isWhole 10 negative (s.takeWhile inWhole) &&
    match s.dropWhile inWhole with
    | '.' :: r => isWhole 10 false (r.takeWhile inWhole) && isPower (r.dropWhile inWhole)
    | r => isPower r

/-- A number without its sign. Only the letter of base eight may be a capital, and base two does not
reach the least number. -/
def isUnsigned (negative : Bool) : List Char → Bool
  | '0' :: 'x' :: r => isWhole 16 negative r
  | '0' :: 'o' :: r | '0' :: 'O' :: r => isWhole 8 negative r
  | '0' :: 'b' :: r => isWhole 2 false r
  | s => isDecimal negative s

/-- The token that a run of bare characters makes. What starts like a number has to be one, and the
words for values need their mark. -/
def bareToken (run : List Char) : Option Token :=
  let (negative, unsigned) := match run with
    | '-' :: r => (true, r)
    | '+' :: r => (false, r)
    | r => (false, r)
  match unsigned with
  | c :: r =>
    if Text.isDigit c then
      if isUnsigned negative unsigned then some (.value (.number (String.ofList run))) else none
    else if c = '.' ∧ r.head?.any Text.isDigit then none
    else if ["true", "false", "null", "inf", "nan"].contains (String.ofList run) then none
    else some (.text run)
  | [] => some (.text run)

/-- The words that stand for values after their mark. -/
def keywords : List (String × Value) :=
  [("true", .bool true), ("false", .bool false), ("null", .null)] ++
    ["inf", "-inf", "nan"].map fun word => (word, .number word)

/-- The value of the word in front, and what follows the word. -/
def keyword (s : List Char) : Option (Value × List Char) :=
  keywords.findSome? fun (word, v) => (Text.stripLead? word.toList s).map (v, ·)

/-! ## Quoted texts -/

/-- The character that a letter after a backslash stands for. -/
def escaped? : Char → Option Char
  | '"' => some '"'
  | '\\' => some '\\'
  | 'b' => some '\x08'
  | 'f' => some '\x0c'
  | 'n' => some '\n'
  | 'r' => some '\r'
  | 't' => some '\t'
  | 's' => some ' '
  | _ => none

/-- The character with the code that some digits write. -/
def codeChar? (digits : List Char) : Option Char :=
  let n := digitsIn 16 digits
  if digits ≠ [] ∧ digits.length ≤ 6 ∧ digits.all (Text.hexValue? · |>.isSome) ∧ n.isValidChar then
    some (Char.ofNat n)
  else none

/-- The text with its escapes replaced by what they stand for. -/
def unescape : Nat → List Char → Option (List Char)
  | _, [] => some []
  | 0, _ => none
  | fuel + 1, '\\' :: 'u' :: '\x7b' :: r =>
    match Text.cut '\x7d' r with
    | none => none
    | some (digits, rest) => do
      let c ← codeChar? digits
      return c :: (← unescape fuel rest)
  | fuel + 1, '\\' :: c :: r =>
    if isSpace c ∨ isNewline c then unescape fuel (r.dropWhile fun d => isSpace d || isNewline d)
    else do
      let e ← escaped? c
      return e :: (← unescape fuel r)
  | fuel + 1, c :: r => if c = '\\' then none else (unescape fuel r).map (c :: ·)

/-- The text without the blanks and line ends after a backslash; other escapes stay. -/
def foldLines : Nat → List Char → List Char
  | 0, s => s
  | _, [] => []
  | fuel + 1, '\\' :: c :: r =>
    if isSpace c ∨ isNewline c then foldLines fuel (r.dropWhile fun d => isSpace d || isNewline d)
    else '\\' :: c :: foldLines fuel r
  | fuel + 1, c :: r => c :: foldLines fuel r

/-- The text with every line end made a line feed. -/
def normalLines : List Char → List Char
  | '\r' :: '\n' :: r => '\n' :: normalLines r
  | c :: r => (if isNewline c then '\n' else c) :: normalLines r
  | [] => []

/-- The text up to `close`, and what follows that. With `escapes`, a character after a backslash
does not count. -/
def upTo (close : List Char) (escapes : Bool) : List Char → Option (List Char × List Char)
  | [] => none
  | c :: r =>
    match Text.stripLead? close (c :: r) with
    | some rest => some ([], rest)
    | none =>
      if escapes ∧ c = '\\' then
        match r with
        | d :: r => (upTo close escapes r).map fun (a, b) => (c :: d :: a, b)
        | [] => none
      else (upTo close escapes r).map fun (a, b) => (c :: a, b)

/-- The lines of a quoted text of several lines, without the indentation that its last line
shows. -/
def dedent (body : List Char) : Option (List Char) := do
  let lines := Text.splitOn '\n' body
  let indent ← lines.getLast?
  if !indent.all isSpace then none
  let lines ← lines.dropLast.mapM fun line =>
    if line.all isSpace then some [] else Text.stripLead? indent line
  return Text.joinWith '\n' lines

/-- A text of several lines, from its opening line end on. -/
def multiline (escapes : Bool) (body : List Char) : Option (List Char) := do
  let body := normalLines body
  match body with
  | '\n' :: inner =>
    let text ← dedent (if escapes then foldLines inner.length inner else inner)
    if escapes then unescape text.length text else some text
  | _ => none

/-- What follows the second and third of the marks that open several lines. Without escapes, marks
are part of a text in one line unless its line ends after them. -/
def opensLines (escapes : Bool) : List Char → Option (List Char)
  | '"' :: '"' :: r => if escapes ∨ r.head?.any isNewline then some r else none
  | _ => none

/-- A quoted text after its opening quotation mark, with `marks` number signs before it. -/
def quoted (marks : Nat) (s : List Char) : Option (List Char × List Char) := do
  let escapes := marks = 0
  let signs := List.replicate marks '#'
  match opensLines escapes s with
  | some r =>
    let (body, rest) ← upTo ('"' :: '"' :: '"' :: signs) escapes r
    if body.any isDisallowed then none
    return (← multiline escapes body, rest)
  | none =>
    let (body, rest) ← upTo ('"' :: signs) escapes s
    if body.any isDisallowed then none
    if escapes then
      if (foldLines body.length body).any isNewline then none
      return (← unescape body.length body, rest)
    else if body.any isNewline ∨ body = ['"'] then none
    else return (body, rest)

/-! ## All tokens -/

/-- What follows a backslash that takes back the end of its line. -/
def joinLine : Nat → List Char → Option (List Char)
  | _, [] => some []
  | 0, _ => none
  | fuel + 1, '/' :: '*' :: r => (closeComment 1 r).bind (joinLine fuel)
  | _ + 1, '/' :: '/' :: r =>
    let r := r.dropWhile (!isNewline ·)
    some ((dropNewline r).getD r)
  | fuel + 1, c :: r => if isSpace c then joinLine fuel r else dropNewline (c :: r)

/-- One token, or nothing for a comment, and what follows it. -/
def step (s : List Char) : Option (List Token × List Char) :=
  match s with
  | [] => none
  | '\x7b' :: r => some ([.openBrace], r)
  | '\x7d' :: r => some ([.closeBrace], r)
  | '(' :: r => some ([.openParen], r)
  | ')' :: r => some ([.closeParen], r)
  | '=' :: r => some ([.equals], r)
  | ';' :: r => some ([.semicolon], r)
  | '/' :: '-' :: r => some ([.discard], r)
  | '/' :: '/' :: r => some ([], r.dropWhile (!isNewline ·))
  | '/' :: '*' :: r => (closeComment 1 r).map fun rest => ([.space], rest)
  | '\\' :: r => (joinLine r.length r).map fun rest => ([.space], rest)
  | '"' :: r => (quoted 0 r).map fun (t, rest) => ([.text t], rest)
  | '#' :: r =>
    let signs := r.takeWhile (· == '#')
    match r.dropWhile (· == '#') with
    | '"' :: r => (quoted (signs.length + 1) r).map fun (t, rest) => ([.text t], rest)
    | r => if signs = [] then (keyword r).map fun (v, rest) => ([.value v], rest) else none
  | c :: r =>
    if isSpace c then some ([.space], r)
    else
      match dropNewline (c :: r) with
      | some rest => some ([.newline], rest)
      | none =>
        match (c :: r).takeWhile isBare with
        | [] => none
        | run => (bareToken run).map fun t => ([t], (c :: r).dropWhile isBare)

/-- All tokens of a text; `fuel` bounds their number. -/
def tokensFrom : Nat → List Char → Option (List Token)
  | _, [] => some []
  | 0, _ => none
  | fuel + 1, s => do
    let (ts, rest) ← step s
    return ts ++ (← tokensFrom fuel rest)

/-- A token after which a blank has to stand before the next value. -/
def Token.isOpenEnded : Token → Bool
  | .text _ | .value (.number _) => true
  | _ => false

/-- A token that begins a value, or takes one back. -/
def Token.beginsValue : Token → Bool
  | .text _ | .value _ | .openParen | .discard => true
  | _ => false

/-- Whether blanks stand wherever they have to. -/
def isSpaced : List Token → Bool
  | a :: b :: ts => !(a.isOpenEnded && b.beginsValue) && isSpaced (b :: ts)
  | _ => true

/-- The tokens of a document, which may start with a byte order mark. -/
def tokens (s : List Char) : Option (List Token) :=
  let s := match s with
    | '\ufeff' :: r => r
    | s => s
  (tokensFrom s.length s).filter isSpaced

end DeployPlan.Kdl
