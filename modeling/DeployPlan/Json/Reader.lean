import DeployPlan.Json.Value
import DeployPlan.Text.Decimal
import DeployPlan.Text.Pieces

/-!
# Reading JSON

`Json.parse` takes a text to the value that it writes, and refuses everything that is not JSON: it
tells a text that breaks off from one that no further text could complete. `Json.read` gives only
the value. A part is read together with what follows it. The reader goes down with a budget that the
length of the text provides: it takes no more than two steps for a character.
-/

namespace DeployPlan.Json

/-- Why a text is not JSON. -/
inductive Fault
  /-- The text ends where more has to come. -/
  | unfinished
  /-- Something stands where it may not stand. -/
  | malformed
  deriving DecidableEq, Repr

/-- Nothing can be read here: the text is at its end, or goes on with the wrong character. -/
def faultAt : List Char → Fault
  | [] => .unfinished
  | _ :: _ => .malformed

/-- A blank between the parts of a value. -/
def isSpace (c : Char) : Bool :=
  c = ' ' || c = '\n' || c = '\r' || c = '\t'

/-- The value of four digits in base sixteen. -/
def hexUnit? (a b c d : Char) : Option Nat := do
  let high := (← Text.hexValue? a) * 16 + (← Text.hexValue? b)
  let low := (← Text.hexValue? c) * 16 + (← Text.hexValue? d)
  return high * 256 + low

/-- The unit that four digits in front stand for, and what follows them. A text of less than four
bytes has none. -/
def unit? (s : List Char) : Except Fault (Nat × List Char) :=
  if Text.byteLength (s.take 4) < 4 then .error .unfinished
  else match s with
    | a :: b :: c :: d :: r =>
      match hexUnit? a b c d with
      | some unit => .ok (unit, r)
      | none => .error .malformed
    | _ => .error .malformed

/-- The character that an escape of one letter stands for. -/
def simpleEscape? : Char → Option Char
  | '"' => some '"'
  | '\\' => some '\\'
  | '/' => some '/'
  | 'b' => some '\x08'
  | 'f' => some '\x0c'
  | 'n' => some '\n'
  | 'r' => some '\r'
  | 't' => some '\t'
  | _ => none

/-- The first half of a pair that stands for one character. -/
def isHighUnit (unit : Nat) : Bool :=
  0xd800 ≤ unit && unit < 0xdc00

/-- The second half of a pair that stands for one character. -/
def isLowUnit (unit : Nat) : Bool :=
  0xdc00 ≤ unit && unit < 0xe000

/-- The character of an escaped unit, and what follows. Two escaped units that form a pair stand for
one character; one half of a pair alone is refused. -/
def unitEscape? (s : List Char) : Except Fault (Char × List Char) := do
  let (unit, r) ← unit? s
  if isHighUnit unit then
    match r with
    | '\\' :: 'u' :: r =>
      let (low, r) ← unit? r
      if isLowUnit low then
        return (Char.ofNat (0x10000 + (unit - 0xd800) * 0x400 + (low - 0xdc00)), r)
      else throw .malformed
    | ['\\'] => throw .unfinished
    | r => throw (faultAt r)
  else if isLowUnit unit then throw .malformed
  else return (Char.ofNat unit, r)

def escape? : List Char → Except Fault (Char × List Char)
  | [] => .error .unfinished
  | 'u' :: r => unitEscape? r
  | c :: r =>
    match simpleEscape? c with
    | some e => .ok (e, r)
    | none => .error .malformed

/-- The characters of a string up to its closing quotation mark, and what follows it. -/
def stringRest : Nat → List Char → Except Fault (List Char × List Char)
  | 0, _ => .error .malformed
  | _ + 1, [] => .error .unfinished
  | _ + 1, '"' :: r => .ok ([], r)
  | fuel + 1, '\\' :: r => do
    let (c, r) ← escape? r
    let (s, rest) ← stringRest fuel r
    return (c :: s, rest)
  | fuel + 1, c :: r =>
    if c.toNat < 0x20 then .error .malformed
    else (stringRest fuel r).map fun (s, rest) => (c :: s, rest)

/-- The digits in front, at least one, and what follows them. -/
def digits? (s : List Char) : Except Fault (List Char × List Char) :=
  match s.takeWhile Text.isDigit with
  | [] => .error (faultAt s)
  | ds => .ok (ds, s.dropWhile Text.isDigit)

/-- The whole part of a number: no zero in front of other digits. -/
def wholePart? (s : List Char) : Except Fault (List Char × List Char) :=
  match s with
  | '0' :: r => .ok (['0'], r)
  | s => digits? s

/-- A point with digits after it, if there is a point. -/
def fraction? (s : List Char) : Except Fault (List Char × List Char) :=
  match s with
  | '.' :: r => (digits? r).map fun (ds, rest) => ('.' :: ds, rest)
  | s => .ok ([], s)

/-- A power of ten, if there is one. -/
def exponent? (s : List Char) : Except Fault (List Char × List Char) :=
  match s with
  | [] => .ok ([], [])
  | e :: r =>
    if e = 'e' ∨ e = 'E' then
      match r with
      | sign :: r' =>
        if sign = '+' ∨ sign = '-' then (digits? r').map fun (ds, rest) => (e :: sign :: ds, rest)
        else (digits? r).map fun (ds, rest) => (e :: ds, rest)
      | [] => .error .unfinished
    else .ok ([], e :: r)

/-- The number that is written by a sign, a whole part and the rest of it. One that is no integer of
the right size gets a point. -/
def numberValue (negative : Bool) (whole more : List Char) : Json :=
  let n := Text.digitsValue whole
  let sign := if negative then ['-'] else []
  let written :=
    .number (String.ofList (sign ++ whole ++ if more = [] then ['.', '0'] else more))
  if more ≠ [] then written
  else if negative then if 0 < n ∧ n ≤ 0x8000000000000000 then .int (-n) else written
  else if n < 0x10000000000000000 then .int n
  else written

/-- A number and what follows it. -/
def number? (s : List Char) : Except Fault (Json × List Char) := do
  let (negative, s) := match s with
    | '-' :: r => (true, r)
    | s => (false, s)
  let (whole, s) ← wholePart? s
  let (fraction, s) ← fraction? s
  let (power, s) ← exponent? s
  return (numberValue negative whole (fraction ++ power), s)

/-- What follows a word that has to stand in front; it stands for a value. -/
def word? (value : Json) : List Char → List Char → Except Fault (Json × List Char)
  | [], s => .ok (value, s)
  | _ :: _, [] => .error .unfinished
  | c :: word, d :: s => if c = d then word? value word s else .error .malformed

mutual

def readValue? : Nat → List Char → Except Fault (Json × List Char)
  | 0, _ => .error .malformed
  | fuel + 1, s =>
    match s.dropWhile isSpace with
    | [] => .error .unfinished
    | '"' :: r => (stringRest (r.length + 1) r).map fun (t, rest) => (.str (String.ofList t), rest)
    | '[' :: r =>
      match r.dropWhile isSpace with
      | ']' :: rest => .ok (.arr [], rest)
      | _ => (readItems? fuel r).map fun (items, rest) => (.arr items, rest)
    | '\x7b' :: r =>
      match r.dropWhile isSpace with
      | '\x7d' :: rest => .ok (.obj [], rest)
      | _ => (readMembers? fuel r).map fun (members, rest) => (.obj members, rest)
    | 'n' :: r => word? .null ['u', 'l', 'l'] r
    | 't' :: r => word? (.bool true) ['r', 'u', 'e'] r
    | 'f' :: r => word? (.bool false) ['a', 'l', 's', 'e'] r
    | s => number? s

def readItems? : Nat → List Char → Except Fault (List Json × List Char)
  | 0, _ => .error .malformed
  | fuel + 1, s => do
    let (j, s) ← readValue? fuel s
    match s.dropWhile isSpace with
    | ',' :: r =>
      let (items, rest) ← readItems? fuel r
      return (j :: items, rest)
    | ']' :: rest => return ([j], rest)
    | r => throw (faultAt r)

/-- The members of an object up to its bracket, at least one. -/
def readMembers? : Nat → List Char → Except Fault (List (String × Json) × List Char)
  | 0, _ => .error .malformed
  | fuel + 1, s =>
    match s.dropWhile isSpace with
    | '"' :: r => do
      let (key, s) ← stringRest (r.length + 1) r
      match s.dropWhile isSpace with
      | ':' :: s =>
        let (j, s) ← readValue? fuel s
        match s.dropWhile isSpace with
        | ',' :: r =>
          let (members, rest) ← readMembers? fuel r
          return ((String.ofList key, j) :: members, rest)
        | '\x7d' :: rest => return ([(String.ofList key, j)], rest)
        | r => throw (faultAt r)
      | r => throw (faultAt r)
    | r => .error (faultAt r)

end

/-- The value that a text writes, if the text is JSON and nothing follows. -/
def parseChars (s : List Char) : Except Fault Json := do
  let (j, rest) ← readValue? (2 * s.length + 2) s
  if rest.all isSpace then return j else throw .malformed

/-- The value that a text writes, or why it is not JSON. -/
def parse (s : String) : Except Fault Json :=
  parseChars s.toList

/-- The value that a text writes, if the text is JSON. -/
def read (s : String) : Option Json :=
  (parse s).toOption

end DeployPlan.Json
