import DeployPlan.Json.Magnitude
import DeployPlan.Json.Reader
import DeployPlan.Timestamp

/-!
# The shape of a document

A `Shape` says what a document has to look like. `Shape.parse` reads a text of that shape and brings
its value to one form: a record becomes the object of the fields that are there, whichever way it is
written. A text is judged from left to right, so a wrong field counts before an end that is missing.
What a shape leaves out has to be JSON only in its outer form.
-/

namespace DeployPlan.Json

/-- Where a field of a record may be missing. -/
inductive Presence
  /-- Nowhere. -/
  | required
  /-- In an object. -/
  | optional
  /-- In an object, and at the end of a list. -/
  | defaulted
  deriving DecidableEq, Repr

/-- What a part of a document has to be. -/
inductive Shape
  /-- Any value, which is kept. -/
  | any
  /-- Any value, of which nothing is kept. -/
  | ignored
  | text
  | bool
  /-- An integer of sixty-four bits with a sign. -/
  | integer
  /-- An integer of sixteen bits without a sign. -/
  | status
  /-- The text of a moment. -/
  | moment
  /-- An object without members. -/
  | empty
  /-- Such a part, or null. -/
  | orNull (s : Shape)
  /-- A list of such parts. -/
  | list (s : Shape)
  /-- An object with these fields, each of them at most once if `once`. Other members are of the
  shape `others`. -/
  | object (once : Bool) (fields : List (String × Presence × Shape)) (others : Shape)
  /-- An object with these fields, each of them at most once, or the list of their values. -/
  | record (fields : List (String × Presence × Shape))

/-- The fields of a record, each with its name. -/
abbrev Fields := List (String × Presence × Shape)

namespace Shape

/-- An object whose members are all of one shape; the last one of a name counts. -/
def map (s : Shape) : Shape :=
  .object false [] s

/-- A field that may be missing or null. -/
def field (name : String) (s : Shape) : String × Presence × Shape :=
  (name, .optional, .orNull s)

/-- How many lists and objects a text may nest, and one more. -/
def depthLimit : Nat := 128

/-- How many lists and objects may be open in one that opens now. -/
def enter (depth : Nat) : Except Fault Nat :=
  if depth ≤ 1 then .error .malformed else .ok (depth - 1)

/-- A value that is neither a list nor an object, and what follows it. Values that `accepts` does
not have are read to their end. -/
def readLeaf (accepts : Json → Bool) (s : List Char) : Except Fault (Json × List Char) :=
  match s with
  | '[' :: _ | '\x7b' :: _ => .error .malformed
  | s => do
    let (j, rest) ← readValue? 1 s
    if accepts j then return (j, rest) else throw .malformed

/-- A value of any shape, and what follows it. -/
def readAny (depth : Nat) (s : List Char) : Except Fault (Json × List Char) := do
  let (j, rest) ← readValue? (2 * s.length + 2) s
  if j.height < depth ∧ j.isBounded then return (j, rest) else throw .malformed

/-- What follows a string of which nothing is kept. Half of a pair may stand in it alone. -/
def skipString : Nat → List Char → Except Fault (List Char)
  | 0, _ => .error .malformed
  | _ + 1, [] | _ + 1, ['\\'] => .error .unfinished
  | _ + 1, '"' :: r => .ok r
  | fuel + 1, '\\' :: 'u' :: r => do
    let (_, r) ← unit? r
    skipString fuel r
  | fuel + 1, '\\' :: c :: r =>
    if (simpleEscape? c).isSome then skipString fuel r else .error .malformed
  | fuel + 1, c :: r => if c.toNat < 0x20 then .error .malformed else skipString fuel r

mutual

/-- What follows a value of which nothing is kept. -/
def skipValue : Nat → List Char → Except Fault (List Char)
  | 0, _ => .error .malformed
  | fuel + 1, s =>
    match s.dropWhile isSpace with
    | [] => .error .unfinished
    | '"' :: r => skipString (r.length + 1) r
    | '[' :: r =>
      match r.dropWhile isSpace with
      | ']' :: rest => .ok rest
      | _ => skipItems fuel r
    | '\x7b' :: r =>
      match r.dropWhile isSpace with
      | '\x7d' :: rest => .ok rest
      | _ => skipMembers fuel r
    | c :: r =>
      if c.isAlpha then (readValue? 1 (c :: r)).map (·.2)
      else match number? (c :: r) with
        | .ok (_, rest) => .ok rest
        | .error _ => .error .malformed

/-- What follows the items of a list, of which nothing is kept. -/
def skipItems : Nat → List Char → Except Fault (List Char)
  | 0, _ => .error .malformed
  | fuel + 1, s => do
    let s ← skipValue fuel s
    match s.dropWhile isSpace with
    | ',' :: r => skipItems fuel r
    | ']' :: rest => return rest
    | r => throw (faultAt r)

/-- What follows the members of an object, of which nothing is kept. -/
def skipMembers : Nat → List Char → Except Fault (List Char)
  | 0, _ => .error .malformed
  | fuel + 1, s =>
    match s.dropWhile isSpace with
    | '"' :: r => do
      let s ← skipString (r.length + 1) r
      match s.dropWhile isSpace with
      | ':' :: s =>
        let s ← skipValue fuel s
        match s.dropWhile isSpace with
        | ',' :: r => skipMembers fuel r
        | '\x7d' :: rest => return rest
        | r => throw (faultAt r)
      | r => throw (faultAt r)
    | r => .error (faultAt r)

end

/-- The fields of a record, with the last one put in place of others of its name. -/
def put (key : String) (j : Json) (found : List (String × Json)) : List (String × Json) :=
  found.filter (·.1 ≠ key) ++ [(key, j)]

/-- Whether all fields are there that have to be. -/
def isComplete (fields : Fields) (found : List (String × Json)) : Bool :=
  fields.all fun (name, presence, _) => presence != .required || found.any (·.1 = name)

mutual

/-- A value of a shape, and what follows it. At most `depth` lists and objects may be open with
it. -/
def readValue : Nat → Nat → Shape → List Char → Except Fault (Json × List Char)
  | 0, _, _, _ => .error .malformed
  | fuel + 1, depth, shape, s =>
    let s := s.dropWhile isSpace
    match shape with
    | .any => readAny depth s
    | .ignored => (skipValue (2 * s.length + 2) s).map (Json.null, ·)
    | .text => readLeaf (·.str?.isSome) s
    | .bool => readLeaf (fun | .bool _ => true | _ => false) s
    | .integer => readLeaf (fun | .int n => n < 0x8000000000000000 | _ => false) s
    | .status => readLeaf (fun | .int n => 0 ≤ n && n < 0x10000 | _ => false) s
    | .moment => readLeaf (fun j => (j.str?.bind Timestamp.read).isSome) s
    | .orNull shape =>
      match s with
      | 'n' :: r => word? .null ['u', 'l', 'l'] r
      | s => readValue fuel depth shape s
    | .empty =>
      match s with
      | '\x7b' :: r => do
        let _ ← enter depth
        match r.dropWhile isSpace with
        | '\x7d' :: rest => return (.obj [], rest)
        | '"' :: r =>
          let _ ← stringRest (r.length + 1) r
          throw .malformed
        | r => throw (faultAt r)
      | s => readLeaf (fun _ => false) s
    | .list shape =>
      match s with
      | '[' :: r => do
        let depth ← enter depth
        match r.dropWhile isSpace with
        | ']' :: rest => return (.arr [], rest)
        | _ =>
          let (items, rest) ← readItems fuel depth shape r
          return (.arr items, rest)
      | s => readLeaf (fun _ => false) s
    | .object once fields others =>
      match s with
      | '\x7b' :: r => do
        let (found, rest) ← readObject fuel (← enter depth) once fields others r
        return (.obj found, rest)
      | s => readLeaf (fun _ => false) s
    | .record fields =>
      match s with
      | '\x7b' :: r => do
        let (found, rest) ← readObject fuel (← enter depth) true fields .ignored r
        return (.obj found, rest)
      | '[' :: r => do
        let (found, rest) ← readFields fuel (← enter depth) true fields r
        return (.obj found, rest)
      | s => readLeaf (fun _ => false) s

def readItems : Nat → Nat → Shape → List Char → Except Fault (List Json × List Char)
  | 0, _, _, _ => .error .malformed
  | fuel + 1, depth, shape, s => do
    let (j, s) ← readValue fuel depth shape s
    match s.dropWhile isSpace with
    | ',' :: r =>
      let (items, rest) ← readItems fuel depth shape r
      return (j :: items, rest)
    | ']' :: rest => return ([j], rest)
    | r => throw (faultAt r)

/-- The fields of a record written as a list, up to its bracket. -/
def readFields : Nat → Nat → Bool → Fields → List Char →
    Except Fault (List (String × Json) × List Char)
  | 0, _, _, _, _ => .error .malformed
  | fuel + 1, depth, isFirst, fields, s =>
    match fields, s.dropWhile isSpace with
    | [], ']' :: rest => .ok ([], rest)
    | [], r => .error (faultAt r)
    | fields, ']' :: rest =>
      if fields.all (·.2.1 = .defaulted) then .ok ([], rest) else .error .malformed
    | (name, _, shape) :: fields, r => do
      let r ← if isFirst then pure r else match r with
        | ',' :: r => pure r
        | r => throw (faultAt r)
      let (j, s) ← readValue fuel depth shape r
      let (found, rest) ← readFields fuel depth false fields s
      return ((name, j) :: found, rest)

/-- The members of an object up to its brace, of which some are fields. -/
def readObject : Nat → Nat → Bool → Fields → Shape → List Char →
    Except Fault (List (String × Json) × List Char)
  | 0, _, _, _, _, _ => .error .malformed
  | fuel + 1, depth, once, fields, others, s =>
    match s.dropWhile isSpace with
    | '\x7d' :: rest => if isComplete fields [] then .ok ([], rest) else .error .malformed
    | s => readMembers fuel depth once fields others [] s

/-- The members of an object after some others, up to its brace, at least one. -/
def readMembers : Nat → Nat → Bool → Fields → Shape →
    List (String × Json) → List Char → Except Fault (List (String × Json) × List Char)
  | 0, _, _, _, _, _, _ => .error .malformed
  | fuel + 1, depth, once, fields, others, found, s =>
    match s.dropWhile isSpace with
    | '"' :: r => do
      let (key, s) ← stringRest (r.length + 1) r
      let key := String.ofList key
      let shape := ((fields.find? (·.1 = key)).map (·.2.2)).getD others
      if once ∧ fields.any (·.1 = key) ∧ found.any (·.1 = key) then throw .malformed
      match s.dropWhile isSpace with
      | ':' :: s =>
        let (j, s) ← readValue fuel depth shape s
        let found := match shape with
          | .ignored => found
          | _ => put key j found
        match s.dropWhile isSpace with
        | ',' :: r => readMembers fuel depth once fields others found r
        | '\x7d' :: rest =>
          if isComplete fields found then return (found, rest) else throw .malformed
        | r => throw (faultAt r)
      | r => throw (faultAt r)
    | r => .error (faultAt r)

end

/-- The value of a shape that a text writes, if nothing follows it. -/
def parseChars (shape : Shape) (s : List Char) : Except Fault Json := do
  let (j, rest) ← readValue (4 * s.length + 8) depthLimit shape s
  if rest.all isSpace then return j else throw .malformed

/-- The value of a shape that a text writes, or why there is none. -/
def parse (shape : Shape) (s : String) : Except Fault Json :=
  parseChars shape s.toList

end Shape

end DeployPlan.Json
