import DeployPlan.Kdl.Token

/-!
# Reading node documents

`Kdl.parse` makes nodes out of tokens. Entries of a node need a blank before them, a node ends with
its line, at a semicolon, or where what holds it ends; what follows a mark of discard is read and
dropped.
-/

namespace DeployPlan.Kdl

def dropSpaces : List Token → List Token
  | .space :: ts => dropSpaces ts
  | ts => ts

/-- The tokens without the blanks and line ends in front. -/
def dropLines : List Token → List Token
  | .space :: ts | .newline :: ts => dropLines ts
  | ts => ts

/-- What follows a type in parentheses and the blanks after it. -/
def dropType (ts : List Token) : Option (List Token) :=
  match ts with
  | .openParen :: ts =>
    match dropSpaces ts with
    | .text _ :: ts =>
      match dropSpaces ts with
      | .closeParen :: ts => some (dropSpaces ts)
      | _ => none
    | _ => none
  | ts => some ts

def value? (ts : List Token) : Option (Value × List Token) := do
  match ← dropType ts with
  | .text s :: ts => some (.text (String.ofList s), ts)
  | .value v :: ts => some (v, ts)
  | _ => none

def entry? (ts : List Token) : Option (Entry × List Token) :=
  match ts with
  | .text s :: rest =>
    match dropSpaces rest with
    | .equals :: rest =>
      (value? (dropSpaces rest)).map fun (v, ts) => (⟨some (String.ofList s), v⟩, ts)
    | _ => some (⟨none, .text (String.ofList s)⟩, rest)
  | ts => (value? ts).map fun (v, ts) => (⟨none, v⟩, ts)

/-- What follows the end of a node. -/
def endNode : List Token → Option (List Token)
  | .newline :: ts | .semicolon :: ts => some ts
  | [] => some []
  | .closeBrace :: ts => some (.closeBrace :: ts)
  | _ => none

mutual

/-- An entry after blanks, and what follows it. Discarded entries may stand before it, with blanks
between all of them. -/
def spacedEntry? : Nat → List Token → Option (Entry × List Token)
  | 0, _ => none
  | fuel + 1, ts =>
    match discarded? fuel (dropSpaces ts) with
    | some (.space :: rest) => entry? (dropSpaces rest)
    | _ => entry? (dropSpaces ts)

/-- What follows discarded entries, at least one. A mark of discard takes back what stands up to the
end of an entry, other marks and their entries included. -/
def discarded? : Nat → List Token → Option (List Token)
  | fuel + 1, .discard :: ts => do
    let (_, rest) ← spacedEntry? fuel (dropLines ts)
    match rest with
    | .space :: more => (discarded? fuel (dropSpaces more)).or (some rest)
    | _ => some rest
  | _, _ => none

end

def entries : Nat → List Token → List Entry × List Token
  | fuel + 1, .space :: ts =>
    match spacedEntry? fuel ts with
    | some (e, rest) =>
      let (es, rest) := entries fuel rest
      (e :: es, rest)
    | none => ([], (discarded? fuel (dropSpaces ts)).getD (.space :: ts))
  | _, ts => ([], ts)

mutual

/-- Nodes up to a closing brace or the end. After a node that does not end, only discarded nodes may
follow. -/
def nodes? : Nat → List Token → Option (List Node × List Token)
  | 0, _ => none
  | fuel + 1, ts => do
    match ← dropDiscarded fuel ts with
    | [] => some ([], [])
    | .closeBrace :: ts => some ([], .closeBrace :: ts)
    | ts =>
      let (n, ts) ← node? fuel ts
      match endNode ts with
      | some ts =>
        let (more, ts) ← nodes? fuel ts
        return (n :: more, ts)
      | none => return ([n], ← dropDiscarded fuel ts)

/-- What follows blanks, line ends and discarded nodes. -/
def dropDiscarded : Nat → List Token → Option (List Token)
  | 0, _ => none
  | fuel + 1, ts =>
    match dropLines ts with
    | .discard :: ts => do
      let (_, ts) ← node? fuel (dropLines ts)
      dropDiscarded fuel ts
    | ts => some ts

def node? : Nat → List Token → Option (Node × List Token)
  | 0, _ => none
  | fuel + 1, ts => do
    match ← dropType ts with
    | .text name :: ts =>
      let (es, ts) := entries fuel ts
      let (children, ts) ← children? fuel ts
      return (.mk (String.ofList name) es children, dropSpaces ts)
    | _ => none

/-- The children of a node. Discarded ones may stand before them, after a blank, and behind them. -/
def children? : Nat → List Token → Option (Option (List Node) × List Token)
  | 0, _ => none
  | fuel + 1, ts => do
    let before ← if ts.head? = some .space then discardedBlocks fuel (dropSpaces ts) else some ts
    match dropSpaces before with
    | .openBrace :: ts =>
      let (children, ts) ← block? fuel ts
      return (some children, ← discardedBlocks fuel (dropSpaces ts))
    | _ => return (none, before)

/-- What follows discarded children, with blanks between them, if there are any. -/
def discardedBlocks : Nat → List Token → Option (List Token)
  | 0, _ => none
  | fuel + 1, .discard :: ts => do
    match dropLines ts with
    | .openBrace :: rest =>
      let (_, ts) ← block? fuel rest
      if ts.head? = some .space then discardedBlocks fuel (dropSpaces ts) else return ts
    | _ => return .discard :: ts
  | _ + 1, ts => some ts

/-- Nodes up to a closing brace, and what follows that. -/
def block? : Nat → List Token → Option (List Node × List Token)
  | 0, _ => none
  | fuel + 1, ts => do
    match ← nodes? fuel ts with
    | (ns, .closeBrace :: ts) => some (ns, ts)
    | _ => none

end

/-- The nodes of a document. -/
def parse (s : String) : Option (List Node) := do
  let ts ← tokens s.toList
  match ← nodes? (4 * ts.length + 4) ts with
  | (ns, []) => some ns
  | _ => none

end DeployPlan.Kdl
