import DeployPlan.Text.Pieces

/-!
# Paths

Paths are texts. `Path.steps` reads one as the steps that it leads through, `Path.join` continues a
path with another one, and `Path.relativeTo?` says how to go on from an ancestor.
-/

namespace DeployPlan.Path

/-- One step on a path. -/
inductive Step
  /-- To the root of the tree. -/
  | root
  /-- To the place where one is; it is only told apart at the start of a path. -/
  | here
  /-- To the directory above. -/
  | parent
  /-- To an entry of the directory. -/
  | name (s : List Char)
  deriving DecidableEq, Repr

/-- The step that a segment between slashes means. -/
def stepOf (segment : List Char) : Step :=
  if segment = ['.'] then .here
  else if segment = ['.', '.'] then .parent
  else .name segment

/-- Whether a path starts at the root. -/
def isAbsolute (p : String) : Bool :=
  p.toList.head? == some '/'

/-- The segments of a path: what stands between slashes and is not empty. -/
def segments (p : String) : List (List Char) :=
  (Text.splitOn '/' p.toList).filter (· ≠ [])

/-- The steps that a path leads through. A dot only counts as a step at the start of a path that
does not start at the root. -/
def steps (p : String) : List Step :=
  let steps := (segments p).map stepOf
  if isAbsolute p then .root :: steps.filter (· ≠ .here)
  else if p.toList.head? == some '.' then steps.take 1 ++ (steps.drop 1).filter (· ≠ .here)
  else steps.filter (· ≠ .here)

/-- The text of a step inside a path. -/
def Step.toChars : Step → List Char
  | .root => []
  | .here => ['.']
  | .parent => ['.', '.']
  | .name s => s

/-- The path that leads through some steps. -/
def ofSteps : List Step → String
  | .root :: rest => String.ofList ('/' :: Text.joinWith '/' (rest.map Step.toChars))
  | steps => String.ofList (Text.joinWith '/' (steps.map Step.toChars))

/-- The path `p`, continued by `q`. A path from the root replaces what it continues. -/
def join (p q : String) : String :=
  if isAbsolute q then q
  else if p = "" ∨ p.toList.getLast? = some '/' then p ++ q
  else p ++ "/" ++ q

/-- The name of the entry that a path leads to, unless its last step is no name. -/
def fileName? (p : String) : Option String :=
  match (steps p).getLast? with
  | some (.name s) => some (String.ofList s)
  | _ => none

/-- What remains of `steps` after `lead`. -/
def stripSteps? : (lead steps : List Step) → Option (List Step)
  | [], steps => some steps
  | _ :: _, [] => none
  | a :: lead, b :: steps => if a = b then stripSteps? lead steps else none

/-- The way from `base` to `p`, if `base` is `p` or leads to an ancestor by the same steps. -/
def relativeTo? (base p : String) : Option String :=
  (stripSteps? (steps base) (steps p)).map ofSteps

end DeployPlan.Path
