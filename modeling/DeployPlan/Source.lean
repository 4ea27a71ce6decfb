import DeployPlan.Path

/-!
# Sources

What is built: where the source code lies, which ref of it, and which directory below its root.
-/

namespace DeployPlan

/-- Where source code lies. -/
inductive SourceLocation
  /-- In a remote repository with this address. -/
  | url (address : String)
  /-- In a local directory that belongs to no remote repository. -/
  | directory (path : String)
  deriving DecidableEq, Repr, Inhabited

/-- A source to build from. -/
structure Source where
  /-- The name of everything that is generated for the source. -/
  name : String
  location : SourceLocation
  /-- The branch or tag. -/
  ref : Option String := none
  /-- The directory to build from, below the root of the source. -/
  contextDir : Option String := none
  /-- The root of a local checkout, if there is one. -/
  localDir : Option String := none
  deriving DecidableEq, Repr, Inhabited

namespace Source

/-- Whether the source lies in a remote repository. -/
def isRemote (s : Source) : Bool :=
  match s.location with
  | .url _ => true
  | .directory _ => false

def uri? (s : Source) : Option String :=
  match s.location with
  | .url address => some address
  | .directory _ => none

/-- The local directory that holds the root of the source. -/
def localRoot? (s : Source) : Option String :=
  match s.location with
  | .directory path => some path
  | .url _ => s.localDir

/-- The local directory that is built from. -/
def buildRoot? (s : Source) : Option String :=
  s.localRoot?.map fun root => s.contextDir.elim root (Path.join root)

/-- The source as a text: its place and, after a number sign, its ref. -/
protected def toString (s : Source) : String :=
  (match s.location with
    | .url address => address
    | .directory path => path) ++ s.ref.elim "" ("#" ++ ·)

end Source

end DeployPlan
