import DeployPlan.Error
import DeployPlan.Text.Pieces

/-!
# Checkouts

A local directory may belong to a checkout of a repository. `Inspector.ofGit` asks the `git` program
for its root, its branch and the address that it was cloned from.
-/

namespace DeployPlan

/-- What is known about a checkout. -/
structure Checkout where
  /-- Its top directory. -/
  root : String
  /-- The branch that is checked out, unless a single commit is. -/
  branch : Option String := none
  /-- The address of the repository that it comes from. -/
  origin : Option String := none
  deriving DecidableEq, Repr, Inhabited

/-- Tells which checkout a directory belongs to, if any. -/
structure Inspector (m : Type → Type) where
  inspect : String → ExceptT Error m (Option Checkout)

/-- How a run of `git` ends. -/
inductive GitRun
  /-- The program or the directory to run in is not there. -/
  | missing
  /-- The program cannot be started for another reason. -/
  | failed (cause : FileError)
  /-- The program ended with this code, having written these texts. -/
  | ended (code : Nat) (output errors : String)
  deriving DecidableEq, Repr

/-- Runs `git` with some arguments, in the given directory or in the present one. -/
structure Git (m : Type → Type) where
  run : Option String → List String → m GitRun

/-- A text without blanks around it, unless nothing is left of it. -/
def nonBlank (s : String) : Option String :=
  match Text.trim s.toList with
  | [] => none
  | cs => some (String.ofList cs)

namespace Git

variable {m : Type → Type} [Monad m]

/-- What `git` answers in a directory. It has no answer if it is missing, fails or writes
nothing. -/
def ask (git : Git m) (dir : String) (args : List String) : ExceptT Error m (Option String) := do
  match ← git.run (some dir) args with
  | .missing => return none
  | .failed cause => throw (.io cause)
  | .ended 0 output _ => return nonBlank output
  | .ended _ _ _ => return none

/-- The checkout that a directory belongs to. -/
def inspect (git : Git m) (dir : String) : ExceptT Error m (Option Checkout) := do
  match ← git.ask dir ["rev-parse", "--show-toplevel"] with
  | none => return none
  | some root =>
    let branch ← git.ask dir ["rev-parse", "--abbrev-ref", "HEAD"]
    let origin ← git.ask dir ["config", "--get", "remote.origin.url"]
    return some { root, branch := branch.filter (· ≠ "HEAD"), origin }

end Git

/-- Inspection by means of the `git` program. -/
def Inspector.ofGit {m : Type → Type} [Monad m] (git : Git m) : Inspector m where
  inspect := git.inspect

end DeployPlan
