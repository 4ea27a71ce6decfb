import DeployPlan.Config.Error
import DeployPlan.EnvVar
import DeployPlan.Text.Quoted

/-!
# Variables from arguments

A caller sets the variables of a deployment with arguments such as `A=1,B=2`. Of several values for
one variable the last one counts.
-/

namespace DeployPlan.Environment

/-- The variable that a pair sets; a blank pair sets none. -/
def readPair (pair : List Char) : Except ConfigError (Option (String × String)) :=
  match Text.trim pair with
  | [] => .ok none
  | pair =>
    match Text.cut '=' pair with
    | none =>
      .error (.invalidValue "environment"
        (Text.quoted (String.ofList pair) ++ " must be in the form KEY=VALUE"))
    | some (key, value) =>
      let key := String.ofList (Text.trim key)
      if EnvVar.isName key then .ok (some (key, String.ofList value))
      else .error (.invalidValue "environment"
        (Text.quoted key ++ " is not a valid variable name"))

def addPair (env : StringMap String) (pair : List Char) :
    Except ConfigError (StringMap String) := do
  match ← readPair pair with
  | none => return env
  | some (key, value) => return env.insert key value

def pairsOf (arg : String) : List (List Char) :=
  Text.splitOn ',' arg.toList

/-- The variables that some arguments set. -/
def parse (args : List String) : Except ConfigError (StringMap String) :=
  (args.flatMap pairsOf).foldlM addPair .empty

end DeployPlan.Environment
