import DeployPlan.Error

/-!
# What can be wrong with settings

The errors of configuration files and of arguments, with their wording.
-/

namespace DeployPlan

/-- What is wrong with settings. -/
inductive ConfigError
  /-- A configuration is no node document. -/
  | parse
  | missingField (field : String)
  | invalidValue (field message : String)
  | duplicate (definition : String)
  | io (cause : FileError)
  deriving DecidableEq, Repr, Inhabited

/-- The complaint about a text that is no node document. -/
def ConfigError.unreadable : String := "Failed to parse KDL document"

/-- The wording of an error. -/
def ConfigError.message : ConfigError → String
  | .parse => "KDL parse error: " ++ unreadable
  | .missingField f => "missing required field: " ++ f
  | .invalidValue f m => "invalid value for " ++ f ++ ": " ++ m
  | .duplicate d => "duplicate definition: " ++ d
  | .io e => "IO error: " ++ e.message

end DeployPlan
