import DeployPlan.Config.Error
import DeployPlan.Text.Decimal

/-!
# How a run ends

A run ends with a code and two texts. A failure is reported with the reasons behind it, which are
numbered if there are several.
-/

namespace DeployPlan.CommandLine

/-- What a run leaves behind. -/
structure Outcome where
  code : UInt8 := 0
  output : String := ""
  errors : String := ""
  deriving DecidableEq, Repr, Inhabited

/-- Why a command fails, and the reasons behind that, each the reason of the one before. -/
structure Failure where
  message : String
  reasons : List String := []
  deriving DecidableEq, Repr

/-- What is behind an error of the file system: the system's own words. -/
def ioReasons (message : String) (cause : FileError) : List String :=
  [message, cause.message]

def configReasons (e : ConfigError) : List String :=
  match e with
  | .parse => [e.message, ConfigError.unreadable]
  | .io cause => ioReasons e.message cause
  | _ => [e.message]

def errorReasons (e : Error) : List String :=
  match e with
  | .io cause => ioReasons e.message cause
  | _ => [e.message]

namespace Failure

/-- A text with `first` in front of its first line and `other` in front of all others. -/
def indent (first other : String) (s : String) : String :=
  first ++ ("\n" ++ other).intercalate ((Text.splitOn '\n' s.toList).map String.ofList)

/-- The number of a reason, right-aligned in five columns. -/
def numberText (n : Nat) : String :=
  let digits := Text.decimal n
  String.ofList (List.replicate (5 - digits.length) ' ' ++ digits) ++ ": "

def reasonLines : List String → List String
  | [reason] => [indent "    " "    " reason]
  | reasons => reasons.mapIdx fun n reason => indent (numberText n) "       " reason

def report (f : Failure) : String :=
  "Error: " ++ f.message ++
    (if f.reasons = [] then "" else
      "\n\nCaused by:\n" ++ "\n".intercalate (reasonLines f.reasons)) ++ "\n"

/-- A failure ends a run with code one. -/
def outcome (f : Failure) : Outcome :=
  { code := 1, errors := f.report }

end Failure

end DeployPlan.CommandLine
