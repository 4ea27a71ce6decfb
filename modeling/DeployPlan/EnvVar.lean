import DeployPlan.StringMap
import DeployPlan.Text.Decimal

/-!
# Environment variables

The names that a variable may have, and the variables that an image lists as `KEY=VALUE` entries.
-/

namespace DeployPlan.EnvVar

/-- A character that a name may start with: a letter of ASCII or a low line. -/
def isLead (c : Char) : Bool :=
  ('A' ≤ c && c ≤ 'Z') || ('a' ≤ c && c ≤ 'z') || c == '_'

def isName (s : String) : Bool :=
  match s.toList with
  | [] => false
  | c :: r => isLead c && r.all fun d => isLead d || Text.isDigit d

/-- The name and the value in an entry, divided at its first equals sign. -/
def readEntry (entry : String) : Option (String × String) :=
  (Text.cut '=' entry.toList).map fun (k, v) => (String.ofList k, String.ofList v)

/-- The variables of an image. Entries without an equals sign define nothing, and of two entries for
one name the later one counts. -/
def ofEntries (entries : List String) : StringMap String :=
  .ofList (entries.filterMap readEntry)

end DeployPlan.EnvVar
