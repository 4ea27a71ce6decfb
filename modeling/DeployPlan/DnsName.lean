import DeployPlan.Error
import DeployPlan.Text.Decimal
import DeployPlan.Text.LowerCase
import DeployPlan.Text.Quoted

/-!
# Names that fit into DNS

The platform names its objects with labels (letters, digits and inner hyphens) and subdomains
(labels with dots between them). `isLabel` and `isSubdomain` check a name in one pass; `normalize`
makes a label out of any text that has something to offer.
-/

namespace DeployPlan.DnsName

/-- The most bytes that a label may take. -/
def maxLabel : Nat := 63

/-- The most bytes that a subdomain may take. -/
def maxSubdomain : Nat := 253

/-- A lower case letter or a digit. -/
def isAlnum (c : Char) : Bool :=
  ('a' ≤ c && c ≤ 'z') || Text.isDigit c

/-- Where in a name the check stands. -/
inductive Place
  /-- No character of the present part has been read. -/
  | start
  /-- The last character is a letter or digit: the part may end here. -/
  | letter
  /-- The last character is a hyphen. -/
  | hyphen
  deriving DecidableEq

/-- Whether the rest of a name is in order after `place`; `dots` tells whether the name may have
several parts. -/
def conforms (dots : Bool) (place : Place) : List Char → Bool
  | [] => place == .letter
  | c :: r =>
    if isAlnum c then conforms dots .letter r
    else if c = '-' then place != .start && conforms dots .hyphen r
    else dots && c == '.' && place == .letter && conforms dots .start r

/-- A name of one part. -/
def isLabel (s : String) : Bool :=
  Text.byteLength s.toList ≤ maxLabel && conforms false .start s.toList

/-- A name of one or more parts with dots between them. -/
def isSubdomain (s : String) : Bool :=
  Text.byteLength s.toList ≤ maxSubdomain && conforms true .start s.toList

/-- Checks a name that a caller gives for `field`. -/
def validate (field value : String) : Except Error Unit :=
  if value = "" then .error (.validation field "may not be empty")
  else if isSubdomain value then .ok ()
  else .error (.validation field (Text.quoted value ++ " does not conform to lower-cased dns1123"))

/-- The text with each run of hyphens made one. -/
def collapse : List Char → List Char
  | [] => []
  | c :: r =>
    match collapse r with
    | d :: s => if c = '-' ∧ d = '-' then d :: s else c :: d :: s
    | [] => [c]

/-- The text without the hyphens at its end. -/
def trimHyphens (s : List Char) : List Char :=
  Text.trimEndWhere (· == '-') s

/-- The characters of the label made out of a text: lower case, hyphens for everything that may not
stand in a label, no two of them in a row and none at an end, cut to the length of a label. -/
def normalChars (raw : List Char) : List Char :=
  let lowered := (Text.lower raw).map fun c => if isAlnum c then c else '-'
  let trimmed := trimHyphens ((collapse lowered).dropWhile (· == '-'))
  if trimmed.length > maxLabel then trimHyphens (trimmed.take maxLabel) else trimmed

/-- The label made out of a text, if anything usable is left of it. -/
def normalize (raw : String) : Option String :=
  match normalChars raw.toList with
  | [] => none
  | cs => some (String.ofList cs)

end DeployPlan.DnsName
