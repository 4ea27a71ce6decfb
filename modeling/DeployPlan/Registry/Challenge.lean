import DeployPlan.Text.Decimal
import DeployPlan.Text.WordChar

/-!
# Challenges

A registry that wants a token says in a header where to get one:
`Bearer realm="…",service="…",scope="…"`. `BearerChallenge.parse` reads such a header. Only texts of
the form `key="value"` count in it; of two for one key the later one does.
-/

namespace DeployPlan

/-- Where to get a token, and what to ask for. -/
structure BearerChallenge where
  /-- The address that hands out tokens. -/
  realm : String
  service : Option String := none
  scope : Option String := none
  deriving DecidableEq, Repr, Inhabited

namespace BearerChallenge

/-- The value in `="value"` at the start of a text, and what follows it. -/
def quotedValue? : List Char → Option (List Char × List Char)
  | '=' :: '"' :: r => Text.cut '"' r
  | _ => none

theorem length_lt_of_quotedValue? {s value rest : List Char}
    (h : quotedValue? s = some (value, rest)) : rest.length < s.length := by
  unfold quotedValue? at h
  split at h
  · obtain ⟨rfl, -⟩ := Text.cut_eq_some_iff.1 h
    simp only [List.length_cons, List.length_append]
    omega
  · cases h

/-- The texts of the form `key="value"`, from left to right. A key is as long as possible. -/
def parameters : List Char → List (List Char × List Char)
  | [] => []
  | c :: r =>
    if Text.isWordChar c then
      match _ : quotedValue? (r.dropWhile Text.isWordChar) with
      | some (value, rest) => (c :: r.takeWhile Text.isWordChar, value) :: parameters rest
      | none => parameters (r.dropWhile Text.isWordChar)
    else parameters r
termination_by s => s.length
decreasing_by
  · have := length_lt_of_quotedValue? (by assumption)
    have := (List.dropWhile_sublist Text.isWordChar (l := r)).length_le
    simp only [List.length_cons]
    omega
  · have := (List.dropWhile_sublist Text.isWordChar (l := r)).length_le
    simp only [List.length_cons]
    omega
  · simp

/-- The last value that is given for a key. -/
def last? (key : String) (ps : List (List Char × List Char)) : Option String :=
  (ps.reverse.find? (·.1 = key.toList)).map fun p => String.ofList p.2

/-- Reads a header. It has to name the scheme and a realm. -/
def parseChars (header : List Char) : Option BearerChallenge := do
  let (scheme, rest) ← Text.cut ' ' (Text.trim header)
  if !Text.equalIgnoringCase scheme "bearer".toList then none
  let ps := parameters rest
  return { realm := ← last? "realm" ps, service := last? "service" ps, scope := last? "scope" ps }

/-- Reads a header. -/
def parse (header : String) : Option BearerChallenge :=
  parseChars header.toList

end BearerChallenge

end DeployPlan
