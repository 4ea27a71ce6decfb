import DeployPlan.Text.Direction
import DeployPlan.Text.Joining
import DeployPlan.Text.Unprintable
import DeployPlan.Url.NameForm
import DeployPlan.Url.Punycode

/-!
# Domain names

A domain name consists of labels. A label that is not ASCII is written with `xn--` in front and its
characters in Punycode. `domainToAscii` writes a name so, whichever way it is given, and refuses
labels with characters that no name has, or with such as make it hard to read.
`not_isForbidden_of_mem_domainToAscii` says that its result has no forbidden character.
-/

namespace DeployPlan.Url

/-- A character of ASCII that no domain name may have. -/
def isForbidden (c : Char) : Bool :=
  c.toNat ≤ 0x20 || c.toNat == 0x7f || "%#/:<>?@[\\]^|".toList.contains c

def isAscii (c : Char) : Bool :=
  c.toNat < 0x80

/-- A letter of the scripts Jurchen and Seal. -/
def isLateLetter (c : Char) : Bool :=
  (0x18e00 ≤ c.toNat && c.toNat ≤ 0x19191) || (0x3d000 ≤ c.toNat && c.toNat ≤ 0x3fc3f)

def isLabelChar (c : Char) : Bool :=
  isAscii c || c == Text.joiner || c == Text.nonJoiner || isLateLetter c ||
    (!Text.isUnprintable c && c != replacement)

/-- A label that is not ASCII has only characters of names, does not start with a mark, and has
joiners only where they matter. -/
def isLabel (label : List Char) : Bool :=
  label.all isLabelChar && !label.head?.any Text.isMark && Text.areJoinersMeaningful [] label

/-- A label of a name. -/
structure Label where
  /-- As people read it. -/
  shown : List Char
  /-- As it is asked for. -/
  ascii : List Char

/-- What stands before a label in Punycode. -/
def encodedMark : List Char :=
  "xn--".toList

/-- The greatest length of a label that is not ASCII, and of one in Punycode. -/
def longestShown : Nat := 1000

def longestEncoded : Nat := 2000

/-- A label in the form of names. One in Punycode has to be what its characters are written as. -/
def readLabel (label : List Char) : Option Label :=
  match Text.stripLead? encodedMark label with
  | some encoded => do
    if longestEncoded < encoded.length then none
    let shown ← Punycode.decode encoded
    if shown.all isAscii ∨ !isLabel shown ∨ nameForm shown ≠ shown ∨
        Punycode.encode shown ≠ encoded then none
    some ⟨shown, label⟩
  | none =>
    if label.all isAscii then some ⟨label, label⟩
    else if isLabel label ∧ label.length ≤ longestShown then
      some ⟨label, encodedMark ++ Punycode.encode label⟩
    else none

/-- A domain name in lower case and ASCII. If some label is written from right to left, all labels
have to run in one direction. -/
def domainToAscii (s : List Char) : Option (List Char) := do
  let labels ← (Text.splitOn '.' (nameForm s)).mapM readLabel
  let shown := labels.map (·.shown)
  if shown.any (·.any Text.turnsRight) ∧ !shown.all Text.isLegible then none
  let domain := Text.joinWith '.' (labels.map (·.ascii))
  if domain.any isForbidden then none else some domain

/-- A name in ASCII has no forbidden character. -/
theorem not_isForbidden_of_mem_domainToAscii {s domain : List Char}
    (h : domainToAscii s = some domain) {c : Char} (hc : c ∈ domain) : isForbidden c = false := by
  simp only [domainToAscii, bind, Option.bind_eq_some_iff] at h
  obtain ⟨labels, -, h⟩ := h
  split at h
  · simp at h
  · split at h
    · simp at h
    · rename_i hd
      obtain rfl := Option.some.inj h
      simpa using fun hf => hd (List.any_eq_true.2 ⟨c, hc, hf⟩)

end DeployPlan.Url
