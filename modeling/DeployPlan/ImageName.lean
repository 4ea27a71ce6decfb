import DeployPlan.DnsName
import DeployPlan.Text.WordChar

/-!
# Names of images

An image is named `[registry/][group/]name[:tag][@digest]`. `ImageName.parse` reads such a name and
`ImageName.toString` writes it; `ImageName.Fault` is what can be wrong with it.
-/

namespace DeployPlan

/-- A name that an image can be asked for by. -/
structure ImageName where
  registry : Option String := none
  /-- The path between registry and name, such as `openshift`; it may have several parts. -/
  group : Option String := none
  name : String
  tag : Option String := none
  digest : Option String := none
  deriving DecidableEq, Repr, Inhabited

namespace ImageName

/-- The tag that is meant when a name has none. -/
def defaultTag : String := "latest"

/-- What is wrong with a text that should name an image. -/
inductive Fault
  | empty
  | emptyDigest (input : List Char)
  | invalidTag (input tag : List Char)
  | missingName (input : List Char)
  | invalidComponent (input component : List Char)
  deriving DecidableEq, Repr

/-- The wording of a fault, with the text in which it was found. -/
def Fault.message : Fault → String
  | .empty => "may not be empty"
  | .emptyDigest input => String.ofList input ++ ": empty digest"
  | .invalidTag input tag =>
    String.ofList input ++ ": invalid tag " ++ Text.quoted (String.ofList tag)
  | .missingName input => String.ofList input ++ ": missing name"
  | .invalidComponent input component =>
    String.ofList input ++ ": invalid path component " ++ Text.quoted (String.ofList component)

def Fault.toError (f : Fault) : Error :=
  .validation "image" f.message

/-- Where in a component the check stands, told by the characters just read. -/
inductive Place
  | start
  | letter
  | dot
  | lowLine
  | twoLowLines
  | hyphens
  deriving DecidableEq

/-- Whether the rest of a component is in order after `place`: runs of letters and digits, separated
by a dot, one or two low lines, or hyphens. -/
def componentFrom (place : Place) : List Char → Bool
  | [] => place == .letter
  | c :: r =>
    if DnsName.isAlnum c then componentFrom .letter r
    else if c = '.' then place == .letter && componentFrom .dot r
    else if c = '_' then
      match place with
      | .letter => componentFrom .lowLine r
      | .lowLine => componentFrom .twoLowLines r
      | _ => false
    else c == '-' && (place == .letter || place == .hyphens) && componentFrom .hyphens r

/-- A part of the path of an image name. -/
def isComponent (s : List Char) : Bool :=
  componentFrom .start s

/-- A tag: a word character, then at most 127 word characters, dots and hyphens. -/
def isTag : List Char → Bool
  | [] => false
  | c :: r =>
    Text.isWordChar c && r.all (fun d => Text.isWordChar d || d == '.' || d == '-') &&
      r.length ≤ 127

/-- Whether the first part of a path is the address of a registry. -/
def looksLikeRegistry (s : List Char) : Bool :=
  s.contains '.' || s.contains ':' || s == "localhost".toList

/-- The registry, if the path starts with one, and the rest of the path. -/
def splitRegistry : List (List Char) → Option (List Char) × List (List Char)
  | [] => (none, [])
  | first :: rest => if looksLikeRegistry first then (some first, rest) else (none, first :: rest)

/-- Reads a name from a text that is not empty and has no blanks around it. -/
def readTrimmed (input : List Char) : Except Fault ImageName := do
  let (rest, digest) ← match Text.cut '@' input with
    | some (_, []) => .error (.emptyDigest input)
    | some (rest, digest) => .ok (rest, some digest)
    | none => .ok (input, none)
  let pieces := Text.splitOn '/' rest
  let last := pieces.getLastD []
  let (name, tag) := match Text.cutLast ':' last with
    | some (name, tag) => (name, some tag)
    | none => (last, none)
  if let some t := tag then
    if !isTag t then .error (.invalidTag input t)
  let (registry, group) := splitRegistry pieces.dropLast
  if name = [] then .error (.missingName input)
  if let some bad := (group ++ [name]).find? (!isComponent ·) then
    .error (.invalidComponent input bad)
  return {
    registry := registry.map String.ofList
    group := if group = [] then none else some (String.ofList (Text.joinWith '/' group))
    name := String.ofList name
    tag := tag.map String.ofList
    digest := digest.map String.ofList }

/-- Reads a name; blanks around it do not count. -/
def read (s : String) : Except Fault ImageName :=
  match Text.trim s.toList with
  | [] => .error .empty
  | input => readTrimmed input

/-- Reads a name, with its fault as an error about the field `image`. -/
def parse (s : String) : Except Error ImageName :=
  (read s).mapError Fault.toError

def repository (n : ImageName) : String :=
  match n.group with
  | some g => g ++ "/" ++ n.name
  | none => n.name

/-- The tag, or the one that is meant when there is none. -/
def tagOrDefault (n : ImageName) : String :=
  n.tag.getD defaultTag

/-- Registry, group and name: where the image lies, whatever its tag and digest. -/
def location (n : ImageName) : String :=
  match n.registry with
  | some r => r ++ "/" ++ n.repository
  | none => n.repository

/-- The name as a text. -/
protected def toString (n : ImageName) : String :=
  n.location ++ (n.tag.elim "" (":" ++ ·)) ++ (n.digest.elim "" ("@" ++ ·))

end ImageName

end DeployPlan
