import DeployPlan.Error
import DeployPlan.FileTree.Types

/-!
# Following a path

`FileTree.walk` goes from place to place as a path says: it steps back at two dots, and at a link it
goes on with the path that the link stands for, at most forty times. A path that ends in a slash
leads to a directory or nowhere.
-/

namespace DeployPlan.FileTree

/-- Where a path leads. -/
inductive Goal
  /-- To something that is there. -/
  | found (p : Place)
  /-- To nothing, but into a directory that is there. -/
  | vacant (p : Place)
  deriving DecidableEq, Repr

/-- The most links that are followed on one path. -/
def maxLinks : Nat := 40

/-- The most bytes in the name of an entry. -/
def maxName : Nat := 255

/-- The most bytes in a path. -/
def maxPath : Nat := 4095

/-- The names that a path goes through, with a dot at the end for a slash there. -/
def namesOf (path : String) : List String :=
  let names := (Path.segments path).map String.ofList
  if names ≠ [] ∧ path.toList.getLast? = some '/' then names ++ ["."] else names

/-- Goes on from `here` through some names. A link in the last place is only followed if `follow`
says so, and `links` more links may be followed. -/
def walkFrom (t : FileTree) (follow : Bool) (links : Nat) (here : Place) (names : List String) :
    Except FileError Goal :=
  match names with
  | [] => .ok (.found here)
  | name :: rest =>
    match t.get? here with
    | none => .error .notFound
    | some (.file _) | some (.link _) => .error .notDirectory
    | some .directory =>
      if name = "." then walkFrom t follow links here rest
      else if name = ".." then walkFrom t follow links here.dropLast rest
      else if name.utf8ByteSize > maxName then .error .nameTooLong
      else
        let there := here ++ [name]
        match t.get? there with
        | none => if rest = [] then .ok (.vacant there) else .error .notFound
        | some (.link target) =>
          if rest = [] ∧ !follow then .ok (.found there)
          else
            match links with
            | 0 => .error .tooManyLinks
            | links + 1 =>
              walkFrom t follow links (if Path.isAbsolute target then [] else here)
                (namesOf target ++ rest)
        | some _ => walkFrom t follow links there rest
termination_by (links, names.length)

/-- Where a path leads, a path from the root or one from `here`. -/
def walk (t : FileTree) (here : Place) (follow : Bool) (path : String) : Except FileError Goal :=
  if path.toList.contains '\x00' then .error .nulByte
  else if path = "" then .error .notFound
  else if path.utf8ByteSize > maxPath then .error .nameTooLong
  else walkFrom t follow maxLinks (if Path.isAbsolute path then [] else here) (namesOf path)

def locate (t : FileTree) (here : Place) (path : String) : Except FileError Place :=
  match t.walk here true path with
  | .ok (.found p) => .ok p
  | .ok (.vacant _) => .error .notFound
  | .error e => .error e

def entryAt (t : FileTree) (here : Place) (path : String) : Except FileError Entry := do
  let p ← t.locate here path
  match t.get? p with
  | some e => .ok e
  | none => .error .notFound

end DeployPlan.FileTree
