import DeployPlan.Url.Host

/-!
# Addresses

`Url.parse` reads an address as browsers do: blanks around it and line breaks in it do not count,
the schemes of the web tolerate backslashes and any number of slashes before the host, and the path
loses its dots. `Url.toString` writes it in its normal form.
-/

namespace DeployPlan

/-- An address in its parts, each in its normal form. -/
structure Url where
  scheme : String
  /-- Whether the scheme is followed by two slashes. -/
  hierarchical : Bool
  user : String := ""
  password : Option String := none
  host : Option Url.Host := none
  /-- The port, unless it is the one that the scheme implies. -/
  port : Option UInt16 := none
  path : String := ""
  query : Option String := none
  fragment : Option String := none
  deriving DecidableEq, Repr

namespace Url

/-- The schemes that are read in the tolerant way. -/
inductive Kind
  | web
  | file
  | other
  deriving DecidableEq

def Kind.of (scheme : String) : Kind :=
  if ["http", "https", "ws", "wss", "ftp"].contains scheme then .web
  else if scheme = "file" then .file
  else .other

def impliedPort (scheme : String) : Option UInt16 :=
  match scheme with
  | "http" | "ws" => some 80
  | "https" | "wss" => some 443
  | "ftp" => some 21
  | _ => none

/-- The text without the blanks and controls around it and the line breaks and tabs in it. -/
def clean (s : List Char) : List Char :=
  let outer (c : Char) : Bool := c.toNat ≤ 0x20
  (Text.trimEndWhere outer (s.dropWhile outer)).filter fun c => c ≠ '\t' ∧ c ≠ '\n' ∧ c ≠ '\r'

def isSchemeChar (c : Char) : Bool :=
  c.isAlphanum || c == '+' || c == '-' || c == '.'

/-- The scheme in lower case and what follows its colon. -/
def cutScheme (s : List Char) : Option (String × List Char) :=
  match s, Text.cut ':' s with
  | c :: _, some (scheme, rest) =>
    if c.isAlpha ∧ scheme.all isSchemeChar then
      some (String.ofList (scheme.map Text.asciiLower), rest)
    else none
  | _, _ => none

/-- The text before and after the first `sep`; without one, all is before it. -/
def divide (sep : Char) (s : List Char) : List Char × Option (List Char) :=
  match Text.cut sep s with
  | some (a, b) => (a, some b)
  | none => (s, none)

/-- Whether a character ends a segment of the path. -/
def isSlash (kind : Kind) (c : Char) : Bool :=
  c == '/' || (kind != .other && c == '\\')

/-- A letter and a colon or bar, which name a drive. -/
def isDrive : List Char → Bool
  | [c, d] => c.isAlpha && (d == ':' || d == '|')
  | _ => false

/-- A segment for the place where one is. -/
def isHere (s : List Char) : Bool :=
  ["." , "%2e"].contains (String.ofList (s.map Text.asciiLower))

/-- A segment for the place above. -/
def isAbove (s : List Char) : Bool :=
  ["..", "%2e.", ".%2e", "%2e%2e"].contains (String.ofList (s.map Text.asciiLower))

/-- The segments of a path, the last one in front, after some more segments. Nothing is above a
drive. -/
def addSegments (kind : Kind) (path : List (List Char)) : List (List Char) → List (List Char)
  | [] => path
  | segment :: rest =>
    let last := rest.isEmpty
    if isAbove segment then
      let path := if path.head?.any isDrive then path else path.drop 1
      addSegments kind (if last then [] :: path else path) rest
    else if isHere segment then addSegments kind (if last then [] :: path else path) rest
    else
      let segment := percentEncode inPathSet segment
      let segment := if kind = .file ∧ path = [] ∧ isDrive segment then segment.take 1 ++ [':']
        else segment
      addSegments kind (segment :: path) rest

/-- A path from the root, without dots. -/
def normalPath (kind : Kind) (s : List Char) : List Char :=
  let segments := (addSegments kind [] (Text.splitWhere (isSlash kind) s)).reverse
  let segments := if kind = .file ∧ segments.length > 1 then
      let kept := segments.dropWhile (· == [])
      if kept = [] then [[]] else kept
    else segments
  '/' :: Text.joinWith '/' segments

/-- The path after an authority. -/
def pathAfterHost (kind : Kind) (s : List Char) : List Char :=
  match s with
  | [] => if kind = .other then [] else ['/']
  | c :: r => normalPath kind (if isSlash kind c then r else s)

/-- The user, the password and what follows the last at sign. -/
def cutUser (s : List Char) : Option (List Char × List Char) × List Char :=
  match Text.cutLast '@' s with
  | none => (none, s)
  | some (info, rest) =>
    let (user, password) := divide ':' info
    (some (user, password.getD []), rest)

/-- The host, which ends at a colon outside of brackets, and the text from the colon on. -/
def cutHost (inside : Bool) : List Char → List Char × List Char
  | [] => ([], [])
  | c :: r =>
    if c = ':' ∧ !inside then ([], c :: r)
    else
      let (host, rest) := cutHost (if c = '[' then true else if c = ']' then false else inside) r
      (c :: host, rest)

def readPort (scheme : String) (s : List Char) : Except Fault (Option UInt16 × List Char) :=
  match s with
  | ':' :: r =>
    let digits := r.takeWhile Text.isDigit
    let rest := r.dropWhile Text.isDigit
    let n := Text.digitsValue digits
    if n > 65535 ∨ rest.head?.any (fun c => c ≠ '/' ∧ c ≠ '\\') then .error .invalidPort
    else
      let port := UInt16.ofNat n
      .ok (if digits = [] ∨ impliedPort scheme = some port then none else some port, rest)
  | s => .ok (none, s)

/-- Whether the text names no host at all. -/
def isNoHost : Host → Bool
  | .domain name => name == ""
  | _ => false

/-- What an address consists of after its scheme, before query and fragment. `hasMore`
tells that one of these follows. -/
def parseAuthority (kind : Kind) (scheme : String) (hasMore : Bool) (s : List Char) :
    Except Fault Url := do
  let authority := s.takeWhile (!isSlash kind ·)
  let path := s.dropWhile (!isSlash kind ·)
  let (info, hostPart) := cutUser authority
  if authority = ['@'] ∧ (hasMore ∨ path ≠ []) then .error .emptyHost
  let (user, password) := info.getD ([], [])
  let (hostText, rest) := cutHost false hostPart
  if kind = .web ∧ hostText = [] then .error .emptyHost
  let host ← if kind = .web then Host.parse hostText else Host.parseOpaque hostText
  if isNoHost host ∧ (rest ≠ [] ∨ user ≠ [] ∨ password ≠ []) then .error .emptyHost
  let (port, rest) ← readPort scheme rest
  return {
    scheme
    hierarchical := true
    user := String.ofList (percentEncode inUserSet user)
    password := if password = [] then none else
      some (String.ofList (percentEncode inUserSet password))
    host := if isNoHost host then none else some host
    port
    path := String.ofList (pathAfterHost kind (rest ++ path)) }

/-- An address of a file: the host may be missing, and `localhost` is none. -/
def parseFile (s : List Char) : Except Fault Url := do
  let slash (c : Char) : Bool := isSlash .file c
  let make (host : Option Host) (path : List Char) : Url :=
    { scheme := "file", hierarchical := true, host, path := String.ofList path }
  match s with
  | a :: b :: rest =>
    if slash a ∧ slash b then
      let hostText := rest.takeWhile (!slash ·)
      let path := rest.dropWhile (!slash ·)
      if isDrive hostText then return make none (normalPath .file rest)
      else if hostText = [] then return make none (pathAfterHost .file path)
      else
        let host ← Host.parse hostText
        let first := (path.drop 1).takeWhile (!slash ·)
        return make (if host = .domain "localhost" ∨ isDrive first then none else some host)
          (pathAfterHost .file path)
    else return make none (normalPath .file (if slash a then b :: rest else s))
  | _ => return make none (pathAfterHost .file s)

/-- An address of another scheme. -/
def parseOther (scheme : String) (hasMore : Bool) (s : List Char) : Except Fault Url :=
  match s with
  | '/' :: '/' :: rest => parseAuthority .other scheme hasMore rest
  | '/' :: rest =>
    .ok { scheme, hierarchical := false, path := String.ofList (normalPath .other rest) }
  | s =>
    .ok { scheme, hierarchical := false, path := String.ofList (percentEncode inControlSet s) }

def parseChars (s : List Char) : Except Fault Url := do
  match cutScheme (clean s) with
  | none => .error .relativeWithoutBase
  | some (scheme, rest) =>
    let (rest, fragment) := divide '#' rest
    let (rest, query) := divide '?' rest
    let kind := Kind.of scheme
    let hasMore := query.isSome || fragment.isSome
    let url ← match kind with
      | .web => parseAuthority .web scheme hasMore (rest.dropWhile (isSlash .web))
      | .file => parseFile rest
      | .other => parseOther scheme hasMore rest
    return { url with
      query := query.map fun q => String.ofList (percentEncode (inQuerySet (kind != .other)) q)
      fragment := fragment.map fun f => String.ofList (percentEncode inFragmentSet f) }

/-- Reads an address. -/
def parse (s : String) : Except Fault Url :=
  parseChars s.toList

def hostText? (u : Url) : Option String :=
  u.host.map Host.toString

def userInfo (u : Url) : String :=
  match u.user, u.password with
  | "", none => ""
  | user, none => user ++ "@"
  | user, some password => user ++ ":" ++ password ++ "@"

def hostAndPort (u : Url) : String :=
  (u.hostText?.getD "") ++ u.port.elim "" fun p => ":" ++ toString p.toNat

def pathAndMore (u : Url) : String :=
  u.path ++ u.query.elim "" ("?" ++ ·) ++ u.fragment.elim "" ("#" ++ ·)

/-- The address in its normal form. -/
protected def toString (u : Url) : String :=
  u.scheme ++ ":" ++ (if u.hierarchical then "//" ++ u.userInfo ++ u.hostAndPort else "") ++
    u.pathAndMore

def addPair (u : Url) (key value : String) : Url :=
  let pair := String.ofList (formEncode key.toList ++ '=' :: formEncode value.toList)
  match u.query with
  | none | some "" => { u with query := some pair }
  | some q => { u with query := some (q ++ "&" ++ pair) }

/-- Whether a text stands for characters once its bytes are decoded. -/
def isReadable (s : String) : Bool :=
  (String.fromUTF8? ⟨(percentDecode s.toList).toArray⟩).isSome

/-- The address without user and password, as far as these can be read. -/
def withoutUser (u : Url) : Url :=
  if isReadable u.user ∧ (u.user ≠ "" ∨ u.password.any isReadable) then
    { u with user := "", password := none }
  else u

end Url

end DeployPlan
