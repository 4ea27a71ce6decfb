import DeployPlan.Http.Message
import DeployPlan.Json.Shape
import DeployPlan.Url.Parser

/-!
# Making requests

A client answers each request or tells why it cannot. `HttpClient.overNetwork` makes one from a
connection that either brings an answer or breaks: it refuses addresses that no request can be made
for.
-/

namespace DeployPlan

/-- Makes requests. -/
structure HttpClient (m : Type → Type) where
  get : HttpRequest → m (Except HttpFailure HttpResponse)

namespace HttpRequest

/-- A character that may stand in an authorization. -/
def isTokenChar (c : Char) : Bool :=
  (0x20 ≤ c.toNat && c.toNat ≠ 0x7f) || c == '\t'

/-- The address as messages show it: in its normal form, without user and password. -/
def shownUrl (r : HttpRequest) : String :=
  match Url.parse r.url with
  | .ok url => url.withoutUser.toString
  | .error _ => r.url

/-- The greatest length of an address in a request. -/
def longestUrl : Nat := 65534

/-- A mark that encloses texts. -/
def isEnclosing (c : Char) : Bool :=
  c == '"' || c.toNat == 0x60 || c == '\x7b' || c == '\x7d'

/-- Whether an address may stand in a request: it is not too long, and no mark that encloses texts
is in its host. -/
def isSendable (url : Url) : Bool :=
  !(url.hostText?.getD "").toList.any isEnclosing &&
    url.withoutUser.toString.utf8ByteSize ≤ longestUrl

/-- Why the request cannot be made, if it cannot. -/
def fault? (r : HttpRequest) : Option HttpFailure :=
  match Url.parse r.url with
  | .error _ => some .malformed
  | .ok url =>
    if url.host.isNone then some (.unsupported url.toString)
    else if r.bearer.any (!·.toList.all isTokenChar) then some .malformed
    else if (url.scheme = "http" ∨ url.scheme = "https") ∧ isSendable url then none
    else some (.unsupported r.shownUrl)

end HttpRequest

/-- Requests over a connection, which has no answer if it breaks. -/
def HttpClient.overNetwork {m : Type → Type} [Monad m]
    (connect : HttpRequest → m (Option HttpResponse)) : HttpClient m where
  get r := do
    match r.fault? with
    | some fault => return .error fault
    | none =>
      match ← connect r with
      | some response => return .ok response
      | none => return .error (.unreachable r.shownUrl)

namespace HttpResponse

/-- The document in the body, which has to have a shape. -/
def decode {α : Type} (r : HttpResponse) (shape : Json.Shape) (read : Json → Option α) :
    Except HttpFailure α :=
  match (shape.parse r.body).toOption.bind read with
  | some a => .ok a
  | none => .error .undecodable

end HttpResponse

end DeployPlan
