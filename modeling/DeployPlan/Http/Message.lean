/-!
# Requests and answers

All requests read something. A request names its address as the caller writes it; an answer has a
status, headers and a text.
-/

namespace DeployPlan

/-- A request for what is at an address, as the caller makes it. A header that the client makes of a
user and a password in the address is not part of it. -/
structure HttpRequest where
  url : String
  /-- The kinds of documents that the caller understands. -/
  accept : Option String := none
  /-- The token that authorizes the request. -/
  bearer : Option String := none
  deriving DecidableEq, Repr, Inhabited

/-- What a server answers. -/
structure HttpResponse where
  status : Nat
  /-- Names, in lower case, and values. -/
  headers : List (String × String) := []
  body : String := ""
  deriving DecidableEq, Repr, Inhabited

namespace HttpResponse

/-- The request was understood and fulfilled. -/
def isSuccess (r : HttpResponse) : Bool :=
  200 ≤ r.status && r.status < 300

/-- The server holds the request or itself to be at fault. -/
def isError (r : HttpResponse) : Bool :=
  400 ≤ r.status && r.status < 600

/-- A character that may stand in a header that is read as text. -/
def isVisible (c : Char) : Bool :=
  (0x20 ≤ c.toNat && c.toNat < 0x7f) || c == '\t'

/-- The first header of that name, if it is readable. -/
def header? (r : HttpResponse) (name : String) : Option String :=
  ((r.headers.find? (·.1 = name)).map (·.2)).filter fun v => v.toList.all isVisible

end HttpResponse

def HttpStatus.reason? (status : Nat) : Option String :=
  match status with
  | 100 => some "Continue"
  | 101 => some "Switching Protocols"
  | 102 => some "Processing"
  | 200 => some "OK"
  | 201 => some "Created"
  | 202 => some "Accepted"
  | 203 => some "Non Authoritative Information"
  | 204 => some "No Content"
  | 205 => some "Reset Content"
  | 206 => some "Partial Content"
  | 207 => some "Multi-Status"
  | 208 => some "Already Reported"
  | 226 => some "IM Used"
  | 300 => some "Multiple Choices"
  | 301 => some "Moved Permanently"
  | 302 => some "Found"
  | 303 => some "See Other"
  | 304 => some "Not Modified"
  | 305 => some "Use Proxy"
  | 307 => some "Temporary Redirect"
  | 308 => some "Permanent Redirect"
  | 400 => some "Bad Request"
  | 401 => some "Unauthorized"
  | 402 => some "Payment Required"
  | 403 => some "Forbidden"
  | 404 => some "Not Found"
  | 405 => some "Method Not Allowed"
  | 406 => some "Not Acceptable"
  | 407 => some "Proxy Authentication Required"
  | 408 => some "Request Timeout"
  | 409 => some "Conflict"
  | 410 => some "Gone"
  | 411 => some "Length Required"
  | 412 => some "Precondition Failed"
  | 413 => some "Payload Too Large"
  | 414 => some "URI Too Long"
  | 415 => some "Unsupported Media Type"
  | 416 => some "Range Not Satisfiable"
  | 417 => some "Expectation Failed"
  | 418 => some "I'm a teapot"
  | 421 => some "Misdirected Request"
  | 422 => some "Unprocessable Entity"
  | 423 => some "Locked"
  | 424 => some "Failed Dependency"
  | 426 => some "Upgrade Required"
  | 428 => some "Precondition Required"
  | 429 => some "Too Many Requests"
  | 431 => some "Request Header Fields Too Large"
  | 451 => some "Unavailable For Legal Reasons"
  | 500 => some "Internal Server Error"
  | 501 => some "Not Implemented"
  | 502 => some "Bad Gateway"
  | 503 => some "Service Unavailable"
  | 504 => some "Gateway Timeout"
  | 505 => some "HTTP Version Not Supported"
  | 506 => some "Variant Also Negotiates"
  | 507 => some "Insufficient Storage"
  | 508 => some "Loop Detected"
  | 510 => some "Not Extended"
  | 511 => some "Network Authentication Required"
  | _ => none

/-- A status with its meaning. -/
def HttpStatus.text (status : Nat) : String :=
  toString status ++ " " ++ (HttpStatus.reason? status).getD "<unknown status code>"

/-- Why a request has no usable answer. -/
inductive HttpFailure
  /-- The address or the token cannot stand in a request. -/
  | malformed
  /-- Nobody can be asked for this address. -/
  | unsupported (url : String)
  /-- The server cannot be reached, or hangs up. -/
  | unreachable (url : String)
  /-- The body is not the document that is needed. -/
  | undecodable
  /-- The server answers with an error. -/
  | refused (status : Nat) (url : String)
  deriving DecidableEq, Repr

/-- The wording of a failure. -/
def HttpFailure.message : HttpFailure → String
  | .malformed => "builder error"
  | .unsupported url => "builder error for url (" ++ url ++ ")"
  | .unreachable url => "error sending request for url (" ++ url ++ ")"
  | .undecodable => "error decoding response body"
  | .refused status url =>
    "HTTP status " ++ (if status < 500 then "client" else "server") ++ " error (" ++
      HttpStatus.text status ++ ") for url (" ++ url ++ ")"

end DeployPlan
