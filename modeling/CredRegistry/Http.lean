import CredRegistry.Dialogue

/-!
# HTTP requests

Requests with a JSON body or none, the replies to them, and which paths a request
can have.
-/

namespace CredRegistry.Http

/-- What a request is for. -/
inductive Method where
  | get
  | post
  | put
deriving Repr, DecidableEq

def Method.name : Method → String
  | .get => "GET"
  | .post => "POST"
  | .put => "PUT"

/-- A request; the target is a path with or without a query. -/
structure Request where
  method : Method
  target : String
  body : Option Json.Value
deriving Repr

/-- What a request is answered with. -/
structure Reply where
  status : Nat
  body : String
deriving Repr, DecidableEq

/-- A request is answered, or the text says why it did not get through. -/
abbrev Answer (_ : Request) : Type := Except String Reply

abbrev Task := Dialogue Request Answer

def exchange (r : Request) : Task (Except String Reply) := Dialogue.call r

/-! ## Replies -/

/-- Does the status say that the request has failed? -/
def Reply.isFailure (r : Reply) : Bool := 400 ≤ r.status && r.status < 600

def statusName : Nat → String
  | 400 => "Bad Request"
  | 401 => "Unauthorized"
  | 402 => "Payment Required"
  | 403 => "Forbidden"
  | 404 => "Not Found"
  | 405 => "Method Not Allowed"
  | 406 => "Not Acceptable"
  | 407 => "Proxy Authentication Required"
  | 408 => "Request Timeout"
  | 409 => "Conflict"
  | 410 => "Gone"
  | 411 => "Length Required"
  | 412 => "Precondition Failed"
  | 413 => "Payload Too Large"
  | 414 => "URI Too Long"
  | 415 => "Unsupported Media Type"
  | 416 => "Range Not Satisfiable"
  | 417 => "Expectation Failed"
  | 418 => "I'm a teapot"
  | 421 => "Misdirected Request"
  | 422 => "Unprocessable Entity"
  | 423 => "Locked"
  | 424 => "Failed Dependency"
  | 425 => "Too Early"
  | 426 => "Upgrade Required"
  | 428 => "Precondition Required"
  | 429 => "Too Many Requests"
  | 431 => "Request Header Fields Too Large"
  | 451 => "Unavailable For Legal Reasons"
  | 500 => "Internal Server Error"
  | 501 => "Not Implemented"
  | 502 => "Bad Gateway"
  | 503 => "Service Unavailable"
  | 504 => "Gateway Timeout"
  | 505 => "HTTP Version Not Supported"
  | 506 => "Variant Also Negotiates"
  | 507 => "Insufficient Storage"
  | 508 => "Loop Detected"
  | 510 => "Not Extended"
  | 511 => "Network Authentication Required"
  | _ => "<unknown status code>"

def statusText (status : Nat) : String := s!"{status} {statusName status}"

/-! ## Targets -/

/-- Why a text is no target. -/
inductive TargetFault where
  | invalidCharacter
  | tooLong
deriving Repr, DecidableEq

def TargetFault.message : TargetFault → String
  | .invalidCharacter => "invalid uri character"
  | .tooLong => "uri too long"

def targetBound : Nat := 65534

def isPathChar (c : Char) : Bool :=
  let n := c.toNat
  n == 0x21 || n == 0x22 || (0x24 ≤ n && n ≤ 0x3B) || n == 0x3D || (0x40 ≤ n && n ≤ 0x5F)
    || (0x61 ≤ n && n ≠ 0x7F)

def isQueryChar (c : Char) : Bool :=
  let n := c.toNat
  n == 0x21 || (0x24 ≤ n && n ≤ 0x3B) || n == 0x3D || (0x3F ≤ n && n ≠ 0x7F)

/-- The path and the query of a text that begins with a slash; a fragment is cut
off. -/
def target (text : String) : Except TargetFault String :=
  let cs := text.toList
  let path := cs.takeWhile fun c => c ≠ '?' && c ≠ '#'
  let query := match cs.drop path.length with
    | '?' :: cs => '?' :: cs.takeWhile (· ≠ '#')
    | _ => []
  if targetBound < text.utf8ByteSize then .error .tooLong
  else if path.all isPathChar && query.all (fun c => c == '?' || isQueryChar c) then
    .ok (String.ofList (path ++ query))
  else .error .invalidCharacter

end CredRegistry.Http
