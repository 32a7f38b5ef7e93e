import DepositGate.Http.Uri
import DepositGate.Net.SocketAddr

/-!
# Requests and responses

Requests as a listener hands them over, and responses as it gets them back. Names of headers are in
lower case, and headers of one name keep their order. The body of a response is what the client has
after undoing its content encoding.
-/

namespace DepositGate.Http

abbrev Headers := List (String × String)

namespace Headers

def all (headers : Headers) (name : String) : List String :=
  (headers.filter (·.1 == name)).map (·.2)

def first? (headers : Headers) (name : String) : Option String :=
  (headers.find? (·.1 == name)).map (·.2)

def has (headers : Headers) (name : String) : Bool :=
  headers.any (·.1 == name)

def erase (headers : Headers) (name : String) : Headers :=
  headers.filter (·.1 != name)

def set (headers : Headers) (name value : String) : Headers :=
  headers.erase name ++ [(name, value)]

end Headers

/-- Whether a value consists of visible characters, blanks and tabs. Other values cannot be read as
text. -/
def isVisible (value : String) : Bool :=
  value.toList.all fun c ↦ c == '\t' || (0x20 ≤ c.toNat && c.toNat < 0x7F)

def Headers.firstText? (headers : Headers) (name : String) : Option String :=
  (headers.first? name).filter isVisible

/-- Whether a text can be the value of a header: it holds no control characters but tabs. -/
def isHeaderValue (value : String) : Bool :=
  value.toList.all fun c ↦ c == '\t' || (0x20 ≤ c.toNat && c.toNat != 0x7F)

inductive Protocol where
  | http
  | https
deriving DecidableEq, Repr

def Protocol.name : Protocol → String
  | http => "HTTP"
  | https => "HTTPS"

structure Request where
  method : String
  uri : Uri
  headers : Headers
  body : List UInt8
  peer : Option Net.SocketAddr
  protocol : Option Protocol
deriving DecidableEq, Repr

structure Body where
  /-- The bytes that the client has after undoing the content encoding. -/
  content : List UInt8
  sized : Bool
deriving DecidableEq, Repr

namespace Body

def empty : Body := ⟨[], true⟩

end Body

structure Response where
  status : Nat
  headers : Headers
  body : Body
deriving DecidableEq, Repr

def reasonPhrase (status : Nat) : String :=
  match status with
  | 200 => "OK"
  | 206 => "Partial Content"
  | 301 => "Moved Permanently"
  | 304 => "Not Modified"
  | 307 => "Temporary Redirect"
  | 400 => "Bad Request"
  | 403 => "Forbidden"
  | 404 => "Not Found"
  | 405 => "Method Not Allowed"
  | 408 => "Request Timeout"
  | 412 => "Precondition Failed"
  | 415 => "Unsupported Media Type"
  | 416 => "Range Not Satisfiable"
  | 429 => "Too Many Requests"
  | 500 => "Internal Server Error"
  | _ => ""

namespace Response

def bare (status : Nat) (headers : Headers) : Response :=
  ⟨status, headers, .empty⟩

def setHeader (name value : String) (r : Response) : Response :=
  { r with headers := r.headers.set name value }

def measured (r : Response) : Response :=
  if r.headers.has "content-length" || !r.body.sized then r
  else { r with headers := r.headers ++ [("content-length", toString r.body.content.length)] }

/-- Whether a response in answer to a method turns the connection into a tunnel. -/
def opensTunnel (method : String) (r : Response) : Bool :=
  method == "CONNECT" && 200 ≤ r.status && r.status < 300

/-- The response as it is sent in answer to a method: that to HEAD leaves the body out, and one that opens
a tunnel has none. -/
def stripped (method : String) (r : Response) : Response :=
  if method = "HEAD" ∨ r.opensTunnel method then { r with body := .empty } else r

/-- The response as it is sent in answer to a method, with the length of what is left out for HEAD. -/
def framed (method : String) (r : Response) : Response :=
  if r.opensTunnel method then r.stripped method else r.measured.stripped method

end Response

end DepositGate.Http
