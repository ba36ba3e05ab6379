import IssueFilter.Http.MediaType
import IssueFilter.Http.Target
import IssueFilter.Service.Endpoint

/-! The service over HTTP. A request is answered from its method, path, headers and body alone; how
long an answer took is added by whoever measures it. -/
namespace IssueFilter.Http

structure Request where
  method : String
  target : String
  headers : List (String × String)
  body : String
  deriving DecidableEq, Repr

structure Response where
  status : Nat
  headers : List (String × String)
  body : Option ReplyBody
  deriving DecidableEq, Repr

/-- Pages from anywhere may use the service. -/
def anyOrigin : String × String := ("access-control-allow-origin", "*")

def preflightHeaders : List (String × String) :=
  [anyOrigin, ("access-control-allow-methods", "POST"), ("access-control-allow-headers", "*")]

/-- Every path of the service takes this method only. -/
def allowed : String × String := ("allow", "POST")

def isToken (s : String) : Bool := !s.isEmpty && s.toList.all MediaType.isTokenChar

/-- Headers hold no control characters but tabs. -/
def isHeaderChar (c : Char) : Bool := c = '\t' || (c.toNat ≥ 0x20 && c.toNat ≠ 0x7F)

/-- Whether the method and the headers are such as a request may have. -/
def Request.isWellFormed (request : Request) : Bool :=
  isToken request.method &&
    request.headers.all fun (name, value) => isToken name && value.toList.all isHeaderChar

/-- The path that a request goes to, unless it cannot be made out what is asked for. -/
def Request.path? (request : Request) : Option String :=
  if request.isWellFormed then Target.path? request.target else none

def Request.header? (request : Request) (name : String) : Option String :=
  (request.headers.find? fun (key, _) => Ascii.sameText key name).map (·.2)

def Request.declaresJson (request : Request) : Bool :=
  ((request.header? "content-type").bind MediaType.parse?).any MediaType.isJson

def endpoint? : String → Option Endpoint
  | "/v1/validate" => some .validate
  | "/v1/sanitise" => some .sanitise
  | "/v1/search" => some .search
  | _ => none

def refusal (status : Nat) (headers : List (String × String)) : Response := ⟨status, headers, none⟩

/-- The status for a body that is no request: it is no JSON at all, or of another shape. -/
def faultStatus : Json.Fault → Nat
  | .malformed => 400
  | .mismatched => 422

def maxBodySize : Nat := 2097152

/-- Serves a body that was sent to an endpoint. What comes after the JSON value is ignored. -/
def serve (runner : Runner OnThread) (endpoint : Endpoint) (request : Request) :
    OnThread Response :=
  if !request.declaresJson then return refusal 415 [anyOrigin]
  else if request.body.utf8ByteSize > maxBodySize then return refusal 413 [anyOrigin]
  else
    match Json.decodeLeading IssueFilter.Request.ofJson request.body with
    | .error fault => return refusal (faultStatus fault) [anyOrigin]
    | .ok decoded => do
      let reply ← endpoint.handle runner decoded
      return ⟨reply.status.code, [anyOrigin], some reply.body⟩

def respondAt (path : String) (runner : Runner OnThread) (request : Request) :
    OnThread Response :=
  match endpoint? path, request.method with
  | some _, "OPTIONS" => return refusal 200 (allowed :: preflightHeaders)
  | none, "OPTIONS" => return refusal 200 preflightHeaders
  | none, _ => return refusal 404 [anyOrigin]
  | some endpoint, "POST" => serve runner endpoint request
  | some _, _ => return refusal 405 [anyOrigin, allowed]

/-- Answers a request. One that goes to no path, known or unknown, is refused. -/
def respond (runner : Runner OnThread) (request : Request) : OnThread Response :=
  match request.path? with
  | some path => respondAt path runner request
  | none => return refusal 400 []

end IssueFilter.Http
