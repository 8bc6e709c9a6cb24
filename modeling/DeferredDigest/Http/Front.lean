import DeferredDigest.Http.Method
import DeferredDigest.Http.Target
import DeferredDigest.Http.UrlEncoded
import DeferredDigest.Service.Dispatch
/-!
# The HTTP front end

How an HTTP request reaches the service.  The method must be a token and the target a valid
request target; a content type must be a valid header value.  The form is gathered from the body,
then from the query, keeping the first value of each name.  The body counts only when it is not
empty and the content type is visible ASCII starting with `application/x-www-form-urlencoded`.
The method name and the target's path, undecoded, are dispatched as verb and path.

The response carries the reply's status and its body as JSON; a reply that lists verbs sets the
`Allow` header to them, separated by `, `.  A `HEAD` response has an empty body.
-/

namespace DeferredDigest

/-- An HTTP request as the front end sees it. -/
structure Request where
  method : String
  target : String
  contentType : Option String := none
  body : List UInt8 := []
deriving DecidableEq, Repr

/-- Why a request could not be formed. -/
inductive RequestError where
  | method
  | target (e : TargetError)
  | header
deriving DecidableEq, Repr

namespace RequestError

/-- The text that reports the error. -/
def message : RequestError → String
  | .method => "invalid HTTP method"
  | .target e => e.message
  | .header => "failed to parse header value"

/-- What failed to be formed: the method, or else the request as a whole. -/
def subject : RequestError → String
  | .method => "bad method"
  | _ => "bad request"

end RequestError

/-- An HTTP response. -/
structure Response where
  status : Nat
  allow : Option String
  contentType : String
  body : String
deriving DecidableEq, Repr

namespace Http

/-- The media type whose bodies are read as forms. -/
def formType : String := "application/x-www-form-urlencoded"

/-- The media type of every response body. -/
def jsonType : String := "application/json"

/-- Whether a header value is valid: no control character other than tab. -/
def isHeaderValue (v : String) : Bool :=
  v.toUTF8.toList.all fun b => (32 ≤ b && b != 127) || b = 9

/-- Whether a header value is visible ASCII, tabs allowed. -/
def isVisibleAscii (v : String) : Bool :=
  v.toUTF8.toList.all fun b => (32 ≤ b && b < 127) || b = 9

/-- Whether the body of a request with this content type is read as a form. -/
def isFormType (contentType : Option String) : Bool :=
  match contentType with
  | some v => isVisibleAscii v && v.startsWith formType
  | none => false

/-- The form of a request: the body's pairs first, if the body counts, then the query's. -/
def gatherForm (contentType : Option String) (body : List UInt8) (query : Option String) : Form :=
  let fromBody := if isFormType contentType && !body.isEmpty then UrlEncoded.pairs body else []
  let fromQuery := match query with
    | some q => UrlEncoded.pairs q.toUTF8.toList
    | none => []
  Form.ofPairs (fromBody ++ fromQuery)

/-- Checks a request and reads its target. -/
def accept (req : Request) : Except RequestError Target := do
  unless Method.isValid req.method do throw .method
  let target ← (Target.parse req.target).mapError .target
  if let some v := req.contentType then
    unless isHeaderValue v do throw .header
  return target

/-- The response for a reply. -/
def respond (method : String) (r : Reply) : Response :=
  { status := r.status
    allow := r.allow.map fun vs => ", ".intercalate (vs.map Verb.name)
    contentType := jsonType
    body := if method = "HEAD" then "" else r.body.render }

end Http

namespace Request

/-- A request written on one line: the method, a space, the target, and optionally a space and a
URL-encoded form body. -/
def ofLine? (line : String) : Option Request :=
  match line.splitOn " " with
  | [method, target] => some { method, target }
  | method :: target :: body =>
    some { method, target, contentType := some Http.formType
           body := (" ".intercalate body).toUTF8.toList }
  | _ => none

end Request

namespace Response

/-- A response on one line: the status, a space, and the body. -/
def line (r : Response) : String := toString r.status ++ " " ++ r.body

end Response

namespace Service

/-- Answers an HTTP request. -/
def serve (s : Service) (req : Request) : Except RequestError (Response × Service) := do
  let target ← Http.accept req
  let form := Http.gatherForm req.contentType req.body target.query
  let (out, s') := s.dispatch req.method target.path form
  return (Http.respond req.method out.reply, s')

end Service

end DeferredDigest
