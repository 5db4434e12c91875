/-
RecordStore.Http -- requests of the wire as exchanges over HTTP

Each request is posted as protocol JSON with a header that names the operation,
and signed.  A status of success has a body that answers the request; any other
status is a refusal by the service, with the code and the text of the body if it
has them, and with the status and the whole body if it does not.
-/
import RecordStore.Signing.Signature
import RecordStore.Wire.Codec

namespace RecordStore.Http

set_option autoImplicit false

open RecordStore.Wire RecordStore.Signing

/-- What is posted. -/
structure Post where
  url : Url
  headers : List (String × String)
  body : String

/-- What comes back. -/
structure Response where
  status : Nat
  text : String
  deriving DecidableEq

def contentType : String := "application/x-amz-json-1.0"

/-- The header value that names an operation. -/
def target (r : Request) : String := "DynamoDB_20120810." ++ r.operationName

/-- The post of a request, signed at an instant. -/
def post (credentials : Credentials) (region : String) (endpoint : Url) (now : Timestamp)
    (r : Request) : Except WireError Post := do
  let body := r.toJson.render
  let signed ← sign credentials ⟨region, endpoint, target r, contentType, body.toUTF8.toList⟩ now
  return ⟨endpoint, [("content-type", contentType), ("x-amz-target", target r)] ++ signed, body⟩

/-- A status of success. -/
def isSuccess (status : Nat) : Bool := 200 ≤ status && status ≤ 299

/-- The code and the text of a refusal, if the body names its kind. -/
def refusalOf? (text : String) : Option (String × String) :=
  match Json.Reader.parse Refusal.schema.read text with
  | .ok refusal => if refusal.kind.isEmpty then none else some (refusal.code, refusal.text)
  | .error _ => none

/-- What a status that is no success means. -/
def refusal (response : Response) : WireError :=
  match refusalOf? response.text with
  | some (code, text) => .service response.status code text
  | none =>
    .service response.status ("HTTP " ++ Number.integerText response.status) response.text

/-- The answer to a request that a response holds. -/
def interpret (r : Request) (response : Response) : Except WireError r.Response :=
  if isSuccess response.status then
    (Json.Reader.parse r.readResponse response.text).mapError .serialization
  else .error (refusal response)

/-- One exchange: none comes back from the transport when the service cannot be reached. -/
def exchange (credentials : Credentials) (region : String) (endpoint : Url)
    (transport : Post → Option Response) (now : Timestamp) (r : Request) :
    Except WireError r.Response := do
  match transport (← post credentials region endpoint now r) with
  | some response => interpret r response
  | none => .error .network

end RecordStore.Http
