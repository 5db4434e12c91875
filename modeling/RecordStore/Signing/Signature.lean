/-
RecordStore.Signing.Signature -- signing a request

The key of a signature is derived from the secret for one day, one region and one
service.  Signing a request gives the headers to send with it.
-/
import RecordStore.Signing.Canonical
import RecordStore.Signing.Credentials
import RecordStore.Url.Basic

namespace RecordStore.Signing

set_option autoImplicit false

open RecordStore.Text

/-- A request to sign. -/
structure Signable where
  region : String
  endpoint : Url
  target : String
  contentType : String
  body : List UInt8

/-- The host header of requests to an endpoint. -/
def hostHeader (endpoint : Url) : Except WireError String :=
  match endpoint.host? with
  | some host =>
    .ok (match endpoint.port? with
      | some port => host ++ ":" ++ Number.integerText port
      | none => host)
  | none => .error (.signing ("endpoint '" ++ endpoint.text ++ "' has no host"))

/-- What is signed of a request by the holder of credentials. -/
def Signable.canonical (s : Signable) (credentials : Credentials) (host : String) (time : Calendar) :
    Canonical :=
  ⟨s.endpoint.path, s.contentType, host, time.stampText, credentials.token?, s.target, s.body⟩

/-- The key for a day and a region. -/
def signingKey (secret date region : String) : List UInt8 :=
  [date, region, service, "aws4_request"].foldl
    (fun key part => Sha256.keyed key part.toUTF8.toList) ("AWS4" ++ secret).toUTF8.toList

/-- The signature over a canonical text. -/
def signature (credentials : Credentials) (region : String) (time : Calendar) (canonical : String) :
    String :=
  Hex.ofBytes (Sha256.keyed (signingKey credentials.secret time.dateText region)
    (stringToSign time region canonical).toUTF8.toList)

/-- The headers to send with a request that is signed at an instant. -/
def sign (credentials : Credentials) (s : Signable) (now : Timestamp) :
    Except WireError (List (String × String)) := do
  let host ← hostHeader s.endpoint
  let time := Calendar.ofTimestamp now
  let canonical := s.canonical credentials host time
  let authorization := algorithm ++ " Credential=" ++ credentials.id ++ "/"
    ++ scope time.dateText s.region ++ ", SignedHeaders=" ++ canonical.signedNames
    ++ ", Signature=" ++ signature credentials s.region time canonical.text
  return [("authorization", authorization), ("x-amz-date", time.stampText)]
    ++ (match credentials.token? with
      | some token => [("x-amz-security-token", token)]
      | none => [])

end RecordStore.Signing
