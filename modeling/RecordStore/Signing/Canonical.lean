/-
RecordStore.Signing.Canonical -- the text that a signature covers

Of a request the path, some headers and the digest of the body are signed.  They
are brought into one text, a part per line: header values lose the blanks around
them, and the headers stand in the order of their names.  The second text names
the instant and the scope of the signature and the digest of the first one.
-/
import RecordStore.Calendar
import RecordStore.Signing.Digest
import RecordStore.Text.Blank

namespace RecordStore.Signing

set_option autoImplicit false

open RecordStore.Text

/-- What is signed of a request. -/
structure Canonical where
  path : String
  contentType : String
  host : String
  stamp : String
  token? : Option String
  target : String
  body : List UInt8

/-- The digest of bytes in base sixteen. -/
def hexDigest (bytes : List UInt8) : String := Hex.ofBytes (Sha256.digest bytes)

namespace Canonical

/-- The signed headers, in the order of their names. -/
def headers (c : Canonical) : List (String × String) :=
  [("content-type", c.contentType), ("host", c.host), ("x-amz-date", c.stamp)]
    ++ (match c.token? with
      | some token => [("x-amz-security-token", token)]
      | none => [])
    ++ [("x-amz-target", c.target)]

/-- The names of the signed headers. -/
def signedNames (c : Canonical) : String := ";".intercalate (c.headers.map (·.1))

/-- One header as a line. -/
def headerLine (header : String × String) : String := header.1 ++ ":" ++ trim header.2 ++ "\n"

def headerLines : List (String × String) → String
  | [] => ""
  | header :: rest => headerLine header ++ headerLines rest

/-- The path, which is never empty. -/
def rootedPath (c : Canonical) : String := if c.path.isEmpty then "/" else c.path

/-- The first text. -/
def text (c : Canonical) : String :=
  "POST\n" ++ c.rootedPath ++ "\n\n" ++ headerLines c.headers ++ "\n" ++ c.signedNames ++ "\n"
    ++ hexDigest c.body

end Canonical

/-- The service that is asked. -/
def service : String := "dynamodb"

/-- How signatures are made. -/
def algorithm : String := "AWS4-HMAC-SHA256"

/-- Where and when a signature holds. -/
def scope (date region : String) : String := date ++ "/" ++ region ++ "/" ++ service ++ "/aws4_request"

/-- The second text: what the signature is the keyed digest of. -/
def stringToSign (time : Calendar) (region canonical : String) : String :=
  algorithm ++ "\n" ++ time.stampText ++ "\n" ++ scope time.dateText region ++ "\n"
    ++ hexDigest canonical.toUTF8.toList

end RecordStore.Signing
