/-
RecordStore.Endpoint -- where requests go

Requests go to the endpoint of the region, unless another one is named.  A named
endpoint is checked when a client is built: it must be a URL with a host.
-/
import RecordStore.Notice
import RecordStore.Url.Parser

namespace RecordStore

set_option autoImplicit false

inductive Endpoint
  | regional
  | custom (url : String)
  deriving DecidableEq

namespace Endpoint

/-- The text of a named endpoint. -/
def custom? : Endpoint → Option String
  | .regional => none
  | .custom url => some url

/-- The text of the endpoint of a region. -/
def regionalText (region : String) : String := "https://dynamodb." ++ region ++ ".amazonaws.com"

def resolveRegional (region : String) : Except StoreError Url :=
  match Url.parse (regionalText region) with
  | .ok url => .ok url
  | .error fault => .error (.configuration (.invalidRegion region fault))

def resolveCustom (raw : String) : Except StoreError Url × List Notice :=
  match Url.parse raw with
  | .error fault => (.error (.configuration (.invalidEndpoint raw fault)), [.invalidEndpoint raw fault])
  | .ok url =>
    if (url.host?.filter fun host => !host.isEmpty).isSome then (.ok url, [])
    else (.error (.configuration (.endpointWithoutHost raw)), [.endpointWithoutHost raw])

/-- The URL of the endpoint for a region, and the notices that finding it gave. -/
def resolve (endpoint : Endpoint) (region : String) : Except StoreError Url × List Notice :=
  match endpoint with
  | .regional => (resolveRegional region, [])
  | .custom raw => resolveCustom raw

end Endpoint

end RecordStore
