/-
RecordStore.Error -- the failures a caller can see

Every failure is a cause; the wording is in the `message` functions.  A missing
key is a cause of its own, so that it can be told from all others, and failures
of the wire are passed on inside `StoreError.backend`.
-/
import RecordStore.Context
import RecordStore.Json.Cause
import RecordStore.Url.Fault
import RecordStore.Wire.Attribute

namespace RecordStore

set_option autoImplicit false

open RecordStore.Number RecordStore.Wire

/-- Failures of a wire client. -/
inductive WireError
  /-- The exchange did not take place. -/
  | network
  /-- A request could not be written or a response not be read. -/
  | serialization (cause : Json.Cause)
  /-- The service answered with a status that is no success. -/
  | service (status : Nat) (code text : String)
  /-- The request could not be signed. -/
  | signing (text : String)
  /-- The client was told to fail. -/
  | injected (text : String)
  deriving DecidableEq

def WireError.message : WireError → String
  | .network => "network error"
  | .serialization cause => "serialization error: " ++ cause.message
  | .service status code text =>
    "service error (" ++ integerText status ++ ") " ++ code ++ ": " ++ text
  | .signing text => "signing error: " ++ text
  | .injected text => "injected failure: " ++ text

/-- What the backend did that it must not do. -/
inductive Breach
  | missingAttribute (name : String)
  | notString (name : String) (found : AttributeValue)
  | notNumber (name : String) (found : AttributeValue)
  | invalidTimestamp (name : String) (text : String)
  /-- The task of a shared read ended without a result. -/
  | readEnded
  | other (text : String)
  deriving DecidableEq

def Breach.message : Breach → String
  | .missingAttribute name => "attribute '" ++ name ++ "' is missing"
  | .notString name found => "attribute '" ++ name ++ "' is not a string: " ++ found.shown
  | .notNumber name found => "attribute '" ++ name ++ "' is not a number: " ++ found.shown
  | .invalidTimestamp name text =>
    "attribute '" ++ name ++ "' is not a valid timestamp: " ++ text
  | .readEnded => "shared read ended without a result"
  | .other text => text

/-- A setting with which no client can be built. -/
inductive SettingFault
  | containerRequired
  | noCredentials
  | duplicateRegistration
  | invalidRegion (region : String) (fault : Url.Fault)
  | invalidEndpoint (endpoint : String) (fault : Url.Fault)
  | endpointWithoutHost (endpoint : String)
  | other (text : String)
  deriving DecidableEq

def SettingFault.message : SettingFault → String
  | .containerRequired => "container name is required"
  | .noCredentials =>
    "no credentials configured and AWS_ACCESS_KEY_ID/AWS_SECRET_ACCESS_KEY unset"
  | .duplicateRegistration => "Duplicate metrics collector registration attempted"
  | .invalidRegion region fault => "invalid region '" ++ region ++ "': " ++ fault.message
  | .invalidEndpoint endpoint fault =>
    "invalid endpoint URL '" ++ endpoint ++ "': " ++ fault.message
  | .endpointWithoutHost endpoint => "endpoint URL '" ++ endpoint ++ "' has no host"
  | .other text => text

/-- What a backend failed with. -/
inductive BackendFailure
  | wire (error : WireError)
  | other (text : String)
  deriving DecidableEq

def BackendFailure.message : BackendFailure → String
  | .wire error => error.message
  | .other text => text

/-- Failures of a store operation. -/
inductive StoreError
  | emptyKey
  | keyNotFound
  | nilItem
  | tooManyKeys (count max : Nat)
  | convert
  | marshal (cause : Json.Cause)
  | internal (breach : Breach)
  | configuration (fault : SettingFault)
  | cancelled (reason : StopReason)
  | backend (failure : BackendFailure)
  deriving DecidableEq

namespace StoreError

def message : StoreError → String
  | .emptyKey => "key cannot be empty"
  | .keyNotFound => "key not found"
  | .nilItem => "item cannot be nil"
  | .tooManyKeys count max =>
    "too many keys: " ++ integerText count ++ " (max: " ++ integerText max ++ ")"
  | .convert => "failed to convert item"
  | .marshal cause => "failed to marshal item: " ++ cause.message
  | .internal breach => "internal error: " ++ breach.message
  | .configuration fault => "invalid configuration: " ++ fault.message
  | .cancelled reason => "operation cancelled: " ++ reason.message
  | .backend failure => "backend error: " ++ failure.message

/-- A failure of the wire, as callers see it. -/
def ofWire (error : WireError) : StoreError := .backend (.wire error)

/-- The expected outcome of a read that there is no such key. -/
def isNotFound : StoreError → Bool
  | .keyNotFound => true
  | _ => false

/-- Raised before anything is sent. -/
def isValidation : StoreError → Bool
  | .emptyKey | .nilItem | .tooManyKeys .. => true
  | _ => false

/-- Passed on from the wire, a cancelled wait included. -/
def isBackend : StoreError → Bool
  | .backend _ | .cancelled _ => true
  | _ => false

end StoreError

end RecordStore
