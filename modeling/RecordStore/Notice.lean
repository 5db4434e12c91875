/-
RecordStore.Notice -- warnings and errors for the log

A notice tells of something that was passed over or went wrong without being an
answer to the caller.  It has a level, a message, and fields that name what it
is about.
-/
import RecordStore.Error

namespace RecordStore

set_option autoImplicit false

/-- Where a batch was going: the container, or the table it maps to. -/
inductive Place
  | container (name : String)
  | table (name : String)
  deriving DecidableEq

inductive Notice
  | emptyKey (place : Place)
  | unencodable (place : Place) (key : String) (error : StoreError)
  | undecodableValue (container key : String) (error : StoreError)
  | undecodableItem (table : String) (error : StoreError)
  | unprocessedKeys (table : String) (count : Nat)
  | unprocessedWrites (table : String) (count : Nat)
  | batchWriteFailed (table : String) (count : Nat) (error : StoreError)
  | invalidTtl (value : String) (fault : Number.WholeFault)
  | invalidEndpoint (endpoint : String) (fault : Url.Fault)
  | endpointWithoutHost (endpoint : String)
  deriving DecidableEq

/-- How grave a notice is. -/
inductive Notice.Level
  | warning
  | error
  deriving DecidableEq

/-- What a field of a notice holds. -/
inductive Notice.Field
  | text (s : String)
  | count (n : Nat)
  deriving DecidableEq

namespace Notice

def level : Notice → Level
  | .batchWriteFailed .. => .error
  | _ => .warning

def message : Notice → String
  | .emptyKey _ => "skipping record with empty key"
  | .unencodable .. => "skipping unencodable record"
  | .undecodableValue .. => "skipping record that does not decode"
  | .undecodableItem .. => "dropping undecodable item"
  | .unprocessedKeys .. => "batch get left keys unprocessed"
  | .unprocessedWrites .. => "batch write left items unprocessed"
  | .batchWriteFailed .. => "batch write failed"
  | .invalidTtl .. => "ignoring invalid KVS_TTL_SECONDS"
  | .invalidEndpoint .. => "invalid custom endpoint"
  | .endpointWithoutHost _ => "custom endpoint has no host"

/-- The field that names a place. -/
def placeField : Place → String × Field
  | .container name => ("container", .text name)
  | .table name => ("table", .text name)

def fields : Notice → List (String × Field)
  | .emptyKey place => [placeField place]
  | .unencodable place key error =>
    [placeField place, ("key", .text key), ("error", .text error.message)]
  | .undecodableValue container key error =>
    [("container", .text container), ("key", .text key), ("error", .text error.message)]
  | .undecodableItem table error => [("table", .text table), ("error", .text error.message)]
  | .unprocessedKeys table count => [("table", .text table), ("count", .count count)]
  | .unprocessedWrites table count => [("table", .text table), ("count", .count count)]
  | .batchWriteFailed table count error =>
    [("table", .text table), ("count", .count count), ("error", .text error.message)]
  | .invalidTtl value fault => [("value", .text value), ("error", .text fault.message)]
  | .invalidEndpoint endpoint fault =>
    [("endpoint", .text endpoint), ("error", .text fault.message)]
  | .endpointWithoutHost endpoint => [("endpoint", .text endpoint)]

end Notice

end RecordStore
