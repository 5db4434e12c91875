/-
RecordStore.Record -- one key, one value, one expiry

The value of a record is a payload that a caller handed in, JSON text as a
backend keeps it, or the cause why a payload could not become JSON.  Payloads
are written when a record is saved, text passes through as it is, and only text
can be decoded.  The expiry is an absolute time in seconds; times that are not
positive mean that the record never expires.
-/
import RecordStore.Duration
import RecordStore.Error
import RecordStore.Json.Printer
import RecordStore.Json.Reader

namespace RecordStore

set_option autoImplicit false

/-- Seconds since the epoch. -/
abbrev Timestamp := Int

/-- The greatest time that a record can carry. -/
def maxTimestamp : Timestamp := Number.maxInt64

/-- `now` plus the whole seconds of a duration, at most `maxTimestamp`. -/
def Timestamp.after (now : Timestamp) (d : Duration) : Timestamp :=
  min (now + min (d.seconds : Int) maxTimestamp) maxTimestamp

inductive RecordValue
  | payload (json : Json)
  | encoded (text : String)
  | invalid (cause : Json.Cause)

structure Record where
  key : String
  value : RecordValue
  expiry : Option Timestamp

namespace RecordValue

/-- Equality of values: payloads are compared as JSON values, and causes by what they say. -/
def same : RecordValue → RecordValue → Bool
  | .payload a, .payload b => a == b
  | .encoded a, .encoded b => a == b
  | .invalid a, .invalid b => a.message == b.message
  | _, _ => false

instance : BEq RecordValue := ⟨same⟩

/-- What became of a caller's value. -/
def ofPayload : Except Json.Cause Json → RecordValue
  | .ok json => .payload json
  | .error cause => .invalid cause

end RecordValue

namespace Record

instance : BEq Record where
  beq a b := a.key == b.key && a.value == b.value && a.expiry == b.expiry

/-- A record of a value that was or was not written as JSON, built at `now`. -/
def new (key : String) (payload : Except Json.Cause Json) (ttl : Option Duration)
    (now : Timestamp) : Record :=
  ⟨key, .ofPayload payload, ttl.map now.after⟩

/-- A record of JSON text. -/
def ofText (key text : String) (expiry : Option Timestamp) : Record :=
  ⟨key, .encoded text, expiry⟩

/-- The record with an expiry counted from `now`. -/
def expireAfter (r : Record) (ttl : Duration) (now : Timestamp) : Record :=
  { r with expiry := some (now.after ttl) }

/-- The expiry, if it is one. -/
def expiry? (r : Record) : Option Timestamp :=
  r.expiry.filter (0 < ·)

def hasExpiry (r : Record) : Bool := r.expiry?.isSome

/-- Expired at `now`: the expiry lies at `now` or before. -/
def isExpiredAt (r : Record) (now : Timestamp) : Bool :=
  match r.expiry? with
  | some t => t ≤ now
  | none => false

/-- The text to store. -/
def encode (r : Record) : Except StoreError String :=
  match r.value with
  | .payload json => .ok json.render
  | .encoded text => .ok text
  | .invalid cause => .error (.marshal cause)

/-- The value that the text holds. -/
def decode {α : Type} (r : Record) (read : Json.Reader α) : Except StoreError α :=
  match r.value with
  | .encoded text =>
    match read.parse text with
    | .ok a => .ok a
    | .error cause => .error (.marshal cause)
  | .payload _ | .invalid _ => .error .convert

end Record

/-- Records in the order in which they were added; a key may occur more than once. -/
abbrev Records := List Record

end RecordStore
