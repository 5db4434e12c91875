/-
RecordStore.Wire.RecordItem -- records as items

An item carries the key and the value text of a record as strings, and its
expiry, when it is positive, as a number of seconds.  A number that comes back
may be spelled with a fraction or an exponent; it is then read as a double and
cut to whole seconds, within the range of a timestamp.
-/
import RecordStore.Number.Scientific
import RecordStore.Record

namespace RecordStore.Wire

set_option autoImplicit false

open RecordStore.Number

def keyAttribute : String := "key"
def valueAttribute : String := "value"
def expiryAttribute : String := "ttl"

/-- The item that addresses a key. -/
def keyItem (key : String) : Item :=
  (∅ : Item).insert keyAttribute (.string key)

/-- The item that stores a value text under a key. -/
def recordItem (key text : String) (expiry : Option Timestamp) : Item :=
  let item := (keyItem key).insert valueAttribute (.string text)
  match expiry.filter (0 < ·) with
  | some t => item.insert expiryAttribute (.number (integerText t))
  | none => item

/-- A whole number of seconds within the range of a timestamp. -/
def clampTimestamp (i : Int) : Timestamp :=
  max (-0x8000_0000_0000_0000) (min i maxTimestamp)

/-- The timestamp that a number text stands for. -/
def parseTimestamp? (text : String) : Option Timestamp :=
  let cs := text.toList
  match readInt? maxInt64 cs with
  | some t => some t
  | none => do
    let number ← Scientific.read? cs
    let double ← number.toBinary64
    some (clampTimestamp double.truncate)

/-- The string under a name. -/
def requireString (item : Item) (name : String) : Except StoreError String :=
  match item.get? name with
  | some (.string s) => .ok s
  | some other => .error (.internal (.notString name other))
  | none => .error (.internal (.missingAttribute name))

/-- The expiry of an item; a time that is not positive is none. -/
def readExpiry (item : Item) : Except StoreError (Option Timestamp) :=
  match item.get? expiryAttribute with
  | none => .ok none
  | some (.number text) =>
    match parseTimestamp? text with
    | some t => .ok ((some t).filter (0 < ·))
    | none => .error (.internal (.invalidTimestamp expiryAttribute text))
  | some other => .error (.internal (.notNumber expiryAttribute other))

/-- The record that an item stores. -/
def recordOfItem (item : Item) : Except StoreError Record := do
  let key ← requireString item keyAttribute
  let text ← requireString item valueAttribute
  let expiry ← readExpiry item
  .ok (.ofText key text expiry)

end RecordStore.Wire
