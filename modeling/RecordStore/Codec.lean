/-
RecordStore.Codec -- values as JSON and back

A codec writes values as JSON, which may fail, and reads them from JSON text.
The members of what is written stand in the order of their declaration; a record
keeps them arranged by key.
-/
import RecordStore.Json.Printer
import RecordStore.Json.Reader

namespace RecordStore

set_option autoImplicit false

namespace Json

mutual

/-- The value with the members of every object in key order, the last one of a key kept. -/
def arrange : Json → Json
  | .array items => .array (arrangeItems items)
  | .object members => .object (Entries.ofList (arrangeMembers members))
  | j => j

def arrangeItems : List Json → List Json
  | [] => []
  | j :: rest => arrange j :: arrangeItems rest

def arrangeMembers : List (String × Json) → List (String × Json)
  | [] => []
  | (k, j) :: rest => (k, arrange j) :: arrangeMembers rest

end

/-- The integer `i`; none when it does not fit 64 bits. -/
def ofInt? (i : Int) : Option Json := (Whole.ofInt? i).map fun w => .number (.whole w)

/-- A double as JSON: what is not finite is null. -/
def ofReal : Option Number.Binary64 → Json
  | some x => .number (.real x)
  | none => .null

end Json

structure Codec (α : Type) where
  write : α → Except Json.Cause Json
  read : Json.Reader α

namespace Codec

variable {α : Type}

/-- What a record keeps of a value. -/
def payload (c : Codec α) (a : α) : Except Json.Cause Json := (c.write a).map Json.arrange

/-- A whole number; one that does not fit 64 bits cannot be written. -/
def writeInt (i : Int) : Except Json.Cause Json :=
  match Json.ofInt? i with
  | some j => .ok j
  | none => .error .numberOutOfRange

def any : Codec Json := ⟨.ok, Json.readAny⟩

def string : Codec String := ⟨fun s => .ok (.string s), Json.readString⟩

def bool : Codec Bool := ⟨fun b => .ok (.bool b), Json.readBool⟩

/-- Signed 64-bit numbers. -/
def int64 : Codec Int := ⟨writeInt, Json.readInteger (-0x8000_0000_0000_0000) Number.maxInt64 "i64"⟩

/-- Unsigned 64-bit numbers. -/
def nat64 : Codec Int := ⟨writeInt, Json.readInteger 0 Number.maxNat64 "u64"⟩

/-- Unsigned 32-bit numbers. -/
def nat32 : Codec Int := ⟨writeInt, Json.readInteger 0 0xffff_ffff "u32"⟩

/-- Unsigned 8-bit numbers. -/
def nat8 : Codec Int := ⟨writeInt, Json.readInteger 0 0xff "u8"⟩

def real : Codec Number.Binary64 := ⟨fun x => .ok (.number (.real x)), Json.readReal⟩

def list (item : Codec α) : Codec (List α) where
  write items := do return .array (← items.mapM item.write)
  read := Json.readList item.read

def option (value : Codec α) : Codec (Option α) where
  write
    | some a => value.write a
    | none => .ok .null
  read := Json.readOption value.read

end Codec

end RecordStore
