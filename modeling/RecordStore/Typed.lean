/-
RecordStore.Typed -- a store of values of one type

A typed client writes values through a codec and reads them back.  A point read
fails when the text under a key does not decode, and `find` turns a missing key
into none.  A batch of reads leaves out what does not decode and gives a notice
for each.
-/
import RecordStore.Codec
import RecordStore.Operation

namespace RecordStore.Typed

set_option autoImplicit false

variable {α σ : Type}

/-- The value that a read found. -/
def valueOf (codec : Codec α) (result : Except StoreError Record) : Except StoreError α := do
  (← result).decode codec.read

/-- A missing key is none. -/
def found : Except StoreError α → Except StoreError (Option α)
  | .ok a => .ok (some a)
  | .error .keyNotFound => .ok none
  | .error e => .error e

/-- The record of a value to save. -/
def recordOf (codec : Codec α) (key : String) (ttl : Option Duration) (time : Timestamp) (a : α) :
    Record :=
  .new key (codec.payload a) ttl time

/-- The records of values to save, each under the key that `keyOf` gives it. -/
def recordsOf (codec : Codec α) (keyOf : α → String) (ttl : Option Duration) (time : Timestamp)
    (values : List α) : Records :=
  values.map fun a => recordOf codec (keyOf a) ttl time a

/-- The values that decode, with their keys, and a notice for each record that does not. -/
def valuesOf (codec : Codec α) (container : String) :
    Records → List (String × α) × List Notice
  | [] => ([], [])
  | record :: rest =>
    let (values, notices) := valuesOf codec container rest
    match record.decode codec.read with
    | .ok a => ((record.key, a) :: values, notices)
    | .error e => (values, .undecodableValue container record.key e :: notices)

/-! ## A client of one store -/

/-- Values of one type in one store. -/
structure Client (σ α : Type) where
  backend : Backend σ
  codec : Codec α

namespace Client

def get (c : Client σ α) (m : Moment) (key : String) (s : σ) : Except StoreError α × σ :=
  let (reply, s) := c.backend.perform m (.get key) s
  (valueOf c.codec reply.result, s)

def find (c : Client σ α) (m : Moment) (key : String) (s : σ) :
    Except StoreError (Option α) × σ :=
  let (result, s) := c.get m key s
  (found result, s)

def save (c : Client σ α) (m : Moment) (key : String) (value : Option α)
    (ttl : Option Duration) (s : σ) : Except StoreError Unit × σ :=
  let (reply, s) := c.backend.perform m (.save key (value.map (recordOf c.codec key ttl m.time))) s
  (reply.result, s)

def bulkGet (c : Client σ α) (m : Moment) (keys : List String) (s : σ) :
    Except StoreError (List (String × α)) × List Notice × σ :=
  let (reply, s) := c.backend.perform m (.bulkGet keys) s
  match reply.result with
  | .ok records =>
    let (values, notices) := valuesOf c.codec c.backend.container records
    (.ok values, reply.notices ++ notices, s)
  | .error e => (.error e, reply.notices, s)

/-- Nothing happens for no values. -/
def bulkSave (c : Client σ α) (m : Moment) (values : List α) (keyOf : α → String)
    (ttl : Option Duration) (s : σ) : Except StoreError Unit × List Notice × σ :=
  if values.isEmpty then (.ok (), [], s)
  else
    let (reply, s) := c.backend.perform m (.bulkSave (recordsOf c.codec keyOf ttl m.time values)) s
    (reply.result, reply.notices, s)

end Client

end RecordStore.Typed
