/-
RecordStore.Reference -- the reference store

The reference store keeps the text and the expiry of every key in memory.  A
record whose expiry has come is as good as absent, though its key is still
counted.  A batch of writes passes over what it cannot store and says so.
-/
import RecordStore.Operation

namespace RecordStore

set_option autoImplicit false

/-- What is kept under a key. -/
structure Stored where
  text : String
  expiry : Option Timestamp
  deriving DecidableEq

/-- The contents of the reference store. -/
abbrev Reference := Dict Stored

namespace Reference

/-- The record under a key, unless it has expired. -/
def lookup (s : Reference) (key : String) (time : Timestamp) : Option Record :=
  match s.get? key with
  | some kept =>
    let record := Record.ofText key kept.text kept.expiry
    if record.isExpiredAt time then none else some record
  | none => none

/-- Keep a text under a key, with the record's expiry if it has one. -/
def put (s : Reference) (key text : String) (record : Record) : Reference :=
  s.insert key ⟨text, record.expiry?⟩

def get (m : Moment) (key : String) (s : Reference) : Except StoreError Record := do
  validateKey key
  checkLive m.stop?
  match s.lookup key m.time with
  | some record => .ok record
  | none => .error .keyNotFound

/-- The text to keep for a save. -/
def saveText (m : Moment) (key : String) (record : Option Record) :
    Except StoreError (String × Record) := do
  validateKey key
  match record with
  | none => .error .nilItem
  | some record =>
    checkLive m.stop?
    return (← record.encode, record)

def save (m : Moment) (key : String) (record : Option Record) (s : Reference) :
    Except StoreError Unit × Reference :=
  match saveText m key record with
  | .ok (text, record) => (.ok (), s.put key text record)
  | .error e => (.error e, s)

def bulkGet (m : Moment) (keys : List String) (s : Reference) : Except StoreError Records := do
  validateBulkKeys keys
  keys.forM validateKey
  checkLive m.stop?
  return keys.eraseDups.filterMap fun key => s.lookup key m.time

/-- One record of a batch: kept, or passed over with a notice. -/
def bulkSaveOne (container : String) (state : Reference × List Notice) (record : Record) :
    Reference × List Notice :=
  if Text.isBlankText record.key then (state.1, state.2 ++ [.emptyKey (.container container)])
  else
    match record.encode with
    | .ok text => (state.1.put record.key text record, state.2)
    | .error e => (state.1, state.2 ++ [.unencodable (.container container) record.key e])

def bulkSave (container : String) (m : Moment) (records : Records) (s : Reference) :
    Reply (.bulkSave records) × Reference :=
  match checkLive m.stop? with
  | .error e => (.of (.error e), s)
  | .ok () =>
    let (s, notices) := records.foldl (bulkSaveOne container) (s, [])
    (⟨.ok (), notices⟩, s)

/-- The reference store of a container. -/
def backend (container : String) : Backend Reference where
  container
  perform m
    | .get key, s => (.of (get m key s), s)
    | .save key record, s =>
      let (result, s) := save m key record s
      (.of result, s)
    | .bulkGet keys, s => (.of (bulkGet m keys s), s)
    | .bulkSave records, s => bulkSave container m records s

end Reference

end RecordStore
