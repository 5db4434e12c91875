/-
RecordStore.Adapter -- a store on top of an attribute store

The adapter keeps the records of a container as the items of one table.  For
each operation it makes a plan: a reply that needs nothing from the wire, a read
that callers of the same key may share, or one exchange of a request for a
response.  Everything that can be refused is refused in the plan, so a plan that
reaches the wire has passed all checks.

A response may tell of any number of tables.  Nothing settles in which order an
adapter goes over them, so the order is a part of the adapter.
-/
import RecordStore.Operation
import RecordStore.TableName
import RecordStore.Wire.Codec
import RecordStore.Wire.RecordItem

namespace RecordStore

set_option autoImplicit false

open RecordStore.Wire

/-- A container, its table, and the time after which records expire that do not say so
themselves. -/
structure Adapter where
  container : String
  table : String
  defaultTtl : Option Duration
  /-- The order in which the tables of items that were found are gone over. -/
  foundOrder : KeyOrder
  /-- The order in which the tables are gone over of which something was left. -/
  leftOrder : KeyOrder

/-- How an operation goes on. -/
inductive Plan : Operation → Type
  /-- It has ended. -/
  | done {op : Operation} (reply : Reply op) : Plan op
  /-- It waits for the read of its key that is in flight, or starts it with this request. -/
  | sharedRead {key : String} (request : ItemRead) : Plan (.get key)
  /-- It sends a request under its own context and ends with what comes of it. -/
  | exchange {op : Operation} (request : Request)
      (conclude : Except StoreError request.Response → Reply op) : Plan op

namespace Adapter

/-- The adapter of a container.  A default of no time at all is none. -/
def new (container : String) (naming : TableName) (ttl : Option Duration) : Adapter :=
  ⟨container, naming.resolve container, ttl.filter fun d => !d.isZero, .given, .given⟩

/-- The expiry to write for a record: its own, or the default counted from `time`. -/
def expiryFor (a : Adapter) (time : Timestamp) (record : Record) : Option Timestamp :=
  match record.expiry? with
  | some t => some t
  | none => a.defaultTtl.map time.after

/-- The record that a read found. -/
def recordOfFound (found : ItemFound) : Except StoreError Record :=
  match found.item? with
  | some item => if item.isEmpty then .error .keyNotFound else recordOfItem item
  | none => .error .keyNotFound

/-- The request for the item of a key. -/
def readRequest (a : Adapter) (key : String) : ItemRead := ⟨a.table, keyItem key⟩

def planGet (a : Adapter) (m : Moment) (key : String) : Plan (.get key) :=
  match (do validateKey key; checkLive m.stop? : Except StoreError Unit) with
  | .error e => .done (.of (.error e))
  | .ok () => .sharedRead (a.readRequest key)

/-- The item to write for a save. -/
def saveItem (a : Adapter) (m : Moment) (key : String) (record : Option Record) :
    Except StoreError Item := do
  validateKey key
  match record with
  | none => .error .nilItem
  | some record =>
    let text ← record.encode
    checkLive m.stop?
    return recordItem key text (a.expiryFor m.time record)

def planSave (a : Adapter) (m : Moment) (key : String) (record : Option Record) :
    Plan (.save key record) :=
  match a.saveItem m key record with
  | .error e => .done (.of (.error e))
  | .ok item => .exchange (.write ⟨a.table, item⟩) fun outcome => .of (outcome.map fun _ => ())

/-- The request for the items of distinct keys. -/
def batchReadRequest (a : Adapter) (keys : List String) : BatchRead :=
  ⟨(∅ : Dict KeyList).insert a.table ⟨keys.eraseDups.map keyItem⟩⟩

/-- A notice for each table of which something was left. -/
def unprocessedNotices {α : Type} (a : Adapter) (count : α → Nat)
    (notice : String → Nat → Notice) (left : Dict α) : List Notice :=
  (left.visit a.leftOrder).filterMap fun e =>
    if count e.2 = 0 then none else some (notice e.1 (count e.2))

/-- The records of a table's items, and a notice for each item that is no record. -/
def decodeItems (table : String) (items : List Item) : Records × List Notice :=
  items.foldl
    (fun sofar item =>
      match recordOfItem item with
      | .ok record => (sofar.1 ++ [record], sofar.2)
      | .error e => (sofar.1, sofar.2 ++ [.undecodableItem table e]))
    ([], [])

/-- What a batch of reads found. -/
def batchReadReply (a : Adapter) {keys : List String} (found : BatchFound) :
    Reply (.bulkGet keys) :=
  let decoded := (found.found.visit a.foundOrder).map fun e => decodeItems e.1 e.2
  ⟨.ok (decoded.flatMap (·.1)),
    a.unprocessedNotices (·.keys.length) .unprocessedKeys found.unprocessed
      ++ decoded.flatMap (·.2)⟩

def planBulkGet (a : Adapter) (m : Moment) (keys : List String) : Plan (.bulkGet keys) :=
  match (do validateBulkKeys keys; keys.forM validateKey; checkLive m.stop? :
      Except StoreError Unit) with
  | .error e => .done (.of (.error e))
  | .ok () =>
    if keys.isEmpty then .done (.of (.ok []))
    else
      .exchange (.batchRead (a.batchReadRequest keys)) fun outcome =>
        match outcome with
        | .ok found => a.batchReadReply found
        | .error e => .of (.error e)

/-- The entries of a batch of writes, and a notice for each record that has none. -/
def writeEntries (a : Adapter) (time : Timestamp) (records : Records) :
    List WriteEntry × List Notice :=
  records.foldl
    (fun sofar record =>
      if Text.isBlankText record.key then (sofar.1, sofar.2 ++ [.emptyKey (.table a.table)])
      else
        match record.encode with
        | .ok text =>
          (sofar.1 ++ [⟨some (recordItem record.key text (a.expiryFor time record))⟩], sofar.2)
        | .error e => (sofar.1, sofar.2 ++ [.unencodable (.table a.table) record.key e]))
    ([], [])

def planBulkSave (a : Adapter) (m : Moment) (records : Records) : Plan (.bulkSave records) :=
  match checkLive m.stop? with
  | .error e => .done (.of (.error e))
  | .ok () =>
    let (entries, notices) := a.writeEntries m.time records
    if entries.isEmpty then .done ⟨.ok (), notices⟩
    else
      .exchange (.batchWrite ⟨(∅ : Dict (List WriteEntry)).insert a.table entries⟩) fun outcome =>
        match outcome with
        | .ok written =>
          ⟨.ok (), notices ++
            a.unprocessedNotices (·.length) .unprocessedWrites written.unprocessed⟩
        | .error e => ⟨.error e, notices ++ [.batchWriteFailed a.table entries.length e]⟩

/-- The plan of an operation. -/
def plan (a : Adapter) (m : Moment) : (op : Operation) → Plan op
  | .get key => a.planGet m key
  | .save key record => a.planSave m key record
  | .bulkGet keys => a.planBulkGet m keys
  | .bulkSave records => a.planBulkSave m records

end Adapter

/-- A client that answers every request at once. -/
structure WireClient (σ : Type) where
  serve : (r : Request) → σ → Except WireError r.Response × σ

/-- A plan carried out on a client, with nothing else going on. -/
def Plan.carryOut {σ : Type} (client : WireClient σ) :
    {op : Operation} → Plan op → σ → Reply op × σ
  | _, .done reply, s => (reply, s)
  | _, .sharedRead request, s =>
    let (outcome, s) := client.serve (.read request) s
    (.of (match outcome with
      | .ok found => Adapter.recordOfFound found
      | .error e => .error (.ofWire e)), s)
  | _, .exchange request conclude, s =>
    let (outcome, s) := client.serve request s
    (conclude (outcome.mapError .ofWire), s)

/-- The adapter as a store whose state is that of its client. -/
def Adapter.backend {σ : Type} (a : Adapter) (client : WireClient σ) : Backend σ where
  container := a.container
  perform m op s := (a.plan m op).carryOut client s

end RecordStore
