/-
RecordStore.Emulator -- an attribute store in memory

The emulator behaves like the attribute store for the requests an adapter makes.
Tables come into being with their first write, a missing item is no error, and a
batch of reads gives what is there.  Every item is kept under its string
attribute `key`; an item or key without one is refused.  Calls are counted when
they are made.  They take effect, or fail when the emulator was told to fail,
after the emulator's latency.
-/
import RecordStore.Adapter

namespace RecordStore

set_option autoImplicit false

open RecordStore.Wire

/-- How many calls of each kind were made. -/
structure CallCounts where
  read : Nat
  write : Nat
  batchRead : Nat
  batchWrite : Nat
  deriving DecidableEq

namespace CallCounts

def zero : CallCounts := ⟨0, 0, 0, 0⟩

def total (c : CallCounts) : Nat := c.read + c.write + c.batchRead + c.batchWrite

/-- One more call of the kind of a request. -/
def add (c : CallCounts) : Request → CallCounts
  | .read _ => { c with read := c.read + 1 }
  | .write _ => { c with write := c.write + 1 }
  | .batchRead _ => { c with batchRead := c.batchRead + 1 }
  | .batchWrite _ => { c with batchWrite := c.batchWrite + 1 }

end CallCounts

/-- The items of one table by key. -/
abbrev Table := Dict Item

structure Emulator where
  tables : Dict Table
  counts : CallCounts
  lastWrite? : Option Item
  lastBatchWrite? : Option BatchWrite
  failure? : Option String
  latency : Nat

namespace Emulator

/-- An emulator without tables that answers after `latency` milliseconds. -/
def empty (latency : Nat) : Emulator := ⟨∅, .zero, none, none, none, latency⟩

/-- The string under which an item is kept. -/
def itemKey (item : Item) : Except WireError String :=
  match item.get? keyAttribute with
  | some (.string key) => .ok key
  | _ => .error (.service 400 "ValidationException" "item is missing string attribute 'key'")

/-- The items of a table; a table that does not exist has none. -/
def table (e : Emulator) (name : String) : Table := (e.tables.get? name).getD ∅

/-- The item under a key of a table. -/
def item? (e : Emulator) (name key : String) : Option Item := (e.table name).get? key

/-- Items put into a table one after the other, up to the first one that is refused. -/
def putAll : List Item → Table → Option WireError × Table
  | [], t => (none, t)
  | item :: rest, t =>
    match itemKey item with
    | .ok key => putAll rest (t.insert key item)
    | .error e => (some e, t)

/-- The items under the keys of a list. -/
def findAll (t : Table) : List Item → Except WireError (List Item)
  | [] => .ok []
  | key :: rest => do
    let found := t.get? (← itemKey key)
    return found.toList ++ (← findAll t rest)

/-- Store an item without a request. -/
def insertItem (e : Emulator) (name : String) (item : Item) : Except WireError Unit × Emulator :=
  match itemKey item with
  | .ok key => (.ok (), { e with tables := e.tables.insert name ((e.table name).insert key item) })
  | .error error => (.error error, e)

/-- A batch of writes, table by table, up to the first item that is refused. -/
def putTables : List (String × List WriteEntry) → Dict Table → Option WireError × Dict Table
  | [], tables => (none, tables)
  | (name, writes) :: rest, tables =>
    let (refused, t) := putAll (writes.filterMap (·.put?)) ((tables.get? name).getD ∅)
    match refused with
    | some error => (some error, tables.insert name t)
    | none => putTables rest (tables.insert name t)

/-- A batch of reads; keys are looked at only where the table exists. -/
def findTables (e : Emulator) : List (String × KeyList) → Except WireError (Dict (List Item))
  | [] => .ok ∅
  | (name, keys) :: rest => do
    let found ← match e.tables.get? name with
      | some t => findAll t keys.keys
      | none => pure []
    return (← e.findTables rest).insert name found

/-- The call is counted. -/
def noteCall (e : Emulator) (r : Request) : Emulator := { e with counts := e.counts.add r }

/-- The effect of a request on the tables, and its answer. -/
def effect (e : Emulator) : (r : Request) → Except WireError r.Response × Emulator
  | .read r =>
    match itemKey r.key with
    | .ok key => (.ok ⟨e.item? r.table key⟩, e)
    | .error error => (.error error, e)
  | .write r =>
    match itemKey r.item with
    | .ok key =>
      (.ok ⟨⟩, { e with
        tables := e.tables.insert r.table ((e.table r.table).insert key r.item),
        lastWrite? := some r.item })
    | .error error => (.error error, e)
  | .batchRead r =>
    match e.findTables r.tables.entries with
    | .ok found => (.ok ⟨found, ∅⟩, e)
    | .error error => (.error error, e)
  | .batchWrite r =>
    let (refused, tables) := putTables r.tables.entries e.tables
    let e := { e with tables, lastBatchWrite? := some r }
    match refused with
    | some error => (.error error, e)
    | none => (.ok ⟨∅⟩, e)

/-- What becomes of a call when its latency is over. -/
def complete (e : Emulator) (r : Request) : Except WireError r.Response × Emulator :=
  match e.failure? with
  | some text => (.error (.injected text), e)
  | none => e.effect r

/-- A call from its beginning to its end, with nothing else going on. -/
def client : WireClient Emulator where
  serve r e := (e.noteCall r).complete r

end Emulator

end RecordStore
