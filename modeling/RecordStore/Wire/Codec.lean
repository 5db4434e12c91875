/-
RecordStore.Wire.Codec -- requests and responses as protocol JSON

A typed value is an object whose only member is named for the type.  Members of
structures are written in the order of their declaration and entries of maps in
key order; both are read in any order.  A response may leave out what is empty.
-/
import RecordStore.Json.Printer
import RecordStore.Json.Reader
import RecordStore.Wire.Message

namespace RecordStore.Wire

set_option autoImplicit false

open RecordStore.Json

/-! ## Writing -/

namespace AttributeValue

mutual

/-- The protocol form of a typed value. -/
def toJson : AttributeValue → Json
  | .string s => .object [("S", .string s)]
  | .number n => .object [("N", .string n)]
  | .binary b => .object [("B", .string b)]
  | .bool b => .object [("BOOL", .bool b)]
  | .null b => .object [("NULL", .bool b)]
  | .list items => .object [("L", .array (itemsToJson items))]
  | .map entries => .object [("M", .object (entriesToJson entries))]

def itemsToJson : List AttributeValue → List Json
  | [] => []
  | v :: rest => toJson v :: itemsToJson rest

def entriesToJson : List (String × AttributeValue) → List (String × Json)
  | [] => []
  | (k, v) :: rest => (k, toJson v) :: entriesToJson rest

end

end AttributeValue

/-- A map whose values are written by `write`. -/
def dictToJson {α : Type} (write : α → Json) (d : Dict α) : Json :=
  .object (d.entries.map fun e => (e.1, write e.2))

def Item.toJson (item : Item) : Json := dictToJson AttributeValue.toJson item

/-- An item that may be absent, as the members it contributes. -/
def optionalMember (name : String) (item? : Option Json) : List (String × Json) :=
  match item? with
  | some json => [(name, json)]
  | none => []

def ItemRead.toJson (r : ItemRead) : Json :=
  .object [("TableName", .string r.table), ("Key", Item.toJson r.key)]

def ItemFound.toJson (r : ItemFound) : Json :=
  .object (optionalMember "Item" (r.item?.map Item.toJson))

def ItemWrite.toJson (r : ItemWrite) : Json :=
  .object [("TableName", .string r.table), ("Item", Item.toJson r.item)]

def ItemWritten.toJson (_ : ItemWritten) : Json := .object []

def KeyList.toJson (k : KeyList) : Json :=
  .object [("Keys", .array (k.keys.map Item.toJson))]

def BatchRead.toJson (r : BatchRead) : Json :=
  .object [("RequestItems", dictToJson KeyList.toJson r.tables)]

def BatchFound.toJson (r : BatchFound) : Json :=
  .object [("Responses", dictToJson (fun items => .array (items.map Item.toJson)) r.found),
    ("UnprocessedKeys", dictToJson KeyList.toJson r.unprocessed)]

def WriteEntry.toJson (w : WriteEntry) : Json :=
  .object (optionalMember "PutRequest"
    (w.put?.map fun item => .object [("Item", Item.toJson item)]))

def writesToJson (tables : Dict (List WriteEntry)) : Json :=
  dictToJson (fun writes => .array (writes.map WriteEntry.toJson)) tables

def BatchWrite.toJson (r : BatchWrite) : Json :=
  .object [("RequestItems", writesToJson r.tables)]

def BatchWritten.toJson (r : BatchWritten) : Json :=
  .object [("UnprocessedItems", writesToJson r.unprocessed)]

def Request.toJson : Request → Json
  | .read r => r.toJson
  | .write r => r.toJson
  | .batchRead r => r.toJson
  | .batchWrite r => r.toJson

/-- The protocol form of the answer to a request. -/
def Request.responseToJson : (r : Request) → r.Response → Json
  | .read _, r => ItemFound.toJson r
  | .write _, r => ItemWritten.toJson r
  | .batchRead _, r => BatchFound.toJson r
  | .batchWrite _, r => BatchWritten.toJson r

/-! ## Reading -/

/-- The names of the types, in the order in which messages list them. -/
def typeNames : List String := ["S", "N", "B", "BOOL", "NULL", "L", "M"]

/-- What a type name is followed by, where `inner` reads a value inside one more bracket. -/
def scanContent (inner : Option (Scan AttributeValue)) (name : String) : Scan AttributeValue :=
  fun cs =>
    if name = "S" then (readString.map AttributeValue.string) 0 cs
    else if name = "N" then (readString.map AttributeValue.number) 0 cs
    else if name = "B" then (readString.map AttributeValue.binary) 0 cs
    else if name = "BOOL" then (readBool.map AttributeValue.bool) 0 cs
    else if name = "NULL" then (readBool.map AttributeValue.null) 0 cs
    else if name = "L" then
      match skipSpace cs with
      | '[' :: rest => do
        let (items, rest) ← scanList inner rest
        .ok (.list items, rest)
      | cs => .error (refuse "a sequence" cs)
    else
      match skipSpace cs with
      | '\x7b' :: rest => do
        let (entries, rest) ← scanEntries inner rest
        .ok (.map entries, rest)
      | cs => .error (refuse "a map" cs)

/-- A typed value: its own braces take one bracket and a list or map inside takes another. -/
def readAttribute : Reader AttributeValue
  | 0 => scanTagged typeNames none
  | 1 => scanTagged typeNames (some (scanContent none))
  | levels + 2 => scanTagged typeNames (some (scanContent (some (readAttribute levels))))

def readItem : Reader Item := readDict readAttribute

def ItemRead.schema : Schema ItemRead where
  title := "GetItemInput"
  default := ⟨"", ∅⟩
  fields := [
    .named "TableName" true readString fun table r => { r with table },
    .named "Key" true readItem fun key r => { r with key }]

def ItemFound.schema : Schema ItemFound where
  title := "GetItemOutput"
  default := ⟨none⟩
  fields := [.named "Item" false (readOption readItem) fun item? _ => ⟨item?⟩]

def ItemWrite.schema : Schema ItemWrite where
  title := "PutItemInput"
  default := ⟨"", ∅⟩
  fields := [
    .named "TableName" true readString fun table r => { r with table },
    .named "Item" true readItem fun item r => { r with item }]

def ItemWritten.schema : Schema ItemWritten where
  title := "PutItemOutput"
  default := ⟨⟩
  fields := []

def KeyList.schema : Schema KeyList where
  title := "KeysAndAttributes"
  default := ⟨[]⟩
  fields := [.named "Keys" true (readList readItem) fun keys _ => ⟨keys⟩]

def BatchRead.schema : Schema BatchRead where
  title := "BatchGetItemInput"
  default := ⟨∅⟩
  fields := [.named "RequestItems" true (readDict KeyList.schema.read) fun tables _ => ⟨tables⟩]

def BatchFound.schema : Schema BatchFound where
  title := "BatchGetItemOutput"
  default := ⟨∅, ∅⟩
  fields := [
    .named "Responses" false (readDict (readList readItem)) fun found r => { r with found },
    .named "UnprocessedKeys" false (readDict KeyList.schema.read)
      fun unprocessed r => { r with unprocessed }]

/-- The item of a put. -/
def putSchema : Schema Item where
  title := "PutRequest"
  default := ∅
  fields := [.named "Item" true readItem fun item _ => item]

def WriteEntry.schema : Schema WriteEntry where
  title := "WriteRequest"
  default := ⟨none⟩
  fields := [.named "PutRequest" false (readOption putSchema.read) fun put? _ => ⟨put?⟩]

def BatchWrite.schema : Schema BatchWrite where
  title := "BatchWriteItemInput"
  default := ⟨∅⟩
  fields := [.named "RequestItems" true (readDict (readList WriteEntry.schema.read))
    fun tables _ => ⟨tables⟩]

def BatchWritten.schema : Schema BatchWritten where
  title := "BatchWriteItemOutput"
  default := ⟨∅⟩
  fields := [.named "UnprocessedItems" false (readDict (readList WriteEntry.schema.read))
    fun unprocessed _ => ⟨unprocessed⟩]

def Refusal.schema : Schema Refusal where
  title := "ErrorBody"
  default := ⟨"", ""⟩
  fields := [
    .named "__type" false readString fun kind r => { r with kind },
    { name := "message", aliases := ["Message"], required := false,
      read := readString.map fun text r => { r with text } }]

/-- The reader of the answer to a request. -/
def Request.readResponse : (r : Request) → Reader r.Response
  | .read _ => ItemFound.schema.read
  | .write _ => ItemWritten.schema.read
  | .batchRead _ => BatchFound.schema.read
  | .batchWrite _ => BatchWritten.schema.read

end RecordStore.Wire
