/-
RecordStore.Wire.Message -- what is sent to the attribute store, and what comes back

There are four requests: read an item, write an item, and the batch form of each.
A batch names any number of tables.  What a request is answered with is a type
of its own (`Request.Response`).
-/
import RecordStore.Wire.Attribute

namespace RecordStore.Wire

set_option autoImplicit false

/-- Read the item under a key. -/
structure ItemRead where
  table : String
  key : Item
  deriving DecidableEq

/-- The item that was found, if any. -/
structure ItemFound where
  item? : Option Item
  deriving DecidableEq

/-- Write an item. -/
structure ItemWrite where
  table : String
  item : Item
  deriving DecidableEq

/-- The answer to a write says nothing. -/
structure ItemWritten where
  deriving DecidableEq

/-- The keys wanted of one table. -/
structure KeyList where
  keys : List Item
  deriving DecidableEq

/-- Read the items under several keys. -/
structure BatchRead where
  tables : Dict KeyList
  deriving DecidableEq

/-- The items found in each table, and the keys that were left. -/
structure BatchFound where
  found : Dict (List Item)
  unprocessed : Dict KeyList
  deriving DecidableEq

/-- One entry of a batch of writes. -/
structure WriteEntry where
  put? : Option Item
  deriving DecidableEq

/-- Write several items. -/
structure BatchWrite where
  tables : Dict (List WriteEntry)
  deriving DecidableEq

/-- The writes that were left. -/
structure BatchWritten where
  unprocessed : Dict (List WriteEntry)
  deriving DecidableEq

/-- Why the service refused a request. -/
structure Refusal where
  kind : String
  text : String
  deriving DecidableEq

/-- The code of a refusal: its kind without the part up to the last number sign. -/
def Refusal.code (r : Refusal) : String :=
  String.ofList (r.kind.toList.reverse.takeWhile (· ≠ '#')).reverse

inductive Request
  | read (r : ItemRead)
  | write (r : ItemWrite)
  | batchRead (r : BatchRead)
  | batchWrite (r : BatchWrite)
  deriving DecidableEq

namespace Request

/-- What a request is answered with. -/
@[reducible] def Response : Request → Type
  | .read _ => ItemFound
  | .write _ => ItemWritten
  | .batchRead _ => BatchFound
  | .batchWrite _ => BatchWritten

/-- The name of the operation in the protocol. -/
def operationName : Request → String
  | .read _ => "GetItem"
  | .write _ => "PutItem"
  | .batchRead _ => "BatchGetItem"
  | .batchWrite _ => "BatchWriteItem"

end Request

end RecordStore.Wire
