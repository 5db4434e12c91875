/-
RecordStore.Metrics.Sample -- what is counted and timed of an operation

Every operation that ends adds to counters and gives one latency sample, under
the container, the kind of operation and the class of its outcome.  Reading a
key that is missing is a miss and no error.  A batch of reads counts the distinct
keys it returned as hits and the distinct requested keys it did not return as
misses; a batch that found nothing leaves a miss even when it asked for nothing.
-/
import RecordStore.Operation

namespace RecordStore.Metrics

set_option autoImplicit false

/-- The class of an outcome. -/
inductive Outcome
  | hit
  | miss
  | error
  | save
  deriving DecidableEq

def Outcome.label : Outcome → String
  | .hit => "hit"
  | .miss => "miss"
  | .error => "error"
  | .save => "save"

/-- The class of a read of one key. -/
def Outcome.ofRead {α : Type} : Except StoreError α → Outcome
  | .ok _ => .hit
  | .error .keyNotFound => .miss
  | .error _ => .error

/-- The class of a write. -/
def Outcome.ofWrite {α : Type} : Except StoreError α → Outcome
  | .ok _ => .save
  | .error _ => .error

/-- What a series is about. -/
structure Labels where
  container : String
  kind : Operation.Kind
  outcome : Outcome
  deriving DecidableEq

inductive Sample
  | count (labels : Labels) (amount : Nat)
  | time (labels : Labels) (elapsed : Duration)
  deriving DecidableEq

/-- One call of one class. -/
def single (container : String) (kind : Operation.Kind) (outcome : Outcome) (elapsed : Duration) :
    List Sample :=
  [.count ⟨container, kind, outcome⟩ 1, .time ⟨container, kind, outcome⟩ elapsed]

/-- The distinct keys of records. -/
def returnedKeys (records : Records) : List String := (records.map (·.key)).eraseDups

/-- The distinct requested keys that were not returned. -/
def missedKeys (keys : List String) (records : Records) : List String :=
  keys.eraseDups.filter fun key => !(returnedKeys records).contains key

/-- The samples of a batch of reads that succeeded. -/
def batchRead (container : String) (keys : List String) (records : Records)
    (elapsed : Duration) : List Sample :=
  let hits := (returnedKeys records).length
  let misses := (missedKeys keys records).length
  (if 0 < hits then [.count ⟨container, .bulkGet, .hit⟩ hits] else [])
    ++ (if 0 < misses ∨ hits = 0 then [.count ⟨container, .bulkGet, .miss⟩ misses] else [])
    ++ [.time ⟨container, .bulkGet, if 0 < hits then .hit else .miss⟩ elapsed]

/-- The samples of an operation, in the order in which they are reported. -/
def samples (container : String) (elapsed : Duration) : (op : Operation) → op.Result → List Sample
  | .get _, result => single container .get (.ofRead result) elapsed
  | .save .., result => single container .save (.ofWrite result) elapsed
  | .bulkGet keys, .ok records => batchRead container keys records elapsed
  | .bulkGet _, .error _ => single container .bulkGet .error elapsed
  | .bulkSave _, result => single container .bulkSave (.ofWrite result) elapsed

end RecordStore.Metrics
