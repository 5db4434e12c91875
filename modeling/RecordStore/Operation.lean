/-
RecordStore.Operation -- what can be asked of a store

Records are read and written one by one or in batches.  Keys must hold more than
blanks, a batch of reads names at most a hundred keys, and these rules are
checked before anything else happens.  What an operation is answered with
depends on it (`Operation.Answer`); with the answer come the notices for the log.

A store performs operations under a context, or is asked plainly (`Backend`).
-/
import RecordStore.Notice
import RecordStore.Record
import RecordStore.Text.Blank

namespace RecordStore

set_option autoImplicit false

/-- The most keys of one batch of reads. -/
def maxBulkKeys : Nat := 100

/-- A key that holds nothing but blanks is refused. -/
def validateKey (key : String) : Except StoreError Unit :=
  if Text.isBlankText key then .error .emptyKey else .ok ()

/-- Too many keys are refused. -/
def validateBulkKeys (keys : List String) : Except StoreError Unit :=
  if maxBulkKeys < keys.length then .error (.tooManyKeys keys.length maxBulkKeys) else .ok ()

/-- A context that is over is refused. -/
def checkLive : Option StopReason → Except StoreError Unit
  | some reason => .error (.cancelled reason)
  | none => .ok ()

inductive Operation
  | get (key : String)
  | save (key : String) (record : Option Record)
  | bulkGet (keys : List String)
  | bulkSave (records : Records)

namespace Operation

inductive Kind
  | get
  | save
  | bulkGet
  | bulkSave
  deriving DecidableEq

def kind : Operation → Kind
  | .get _ => .get
  | .save .. => .save
  | .bulkGet _ => .bulkGet
  | .bulkSave _ => .bulkSave

/-- The label of a kind of operation. -/
def Kind.label : Kind → String
  | .get => "get"
  | .save => "save"
  | .bulkGet => "bulk_get"
  | .bulkSave => "bulk_save"

/-- What an operation that succeeds answers. -/
@[reducible] def Answer : Operation → Type
  | .get _ => Record
  | .save .. => Unit
  | .bulkGet _ => Records
  | .bulkSave _ => Unit

/-- How an operation ends. -/
abbrev Result (op : Operation) := Except StoreError op.Answer

end Operation

/-- The result of an operation, and the notices that it gave on the way. -/
structure Reply (op : Operation) where
  result : op.Result
  notices : List Notice

/-- A reply without notices. -/
def Reply.of {op : Operation} (result : op.Result) : Reply op := ⟨result, []⟩

/-- When and under what context an operation is performed: the instant on the clock by which
contexts end, and the time of day by which records expire. -/
structure Moment where
  now : Instant
  time : Timestamp
  life : Lifespan
  deriving DecidableEq

/-- Why nothing may be started any more, if so. -/
def Moment.stop? (m : Moment) : Option StopReason := m.life.reason? m.now

/-- A store bound to a container.  Performing an operation gives a reply and the next state. -/
structure Backend (σ : Type) where
  container : String
  perform : Moment → (op : Operation) → σ → Reply op × σ
  /-- What the store does when it is asked plainly, without a context.  A store may have a way of its
  own to do this; one that has none performs the operation under a context that never ends. -/
  plain : Instant → Timestamp → (op : Operation) → σ → Reply op × σ :=
    fun now time op s => perform ⟨now, time, .unbounded⟩ op s

namespace Backend

variable {σ : Type}

/-- The results of operations performed one after the other, and the last state. -/
def run (b : Backend σ) : List (Moment × Operation) → σ → List (Sigma Operation.Result) × σ
  | [], s => ([], s)
  | (m, op) :: rest, s =>
    let (reply, s) := b.perform m op s
    let (results, s) := b.run rest s
    (⟨op, reply.result⟩ :: results, s)

end Backend

end RecordStore
