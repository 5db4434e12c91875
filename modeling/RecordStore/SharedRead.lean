/-
RecordStore.SharedRead -- callers that share one read of a key

The table holds the read in flight of each key.  A caller that arrives joins the
read of its key, or starts one.  A caller leaves when it has its answer, when its
own context ends, or when it is dropped; the last one to leave a read that is
still in the table takes it out and cancels it.  The task of a read takes it out
of the table when it ends, and then publishes the result, from which every
caller that still waits is answered.  Results are kept for nobody else: a read
is in the table exactly as long as it can be joined.

Each step is atomic and stands for the instant at which its party holds the
table or hands over a result; what a party does up to then nobody else can see.
`step?` says which steps can be taken in a state and where they lead; what
happens between the steps of different callers and tasks is left open.
-/
import RecordStore.Error
import RecordStore.Record

namespace RecordStore.SharedRead

set_option autoImplicit false

/-- What a shared read gives. -/
abbrev Result := Except StoreError Record

abbrev CallId := Nat

abbrev CallerId := Nat

/-- Where the task of a read is. -/
inductive Phase
  /-- The fetch has not ended. -/
  | reading
  /-- The fetch has ended; the read is no longer in the table, and nothing is published. -/
  | ending (result : Result)
  /-- The result is there for every caller. -/
  | published (result : Result)

/-- One read of a key. -/
structure Call where
  key : String
  /-- Callers that joined and have not left. -/
  waiters : Nat
  cancelled : Bool
  phase : Phase

/-- How a caller left. -/
inductive Departure
  | answered (result : Result)
  | stopped (reason : StopReason)
  | dropped

/-- One caller. -/
structure Caller where
  call : CallId
  /-- None while it waits. -/
  departure? : Option Departure

/-- All reads and callers there ever were, oldest first, and the reads in flight. -/
structure State where
  calls : List Call
  callers : List Caller
  table : Dict CallId

namespace State

def initial : State := ⟨[], [], ∅⟩

/-- How many keys have a read in flight. -/
def inFlight (s : State) : Nat := s.table.size

/-- A call changed. -/
def updateCall (s : State) (id : CallId) (f : Call → Call) : State :=
  { s with calls := s.calls.modify id f }

/-- Take a read out of the table, if it is the one its key has there. -/
def removeCurrent (s : State) (id : CallId) (key : String) : State :=
  if s.table.get? key = some id then { s with table := s.table.erase key } else s

/-- A caller joins the read in flight of its key. -/
def join (s : State) (id : CallId) : State :=
  { s.updateCall id fun c => { c with waiters := c.waiters + 1 } with
    callers := s.callers ++ [⟨id, none⟩] }

/-- A caller starts a read of its key. -/
def start (s : State) (key : String) : State where
  calls := s.calls ++ [⟨key, 1, false, .reading⟩]
  callers := s.callers ++ [⟨s.calls.length, none⟩]
  table := s.table.insert key s.calls.length

/-- A caller whose context is live arrives. -/
def arrive (s : State) (key : String) : State :=
  match s.table.get? key with
  | some id => s.join id
  | none => s.start key

/-- A caller leaves a read: it is no longer counted, and if it was the last one, and the read is
still in the table, the read is taken out and cancelled. -/
def leaveCall (s : State) (id : CallId) (c : Call) : State :=
  let abandoned := c.waiters = 1 ∧ s.table.get? c.key = some id
  let s := s.updateCall id fun c =>
    { c with waiters := c.waiters - 1, cancelled := c.cancelled || decide abandoned }
  if abandoned then s.removeCurrent id c.key else s

end State

/-- How the task of a read ends. -/
inductive Ending
  /-- The fetch gave this result. -/
  | fetched (result : Result)
  /-- The fetch panicked, or the task was dropped before it ended. -/
  | lost
  /-- The task saw that the read was cancelled. -/
  | aborted

/-- What is published for an ending. -/
def Ending.result : Ending → Result
  | .fetched result => result
  | .lost => .error (.internal .readEnded)
  | .aborted => .error (.cancelled .canceled)

inductive Step
  /-- A caller whose context is live asks for a key. -/
  | arrive (key : String)
  /-- The context of a waiting caller ends. -/
  | stop (caller : CallerId) (reason : StopReason)
  /-- A waiting caller is dropped. -/
  | drop (caller : CallerId)
  /-- A waiting caller takes the published result. -/
  | answer (caller : CallerId)
  /-- The fetch of a read ends, and the read leaves the table. -/
  | finish (call : CallId) (ending : Ending)
  /-- The result of a read is published. -/
  | publish (call : CallId)

/-- Record why a caller left. -/
def State.depart (s : State) (caller : CallerId) (departure : Departure) : State :=
  { s with callers := s.callers.modify caller fun c => { c with departure? := some departure } }

/-- The read that a caller waits for, if it still waits. -/
def State.waitsFor? (s : State) (caller : CallerId) : Option (CallId × Call) := do
  let c ← s.callers[caller]?
  match c.departure? with
  | some _ => none
  | none => return (c.call, ← s.calls[c.call]?)

/-- The state after a step, if the step can be taken. -/
def State.step? (s : State) : Step → Option State
  | .arrive key => some (s.arrive key)
  | .stop caller reason => do
    let (id, call) ← s.waitsFor? caller
    some ((s.leaveCall id call).depart caller (.stopped reason))
  | .drop caller => do
    let (id, call) ← s.waitsFor? caller
    some ((s.leaveCall id call).depart caller .dropped)
  | .answer caller => do
    let (id, call) ← s.waitsFor? caller
    match call.phase with
    | .published result => some ((s.leaveCall id call).depart caller (.answered result))
    | _ => none
  | .finish id ending => do
    let call ← s.calls[id]?
    match call.phase, ending with
    | .reading, .aborted =>
      if call.cancelled then
        some ((s.removeCurrent id call.key).updateCall id
          fun c => { c with phase := .ending ending.result })
      else none
    | .reading, _ =>
      some ((s.removeCurrent id call.key).updateCall id
        fun c => { c with phase := .ending ending.result })
    | _, _ => none
  | .publish id => do
    let call ← s.calls[id]?
    match call.phase with
    | .ending result => some (s.updateCall id fun c => { c with phase := .published result })
    | _ => none

/-- The state after a sequence of steps, if all of them can be taken. -/
def State.run? : State → List Step → Option State
  | s, [] => some s
  | s, step :: rest => do (← s.step? step).run? rest

/-- States that some interleaving of steps leads to. -/
inductive Reachable : State → Prop
  | initial : Reachable .initial
  | step {s t : State} (from_s : Reachable s) (e : Step) (taken : s.step? e = some t) : Reachable t

end RecordStore.SharedRead
