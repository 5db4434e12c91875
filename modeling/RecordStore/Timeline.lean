/-
RecordStore.Timeline -- operations that overlap in time

A timeline runs activities side by side on a clock that stands still while
anything can be done and then moves to the next thing due.  What is due is kept
in a queue; of things due at the same instant, the one that was noted first comes
first.  Reads of one key go through `SharedRead`; every other exchange with the
client races its own context.  A metered store reports the samples of an
operation when it ends, with the time that the operation took.
-/
import RecordStore.Adapter
import RecordStore.Metrics.Metered
import RecordStore.Reference
import RecordStore.SharedRead

namespace RecordStore

set_option autoImplicit false

open RecordStore.Wire RecordStore.Metrics

/-- A request on its way: when it is answered, and how.  It takes effect on the client's state
only when it is answered, and may never be (`none`). -/
structure Exchange (σ : Type) (r : Request) where
  delay : Nat
  complete : σ → Option (Except WireError r.Response) × σ

/-- The time from an instant to a later one. -/
def Duration.between (start finish : Instant) : Duration := .ofMillis (finish - start)

/-- A client whose answers take time. -/
structure SlowClient (σ : Type) where
  dispatch : Timestamp → (r : Request) → σ → Exchange σ r × σ

/-- A store and what it needs. -/
inductive Store (σ : Type)
  | reference (container : String) (contents : Reference)
  | adapted (adapter : Adapter) (client : σ) (reads : SharedRead.State)

/-- Everything that lasts from one activity to the next, and the record of what happened. -/
structure World (σ : Type) where
  now : Instant
  time : Timestamp
  store : Store σ
  /-- The meter of the innermost wrapper, if there is one. -/
  meter? : Option Meter
  /-- How many further wrappers report samples. -/
  reporters : Nat
  requests : List Request
  samples : List Sample
  notices : List Notice

/-- What a task does, with how its result is told. -/
inductive Activity (σ ρ : Type)
  /-- An operation of the store under a context. -/
  | operation (op : Operation) (life : Instant → Lifespan) (tell : op.Result → ρ × List Notice)
  /-- A request straight to the client. -/
  | request (r : Request) (tell : Except WireError r.Response → ρ)
  /-- Waiting. -/
  | pause (millis : Nat) (result : ρ)
  /-- Something done at once. -/
  | act (f : World σ → ρ × World σ)

/-- An activity that begins some time after the timeline does. -/
structure Task (σ ρ : Type) where
  delay : Nat
  activity : Activity σ ρ

/-- Something that is due. -/
inductive Event (σ : Type)
  /-- A task begins. -/
  | start (task : Nat)
  /-- The task of a shared read sends its request. -/
  | send (call : SharedRead.CallId) (request : ItemRead)
  /-- The answer to a shared read arrives. -/
  | arrived (call : SharedRead.CallId) (request : ItemRead) (exchange : Exchange σ (.read request))
  /-- The context of a caller of a shared read ends. -/
  | stopped (caller : SharedRead.CallerId) (reason : StopReason)
  /-- The answer to a task's own request arrives. -/
  | exchanged (task : Nat)
  /-- The context of a task's own request ends. -/
  | interrupted (task : Nat) (reason : StopReason)
  /-- A pause is over. -/
  | resumed (task : Nat)

/-- Something due, when, and its number. -/
structure Due (σ : Type) where
  time : Instant
  number : Nat
  event : Event σ

/-- A caller of a shared read: its task, and how the task ends at an instant. -/
structure Reader (ρ : Type) where
  caller : SharedRead.CallerId
  task : Nat
  tell : Instant → SharedRead.Result → ρ × List Notice × List Sample

/-- What became of a task's own request. -/
inductive Sent (r : Request)
  | answered (outcome : Except WireError r.Response)
  /-- It will never be answered. -/
  | lost
  /-- The context of the task ended first. -/
  | stopped (reason : StopReason)

/-- What became of a request, as an adapter sees it. -/
def Sent.outcome {r : Request} : Sent r → Except StoreError r.Response
  | .answered (.ok response) => .ok response
  | .answered (.error e) => .error (.ofWire e)
  | .lost => .error (.internal .readEnded)
  | .stopped reason => .error (.cancelled reason)

/-- What became of a request that was sent without a context. -/
def Sent.answer {r : Request} : Sent r → Except WireError r.Response
  | .answered outcome => outcome
  | .lost | .stopped _ => .error .network

/-- What an exchange that is over gives. -/
def Sent.ofOutcome {r : Request} : Option (Except WireError r.Response) → Sent r
  | some outcome => .answered outcome
  | none => .lost

/-- A task that waits for the answer to its own request, and how it ends at an instant. -/
structure Sender (σ ρ : Type) where
  task : Nat
  request : Request
  exchange : Exchange σ request
  tell : Instant → Sent request → ρ × List Notice × List Sample

/-- A running timeline. -/
structure Timeline (σ ρ : Type) where
  world : World σ
  tasks : List (Task σ ρ)
  queue : List (Due σ)
  noted : Nat
  readers : List (Reader ρ)
  senders : List (Sender σ ρ)
  /-- The tasks that have ended: which, when, and with what. -/
  ended : List (Nat × Instant × ρ)

namespace Timeline

variable {σ ρ : Type}

/-- Keep the queue in order of time, and of number at one time. -/
def enqueue (due : Due σ) : List (Due σ) → List (Due σ)
  | [] => [due]
  | d :: rest => if due.time < d.time then due :: d :: rest else d :: enqueue due rest

/-- Note an event for an instant. -/
def note (t : Timeline σ ρ) (time : Instant) (event : Event σ) : Timeline σ ρ :=
  { t with queue := enqueue ⟨time, t.noted, event⟩ t.queue, noted := t.noted + 1 }

/-- Report samples to the meter and to every further wrapper. -/
def report (w : World σ) (samples : List Sample) : World σ :=
  { w with
    meter? := w.meter?.map fun m => samples.foldl Meter.record m
    samples := w.samples ++ (List.replicate w.reporters samples).flatten }

/-- A task ends with a result, notices and samples. -/
def finish (t : Timeline σ ρ) (task : Nat) (result : ρ × List Notice × List Sample) :
    Timeline σ ρ :=
  let (value, notices, samples) := result
  let w := report { t.world with notices := t.world.notices ++ notices } samples
  { t with world := w, ended := t.ended ++ [(task, w.now, value)] }

/-- What is told of an operation that ends: its result, and its notices before those of the
teller. -/
def tellReply (op : Operation) (container : String) (elapsed : Duration)
    (tell : op.Result → ρ × List Notice) (reply : Reply op) : ρ × List Notice × List Sample :=
  let (value, notices) := tell reply.result
  (value, reply.notices ++ notices, samples container elapsed op reply.result)

/-- A state of shared reads with a step taken, or left alone if the step cannot be taken. -/
def advanceReads (reads : SharedRead.State) (step : SharedRead.Step) : SharedRead.State :=
  (reads.step? step).getD reads

/-- The callers that wait for a read, in the order in which they came. -/
def waitingFor (reads : SharedRead.State) (call : SharedRead.CallId) (readers : List (Reader ρ)) :
    List (Reader ρ) :=
  readers.filter fun r => (reads.waitsFor? r.caller).any (·.1 == call)

/-- The task of a read ends: its result is published and every caller that waits is answered. -/
def publish (t : Timeline σ ρ) (call : SharedRead.CallId) (ending : SharedRead.Ending) :
    Timeline σ ρ :=
  match t.world.store with
  | .reference .. => t
  | .adapted adapter client reads =>
    match reads.step? (.finish call ending) with
    | none => t
    | some reads =>
      let reads := advanceReads reads (.publish call)
      let answered := waitingFor reads call t.readers
      let reads := answered.foldl (fun reads r => advanceReads reads (.answer r.caller)) reads
      let t := { t with world := { t.world with store := .adapted adapter client reads } }
      answered.foldl (fun t r => t.finish r.task (r.tell t.world.now ending.result)) t

/-- What a shared read gives for the answer to its request. -/
def endingOf (outcome : Option (Except WireError ItemFound)) : SharedRead.Ending :=
  match outcome with
  | none => .lost
  | some (.error e) => .fetched (.error (.ofWire e))
  | some (.ok found) => .fetched (Adapter.recordOfFound found)

/-- An operation of the reference store is over at once. -/
def beginReference (t : Timeline σ ρ) (task : Nat) (container : String) (contents : Reference)
    (m : Moment) (op : Operation) (tell : op.Result → ρ × List Notice) : Timeline σ ρ :=
  let (reply, contents) := (Reference.backend container).perform m op contents
  { t with world := { t.world with store := .reference container contents } }.finish task
    (tellReply op container (.between m.now m.now) tell reply)

/-- A task's own request is over: its teller is told, and no longer kept. -/
def settle (t : Timeline σ ρ) (sender : Sender σ ρ) (sent : Sent sender.request) :
    Timeline σ ρ :=
  { t with senders := t.senders.filter (·.task != sender.task) }.finish sender.task
    (sender.tell t.world.now sent)

/-- The answer to a task's own request arrives. -/
def receiveOwn (t : Timeline σ ρ) (task : Nat) : Timeline σ ρ :=
  match t.world.store, t.senders.find? (·.task == task) with
  | .adapted adapter client reads, some sender =>
    let (outcome, client) := sender.exchange.complete client
    { t with world := { t.world with store := .adapted adapter client reads } }.settle sender
      (.ofOutcome outcome)
  | _, _ => t

/-- The context of a task ends before its own request is answered. -/
def interrupt (t : Timeline σ ρ) (task : Nat) (reason : StopReason) : Timeline σ ρ :=
  match t.senders.find? (·.task == task) with
  | some sender => t.settle sender (.stopped reason)
  | none => t

/-- A request leaves under a context: its answer, or the end of the context, becomes due. -/
def beginExchange (slow : SlowClient σ) (t : Timeline σ ρ) (task : Nat) (adapter : Adapter)
    (client : σ) (reads : SharedRead.State) (life : Lifespan) (request : Request)
    (tell : Instant → Sent request → ρ × List Notice × List Sample) : Timeline σ ρ :=
  let now := t.world.now
  let (exchange, client) := slow.dispatch t.world.time request client
  let sent : Timeline σ ρ := { t with
    world := { t.world with
      store := .adapted adapter client reads
      requests := t.world.requests ++ [request] }
    senders := t.senders ++ [⟨task, request, exchange, tell⟩] }
  match life.race now (some (now + exchange.delay)) with
  | .refused reason => t.finish task (tell now (.stopped reason))
  | .interrupted time reason => sent.note time (.interrupted task reason)
  | .finished time => if exchange.delay = 0 then sent.receiveOwn task else
      sent.note time (.exchanged task)
  | .unending => sent

/-- A caller arrives at the shared read of its key. -/
def beginSharedRead (t : Timeline σ ρ) (task : Nat) (adapter : Adapter) (client : σ)
    (reads : SharedRead.State) (life : Lifespan) (key : String) (request : ItemRead)
    (tell : Instant → SharedRead.Result → ρ × List Notice × List Sample) : Timeline σ ρ :=
  let caller := reads.callers.length
  let fresh := (reads.table.get? key).isNone
  let call := reads.calls.length
  let t := { t with
    world := { t.world with store := .adapted adapter client (reads.arrive key) }
    readers := t.readers ++ [⟨caller, task, tell⟩] }
  let t := if fresh then t.note t.world.now (.send call request) else t
  match life.done? t.world.now with
  | some (time, reason) => t.note time (.stopped caller reason)
  | none => t

/-- An operation begins. -/
def beginOperation (slow : SlowClient σ) (t : Timeline σ ρ) (task : Nat) (op : Operation)
    (life : Lifespan) (tell : op.Result → ρ × List Notice) : Timeline σ ρ :=
  let m : Moment := ⟨t.world.now, t.world.time, life⟩
  match t.world.store with
  | .reference container contents => t.beginReference task container contents m op tell
  | .adapted adapter client reads =>
    match op, adapter.plan m op, tell with
    | op, .done reply, tell =>
      t.finish task (tellReply op adapter.container (.between m.now m.now) tell reply)
    | .get key, .sharedRead request, tell =>
      t.beginSharedRead task adapter client reads life key request fun now result =>
        tellReply (.get key) adapter.container (.between m.now now) tell (.of result)
    | op, .exchange request conclude, tell =>
      beginExchange slow t task adapter client reads life request fun now sent =>
        tellReply op adapter.container (.between m.now now) tell (conclude sent.outcome)

/-- An activity begins. -/
def begin (slow : SlowClient σ) (t : Timeline σ ρ) (task : Nat) :
    Activity σ ρ → Timeline σ ρ
  | .operation op life tell => beginOperation slow t task op (life t.world.now) tell
  | .request r tell =>
    match t.world.store with
    | .reference .. => t
    | .adapted adapter client reads =>
      beginExchange slow t task adapter client reads .unbounded r fun _ sent =>
        (tell sent.answer, [], [])
  | .pause millis result =>
    if millis = 0 then t.finish task (result, [], [])
    else t.note (t.world.now + millis) (.resumed task)
  | .act f =>
    let (value, w) := f t.world
    { t with world := w }.finish task (value, [], [])

/-- A read whose last caller has left is aborted. -/
def abortIfCancelled (t : Timeline σ ρ) (call : SharedRead.CallId) : Timeline σ ρ :=
  match t.world.store with
  | .reference .. => t
  | .adapted _ _ reads =>
    match reads.calls[call]? with
    | some c => if c.cancelled then t.publish call .aborted else t
    | none => t

/-- A caller's context ends while it waits. -/
def stopReader (t : Timeline σ ρ) (caller : SharedRead.CallerId) (reason : StopReason) :
    Timeline σ ρ :=
  match t.world.store, t.readers.find? (·.caller == caller) with
  | .adapted adapter client reads, some reader =>
    match reads.waitsFor? caller, reads.step? (.stop caller reason) with
    | some (call, _), some reads =>
      let t := { t with world := { t.world with store := .adapted adapter client reads } }
      (t.finish reader.task (reader.tell t.world.now (.error (.cancelled reason)))).abortIfCancelled
        call
    | _, _ => t
  | _, _ => t

/-- Whether the fetch of a read is still wanted. -/
def isReading (reads : SharedRead.State) (call : SharedRead.CallId) : Bool :=
  match reads.calls[call]? with
  | some ⟨_, _, false, .reading⟩ => true
  | _ => false

/-- The answer to a shared read arrives; nobody wants it if the read was cancelled. -/
def receive (t : Timeline σ ρ) (call : SharedRead.CallId) {request : ItemRead}
    (exchange : Exchange σ (.read request)) : Timeline σ ρ :=
  match t.world.store with
  | .reference .. => t
  | .adapted adapter client reads =>
    if isReading reads call then
      let (outcome, client) := exchange.complete client
      { t with world := { t.world with store := .adapted adapter client reads } }.publish call
        (endingOf outcome)
    else t

/-- The task of a shared read sends its request. -/
def send (slow : SlowClient σ) (t : Timeline σ ρ) (call : SharedRead.CallId)
    (request : ItemRead) : Timeline σ ρ :=
  match t.world.store with
  | .reference .. => t
  | .adapted adapter client reads =>
    if isReading reads call then
      let (exchange, client) := slow.dispatch t.world.time (.read request) client
      let t := { t with world := { t.world with
        store := .adapted adapter client reads
        requests := t.world.requests ++ [Request.read request] } }
      if exchange.delay = 0 then t.receive call exchange
      else t.note (t.world.now + exchange.delay) (.arrived call request exchange)
    else t

/-- Something that is due happens. -/
def handle (slow : SlowClient σ) (t : Timeline σ ρ) : Event σ → Timeline σ ρ
  | .start task =>
    match t.tasks[task]? with
    | some entry => t.begin slow task entry.activity
    | none => t
  | .send call request => t.send slow call request
  | .arrived call _ exchange => t.receive call exchange
  | .stopped caller reason => t.stopReader caller reason
  | .exchanged task => t.receiveOwn task
  | .interrupted task reason => t.interrupt task reason
  | .resumed task =>
    match t.tasks[task]? with
    | some ⟨_, .pause _ result⟩ => t.finish task (result, [], [])
    | _ => t

/-- Let things happen until every task has ended, at most `fuel` of them. -/
def runFor (slow : SlowClient σ) : (fuel : Nat) → Timeline σ ρ → Timeline σ ρ
  | 0, t => t
  | fuel + 1, t =>
    if t.tasks.length ≤ t.ended.length then t
    else
      match t.queue with
      | [] => t
      | due :: rest =>
        let t := { t with queue := rest, world := { t.world with now := due.time } }
        runFor slow fuel (t.handle slow due.event)

/-- The tasks of a timeline that begins now, each noted for its start. -/
def ofTasks (w : World σ) (tasks : List (Task σ ρ)) : Timeline σ ρ :=
  tasks.zipIdx.foldl (fun t entry => t.note (w.now + entry.1.delay) (.start entry.2))
    ⟨w, tasks, [], 0, [], [], []⟩

/-- Every task notes at most five events. -/
def fuelFor (tasks : List (Task σ ρ)) : Nat := 5 * tasks.length + 1

end Timeline

namespace World

variable {σ ρ : Type}

/-- Run tasks side by side: for each task that ended, when and with what, in the order of the
tasks; and the world after the last of them. -/
def runTasks (slow : SlowClient σ) (w : World σ) (tasks : List (Task σ ρ)) :
    List (Option (Instant × ρ)) × World σ :=
  let t := (Timeline.ofTasks w tasks).runFor slow (Timeline.fuelFor tasks)
  (tasks.zipIdx.map fun entry => (t.ended.find? (·.1 == entry.2)).map (·.2), t.world)

/-- A world whose record of what happened is empty. -/
def cleared (w : World σ) : World σ := { w with requests := [], samples := [], notices := [] }

end World

end RecordStore
