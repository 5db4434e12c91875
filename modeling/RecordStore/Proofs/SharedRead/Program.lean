/-
RecordStore.Proofs.SharedRead.Program -- shared reads, followed through their code

A step of `SharedRead.State` is what a party does while it holds the table, or
the moment at which a result becomes public.  Here each party is followed through
its code from one such moment to the next.  A caller checks its context, takes
the table, listens to the channel of its read, learns how its wait ends, and
gives up its place.  A task waits for its fetch, notes that it publishes, takes
its read out of the table, sends the result, and drops its publisher, which
publishes in its stead when nothing was noted.

What is done to the table and to the counts is done by the operations of
`SharedRead`, but whether it fits is not asked here.  What a caller hears is
what the channel holds (`State.hear`), and what it makes of that has a branch for
a channel without a result and one for a channel without a sender
(`Heard.result`).  What a publisher does when it is dropped depends on its own
note.  `move_of_step` lists what steps can do, with what they found, and
`step?_of_move` says that all of that can be done.
-/
import Mathlib.Logic.Function.Basic
import RecordStore.Operation
import RecordStore.Proofs.SharedRead.InFlight

namespace RecordStore.SharedRead.Program

set_option autoImplicit false

/-- Where a task is in its code. -/
inductive Point
  /-- It waits for the fetch, and for its read to be cancelled. -/
  | fetching
  /-- It has a result, and is about to take its read out of the table. -/
  | withdrawing (ending : Ending)
  /-- It is about to send the result. -/
  | sending (ending : Ending)
  /-- It is about to drop its publisher. -/
  | closing
  | gone

/-- The task of a read, with its publisher and its channel. -/
structure Task where
  point : Point
  /-- The publisher noted that the task publishes. -/
  noted : Bool
  /-- What the channel holds. -/
  value? : Option Result

/-- Where a caller that took the table is in its code. -/
inductive Stage
  /-- It has its place, and does not listen yet. -/
  | seated
  /-- It waits for the end of its context, and for a result in the channel. -/
  | listening
  /-- Its wait is over, and it is about to give up its place. -/
  | leaving (departure : Departure)
  | left (departure : Departure)

/-- The table and the counts, and where everybody is. -/
structure State where
  shared : SharedRead.State
  /-- The keys of callers whose contexts were live, and that have yet to take the table. -/
  admitted : List String
  stages : CallerId → Stage
  tasks : CallId → Task

inductive Step
  /-- A caller asks for a key; its context is live, or over for a reason. -/
  | ask (key : String) (stop? : Option StopReason)
  /-- A caller that was admitted takes the table. -/
  | enter (key : String)
  | listen (caller : CallerId)
  /-- The context of a listening caller ends. -/
  | stop (caller : CallerId) (reason : StopReason)
  /-- A listening caller is dropped. -/
  | drop (caller : CallerId)
  /-- A listening caller looks into the channel. -/
  | hear (caller : CallerId)
  /-- A caller gives up its place. -/
  | leave (caller : CallerId)
  /-- The fetch of a read ends, its task sees that it was cancelled, or the task is lost. -/
  | settle (call : CallId) (ending : Ending)
  /-- A task takes its read out of the table. -/
  | withdraw (call : CallId)
  | send (call : CallId)
  /-- A task drops its publisher. -/
  | close (call : CallId)

/-! ## Tasks -/

namespace Task

/-- A task whose fetch has just begun. -/
def fresh : Task := ⟨.fetching, false, none⟩

/-- The wait of the task is over.  A task that is lost drops its publisher at once; every other one
publishes what came of its wait, and notes it first. -/
def settle (t : Task) : Ending → Task
  | .lost => { t with point := .closing }
  | ending => { t with noted := true, point := .withdrawing ending }

/-- A result is sent, over whatever the channel held.  A publisher that sends when it is dropped has
nothing left to do. -/
def send (t : Task) (ending : Ending) : Task where
  point := match ending with
    | .lost => .gone
    | _ => .closing
  noted := t.noted
  value? := some ending.result

/-- The publisher is dropped: if nothing was noted, it publishes that the task was lost. -/
def close (t : Task) : Task := { t with point := if t.noted then .gone else .withdrawing .lost }

end Task

/-! ## Callers -/

namespace Stage

/-- How a caller left, once it has. -/
def departure? : Stage → Option Departure
  | .left departure => some departure
  | _ => none

/-- What a caller was answered, once its wait is over. -/
def answer? : Stage → Option Result
  | .leaving (.answered result) | .left (.answered result) => some result
  | _ => none

end Stage

/-- What a listener hears: what the channel holds, or that nobody can send any more. -/
inductive Heard
  | value (held? : Option Result)
  | closed

/-- What a caller makes of what it hears. -/
def Heard.result : Heard → Result
  | .value (some result) => result
  | .value none => .error (.internal (.other "shared read published nothing"))
  | .closed => .error (.internal (.other "shared read dropped its result"))

namespace State

def initial : State := ⟨.initial, [], fun _ => .seated, fun _ => .fresh⟩

/-- Somebody still has the sender of a read: the table, its task, or a caller with a place. -/
def isHeld (s : State) (id : CallId) : Bool :=
  s.shared.table.entries.any (·.2 == id)
    || (match (s.tasks id).point with
      | .gone => false
      | _ => true)
    || s.shared.callers.zipIdx.any fun c => c.1.call == id && (s.stages c.2).departure?.isNone

/-- What a listener hears of a read.  It looks at what the channel holds first, and finds the
channel closed only if that is no result and nobody has the sender. -/
def hear (s : State) (id : CallId) : Option Heard :=
  let held? := (s.tasks id).value?
  if held?.isSome then some (.value held?)
  else if s.isHeld id then none
  else some .closed

/-- A caller goes on to another place in its code. -/
def shift (s : State) (caller : CallerId) (stage : Stage) : State :=
  { s with stages := Function.update s.stages caller stage }

/-- A task goes on. -/
def advance (s : State) (id : CallId) (task : Task) : State :=
  { s with tasks := Function.update s.tasks id task }

/-- The context of a caller is live. -/
def letIn (s : State) (key : String) : State := { s with admitted := key :: s.admitted }

/-- An admitted caller joins the read of its key, or starts one. -/
def enter (s : State) (key : String) : State :=
  { s with admitted := s.admitted.erase key, shared := s.shared.arrive key }

/-- A caller whose wait is over gives up its place. -/
def leave (s : State) (caller : CallerId) (id : CallId) (call : Call) (d : Departure) : State :=
  { s.shift caller (.left d) with shared := (s.shared.leaveCall id call).depart caller d }

/-- A read is taken out of the table by its task. -/
def withdraw (s : State) (id : CallId) (call : Call) (ending : Ending) : State :=
  { s.advance id { s.tasks id with point := .sending ending } with
    shared := s.shared.endTask id call ending }

/-- The result of a read is sent. -/
def send (s : State) (id : CallId) (ending : Ending) : State :=
  { s.advance id ((s.tasks id).send ending) with
    shared := s.shared.makePublic id ending.result }

/-- The state after a step, if the step can be taken. -/
def step? (s : State) : Step → Option State
  | .ask key stop? =>
    match checkLive stop? with
    | .ok () => some (s.letIn key)
    | .error _ => some s
  | .enter key => if key ∈ s.admitted then some (s.enter key) else none
  | .listen caller => do
    let _ ← s.shared.callers[caller]?
    match s.stages caller with
    | .seated => some (s.shift caller .listening)
    | _ => none
  | .stop caller reason => do
    let _ ← s.shared.callers[caller]?
    match s.stages caller with
    | .listening => some (s.shift caller (.leaving (.stopped reason)))
    | _ => none
  | .drop caller => do
    let _ ← s.shared.callers[caller]?
    match s.stages caller with
    | .listening => some (s.shift caller (.leaving .dropped))
    | _ => none
  | .hear caller => do
    let c ← s.shared.callers[caller]?
    match s.stages caller with
    | .listening =>
      let heard ← s.hear c.call
      some (s.shift caller (.leaving (.answered heard.result)))
    | _ => none
  | .leave caller => do
    let c ← s.shared.callers[caller]?
    let call ← s.shared.calls[c.call]?
    match s.stages caller with
    | .leaving d => some (s.leave caller c.call call d)
    | _ => none
  | .settle id ending => do
    let call ← s.shared.calls[id]?
    match (s.tasks id).point, ending with
    | .fetching, .aborted =>
      if call.cancelled then some (s.advance id ((s.tasks id).settle .aborted)) else none
    | .fetching, ending => some (s.advance id ((s.tasks id).settle ending))
    | _, _ => none
  | .withdraw id => do
    let call ← s.shared.calls[id]?
    match (s.tasks id).point with
    | .withdrawing ending => some (s.withdraw id call ending)
    | _ => none
  | .send id => do
    let _ ← s.shared.calls[id]?
    match (s.tasks id).point with
    | .sending ending => some (s.send id ending)
    | _ => none
  | .close id => do
    let _ ← s.shared.calls[id]?
    match (s.tasks id).point with
    | .closing => some (s.advance id (s.tasks id).close)
    | _ => none

/-- The state after a sequence of steps, if all of them can be taken. -/
def run? (s : State) (steps : List Step) : Option State := steps.foldlM step? s

end State

/-! ## What a step can do -/

/-- How a caller of a read goes on without touching the table. -/
inductive Shifts (s : State) (id : CallId) : Step → CallerId → Stage → Stage → Prop
  | listen (caller : CallerId) : Shifts s id (.listen caller) caller .seated .listening
  | stop (caller : CallerId) (reason : StopReason) :
      Shifts s id (.stop caller reason) caller .listening (.leaving (.stopped reason))
  | drop (caller : CallerId) : Shifts s id (.drop caller) caller .listening (.leaving .dropped)
  | hear (caller : CallerId) {heard : Heard} (hears : s.hear id = some heard) :
      Shifts s id (.hear caller) caller .listening (.leaving (.answered heard.result))

/-- What a step can do. -/
inductive Move (s : State) : Step → State → Prop
  | refuse {key : String} (reason : StopReason) : Move s (.ask key (some reason)) s
  | letIn {key : String} : Move s (.ask key none) (s.letIn key)
  | enter {key : String} (here : key ∈ s.admitted) : Move s (.enter key) (s.enter key)
  | shift {e : Step} {caller : CallerId} {c : Caller} {stage : Stage}
      (found : s.shared.callers[caller]? = some c)
      (shifts : Shifts s c.call e caller (s.stages caller) stage) :
      Move s e (s.shift caller stage)
  | leave {caller : CallerId} {c : Caller} {call : Call} {d : Departure}
      (found : s.shared.callers[caller]? = some c) (read : s.shared.calls[c.call]? = some call)
      (here : s.stages caller = .leaving d) :
      Move s (.leave caller) (s.leave caller c.call call d)
  | settle {id : CallId} {call : Call} {ending : Ending} (found : s.shared.calls[id]? = some call)
      (here : (s.tasks id).point = .fetching) (seen : ending = .aborted → call.cancelled = true) :
      Move s (.settle id ending) (s.advance id ((s.tasks id).settle ending))
  | withdraw {id : CallId} {call : Call} {ending : Ending}
      (found : s.shared.calls[id]? = some call)
      (here : (s.tasks id).point = .withdrawing ending) :
      Move s (.withdraw id) (s.withdraw id call ending)
  | send {id : CallId} {call : Call} {ending : Ending} (found : s.shared.calls[id]? = some call)
      (here : (s.tasks id).point = .sending ending) : Move s (.send id) (s.send id ending)
  | close {id : CallId} {call : Call} (found : s.shared.calls[id]? = some call)
      (here : (s.tasks id).point = .closing) :
      Move s (.close id) (s.advance id (s.tasks id).close)

/-- Every step that can be taken is one of the moves. -/
theorem move_of_step {s t : State} {e : Step} (taken : s.step? e = some t) : Move s e t := by
  cases e with
  | ask key stop? =>
    cases stop? with
    | none =>
      obtain rfl := Option.some.inj taken
      exact .letIn
    | some reason =>
      obtain rfl := Option.some.inj taken
      exact .refuse reason
  | enter key =>
    obtain ⟨here, taken⟩ := Option.ite_none_right_eq_some.1 taken
    obtain rfl := Option.some.inj taken
    exact .enter here
  | listen caller =>
    obtain ⟨c, found, taken⟩ := Option.bind_eq_some_iff.1 taken
    split at taken
    · next here =>
      obtain rfl := Option.some.inj taken
      exact .shift found (here ▸ .listen caller)
    · cases taken
  | stop caller reason =>
    obtain ⟨c, found, taken⟩ := Option.bind_eq_some_iff.1 taken
    split at taken
    · next here =>
      obtain rfl := Option.some.inj taken
      exact .shift found (here ▸ .stop caller reason)
    · cases taken
  | drop caller =>
    obtain ⟨c, found, taken⟩ := Option.bind_eq_some_iff.1 taken
    split at taken
    · next here =>
      obtain rfl := Option.some.inj taken
      exact .shift found (here ▸ .drop caller)
    · cases taken
  | hear caller =>
    obtain ⟨c, found, taken⟩ := Option.bind_eq_some_iff.1 taken
    split at taken
    · next here =>
      obtain ⟨heard, hears, taken⟩ := Option.bind_eq_some_iff.1 taken
      obtain rfl := Option.some.inj taken
      exact .shift found (here ▸ .hear caller hears)
    · cases taken
  | leave caller =>
    obtain ⟨c, found, taken⟩ := Option.bind_eq_some_iff.1 taken
    obtain ⟨call, read, taken⟩ := Option.bind_eq_some_iff.1 taken
    split at taken
    · next d here =>
      obtain rfl := Option.some.inj taken
      exact .leave found read here
    · cases taken
  | settle id ending =>
    simp only [State.step?, Option.bind_eq_bind, Option.bind_eq_some_iff] at taken
    obtain ⟨call, found, taken⟩ := taken
    split at taken
    · next here =>
      obtain ⟨cancelled, taken⟩ := Option.ite_none_right_eq_some.1 taken
      obtain rfl := Option.some.inj taken
      exact .settle found here fun _ => cancelled
    · next here other =>
      obtain rfl := Option.some.inj taken
      exact .settle found here fun aborted => (other aborted).elim
    · cases taken
  | withdraw id =>
    obtain ⟨call, found, taken⟩ := Option.bind_eq_some_iff.1 taken
    split at taken
    · next ending here =>
      obtain rfl := Option.some.inj taken
      exact .withdraw found here
    · cases taken
  | send id =>
    obtain ⟨call, found, taken⟩ := Option.bind_eq_some_iff.1 taken
    split at taken
    · next ending here =>
      obtain rfl := Option.some.inj taken
      exact .send found here
    · cases taken
  | close id =>
    obtain ⟨call, found, taken⟩ := Option.bind_eq_some_iff.1 taken
    split at taken
    · next here =>
      obtain rfl := Option.some.inj taken
      exact .close found here
    · cases taken

theorem eq_enter_of_move {s t : State} {key : String} (move : Move s (.enter key) t) :
    t = s.enter key := by
  cases move with
  | enter => rfl
  | @shift _ caller _ _ _ shifts =>
    generalize s.stages caller = stage at shifts
    cases shifts

/-- And every move is a step that can be taken. -/
theorem step?_of_move {s t : State} {e : Step} (move : Move s e t) : s.step? e = some t := by
  cases move with
  | refuse | letIn => rfl
  | enter here => exact if_pos here
  | @shift _ caller c stage found shifts =>
    generalize here : s.stages caller = stage' at shifts
    cases shifts with
    | listen | stop | drop => simp [State.step?, found, here]
    | hear _ hears => simp [State.step?, found, here, hears]
  | leave found read here => simp [State.step?, found, read, here]
  | @settle id call ending found here seen =>
    cases ending with
    | aborted => simp [State.step?, found, here, seen rfl]
    | fetched | lost => simp [State.step?, found, here]
  | withdraw found here | send found here | close found here => simp [State.step?, found, here]

theorem run?_of_move {s t : State} {e : Step} (move : Move s e t) (rest : List Step) :
    s.run? (e :: rest) = t.run? rest := by
  rw [State.run?, List.foldlM_cons, step?_of_move move]
  rfl

end RecordStore.SharedRead.Program
