/-
RecordStore.Proofs.Timeline.Handling -- what one event does to a timeline

Whatever happens on a timeline of an adapter, requests are added to those that
were sent, events to those that are due, and the shared reads take some of their
steps (`Progress`).  A request leaves only when an operation begins or a shared
read sends (`progress_send`, `progress_beginExchange`); every other event adds
neither requests nor reads (`progress_quiet`).  A caller keeps waiting for a
read that is under way until something happens that concerns the two of them
(`Awaits`, `awaits_of_path`).
-/
import Mathlib.Logic.Relation
import RecordStore.Proofs.SharedRead.Lasting
import RecordStore.Proofs.Single

namespace RecordStore

set_option autoImplicit false

open RecordStore.Wire

namespace SharedRead

/-! ## Steps of the shared reads -/

/-- Steps that have a property lead from one state to another. -/
abbrev Path (P : Step → Prop) : State → State → Prop :=
  Relation.ReflTransGen fun s t => ∃ e, P e ∧ s.step? e = some t

theorem reachable_of_path {P : Step → Prop} {s t : State} (reachable : Reachable s)
    (path : Path P s t) : Reachable t := by
  induction path with
  | refl => exact reachable
  | tail _ last ih =>
    obtain ⟨e, -, taken⟩ := last
    exact .step ih e taken

/-- The caller waits for a read whose fetch is under way. -/
structure Awaits (s : State) (caller : CallerId) (id : CallId) : Prop where
  waits : s.Waits caller id
  reading : ∃ call, s.calls[id]? = some call ∧ call.phase = .reading

/-- The steps after which a caller does not wait for a read any more. -/
def Step.Disturbs (caller : CallerId) (id : CallId) : Step → Prop
  | .stop other _ | .drop other => other = caller
  | .finish other ending => other = id ∧ ending ≠ .aborted
  | .arrive _ | .answer _ | .publish _ => False

section

variable {s t : State} {caller : CallerId} {id : CallId}

/-- A read that was replaced by one in the same phase, or another read. -/
theorem reading_of_replaces {other : CallId} {before after : Call}
    (replaces : Replaces s t other before after)
    (same : before.phase = .reading → other = id → after.phase = .reading)
    (reading : ∃ call, s.calls[id]? = some call ∧ call.phase = .reading) :
    ∃ call, t.calls[id]? = some call ∧ call.phase = .reading := by
  obtain ⟨call, found, reading⟩ := reading
  by_cases here : id = other
  · subst here
    obtain rfl := Option.some.inj (found.symm.trans replaces.found)
    exact ⟨after, replaces.changed, same reading rfl⟩
  · exact ⟨call, (replaces.kept id here).trans found, reading⟩

theorem awaits_of_move {e : Step} (inv : Invariant s) (move : Move s e t)
    (undisturbed : ¬ e.Disturbs caller id) (awaits : Awaits s caller id) :
    Awaits t caller id := by
  obtain ⟨waits, reading⟩ := awaits
  have lt : caller < s.callers.length := (List.getElem?_eq_some_iff.1 waits).1
  cases move with
  | join held =>
    obtain ⟨call, found, -, -⟩ := inv.current.1 held
    exact ⟨(List.getElem?_append_left lt).trans waits,
      reading_of_replaces (replaces_join found) (fun same _ => same) reading⟩
  | start absent =>
    obtain ⟨call, found, reading⟩ := reading
    have known := (List.getElem?_eq_some_iff.1 found).1
    exact ⟨(List.getElem?_append_left lt).trans waits, call,
      (List.getElem?_append_left known).trans found, reading⟩
  | @leave _ leaver d left call gone found leaves =>
    have other : caller ≠ leaver := by
      rintro rfl
      cases leaves with
      | stop | drop => exact undisturbed rfl
      | answer _ there =>
        obtain ⟨call', found', reading⟩ := reading
        cases Option.some.inj (waits.symm.trans gone)
        obtain rfl := Option.some.inj (found.symm.trans found')
        rw [reading] at there
        cases there
    refine ⟨?_, reading_of_replaces (replaces_leave found leaver d) (fun same _ => same) reading⟩
    rw [State.Waits, getElem?_depart, if_neg other, leaveCall_callers]
    exact waits
  | @finish ended call ending found still seen =>
    have other : ended ≠ id := by
      rintro rfl
      by_cases aborted : ending = .aborted
      · have live := inv.live_of_waits waits found
        rw [seen aborted] at live
        cases live
      · exact undisturbed ⟨rfl, aborted⟩
    refine ⟨?_, reading_of_replaces (replaces_endTask found)
      (fun _ same => absurd same other) reading⟩
    rw [State.Waits]
    exact (congrArg (·[caller]?) (removeCurrent_callers s ended call.key)).trans waits
  | publish found ended =>
    refine ⟨waits, reading_of_replaces (replaces_makePublic found) (fun still _ => ?_) reading⟩
    rw [ended] at still
    cases still

/-- A caller keeps waiting for a read that is under way, until a step disturbs it. -/
theorem awaits_of_path {P : Step → Prop} (reachable : Reachable s) (path : Path P s t)
    (undisturbed : ∀ e, P e → ¬ e.Disturbs caller id) (awaits : Awaits s caller id) :
    Awaits t caller id := by
  induction path with
  | refl => exact awaits
  | tail before last ih =>
    obtain ⟨e, held, taken⟩ := last
    have inv := invariant_of_reachable (reachable_of_path reachable before)
    exact awaits_of_move inv (move_of_step taken) (undisturbed e held) ih

/-- Reads come into being only when a caller arrives. -/
theorem length_of_path {P : Step → Prop} (path : Path P s t)
    (nobody : ∀ key, ¬ P (.arrive key)) : t.calls.length = s.calls.length := by
  induction path with
  | refl => rfl
  | tail _ last ih =>
    obtain ⟨e, held, taken⟩ := last
    rw [← ih]
    cases move_of_step taken with
    | join | start => exact absurd held (nobody _)
    | leave _ found _ => exact (replaces_leave found _ _).sameLength
    | finish found _ _ => exact (replaces_endTask found).sameLength
    | publish found _ => exact (replaces_makePublic found).sameLength

/-- Callers are never forgotten. -/
theorem callers_le_of_path {P : Step → Prop} (path : Path P s t) :
    s.callers.length ≤ t.callers.length := by
  induction path with
  | refl => exact Nat.le_refl _
  | @tail u t _ last ih =>
    obtain ⟨e, -, taken⟩ := last
    refine Nat.le_trans ih ?_
    cases move_of_step taken with
    | join | start => simp [State.join, State.start]
    | leave => simp [State.depart]
    | finish => simp [State.endTask]
    | publish => simp [State.makePublic]

end

end SharedRead

namespace Timeline

variable {σ ρ : Type}

/-! ## What is due -/

theorem enqueue_perm (due : Due σ) (queue : List (Due σ)) :
    (enqueue due queue).Perm (due :: queue) := by
  induction queue with
  | nil => exact .refl _
  | cons d rest ih =>
    rw [enqueue]
    split
    · exact .refl _
    · exact (ih.cons d).trans (.swap due d rest)

/-- What is due, and when. -/
def dues (t : Timeline σ ρ) : List (Instant × Event σ) :=
  t.queue.map fun due => (due.time, due.event)

/-- The events that are due. -/
def events (t : Timeline σ ρ) : List (Event σ) := t.dues.map (·.2)

end Timeline

/-- The read that an event sends, or brings the answer to. -/
def Event.call? {σ : Type} : Event σ → Option SharedRead.CallId
  | .send call _ | .arrived call _ _ => some call
  | .start _ | .stopped .. | .exchanged _ | .interrupted .. | .resumed _ => none

/-- The task that an event begins. -/
def Event.begins? {σ : Type} : Event σ → Option Nat
  | .start task => some task
  | _ => none

/-- The caller whose context ends with an event. -/
def Event.stops? {σ : Type} : Event σ → Option SharedRead.CallerId
  | .stopped caller _ => some caller
  | _ => none

/-- The event may end a caller's waiting for a read. -/
def Event.Concerns {σ : Type} (caller : SharedRead.CallerId) (id : SharedRead.CallId) :
    Event σ → Prop
  | .send call _ | .arrived call _ _ => call = id
  | .stopped other _ => other = caller
  | .start _ | .exchanged _ | .interrupted .. | .resumed _ => False

/-- Steps that an event other than the beginning of an operation may bring about. -/
def Event.Causes {σ : Type} (event : Event σ) (e : SharedRead.Step) : Prop :=
  (∀ key, e ≠ .arrive key) ∧ ∀ caller id, e.Disturbs caller id → event.Concerns caller id

/-- A timeline of an adapter goes on: requests are sent, events become due, and the shared reads
take steps that have a property. -/
structure Progress {σ ρ : Type} (P : SharedRead.Step → Prop) (t : Timeline σ ρ)
    (sent : List Request) (noted : List (Instant × Event σ)) (t' : Timeline σ ρ) : Prop where
  tasks : t'.tasks = t.tasks
  requests : t'.world.requests = t.world.requests ++ sent
  dues : t'.dues.Perm (t.dues ++ noted)
  reads : ∀ {adapter client reads}, t.world.store = .adapted adapter client reads →
    ∃ client' reads', t'.world.store = .adapted adapter client' reads' ∧
      SharedRead.Path P reads reads'

namespace Progress

variable {σ ρ : Type} {P : SharedRead.Step → Prop} {t t' t'' : Timeline σ ρ}

theorem refl (t : Timeline σ ρ) : Progress P t [] [] t where
  tasks := rfl
  requests := (List.append_nil _).symm
  dues := by rw [List.append_nil]
  reads store := ⟨_, _, store, .refl⟩

theorem events {sent : List Request} {noted : List (Instant × Event σ)}
    (progress : Progress P t sent noted t') :
    t'.events.Perm (t.events ++ noted.map (·.2)) := by
  rw [Timeline.events, Timeline.events, ← List.map_append]
  exact progress.dues.map _

theorem trans {sent more : List Request} {noted later : List (Instant × Event σ)}
    (first : Progress P t sent noted t') (rest : Progress P t' more later t'') :
    Progress P t (sent ++ more) (noted ++ later) t'' where
  tasks := rest.tasks.trans first.tasks
  requests := by rw [rest.requests, first.requests, List.append_assoc]
  dues := by
    rw [← List.append_assoc]
    exact rest.dues.trans (first.dues.append_right later)
  reads store := by
    obtain ⟨_, _, store', path⟩ := first.reads store
    obtain ⟨client, reads, store'', path'⟩ := rest.reads store'
    exact ⟨client, reads, store'', path.trans path'⟩

/-- Nothing is sent or noted before something is. -/
theorem after {sent : List Request} {noted : List (Instant × Event σ)}
    (first : Progress P t [] [] t')
    (rest : Progress P t' sent noted t'') : Progress P t sent noted t'' :=
  first.trans rest

/-- Only the client and the shared reads change. -/
theorem of_path {adapter : Adapter} {client client' : σ} {reads reads' : SharedRead.State}
    (store : t.world.store = .adapted adapter client reads)
    (path : SharedRead.Path P reads reads') :
    Progress P t [] [] { t with world := { t.world with
      store := .adapted adapter client' reads' } } where
  tasks := rfl
  requests := (List.append_nil _).symm
  dues := by rw [List.append_nil]; rfl
  reads store' := by
    cases store.symm.trans store'
    exact ⟨_, _, rfl, path⟩

end Progress

namespace Timeline

variable {σ ρ : Type} {P : SharedRead.Step → Prop} (t : Timeline σ ρ)

theorem progress_note (time : Instant) (event : Event σ) :
    Progress P t [] [(time, event)] (t.note time event) where
  tasks := rfl
  requests := (List.append_nil _).symm
  dues := by
    have perm := (enqueue_perm ⟨time, t.noted, event⟩ t.queue).map fun due => (due.time, due.event)
    exact perm.trans (List.perm_append_singleton (time, event) t.dues).symm
  reads store := ⟨_, _, store, .refl⟩

theorem progress_finish (task : Nat) (result : ρ × List Notice × List Metrics.Sample) :
    Progress P t [] [] (t.finish task result) where
  tasks := rfl
  requests := (List.append_nil _).symm
  dues := by rw [List.append_nil]; rfl
  reads store := ⟨_, _, store, .refl⟩

theorem progress_settle (sender : Sender σ ρ) (sent : Sent sender.request) :
    Progress P t [] [] (t.settle sender sent) where
  tasks := rfl
  requests := (List.append_nil _).symm
  dues := by rw [List.append_nil]; rfl
  reads store := ⟨_, _, store, .refl⟩

theorem progress_interrupt (task : Nat) (reason : StopReason) :
    Progress P t [] [] (t.interrupt task reason) := by
  unfold interrupt
  split
  · exact progress_settle t _ _
  · exact .refl t

theorem progress_receiveOwn (task : Nat) : Progress P t [] [] (t.receiveOwn task) := by
  unfold receiveOwn
  split
  · next store _ =>
    exact (Progress.of_path store .refl).after (progress_settle _ _ _)
  · exact .refl t

theorem path_advanceReads {reads : SharedRead.State} {step : SharedRead.Step} (held : P step) :
    SharedRead.Path P reads (advanceReads reads step) := by
  unfold advanceReads
  cases taken : reads.step? step with
  | none => exact .refl
  | some next => exact .single ⟨step, held, taken⟩

theorem path_answers (held : ∀ caller, P (.answer caller)) (readers : List (Reader ρ))
    (reads : SharedRead.State) :
    SharedRead.Path P reads
      (readers.foldl (fun reads r => advanceReads reads (.answer r.caller)) reads) := by
  induction readers generalizing reads with
  | nil => exact .refl
  | cons r rest ih => exact (path_advanceReads (held r.caller)).trans (ih _)

theorem progress_answers (ending : SharedRead.Result) (readers : List (Reader ρ)) :
    Progress P t [] []
      (readers.foldl (fun t r => t.finish r.task (r.tell t.world.now ending)) t) := by
  induction readers generalizing t with
  | nil => exact .refl t
  | cons r rest ih => exact (progress_finish t _ _).after (ih _)

/-- The task of a read ends, and everyone who waits is answered. -/
theorem progress_publish {call : SharedRead.CallId} {ending : SharedRead.Ending}
    (finishes : P (.finish call ending)) (publishes : P (.publish call))
    (answers : ∀ caller, P (.answer caller)) :
    Progress P t [] [] (t.publish call ending) := by
  unfold publish
  split
  · exact .refl t
  · next adapter client reads store =>
    dsimp only
    split
    · exact .refl t
    · next reads' taken =>
      have path := ((Relation.ReflTransGen.single ⟨_, finishes, taken⟩).trans
        (path_advanceReads publishes)).trans (path_answers answers
          (waitingFor (advanceReads reads' (.publish call)) call t.readers) _)
      exact (Progress.of_path store path).after (progress_answers _ _ _)

/-- The answer to a shared read arrives. -/
theorem progress_receive {call : SharedRead.CallId} {request : ItemRead}
    (exchange : Exchange σ (.read request))
    (finishes : ∀ ending, P (.finish call ending)) (publishes : P (.publish call))
    (answers : ∀ caller, P (.answer caller)) :
    Progress P t [] [] (t.receive call exchange) := by
  unfold receive
  split
  · exact .refl t
  · next store =>
    split
    · exact (Progress.of_path store .refl).after
        (progress_publish _ (finishes _) publishes answers)
    · exact .refl t

theorem progress_abortIfCancelled {call : SharedRead.CallId}
    (finishes : P (.finish call .aborted)) (publishes : P (.publish call))
    (answers : ∀ caller, P (.answer caller)) :
    Progress P t [] [] (t.abortIfCancelled call) := by
  unfold abortIfCancelled
  split
  · exact .refl t
  · split
    · split
      · exact progress_publish t finishes publishes answers
      · exact .refl t
    · exact .refl t

/-- A caller leaves because its context ended. -/
theorem progress_stopReader {caller : SharedRead.CallerId} {reason : StopReason}
    (stops : P (.stop caller reason)) (finishes : ∀ call, P (.finish call .aborted))
    (publishes : ∀ call, P (.publish call)) (answers : ∀ caller, P (.answer caller)) :
    Progress P t [] [] (t.stopReader caller reason) := by
  unfold stopReader
  split
  · next store _ =>
    dsimp only
    split
    · next taken =>
      exact ((Progress.of_path store (.single ⟨_, stops, taken⟩)).after
        (progress_finish _ _ _)).after
          (progress_abortIfCancelled _ (finishes _) (publishes _) answers)
    · exact .refl t
  · exact .refl t

/-! ## Events -/

/-- Events that are due for a task that is there already, and do not concern the shared reads. -/
def Later (noted : List (Instant × Event σ)) : Prop :=
  ∀ n ∈ noted, n.2.call? = none ∧ n.2.begins? = none ∧ n.2.stops? = none

theorem later_nil : Later ([] : List (Instant × Event σ)) :=
  fun _ member => absurd member List.not_mem_nil

theorem later_singleton (time : Instant) {e : Event σ} (call : e.call? = none)
    (begins : e.begins? = none) (stops : e.stops? = none) : Later [(time, e)] := by
  intro other member
  rw [List.mem_singleton.1 member]
  exact ⟨call, begins, stops⟩

/-- The end of the context of a caller, if it has one. -/
def stopsOf (caller : SharedRead.CallerId) (over? : Option (Instant × StopReason)) :
    List (Instant × Event σ) :=
  over?.toList.map fun stop => (stop.1, .stopped caller stop.2)

variable (slow : SlowClient σ)

/-- Apart from the beginning of an operation and the request of a read, no event sends anything. -/
theorem progress_quiet {event : Event σ} (begun : event.begins? = none)
    (unsent : ∀ call request, event ≠ .send call request) :
    Progress event.Causes t [] [] (t.handle slow event) := by
  cases event with
  | start task => cases begun
  | send call request => exact absurd rfl (unsent call request)
  | arrived call request exchange =>
    exact progress_receive t exchange (fun _ => ⟨nofun, fun _ _ disturbs => disturbs.1⟩)
      ⟨nofun, nofun⟩ fun _ => ⟨nofun, nofun⟩
  | stopped caller reason =>
    exact progress_stopReader t ⟨nofun, fun _ _ same => same⟩
      (fun _ => ⟨nofun, fun _ _ disturbs => absurd rfl disturbs.2⟩) (fun _ => ⟨nofun, nofun⟩)
      fun _ => ⟨nofun, nofun⟩
  | exchanged task => exact progress_receiveOwn t task
  | interrupted task reason => exact progress_interrupt t task reason
  | resumed task =>
    unfold handle
    dsimp only
    split
    · exact progress_finish t _ _
    · exact .refl t

/-- The task of a read that is not wanted any more sends nothing. -/
theorem handle_send_unwanted {call : SharedRead.CallId} (request : ItemRead) {adapter : Adapter}
    {client : σ} {reads : SharedRead.State} (store : t.world.store = .adapted adapter client reads)
    (unwanted : ¬ isReading reads call) : t.handle slow (.send call request) = t := by
  show t.send slow call request = t
  unfold send
  rw [store]
  exact if_neg unwanted

/-- The task of a read sends its request. -/
theorem progress_send {call : SharedRead.CallId} (request : ItemRead) {adapter : Adapter}
    {client : σ} {reads : SharedRead.State} (store : t.world.store = .adapted adapter client reads)
    (wanted : isReading reads call) :
    ∃ noted, (noted = [] ∨ ∃ time exchange, noted = [(time, .arrived call request exchange)]) ∧
      Progress (Event.send (σ := σ) call request).Causes t [.read request] noted
        (t.handle slow (.send call request)) := by
  show ∃ noted, _ ∧ Progress _ t _ noted (t.send slow call request)
  unfold send
  rw [store]
  dsimp only
  rw [if_pos wanted]
  let exchange := (slow.dispatch t.world.time (.read request) client).1
  let client' := (slow.dispatch t.world.time (.read request) client).2
  let gone : Timeline σ ρ := { t with world := { t.world with
    store := .adapted adapter client' reads
    requests := t.world.requests ++ [Request.read request] } }
  have leaves : Progress (Event.send (σ := σ) call request).Causes t [.read request] [] gone := by
    refine ⟨rfl, rfl, by rw [List.append_nil]; rfl, fun store' => ?_⟩
    cases store.symm.trans store'
    exact ⟨_, _, rfl, .refl⟩
  by_cases atOnce : exchange.delay = 0
  · refine ⟨[], .inl rfl, ?_⟩
    have received := progress_receive (P := (Event.send (σ := σ) call request).Causes) gone
      exchange (fun _ => ⟨nofun, fun _ _ disturbs => disturbs.1⟩) ⟨nofun, nofun⟩
      fun _ => ⟨nofun, nofun⟩
    show Progress _ t _ _ (if exchange.delay = 0 then _ else _)
    rw [if_pos atOnce]
    exact leaves.trans received
  · refine ⟨[(t.world.now + exchange.delay, .arrived call request exchange)],
      .inr ⟨_, exchange, rfl⟩, ?_⟩
    show Progress _ t _ _ (if exchange.delay = 0 then _ else _)
    rw [if_neg atOnce]
    exact leaves.trans (progress_note gone _ _)

/-- A request leaves under a live context. -/
theorem progress_beginExchange (task : Nat) {adapter : Adapter} {client : σ}
    {reads : SharedRead.State} (store : t.world.store = .adapted adapter client reads)
    {life : Lifespan} (live : life.reason? t.world.now = none) (request : Request)
    (tell : Teller ρ (Sent request)) :
    ∃ noted, Later noted ∧ Progress P t [request] noted
      (beginExchange slow t task adapter client reads life request tell) := by
  unfold beginExchange
  obtain ⟨exchange, client'⟩ := slow.dispatch t.world.time request client
  let gone : Timeline σ ρ := { t with
    world := { t.world with
      store := .adapted adapter client' reads
      requests := t.world.requests ++ [request] }
    senders := t.senders ++ [⟨task, request, exchange, tell⟩] }
  have leaves : Progress P t [request] [] gone := by
    refine ⟨rfl, rfl, by rw [List.append_nil]; rfl, fun store' => ?_⟩
    cases store.symm.trans store'
    exact ⟨_, _, rfl, .refl⟩
  have arrives (time : Instant) : ∃ noted, Later noted ∧ Progress P t [request] noted
      (if exchange.delay = 0 then gone.receiveOwn task else
        gone.note time (.exchanged task)) := by
    split
    · exact ⟨[], later_nil, leaves.trans (progress_receiveOwn gone task)⟩
    · exact ⟨[(time, .exchanged task)], later_singleton time rfl rfl rfl,
        leaves.trans (progress_note gone _ _)⟩
  dsimp only
  rw [Lifespan.race_of_live live]
  cases life.end? with
  | none => exact arrives _
  | some time =>
    dsimp only
    by_cases first : time ≤ t.world.now + exchange.delay
    · rw [if_pos first]
      exact ⟨[(time, .interrupted task life.endReason)], later_singleton time rfl rfl rfl,
        leaves.trans (progress_note gone _ _)⟩
    · rw [if_neg first]
      exact arrives _

/-- The request of a read that a caller starts. -/
def fetchOf (reads : SharedRead.State) (now : Instant) (key : String) (request : ItemRead) :
    List (Instant × Event σ) :=
  if (reads.table.get? key).isNone then [(now, .send reads.calls.length request)] else []

/-- A caller joins the read of its key, or starts it, and then the request of the read is due.  The
end of its own context is due, too. -/
theorem progress_beginSharedRead (task : Nat) {adapter : Adapter} {client : σ}
    {reads : SharedRead.State} (store : t.world.store = .adapted adapter client reads)
    (life : Lifespan) (key : String) (request : ItemRead) (tell : Teller ρ SharedRead.Result) :
    let begun := beginSharedRead t task adapter client reads life key request tell
    Progress (· = .arrive key) t [] (fetchOf reads t.world.now key request ++
      stopsOf reads.callers.length (life.done? t.world.now)) begun ∧
      begun.world.store = .adapted adapter client (reads.arrive key) := by
  let entered : Timeline σ ρ := { t with
    world := { t.world with store := .adapted adapter client (reads.arrive key) }
    readers := t.readers ++ [⟨reads.callers.length, task, tell⟩] }
  let noted : Timeline σ ρ := if (reads.table.get? key).isNone
    then entered.note t.world.now (.send reads.calls.length request) else entered
  have arrives : Progress (· = .arrive key) t [] [] entered := by
    refine ⟨rfl, (List.append_nil _).symm, by rw [List.append_nil]; rfl, fun store' => ?_⟩
    cases store.symm.trans store'
    exact ⟨_, _, rfl, .single ⟨_, rfl, rfl⟩⟩
  have sends : Progress (· = .arrive key) t [] (fetchOf reads t.world.now key request) noted := by
    unfold fetchOf
    by_cases fresh : (reads.table.get? key).isNone = true
    · have eq : noted = entered.note t.world.now (.send reads.calls.length request) := if_pos fresh
      rw [if_pos fresh, eq]
      exact arrives.after (progress_note entered _ _)
    · have eq : noted = entered := if_neg fresh
      rw [if_neg fresh, eq]
      exact arrives
  have same : noted.world = entered.world := by
    show (if _ then _ else _ : Timeline σ ρ).world = _
    split <;> rfl
  have held : noted.world.store = .adapted adapter client (reads.arrive key) :=
    congrArg World.store same
  have now : noted.world.now = t.world.now := by rw [same]
  unfold beginSharedRead
  dsimp only
  rw [show life.done? t.world.now = life.done? noted.world.now by rw [now]]
  cases life.done? noted.world.now with
  | none => exact ⟨sends.trans (.refl noted), held⟩
  | some stop => exact ⟨sends.trans (progress_note noted stop.1 _), held⟩

end Timeline

end RecordStore
