/-
RecordStore.Proofs.Timeline.Course -- what happened on a timeline so far

A course takes what is due in any order, each at the instant for which it was
noted (`Course`); a run takes it in the order of the queue (`course_runFor`).  What happens in a course is
kept with the timeline on which it happened (`Happening`), so that what it sent
can be told.  On a timeline of operations of an adapter there are six ways in
which things happen (`Effect`, `effect_of_operations`).
-/
import RecordStore.Proofs.Dispatch
import RecordStore.Proofs.Timeline.Handling
import RecordStore.Proofs.Visit

namespace RecordStore

set_option autoImplicit false

open RecordStore.Wire

/-- Something that happened, and the timeline on which it did. -/
structure Happening (σ ρ : Type) where
  here : Timeline σ ρ
  event : Event σ

/-- The timeline once something that was due is taken from it, at an instant. -/
def Timeline.taking {σ ρ : Type} (t : Timeline σ ρ) (queue : List (Due σ)) (now : Instant) :
    Timeline σ ρ :=
  { t with queue, world := { t.world with now } }

/-- The things that happened lead from one timeline to another.  Whatever is due may be next. -/
inductive Course {σ ρ : Type} (slow : SlowClient σ) (t₀ : Timeline σ ρ) :
    List (Happening σ ρ) → Timeline σ ρ → Prop
  | nil : Course slow t₀ [] t₀
  | snoc {past : List (Happening σ ρ)} {t : Timeline σ ρ} {before after : List (Due σ)}
      {due : Due σ} (course : Course slow t₀ past t) (queue : t.queue = before ++ due :: after) :
      Course slow t₀ (past ++ [⟨t.taking (before ++ after) due.time, due.event⟩])
        ((t.taking (before ++ after) due.time).handle slow due.event)

/-- A run is a course. -/
theorem course_runFor {σ ρ : Type} {slow : SlowClient σ} {t₀ t : Timeline σ ρ}
    {past : List (Happening σ ρ)} (course : Course slow t₀ past t) (fuel : Nat) :
    ∃ all, Course slow t₀ all (t.runFor slow fuel) := by
  induction fuel generalizing past t with
  | zero => exact ⟨past, course⟩
  | succ fuel ih =>
    rw [Timeline.runFor]
    split
    · exact ⟨past, course⟩
    · split
      · exact ⟨past, course⟩
      · next due rest queue =>
        have first : t.queue = [] ++ due :: rest := queue
        have next := course.snoc first
        rw [List.nil_append] at next
        unfold Timeline.taking at next
        exact ih next

namespace Timeline

variable {σ ρ : Type}

/-- The shared reads of an adapter. -/
def reads (t : Timeline σ ρ) : SharedRead.State :=
  match t.world.store with
  | .adapted _ _ reads => reads
  | .reference .. => .initial

theorem reads_of_store {t : Timeline σ ρ} {adapter : Adapter} {client : σ}
    {reads : SharedRead.State} (store : t.world.store = .adapted adapter client reads) :
    t.reads = reads := by
  rw [Timeline.reads, store]

end Timeline

namespace Happening

variable {σ ρ : Type} (slow : SlowClient σ) (h : Happening σ ρ)

/-- The timeline afterwards. -/
def after : Timeline σ ρ := h.here.handle slow h.event

/-- The requests that were sent. -/
def sent : List Request :=
  (h.after slow).world.requests.drop h.here.world.requests.length

/-- The read that came into being, if one did. -/
def started? : Option SharedRead.CallId :=
  if h.here.reads.calls.length < (h.after slow).reads.calls.length
  then some h.here.reads.calls.length else none

end Happening

section

variable {σ ρ : Type} {slow : SlowClient σ} {h : Happening σ ρ} {P : SharedRead.Step → Prop}
  {sent : List Request} {noted : List (Instant × Event σ)}

theorem Happening.sent_eq (progress : Progress P h.here sent noted (h.after slow)) :
    h.sent slow = sent := by
  rw [Happening.sent, progress.requests, List.drop_left]

theorem Happening.started?_eq_none
    (same : (h.after slow).reads.calls.length = h.here.reads.calls.length) :
    h.started? slow = none := by
  rw [started?, same, if_neg (Nat.lt_irrefl _)]

theorem Happening.eq_of_started? {call : SharedRead.CallId}
    (started : h.started? slow = some call) : h.here.reads.calls.length = call := by
  unfold started? at started
  split at started
  · exact Option.some.inj started
  · cases started

/-- No read comes into being where no caller arrives. -/
theorem Progress.length_reads {adapter : Adapter} {client : σ} {reads : SharedRead.State}
    (store : h.here.world.store = .adapted adapter client reads)
    (progress : Progress P h.here sent noted (h.after slow)) (nobody : ∀ key, ¬ P (.arrive key)) :
    (h.after slow).reads.calls.length = h.here.reads.calls.length := by
  obtain ⟨_, _, store', path⟩ := progress.reads store
  rw [Timeline.reads_of_store store', Timeline.reads_of_store store]
  exact SharedRead.length_of_path path nobody

end

/-- The read whose request an event sends. -/
def Event.sends? {σ : Type} : Event σ → Option SharedRead.CallId
  | .send call _ => some call
  | _ => none

/-- An activity is an operation. -/
def Activity.IsOperation {σ ρ : Type} : Activity σ ρ → Prop
  | .operation .. => True
  | .request .. | .pause .. | .act _ => False

/-- The context under which an operation runs that begins at an instant. -/
def Activity.life? {σ ρ : Type} : Activity σ ρ → Option (Instant → Lifespan)
  | .operation _ life _ => some life
  | .request .. | .pause .. | .act _ => none

/-- When the context of the operation that begins is over, and why, if it ever is. -/
def Happening.over? {σ ρ : Type} (h : Happening σ ρ) : Option (Instant × StopReason) := do
  let task ← h.event.begins?
  let entry ← h.here.tasks[task]?
  let life ← entry.activity.life?
  (life h.here.world.now).done? h.here.world.now

theorem Happening.over?_eq {σ ρ : Type} {h : Happening σ ρ} {task delay : Nat} {op : Operation}
    {life : Instant → Lifespan} {tell : op.Result → ρ × List Notice}
    (event : h.event = .start task)
    (entry : h.here.tasks[task]? = some ⟨delay, .operation op life tell⟩) :
    h.over? = (life h.here.world.now).done? h.here.world.now := by
  rw [over?, event]
  show h.here.tasks[task]?.bind _ = _
  rw [entry]
  rfl

/-- How an operation of an adapter begins. -/
inductive Timeline.Begins {σ ρ : Type} (adapter : Adapter) (t : Timeline σ ρ) (task : Nat)
    (m : Moment) (client : σ) (reads : SharedRead.State) :
    (op : Operation) → (op.Result → ρ × List Notice) → Timeline σ ρ → Prop
  /-- It is over at once, because of its first fault. -/
  | refused {op : Operation} {tell : op.Result → ρ × List Notice} {fault : StoreError}
      {rest : List StoreError} (first : op.faults m = fault :: rest) :
      Begins adapter t task m client reads op tell (t.finish task (Timeline.tellReply op
        adapter.container (.between m.now m.now) tell (.of (.error fault))))
  /-- It is over at once, because it has nothing to ask for. -/
  | idle {op : Operation} {tell : op.Result → ρ × List Notice} (answer : op.Answer)
      (notices : List Notice) (clear : op.faults m = []) (idle : op.Idle) :
      Begins adapter t task m client reads op tell (t.finish task (Timeline.tellReply op
        adapter.container (.between m.now m.now) tell ⟨.ok answer, notices⟩))
  /-- Its request leaves. -/
  | exchanges {op : Operation} {tell : op.Result → ρ × List Notice} {request : Request}
      {noted : List (Instant × Event σ)} {t' : Timeline σ ρ} (clear : op.faults m = [])
      (busy : ¬ op.Idle) (asks : adapter.Asks m op request) (own : op.kind ≠ .get)
      (later : Timeline.Later noted)
      (progress : Progress (fun _ => False) t [request] noted t') :
      Begins adapter t task m client reads op tell t'
  /-- It joins the read of its key that is in flight. -/
  | joins {key : String} {tell : (Operation.get key).Result → ρ × List Notice}
      {t' : Timeline σ ρ} (clear : (Operation.get key).faults m = [])
      {id : SharedRead.CallId} (held : reads.table.get? key = some id)
      (progress : Progress (· = .arrive key) t []
        (Timeline.stopsOf reads.callers.length (m.life.done? m.now)) t')
      (store : t'.world.store = .adapted adapter client (reads.join id)) :
      Begins adapter t task m client reads (.get key) tell t'
  /-- It starts the read of its key, whose request is due. -/
  | starts {key : String} {tell : (Operation.get key).Result → ρ × List Notice}
      {t' : Timeline σ ρ} (clear : (Operation.get key).faults m = [])
      (absent : reads.table.get? key = none)
      (progress : Progress (· = .arrive key) t []
        ((m.now, .send reads.calls.length (adapter.readRequest key)) ::
          Timeline.stopsOf reads.callers.length (m.life.done? m.now)) t')
      (store : t'.world.store = .adapted adapter client (reads.start key)) :
      Begins adapter t task m client reads (.get key) tell t'

theorem Timeline.begins_operation {σ ρ : Type} (slow : SlowClient σ) (t : Timeline σ ρ)
    (task : Nat) {adapter : Adapter} {client : σ} {reads : SharedRead.State}
    (store : t.world.store = .adapted adapter client reads) (op : Operation) (life : Lifespan)
    (tell : op.Result → ρ × List Notice) :
    Begins adapter t task ⟨t.world.now, t.world.time, life⟩ client reads op tell
      (beginOperation slow t task op life tell) := by
  let m : Moment := ⟨t.world.now, t.world.time, life⟩
  have dispatches := adapter.dispatches_plan m op
  have sound := adapter.plan_sound m op
  cases planned : adapter.plan m op with
  | done reply =>
    rw [beginOperation_done slow task store tell planned]
    rw [planned] at dispatches
    cases dispatches with
    | refused first => exact .refused first
    | idle answer notices clear idle => exact .idle answer notices clear idle
  | @sharedRead key request =>
    rw [beginOperation_sharedRead slow task store tell planned]
    rw [planned] at dispatches
    cases dispatches with
    | shared clear =>
      obtain ⟨progress, held⟩ := progress_beginSharedRead t task store life key
        (adapter.readRequest key) fun now result =>
          tellReply (.get key) adapter.container (.between t.world.now now) tell (.of result)
      cases found : reads.table.get? key with
      | some id =>
        rw [SharedRead.State.arrive, found] at held
        rw [fetchOf, found] at progress
        exact .joins clear found progress held
      | none =>
        rw [SharedRead.State.arrive, found] at held
        rw [fetchOf, found] at progress
        exact .starts clear found progress held
  | exchange request conclude =>
    rw [beginOperation_exchange slow task store tell planned]
    rw [planned] at dispatches sound
    cases dispatches with
    | sent _ clear busy asks own =>
      obtain ⟨noted, later, progress⟩ := progress_beginExchange t slow task store sound.1 request
        fun now sent => tellReply op adapter.container (.between t.world.now now) tell
          (conclude sent.outcome)
      exact .exchanges clear busy asks own later progress

/-- No read came into being. -/
def Happening.AddsNoRead {σ ρ : Type} (slow : SlowClient σ) (h : Happening σ ρ) : Prop :=
  (h.after slow).reads.calls.length = h.here.reads.calls.length

/-- Who joins a read does not start one. -/
theorem Happening.addsNoRead_of_join {σ ρ : Type} {slow : SlowClient σ} {h : Happening σ ρ}
    {id : SharedRead.CallId} (arrived : (h.after slow).reads = h.here.reads.join id) :
    h.AddsNoRead slow := by
  rw [AddsNoRead, arrived]
  simp [SharedRead.State.join, SharedRead.State.updateCall]

theorem Happening.started?_of_start {σ ρ : Type} {slow : SlowClient σ} {h : Happening σ ρ}
    {key : String} (arrived : (h.after slow).reads = h.here.reads.start key) :
    h.started? slow = some h.here.reads.calls.length := by
  rw [started?, arrived]
  simp [SharedRead.State.start]

/-- What can happen on a timeline of operations. -/
inductive Effect {σ ρ : Type} (slow : SlowClient σ) (adapter : Adapter) (h : Happening σ ρ) : Prop
  /-- Nothing is sent. -/
  | quiet {P : SharedRead.Step → Prop} (unsent : h.event.sends? = none)
      (harmless : ∀ e, P e → h.event.Causes e) (same : h.AddsNoRead slow)
      (progress : Progress P h.here [] [] (h.after slow))
  /-- A read is not wanted any more when its request is due. -/
  | drops {call : SharedRead.CallId} {request : ItemRead} (event : h.event = .send call request)
      (unwanted : ¬ Timeline.isReading h.here.reads call) (same : h.AddsNoRead slow)
      (progress : Progress h.event.Causes h.here [] [] (h.after slow))
  /-- The request of a read leaves. -/
  | sends {call : SharedRead.CallId} {request : ItemRead} {noted : List (Instant × Event σ)}
      (event : h.event = .send call request)
      (answer : noted = [] ∨ ∃ time exchange, noted = [(time, .arrived call request exchange)])
      (same : h.AddsNoRead slow)
      (progress : Progress h.event.Causes h.here [.read request] noted (h.after slow))
  /-- An operation is over at once, or sends its request. -/
  | begins {task : Nat} {sent : List Request} {noted : List (Instant × Event σ)}
      (event : h.event = .start task) (later : Timeline.Later noted) (same : h.AddsNoRead slow)
      (progress : Progress (fun _ => False) h.here sent noted (h.after slow))
  /-- A get joins a read. -/
  | joins {task : Nat} {key : String} {id : SharedRead.CallId} (event : h.event = .start task)
      (progress : Progress (· = .arrive key) h.here []
        (Timeline.stopsOf h.here.reads.callers.length h.over?) (h.after slow))
      (arrived : (h.after slow).reads = h.here.reads.join id)
  /-- A get starts a read. -/
  | starts {task : Nat} {key : String} (event : h.event = .start task)
      (progress : Progress (· = .arrive key) h.here []
        ((h.here.world.now, .send h.here.reads.calls.length (adapter.readRequest key)) ::
          Timeline.stopsOf h.here.reads.callers.length h.over?) (h.after slow))
      (arrived : (h.after slow).reads = h.here.reads.start key)

section

variable {σ ρ : Type} (slow : SlowClient σ) {adapter : Adapter} {client : σ}
  {reads : SharedRead.State} {h : Happening σ ρ}
  (store : h.here.world.store = .adapted adapter client reads)

include store

/-- An operation begins. -/
theorem Happening.begins {task : Nat} (event : h.event = .start task) {delay : Nat}
    {op : Operation} {life : Instant → Lifespan} {tell : op.Result → ρ × List Notice}
    (entry : h.here.tasks[task]? = some ⟨delay, .operation op life tell⟩) :
    h.here.Begins adapter task ⟨h.here.world.now, h.here.world.time, life h.here.world.now⟩ client
      reads op tell (h.after slow) := by
  have begun : h.after slow =
      Timeline.beginOperation slow h.here task op (life h.here.world.now) tell := by
    rw [after, event]
    unfold Timeline.handle
    dsimp only
    rw [entry]
    rfl
  rw [begun]
  exact Timeline.begins_operation slow h.here task store op _ tell

/-- How an operation begins is an effect. -/
theorem effect_of_begins {task : Nat} (event : h.event = .start task) {life : Lifespan}
    (context : h.over? = life.done? h.here.world.now) {op : Operation}
    {tell : op.Result → ρ × List Notice}
    (begins : h.here.Begins adapter task ⟨h.here.world.now, h.here.world.time, life⟩ client reads op
      tell (h.after slow)) : Effect slow adapter h := by
  have here : h.here.reads = reads := Timeline.reads_of_store store
  have ends (result : ρ × List Notice × List Metrics.Sample)
      (reached : h.after slow = h.here.finish task result) : Effect slow adapter h := by
    have progress : Progress (fun _ => False) h.here [] [] (h.after slow) := by
      rw [reached]
      exact Timeline.progress_finish _ _ _
    exact .begins event Timeline.later_nil (progress.length_reads store fun _ never => never)
      progress
  generalize reached : h.after slow = t' at begins
  cases begins with
  | refused first => exact ends _ reached
  | idle answer notices clear idle => exact ends _ reached
  | exchanges clear busy asks own later progress =>
    rw [← reached] at progress
    exact .begins event later (progress.length_reads store fun _ never => never) progress
  | joins clear held progress stored =>
    rw [← reached] at progress stored
    rw [← here, ← context] at progress
    rw [← here] at stored
    exact .joins event progress (Timeline.reads_of_store stored)
  | starts clear absent progress stored =>
    rw [← reached] at progress stored
    rw [← here, ← context] at progress
    rw [← here] at stored
    exact .starts event progress (Timeline.reads_of_store stored)

/-- On a timeline of operations everything that happens is one of the effects. -/
theorem effect_of_operations (operations : ∀ task ∈ h.here.tasks, task.activity.IsOperation) :
    Effect slow adapter h := by
  have here : h.here.reads = reads := Timeline.reads_of_store store
  have caused {sent : List Request} {noted : List (Instant × Event σ)}
      (progress : Progress h.event.Causes h.here sent noted (h.after slow)) :
      h.AddsNoRead slow := progress.length_reads store fun key causes => causes.1 key rfl
  cases event : h.event with
  | start task =>
    cases entry : h.here.tasks[task]? with
    | none =>
      have same : h.after slow = h.here := by
        rw [Happening.after, event]
        unfold Timeline.handle
        dsimp only
        rw [entry]
      have progress : Progress (fun _ => False) h.here [] [] (h.after slow) := by
        rw [same]
        exact .refl _
      exact .begins event Timeline.later_nil (progress.length_reads store fun _ never => never)
        progress
    | some begun =>
      obtain ⟨delay, activity⟩ := begun
      have operates := operations _ (List.mem_of_getElem? entry)
      cases activity with
      | operation op life tell =>
        exact effect_of_begins slow store event (Happening.over?_eq event entry)
          (h.begins slow store event entry)
      | request | pause | act => exact operates.elim
  | send call request =>
    by_cases wanted : Timeline.isReading reads call = true
    · obtain ⟨noted, answer, progress⟩ := h.here.progress_send slow request store wanted
      rw [← event] at progress
      exact .sends event answer (caused progress) progress
    · have same : h.after slow = h.here := by
        rw [Happening.after, event]
        exact h.here.handle_send_unwanted slow request store wanted
      have progress : Progress h.event.Causes h.here [] [] (h.after slow) := by
        rw [same]
        exact .refl _
      rw [← here] at wanted
      exact .drops event wanted (caused progress) progress
  | arrived | stopped | exchanged | interrupted | resumed =>
    have begun : h.event.begins? = none := by
      rw [event]
      rfl
    have unsent : ∀ call request, h.event ≠ .send call request := by
      rw [event]
      nofun
    have progress := h.here.progress_quiet slow begun unsent
    exact .quiet (by rw [event]; rfl) (fun _ causes => causes) (caused progress) progress

end

end RecordStore
