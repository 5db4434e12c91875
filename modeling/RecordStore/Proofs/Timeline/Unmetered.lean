/-
RecordStore.Proofs.Timeline.Unmetered -- a timeline without the wrappers that report

The wrappers around the store of a world are seen by `report` alone.  Taking
them away (`World.unmetered`) therefore goes through everything that can happen on
a timeline (`unmetered_handle`), and through whole runs (`unmetered_runFor`): what
happens is the same with wrappers and without, and is told the same.
-/
import RecordStore.Proofs.Timeline.Books

namespace RecordStore

set_option autoImplicit false

open RecordStore.Wire RecordStore.Metrics

variable {σ ρ : Type}

/-- The world without the wrappers around its store, and without what they reported. -/
def World.unmetered (w : World σ) : World σ :=
  { w with meter? := none, reporters := 0, samples := [] }

/-- An activity that cannot tell whether there are wrappers. -/
def Activity.Unaware : Activity σ ρ → Prop
  | .operation .. | .request .. | .pause .. => True
  | .act f => ∀ w, (f w.unmetered).1 = (f w).1 ∧ (f w.unmetered).2 = (f w).2.unmetered

namespace Timeline

/-- The timeline without the wrappers around the store of its world. -/
def unmetered (t : Timeline σ ρ) : Timeline σ ρ := { t with world := t.world.unmetered }

section

variable (t : Timeline σ ρ)

@[simp] theorem store_unmetered : t.unmetered.world.store = t.world.store := rfl
@[simp] theorem now_unmetered : t.unmetered.world.now = t.world.now := rfl
@[simp] theorem time_unmetered : t.unmetered.world.time = t.world.time := rfl
@[simp] theorem tasks_unmetered : t.unmetered.tasks = t.tasks := rfl
@[simp] theorem queue_unmetered : t.unmetered.queue = t.queue := rfl
@[simp] theorem readers_unmetered : t.unmetered.readers = t.readers := rfl
@[simp] theorem senders_unmetered : t.unmetered.senders = t.senders := rfl
@[simp] theorem ended_unmetered : t.unmetered.ended = t.ended := rfl

end

theorem unmetered_foldl_finish (readers : List (Reader ρ)) (result : SharedRead.Result)
    (t : Timeline σ ρ) :
    (readers.foldl (fun t r => t.finish r.task (r.tell t.world.now result)) t).unmetered =
      readers.foldl (fun t r => t.finish r.task (r.tell t.world.now result)) t.unmetered := by
  induction readers generalizing t with
  | nil => rfl
  | cons r rest ih => exact ih _

theorem unmetered_publish (t : Timeline σ ρ) (call : SharedRead.CallId)
    (ending : SharedRead.Ending) :
    (t.publish call ending).unmetered = t.unmetered.publish call ending := by
  unfold publish
  rw [store_unmetered]
  cases t.world.store with
  | reference container contents => rfl
  | adapted adapter client reads =>
    dsimp only
    cases reads.step? (.finish call ending) with
    | none => rfl
    | some reads => exact unmetered_foldl_finish _ _ _

theorem unmetered_receiveOwn (t : Timeline σ ρ) (task : Nat) :
    (t.receiveOwn task).unmetered = t.unmetered.receiveOwn task := by
  unfold receiveOwn
  rw [store_unmetered, senders_unmetered]
  cases t.world.store with
  | reference container contents => rfl
  | adapted adapter client reads =>
    cases t.senders.find? (·.task == task) with
    | none => rfl
    | some sender => rfl

theorem unmetered_interrupt (t : Timeline σ ρ) (task : Nat) (reason : StopReason) :
    (t.interrupt task reason).unmetered = t.unmetered.interrupt task reason := by
  unfold interrupt
  rw [senders_unmetered]
  cases t.senders.find? (·.task == task) with
  | none => rfl
  | some sender => rfl

theorem unmetered_receive (t : Timeline σ ρ) (call : SharedRead.CallId) {request : ItemRead}
    (exchange : Exchange σ (.read request)) :
    (t.receive call exchange).unmetered = t.unmetered.receive call exchange := by
  unfold receive
  rw [store_unmetered]
  cases t.world.store with
  | reference container contents => rfl
  | adapted adapter client reads =>
    dsimp only
    split
    · exact unmetered_publish _ _ _
    · rfl

theorem unmetered_abortIfCancelled (t : Timeline σ ρ) (call : SharedRead.CallId) :
    (t.abortIfCancelled call).unmetered = t.unmetered.abortIfCancelled call := by
  unfold abortIfCancelled
  rw [store_unmetered]
  cases t.world.store with
  | reference container contents => rfl
  | adapted adapter client reads =>
    dsimp only
    cases reads.calls[call]? with
    | none => rfl
    | some c =>
      dsimp only
      split
      · exact unmetered_publish _ _ _
      · rfl

theorem unmetered_stopReader (t : Timeline σ ρ) (caller : SharedRead.CallerId)
    (reason : StopReason) :
    (t.stopReader caller reason).unmetered = t.unmetered.stopReader caller reason := by
  unfold stopReader
  rw [store_unmetered, readers_unmetered]
  cases t.world.store with
  | reference container contents => rfl
  | adapted adapter client reads =>
    cases t.readers.find? (·.caller == caller) with
    | none => rfl
    | some reader =>
      dsimp only
      cases reads.waitsFor? caller with
      | none => rfl
      | some waits =>
        cases reads.step? (.stop caller reason) with
        | none => rfl
        | some reads => exact unmetered_abortIfCancelled _ _

variable (slow : SlowClient σ)

theorem unmetered_send (t : Timeline σ ρ) (call : SharedRead.CallId) (request : ItemRead) :
    (t.send slow call request).unmetered = t.unmetered.send slow call request := by
  unfold send
  rw [store_unmetered, time_unmetered]
  cases t.world.store with
  | reference container contents => rfl
  | adapted adapter client reads =>
    dsimp only
    split
    · split
      · exact unmetered_receive _ _ _
      · rfl
    · rfl

theorem unmetered_beginExchange (t : Timeline σ ρ) (task : Nat) (adapter : Adapter) (client : σ)
    (reads : SharedRead.State) (life : Lifespan) (request : Request)
    (tell : Instant → Sent request → ρ × List Notice × List Sample) :
    (beginExchange slow t task adapter client reads life request tell).unmetered =
      beginExchange slow t.unmetered task adapter client reads life request tell := by
  unfold beginExchange
  rw [now_unmetered, time_unmetered]
  dsimp only
  cases life.race t.world.now
      (some (t.world.now + (slow.dispatch t.world.time request client).1.delay)) with
  | refused reason => rfl
  | interrupted instant reason => rfl
  | unending => rfl
  | finished instant =>
    dsimp only
    split
    · exact unmetered_receiveOwn _ _
    · rfl

theorem unmetered_beginSharedRead (t : Timeline σ ρ) (task : Nat) (adapter : Adapter) (client : σ)
    (reads : SharedRead.State) (life : Lifespan) (key : String) (request : ItemRead)
    (tell : Instant → SharedRead.Result → ρ × List Notice × List Sample) :
    (t.beginSharedRead task adapter client reads life key request tell).unmetered =
      t.unmetered.beginSharedRead task adapter client reads life key request tell := by
  unfold beginSharedRead
  by_cases fresh : (reads.table.get? key).isNone = true
  · simp only [fresh, ↓reduceIte, note, now_unmetered]
    cases life.done? t.world.now <;> rfl
  · simp only [fresh, Bool.false_eq_true, ↓reduceIte, now_unmetered]
    cases life.done? t.world.now <;> rfl

theorem unmetered_beginOperation (t : Timeline σ ρ) (task : Nat) (op : Operation)
    (life : Lifespan) (tell : op.Result → ρ × List Notice) :
    (beginOperation slow t task op life tell).unmetered =
      beginOperation slow t.unmetered task op life tell := by
  cases held : t.world.store with
  | reference container contents =>
    have store : t.unmetered.world.store = .reference container contents := held
    unfold beginOperation
    rw [held, store]
    rfl
  | adapted adapter client reads =>
    have store : t.unmetered.world.store = .adapted adapter client reads := held
    cases planned : adapter.plan ⟨t.world.now, t.world.time, life⟩ op with
    | done reply =>
      rw [beginOperation_done slow task held tell planned,
        beginOperation_done slow task store tell planned]
      rfl
    | sharedRead request =>
      rw [beginOperation_sharedRead slow task held tell planned,
        beginOperation_sharedRead slow task store tell planned]
      exact unmetered_beginSharedRead ..
    | exchange request conclude =>
      rw [beginOperation_exchange slow task held tell planned,
        beginOperation_exchange slow task store tell planned]
      exact unmetered_beginExchange ..

theorem unmetered_begin (t : Timeline σ ρ) (task : Nat) {activity : Activity σ ρ}
    (unaware : activity.Unaware) :
    (t.begin slow task activity).unmetered = t.unmetered.begin slow task activity := by
  cases activity with
  | operation op life tell => exact unmetered_beginOperation slow t task op _ tell
  | request r tell =>
    unfold begin
    dsimp only
    rw [store_unmetered]
    cases t.world.store with
    | reference container contents => rfl
    | adapted adapter client reads => exact unmetered_beginExchange ..
  | pause millis result =>
    unfold begin
    dsimp only
    split <;> rfl
  | act f =>
    obtain ⟨value, after⟩ := unaware t.world
    show ({ t with world := (f t.world).2 }.finish task ((f t.world).1, [], [])).unmetered =
      { t.unmetered with world := (f t.world.unmetered).2 }.finish task
        ((f t.world.unmetered).1, [], [])
    rw [value, after]
    rfl

/-- What is due happens without the wrappers as it does with them. -/
theorem unmetered_handle {t : Timeline σ ρ} (unaware : ∀ task ∈ t.tasks, task.activity.Unaware)
    (event : Event σ) :
    (t.handle slow event).unmetered = t.unmetered.handle slow event := by
  cases event with
  | start task =>
    unfold handle
    dsimp only
    rw [tasks_unmetered]
    cases entry : t.tasks[task]? with
    | none => rfl
    | some found => exact unmetered_begin slow t task (unaware _ (List.mem_of_getElem? entry))
  | send call request => exact unmetered_send slow t call request
  | arrived call request exchange => exact unmetered_receive t call exchange
  | stopped caller reason => exact unmetered_stopReader t caller reason
  | exchanged task => exact unmetered_receiveOwn t task
  | interrupted task reason => exact unmetered_interrupt t task reason
  | resumed task =>
    unfold handle
    dsimp only
    rw [tasks_unmetered]
    cases t.tasks[task]? with
    | none => rfl
    | some found =>
      obtain ⟨delay, activity⟩ := found
      cases activity <;> rfl

/-! ## Runs -/

theorem tasks_begin (t : Timeline σ ρ) (task : Nat) (activity : Activity σ ρ) :
    (t.begin slow task activity).tasks = t.tasks := by
  cases activity with
  | operation op life tell =>
    show (beginOperation slow t task op (life t.world.now) tell).tasks = t.tasks
    cases store : t.world.store with
    | reference container contents =>
      unfold beginOperation
      rw [store]
      rfl
    | adapted adapter client reads =>
      have begins := begins_operation slow t task store op (life t.world.now) tell
      generalize beginOperation slow t task op (life t.world.now) tell = begun at begins
      cases begins with
      | refused first => rfl
      | idle answer notices clear idle => rfl
      | exchanges clear busy asks own later progress => exact progress.tasks
      | joins clear held progress joined => exact progress.tasks
      | starts clear absent progress started => exact progress.tasks
  | request r tell =>
    unfold begin
    dsimp only
    cases store : t.world.store with
    | reference container contents => rfl
    | adapted adapter client reads =>
      have live : Lifespan.unbounded.reason? t.world.now = none := rfl
      obtain ⟨noted, -, progress⟩ := progress_beginExchange (P := fun _ => False) t slow task store
        live r fun _ sent => (tell sent.answer, [], [])
      exact progress.tasks
  | pause millis result =>
    unfold begin
    dsimp only
    split <;> rfl
  | act f => rfl

/-- The tasks stay what they are. -/
theorem tasks_handle (t : Timeline σ ρ) (event : Event σ) :
    (t.handle slow event).tasks = t.tasks := by
  cases event with
  | start task =>
    unfold handle
    dsimp only
    split
    · exact tasks_begin slow t task _
    · rfl
  | send call request =>
    cases store : t.world.store with
    | reference container contents =>
      show (t.send slow call request).tasks = t.tasks
      unfold send
      rw [store]
    | adapted adapter client reads =>
      by_cases wanted : isReading reads call = true
      · obtain ⟨noted, -, progress⟩ := t.progress_send slow request store wanted
        exact progress.tasks
      · rw [t.handle_send_unwanted slow request store wanted]
  | arrived | stopped | exchanged | interrupted | resumed =>
    exact (t.progress_quiet slow rfl fun _ _ same => by cases same).tasks

theorem unmetered_runFor {t : Timeline σ ρ} (unaware : ∀ task ∈ t.tasks, task.activity.Unaware)
    (fuel : Nat) : (t.runFor slow fuel).unmetered = t.unmetered.runFor slow fuel := by
  induction fuel generalizing t with
  | zero => rfl
  | succ fuel ih =>
    rw [runFor, runFor, queue_unmetered, tasks_unmetered, ended_unmetered]
    split
    · rfl
    · cases t.queue with
      | nil => rfl
      | cons due rest =>
        let taken : Timeline σ ρ := t.taking rest due.time
        have same : taken.tasks = t.tasks := rfl
        have happens := unmetered_handle slow (t := taken) unaware due.event
        have goes := ih (t := taken.handle slow due.event) (by
          rw [tasks_handle, same]
          exact unaware)
        exact goes.trans (congrArg (runFor slow fuel) happens)

theorem unmetered_ofTasks (w : World σ) (tasks : List (Task σ ρ)) :
    (ofTasks w tasks).unmetered = ofTasks w.unmetered tasks := by
  have noted (entries : List (Task σ ρ × Nat)) (t : Timeline σ ρ) :
      (entries.foldl (fun t entry => t.note (w.now + entry.1.delay) (.start entry.2)) t).unmetered =
        entries.foldl (fun t entry => t.note (w.now + entry.1.delay) (.start entry.2))
          t.unmetered := by
    induction entries generalizing t with
    | nil => rfl
    | cons entry rest ih => exact ih _
  exact noted tasks.zipIdx _

end Timeline

/-- Tasks end when and how they end without the wrappers, and leave behind the world that they
leave behind without them. -/
theorem World.unmetered_runTasks (slow : SlowClient σ) (w : World σ) {tasks : List (Task σ ρ)}
    (unaware : ∀ task ∈ tasks, task.activity.Unaware) :
    (w.runTasks slow tasks).1 = (w.unmetered.runTasks slow tasks).1 ∧
      (w.runTasks slow tasks).2.unmetered = (w.unmetered.runTasks slow tasks).2 := by
  have begins : (Timeline.ofTasks w tasks).tasks = tasks := tasks_ofTasks w tasks
  have ran := Timeline.unmetered_runFor slow (t := Timeline.ofTasks w tasks)
    (by rw [begins]; exact unaware) (Timeline.fuelFor tasks)
  rw [Timeline.unmetered_ofTasks] at ran
  have ended : ((Timeline.ofTasks w tasks).runFor slow (Timeline.fuelFor tasks)).ended =
      ((Timeline.ofTasks w.unmetered tasks).runFor slow (Timeline.fuelFor tasks)).ended :=
    (congrArg Timeline.ended ran :)
  refine ⟨?_, congrArg Timeline.world ran⟩
  unfold runTasks
  dsimp only
  rw [ended]

end RecordStore
