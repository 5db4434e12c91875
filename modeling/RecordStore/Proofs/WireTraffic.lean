/-
RecordStore.Proofs.WireTraffic -- what operations make an adapter send

The operations of an adapter may overlap in any way, and the client may answer
anything at any time.  Each operation is refused for its first fault, or has
nothing to ask for, or joins a read in flight, or makes the adapter send exactly
its one request (`Asked`); nothing else is sent (`WireTraffic`).  A batch of reads
names each of its keys once (`Wire.BatchRead.NamesOnce`).
-/
import RecordStore.Proofs.DistinctKeys
import RecordStore.Proofs.Timeline.Books

namespace RecordStore

set_option autoImplicit false

open RecordStore.Wire

variable {σ ρ : Type}

/-! ## What an operation asks for -/

namespace Happening

/-- The requests that were sent for an operation that began: its own, and those of the read that it
started. -/
def asked (slow : SlowClient σ) (past : List (Happening σ ρ)) (h : Happening σ ρ) : List Request :=
  h.sent slow ++ (h.started? slow).elim [] (sentFor slow past)

/-- A task ended there and then, with a value. -/
def Ends (slow : SlowClient σ) (h : Happening σ ρ) (task : Nat) (value : ρ) : Prop :=
  (h.after slow).ended = h.here.ended ++ [(task, h.here.world.now, value)]

end Happening

/-- What an operation that began has asked for so far.  `m` is the moment at which it began. -/
inductive Asked (slow : SlowClient σ) (adapter : Adapter) (past : List (Happening σ ρ))
    (t : Timeline σ ρ) (h : Happening σ ρ) (task : Nat) (m : Moment) :
    (op : Operation) → (op.Result → ρ × List Notice) → List Request → Prop
  /-- The first fault is its result. -/
  | refused {op : Operation} {tell : op.Result → ρ × List Notice} {fault : StoreError}
      {rest : List StoreError} (first : op.faults m = fault :: rest)
      (ends : h.Ends slow task (tell (.error fault)).1) :
      Asked slow adapter past t h task m op tell []
  | idle {op : Operation} {tell : op.Result → ρ × List Notice} (clear : op.faults m = [])
      (idle : op.Idle) (answer : op.Answer) (ends : h.Ends slow task (tell (.ok answer)).1) :
      Asked slow adapter past t h task m op tell []
  | sent {op : Operation} {tell : op.Result → ρ × List Notice} {request : Request}
      (clear : op.faults m = []) (busy : ¬ op.Idle) (own : op.kind ≠ .get)
      (asks : adapter.Asks m op request) : Asked slow adapter past t h task m op tell [request]
  /-- Its key has a read in flight. -/
  | joined {key : String} {tell : (Operation.get key).Result → ρ × List Notice}
      {id : SharedRead.CallId} (clear : (Operation.get key).faults m = [])
      (held : h.here.reads.table.get? key = some id) :
      Asked slow adapter past t h task m (.get key) tell []
  | fetched {key : String} {tell : (Operation.get key).Result → ρ × List Notice}
      (clear : (Operation.get key).faults m = []) (absent : h.here.reads.table.get? key = none) :
      Asked slow adapter past t h task m (.get key) tell [.read (adapter.readRequest key)]
  /-- Its request is still due. -/
  | waiting {key : String} {tell : (Operation.get key).Result → ρ × List Notice}
      (clear : (Operation.get key).faults m = []) (absent : h.here.reads.table.get? key = none)
      (due : .send h.here.reads.calls.length (adapter.readRequest key) ∈ t.events) :
      Asked slow adapter past t h task m (.get key) tell []
  /-- Its context was over before its request left. -/
  | abandoned {key : String} {tell : (Operation.get key).Result → ρ × List Notice}
      {s : Happening σ ρ} {reason : StopReason} (clear : (Operation.get key).faults m = [])
      (absent : h.here.reads.table.get? key = none) (happened : s ∈ past)
      (stops : s.event = .stopped h.here.reads.callers.length reason)
      (ended : m.life.done? m.now = some (s.here.world.now, reason)) :
      Asked slow adapter past t h task m (.get key) tell []

theorem Books.asked {slow : SlowClient σ} {adapter : Adapter} {t₀ t : Timeline σ ρ}
    {past : List (Happening σ ρ)} (books : Books slow adapter t₀ past t) {h : Happening σ ρ}
    (member : h ∈ past) {task : Nat} {m : Moment} (context : h.over? = m.life.done? m.now)
    {client : σ} {reads : SharedRead.State}
    (store : h.here.world.store = .adapted adapter client reads) {op : Operation}
    {tell : op.Result → ρ × List Notice}
    (begins : h.here.Begins adapter task m client reads op tell (h.after slow)) :
    Asked slow adapter past t h task m op tell (h.asked slow past) := by
  have here : h.here.reads = reads := Timeline.reads_of_store store
  have quiet {P : SharedRead.Step → Prop} {sent : List Request} {noted : List (Instant × Event σ)}
      (progress : Progress P h.here sent noted (h.after slow)) (same : h.AddsNoRead slow) :
      h.asked slow past = sent := by
    rw [Happening.asked, Happening.started?_eq_none same, Happening.sent_eq progress]
    exact List.append_nil _
  have finished {result : ρ × List Notice × List Metrics.Sample}
      (reached : h.after slow = h.here.finish task result) :
      h.asked slow past = [] ∧ h.Ends slow task result.1 := by
    have progress : Progress (fun _ => False) h.here [] [] (h.after slow) := by
      rw [reached]
      exact Timeline.progress_finish _ _ _
    refine ⟨quiet progress (progress.length_reads store fun _ never => never), ?_⟩
    rw [Happening.Ends, reached]
    rfl
  generalize reached : h.after slow = t' at begins
  cases begins with
  | refused first =>
    obtain ⟨nothing, ends⟩ := finished reached
    rw [nothing]
    exact .refused first ends
  | idle answer notices clear idle =>
    obtain ⟨nothing, ends⟩ := finished reached
    rw [nothing]
    exact .idle clear idle answer ends
  | exchanges clear busy asks own later progress =>
    rw [← reached] at progress
    rw [quiet progress (progress.length_reads store fun _ never => never)]
    exact .sent clear busy own asks
  | @joins key _ _ clear id held progress stored =>
    rw [← reached, ← here] at progress stored
    rw [← here] at held
    rw [quiet progress (Happening.addsNoRead_of_join (Timeline.reads_of_store stored))]
    exact .joined clear held
  | @starts key _ _ clear absent progress stored =>
    rw [← reached, ← here] at progress stored
    rw [← here] at absent
    have started := Happening.started?_of_start (Timeline.reads_of_store stored)
    have due : .send h.here.reads.calls.length (adapter.readRequest key) ∈ (h.after slow).events :=
      progress.events.mem_iff.2 (List.mem_append_right _ List.mem_cons_self)
    rw [Happening.asked, started, Happening.sent_eq progress, List.nil_append, Option.elim_some]
    cases books.fetching h member _ _ started due with
    | waiting due unsent kept =>
      rw [unsent]
      exact .waiting clear absent due
    | sent gone once =>
      rw [once]
      exact .fetched clear absent
    | abandoned gone unsent stopped =>
      obtain ⟨s, happened, reason, stops, ended⟩ := stopped
      rw [unsent]
      exact .abandoned clear absent happened stops (context.symm.trans ended)

/-! ## Batches of reads -/

/-- A batch of reads names one table, and in it each key of a list once, in the order in which the
keys appear first. -/
structure Wire.BatchRead.NamesOnce (r : BatchRead) (table : String) (keys names : List String) :
    Prop where
  entries : r.tables.entries = [(table, ⟨names.map keyItem⟩)]
  distinct : names.Nodup
  members : ∀ key, key ∈ names ↔ key ∈ keys
  order : names.Pairwise fun first later => keys.idxOf first < keys.idxOf later
  some_ : 1 ≤ names.length
  few : names.length ≤ 100
  named : ∀ key ∈ names, Text.isBlankText key = false

theorem Adapter.namesOnce_batchReadRequest (a : Adapter) {m : Moment} {keys : List String}
    (clear : (Operation.bulkGet keys).faults m = []) (busy : ¬ (Operation.bulkGet keys).Idle) :
    (a.batchReadRequest keys).NamesOnce a.table keys keys.eraseDups := by
  obtain ⟨counted, clear⟩ := List.append_eq_nil_iff.1 clear
  obtain ⟨named, -⟩ := List.append_eq_nil_iff.1 clear
  have few : keys.length ≤ 100 := by
    unfold countFaults at counted
    split at counted
    · cases counted
    · next le => omega
  have sound : ∀ key ∈ keys, Text.isBlankText key = false := by
    intro key member
    split at named
    · cases named
    · next none_ => simpa using fun blank => none_ (List.any_eq_true.2 ⟨key, member, blank⟩)
  constructor
  case entries => rfl
  case distinct => exact nodup_eraseDups keys
  case members => exact fun key => List.mem_eraseDups
  case order => exact firstFirst_eraseDups keys
  case some_ =>
    obtain ⟨key, member⟩ := List.exists_mem_of_ne_nil keys busy
    exact List.length_pos_of_mem (List.mem_eraseDups.2 member)
  case few =>
    rw [length_eraseDups]
    exact Nat.le_trans (List.toFinset_card_le keys) few
  case named => exact fun key member => sound key (List.mem_eraseDups.1 member)

/-! ## Courses of operations -/

/-- What tasks that are operations of an adapter have sent after what happened. -/
structure WireTraffic (slow : SlowClient σ) (adapter : Adapter) (w : World σ)
    (tasks : List (Task σ ρ)) (past : List (Happening σ ρ)) (t : Timeline σ ρ) : Prop where
  requests : t.world.requests = w.requests ++ past.flatMap (·.sent slow)
  /-- Requests leave when operations begin, and when reads send that operations started. -/
  sources : ∀ h ∈ past, h.sent slow ≠ [] → (∃ task, h.event = .start task) ∨
    ∃ call request, h.event = .send call request ∧ ∃ b ∈ past, b.started? slow = some call
  /-- Each task begins once, and each read is started once. -/
  once : (past.filterMap (·.event.begins?)).Nodup
  starters : (past.filterMap (·.started? slow)).Nodup
  asked : ∀ h ∈ past, ∀ (task delay : Nat) (op : Operation) (life : Instant → Lifespan)
    (tell : op.Result → ρ × List Notice), h.event = .start task →
      tasks[task]? = some ⟨delay, .operation op life tell⟩ →
        Asked slow adapter past t h task ⟨h.here.world.now, h.here.world.time,
          life h.here.world.now⟩ op tell (h.asked slow past)

theorem Books.wireTraffic {slow : SlowClient σ} {adapter : Adapter} {w : World σ}
    {tasks : List (Task σ ρ)} {past : List (Happening σ ρ)} {t : Timeline σ ρ}
    (books : Books slow adapter (.ofTasks w tasks) past t) :
    WireTraffic slow adapter w tasks past t := by
  constructor
  case requests => rw [books.requests, world_ofTasks]
  case sources =>
    intro h member spoke
    rcases books.sources h member spoke with begins | ⟨call, sends, starter⟩
    · cases event : h.event with
      | start task => exact .inl ⟨task, rfl⟩
      | send | arrived | stopped | exchanged | interrupted | resumed =>
        rw [event] at begins
        cases begins
    · cases event : h.event with
      | send call' request =>
        rw [event] at sends
        cases sends
        exact .inr ⟨call, request, rfl, starter⟩
      | start | arrived | stopped | exchanged | interrupted | resumed =>
        rw [event] at sends
        cases sends
  case once => exact (List.nodup_append.1 books.begun).1
  case starters => exact books.started
  case asked =>
    intro h member task delay op life tell event entry
    obtain ⟨same, client, reads, store⟩ := books.places h member
    have here : h.here.tasks[task]? = some ⟨delay, .operation op life tell⟩ := by
      rw [same, tasks_ofTasks]
      exact entry
    exact books.asked member (Happening.over?_eq event here) store (h.begins slow store event here)

/-- **Validation comes before anything is sent, and each operation sends at most its one request**,
in every course of operations over any client, and in particular in every run. -/
theorem wireTraffic_of_operations (slow : SlowClient σ) (container : String) (naming : TableName)
    (ttl : Option Duration) {w : World σ} {client : σ} {reads : SharedRead.State}
    (store : w.store = .adapted (.new container naming ttl) client reads)
    (reachable : SharedRead.Reachable reads) {tasks : List (Task σ ρ)}
    (operations : ∀ task ∈ tasks, task.activity.IsOperation) :
    (∀ past t, Course slow (.ofTasks w tasks) past t →
      WireTraffic slow (.new container naming ttl) w tasks past t) ∧
    (∀ fuel, ∃ past, Course slow (.ofTasks w tasks) past
      ((Timeline.ofTasks w tasks).runFor slow fuel)) ∧
    ∀ (m : Moment) (keys : List String) (request : Request),
      (Operation.bulkGet keys).faults m = [] → ¬ (Operation.bulkGet keys).Idle →
      (Adapter.new container naming ttl).Asks m (.bulkGet keys) request →
        ∃ r names, request = .batchRead r ∧
          r.NamesOnce (naming.resolve container) keys names := by
  refine ⟨fun past t course => ?_, fun fuel => course_runFor .nil fuel,
    fun m keys request clear busy asks => ?_⟩
  · have initial := books_ofTasks slow store reachable tasks
    refine (books_of_course ?_ initial course).wireTraffic
    rw [tasks_ofTasks]
    exact operations
  · cases asks with
    | bulkGet => exact ⟨_, _, rfl, Adapter.namesOnce_batchReadRequest _ clear busy⟩

/-- Two gets of one key at the same time, a batch that names a key twice, a save that is refused,
and the get once more. -/
theorem wireTraffic_overlappingReads :
    let a : Adapter := .new "users" (.prefixed "dev-") none
    let w : World Client := ⟨0, 0, .adapted a (.emulator (.empty 3)) .initial, none, 0, [], [], []⟩
    let during (op : Operation) : Activity Client Bool :=
      .operation op (fun _ => .unbounded) fun result => (result.toBool, [])
    let tasks : List (Task Client Bool) := [⟨0, during (.get "a")⟩, ⟨1, during (.get "a")⟩,
      ⟨1, during (.bulkGet ["b", "a", "b"])⟩, ⟨2, during (.save " " none)⟩, ⟨5, during (.get "a")⟩]
    let last := (Timeline.ofTasks w tasks).runFor Client.slow 26
    last.world.requests = [.read (a.readRequest "a"),
        .batchRead ⟨(∅ : Dict KeyList).insert "dev-users" ⟨[keyItem "b", keyItem "a"]⟩⟩,
        .read (a.readRequest "a")] ∧
      ∃ past, Course Client.slow (.ofTasks w tasks) past last ∧
        WireTraffic Client.slow a w tasks past last := by
  intro a w during tasks last
  have operations : ∀ task ∈ tasks, task.activity.IsOperation := by
    simp [tasks, during, Activity.IsOperation]
  obtain ⟨traffic, runs, -⟩ := wireTraffic_of_operations Client.slow "users" (.prefixed "dev-") none
    (w := w) rfl .initial operations
  obtain ⟨past, course⟩ := runs 26
  exact ⟨by decide +kernel, past, course, traffic past last course⟩

end RecordStore
