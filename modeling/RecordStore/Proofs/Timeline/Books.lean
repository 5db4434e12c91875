/-
RecordStore.Proofs.Timeline.Books -- what is known after what happened

While the operations of an adapter overlap, books can be kept (`Books`): each
task begins once, each read is started once and has one event that is due at
most, and nothing is sent but for an operation that began.  A read that a caller
started has its request due, or sent, or given up because the context of the
caller ended (`Fetching`).  Every effect leaves the books in order (`Books.step`),
so they are in order in every course (`books_of_course`).
-/
import RecordStore.Proofs.Timeline.Course

namespace RecordStore

set_option autoImplicit false

open RecordStore.Wire

variable {σ ρ : Type}

/-! ## What one event adds -/

/-- What is known of every effect. -/
structure Summary (slow : SlowClient σ) (h : Happening σ ρ) (P : SharedRead.Step → Prop)
    (sent : List Request) (noted : List (Instant × Event σ)) : Prop where
  progress : Progress P h.here sent noted (h.after slow)
  undisturbed : ∀ e, P e → ∀ caller id, e.Disturbs caller id → h.event.Concerns caller id
  /-- No operation becomes due. -/
  begins : ∀ n ∈ noted, n.2.begins? = none
  /-- The events of a read follow one another, from its start on. -/
  calls : (noted.filterMap (·.2.call?)).Sublist
    (h.event.call?.toList ++ (h.started? slow).toList)
  sends : ∀ n ∈ noted, ∀ call, n.2.sends? = some call → h.started? slow = some call
  /-- The end of a context is due for the caller that arrives, when its context is over. -/
  stops : ∀ n ∈ noted, ∀ caller reason, n.2 = .stopped caller reason →
    caller = h.here.reads.callers.length ∧ h.over? = some (n.1, reason) ∧
      h.here.reads.callers.length < (h.after slow).reads.callers.length
  arrives : ∀ call, h.started? slow = some call →
    h.here.reads.callers.length < (h.after slow).reads.callers.length
  length : (h.after slow).reads.calls.length =
    h.here.reads.calls.length + (h.started? slow).toList.length
  /-- Requests leave when operations begin and when reads send. -/
  speaks : sent ≠ [] → h.event.begins?.isSome ∨ h.event.sends?.isSome

theorem Event.sends?_of_call? {e : Event σ} (none_ : e.call? = none) : e.sends? = none := by
  cases e <;> first | rfl | cases none_

theorem Event.call?_of_sends? {e : Event σ} {call : SharedRead.CallId}
    (sends : e.sends? = some call) : e.call? = some call := by
  cases e <;> cases sends
  rfl

theorem Timeline.Later.filterMap_call? {noted : List (Instant × Event σ)}
    (later : Timeline.Later noted) : noted.filterMap (·.2.call?) = [] :=
  List.filterMap_eq_nil_iff.2 fun n member => (later n member).1

theorem Timeline.mem_stopsOf {caller : SharedRead.CallerId}
    {over? : Option (Instant × StopReason)} {n : Instant × Event σ}
    (member : n ∈ stopsOf caller over?) :
    ∃ reason, n.2 = .stopped caller reason ∧ over? = some (n.1, reason) := by
  obtain ⟨⟨time, reason⟩, ends, rfl⟩ := List.mem_map.1 member
  exact ⟨reason, rfl, Option.mem_toList.1 ends⟩

theorem Timeline.filterMap_call?_stopsOf (caller : SharedRead.CallerId)
    (over? : Option (Instant × StopReason)) :
    (stopsOf (σ := σ) caller over?).filterMap (·.2.call?) = [] := by
  cases over? <;> rfl

section

variable {slow : SlowClient σ} {h : Happening σ ρ} {P : SharedRead.Step → Prop}
  {sent : List Request} {noted : List (Instant × Event σ)}

/-- Nothing that is noted is about a read. -/
theorem Summary.of_later
    (progress : Progress P h.here sent noted (h.after slow))
    (undisturbed : ∀ e, P e → ∀ caller id, e.Disturbs caller id → h.event.Concerns caller id)
    (same : h.AddsNoRead slow) (later : Timeline.Later noted)
    (speaks : sent ≠ [] → h.event.begins?.isSome ∨ h.event.sends?.isSome) :
    Summary slow h P sent noted where
  progress := progress
  undisturbed := undisturbed
  begins n member := (later n member).2.1
  calls := by
    rw [later.filterMap_call?]
    exact List.nil_sublist _
  sends n member call sends := by
    rw [Event.sends?_of_call? (later n member).1] at sends
    cases sends
  stops n member caller reason stops := by
    have none_ := (later n member).2.2
    rw [stops] at none_
    cases none_
  arrives call started := by
    rw [Happening.started?_eq_none same] at started
    cases started
  length := by
    rw [Happening.started?_eq_none same]
    exact same
  speaks := speaks

end

/-- The end of the context of a caller that arrives. -/
theorem stops_of_arrival {slow : SlowClient σ} {h : Happening σ ρ}
    (more : h.here.reads.callers.length < (h.after slow).reads.callers.length)
    {n : Instant × Event σ}
    (member : n ∈ Timeline.stopsOf h.here.reads.callers.length h.over?)
    {caller : SharedRead.CallerId} {reason : StopReason} (stops : n.2 = .stopped caller reason) :
    caller = h.here.reads.callers.length ∧ h.over? = some (n.1, reason) ∧
      h.here.reads.callers.length < (h.after slow).reads.callers.length := by
  obtain ⟨reason', same, ends⟩ := Timeline.mem_stopsOf member
  cases same.symm.trans stops
  exact ⟨rfl, ends, more⟩

/-- A get joins a read. -/
theorem Summary.of_joins {slow : SlowClient σ} {h : Happening σ ρ} {key : String}
    {id : SharedRead.CallId}
    (progress : Progress (· = .arrive key) h.here []
      (Timeline.stopsOf h.here.reads.callers.length h.over?) (h.after slow))
    (arrived : (h.after slow).reads = h.here.reads.join id) :
    Summary slow h (· = .arrive key) []
      (Timeline.stopsOf h.here.reads.callers.length h.over?) := by
  have same := Happening.addsNoRead_of_join arrived
  have more : h.here.reads.callers.length < (h.after slow).reads.callers.length := by
    rw [arrived]
    simp [SharedRead.State.join]
  constructor
  case progress => exact progress
  case undisturbed =>
    rintro _ rfl _ _ disturbs
    cases disturbs
  case begins =>
    intro n member
    obtain ⟨reason, ends, -⟩ := Timeline.mem_stopsOf member
    rw [ends]
    rfl
  case calls =>
    rw [Timeline.filterMap_call?_stopsOf]
    exact List.nil_sublist _
  case sends =>
    intro n member call sends
    obtain ⟨reason, ends, -⟩ := Timeline.mem_stopsOf member
    rw [ends] at sends
    cases sends
  case stops => exact fun n member caller reason => stops_of_arrival more member
  case arrives => exact fun _ _ => more
  case length =>
    rw [Happening.started?_eq_none same]
    exact same
  case speaks => exact fun sent => absurd rfl sent

/-- A get starts a read. -/
theorem Summary.of_starts {slow : SlowClient σ} {h : Happening σ ρ} {task : Nat}
    {request : ItemRead} {time : Instant} {key : String} (event : h.event = .start task)
    (progress : Progress (· = .arrive key) h.here []
      ((time, .send h.here.reads.calls.length request) ::
        Timeline.stopsOf h.here.reads.callers.length h.over?) (h.after slow))
    (arrived : (h.after slow).reads = h.here.reads.start key) :
    Summary slow h (· = .arrive key) [] ((time, .send h.here.reads.calls.length request) ::
      Timeline.stopsOf h.here.reads.callers.length h.over?) := by
  have reads : (h.after slow).reads.calls.length = h.here.reads.calls.length + 1 := by
    rw [arrived]
    simp [SharedRead.State.start]
  have more : h.here.reads.callers.length < (h.after slow).reads.callers.length := by
    rw [arrived]
    simp [SharedRead.State.start]
  have started := Happening.started?_of_start arrived
  constructor
  case progress => exact progress
  case undisturbed =>
    rintro _ rfl _ _ disturbs
    cases disturbs
  case begins =>
    intro n member
    rcases List.mem_cons.1 member with rfl | member
    · rfl
    · obtain ⟨reason, ends, -⟩ := Timeline.mem_stopsOf member
      rw [ends]
      rfl
  case calls =>
    rw [started, event, List.filterMap_cons, Timeline.filterMap_call?_stopsOf]
    exact .refl _
  case sends =>
    intro n member call sends
    rcases List.mem_cons.1 member with rfl | member
    · cases sends
      exact started
    · obtain ⟨reason, ends, -⟩ := Timeline.mem_stopsOf member
      rw [ends] at sends
      cases sends
  case stops =>
    intro n member caller reason stops
    rcases List.mem_cons.1 member with rfl | member
    · cases stops
    · exact stops_of_arrival more member stops
  case arrives => exact fun _ _ => more
  case length =>
    rw [started]
    exact reads
  case speaks => exact fun sent => absurd rfl sent

/-- The request of a read leaves, and its answer is on the way. -/
theorem Summary.of_sends {slow : SlowClient σ} {h : Happening σ ρ} {call : SharedRead.CallId}
    {request : ItemRead} {noted : List (Instant × Event σ)} (event : h.event = .send call request)
    (answer : noted = [] ∨ ∃ time exchange, noted = [(time, .arrived call request exchange)])
    (same : h.AddsNoRead slow)
    (progress : Progress h.event.Causes h.here [.read request] noted (h.after slow)) :
    Summary slow h h.event.Causes [.read request] noted := by
  have arrives : ∀ n ∈ noted, ∃ exchange, n.2 = .arrived call request exchange := by
    intro n member
    rcases answer with rfl | ⟨time, exchange, rfl⟩
    · cases member
    · exact ⟨exchange, congrArg Prod.snd (List.mem_singleton.1 member)⟩
  constructor
  case progress => exact progress
  case undisturbed => exact fun _ caused => caused.2
  case begins =>
    intro n member
    obtain ⟨exchange, arrived⟩ := arrives n member
    rw [arrived]
    rfl
  case calls =>
    rw [event, Happening.started?_eq_none same]
    rcases answer with rfl | ⟨time, exchange, rfl⟩
    · exact List.nil_sublist _
    · exact .refl _
  case sends =>
    intro n member call sends
    obtain ⟨exchange, arrived⟩ := arrives n member
    rw [arrived] at sends
    cases sends
  case stops =>
    intro n member caller reason stops
    obtain ⟨exchange, arrived⟩ := arrives n member
    cases arrived.symm.trans stops
  case arrives =>
    intro call started
    rw [Happening.started?_eq_none same] at started
    cases started
  case length =>
    rw [Happening.started?_eq_none same]
    exact same
  case speaks =>
    intro _
    rw [event]
    exact .inr rfl

theorem Effect.summary {slow : SlowClient σ} {adapter : Adapter} {h : Happening σ ρ}
    (effect : Effect slow adapter h) : ∃ P sent noted, Summary slow h P sent noted := by
  cases effect with
  | quiet unsent harmless same progress =>
    exact ⟨_, _, _, .of_later progress (fun e held => (harmless e held).2) same
      Timeline.later_nil fun sent => absurd rfl sent⟩
  | drops event unwanted same progress =>
    exact ⟨_, _, _, .of_later progress (fun _ caused => caused.2) same Timeline.later_nil
      fun sent => absurd rfl sent⟩
  | sends event answer same progress => exact ⟨_, _, _, .of_sends event answer same progress⟩
  | begins event later same progress =>
    refine ⟨_, _, _, .of_later progress (fun _ never => never.elim) same later fun _ => ?_⟩
    rw [event]
    exact .inl rfl
  | joins event progress arrived => exact ⟨_, _, _, .of_joins progress arrived⟩
  | starts event progress arrived => exact ⟨_, _, _, .of_starts event progress arrived⟩

/-! ## The books -/

/-- The requests that the task of a read sent. -/
def sentFor (slow : SlowClient σ) (past : List (Happening σ ρ)) (call : SharedRead.CallId) :
    List Request :=
  past.flatMap fun h => if h.event.sends? = some call then h.sent slow else []

/-- The context of the caller that arrived with an operation ended, at the instant at which it was
to be over. -/
def Stopped (past : List (Happening σ ρ)) (b : Happening σ ρ) : Prop :=
  ∃ s ∈ past, ∃ reason, s.event = .stopped b.here.reads.callers.length reason ∧
    b.over? = some (s.here.world.now, reason)

/-- What has become of the request of a read that was started with an operation. -/
inductive Fetching (slow : SlowClient σ) (past : List (Happening σ ρ)) (t : Timeline σ ρ)
    (call : SharedRead.CallId) (b : Happening σ ρ) (request : ItemRead) : Prop
  /-- It is due, and unless its context ended the caller waits for it. -/
  | waiting (due : .send call request ∈ t.events) (unsent : sentFor slow past call = [])
      (kept : SharedRead.Awaits t.reads b.here.reads.callers.length call ∨ Stopped past b)
  | sent (gone : ∀ e ∈ t.events, e.sends? ≠ some call)
      (once : sentFor slow past call = [.read request])
  /-- It was not wanted any more when it was due. -/
  | abandoned (gone : ∀ e ∈ t.events, e.sends? ≠ some call)
      (unsent : sentFor slow past call = []) (stopped : Stopped past b)

/-- What holds on a timeline of operations of an adapter after what happened. -/
structure Books (slow : SlowClient σ) (adapter : Adapter) (t₀ : Timeline σ ρ)
    (past : List (Happening σ ρ)) (t : Timeline σ ρ) : Prop where
  tasks : t.tasks = t₀.tasks
  places : ∀ h ∈ past, h.here.tasks = t₀.tasks ∧
    ∃ client reads, h.here.world.store = .adapted adapter client reads
  requests : t.world.requests = t₀.world.requests ++ past.flatMap (·.sent slow)
  store : ∃ client reads, t.world.store = .adapted adapter client reads ∧
    SharedRead.Reachable reads
  /-- Each task begins once. -/
  begun : (past.filterMap (·.event.begins?) ++ t.events.filterMap Event.begins?).Nodup
  /-- Each read has one event that is due at most. -/
  calls : (t.events.filterMap Event.call?).Nodup
  known : ∀ e ∈ t.events, ∀ call, e.call? = some call → call < t.reads.calls.length
  callers : ∀ n ∈ t.dues, ∀ caller reason, n.2 = .stopped caller reason →
    caller < t.reads.callers.length
  /-- Each read was started once. -/
  started : (past.filterMap (·.started? slow)).Nodup
  startedKnown : ∀ h ∈ past, ∀ call, h.started? slow = some call → call < t.reads.calls.length
  sentKnown : ∀ h ∈ past, ∀ call, h.event.sends? = some call → call < t.reads.calls.length
  /-- Requests of reads are due for those that started them. -/
  origin : ∀ e ∈ t.events, ∀ call, e.sends? = some call → ∃ h ∈ past, h.started? slow = some call
  /-- Whatever was sent was sent for an operation. -/
  sources : ∀ h ∈ past, h.sent slow ≠ [] → h.event.begins?.isSome ∨
    ∃ call, h.event.sends? = some call ∧ ∃ b ∈ past, b.started? slow = some call
  /-- The context of a caller that started a read ends when it is over. -/
  stops : ∀ b ∈ past, ∀ call, b.started? slow = some call →
    b.here.reads.callers.length < t.reads.callers.length ∧
      ∀ n ∈ t.dues, ∀ reason, n.2 = .stopped b.here.reads.callers.length reason →
        b.over? = some (n.1, reason)
  fetching : ∀ b ∈ past, ∀ call request, b.started? slow = some call →
    .send call request ∈ (b.after slow).events → Fetching slow past t call b request

/-- Something that was due is taken from a timeline. -/
structure Taken (t : Timeline σ ρ) (h : Happening σ ρ) : Prop where
  tasks : h.here.tasks = t.tasks
  requests : h.here.world.requests = t.world.requests
  store : h.here.world.store = t.world.store
  dues : t.dues.Perm ((h.here.world.now, h.event) :: h.here.dues)

theorem taken_of_queue {t : Timeline σ ρ} {before after : List (Due σ)} {due : Due σ}
    (queue : t.queue = before ++ due :: after) :
    Taken t ⟨t.taking (before ++ after) due.time, due.event⟩ where
  tasks := rfl
  requests := rfl
  store := rfl
  dues := by
    rw [Timeline.dues, queue]
    exact List.perm_middle.map fun d : Due σ => (d.time, d.event)

theorem Taken.events {t : Timeline σ ρ} {h : Happening σ ρ} (taken : Taken t h) :
    t.events.Perm (h.event :: h.here.events) :=
  taken.dues.map _

theorem Taken.reads {t : Timeline σ ρ} {h : Happening σ ρ} (taken : Taken t h) :
    h.here.reads = t.reads := by
  rw [Timeline.reads, taken.store, Timeline.reads]

theorem filterMap_cons_eq {α β : Type} (f : α → Option β) (a : α) (l : List α) :
    (a :: l).filterMap f = (f a).toList ++ l.filterMap f := by
  rw [List.filterMap_cons]
  cases f a <;> rfl

section

variable {slow : SlowClient σ} {adapter : Adapter} {t₀ t : Timeline σ ρ}
  {past : List (Happening σ ρ)} {h : Happening σ ρ} {P : SharedRead.Step → Prop}
  {sent : List Request} {noted : List (Instant × Event σ)}

theorem sentFor_concat (past : List (Happening σ ρ)) (h : Happening σ ρ)
    (call : SharedRead.CallId) :
    sentFor slow (past ++ [h]) call =
      sentFor slow past call ++ if h.event.sends? = some call then h.sent slow else [] := by
  rw [sentFor, List.flatMap_append, List.flatMap_singleton]
  rfl

theorem Stopped.concat {b : Happening σ ρ} (stopped : Stopped past b) (h : Happening σ ρ) :
    Stopped (past ++ [h]) b := by
  obtain ⟨s, member, ends⟩ := stopped
  exact ⟨s, List.mem_append_left _ member, ends⟩

/-- What is due afterwards was due before, or was noted. -/
theorem mem_dues_after (taken : Taken t h)
    (progress : Progress P h.here sent noted (h.after slow)) {n : Instant × Event σ}
    (member : n ∈ (h.after slow).dues) : n ∈ t.dues ∨ n ∈ noted := by
  rcases List.mem_append.1 (progress.dues.mem_iff.1 member) with before | new
  · exact .inl (taken.dues.mem_iff.2 (List.mem_cons_of_mem _ before))
  · exact .inr new

theorem mem_events_after (taken : Taken t h)
    (progress : Progress P h.here sent noted (h.after slow)) {e : Event σ}
    (member : e ∈ (h.after slow).events) : e ∈ t.events ∨ ∃ n ∈ noted, n.2 = e := by
  obtain ⟨n, due, rfl⟩ := List.mem_map.1 member
  rcases mem_dues_after taken progress due with before | new
  · exact .inl (List.mem_map_of_mem before)
  · exact .inr ⟨n, new, rfl⟩

theorem Progress.callers_le {adapter : Adapter} {client : σ} {reads : SharedRead.State}
    (store : h.here.world.store = .adapted adapter client reads)
    (progress : Progress P h.here sent noted (h.after slow)) :
    h.here.reads.callers.length ≤ (h.after slow).reads.callers.length := by
  obtain ⟨_, _, store', path⟩ := progress.reads store
  rw [Timeline.reads_of_store store', Timeline.reads_of_store store]
  exact SharedRead.callers_le_of_path path

/-- A read whose event happens has no other one that is due. -/
theorem Books.only (books : Books slow adapter t₀ past t) (taken : Taken t h)
    {call : SharedRead.CallId} (here : h.event.call? = some call) {e : Event σ}
    (due : e ∈ h.here.events) : e.call? ≠ some call := by
  intro same
  have calls := (taken.events.filterMap Event.call?).nodup_iff.1 books.calls
  rw [filterMap_cons_eq, here] at calls
  exact (List.nodup_cons.1 calls).1 (List.mem_filterMap.2 ⟨e, due, same⟩)

/-! ### Reads that are under way -/

/-- A request that waited goes on waiting while nothing is done about it. -/
theorem Fetching.of_other (books : Books slow adapter t₀ past t) (taken : Taken t h)
    (summary : Summary slow h P sent noted) {b : Happening σ ρ} (member : b ∈ past)
    {call : SharedRead.CallId} (started : b.started? slow = some call) {request : ItemRead}
    (other : h.event.sends? ≠ some call) (fetching : Fetching slow past t call b request) :
    Fetching slow (past ++ [h]) (h.after slow) call b request := by
  have known := books.startedKnown b member call started
  have same : sentFor slow (past ++ [h]) call = sentFor slow past call := by
    rw [sentFor_concat, if_neg other, List.append_nil]
  have stays (gone : ∀ e ∈ t.events, e.sends? ≠ some call) :
      ∀ e ∈ (h.after slow).events, e.sends? ≠ some call := by
    intro e member sends
    rcases mem_events_after taken summary.progress member with before | ⟨n, new, rfl⟩
    · exact gone e before sends
    · have fresh := Happening.eq_of_started? (summary.sends n new call sends)
      rw [taken.reads] at fresh
      exact Nat.ne_of_gt known fresh
  cases fetching with
  | sent gone once => exact .sent (stays gone) (same.trans once)
  | abandoned gone unsent stopped =>
    exact .abandoned (stays gone) (same.trans unsent) (stopped.concat h)
  | waiting due unsent kept =>
    have here : .send call request ∈ h.here.events := by
      rcases List.mem_cons.1 (taken.events.mem_iff.1 due) with now | later
      · rw [← now] at other
        exact absurd rfl other
      · exact later
    refine .waiting (summary.progress.events.mem_iff.2 (List.mem_append_left _ here))
      (same.trans unsent) ?_
    rcases kept with awaits | stopped
    · by_cases concerns : h.event.Concerns b.here.reads.callers.length call
      · cases event : h.event with
        | send other_ request =>
          rw [event] at concerns other
          exact absurd (congrArg some concerns) other
        | arrived other_ request exchange =>
          rw [event] at concerns
          have arrives : h.event.call? = some call := by
            rw [event]
            exact congrArg some concerns
          exact absurd rfl (books.only taken arrives here)
        | stopped caller reason =>
          rw [event] at concerns
          have ends : h.event = .stopped b.here.reads.callers.length reason := by
            rw [event, show caller = b.here.reads.callers.length from concerns]
          have due : (h.here.world.now, h.event) ∈ t.dues :=
            taken.dues.mem_iff.2 List.mem_cons_self
          exact .inr ⟨h, List.mem_append_right _ (List.mem_singleton_self h), reason, ends,
            (books.stops b member call started).2 _ due reason ends⟩
        | start | exchanged | interrupted | resumed =>
          rw [event] at concerns
          exact concerns.elim
      · obtain ⟨client, reads, store, reachable⟩ := books.store
        obtain ⟨_, reads', store', path⟩ := summary.progress.reads (taken.store.trans store)
        rw [Timeline.reads_of_store store] at awaits
        rw [Timeline.reads_of_store store']
        exact .inl (SharedRead.awaits_of_path reachable path
          (fun e held disturbs => concerns (summary.undisturbed e held _ call disturbs)) awaits)
    · exact .inr (stopped.concat h)

/-- Whoever waits for a read that is under way still wants it. -/
theorem isReading_of_awaits {reads : SharedRead.State} (reachable : SharedRead.Reachable reads)
    {caller : SharedRead.CallerId} {call : SharedRead.CallId}
    (awaits : SharedRead.Awaits reads caller call) : Timeline.isReading reads call = true := by
  obtain ⟨waits, ⟨key, waiters, cancelled, phase⟩, found, reading⟩ := awaits
  have live := (SharedRead.invariant_of_reachable reachable).live_of_waits waits found
  cases live
  cases reading
  rw [Timeline.isReading, found]

/-- The request of a read happens to be next: it leaves, or is given up. -/
theorem Fetching.of_send (books : Books slow adapter t₀ past t) (taken : Taken t h)
    (effect : Effect slow adapter h) (summary : Summary slow h P sent noted)
    {b : Happening σ ρ} {call : SharedRead.CallId} {request : ItemRead}
    (known : call < t.reads.calls.length) (own : h.event.sends? = some call)
    (fetching : Fetching slow past t call b request) :
    Fetching slow (past ++ [h]) (h.after slow) call b request := by
  have due : h.event ∈ t.events := taken.events.mem_iff.2 List.mem_cons_self
  have here : h.event.call? = some call := by
    cases event : h.event <;> rw [event] at own <;> cases own
    rfl
  have gone : ∀ e ∈ (h.after slow).events, e.sends? ≠ some call := by
    intro e member sends
    rcases List.mem_append.1 (summary.progress.events.mem_iff.1 member) with before | new
    · exact books.only taken here before (Event.call?_of_sends? sends)
    · obtain ⟨n, among, rfl⟩ := List.mem_map.1 new
      have fresh := Happening.eq_of_started? (summary.sends n among call sends)
      rw [taken.reads] at fresh
      exact Nat.ne_of_gt known fresh
  have added : sentFor slow (past ++ [h]) call = sentFor slow past call ++ h.sent slow := by
    rw [sentFor_concat, if_pos own]
  cases fetching with
  | sent gone _ => exact absurd own (gone h.event due)
  | abandoned gone _ _ => exact absurd own (gone h.event due)
  | waiting waits unsent kept =>
    rw [unsent, List.nil_append] at added
    have same : h.event = .send call request := by
      rcases List.mem_cons.1 (taken.events.mem_iff.1 waits) with now | later
      · exact now.symm
      · exact absurd rfl (books.only taken here later)
    cases effect with
    | quiet unsent _ _ _ =>
      rw [unsent] at own
      cases own
    | begins event | joins event | starts event =>
      rw [event] at own
      cases own
    | sends event answer _ progress =>
      cases same.symm.trans event
      exact .sent gone (added.trans (Happening.sent_eq progress))
    | drops event unwanted _ progress =>
      cases same.symm.trans event
      refine .abandoned gone (added.trans (Happening.sent_eq progress)) ?_
      rcases kept with awaits | stopped
      · obtain ⟨client, reads, store, reachable⟩ := books.store
        rw [taken.reads] at unwanted
        rw [Timeline.reads_of_store store] at awaits unwanted
        exact absurd (isReading_of_awaits reachable awaits) unwanted
      · exact stopped.concat h

/-- A read that was just started waits to be sent. -/
theorem Fetching.of_started (books : Books slow adapter t₀ past t) (taken : Taken t h)
    (effect : Effect slow adapter h) {call : SharedRead.CallId} {request : ItemRead}
    (started : h.started? slow = some call)
    (due : .send call request ∈ (h.after slow).events) :
    Fetching slow (past ++ [h]) (h.after slow) call h request := by
  have fresh : h.here.reads.calls.length = call := Happening.eq_of_started? started
  have before : sentFor slow past call = [] := by
    refine List.flatMap_eq_nil_iff.2 fun b member => if_neg fun sends => ?_
    have known := books.sentKnown b member call sends
    rw [taken.reads] at fresh
    exact Nat.ne_of_gt known fresh
  cases effect with
  | quiet _ _ same _ | drops _ _ same _ | sends _ _ same _ | begins _ _ same _ =>
    rw [Happening.started?_eq_none same] at started
    cases started
  | @joins _ _ id _ _ arrived =>
    rw [Happening.started?_eq_none (Happening.addsNoRead_of_join arrived)] at started
    cases started
  | @starts _ key event progress arrived =>
    refine .waiting due ?_ (.inl ?_)
    · rw [sentFor_concat, before, if_neg]
      · rfl
      · intro sends
        rw [event] at sends
        cases sends
    · rw [arrived, ← fresh]
      have reading : (h.here.reads.start key).calls[h.here.reads.calls.length]? =
          some ⟨key, 1, false, .reading⟩ := by
        simp [SharedRead.State.start]
      exact ⟨by simp [SharedRead.State.Waits, SharedRead.State.start], _, reading, rfl⟩

/-! ### One more event -/

theorem Books.begun_of_step (books : Books slow adapter t₀ past t) (taken : Taken t h)
    (summary : Summary slow h P sent noted) :
    ((past ++ [h]).filterMap (·.event.begins?) ++
      (h.after slow).events.filterMap Event.begins?).Nodup := by
  have none_ : (noted.map (·.2)).filterMap Event.begins? = [] := by
    rw [List.filterMap_map]
    exact List.filterMap_eq_nil_iff.2 summary.begins
  have due := taken.events.filterMap Event.begins?
  have later := summary.progress.events.filterMap Event.begins?
  rw [filterMap_cons_eq] at due
  rw [List.filterMap_append, none_, List.append_nil] at later
  rw [List.filterMap_append, filterMap_cons_eq, List.filterMap_nil, List.append_nil,
    List.append_assoc]
  exact ((due.trans (later.symm.append_left _)).append_left _).nodup_iff.1 books.begun

theorem Books.calls_of_step (books : Books slow adapter t₀ past t) (taken : Taken t h)
    (summary : Summary slow h P sent noted) :
    ((h.after slow).events.filterMap Event.call?).Nodup := by
  have due := taken.events.filterMap Event.call?
  have later := summary.progress.events.filterMap Event.call?
  rw [filterMap_cons_eq] at due
  rw [List.filterMap_append, List.filterMap_map] at later
  have fresh : ∀ call ∈ (h.started? slow).toList, call ∉ t.events.filterMap Event.call? := by
    intro call started member
    obtain ⟨e, there, same⟩ := List.mem_filterMap.1 member
    have known := books.known e there call same
    have first := Happening.eq_of_started? (Option.mem_toList.1 started)
    rw [taken.reads] at first
    exact Nat.ne_of_gt known first
  have all : (t.events.filterMap Event.call? ++ (h.started? slow).toList).Nodup := by
    refine List.nodup_append.2 ⟨books.calls, ?_, fun call member other started => ?_⟩
    · cases h.started? slow <;> simp
    · rintro rfl
      exact fresh call started member
  have order : (t.events.filterMap Event.call? ++ (h.started? slow).toList).Perm
      (h.here.events.filterMap Event.call? ++
        (h.event.call?.toList ++ (h.started? slow).toList)) := by
    refine (due.append_right _).trans ?_
    rw [List.append_assoc]
    exact List.perm_append_comm_assoc _ _ _
  exact later.nodup_iff.2 ((order.nodup_iff.1 all).sublist (summary.calls.append_left _))

/-- The books stay in order. -/
theorem Books.step (books : Books slow adapter t₀ past t) (taken : Taken t h)
    (operations : ∀ task ∈ t₀.tasks, task.activity.IsOperation) :
    Books slow adapter t₀ (past ++ [h]) (h.after slow) := by
  obtain ⟨client, reads, store, reachable⟩ := books.store
  have held : h.here.world.store = .adapted adapter client reads := taken.store.trans store
  have effect : Effect slow adapter h := by
    refine effect_of_operations slow held ?_
    rw [taken.tasks, books.tasks]
    exact operations
  obtain ⟨P, sent, noted, summary⟩ := effect.summary
  have progress := summary.progress
  have due : h.event ∈ t.events := taken.events.mem_iff.2 List.mem_cons_self
  have grows : t.reads.calls.length ≤ (h.after slow).reads.calls.length := by
    rw [summary.length, taken.reads]
    exact Nat.le_add_right _ _
  have seats : t.reads.callers.length ≤ (h.after slow).reads.callers.length := by
    rw [← taken.reads]
    exact progress.callers_le held
  have started {call : SharedRead.CallId} (here : h.started? slow = some call) :
      t.reads.calls.length = call ∧ call < (h.after slow).reads.calls.length := by
    have first := Happening.eq_of_started? here
    rw [summary.length, here, taken.reads]
    rw [taken.reads] at first
    exact ⟨first, first ▸ Nat.lt_succ_self _⟩
  constructor
  case tasks => rw [progress.tasks, taken.tasks, books.tasks]
  case places =>
    intro b member
    rcases List.mem_append.1 member with before | last
    · exact books.places b before
    · rw [List.mem_singleton.1 last]
      exact ⟨taken.tasks.trans books.tasks, client, reads, held⟩
  case requests =>
    rw [progress.requests, taken.requests, books.requests, List.flatMap_append,
      List.flatMap_singleton, Happening.sent_eq progress, List.append_assoc]
  case store =>
    obtain ⟨client', reads', store', path⟩ := progress.reads held
    exact ⟨client', reads', store', SharedRead.reachable_of_path reachable path⟩
  case begun => exact books.begun_of_step taken summary
  case calls => exact books.calls_of_step taken summary
  case known =>
    intro e member call same
    rcases mem_events_after taken progress member with before | ⟨n, new, rfl⟩
    · exact Nat.lt_of_lt_of_le (books.known e before call same) grows
    · have among := summary.calls.subset (List.mem_filterMap.2 ⟨n, new, same⟩)
      rcases List.mem_append.1 among with own | fresh
      · exact Nat.lt_of_lt_of_le (books.known h.event due call (Option.mem_toList.1 own)) grows
      · exact (started (Option.mem_toList.1 fresh)).2
  case callers =>
    intro n member caller reason ends
    rcases mem_dues_after taken progress member with before | new
    · exact Nat.lt_of_lt_of_le (books.callers n before caller reason ends) seats
    · obtain ⟨rfl, -, more⟩ := summary.stops n new caller reason ends
      exact more
  case started =>
    rw [List.filterMap_append, filterMap_cons_eq, List.filterMap_nil, List.append_nil]
    refine List.nodup_append.2 ⟨books.started, ?_, fun call member other here => ?_⟩
    · cases h.started? slow <;> simp
    · rintro rfl
      obtain ⟨b, among, same⟩ := List.mem_filterMap.1 member
      have known := books.startedKnown b among call same
      exact Nat.ne_of_gt known (started (Option.mem_toList.1 here)).1
  case startedKnown =>
    intro b member call same
    rcases List.mem_append.1 member with before | last
    · exact Nat.lt_of_lt_of_le (books.startedKnown b before call same) grows
    · rw [List.mem_singleton.1 last] at same
      exact (started same).2
  case sentKnown =>
    intro b member call sends
    rcases List.mem_append.1 member with before | last
    · exact Nat.lt_of_lt_of_le (books.sentKnown b before call sends) grows
    · rw [List.mem_singleton.1 last] at sends
      exact Nat.lt_of_lt_of_le (books.known h.event due call (Event.call?_of_sends? sends)) grows
  case origin =>
    intro e member call sends
    rcases mem_events_after taken progress member with before | ⟨n, new, rfl⟩
    · obtain ⟨b, among, same⟩ := books.origin e before call sends
      exact ⟨b, List.mem_append_left _ among, same⟩
    · exact ⟨h, List.mem_append_right _ (List.mem_singleton_self h),
        summary.sends n new call sends⟩
  case sources =>
    intro b member spoke
    rcases List.mem_append.1 member with before | last
    · rcases books.sources b before spoke with begins | ⟨call, sends, starter, among, same⟩
      · exact .inl begins
      · exact .inr ⟨call, sends, starter, List.mem_append_left _ among, same⟩
    · rw [List.mem_singleton.1 last] at spoke ⊢
      rw [Happening.sent_eq progress] at spoke
      rcases summary.speaks spoke with begins | sends
      · exact .inl begins
      · obtain ⟨call, sends⟩ := Option.isSome_iff_exists.1 sends
        obtain ⟨starter, among, same⟩ := books.origin h.event due call sends
        exact .inr ⟨call, sends, starter, List.mem_append_left _ among, same⟩
  case stops =>
    intro b member call same
    rcases List.mem_append.1 member with before | last
    · obtain ⟨seated, ends⟩ := books.stops b before call same
      refine ⟨Nat.lt_of_lt_of_le seated seats, fun n due reason stops => ?_⟩
      rcases mem_dues_after taken progress due with old | new
      · exact ends n old reason stops
      · obtain ⟨arrives, -, -⟩ := summary.stops n new _ reason stops
        rw [taken.reads] at arrives
        exact absurd arrives (Nat.ne_of_lt seated)
    · rw [List.mem_singleton.1 last] at same ⊢
      refine ⟨summary.arrives call same, fun n due reason stops => ?_⟩
      rcases mem_dues_after taken progress due with old | new
      · have seated := books.callers n old _ reason stops
        rw [taken.reads] at seated
        exact absurd seated (Nat.lt_irrefl _)
      · exact (summary.stops n new _ reason stops).2.1
  case fetching =>
    intro b member call request same requested
    rcases List.mem_append.1 member with before | last
    · have fetching := books.fetching b before call request same requested
      by_cases own : h.event.sends? = some call
      · exact .of_send books taken effect summary (books.startedKnown b before call same) own
          fetching
      · exact .of_other books taken summary before same own fetching
    · rw [List.mem_singleton.1 last] at same requested ⊢
      exact .of_started books taken effect same requested

end

/-! ## Courses -/

/-- The starts of tasks, noted one after the other. -/
theorem starts_noted (now : Instant) (entries : List (Task σ ρ × Nat)) (t : Timeline σ ρ) :
    let noted := entries.foldl (fun t entry => t.note (now + entry.1.delay) (.start entry.2)) t
    noted.tasks = t.tasks ∧ noted.world = t.world ∧
      noted.events.Perm (t.events ++ entries.map fun entry => .start entry.2) := by
  induction entries generalizing t with
  | nil => exact ⟨rfl, rfl, by rw [List.map_nil, List.append_nil]; exact .refl _⟩
  | cons entry rest ih =>
    obtain ⟨tasks, world, events⟩ := ih (t.note (now + entry.1.delay) (.start entry.2))
    have first := (t.progress_note (P := fun _ => False) (now + entry.1.delay)
      (.start entry.2)).events
    refine ⟨tasks, world, events.trans ?_⟩
    rw [List.map_cons, ← List.singleton_append, ← List.append_assoc]
    exact first.append_right _

theorem tasks_ofTasks (w : World σ) (tasks : List (Task σ ρ)) :
    (Timeline.ofTasks w tasks).tasks = tasks :=
  (starts_noted w.now tasks.zipIdx ⟨w, tasks, [], 0, [], [], []⟩).1

theorem world_ofTasks (w : World σ) (tasks : List (Task σ ρ)) :
    (Timeline.ofTasks w tasks).world = w :=
  (starts_noted w.now tasks.zipIdx ⟨w, tasks, [], 0, [], [], []⟩).2.1

/-- Nothing has happened. -/
theorem books_ofTasks (slow : SlowClient σ) {adapter : Adapter} {client : σ}
    {reads : SharedRead.State} {w : World σ} (store : w.store = .adapted adapter client reads)
    (reachable : SharedRead.Reachable reads) (tasks : List (Task σ ρ)) :
    Books slow adapter (Timeline.ofTasks w tasks) [] (Timeline.ofTasks w tasks) := by
  obtain ⟨-, -, events⟩ := starts_noted w.now tasks.zipIdx
    (⟨w, tasks, [], 0, [], [], []⟩ : Timeline σ ρ)
  have events : (Timeline.ofTasks w tasks).events.Perm
      ((List.range tasks.length).map .start) := by
    refine events.trans (.of_eq ?_)
    rw [List.range_eq_range', ← List.zipIdx_map_snd, List.map_map]
    rfl
  have starts : ∀ e ∈ (Timeline.ofTasks w tasks).events, ∃ task, e = .start task := by
    intro e member
    obtain ⟨task, -, same⟩ := List.mem_map.1 (events.mem_iff.1 member)
    exact ⟨task, same.symm⟩
  have silent : (Timeline.ofTasks w tasks).events.filterMap Event.call? = [] := by
    refine List.filterMap_eq_nil_iff.2 fun e member => ?_
    obtain ⟨task, rfl⟩ := starts e member
    rfl
  constructor
  case tasks => rfl
  case places => exact fun _ member => absurd member List.not_mem_nil
  case requests => exact (List.append_nil _).symm
  case store =>
    have same := congrArg World.store (world_ofTasks w tasks)
    exact ⟨client, reads, same.trans store, reachable⟩
  case begun =>
    have distinct := events.filterMap Event.begins?
    rw [List.filterMap_map] at distinct
    have all : ((List.range tasks.length).filterMap fun task =>
        Event.begins? (.start task : Event σ)) = List.range tasks.length :=
      List.filterMap_some
    exact (distinct.trans (.of_eq all)).nodup_iff.2 List.nodup_range
  case calls =>
    rw [silent]
    exact .nil
  case known =>
    intro e member call same
    obtain ⟨task, rfl⟩ := starts e member
    cases same
  case callers =>
    intro n member caller reason ends
    obtain ⟨task, same⟩ := starts n.2 (List.mem_map_of_mem member)
    cases same.symm.trans ends
  case started => exact .nil
  case startedKnown => exact fun _ member => absurd member List.not_mem_nil
  case sentKnown => exact fun _ member => absurd member List.not_mem_nil
  case origin =>
    intro e member call sends
    obtain ⟨task, rfl⟩ := starts e member
    cases sends
  case sources => exact fun _ member => absurd member List.not_mem_nil
  case stops => exact fun _ member => absurd member List.not_mem_nil
  case fetching => exact fun _ member => absurd member List.not_mem_nil

theorem books_of_course {slow : SlowClient σ} {adapter : Adapter} {t₀ t : Timeline σ ρ}
    {past : List (Happening σ ρ)} (operations : ∀ task ∈ t₀.tasks, task.activity.IsOperation)
    (initial : Books slow adapter t₀ [] t₀) (course : Course slow t₀ past t) :
    Books slow adapter t₀ past t := by
  induction course with
  | nil => exact initial
  | snoc _ queue ih => exact ih.step (taken_of_queue queue) operations

end RecordStore
