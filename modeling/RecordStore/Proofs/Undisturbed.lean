/-
RecordStore.Proofs.Undisturbed -- one operation over any client

An operation that is performed with nothing else going on either ends at once or
sends the one request of its plan.  The request is answered as the client answers
it, unless the context ends first (`Meets`), and the operation ends with what its
plan concludes from that (`World.ends_exchange`).  What can be seen of it is its
result, the requests that were sent, and the notices in the log (`World.Ends`).
-/
import RecordStore.Proofs.Visit

namespace RecordStore

set_option autoImplicit false

open RecordStore.Wire

variable {σ : Type}

namespace World

/-- An operation performed with nothing else going on, under a context of the given lifespan: its
result, if it ends, and the world afterwards. -/
def alone (slow : SlowClient σ) (w : World σ) (life : Instant → Lifespan) (op : Operation) :
    Option op.Result × World σ :=
  let (ends, after) := w.runTasks slow [⟨0, .operation op life fun result => (result, [])⟩]
  (ends.head?.join.map (·.2), after)

/-- When and under what context an operation begins. -/
def moment (w : World σ) (life : Instant → Lifespan) : Moment := ⟨w.now, w.time, life w.now⟩

/-- The operation has ended with this reply, and on the way these requests were sent. -/
structure Ends (w : World σ) {op : Operation} (done : Option op.Result × World σ)
    (reply : Reply op) (sent : List Request) : Prop where
  result : done.1 = some reply.result
  requests : done.2.requests = w.requests ++ sent
  notices : done.2.notices = w.notices ++ reply.notices

/-- What becomes of a request that leaves now with nothing else going on: it is answered as the
client answers it, unless the context ends first. -/
inductive Meets (slow : SlowClient σ) (w : World σ) (client : σ) (life : Lifespan)
    (request : Request) : Sent request → Prop
  | answered {exchange : Exchange σ request} {client' : σ}
      (dispatched : slow.dispatch w.time request client = (exchange, client'))
      (outlasts : life.Outlasts (w.now + exchange.delay)) :
      Meets slow w client life request (.ofOutcome (exchange.complete client').1)
  | stopped {exchange : Exchange σ request} {client' : σ} (reason : StopReason)
      (dispatched : slow.dispatch w.time request client = (exchange, client'))
      (ends : ¬ life.Outlasts (w.now + exchange.delay)) :
      Meets slow w client life request (.stopped reason)

end World

namespace Timeline

/-- The only task, an operation, has ended with this reply, and these requests were sent. -/
structure Closed {op : Operation} (t : Timeline σ op.Result) (w : World σ) (reply : Reply op)
    (sent : List Request) : Prop where
  tasks : t.tasks.length = 1
  ended : ∃ instant, t.ended = [(0, instant, reply.result)]
  requests : t.world.requests = w.requests ++ sent
  notices : t.world.notices = w.notices ++ reply.notices

theorem Closed.runFor {op : Operation} {t : Timeline σ op.Result} {w : World σ} {reply : Reply op}
    {sent : List Request} (closed : t.Closed w reply sent) (slow : SlowClient σ) (fuel : Nat) :
    (runFor slow fuel t).Closed w reply sent := by
  obtain ⟨instant, ended⟩ := closed.ended
  have done : t.tasks.length ≤ t.ended.length := by
    rw [closed.tasks, ended]
    exact Nat.le_refl 1
  rw [runFor_of_ended slow fuel done]
  exact closed

/-- An operation that has nothing to wait for, whatever it did to the store. -/
theorem closed_finish {op : Operation} (w : World σ) (task : Task σ op.Result) (store : Store σ)
    (container : String) (reply : Reply op) :
    ((single { w with store } task 1).finish 0 (tellReply op container (.between w.now w.now)
      (fun result => (result, [])) reply)).Closed w reply [] where
  tasks := rfl
  ended := ⟨w.now, rfl⟩
  requests := (List.append_nil _).symm
  notices := congrArg (w.notices ++ ·) (List.append_nil _)

section

variable {op : Operation} (w : World σ) (task : Task σ op.Result) (a : Adapter) (client : σ)
  (reads : SharedRead.State) {request : Request} (exchange : Exchange σ request)
  (conclude : Except StoreError request.Response → Reply op)

/-- How the task ends with what became of its request. -/
def conclusion (now : Instant) (sent : Sent request) :
    op.Result × List Notice × List Metrics.Sample :=
  tellReply op a.container (.between w.now now) (fun result => (result, [])) (conclude sent.outcome)

/-- The request of the only task has left. -/
def left (noted : Nat) : Timeline σ op.Result :=
  ⟨{ w with
      store := .adapted a client reads
      requests := w.requests ++ [request] },
    [task], [], noted, [], [⟨0, request, exchange, conclusion w a conclude⟩], []⟩

variable (noted : Nat) (instant : Instant)

/-- The task ends with what became of its request, at whatever instant it learns of it. -/
theorem closed_settle (sent : Sent request) (client' : σ) :
    let t := left w task a client reads exchange conclude noted
    ({ t with world := { t.world with
        now := instant, store := .adapted a client' reads } }.settle
      ⟨0, request, exchange, conclusion w a conclude⟩ sent).Closed w (conclude sent.outcome)
        [request] where
  tasks := rfl
  ended := ⟨instant, rfl⟩
  requests := rfl
  notices := congrArg (w.notices ++ ·) (List.append_nil _)

theorem closed_receiveOwn :
    let t := left w task a client reads exchange conclude noted
    ({ t with world := { t.world with now := instant } }.receiveOwn 0).Closed w
      (conclude (Sent.ofOutcome (exchange.complete client).1).outcome) [request] :=
  closed_settle w task a client reads exchange conclude noted instant _ _

theorem closed_interrupt (reason : StopReason) :
    let t := left w task a client reads exchange conclude noted
    ({ t with world := { t.world with now := instant } }.interrupt 0 reason).Closed w
      (conclude (Sent.stopped (r := request) reason).outcome) [request] :=
  closed_settle w task a client reads exchange conclude noted instant _ _

theorem beginExchange_eq {slow : SlowClient σ} {life : Lifespan} (live : life.reason? w.now = none)
    {before : σ} (dispatched : slow.dispatch w.time request before = (exchange, client)) :
    beginExchange slow (single w task 1) 0 a before reads life request (conclusion w a conclude) =
      let t := left w task a client reads exchange conclude 1
      let answered := if exchange.delay = 0 then t.receiveOwn 0
        else t.note (w.now + exchange.delay) (.exchanged 0)
      match life.end? with
      | some instant =>
        if instant ≤ w.now + exchange.delay then t.note instant (.interrupted 0 life.endReason)
        else answered
      | none => answered := by
  unfold beginExchange
  rw [show (single w task 1).world = w from rfl, dispatched]
  dsimp only
  rw [Lifespan.race_of_live live]
  cases life.end? with
  | none => rfl
  | some instant =>
    by_cases first : instant ≤ w.now + exchange.delay
    · simp only [if_pos first]
      rfl
    · simp only [if_neg first]
      rfl

/-- Left alone, the request is answered at once, or its answer is the only thing due. -/
theorem closed_answered (slow : SlowClient σ) (fuel : Nat) :
    let t := left w task a client reads exchange conclude 1
    (runFor slow (fuel + 1) (if exchange.delay = 0 then t.receiveOwn 0
        else t.note (w.now + exchange.delay) (.exchanged 0))).Closed w
      (conclude (Sent.ofOutcome (exchange.complete client).1).outcome) [request] := by
  intro t
  split
  · exact (closed_receiveOwn w task a client reads exchange conclude 1 w.now).runFor slow _
  · rw [runFor_cons slow fuel (by exact Nat.not_succ_le_zero 0) rfl]
    exact (closed_receiveOwn w task a client reads exchange conclude 2 _).runFor slow fuel

end

/-- A request that leaves under a live context is answered or the context ends first, and either
way the task ends. -/
theorem closed_beginExchange (slow : SlowClient σ) {op : Operation} (w : World σ)
    (task : Task σ op.Result) (a : Adapter) (client : σ) (reads : SharedRead.State)
    (request : Request) (conclude : Except StoreError request.Response → Reply op)
    {life : Lifespan} (live : life.reason? w.now = none) (fuel : Nat) :
    ∃ sent, w.Meets slow client life request sent ∧
      (runFor slow (fuel + 1) (beginExchange slow (single w task 1) 0 a client reads life request
        (conclusion w a conclude))).Closed w (conclude sent.outcome) [request] := by
  obtain ⟨exchange, client', dispatched⟩ :
      ∃ exchange client', slow.dispatch w.time request client = (exchange, client') := ⟨_, _, rfl⟩
  rw [beginExchange_eq w task a client' reads exchange conclude live dispatched]
  have answered := closed_answered w task a client' reads exchange conclude slow fuel
  cases ends : life.end? with
  | none => exact ⟨_, .answered dispatched fun t ended => (nomatch ends.symm.trans ended), answered⟩
  | some instant =>
    dsimp only
    by_cases first : instant ≤ w.now + exchange.delay
    · have passed : ¬ life.Outlasts (w.now + exchange.delay) :=
        fun outlasts => Nat.not_le.2 (outlasts instant ends) first
      refine ⟨_, .stopped life.endReason dispatched passed, ?_⟩
      rw [if_pos first, runFor_cons slow fuel (by exact Nat.not_succ_le_zero 0) rfl]
      exact (closed_interrupt w task a client' reads exchange conclude 2 _ _).runFor slow fuel
    · refine ⟨_, .answered dispatched fun t ended => ?_, ?_⟩
      · obtain rfl := Option.some.inj (ends.symm.trans ended)
        exact Nat.lt_of_not_le first
      · rw [if_neg first]
        exact answered

end Timeline

namespace World

variable (slow : SlowClient σ) (w : World σ) {life : Instant → Lifespan} {op : Operation}

/-- An operation that is performed alone is its single task, followed to its end. -/
theorem alone_eq :
    let last := Timeline.runFor slow 5 (Timeline.beginOperation slow
      (.single w ⟨0, .operation op life fun result => (result, [])⟩ 1) 0 op (life w.now)
      fun result => (result, []))
    w.alone slow life op = ((last.ended.find? (·.1 == 0)).map (·.2.2), last.world) := by
  intro last
  show ((last.ended.find? (·.1 == 0)).map (·.2) |>.map (·.2), last.world) = _
  rw [Option.map_map]
  rfl

theorem ends_of_closed {reply : Reply op} {sent : List Request} (closed : (Timeline.runFor slow 5
      (Timeline.beginOperation slow
        (.single w ⟨0, .operation op life fun result => (result, [])⟩ 1) 0 op (life w.now)
        fun result => (result, []))).Closed w reply sent) :
    w.Ends (w.alone slow life op) reply sent := by
  obtain ⟨instant, ended⟩ := closed.ended
  rw [alone_eq]
  refine ⟨?_, closed.requests, closed.notices⟩
  rw [ended]
  rfl

variable {a : Adapter} {client : σ} {reads : SharedRead.State}
  (store : w.store = .adapted a client reads)

include store

/-- An operation whose plan is done ends at once. -/
theorem ends_done {reply : Reply op} (planned : a.plan (w.moment life) op = .done reply) :
    w.Ends (w.alone slow life op) reply [] := by
  refine ends_of_closed slow w ?_
  rw [Timeline.beginOperation_done slow 0 store _ planned]
  exact (Timeline.closed_finish w _ w.store a.container reply).runFor slow 5

/-- An operation that sends a request ends with what its plan concludes from the answer, or from
the end of its context. -/
theorem ends_exchange {request : Request} {conclude : Except StoreError request.Response → Reply op}
    (planned : a.plan (w.moment life) op = .exchange request conclude) :
    ∃ sent, w.Meets slow client (life w.now) request sent ∧
      w.Ends (w.alone slow life op) (conclude sent.outcome) [request] := by
  have sound := a.plan_sound (w.moment life) op
  rw [planned] at sound
  obtain ⟨sent, meets, closed⟩ := Timeline.closed_beginExchange slow w
    ⟨0, .operation op life fun result => (result, [])⟩ a client reads request conclude sound.1 4
  refine ⟨sent, meets, ends_of_closed slow w ?_⟩
  rw [Timeline.beginOperation_exchange slow 0 store _ planned]
  exact closed

omit store in
/-- Over the reference store an operation is what the store does. -/
theorem ends_reference (life : Instant → Lifespan) (op : Operation) {container : String}
    {contents : Reference} (store : w.store = .reference container contents) :
    let done := (Reference.backend container).perform (w.moment life) op contents
    w.Ends (w.alone slow life op) done.1 [] ∧
      (w.alone slow life op).2.store = .reference container done.2 := by
  intro done
  let task : Task σ op.Result := ⟨0, .operation op life fun result => (result, [])⟩
  have begun : Timeline.beginOperation slow (.single w task 1) 0 op (life w.now)
      (fun result => (result, [])) =
        (Timeline.single { w with store := .reference container done.2 } task 1).finish 0
          (Timeline.tellReply op container (.between w.now w.now) (fun result => (result, []))
            done.1) := by
    unfold Timeline.beginOperation
    dsimp only [Timeline.single]
    rw [store]
    rfl
  constructor
  · refine ends_of_closed slow w ?_
    rw [begun]
    exact (Timeline.closed_finish w task _ container done.1).runFor slow 5
  · rw [alone_eq, begun, Timeline.runFor_of_ended slow 5 (by exact Nat.le_refl 1)]
    rfl

end World

end RecordStore
