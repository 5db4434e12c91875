/-
RecordStore.Proofs.Visit -- operations one after another

A visit performs one operation with nothing else going on.  On the reference
store it is what the store does (`visit_reference`).  Over the emulator it is
what the adapter does at once, or the context ends first, and then the operation
is cancelled and no table has changed (`visit_adapted`, `Concludes`).  Every
visit ends.
-/
import RecordStore.Proofs.Plan
import RecordStore.Proofs.Single

namespace RecordStore

set_option autoImplicit false

open RecordStore.Wire

/-! ## An operation begins -/

namespace Timeline

variable {σ ρ : Type} (slow : SlowClient σ) {t : Timeline σ ρ} (task : Nat) {life : Lifespan}
  {adapter : Adapter} {client : σ} {reads : SharedRead.State}
  (store : t.world.store = .adapted adapter client reads)

include store

theorem beginOperation_done {op : Operation} (tell : op.Result → ρ × List Notice)
    {reply : Reply op} (plan : adapter.plan ⟨t.world.now, t.world.time, life⟩ op = .done reply) :
    beginOperation slow t task op life tell =
      t.finish task (tellReply op adapter.container (.between t.world.now t.world.now) tell
        reply) := by
  unfold beginOperation
  rw [store]
  dsimp only
  rw [plan]

theorem beginOperation_sharedRead {key : String}
    (tell : (Operation.get key).Result → ρ × List Notice) {request : ItemRead}
    (plan : adapter.plan ⟨t.world.now, t.world.time, life⟩ (.get key) = .sharedRead request) :
    beginOperation slow t task (.get key) life tell =
      t.beginSharedRead task adapter client reads life key request fun now result =>
        tellReply (.get key) adapter.container (.between t.world.now now) tell (.of result) := by
  unfold beginOperation
  rw [store]
  dsimp only
  rw [plan]

theorem beginOperation_exchange {op : Operation} (tell : op.Result → ρ × List Notice)
    {request : Request} {conclude : Except StoreError request.Response → Reply op}
    (plan : adapter.plan ⟨t.world.now, t.world.time, life⟩ op = .exchange request conclude) :
    beginOperation slow t task op life tell =
      beginExchange slow t task adapter client reads life request fun now sent =>
        tellReply op adapter.container (.between t.world.now now) tell (conclude sent.outcome) := by
  unfold beginOperation
  rw [store]
  dsimp only
  rw [plan]

end Timeline

/-! ## Visits -/

/-- An operation, the time of day at which it is performed, and the lifespan of its context, given
the instant of its beginning. -/
structure Visit where
  time : Timestamp
  life : Instant → Lifespan
  op : Operation

namespace Visit

/-- When and under what context a visit begins. -/
def moment (v : Visit) (now : Instant) : Moment := ⟨now, v.time, v.life now⟩

/-- A visit under a context that never ends. -/
def background (time : Timestamp) (op : Operation) : Visit := ⟨time, fun _ => .unbounded, op⟩

end Visit

/-- An operation performed with nothing else going on: its result, if it ends, and the world
afterwards. -/
def World.visit (w : World Client) (v : Visit) : Option v.op.Result × World Client :=
  let (ends, after) := ({ w with time := v.time } : World Client).runTasks Client.slow
    [⟨0, .operation v.op v.life fun result => (result, [])⟩]
  (ends.head?.join.map (·.2), after)

/-- How an operation over the emulator ends: as the adapter performs it at once, or cancelled after
its request was counted. -/
inductive Concludes (adapter : Adapter) (m : Moment) (op : Operation) (e : Emulator) :
    op.Result → Emulator → Prop
  | served : Concludes adapter m op e
      ((adapter.backend Emulator.client).perform m op e).1.result
      ((adapter.backend Emulator.client).perform m op e).2
  | stopped (reason : StopReason) (request : Request)
      (ends : ¬ m.life.Outlasts (m.now + e.latency)) :
      Concludes adapter m op e (.error (.cancelled reason)) (e.noteCall request)

/-- The only task of a visit. -/
def Visit.task (v : Visit) : Task Client v.op.Result :=
  ⟨0, .operation v.op v.life fun result => (result, [])⟩

/-- The timeline on which a visit begins. -/
def Visit.timeline (v : Visit) (w : World Client) : Timeline Client v.op.Result :=
  .single { w with time := v.time } v.task 1

/-- The timeline once the operation of the visit has begun. -/
def Visit.begun (v : Visit) (w : World Client) : Timeline Client v.op.Result :=
  Timeline.beginOperation Client.slow (v.timeline w) 0 v.op (v.life w.now) fun result =>
    (result, [])

namespace World

/-- A visit is its single task, followed to its end. -/
theorem visit_eq (w : World Client) (v : Visit) :
    let last := Timeline.runFor Client.slow 5 (v.begun w)
    w.visit v = ((last.ended.find? (·.1 == 0)).map (·.2.2), last.world) := by
  intro last
  have run : Timeline.runFor Client.slow (Timeline.fuelFor [v.task])
      (Timeline.ofTasks { w with time := v.time } [v.task]) = last := rfl
  unfold visit runTasks
  dsimp only
  rw [← Visit.task, run]
  show ((last.ended.find? (·.1 == 0)).map (·.2) |>.map (·.2), last.world) = _
  rw [Option.map_map]
  rfl

theorem visit_of_over {w : World Client} {v : Visit} {adapter : Adapter} {e : Emulator}
    {result : v.op.Result}
    (finished : (Timeline.runFor Client.slow 5 (v.begun w)).Over adapter result e) :
    (w.visit v).1 = some result ∧ (w.visit v).2.Serves adapter e := by
  obtain ⟨instant, ended⟩ := finished.ended
  rw [visit_eq, ended]
  exact ⟨rfl, finished.serves⟩

/-- An operation whose plan is carried out as the adapter does it at once. -/
theorem concludes_carryOut {adapter : Adapter} {m : Moment} {op : Operation} {plan : Plan op}
    (planned : adapter.plan m op = plan) (e : Emulator) :
    Concludes adapter m op e (plan.carryOut Emulator.client e).1.result
      (plan.carryOut Emulator.client e).2 := by
  subst planned
  exact .served

theorem concludes_sharedRead {adapter : Adapter} {m : Moment} {key : String} {request : ItemRead}
    (planned : adapter.plan m (.get key) = .sharedRead request) {e e' : Emulator}
    {seen : Sent (.read request)} (sees : Timeline.Sees e (.read request) m.life m.now seen e') :
    Concludes adapter m (.get key) e (seen.outcome.bind Adapter.recordOfFound) e' := by
  cases sees with
  | answered =>
    have atOnce := concludes_carryOut planned e
    dsimp only [Plan.carryOut, Emulator.client] at atOnce
    cases outcome : ((e.noteCall (.read request)).complete (.read request)).1 with
    | ok found =>
      rw [outcome] at atOnce
      exact atOnce
    | error failure =>
      rw [outcome] at atOnce
      exact atOnce
  | stopped reason ends => exact .stopped reason _ ends

theorem concludes_exchange {adapter : Adapter} {m : Moment} {op : Operation} {request : Request}
    {conclude : Except StoreError request.Response → Reply op}
    (planned : adapter.plan m op = .exchange request conclude)
    (failing : ∀ failure, (conclude (.error failure)).result = .error failure) {e e' : Emulator}
    {seen : Sent request} (sees : Timeline.Sees e request m.life m.now seen e') :
    Concludes adapter m op e (conclude seen.outcome).result e' := by
  cases sees with
  | answered =>
    have atOnce := concludes_carryOut planned e
    dsimp only [Plan.carryOut, Emulator.client] at atOnce
    cases outcome : ((e.noteCall request).complete request).1 with
    | ok response =>
      rw [outcome] at atOnce
      exact atOnce
    | error failure =>
      rw [outcome] at atOnce
      exact atOnce
  | stopped reason ends =>
    have cancelled := failing (.cancelled reason)
    rw [Sent.outcome, cancelled]
    exact .stopped reason _ ends

/-- Every visit over the emulator ends, in one of the ways there are, and leaves no read in
flight. -/
theorem visit_adapted {w : World Client} {adapter : Adapter} {e : Emulator}
    (serves : w.Serves adapter e) (v : Visit) :
    ∃ result e', Concludes adapter (v.moment w.now) v.op e result e' ∧
      (w.visit v).1 = some result ∧ (w.visit v).2.Serves adapter e' := by
  obtain ⟨reads, store, empty⟩ := serves
  obtain ⟨time, life, op⟩ := v
  let v : Visit := ⟨time, life, op⟩
  have held : (v.timeline w).world.store = .adapted adapter (.emulator e) reads := store
  have sound := adapter.plan_sound (v.moment w.now) op
  cases planned : adapter.plan (v.moment w.now) op with
  | done reply =>
    have begun : v.begun w = _ :=
      Timeline.beginOperation_done Client.slow 0 held (fun result => (result, [])) planned
    refine ⟨_, _, concludes_carryOut planned e, visit_of_over ?_⟩
    rw [begun]
    exact Timeline.Over.runFor ⟨rfl, ⟨w.now, rfl⟩, ⟨reads, store, empty⟩⟩ 5
  | @sharedRead key request =>
    have begun : v.begun w = _ :=
      Timeline.beginOperation_sharedRead Client.slow 0 held (fun result => (result, [])) planned
    rw [planned] at sound
    obtain ⟨now, seen, e', sees, finished⟩ := Timeline.over_beginSharedRead
      (v.timeline w).world v.task 1 adapter key
      (fun now result => Timeline.tellReply (.get key) adapter.container (.between w.now now)
        (fun result => (result, [])) (.of result)) empty sound request 3
    refine ⟨_, e', concludes_sharedRead planned sees, visit_of_over ?_⟩
    rw [begun]
    exact finished
  | exchange request conclude =>
    have begun : v.begun w = _ :=
      Timeline.beginOperation_exchange Client.slow 0 held (fun result => (result, [])) planned
    rw [planned] at sound
    obtain ⟨now, seen, e', sees, finished⟩ := Timeline.over_beginExchange
      (v.timeline w).world v.task 1 adapter empty
      (fun now sent => Timeline.tellReply op adapter.container (.between w.now now)
        (fun result => (result, [])) (conclude sent.outcome)) sound.1 4
    refine ⟨_, e', concludes_exchange planned sound.2 sees, visit_of_over ?_⟩
    rw [begun]
    exact finished

/-- A visit under a context that outlasts the latency of the emulator is what the adapter does at
once. -/
theorem visit_adapted_of_outlasts {w : World Client} {adapter : Adapter} {e : Emulator}
    (serves : w.Serves adapter e) (v : Visit)
    (outlasts : (v.life w.now).Outlasts (w.now + e.latency)) :
    let done := (adapter.backend Emulator.client).perform (v.moment w.now) v.op e
    (w.visit v).1 = some done.1.result ∧ (w.visit v).2.Serves adapter done.2 := by
  obtain ⟨result, e', concludes, ended, serves'⟩ := w.visit_adapted serves v
  cases concludes with
  | served => exact ⟨ended, serves'⟩
  | stopped reason request ends => exact absurd outlasts ends

/-- A visit of the reference store is what the store does. -/
theorem visit_reference {w : World Client} {container : String} {contents : Reference}
    (store : w.store = .reference container contents) (v : Visit) :
    let done := (Reference.backend container).perform (v.moment w.now) v.op contents
    (w.visit v).1 = some done.1.result ∧ (w.visit v).2.store = .reference container done.2 := by
  intro done
  let last : World Client := { w with time := v.time, store := .reference container done.2 }
  have begun : v.begun w =
      (Timeline.single last v.task 1).finish 0 (Timeline.tellReply v.op container
        (.between w.now w.now) (fun result => (result, [])) done.1) := by
    unfold Visit.begun Visit.timeline Timeline.beginOperation
    dsimp only [Timeline.single]
    rw [store]
    rfl
  rw [visit_eq, begun, Timeline.runFor_of_ended]
  · exact ⟨rfl, rfl⟩
  · exact Nat.le_refl 1

end World

/-! ## Many visits -/

/-- A visit that has ended. -/
structure Answer where
  visit : Visit
  result : visit.op.Result

namespace World

/-- Visits one after the other: how they ended, unless one of them does not, and the world after the
last one. -/
def visitAll : List Visit → World Client → Option (List Answer) × World Client
  | [], w => (some [], w)
  | v :: rest, w =>
    let (result?, w) := w.visit v
    let (answers?, w) := visitAll rest w
    (result?.bind fun result => answers?.map fun answers => ⟨v, result⟩ :: answers, w)

theorem visitAll_cons {v : Visit} {rest : List Visit} {w : World Client} {result : v.op.Result}
    (ended : (w.visit v).1 = some result) :
    (w.visitAll (v :: rest)).1 =
        ((w.visit v).2.visitAll rest).1.map (fun answers => ⟨v, result⟩ :: answers) ∧
      (w.visitAll (v :: rest)).2 = ((w.visit v).2.visitAll rest).2 := by
  constructor
  · show ((w.visit v).1.bind fun result =>
      ((w.visit v).2.visitAll rest).1.map fun answers => ⟨v, result⟩ :: answers) = _
    rw [ended]
    rfl
  · rfl

end World

end RecordStore
