/-
RecordStore.Proofs.Single -- a timeline of a single task

A task that performs one operation over the emulator is followed from its start
to its end.  Its own request, or the read of a key that it alone waits for, is
answered after the latency of the emulator, unless its context ends first
(`Sees`).  Either way the task ends, and no read is in flight afterwards
(`over_beginExchange`, `over_beginSharedRead`).
-/
import RecordStore.Client
import RecordStore.Proofs.SharedRead.Alone

namespace RecordStore

set_option autoImplicit false

open RecordStore.Wire

/-! ## Live contexts -/

namespace Lifespan

/-- The context has not ended at an instant. -/
def Outlasts (life : Lifespan) (time : Instant) : Prop := ∀ t, life.end? = some t → time < t

theorem outlasts_unbounded (time : Instant) : unbounded.Outlasts time :=
  fun _ ends => nomatch ends

/-- A context is live exactly before its end. -/
theorem reason?_eq_none {life : Lifespan} {now : Instant} :
    life.reason? now = none ↔ life.Outlasts now := by
  unfold Outlasts
  obtain ⟨cancelled, deadline⟩ := life
  cases cancelled <;> cases deadline <;>
    simp only [reason?, reached, end?, earlier, decide_eq_true_eq, Option.some.injEq, forall_eq']
  case none.none => simp
  case none.some b => simp
  case some.none a => simp
  case some.some a b =>
    have least : now < min a b ↔ now < a ∧ now < b := Nat.lt_min
    rw [least]
    by_cases h : a ≤ now
    · simp only [h, if_true, reduceCtorEq, false_iff]
      exact fun both => Nat.not_lt.2 h both.1
    · by_cases h' : b ≤ now
      · simp only [h, h', if_true, if_false, reduceCtorEq, false_iff]
        exact fun both => Nat.not_lt.2 h' both.2
      · simp only [h, h', if_false, true_iff]
        exact ⟨Nat.not_le.1 h, Nat.not_le.1 h'⟩

theorem race_of_live {life : Lifespan} {now : Instant} (live : life.reason? now = none)
    (ready : Instant) :
    life.race now (some ready) =
      match life.end? with
      | some t => if t ≤ ready then .interrupted t life.endReason else .finished ready
      | none => .finished ready := by
  unfold race
  rw [live]
  cases life.end? <;> rfl

theorem done?_of_live {life : Lifespan} {now : Instant} (live : life.reason? now = none) :
    life.done? now = life.end?.map fun t => (t, life.endReason) := by
  unfold done?
  rw [live]

end Lifespan

/-- The store is an adapter over the emulator `e`, and no read is in flight. -/
def World.Serves (w : World Client) (adapter : Adapter) (e : Emulator) : Prop :=
  ∃ reads, w.store = .adapted adapter (.emulator e) reads ∧ reads.table = ∅

namespace Timeline

/-- How a task ends at an instant with something it learned. -/
abbrev Teller (ρ α : Type) := Instant → α → ρ × List Notice × List Metrics.Sample

/-! ## Taking what is due -/

section

variable {σ ρ : Type}

theorem runFor_of_ended (slow : SlowClient σ) (fuel : Nat) {t : Timeline σ ρ}
    (ended : t.tasks.length ≤ t.ended.length) : runFor slow fuel t = t := by
  cases fuel with
  | zero => rfl
  | succ fuel => rw [runFor, if_pos ended]

theorem runFor_cons (slow : SlowClient σ) (fuel : Nat) {t : Timeline σ ρ} {due : Due σ}
    {rest : List (Due σ)} (running : ¬ t.tasks.length ≤ t.ended.length)
    (queue : t.queue = due :: rest) :
    runFor slow (fuel + 1) t = runFor slow fuel
      (({ t with queue := rest, world := { t.world with now := due.time } } :
        Timeline σ ρ).handle slow due.event) := by
  rw [runFor, if_neg running, queue]

@[simp] theorem finish_store (t : Timeline σ ρ) (task : Nat)
    (result : ρ × List Notice × List Metrics.Sample) :
    (t.finish task result).world.store = t.world.store := rfl

@[simp] theorem finish_readers (t : Timeline σ ρ) (task : Nat)
    (result : ρ × List Notice × List Metrics.Sample) :
    (t.finish task result).readers = t.readers := rfl

/-- A timeline of one task, with nothing due. -/
def single (w : World σ) (task : Task σ ρ) (noted : Nat) : Timeline σ ρ :=
  ⟨w, [task], [], noted, [], [], []⟩

end

variable {ρ : Type} {w : World Client} {task : Task Client ρ} {noted : Nat} {adapter : Adapter}
  {reads : SharedRead.State} {queue : List (Due Client)} {e : Emulator}

/-- The only task has ended with a value, and the store serves from `e`. -/
structure Over (t : Timeline Client ρ) (adapter : Adapter) (value : ρ) (e : Emulator) : Prop where
  tasks : t.tasks.length = 1
  ended : ∃ instant, t.ended = [(0, instant, value)]
  serves : t.world.Serves adapter e

theorem Over.runFor {t : Timeline Client ρ} {value : ρ} (finished : t.Over adapter value e)
    (fuel : Nat) : (runFor Client.slow fuel t).Over adapter value e := by
  obtain ⟨instant, ended⟩ := finished.ended
  have done : t.tasks.length ≤ t.ended.length := by
    rw [finished.tasks, ended]
    exact Nat.le_refl 1
  rw [runFor_of_ended _ _ done]
  exact finished

/-- What becomes of a request that leaves at an instant: it is answered, or the context ends before
that, and then the request was counted. -/
inductive Sees (e : Emulator) (request : Request) (life : Lifespan) (now : Instant) :
    Sent request → Emulator → Prop
  | answered : Sees e request life now (.answered ((e.noteCall request).complete request).1)
      ((e.noteCall request).complete request).2
  | stopped (reason : StopReason) (ends : ¬ life.Outlasts (now + e.latency)) :
      Sees e request life now (.stopped reason) (e.noteCall request)

/-! ## A request of the task -/

/-- The request of the task has left. -/
def sent (w : World Client) (task : Task Client ρ) (noted : Nat) (adapter : Adapter)
    (reads : SharedRead.State) (queue : List (Due Client)) (e : Emulator) (request : Request)
    (tell : Teller ρ (Sent request)) : Timeline Client ρ :=
  ⟨{ w with
      store := .adapted adapter (.emulator (e.noteCall request)) reads
      requests := w.requests ++ [request] },
    [task], queue, noted, [], [⟨0, request, Client.emulated e.latency request, tell⟩], []⟩

section

variable (empty : reads.table = ∅) {request : Request} (tell : Teller ρ (Sent request))

theorem beginExchange_interrupted {life : Lifespan} {t : Instant} {reason : StopReason}
    (raced : life.race w.now (some (w.now + e.latency)) = .interrupted t reason) :
    beginExchange Client.slow (single w task noted) 0 adapter (.emulator e) reads life request tell =
      (sent w task noted adapter reads [] e request tell).note t (.interrupted 0 reason) := by
  dsimp only [beginExchange, Client.slow, Client.dispatch, Client.emulated, single]
  rw [raced]
  rfl

theorem beginExchange_finished {life : Lifespan} {t : Instant}
    (raced : life.race w.now (some (w.now + e.latency)) = .finished t) :
    beginExchange Client.slow (single w task noted) 0 adapter (.emulator e) reads life request tell =
      if e.latency = 0 then (sent w task noted adapter reads [] e request tell).receiveOwn 0
      else (sent w task noted adapter reads [] e request tell).note t (.exchanged 0) := by
  dsimp only [beginExchange, Client.slow, Client.dispatch, Client.emulated, single]
  rw [raced]
  rfl

include empty

theorem over_receiveOwn :
    ((sent w task noted adapter reads queue e request tell).receiveOwn 0).Over adapter
      (tell w.now (.answered ((e.noteCall request).complete request).1)).1
      ((e.noteCall request).complete request).2 :=
  ⟨rfl, ⟨w.now, rfl⟩, ⟨reads, rfl, empty⟩⟩

theorem over_interrupt (reason : StopReason) :
    ((sent w task noted adapter reads queue e request tell).interrupt 0 reason).Over adapter
      (tell w.now (.stopped reason)).1 (e.noteCall request) :=
  ⟨rfl, ⟨w.now, rfl⟩, ⟨reads, rfl, empty⟩⟩

variable (w task noted adapter) in
/-- Left alone, the request is answered after the latency of the emulator. -/
theorem over_answered (fuel : Nat) :
    ∃ now, (runFor Client.slow (fuel + 1)
        (if e.latency = 0 then (sent w task noted adapter reads [] e request tell).receiveOwn 0
          else (sent w task noted adapter reads [] e request tell).note (w.now + e.latency)
            (.exchanged 0))).Over adapter
      (tell now (.answered ((e.noteCall request).complete request).1)).1
      ((e.noteCall request).complete request).2 := by
  split
  · exact ⟨w.now, (over_receiveOwn empty tell).runFor (fuel + 1)⟩
  · refine ⟨w.now + e.latency, ?_⟩
    rw [runFor_cons Client.slow fuel (by exact Nat.not_succ_le_zero 0) rfl]
    exact (over_receiveOwn (w := { w with now := w.now + e.latency }) empty tell).runFor fuel

variable (w task noted adapter) in
theorem over_beginExchange {life : Lifespan} (live : life.reason? w.now = none) (fuel : Nat) :
    ∃ now seen e', Sees e request life w.now seen e' ∧
      (runFor Client.slow (fuel + 1) (beginExchange Client.slow (single w task noted) 0 adapter
        (.emulator e) reads life request tell)).Over adapter (tell now seen).1 e' := by
  have raced := Lifespan.race_of_live live (w.now + e.latency)
  obtain ⟨now, finished⟩ := over_answered w task noted adapter empty tell fuel
  cases ends : life.end? with
  | none =>
    rw [ends] at raced
    rw [beginExchange_finished tell raced]
    exact ⟨now, _, _, .answered, finished⟩
  | some t =>
    rw [ends] at raced
    by_cases first : t ≤ w.now + e.latency
    · rw [beginExchange_interrupted tell (raced.trans (if_pos first))]
      have ended : ¬ life.Outlasts (w.now + e.latency) :=
        fun outlasts => absurd first (Nat.not_le.2 (outlasts t ends))
      refine ⟨t, _, _, .stopped life.endReason ended, ?_⟩
      rw [runFor_cons Client.slow fuel (by exact Nat.not_succ_le_zero 0) rfl]
      exact (over_interrupt (w := { w with now := t }) empty tell life.endReason).runFor fuel
    · rw [beginExchange_finished tell (raced.trans (if_neg first))]
      exact ⟨now, _, _, .answered, finished⟩

end

/-! ## A read that the task alone waits for -/

/-- The task waits for the read of its key. -/
def reading (w : World Client) (task : Task Client ρ) (noted : Nat) (adapter : Adapter)
    (reads : SharedRead.State) (key : String) (queue : List (Due Client)) (e : Emulator)
    (tell : Teller ρ SharedRead.Result) : Timeline Client ρ :=
  ⟨{ w with
      store := .adapted adapter (.emulator e) (reads.alone ⟨key, 1, false, .reading⟩ none
        ((∅ : Dict SharedRead.CallId).insert key reads.calls.length)) },
    [task], queue, noted, [⟨reads.callers.length, 0, tell⟩], [], []⟩

theorem endingOf_ne_aborted (outcome : Option (Except WireError ItemFound)) :
    endingOf outcome ≠ .aborted := by
  unfold endingOf
  split <;> exact SharedRead.Ending.noConfusion

/-- A shared read gives the record that its request finds. -/
theorem endingOf_result (outcome : Except WireError ItemFound) (request : ItemRead) :
    (endingOf (some outcome)).result =
      (Sent.answered (r := .read request) outcome).outcome.bind Adapter.recordOfFound := by
  cases outcome <;> rfl

section

variable {key : String} (tell : Teller ρ SharedRead.Result)

open SharedRead (State Ending)

theorem isReading_alone :
    isReading (reads.alone ⟨key, 1, false, .reading⟩ none
      ((∅ : Dict SharedRead.CallId).insert key reads.calls.length)) reads.calls.length = true := by
  rw [isReading, State.alone_calls_getElem?]

theorem note_reading (time : Instant) (event : Event Client) :
    (reading w task noted adapter reads key queue e tell).note time event =
      reading w task (noted + 1) adapter reads key (enqueue ⟨time, noted, event⟩ queue) e tell :=
  rfl

theorem over_publish {ending : Ending} (own : ending ≠ .aborted) :
    ((reading w task noted adapter reads key queue e tell).publish reads.calls.length
      ending).Over adapter (tell w.now ending.result).1 e := by
  have waiting : waitingFor (reads.alone ⟨key, 1, false, .published ending.result⟩ none ∅)
      reads.calls.length [⟨reads.callers.length, 0, tell⟩] =
        [⟨reads.callers.length, 0, tell⟩] := by
    simp [waitingFor, State.waitsFor?_alone]
  unfold publish
  dsimp only [reading]
  rw [State.step?_finish_alone own]
  dsimp only [advanceReads]
  rw [State.step?_publish_alone]
  dsimp only [Option.getD_some]
  rw [waiting]
  dsimp only [List.foldl_cons, List.foldl_nil]
  rw [State.step?_answer_alone]
  exact ⟨rfl, ⟨w.now, rfl⟩, ⟨_, rfl, rfl⟩⟩

theorem over_receive (latency : Nat) (request : ItemRead) :
    ((reading w task noted adapter reads key queue e tell).receive reads.calls.length
      (Client.emulated latency (.read request))).Over adapter
      (tell w.now (endingOf (some (e.complete (.read request)).1)).result).1
      (e.complete (.read request)).2 := by
  unfold receive
  dsimp only [reading]
  rw [if_pos isReading_alone]
  exact over_publish tell (endingOf_ne_aborted _)

/-- The task leaves, and as nobody else waits for the read, it is aborted. -/
theorem over_stopReader (reason : StopReason) :
    ((reading w task noted adapter reads key queue e tell).stopReader reads.callers.length
      reason).Over adapter (tell w.now (.error (.cancelled reason))).1 e := by
  have found : [(⟨reads.callers.length, 0, tell⟩ : Reader ρ)].find?
      (·.caller == reads.callers.length) = some ⟨reads.callers.length, 0, tell⟩ := by
    simp
  have nobody : waitingFor (reads.alone ⟨key, 0, true, .published Ending.aborted.result⟩
      (some (.stopped reason)) ∅) reads.calls.length
      [(⟨reads.callers.length, 0, tell⟩ : Reader ρ)] = [] := by
    simp [waitingFor, State.waitsFor?, State.alone]
  unfold stopReader
  dsimp only [reading]
  rw [found]
  dsimp only
  rw [State.waitsFor?_alone, State.step?_stop_alone]
  dsimp only [abortIfCancelled]
  rw [finish_store]
  dsimp only
  rw [State.alone_calls_getElem?]
  dsimp only
  rw [if_pos rfl]
  unfold publish
  rw [finish_store]
  dsimp only
  rw [State.step?_abort_alone]
  dsimp only [advanceReads]
  rw [State.step?_publish_alone]
  dsimp only [Option.getD_some]
  rw [finish_readers, nobody]
  exact ⟨rfl, ⟨w.now, rfl⟩, ⟨_, rfl, rfl⟩⟩

/-- The request leaves: its answer arrives now, or after the latency. -/
theorem runFor_send (request : ItemRead) (fuel : Nat) {time number : Nat}
    {rest : List (Due Client)} :
    runFor Client.slow (fuel + 1) (reading w task noted adapter reads key
        (⟨time, number, .send reads.calls.length request⟩ :: rest) e tell) =
      (let left := reading { w with now := time, requests := w.requests ++ [.read request] } task
        noted adapter reads key rest (e.noteCall (.read request)) tell
      let exchange := Client.emulated e.latency (.read request)
      runFor Client.slow fuel (if e.latency = 0 then left.receive reads.calls.length exchange
        else left.note (time + e.latency) (.arrived reads.calls.length request exchange))) := by
  rw [runFor_cons Client.slow fuel (by exact Nat.not_succ_le_zero 0) rfl]
  dsimp only [handle, send, reading]
  rw [if_pos isReading_alone]
  rfl

theorem over_arrived (request : ItemRead) (latency fuel : Nat) {time number : Nat}
    {rest : List (Due Client)} :
    (runFor Client.slow (fuel + 1) (reading w task noted adapter reads key
      (⟨time, number, .arrived reads.calls.length request
        (Client.emulated latency (.read request))⟩ :: rest) e tell)).Over adapter
      (tell time ((Sent.answered (r := .read request) (e.complete (.read request)).1).outcome.bind
        Adapter.recordOfFound)).1
      (e.complete (.read request)).2 := by
  rw [runFor_cons Client.slow fuel (by exact Nat.not_succ_le_zero 0) rfl, ← endingOf_result]
  exact (over_receive (w := { w with now := time }) tell latency request).runFor fuel

theorem over_stopped (reason : StopReason) (fuel : Nat) {time number : Nat}
    {rest : List (Due Client)} :
    (runFor Client.slow (fuel + 1) (reading w task noted adapter reads key
      (⟨time, number, .stopped reads.callers.length reason⟩ :: rest) e tell)).Over adapter
      (tell time (.error (.cancelled reason))).1 e := by
  rw [runFor_cons Client.slow fuel (by exact Nat.not_succ_le_zero 0) rfl]
  exact (over_stopReader (w := { w with now := time }) tell reason).runFor fuel

/-- A caller that finds no read in flight starts one, and its request is due at once. -/
theorem beginSharedRead_eq (empty : reads.table = ∅) {life : Lifespan}
    (live : life.reason? w.now = none) (request : ItemRead) :
    let begun := reading w task (noted + 1) adapter reads key
      [⟨w.now, noted, .send reads.calls.length request⟩] e tell
    beginSharedRead (single w task noted) 0 adapter (.emulator e) reads life key request tell =
      life.end?.elim begun fun t =>
        begun.note t (.stopped reads.callers.length life.endReason) := by
  intro begun
  have missing : reads.table.get? key = none := by
    rw [empty]
    exact Dict.get?_empty key
  have done := Lifespan.done?_of_live live
  unfold beginSharedRead
  rw [State.arrive_eq_alone empty, missing]
  dsimp only
  split
  · next time reason stops =>
    obtain ⟨t, ends, same⟩ := Option.map_eq_some_iff.1 (done.symm.trans stops)
    obtain ⟨rfl, rfl⟩ := Prod.mk.inj same
    rw [ends]
    rfl
  · next unending =>
    rw [Option.map_eq_none_iff.1 (done.symm.trans unending)]
    rfl

variable (w task noted adapter key) in
theorem over_beginSharedRead (empty : reads.table = ∅) {life : Lifespan}
    (live : life.reason? w.now = none) (request : ItemRead) (fuel : Nat) :
    ∃ now seen e', Sees e (.read request) life w.now seen e' ∧
      (runFor Client.slow (fuel + 2) (beginSharedRead (single w task noted) 0 adapter (.emulator e)
        reads life key request tell)).Over adapter
        (tell now (seen.outcome.bind Adapter.recordOfFound)).1 e' := by
  rw [beginSharedRead_eq tell empty live]
  cases ends : life.end? with
  | none =>
    refine ⟨w.now + e.latency, _, _, .answered, ?_⟩
    rw [Option.elim_none, runFor_send]
    dsimp only
    split
    · next atOnce =>
      rw [← endingOf_result, atOnce]
      exact (over_receive tell 0 request).runFor _
    · exact over_arrived tell request e.latency fuel
  | some t =>
    -- the request leaves before the context ends, and then the two race
    have order : ¬ t < w.now :=
      Nat.not_lt.2 (Nat.le_of_lt (Lifespan.reason?_eq_none.1 live t ends))
    rw [Option.elim_some, note_reading, enqueue, if_neg order, enqueue, runFor_send]
    dsimp only
    split
    · next atOnce =>
      refine ⟨w.now + e.latency, _, _, .answered, ?_⟩
      rw [← endingOf_result, atOnce]
      exact (over_receive tell 0 request).runFor _
    · by_cases first : w.now + e.latency < t
      · refine ⟨w.now + e.latency, _, _, .answered, ?_⟩
        rw [note_reading, enqueue, if_pos first]
        exact over_arrived tell request e.latency fuel
      · refine ⟨t, _, _, .stopped life.endReason fun outlasts => first (outlasts t ends), ?_⟩
        rw [note_reading, enqueue, if_neg first]
        exact over_stopped tell life.endReason fuel

end

end Timeline

end RecordStore
