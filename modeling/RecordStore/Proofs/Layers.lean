/-
RecordStore.Proofs.Layers -- layers around a store make no difference

Every layer hands an operation on once and gives back what it gets, so a store
with layers does what the store does, whatever the sinks do
(`Backend.perform_layered`, by induction over the layers).  A plain call of a layer
is a call under a context that never ends, and reaches the store as one; so layers
make no difference to a store that means the same by a plain call
(`Backend.Uniform`), and to no other (`Backend.uniform_of_transparent`).  From the
single calls the runs follow (`Backend.callAll_layered`, by induction over the
calls).  As this is so for every such store, it is so for one that keeps a log of what
it is asked and of the states it is in (`Backend.watched`): the log is the same as
well.  The stores of a world are wrapped in the same way (`World.report_layered`), and
there the wrappers can be taken away even while operations overlap
(`layers_transparent`).
-/
import RecordStore.Layers
import RecordStore.Proofs.Timeline.Unmetered

namespace RecordStore

set_option autoImplicit false

open RecordStore.Metrics

variable {σ μ : Type}

/-! ## Calls -/

/-- A plain call is made under a context that never ends. -/
theorem Invocation.life_plain (now : Instant) (time : Timestamp) (forest : TokenForest)
    (op : Operation) : Invocation.life ⟨now, time, forest, .plain, op⟩ = .unbounded := by
  have never : TokenForest.cancelledAtIn? (⟨none, none⟩ :: forest.newestFirst)
      forest.newestFirst.length = none := by
    rw [TokenForest.cancelledAtIn?, if_pos rfl]
    rfl
  exact congrArg (Lifespan.mk · none) never

/-! ## Stores that are called plainly -/

namespace Backend

/-- A plain call of the store is a call under a context that never ends. -/
def Uniform (b : Backend σ) : Prop :=
  ∀ now time op s, b.plain now time op s = b.perform ⟨now, time, .unbounded⟩ op s

/-- A uniform store performs the operation of a call, whichever way it is called. -/
theorem call_eq_perform {b : Backend σ} (uniform : b.Uniform) (c : Invocation) (s : σ) :
    b.call c s = b.perform c.moment c.op s := by
  obtain ⟨now, time, forest, form, op⟩ := c
  cases form with
  | under ctx => rfl
  | plain =>
    rw [Invocation.moment, Invocation.life_plain]
    exact uniform now time op s

end Backend

/-- The stores of this library have no way of their own to answer plain calls. -/
theorem Reference.uniform_backend (container : String) : (backend container).Uniform :=
  fun _ _ _ _ => rfl

theorem Adapter.uniform_backend (a : Adapter) (client : WireClient σ) :
    (a.backend client).Uniform := fun _ _ _ _ => rfl

/-- Nor has a layer, whatever it is put around. -/
theorem Layer.uniform_around (layer : Layer μ) (inner : Backend (σ × μ)) :
    (layer.around inner).Uniform := by
  cases layer <;> exact fun _ _ _ _ => rfl

/-! ## Layers -/

namespace Backend

variable (b : Backend σ) (layers : List (Layer μ))

theorem container_layered : (b.layered layers).container = b.container := by
  induction layers with
  | nil => rfl
  | cons layer rest ih => cases layer <;> exact ih

/-- What a store with layers does beside reporting is what the store does. -/
theorem perform_layered (m : Moment) (op : Operation) (s : σ) (sinks : μ) :
    let done := (b.layered layers).perform m op (s, sinks)
    (done.1, done.2.1) = b.perform m op s := by
  induction layers with
  | nil => rfl
  | cons layer rest ih => cases layer <;> exact ih

/-- Behind a layer every store is asked to perform the operation, whichever way the layer is
called. -/
theorem call_layered_cons (layer : Layer μ) (c : Invocation) (s : σ) (sinks : μ) :
    let done := (b.layered (layer :: layers)).call c (s, sinks)
    (done.1, done.2.1) = b.perform c.moment c.op s := by
  have uniform : (b.layered (layer :: layers)).Uniform := layer.uniform_around (b.layered layers)
  rw [call_eq_perform uniform]
  exact b.perform_layered (layer :: layers) c.moment c.op s sinks

section

variable {b} (uniform : b.Uniform)

include uniform

/-- Layers around a uniform store make a uniform store. -/
theorem uniform_layered : (b.layered layers).Uniform := by
  cases layers with
  | nil =>
    intro now time op s
    exact congrArg (fun done => (done.1, (done.2, s.2))) (uniform now time op s.1)
  | cons layer rest => exact layer.uniform_around (b.layered rest)

theorem call_layered (c : Invocation) (s : σ) (sinks : μ) :
    let done := (b.layered layers).call c (s, sinks)
    (done.1, done.2.1) = b.call c s := by
  rw [call_eq_perform (uniform_layered layers uniform), call_eq_perform uniform]
  exact b.perform_layered layers c.moment c.op s sinks

theorem callAll_layered (calls : List Invocation) (s : σ) (sinks : μ) :
    let done := (b.layered layers).callAll calls (s, sinks)
    (done.1, done.2.1) = b.callAll calls s := by
  induction calls generalizing s sinks with
  | nil => rfl
  | cons c rest ih =>
    have one := call_layered layers uniform c s sinks
    have others := ih (b.call c s).2 ((b.layered layers).call c (s, sinks)).2.2
    have reply := congrArg Prod.fst one
    have next := congrArg Prod.snd one
    dsimp only at reply next others ⊢
    rw [callAll, callAll]
    dsimp only
    rw [reply, ← others, ← next]

end

/-- A metered store is a store with one layer. -/
theorem layered_metered (record : μ → Sample → μ) (elapsed : Moment → Operation → Duration) :
    b.layered [.metered record elapsed] = metered b record elapsed := rfl

/-! ### What the store inside goes through -/

/-- An operation that a store was asked to perform, and the state in which it was. -/
structure Seen (σ : Type) where
  moment : Moment
  op : Operation
  before : σ

/-- A store that keeps a log of what it sees. -/
def watched : Backend (σ × List (Seen σ)) where
  container := b.container
  perform m op s :=
    let (reply, next) := b.perform m op s.1
    (reply, (next, s.2 ++ [⟨m, op, s.1⟩]))
  plain now time op s :=
    let (reply, next) := b.plain now time op s.1
    (reply, (next, s.2 ++ [⟨⟨now, time, .unbounded⟩, op, s.1⟩]))

/-- What a store sees of calls made one after the other. -/
def sight : List Invocation → σ → List (Seen σ)
  | [], _ => []
  | c :: rest, s => ⟨c.moment, c.op, s⟩ :: sight rest (b.call c s).2

theorem uniform_watched {b : Backend σ} (uniform : b.Uniform) : b.watched.Uniform := by
  intro now time op s
  exact congrArg (fun done =>
    (done.1, (done.2, s.2 ++ [⟨⟨now, time, .unbounded⟩, op, s.1⟩]))) (uniform now time op s.1)

theorem call_watched (c : Invocation) (s : σ) (log : List (Seen σ)) :
    b.watched.call c (s, log) =
      ((b.call c s).1, ((b.call c s).2, log ++ [⟨c.moment, c.op, s⟩])) := by
  obtain ⟨now, time, forest, form, op⟩ := c
  cases form with
  | under ctx => rfl
  | plain =>
    rw [Invocation.moment, Invocation.life_plain]
    rfl

theorem callAll_watched (calls : List Invocation) (s : σ) (log : List (Seen σ)) :
    b.watched.callAll calls (s, log) =
      ((b.callAll calls s).1, ((b.callAll calls s).2, log ++ b.sight calls s)) := by
  induction calls generalizing s log with
  | nil => rw [sight, List.append_nil]; rfl
  | cons c rest ih =>
    rw [callAll, callAll, sight]
    dsimp only
    rw [b.call_watched, ih, List.append_assoc]
    rfl

end Backend

/-! ## The wrappers of a world -/

/-- What a metered layer does to the sinks, after the layers inside. -/
theorem Backend.sinks_layered_metered (b : Backend σ) (layers : List (Layer μ))
    (record : μ → Sample → μ) (elapsed : Moment → Operation → Duration) (m : Moment)
    (op : Operation) (s : σ) (sinks : μ) :
    ((b.layered (.metered record elapsed :: layers)).perform m op (s, sinks)).2.2 =
      (samples b.container (elapsed m op) op (b.perform m op s).1.result).foldl record
        ((b.layered layers).perform m op (s, sinks)).2.2 := by
  have reply : ((b.layered layers).perform m op (s, sinks)).1 = (b.perform m op s).1 :=
    congrArg Prod.fst (b.perform_layered layers m op s sinks)
  rw [← reply, ← b.container_layered layers]
  rfl

namespace World

variable (w : World σ) (elapsed : Moment → Operation → Duration)

/-- The wrapper that reports to the meter, and the others. -/
def meterLayer : Layer (Option Meter × List Sample) :=
  .metered (fun sinks x => (sinks.1.map (·.record x), sinks.2)) elapsed

def listLayer : Layer (Option Meter × List Sample) :=
  .metered (fun sinks x => (sinks.1, sinks.2 ++ [x])) elapsed

/-- The wrappers around the store of a world, as layers over its meter and its list of samples. -/
def layers : List (Layer (Option Meter × List Sample)) :=
  List.replicate w.reporters (listLayer elapsed) ++ [meterLayer elapsed]

theorem foldl_meterLayer (reported : List Sample) (meter? : Option Meter) (listed : List Sample) :
    reported.foldl (fun sinks x => (sinks.1.map (·.record x), sinks.2)) (meter?, listed) =
      (meter?.map fun m => reported.foldl Meter.record m, listed) := by
  induction reported generalizing meter? with
  | nil => cases meter? <;> rfl
  | cons x rest ih =>
    rw [List.foldl_cons, ih]
    cases meter? <;> rfl

theorem foldl_listLayer (reported : List Sample) (meter? : Option Meter) (listed : List Sample) :
    reported.foldl (fun sinks x => (sinks.1, sinks.2 ++ [x])) (meter?, listed) =
      (meter?, listed ++ reported) := by
  induction reported generalizing listed with
  | nil => rw [List.append_nil]; rfl
  | cons x rest ih => rw [List.foldl_cons, ih, List.append_assoc, List.singleton_append]

/-- What a world reports of an operation is what the layers around its store do to its sinks. -/
theorem report_layered (b : Backend μ) (m : Moment) (op : Operation) (s : μ) :
    let reported := Timeline.report w
      (Metrics.samples b.container (elapsed m op) op (b.perform m op s).1.result)
    ((b.layered (w.layers elapsed)).perform m op (s, (w.meter?, w.samples))).2.2 =
      (reported.meter?, reported.samples) := by
  intro reported
  let told := Metrics.samples b.container (elapsed m op) op (b.perform m op s).1.result
  have listed (n : Nat) :
      ((b.layered (List.replicate n (listLayer elapsed) ++ [meterLayer elapsed])).perform m op
          (s, (w.meter?, w.samples))).2.2 =
        (w.meter?.map fun meter => told.foldl Meter.record meter,
          w.samples ++ (List.replicate n told).flatten) := by
    induction n with
    | zero =>
      have metered := b.sinks_layered_metered []
        (fun sinks x => (sinks.1.map (·.record x), sinks.2)) elapsed m op s (w.meter?, w.samples)
      rw [List.replicate_zero, List.replicate_zero, List.flatten_nil, List.append_nil]
      exact metered.trans (foldl_meterLayer told w.meter? w.samples)
    | succ n ih =>
      rw [List.replicate_succ, List.cons_append, listLayer, b.sinks_layered_metered, ← listLayer,
        ih, foldl_listLayer, List.replicate_succ', List.flatten_concat, List.append_assoc]
  exact listed w.reporters

end World

/-! ## Transparency -/

/-- Visits are what they are without the wrappers. -/
theorem World.unmetered_visitAll (visits : List Visit) (w : World Client) :
    (w.visitAll visits).1 = (w.unmetered.visitAll visits).1 ∧
      (w.visitAll visits).2.unmetered = (w.unmetered.visitAll visits).2 := by
  induction visits generalizing w with
  | nil => exact ⟨rfl, rfl⟩
  | cons v rest ih =>
    have unaware : ∀ task ∈ [v.task], task.activity.Unaware := fun task member => by
      rw [List.mem_singleton.1 member]
      trivial
    obtain ⟨ends, after⟩ := World.unmetered_runTasks Client.slow { w with time := v.time } unaware
    have result : (w.visit v).1 = (w.unmetered.visit v).1 :=
      congrArg (fun ends => ends.head?.join.map (·.2)) ends
    have next : (w.visit v).2.unmetered = (w.unmetered.visit v).2 := after
    obtain ⟨answers, last⟩ := ih (w.visit v).2
    rw [next] at answers last
    rw [visitAll, visitAll]
    dsimp only
    rw [result, answers]
    exact ⟨rfl, last⟩

/-- Layers around a store make no difference to those who call it, nor to the store. -/
structure Transparent (b : Backend σ) (layers : List (Layer μ)) : Prop where
  container : (b.layered layers).container = b.container
  /-- A call has the same reply, and takes the store inside to the same state. -/
  call (c : Invocation) (s : σ) (sinks : μ) :
    let done := (b.layered layers).call c (s, sinks)
    (done.1, done.2.1) = b.call c s
  /-- So have calls made one after the other. -/
  calls (calls : List Invocation) (s : σ) (sinks : μ) :
    let done := (b.layered layers).callAll calls (s, sinks)
    (done.1, done.2.1) = b.callAll calls s
  /-- The store inside sees the same operations, each once and in the same order, in the same
  states. -/
  seen (calls : List Invocation) (s : σ) (sinks : μ) :
    let logged := (b.watched.layered layers).callAll calls ((s, []), sinks)
    (logged.1, logged.2.1) =
      ((b.callAll calls s).1, ((b.callAll calls s).2, b.sight calls s))
  /-- A plain call is a call under a context of its own, which never ends. -/
  plain (now : Instant) (time : Timestamp) (forest : TokenForest) (op : Operation) (s : σ × μ) :
    let (ctx, grown) := Context.root forest none
    (b.layered layers).call ⟨now, time, forest, .plain, op⟩ s =
      (b.layered layers).call ⟨now, time, grown, .under ctx, op⟩ s

/-- A store with a way of its own to answer plain calls is not asked in this way behind a layer, so a
layer around it makes a difference. -/
theorem Backend.uniform_of_transparent {b : Backend σ} {layer : Layer μ}
    (transparent : Transparent b [layer]) (sinks : μ) : b.Uniform := by
  intro now time op s
  let c : Invocation := ⟨now, time, .empty, .plain, op⟩
  have performed := b.call_layered_cons [] layer c s sinks
  rw [Invocation.moment, Invocation.life_plain] at performed
  exact (transparent.call c s sinks).symm.trans performed

/-- **Layers are transparent.**  Whatever the layers and the sinks are, calls of either form have the
replies that they have without the layers, and the store inside goes through the same.  The store
may be any that means by a plain call what a store is to mean by it.  In a world, where operations
take time, the wrappers make no difference either. -/
theorem layers_transparent (b : Backend σ) (uniform : b.Uniform) (layers : List (Layer μ)) :
    Transparent b layers ∧
      ∀ (visits : List Visit) (w : World Client),
        (w.visitAll visits).1 = (w.unmetered.visitAll visits).1 ∧
          (w.visitAll visits).2.unmetered = (w.unmetered.visitAll visits).2 where
  left :=
    { container := b.container_layered layers
      call := Backend.call_layered layers uniform
      calls := Backend.callAll_layered layers uniform
      seen := fun calls s sinks => by
        have logged := Backend.callAll_layered layers (Backend.uniform_watched uniform) calls (s, [])
          sinks
        rwa [b.callAll_watched, List.nil_append] at logged
      plain := fun now time forest op s => by
        have same := Backend.uniform_layered layers uniform
        rw [Backend.call_eq_perform same, Invocation.moment, Invocation.life_plain]
        exact congrArg (fun life => (b.layered layers).perform ⟨now, time, life⟩ op s)
          (Invocation.life_plain now time forest op).symm }
  right := World.unmetered_visitAll

/-- A pointer around a metered store around a pointer: a plain call that saves a record, a call under
a context that is over, and two plain calls of which one is a miss. -/
theorem layers_transparent_calls :
    let b := Reference.backend "users"
    let layers : List (Layer (List Sample)) := [.pointer .boxed,
      .metered (fun sinks x => sinks ++ [x]) (fun _ _ => .ofMillis 0), .pointer .shared]
    let record := Record.ofText "a" "1" none
    let calls : List Invocation := [⟨0, 0, .empty, .plain, .save "a" (some record)⟩,
      ⟨5, 0, .empty, .under ⟨0, some 5⟩, .get "a"⟩, ⟨5, 0, .empty, .plain, .get "a"⟩,
      ⟨5, 0, .empty, .plain, .get "b"⟩]
    let done := (b.layered layers).callAll calls (∅, [])
    b.Uniform ∧ Transparent b layers ∧ (done.1, done.2.1) = b.callAll calls ∅ ∧
      done.1 = [⟨.save "a" (some record), .of (.ok ())⟩,
        ⟨.get "a", .of (.error (.cancelled .deadlineExceeded))⟩, ⟨.get "a", .of (.ok record)⟩,
        ⟨.get "b", .of (.error .keyNotFound)⟩] ∧
      done.2.2 = single "users" .save .save (.ofMillis 0) ++ single "users" .get .error (.ofMillis 0)
        ++ single "users" .get .hit (.ofMillis 0) ++ single "users" .get .miss (.ofMillis 0) := by
  intro b layers record calls done
  have uniform : b.Uniform := Reference.uniform_backend "users"
  have transparent := (layers_transparent b uniform layers).1
  exact ⟨uniform, transparent, transparent.calls calls ∅ [], rfl, rfl⟩

/-- A pointer hides that a store refuses plain calls. -/
theorem plainRefused_hidden :
    let b : Backend Nat :=
      { container := "users"
        perform := fun _ _ s => (.of (.error .keyNotFound), s + 1)
        plain := fun _ _ _ s => (.of (.error .emptyKey), s) }
    let pointer : Layer Unit := .pointer .shared
    let c : Invocation := ⟨0, 0, .empty, .plain, .get "a"⟩
    b.call c 0 = (.of (.error .emptyKey), 0) ∧
      (b.layered [pointer]).call c (0, ()) = (.of (.error .keyNotFound), (1, ())) ∧
      ¬ Transparent b [pointer] := by
  intro b pointer c
  refine ⟨rfl, rfl, fun transparent => ?_⟩
  have same := congrArg Prod.snd (transparent.call c 0 ())
  cases same

end RecordStore
