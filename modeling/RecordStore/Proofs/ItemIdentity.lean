/-
RecordStore.Proofs.ItemIdentity -- what is kept under a key is about the key

An emulator changes in few ways (`Emulator.Step`): calls are counted, carried out
or refused, batches of writes are carried out in whatever order of their tables
and stop at the first item that is refused, items come in without a request, and
failures are told and taken back.  Each of them keeps every item under its own
key (`Emulator.keyed_of_step`), so in every emulator that is reached from an empty
one the string attribute `key` of an item is the key under which it is found.
The adapter takes the key of a record from that attribute, so what it reads under
a key has the key (`itemIdentity_of_reached`).
-/
import RecordStore.Proofs.DistinctKeys
import RecordStore.Proofs.OnlyRequested
import RecordStore.Proofs.Staleness
import RecordStore.Proofs.Visit

namespace RecordStore

set_option autoImplicit false

open RecordStore.Wire

/-! ## Emulators that are reached -/

namespace Emulator

/-- How an emulator changes. -/
inductive Step : Emulator → Emulator → Prop
  | called (e : Emulator) (request : Request) : Step e (e.noteCall request)
  | completed (e : Emulator) (request : Request) : Step e (e.complete request).2
  /-- A batch of writes may take its tables in any order. -/
  | batch (e : Emulator) (request : BatchWrite) (writes : List (String × List WriteEntry))
      (perm : writes.Perm request.tables.entries) :
      Step e { e with tables := (putTables writes e.tables).2, lastBatchWrite? := some request }
  | inserted (e : Emulator) (name : String) (item : Item) : Step e (e.insertItem name item).2
  | told (e : Emulator) (failure? : Option String) : Step e { e with failure? }

/-- An empty emulator comes to be this one. -/
inductive Reached (latency : Nat) : Emulator → Prop
  | empty : Reached latency (empty latency)
  | step {e e' : Emulator} (before : Reached latency e) (step : Step e e') : Reached latency e'

theorem keyed_insertItem {e : Emulator} (keyed : e.Keyed) (name : String) (item : Item) :
    (e.insertItem name item).2.Keyed := by
  unfold insertItem
  split
  · next key own =>
    exact keyedTables_insert keyed (keyedTable_insert (keyedTable_getD keyed name) own) name
  · exact keyed

/-- Whatever happens, every item stays under its own key. -/
theorem keyed_of_step {e e' : Emulator} (keyed : e.Keyed) (step : Step e e') : e'.Keyed := by
  cases step with
  | called request => exact keyed
  | completed request => exact keyed_complete keyed request
  | batch request writes perm => exact keyedTables_putTables writes keyed
  | inserted name item => exact keyed_insertItem keyed name item
  | told failure? => exact keyed

theorem keyed_of_reached {latency : Nat} {e : Emulator} (reached : e.Reached latency) :
    e.Keyed := by
  induction reached with
  | empty => exact keyed_empty latency
  | step _ step ih => exact keyed_of_step ih step

theorem itemKey_eq_ok {item : Item} {key : String} :
    itemKey item = .ok key ↔ item.get? keyAttribute = some (.string key) := by
  unfold itemKey
  constructor
  · intro own
    split at own
    · next there =>
      cases own
      exact there
    · cases own
  · intro there
    rw [there]

/-- An adapter does to its client what a client can do. -/
theorem Reached.perform {latency : Nat} {e : Emulator} (reached : e.Reached latency) (a : Adapter)
    (m : Moment) (op : Operation) :
    ((a.backend client).perform m op e).2.Reached latency := by
  show ((a.plan m op).carryOut client e).2.Reached latency
  have served (request : Request) : ((e.noteCall request).complete request).2.Reached latency :=
    (reached.step (.called e request)).step (.completed _ request)
  cases a.plan m op with
  | done reply => exact reached
  | sharedRead request => exact served _
  | exchange request conclude => exact served _

end Emulator

/-! ## Records that were read -/

/-- The record is as a store keeps it: its value is text, and its expiry, if it has one, is
positive. -/
structure Record.Kept (r : Record) : Prop where
  text : ∃ text, r.value = .encoded text
  expiry : ∀ t, r.expiry = some t → 0 < t

theorem kept_of_recordOfItem {item : Item} {r : Record} (read : recordOfItem item = .ok r) :
    r.Kept := by
  obtain ⟨key, _, read⟩ := bind_eq_ok.1 read
  obtain ⟨text, _, read⟩ := bind_eq_ok.1 read
  obtain ⟨expiry, timed, read⟩ := bind_eq_ok.1 read
  cases read
  refine ⟨⟨text, rfl⟩, fun t expires => ?_⟩
  obtain rfl : expiry = some t := expires
  unfold readExpiry at timed
  split at timed
  · cases timed
  · split at timed
    · next parsed _ =>
      obtain ⟨-, positive⟩ := Option.filter_eq_some_iff.1 (Except.ok.inj timed)
      exact of_decide_eq_true positive
    · cases timed
  · cases timed

/-- What an operation that succeeds may return. -/
def Operation.ReturnsOwn : (op : Operation) → op.Result → Prop
  | .get key, .ok r => r.key = key ∧ r.Kept
  | .bulkGet keys, .ok records =>
    (records.map (·.key)).Nodup ∧
      ∀ r ∈ records, r.key ∈ keys ∧ Text.isBlankText r.key = false ∧ r.Kept
  | _, _ => True

/-- What a read of a key finds is a record of the key. -/
theorem returnsOwn_of_answer {e : Emulator} (keyed : e.Keyed) {name key : String}
    {found : ItemFound} (answer : (e.complete (.read ⟨name, keyItem key⟩)).1 = .ok found) :
    (Operation.get key).ReturnsOwn (Adapter.recordOfFound found) := by
  cases willing : e.failure? with
  | some text =>
    rw [Emulator.complete, willing] at answer
    cases answer
  | none =>
    rw [Emulator.complete_read willing] at answer
    cases answer
    cases there : e.item? name key with
    | none => trivial
    | some item =>
      unfold Adapter.recordOfFound
      dsimp only
      split
      · trivial
      · cases read : recordOfItem item with
        | error _ => trivial
        | ok r =>
          exact ⟨key_of_recordOfItem (keyed.itemKey_of_item? there) read, kept_of_recordOfItem read⟩

/-- What is found for the members of a list, and tells for which, names members in their order. -/
theorem sublist_of_filterMap {α β : Type} {find : α → Option β} {name : β → α}
    (tells : ∀ x y, find x = some y → name y = x) (xs : List α) :
    ((xs.filterMap find).map name).Sublist xs := by
  induction xs with
  | nil => exact .slnil
  | cons x rest ih =>
    cases found : find x with
    | none =>
      rw [List.filterMap_cons_none found]
      exact ih.cons x
    | some y =>
      rw [List.filterMap_cons_some found, List.map_cons, tells x y found]
      exact ih.cons_cons x

namespace Adapter

variable (a : Adapter) {m : Moment} {e : Emulator}

theorem returnsOwn_get (keyed : e.Keyed) (key : String) :
    (Operation.get key).ReturnsOwn
      ((a.backend Emulator.client).perform m (.get key) e).1.result := by
  show (Operation.get key).ReturnsOwn ((a.planGet m key).carryOut Emulator.client e).1.result
  unfold planGet
  split
  · trivial
  · dsimp only [Plan.carryOut, Emulator.client]
    cases answer : ((e.noteCall _).complete (.read (a.readRequest key))).1 with
    | error failure => trivial
    | ok found =>
      exact returnsOwn_of_answer (e := e.noteCall (.read (a.readRequest key))) keyed answer

theorem returnsOwn_bulkGet (keyed : e.Keyed) (keys : List String) :
    (Operation.bulkGet keys).ReturnsOwn
      ((a.backend Emulator.client).perform m (.bulkGet keys) e).1.result := by
  cases ended : ((a.backend Emulator.client).perform m (.bulkGet keys) e).1.result with
  | error _ => trivial
  | ok records =>
    cases willing : e.failure? with
    | some text =>
      rw [a.perform_bulkGet_failing willing ended]
      exact ⟨.nil, fun _ member => absurd member List.not_mem_nil⟩
    | none =>
      obtain ⟨few, named, live⟩ := a.checks_of_perform_bulkGet ended
      have result := a.perform_bulkGet_result willing live few named
      rw [ended, List.filterMap_filterMap] at result
      obtain rfl := Except.ok.inj result
      have own (key : String) (r : Record)
          (found : (e.item? a.table key).bind (fun item => (recordOfItem item).toOption) = some r) :
          r.key = key ∧ r.Kept := by
        obtain ⟨item, there, read⟩ := Option.bind_eq_some_iff.1 found
        have read : recordOfItem item = .ok r := ok_of_toOption read
        exact ⟨key_of_recordOfItem (keyed.itemKey_of_item? there) read, kept_of_recordOfItem read⟩
      refine ⟨?_, fun r member => ?_⟩
      · exact (sublist_of_filterMap (fun key r found => (own key r found).1) _).nodup
          (nodup_eraseDups keys)
      · obtain ⟨key, among, found⟩ := List.mem_filterMap.1 member
        obtain ⟨rfl, kept⟩ := own key r found
        have requested := List.mem_eraseDups.1 among
        exact ⟨requested, named _ requested, kept⟩

/-- What an adapter returns is what was asked for. -/
theorem returnsOwn_perform (keyed : e.Keyed) (op : Operation) :
    op.ReturnsOwn ((a.backend Emulator.client).perform m op e).1.result := by
  cases op with
  | get key => exact a.returnsOwn_get keyed key
  | save key record => trivial
  | bulkGet keys => exact a.returnsOwn_bulkGet keyed keys
  | bulkSave records => trivial

end Adapter

/-! ## Gets and saves that overlap -/

namespace Traffic

open RecordStore.SharedRead

variable {a : Adapter} {s t : State} {latency : Nat}

theorem reached_of_move {e : Step} (move : Move a s e t) (reached : s.client.Reached latency) :
    t.client.Reached latency := by
  cases move with
  | refuseGet | refuseSave | read | conclude | interrupt => exact reached
  | dispatch => exact reached.step (.called _ _)
  | look => exact reached.step (.completed _ _)
  | save => exact reached.step (.called _ _)
  | write => exact reached.step (.completed _ _)

theorem reached_of_trace {steps : List Step} (trace : Trace (State.step? a) s steps t)
    (reached : s.client.Reached latency) : t.client.Reached latency := by
  induction trace with
  | nil => exact reached
  | snoc _ taken ih => exact reached_of_move (move_of_step taken) ih

/-- A get that is answered while other gets and saves are under way. -/
theorem returnsOwn_of_trace {client : Emulator} (reached : client.Reached latency)
    {steps : List Step} (trace : Trace (State.step? a) (.initial client) steps s)
    {caller : CallerId} {c : Caller} {call : Call} {result : Result}
    (found : s.reads.shared.callers[caller]? = some c)
    (read : s.reads.shared.calls[c.call]? = some call)
    (answer : (s.reads.stages caller).answer? = some result) :
    (Operation.get call.key).ReturnsOwn result := by
  cases result with
  | error _ => trivial
  | ok r =>
    obtain ⟨outcome, begun, reading, u, ends, ⟨rest, parts⟩, looked⟩ :=
      looked_of_answer trace found read answer nofun
    obtain ⟨u', reached', later⟩ := (parts ▸ trace).split
    obtain rfl := looked.reached.unique reached'
    obtain ⟨_, cons⟩ := reads_consistent looked.reached
    obtain ⟨_, went⟩ := reads_of_trace later
    obtain ⟨before, there, given⟩ := looked.outcome
    obtain ⟨now, here, lasts⟩ := Program.lasts_of_trace cons went there
    obtain rfl := Option.some.inj (here.symm.trans read)
    have keyed := Emulator.keyed_of_reached (reached_of_trace looked.reached reached)
    cases outcome with
    | error _ => cases ends
    | ok item =>
      have own := returnsOwn_of_answer keyed given.symm
      rw [Ending.fetched.inj ends, ← lasts.key] at own
      exact own

end Traffic

/-! ## Identity -/

/-- **Items are what they are called.**  In every emulator that is reached from an empty one, an
item under a key has the key as its string attribute `key`.  Over such an emulator every operation
of every adapter ends: a get that succeeds gives a record of its key, and a batch of reads gives
records of requested keys that are not blank, each key once, with text as values and with expiries
that are positive, if there are any; and then the emulator is one of these again.  So it is for gets
that are answered while other gets and saves are under way. -/
theorem itemIdentity_of_reached {latency : Nat} {e : Emulator} (reached : e.Reached latency) :
    (∀ name t key item, e.tables.get? name = some t → t.get? key = some item →
      item.get? keyAttribute = some (.string key)) ∧
    (∀ (a : Adapter) (w : World Client), w.Serves a e → ∀ v : Visit,
      ∃ result e', (w.visit v).1 = some result ∧ v.op.ReturnsOwn result ∧
        (w.visit v).2.Serves a e' ∧ e'.Reached latency) ∧
    ∀ (a : Adapter) (steps : List Traffic.Step) (s : Traffic.State),
      (Traffic.State.initial e).run? a steps = some s →
        ∀ caller c call result, s.reads.shared.callers[caller]? = some c →
          s.reads.shared.calls[c.call]? = some call →
            (s.reads.stages caller).answer? = some result →
              (Operation.get call.key).ReturnsOwn result := by
  have keyed := Emulator.keyed_of_reached reached
  refine ⟨fun name t key item there found => ?_, fun a w serves v => ?_,
    fun a steps s ran caller c call result found read answer =>
      Traffic.returnsOwn_of_trace reached (trace_of_foldlM ran) found read answer⟩
  · exact Emulator.itemKey_eq_ok.1 (keyed name t there key item found)
  · obtain ⟨result, e', concludes, ended, serves'⟩ := w.visit_adapted serves v
    refine ⟨result, e', ended, ?_, serves', ?_⟩
    · cases concludes with
      | served => exact a.returnsOwn_perform keyed v.op
      | stopped reason request ends => cases v.op <;> trivial
    · cases concludes with
      | served => exact reached.perform a _ v.op
      | stopped reason request ends => exact reached.step (.called e request)

/-- A batch of writes that stops halfway, an item that is no record, and a failure that was told and
taken back. -/
theorem itemIdentity_brokenBatch :
    let broken : BatchWrite := ⟨(∅ : Dict (List WriteEntry)).insert "t"
      [⟨some (recordItem "a" "1" (some 9))⟩, ⟨none⟩, ⟨some ∅⟩, ⟨some (recordItem "c" "3" none)⟩]⟩
    let written : Emulator := ((Emulator.empty 3).complete (.batchWrite broken)).2
    let e : Emulator := { (written.insertItem "t" (keyItem "b")).2 with failure? := none }
    let a : Adapter := .new "t" .verbatim none
    let w : World Client := ⟨0, 0, .adapted a (.emulator e) .initial, none, 0, [], [], []⟩
    let v : Visit := .background 7 (.bulkGet ["c", "a", "b", "a"])
    e.Reached 3 ∧ e.item? "t" "a" = some (recordItem "a" "1" (some 9)) ∧ e.item? "t" "c" = none ∧
      (∀ name t key item, e.tables.get? name = some t → t.get? key = some item →
        item.get? keyAttribute = some (.string key)) ∧
      ∃ records, (w.visit v).1 = some (.ok records) ∧ v.op.ReturnsOwn (.ok records) := by
  intro broken written e a w v
  have reached : e.Reached 3 :=
    (((Emulator.Reached.empty.step (.completed _ (.batchWrite broken))).step
      (.inserted _ "t" (keyItem "b"))).step (.told _ (some "down"))).step (.told _ none)
  obtain ⟨own, reads, -⟩ := itemIdentity_of_reached reached
  obtain ⟨result, e', ended, returns, -⟩ := reads a w ⟨.initial, rfl, rfl⟩ v
  have succeeds : (w.visit v).1.map (·.toBool) = some true := by decide +kernel
  refine ⟨reached, by decide +kernel, by decide +kernel, own, ?_⟩
  rw [ended] at succeeds
  cases result with
  | error _ => cases succeeds
  | ok records => exact ⟨records, ended, returns⟩

end RecordStore
