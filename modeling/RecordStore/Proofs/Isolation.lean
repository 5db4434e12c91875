/-
RecordStore.Proofs.Isolation -- containers that share a client

An adapter asks for its own table and for no other one (`Adapter.within_plan`).
What comes of a request about a table can be told from that table alone, and
every other table stays as it is (`Emulator.agreeOn_complete`,
`Emulator.agreeOn_of_complete`).  Two emulators that agree on the table of an adapter
are therefore one and the same to it (`Adapter.agreeOn_perform`), so what others
do in tables of their own makes no difference, however their calls and its calls
are mixed (`Tenants.isolated_of_apart`).
-/
import RecordStore.Proofs.Contents
import RecordStore.Proofs.Dispatch

namespace RecordStore

set_option autoImplicit false

open RecordStore.Wire

/-! ## Requests about one table -/

/-- The request is about a table and about no other one. -/
inductive Wire.Request.Within (name : String) : Request → Prop
  | read (key : Item) : Within name (.read ⟨name, key⟩)
  | write (item : Item) : Within name (.write ⟨name, item⟩)
  | batchRead (keys : KeyList) : Within name (.batchRead ⟨(∅ : Dict KeyList).insert name keys⟩)
  | batchWrite (entries : List WriteEntry) :
      Within name (.batchWrite ⟨(∅ : Dict (List WriteEntry)).insert name entries⟩)

namespace Emulator

/-- Emulators that hold the same table under a name, and fail alike. -/
structure AgreeOn (name : String) (e e' : Emulator) : Prop where
  table : e.tables.get? name = e'.tables.get? name
  failure : e.failure? = e'.failure?

variable {name : String} {e e' e'' : Emulator}

theorem AgreeOn.refl (name : String) (e : Emulator) : AgreeOn name e e := ⟨rfl, rfl⟩

theorem AgreeOn.symm (agree : AgreeOn name e e') : AgreeOn name e' e :=
  ⟨agree.table.symm, agree.failure.symm⟩

theorem AgreeOn.trans (first : AgreeOn name e e') (rest : AgreeOn name e' e'') :
    AgreeOn name e e'' :=
  ⟨first.table.trans rest.table, first.failure.trans rest.failure⟩

theorem agreeOn_noteCall (name : String) (e : Emulator) (request : Request) :
    AgreeOn name e (e.noteCall request) := ⟨rfl, rfl⟩

theorem AgreeOn.noteCall (agree : AgreeOn name e e') (request : Request) :
    AgreeOn name (e.noteCall request) (e'.noteCall request) := ⟨agree.table, agree.failure⟩

/-- A table that was put under the name in both. -/
theorem AgreeOn.insert (agree : AgreeOn name e e') (t : Table)
    {counts counts' : CallCounts} {lastWrite? lastWrite?' : Option Item}
    {lastBatchWrite? lastBatchWrite?' : Option BatchWrite} {latency latency' : Nat} :
    AgreeOn name
      ⟨e.tables.insert name t, counts, lastWrite?, lastBatchWrite?, e.failure?, latency⟩
      ⟨e'.tables.insert name t, counts', lastWrite?', lastBatchWrite?', e'.failure?, latency'⟩ where
  table := by rw [Dict.get?_insert_self, Dict.get?_insert_self]
  failure := agree.failure

/-- A batch of reads from one table. -/
theorem AgreeOn.findTables (agree : AgreeOn name e e') (keys : KeyList) :
    e.findTables [(name, keys)] = e'.findTables [(name, keys)] := by
  rw [Emulator.findTables, Emulator.findTables, agree.table]
  rfl

/-- A batch of writes to one table. -/
theorem putTables_singleton (name : String) (entries : List WriteEntry) (tables : Dict Table) :
    putTables [(name, entries)] tables =
      let put := putAll (entries.filterMap (·.put?)) ((tables.get? name).getD ∅)
      (put.1, tables.insert name put.2) := by
  rw [putTables]
  cases putAll (entries.filterMap (·.put?)) ((tables.get? name).getD ∅) with
  | mk refused t => cases refused <;> rfl

/-- A request about a table is answered alike where emulators agree on the table, and they agree on
it afterwards. -/
theorem agreeOn_effect (agree : AgreeOn name e e') {request : Request}
    (within : request.Within name) :
    (e.effect request).1 = (e'.effect request).1 ∧
      AgreeOn name (e.effect request).2 (e'.effect request).2 := by
  have table : e.table name = e'.table name := by rw [Emulator.table, Emulator.table, agree.table]
  cases within with
  | read key =>
    unfold effect item?
    dsimp only
    rw [table]
    cases itemKey key <;> exact ⟨rfl, agree⟩
  | write item =>
    unfold effect
    dsimp only
    rw [table]
    cases itemKey item with
    | ok key => exact ⟨rfl, agree.insert _⟩
    | error _ => exact ⟨rfl, agree⟩
  | batchRead keys =>
    unfold effect
    dsimp only
    rw [Dict.entries_singleton, agree.findTables keys]
    cases e'.findTables [(name, keys)] <;> exact ⟨rfl, agree⟩
  | batchWrite entries =>
    unfold effect
    dsimp only
    rw [Dict.entries_singleton, putTables_singleton, putTables_singleton, agree.table]
    cases putAll (entries.filterMap (·.put?)) ((e'.tables.get? name).getD ∅) with
    | mk refused t => cases refused <;> exact ⟨rfl, agree.insert t⟩

theorem agreeOn_complete (agree : AgreeOn name e e') {request : Request}
    (within : request.Within name) :
    (e.complete request).1 = (e'.complete request).1 ∧
      AgreeOn name (e.complete request).2 (e'.complete request).2 := by
  unfold complete
  rw [agree.failure]
  cases e'.failure? with
  | some text => exact ⟨rfl, agree⟩
  | none => exact agreeOn_effect agree within

/-- A request about a table leaves every other table as it is. -/
theorem agreeOn_of_complete {request : Request} (within : request.Within name) {other : String}
    (ne : other ≠ name) (e : Emulator) : AgreeOn other e (e.complete request).2 := by
  unfold complete
  split
  · exact .refl other e
  · have inserted (t : Table) : (e.tables.insert name t).get? other = e.tables.get? other :=
      e.tables.get?_insert_ne ne t
    cases within with
    | read key =>
      unfold effect
      dsimp only
      cases itemKey key <;> exact .refl other e
    | write item =>
      unfold effect
      dsimp only
      cases itemKey item with
      | ok key => exact ⟨(inserted _).symm, rfl⟩
      | error _ => exact .refl other e
    | batchRead keys =>
      unfold effect
      dsimp only
      cases e.findTables _ <;> exact .refl other e
    | batchWrite entries =>
      unfold effect
      dsimp only
      rw [Dict.entries_singleton, putTables_singleton]
      cases putAll (entries.filterMap (·.put?)) ((e.tables.get? name).getD ∅) with
      | mk refused t => cases refused <;> exact ⟨(inserted t).symm, rfl⟩

end Emulator

/-! ## One adapter -/

/-- What can be said of the request of a plan, if it has one. -/
def Plan.Requests (P : Request → Prop) : {op : Operation} → Plan op → Prop
  | _, .done _ => True
  | _, .sharedRead request => P (.read request)
  | _, .exchange request _ => P request

namespace Plan

variable {op : Operation} {plan : Plan op} {name : String}

/-- A plan that is about a table is carried out alike on emulators that agree on the table. -/
theorem agreeOn_carryOut (within : plan.Requests (·.Within name)) {e e' : Emulator}
    (agree : Emulator.AgreeOn name e e') :
    (plan.carryOut Emulator.client e).1 = (plan.carryOut Emulator.client e').1 ∧
      Emulator.AgreeOn name (plan.carryOut Emulator.client e).2
        (plan.carryOut Emulator.client e').2 := by
  cases plan with
  | done reply => exact ⟨rfl, agree⟩
  | sharedRead request =>
    obtain ⟨same, agree'⟩ := Emulator.agreeOn_complete (agree.noteCall (.read request)) within
    dsimp only [carryOut, Emulator.client]
    rw [same]
    exact ⟨rfl, agree'⟩
  | exchange request conclude =>
    obtain ⟨same, agree'⟩ := Emulator.agreeOn_complete (agree.noteCall request) within
    dsimp only [carryOut, Emulator.client]
    rw [same]
    exact ⟨rfl, agree'⟩

/-- It leaves every other table as it is. -/
theorem agreeOn_of_carryOut (within : plan.Requests (·.Within name)) {other : String}
    (ne : other ≠ name) (e : Emulator) :
    Emulator.AgreeOn other e (plan.carryOut Emulator.client e).2 := by
  have kept {request : Request} (about : request.Within name) :
      Emulator.AgreeOn other e ((e.noteCall request).complete request).2 :=
    (Emulator.agreeOn_noteCall other e request).trans (Emulator.agreeOn_of_complete about ne _)
  cases plan with
  | done reply => exact .refl other e
  | sharedRead request => exact kept within
  | exchange request conclude => exact kept within

end Plan

namespace Adapter

variable (a : Adapter) (m : Moment)

/-- What an adapter asks for is about its table. -/
theorem Asks.within {op : Operation} {request : Request} (asks : a.Asks m op request) :
    request.Within a.table := by
  cases asks with
  | get key => exact .read _
  | save _ => exact .write _
  | bulkGet keys => exact .batchRead _
  | bulkSave records => exact .batchWrite _

theorem within_plan (op : Operation) : (a.plan m op).Requests (·.Within a.table) := by
  have dispatches := a.dispatches_plan m op
  cases planned : a.plan m op with
  | done reply => exact trivial
  | sharedRead request =>
    rw [planned] at dispatches
    cases dispatches with
    | shared _ => exact .read _
  | exchange request conclude =>
    rw [planned] at dispatches
    cases dispatches with
    | sent _ _ _ asks _ => exact asks.within

/-- An adapter cannot tell emulators apart that agree on its table, and does the same to them. -/
theorem agreeOn_perform (op : Operation) {e e' : Emulator}
    (agree : Emulator.AgreeOn a.table e e') :
    ((a.backend Emulator.client).perform m op e).1 =
        ((a.backend Emulator.client).perform m op e').1 ∧
      Emulator.AgreeOn a.table ((a.backend Emulator.client).perform m op e).2
        ((a.backend Emulator.client).perform m op e').2 :=
  Plan.agreeOn_carryOut (a.within_plan m op) agree

/-- An adapter leaves all tables but its own as they are. -/
theorem agreeOn_of_perform (op : Operation) {other : String} (ne : other ≠ a.table)
    (e : Emulator) :
    Emulator.AgreeOn other e ((a.backend Emulator.client).perform m op e).2 :=
  Plan.agreeOn_of_carryOut (a.within_plan m op) ne e

end Adapter

/-! ## Many adapters -/

/-- A call of one of several stores. -/
structure TenantCall (ι : Type) where
  tenant : ι
  moment : Moment
  op : Operation

/-- A call of one of several stores that has ended. -/
structure TenantResult (ι : Type) where
  tenant : ι
  op : Operation
  result : op.Result

namespace Tenants

variable {ι σ : Type}

/-- The results of calls of stores with one state between them, and the last state. -/
def run (stores : ι → Backend σ) : List (TenantCall ι) → σ → List (TenantResult ι) × σ
  | [], s => ([], s)
  | call :: rest, s =>
    let (reply, s) := (stores call.tenant).perform call.moment call.op s
    let (results, s) := run stores rest s
    (⟨call.tenant, call.op, reply.result⟩ :: results, s)

section

variable [DecidableEq ι] (i : ι)

/-- The calls of one store, without those of the others. -/
def callsOf (calls : List (TenantCall ι)) : List (Moment × Operation) :=
  (calls.filter (·.tenant = i)).map fun call => (call.moment, call.op)

/-- The results that one store has given. -/
def resultsOf (results : List (TenantResult ι)) : List (Sigma Operation.Result) :=
  (results.filter (·.tenant = i)).map fun r => ⟨r.op, r.result⟩

theorem resultsOf_own (op : Operation) (result : op.Result) (rest : List (TenantResult ι)) :
    resultsOf i (⟨i, op, result⟩ :: rest) = ⟨op, result⟩ :: resultsOf i rest := by
  simp [resultsOf]

theorem resultsOf_other {j : ι} (ne : j ≠ i) (op : Operation) (result : op.Result)
    (rest : List (TenantResult ι)) :
    resultsOf i (⟨j, op, result⟩ :: rest) = resultsOf i rest := by
  simp [resultsOf, ne]

end

variable {adapters : ι → Adapter}

/-- What one adapter sees of all calls is what it would see of its own, from tables that agree on
its own table. -/
theorem alone_of_agreeOn [DecidableEq ι] {i : ι}
    (apart : ∀ j, j ≠ i → (adapters i).table ≠ (adapters j).table) (calls : List (TenantCall ι))
    {e e' : Emulator} (agree : Emulator.AgreeOn (adapters i).table e e') :
    let all := run (fun j => (adapters j).backend Emulator.client) calls e
    let alone := ((adapters i).backend Emulator.client).run (callsOf i calls) e'
    resultsOf i all.1 = alone.1 ∧ Emulator.AgreeOn (adapters i).table all.2 alone.2 := by
  induction calls generalizing e e' with
  | nil => exact ⟨rfl, agree⟩
  | cons call rest ih =>
    obtain ⟨j, m, op⟩ := call
    by_cases own : j = i
    · subst own
      obtain ⟨same, agree'⟩ := (adapters j).agreeOn_perform m op agree
      obtain ⟨results, last⟩ := ih agree'
      have calls : callsOf j (⟨j, m, op⟩ :: rest) = (m, op) :: callsOf j rest := by
        simp [callsOf]
      rw [calls, run, Backend.run]
      dsimp only
      rw [resultsOf_own, results, same]
      exact ⟨rfl, last⟩
    · have kept := (adapters j).agreeOn_of_perform m op (apart j own) e
      obtain ⟨results, last⟩ := ih (kept.symm.trans agree)
      have calls : callsOf i (⟨j, m, op⟩ :: rest) = callsOf i rest := by
        simp [callsOf, own]
      rw [calls, run]
      dsimp only
      rw [resultsOf_other i own]
      exact ⟨results, last⟩

/-- A table of no adapter is never touched. -/
theorem agreeOn_of_run {name : String} (third : ∀ i, name ≠ (adapters i).table)
    (calls : List (TenantCall ι)) (e : Emulator) :
    Emulator.AgreeOn name e
      (run (fun j => (adapters j).backend Emulator.client) calls e).2 := by
  induction calls generalizing e with
  | nil => exact .refl name e
  | cons call rest ih =>
    exact ((adapters call.tenant).agreeOn_of_perform call.moment call.op
      (third call.tenant) e).trans (ih _)

/-- **Containers are isolated from one another.**  Calls of any adapters over one emulator, whose
containers have different tables, may be mixed in any way.  Each adapter gets the results, and its
table ends up with the contents, that its own calls alone lead to.  No other table is touched. -/
theorem isolated_of_apart [DecidableEq ι] (naming : ι → TableName) (container : ι → String)
    (ttl : ι → Option Duration)
    (apart : ∀ i j, i ≠ j →
      (naming i).resolve (container i) ≠ (naming j).resolve (container j))
    (calls : List (TenantCall ι)) (e : Emulator) :
    let adapters (i : ι) : Adapter := .new (container i) (naming i) (ttl i)
    let all := run (fun i => (adapters i).backend Emulator.client) calls e
    (∀ i,
      let table := (naming i).resolve (container i)
      let alone := ((adapters i).backend Emulator.client).run (callsOf i calls) e
      resultsOf i all.1 = alone.1 ∧ all.2.tables.get? table = alone.2.tables.get? table) ∧
    ∀ name, (∀ i, name ≠ (naming i).resolve (container i)) →
      all.2.tables.get? name = e.tables.get? name := by
  intro adapters all
  constructor
  · intro i table alone
    have others : ∀ j, j ≠ i → (adapters i).table ≠ (adapters j).table := fun j ne =>
      apart i j ne.symm
    obtain ⟨results, agree⟩ := alone_of_agreeOn others calls (.refl _ e)
    exact ⟨results, agree.table⟩
  · intro name third
    have third : ∀ i, name ≠ (adapters i).table := third
    exact (agreeOn_of_run third calls e).table.symm

/-- Two adapters of one container name, whose calls about one key are mixed. -/
theorem isolated_sharedKey :
    let naming : Bool → TableName := fun i => .prefixed (if i then "dev-" else "test-")
    let e : Emulator := ((Emulator.empty 3).insertItem "users" (keyItem "a")).2
    let m : Moment := ⟨0, 7, .unbounded⟩
    let calls : List (TenantCall Bool) := [⟨true, m, .save "a" (some (.ofText "a" "1" none))⟩,
      ⟨false, m, .get "a"⟩, ⟨false, m, .bulkSave [.ofText "a" "2" none, .ofText "b" "3" none]⟩,
      ⟨true, m, .bulkGet ["b", "a"]⟩, ⟨false, m, .get "a"⟩]
    let stores (i : Bool) := Adapter.backend (.new "users" (naming i) none) Emulator.client
    let all := run stores calls e
    (∀ i j, i ≠ j → (naming i).resolve "users" ≠ (naming j).resolve "users") ∧
      resultsOf true all.1 = ((stores true).run (callsOf true calls) e).1 ∧
      all.2.item? "dev-users" "a" = some (recordItem "a" "1" none) ∧
      all.2.item? "test-users" "a" = some (recordItem "a" "2" none) ∧
      all.2.tables.get? "users" = e.tables.get? "users" := by
  intro naming e m calls stores all
  have apart : ∀ i j, i ≠ j → (naming i).resolve "users" ≠ (naming j).resolve "users" := by decide
  obtain ⟨own, kept⟩ := isolated_of_apart naming (fun _ => "users") (fun _ => none) apart calls e
  exact ⟨apart, (own true).1, by decide +kernel, by decide +kernel, kept "users" (by decide)⟩

end Tenants

end RecordStore
