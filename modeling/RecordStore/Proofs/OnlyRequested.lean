/-
RecordStore.Proofs.OnlyRequested -- batches return what they were asked for

A batch of reads that succeeds returns records of requested keys only.  The
reference store looks up the requested keys, whatever it holds.  The adapter
takes the keys from the items that it is sent: over the emulator these are the
requested ones because every item is kept under its own key (`Emulator.Keyed`),
which no request changes (`Emulator.keyed_complete`).
-/
import RecordStore.Proofs.Contents

namespace RecordStore

set_option autoImplicit false

open RecordStore.Wire

/-- From this state on, batches of reads return records of requested keys only. -/
def Backend.OnlyRequested {σ : Type} (b : Backend σ) (s : σ) : Prop :=
  ∀ (calls : List (Moment × Operation)) (keys : List String) (records : Records),
    ⟨.bulkGet keys, .ok records⟩ ∈ (b.run calls s).1 → ∀ r ∈ records, r.key ∈ keys

/-- What one batch returns in the states of an invariant, all batches return. -/
theorem Backend.onlyRequested_of_invariant {σ : Type} {b : Backend σ} {P : σ → Prop}
    (keeps : ∀ m op s, P s → P (b.perform m op s).2)
    (returns : ∀ m keys records s, P s →
      (b.perform m (.bulkGet keys) s).1.result = .ok records → ∀ r ∈ records, r.key ∈ keys)
    {s : σ} (holds : P s) : b.OnlyRequested s := by
  intro calls
  induction calls generalizing s with
  | nil => exact fun _ _ member => absurd member List.not_mem_nil
  | cons call rest ih =>
    obtain ⟨m, op⟩ := call
    intro keys records member
    rcases List.mem_cons.1 member with first | later
    · obtain ⟨rfl, ended⟩ := Sigma.mk.inj first
      exact returns m keys records s holds (eq_of_heq ended).symm
    · exact ih (keeps m op s holds) keys records later

/-! ## The reference store -/

theorem Reference.key_of_lookup {s : Reference} {key : String} {time : Timestamp} {r : Record}
    (found : s.lookup key time = some r) : r.key = key := by
  unfold lookup at found
  split at found
  · obtain ⟨-, shown⟩ := Option.ite_none_left_eq_some.1 found
    cases shown
    rfl
  · cases found

theorem Reference.onlyRequested (container : String) (s : Reference) :
    (backend container).OnlyRequested s := by
  refine Backend.onlyRequested_of_invariant (P := fun _ => True) (fun _ _ _ _ => trivial)
    (fun m keys records s _ ended r member => ?_) trivial
  obtain ⟨_, _, ended⟩ := bind_eq_ok.1 (show bulkGet m keys s = .ok records from ended)
  obtain ⟨_, _, ended⟩ := bind_eq_ok.1 ended
  obtain ⟨_, _, ended⟩ := bind_eq_ok.1 ended
  cases ended
  obtain ⟨key, among, found⟩ := List.mem_filterMap.1 member
  rw [key_of_lookup found]
  exact List.mem_eraseDups.1 among

/-! ## Items under their own keys -/

namespace Emulator

/-- Every item of a table is kept under its own key. -/
def KeyedTable (t : Table) : Prop := ∀ key item, t.get? key = some item → itemKey item = .ok key

/-- Every item is kept under its own key. -/
def Keyed (e : Emulator) : Prop := ∀ name t, e.tables.get? name = some t → KeyedTable t

theorem keyedTable_insert {t : Table} (keyed : KeyedTable t) {key : String} {item : Item}
    (own : itemKey item = .ok key) : KeyedTable (t.insert key item) := by
  intro other found there
  rw [Dict.get?_insert] at there
  split at there
  · next same =>
    cases there
    rw [same]
    exact own
  · exact keyed other found there

theorem keyedTable_putAll {t : Table} (keyed : KeyedTable t) (items : List Item) :
    KeyedTable (putAll items t).2 := by
  induction items generalizing t with
  | nil => exact keyed
  | cons item rest ih =>
    rw [putAll]
    split
    · next key own => exact ih (keyedTable_insert keyed own)
    · exact keyed

/-- Tables of which each holds its items under their keys. -/
def KeyedTables (tables : Dict Table) : Prop := ∀ name t, tables.get? name = some t → KeyedTable t

theorem keyedTable_getD {tables : Dict Table} (keyed : KeyedTables tables) (name : String) :
    KeyedTable ((tables.get? name).getD ∅) := by
  cases there : tables.get? name with
  | none => exact fun _ _ found => nomatch found
  | some t => exact keyed name t there

theorem keyedTables_insert {tables : Dict Table} (keyed : KeyedTables tables) {t : Table}
    (own : KeyedTable t) (name : String) : KeyedTables (tables.insert name t) := by
  intro other found there
  rw [Dict.get?_insert] at there
  split at there
  · cases there
    exact own
  · exact keyed other found there

theorem keyedTables_putTables (writes : List (String × List WriteEntry)) {tables : Dict Table}
    (keyed : KeyedTables tables) : KeyedTables (putTables writes tables).2 := by
  induction writes generalizing tables with
  | nil => exact keyed
  | cons write rest ih =>
    obtain ⟨name, entries⟩ := write
    have put := keyedTables_insert keyed
      (keyedTable_putAll (keyedTable_getD keyed name) (entries.filterMap (·.put?))) name
    rw [putTables]
    dsimp only
    split
    · exact put
    · exact ih put

theorem keyed_effect {e : Emulator} (keyed : e.Keyed) (r : Request) : (e.effect r).2.Keyed := by
  cases r with
  | read r =>
    rw [effect]
    split <;> exact keyed
  | batchRead r =>
    rw [effect]
    split <;> exact keyed
  | write r =>
    rw [effect]
    split
    · next key own =>
      exact keyedTables_insert keyed (keyedTable_insert (keyedTable_getD keyed r.table) own) r.table
    · exact keyed
  | batchWrite r =>
    have put := keyedTables_putTables r.tables.entries keyed
    rw [effect]
    dsimp only
    split <;> exact put

/-- Whatever is asked, every item stays under its own key. -/
theorem keyed_complete {e : Emulator} (keyed : e.Keyed) (r : Request) :
    (e.complete r).2.Keyed := by
  unfold complete
  split
  · exact keyed
  · exact keyed_effect keyed r

theorem keyed_empty (latency : Nat) : (empty latency).Keyed := fun _ _ found => nomatch found

theorem Keyed.itemKey_of_item? {e : Emulator} (keyed : e.Keyed) {name key : String} {item : Item}
    (found : e.item? name key = some item) : itemKey item = .ok key :=
  keyedTable_getD keyed name key item found

end Emulator

/-! ## The adapter over the emulator -/

/-- A record that was read from an item has the key of the item. -/
theorem key_of_recordOfItem {item : Item} {r : Record} {key : String}
    (own : Emulator.itemKey item = .ok key) (read : recordOfItem item = .ok r) : r.key = key := by
  obtain ⟨name, named, read⟩ := bind_eq_ok.1 read
  obtain ⟨_, _, read⟩ := bind_eq_ok.1 read
  obtain ⟨_, _, read⟩ := bind_eq_ok.1 read
  cases read
  unfold Emulator.itemKey at own
  unfold requireString at named
  cases there : item.get? keyAttribute with
  | none =>
    rw [there] at named
    cases named
  | some value =>
    rw [there] at named own
    cases value <;> cases named
    cases own
    rfl

namespace Adapter

variable (a : Adapter)

theorem keyed_perform (m : Moment) (op : Operation) {e : Emulator} (keyed : e.Keyed) :
    ((a.backend Emulator.client).perform m op e).2.Keyed := by
  show ((a.plan m op).carryOut Emulator.client e).2.Keyed
  have noted (r : Request) : (e.noteCall r).Keyed := keyed
  cases a.plan m op with
  | done reply => exact keyed
  | sharedRead request => exact Emulator.keyed_complete (noted _) _
  | exchange request conclude => exact Emulator.keyed_complete (noted _) _

/-- A batch of reads that succeeds has passed all checks. -/
theorem checks_of_perform_bulkGet {σ : Type} {client : WireClient σ} {m : Moment}
    {keys : List String} {s : σ} {records : Records}
    (ended : ((a.backend client).perform m (.bulkGet keys) s).1.result = .ok records) :
    keys.length ≤ maxBulkKeys ∧ (∀ key ∈ keys, Text.isBlankText key = false) ∧
      m.stop? = none := by
  have ended : ((a.planBulkGet m keys).carryOut client s).1.result = .ok records := ended
  unfold planBulkGet at ended
  split at ended
  · cases ended
  · next checked =>
    obtain ⟨_, few, checked⟩ := bind_eq_ok.1 checked
    obtain ⟨_, named, live⟩ := bind_eq_ok.1 checked
    exact ⟨validateBulkKeys_eq_ok.1 few, forM_validateKey_eq_ok.1 named, checkLive_eq_ok.1 live⟩

/-- An emulator that fails answers no batch. -/
theorem perform_bulkGet_failing {m : Moment} {keys : List String} {e : Emulator} {text : String}
    (failing : e.failure? = some text) {records : Records}
    (ended : ((a.backend Emulator.client).perform m (.bulkGet keys) e).1.result = .ok records) :
    records = [] := by
  have ended : ((a.planBulkGet m keys).carryOut Emulator.client e).1.result = .ok records := ended
  unfold planBulkGet at ended
  split at ended
  · cases ended
  · split at ended
    · cases ended
      rfl
    · dsimp only [Plan.carryOut, Emulator.client] at ended
      rw [Emulator.complete, show (e.noteCall _).failure? = some text from failing] at ended
      cases ended

/-- Over the emulator a batch returns records of requested keys. -/
theorem key_of_perform_bulkGet {m : Moment} {keys : List String} {records : Records}
    {e : Emulator} (keyed : e.Keyed)
    (ended : ((a.backend Emulator.client).perform m (.bulkGet keys) e).1.result = .ok records) :
    ∀ r ∈ records, r.key ∈ keys := by
  cases willing : e.failure? with
  | some text =>
    rw [a.perform_bulkGet_failing willing ended]
    exact fun _ member => absurd member List.not_mem_nil
  | none =>
    obtain ⟨few, named, live⟩ := a.checks_of_perform_bulkGet ended
    rw [a.perform_bulkGet_result willing live few named] at ended
    cases ended
    intro r member
    obtain ⟨item, there, read⟩ := List.mem_filterMap.1 member
    obtain ⟨key, among, found⟩ := List.mem_filterMap.1 there
    have decoded : recordOfItem item = .ok r := by
      cases record : recordOfItem item with
      | error e =>
        rw [record] at read
        cases read
      | ok _ =>
        rw [record] at read
        cases read
        rfl
    rw [key_of_recordOfItem (keyed.itemKey_of_item? found) decoded]
    exact List.mem_eraseDups.1 among

theorem onlyRequested {e : Emulator} (keyed : e.Keyed) :
    (a.backend Emulator.client).OnlyRequested e :=
  Backend.onlyRequested_of_invariant (fun m op _ held => a.keyed_perform m op held)
    (fun _ _ _ _ held => a.key_of_perform_bulkGet held) keyed

end Adapter

end RecordStore
