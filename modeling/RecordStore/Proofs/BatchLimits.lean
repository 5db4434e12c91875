/-
RecordStore.Proofs.BatchLimits -- what a request for a batch of writes holds

The protocol takes a batch of at most `maxBulkKeys` entries that names no key
twice (`Wire.BatchWrite.WithinLimits`).  The request of a batch of writes names one
table, and it has one entry for each record that can be stored, in the order of
the records (`keys_bulkSave`).  So the last entry of a key is that of the last such
record, but earlier ones of the key stay, and nothing counts the entries:
a request is within the limits exactly when the records are
(`Adapter.withinLimits_iff`).
-/
import RecordStore.Proofs.Conservation
import RecordStore.Proofs.Expiry

namespace RecordStore

set_option autoImplicit false

open RecordStore.Wire

/-! ## Requests within the limits -/

namespace Wire

/-- The key that an entry of a batch writes, if it writes one. -/
def WriteEntry.key? (e : WriteEntry) : Option String :=
  e.put?.bind fun item => (Emulator.itemKey item).toOption

/-- The entries of a batch for a table. -/
def BatchWrite.entriesOf (b : BatchWrite) (table : String) : List WriteEntry :=
  (b.tables.get? table).getD []

/-- A batch of writes to one table as the protocol wants it. -/
structure BatchWrite.WithinLimits (b : BatchWrite) (table : String) : Prop where
  only : b.tables.keys = [table]
  some_ : b.entriesOf table ≠ []
  few : (b.entriesOf table).length ≤ maxBulkKeys
  once : ((b.entriesOf table).filterMap WriteEntry.key?).Nodup

end Wire

@[simp] theorem Stored.key?_write (e : String × Stored) : (Stored.write e).key? = some e.1 := by
  rw [WriteEntry.key?, Stored.write, Option.bind_some, Emulator.itemKey_item]
  rfl

theorem Stored.filterMap_key? (entries : List (String × Stored)) :
    (entries.map Stored.write).filterMap WriteEntry.key? = entries.map (·.1) := by
  rw [List.filterMap_map, ← List.filterMap_eq_map]
  exact List.filterMap_congr fun e _ => Stored.key?_write e

/-! ## Records that can be stored -/

/-- The records of a batch that can be stored. -/
def Records.storable (records : Records) : Records := records.filter (·.Storable)

section

variable (expiry : Record → Option Timestamp)

/-- A batch writes under the keys of its records that can be stored, in their order. -/
theorem keys_bulkSave (records : Records) :
    ((Operation.bulkSave records).writes expiry).map (·.1) = records.storable.map (·.key) := by
  have stored := writes_bulkSave_forall₂ expiry records
  unfold Records.storable
  generalize records.filter (·.Storable) = kept, (Operation.bulkSave records).writes expiry = entries
    at stored ⊢
  induction stored with
  | nil => rfl
  | cons made _ ih =>
    obtain ⟨text, -, rfl⟩ := made
    rw [List.map_cons, List.map_cons, ih]

theorem length_bulkSave (records : Records) :
    ((Operation.bulkSave records).writes expiry).length = records.storable.length := by
  rw [← List.length_map (·.1), keys_bulkSave, List.length_map]

/-- A batch writes nothing exactly if none of its records can be stored. -/
theorem bulkSave_eq_nil {records : Records} :
    (Operation.bulkSave records).writes expiry = [] ↔ ∀ r ∈ records, ¬ r.Storable := by
  rw [← List.length_eq_zero_iff, length_bulkSave, List.length_eq_zero_iff, Records.storable,
    List.filter_eq_nil_iff]
  simp only [decide_eq_true_eq]

end

/-! ## The request of a batch -/

/-- What a request for a batch of writes holds: one entry for each record that can be stored. -/
structure Adapter.WritesStorable (a : Adapter) (time : Timestamp) (records : Records)
    (b : BatchWrite) : Prop where
  only : b.tables.keys = [a.table]
  some_ : b.entriesOf a.table ≠ []
  keys : (b.entriesOf a.table).map WriteEntry.key? = records.storable.map fun r => some r.key
  /-- The last entry of a key is that of the last record of the key that can be stored. -/
  last : ∀ before r after, records = before ++ r :: after → r.Storable →
    (∀ r' ∈ after, r'.Storable → r'.key ≠ r.key) →
      ∃ text first rest, r.encode = .ok text ∧
        b.entriesOf a.table =
          first ++ ⟨some (recordItem r.key text (a.expiryFor time r))⟩ :: rest ∧
        ∀ e ∈ rest, e.key? ≠ some r.key
  /-- The limits are kept exactly when the records keep them. -/
  limits : b.WithinLimits a.table ↔
    records.storable.length ≤ maxBulkKeys ∧ (records.storable.map (·.key)).Nodup

namespace Adapter

variable (a : Adapter) (time : Timestamp) {records : Records}

/-- The request that writes what can be stored of a batch. -/
def storing (records : Records) : BatchWrite :=
  a.batchWrite ((Operation.bulkSave records).writes (a.expiryFor time))

theorem entriesOf_storing (records : Records) :
    (a.storing time records).entriesOf a.table =
      ((Operation.bulkSave records).writes (a.expiryFor time)).map Stored.write := by
  rw [BatchWrite.entriesOf, storing, batchWrite, Dict.get?_insert_self]
  rfl

theorem keys_storing (records : Records) :
    ((a.storing time records).entriesOf a.table).filterMap WriteEntry.key? =
      records.storable.map (·.key) := by
  rw [entriesOf_storing, Stored.filterMap_key?, keys_bulkSave]

theorem length_storing (records : Records) :
    ((a.storing time records).entriesOf a.table).length = records.storable.length := by
  rw [entriesOf_storing, List.length_map, length_bulkSave]

variable (some_ : ∃ r ∈ records, r.Storable)

include some_

theorem storing_ne_nil : (a.storing time records).entriesOf a.table ≠ [] := by
  rw [entriesOf_storing, Ne, List.map_eq_nil_iff, bulkSave_eq_nil]
  obtain ⟨r, member, storable⟩ := some_
  exact fun none => none r member storable

theorem withinLimits_iff : (a.storing time records).WithinLimits a.table ↔
    records.storable.length ≤ maxBulkKeys ∧ (records.storable.map (·.key)).Nodup := by
  rw [← a.keys_storing time, ← a.length_storing time]
  exact ⟨fun within => ⟨within.few, within.once⟩,
    fun ⟨few, once⟩ => ⟨rfl, a.storing_ne_nil time some_, few, once⟩⟩

theorem writesStorable_storing : a.WritesStorable time records (a.storing time records) where
  only := rfl
  some_ := a.storing_ne_nil time some_
  keys := by
    have named : WriteEntry.key? ∘ Stored.write = some ∘ (·.1) := funext Stored.key?_write
    rw [entriesOf_storing, List.map_map, named, ← List.map_map, keys_bulkSave, List.map_map]
    rfl
  last before r after parts storable others := by
    obtain ⟨named, text, encoded⟩ := storable
    let written (records : Records) : List WriteEntry :=
      ((Operation.bulkSave records).writes (a.expiryFor time)).map Stored.write
    refine ⟨text, written before, written after, encoded, ?_, ?_⟩
    · rw [entriesOf_storing, parts, writes_bulkSave_append, writes_bulkSave_cons,
        writes_save named encoded, List.map_append, List.map_append, List.map_singleton]
      rfl
    · intro entry member same
      obtain ⟨e, among, rfl⟩ := List.mem_map.1 member
      have key : e.1 ∈ (Records.storable after).map (·.key) :=
        keys_bulkSave _ after ▸ List.mem_map_of_mem among
      obtain ⟨r', kept, key⟩ := List.mem_map.1 key
      rw [Stored.key?_write, ← key] at same
      obtain ⟨among', storable'⟩ := List.mem_filter.1 kept
      exact others r' among' (of_decide_eq_true storable') (Option.some.inj same)
  limits := a.withinLimits_iff time some_

end Adapter

/-! ## Requests that are sent -/

section

variable {σ : Type} (slow : SlowClient σ) {w : World σ} {life : Instant → Lifespan}
  (live : (life w.now).reason? w.now = none) {a : Adapter} {client : σ} {reads : SharedRead.State}
  (store : w.store = .adapted a client reads)

include live store

/-- A batch of writes sends what can be stored of it in one request, if there is anything. -/
theorem World.sent_bulkSave (records : Records) :
    let sent := (w.alone slow life (.bulkSave records)).2.requests
    ((∀ r ∈ records, ¬ r.Storable) → sent = w.requests) ∧
      ((∃ r ∈ records, r.Storable) →
        sent = w.requests ++ [.batchWrite (a.storing w.time records)]) := by
  obtain ⟨nothing, something⟩ := a.planBulkSave_items (m := w.moment life) live records
  constructor
  · intro none
    obtain ⟨reply, planned⟩ := nothing ((bulkSave_eq_nil _).2 none)
    exact (w.ends_done slow store planned).requests.trans (List.append_nil _)
  · rintro ⟨r, member, storable⟩
    obtain ⟨conclude, planned⟩ := something fun none =>
      (bulkSave_eq_nil _).1 none r member storable
    obtain ⟨_, -, done⟩ := w.ends_exchange slow store planned
    exact done.requests

/-- **Requests for batches of writes.**  A batch of writes that begins under a live context sends no
request if none of its records can be stored, and otherwise one that has an entry for each record
that can. -/
theorem batchWrite_of_live (records : Records) :
    let sent := (w.alone slow life (.bulkSave records)).2.requests
    ((∀ r ∈ records, ¬ r.Storable) → sent = w.requests) ∧
      ((∃ r ∈ records, r.Storable) → ∃ b, sent = w.requests ++ [.batchWrite b] ∧
        a.WritesStorable w.time records b) := by
  intro sent
  obtain ⟨nothing, something⟩ := World.sent_bulkSave slow live store records
  exact ⟨nothing, fun some_ => ⟨_, something some_, a.writesStorable_storing w.time some_⟩⟩

end

/-- A blank key and a value that could not be written are left out of the request. -/
theorem batchWrite_mixedRecords :
    let a : Adapter := .new "t" (.prefixed "p-") (some (.ofSeconds 60))
    let w : World Client :=
      ⟨5, 7, .adapted a (.emulator (.empty 3)) .initial, none, 0, [], [], []⟩
    let life : Instant → Lifespan := fun now => ⟨some (now + 9), none⟩
    let records : Records :=
      [.ofText "b" "2" none, .ofText " " "1" none, ⟨"b", .invalid .keyMustBeString, none⟩]
    (life w.now).reason? w.now = none ∧ (∃ r ∈ records, r.Storable) ∧
      ∃ b, (w.alone Client.slow life (.bulkSave records)).2.requests = [.batchWrite b] ∧
        a.WritesStorable 7 records b ∧ b.WithinLimits "p-t" := by
  intro a w life records
  have live : (life w.now).reason? w.now = none := rfl
  have storable : ∃ r ∈ records, r.Storable := ⟨_, List.mem_cons_self, by decide⟩
  obtain ⟨b, sent, writes⟩ := (batchWrite_of_live Client.slow live rfl records).2 storable
  exact ⟨live, storable, b, sent, writes, writes.limits.2 ⟨by decide, by decide⟩⟩

/-- Two records of one key make a request that names the key twice, and a hundred and one records a
request with as many entries. -/
theorem batchWrite_beyondLimits :
    let a : Adapter := .new "users" .verbatim none
    let w : World Client :=
      ⟨0, 0, .adapted a (.emulator (.empty 0)) .initial, none, 0, [], [], []⟩
    let sent (records : Records) :=
      (w.alone Client.slow (fun _ => .unbounded) (.bulkSave records)).2.requests
    let twice : Records := [.ofText "1" "1" none, .ofText "1" "2" none]
    let many : Records := (List.range 101).map fun n =>
      .ofText (String.ofList (List.replicate (n + 1) 'k')) "1" none
    (∃ b, sent twice = [.batchWrite b] ∧ b.entriesOf "users" =
        [⟨some (recordItem "1" "1" none)⟩, ⟨some (recordItem "1" "2" none)⟩] ∧
      ¬ b.WithinLimits "users") ∧
    ∃ b, sent many = [.batchWrite b] ∧ (b.entriesOf "users").length = 101 ∧
      ¬ b.WithinLimits "users" := by
  intro a w sent twice many
  constructor
  · refine ⟨a.batchWrite [("1", ⟨"1", none⟩), ("1", ⟨"2", none⟩)], by decide +kernel, rfl, ?_⟩
    exact fun within => absurd within.once (by decide)
  · have storable : ∀ r ∈ many, r.Storable := fun r member => by
      obtain ⟨n, -, rfl⟩ := List.mem_map.1 member
      refine ⟨?_, "1", rfl⟩
      rw [Record.ofText, Text.isBlankText, String.toList_ofList, List.replicate_succ, List.all_cons,
        show Text.isBlank 'k' = false by decide, Bool.false_and]
    have all : many.storable = many :=
      List.filter_eq_self.2 fun r member => decide_eq_true (storable r member)
    have sent_many := (@World.sent_bulkSave _ Client.slow w (fun _ => .unbounded) rfl a _ _ rfl
      many).2 ⟨_, List.mem_cons_self, storable _ List.mem_cons_self⟩
    have length : ((a.storing 0 many).entriesOf "users").length = 101 := by
      rw [show "users" = a.table from rfl, a.length_storing, all, List.length_map,
        List.length_range]
    exact ⟨_, sent_many, length, fun within => absurd within.few (by rw [length]; decide)⟩

end RecordStore
