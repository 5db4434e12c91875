/-
RecordStore.Proofs.Batch -- batches agree with single operations

A batch takes its own way through a store, but ends where its parts, done one by
one, would.  What a store holds says all about both ways: reads are answered
from it (`Holdings.get`), and writes put entries into it one after the other
(`Holdings.put`, `World.Holds.visit`), whether they come in one batch or each
with a save of its own (`writes_bulkSave_cons`).
-/
import RecordStore.Proofs.Contents
import RecordStore.Proofs.Visit

namespace RecordStore

set_option autoImplicit false

open RecordStore.Wire

/-! ## What a batch writes -/

/-- The record has an entry under its own key. -/
def Record.Storable (r : Record) : Prop :=
  Text.isBlankText r.key = false ∧ ∃ text, r.encode = .ok text

theorem Record.Storable.entry? {r : Record} (storable : r.Storable)
    (expiry : Option Timestamp) : ∃ kept, r.entry? r.key expiry = some (r.key, kept) := by
  obtain ⟨named, text, encoded⟩ := storable
  exact ⟨⟨text, expiry⟩, by simp [Record.entry?, named, encoded]⟩

section

variable (expiry : Record → Option Timestamp)

theorem writes_bulkSave_append (first rest : Records) :
    (Operation.bulkSave (first ++ rest)).writes expiry =
      (Operation.bulkSave first).writes expiry ++ (Operation.bulkSave rest).writes expiry :=
  List.filterMap_append

/-- A batch writes what saves of its records would write. -/
theorem writes_bulkSave_cons (record : Record) (rest : Records) :
    (Operation.bulkSave (record :: rest)).writes expiry =
      (Operation.save record.key (some record)).writes expiry ++
        (Operation.bulkSave rest).writes expiry := by
  rw [Operation.writes, Operation.writes, Operation.writes, List.filterMap_cons]
  cases record.entry? record.key (expiry record) <;> rfl

/-- Without the records of a key a batch writes nothing under it, and else the same. -/
theorem writes_bulkSave_filter (key : String) (records : Records) :
    (Operation.bulkSave (records.filter (·.key != key))).writes expiry =
      ((Operation.bulkSave records).writes expiry).filter (·.1 != key) := by
  induction records with
  | nil => rfl
  | cons record rest ih =>
    rw [writes_bulkSave_cons, List.filter_append, ← ih, Operation.writes]
    by_cases same : record.key = key
    · rw [List.filter_cons_of_neg (by simp [same])]
      cases made : record.entry? record.key (expiry record) with
      | none => rfl
      | some e => simp [(Record.entry?_eq_some made).1, same]
    · rw [List.filter_cons_of_pos (by simp [same]), writes_bulkSave_cons, Operation.writes]
      cases made : record.entry? record.key (expiry record) with
      | none => rfl
      | some e => simp [(Record.entry?_eq_some made).1, same]

end

/-! ## What a store holds -/

/-- What a store holds: the contents of the reference store, or the tables that an adapter has
below it. -/
inductive Holdings
  | contents (s : Reference)
  | tables (adapter : Adapter) (all : Dict Table)

namespace Holdings

/-- The expiry that is written with a record. -/
def expiryAt (time : Timestamp) : Holdings → Record → Option Timestamp
  | .contents _ => Record.expiry?
  | .tables adapter _ => adapter.expiryFor time

/-- Entries are put one after the other. -/
def put (entries : List (String × Stored)) : Holdings → Holdings
  | .contents s => .contents (Dict.putAll entries s)
  | .tables adapter all =>
    .tables adapter (Emulator.fill adapter.table (entries.map Stored.keyed) all)

/-- The answer to a read of a key that is not blank. -/
def get (time : Timestamp) (key : String) : Holdings → Except StoreError Record
  | .contents s => (s.lookup key time).elim (.error .keyNotFound) .ok
  | .tables adapter all => Adapter.recordOfFound ⟨((all.get? adapter.table).getD ∅).get? key⟩

theorem toOption_get_contents (s : Reference) (time : Timestamp) (key : String) :
    ((contents s).get time key).toOption = s.lookup key time := by
  rw [get]
  cases s.lookup key time <;> rfl

variable (held : Holdings)

@[simp] theorem put_nil : held.put [] = held := by
  cases held <;> rfl

@[simp] theorem expiryAt_put (entries : List (String × Stored)) (time : Timestamp) :
    (held.put entries).expiryAt time = held.expiryAt time := by
  cases held <;> rfl

theorem put_append (first rest : List (String × Stored)) :
    held.put (first ++ rest) = (held.put first).put rest := by
  cases held with
  | contents s => exact congrArg contents (Dict.putAll_append first rest s)
  | tables adapter all =>
    refine congrArg (tables adapter) ?_
    rw [List.map_append, Emulator.fill_append]

/-- An entry overrides the entries of its key that come before it. -/
theorem put_override (first rest : List (String × Stored)) (e : String × Stored) :
    held.put (first ++ e :: rest) = held.put (first.filter (·.1 != e.1) ++ e :: rest) := by
  cases held with
  | contents s => exact congrArg contents (Dict.putAll_override first rest e s)
  | tables adapter all =>
    refine congrArg (tables adapter) ?_
    have keyed : (first.filter (·.1 != e.1)).map Stored.keyed =
        (first.map Stored.keyed).filter (·.1 != (Stored.keyed e).1) := by
      rw [List.filter_map]
      rfl
    rw [List.map_append, List.map_append, List.map_cons, keyed, Emulator.fill_override]

/-- A read does not see what is put under other keys. -/
theorem get_put {entries : List (String × Stored)} {key : String}
    (others : ∀ e ∈ entries, e.1 ≠ key) (time : Timestamp) :
    (held.put entries).get time key = held.get time key := by
  cases held with
  | contents s =>
    rw [put, get, get, Reference.lookup, Reference.lookup, Dict.get?_putAll_of_ne others]
  | tables adapter all =>
    rw [put, get, get, Emulator.keyed_fill_of_ne others]

/-- An adapter reads what was put last under a key. -/
theorem get_put_tables {key : String} {kept : Stored} (first : List (String × Stored))
    {rest : List (String × Stored)} (others : ∀ e ∈ rest, e.1 ≠ key) (adapter : Adapter)
    (all : Dict Table) (time : Timestamp) :
    ((tables adapter all).put (first ++ (key, kept) :: rest)).get time key =
      Adapter.recordOfFound ⟨some (kept.item key)⟩ := by
  rw [put, get, Emulator.keyed_fill_last first others kept]

end Holdings

/-- The store holds this, answers after a latency, was not told to fail, and has no read in
flight. -/
inductive World.Holds (w : World Client) : Holdings → Nat → Prop
  | reference {container : String} {contents : Reference}
      (store : w.store = .reference container contents) : Holds w (.contents contents) 0
  | adapted {adapter : Adapter} {e : Emulator} (serves : w.Serves adapter e)
      (willing : e.failure? = none) : Holds w (.tables adapter e.tables) e.latency

/-- Contexts for operations that begin at any instant, each of which is live until an answer that
takes the latency has come. -/
structure LiveContext (latency : Nat) where
  life : Instant → Lifespan
  outlasts : ∀ now, (life now).Outlasts (now + latency)

/-- Contexts with a deadline, some time after the answer has come. -/
def LiveContext.deadline (latency spare : Nat) : LiveContext latency where
  life now := ⟨none, some (now + latency + spare + 1)⟩
  outlasts now t ends := by
    cases ends
    exact Nat.lt_succ_of_le (Nat.le_add_right (now + latency) spare)

/-- An operation that begins at an instant under a live context finds it live. -/
theorem LiveContext.stop?_eq_none {latency : Nat} (context : LiveContext latency)
    (time : Timestamp) (op : Operation) (now : Instant) :
    ((⟨time, context.life, op⟩ : Visit).moment now).stop? = none :=
  Lifespan.reason?_eq_none.2 fun t ends =>
    Nat.lt_of_le_of_lt (Nat.le_add_right now latency) (context.outlasts now t ends)

/-! ## One operation -/

namespace World.Holds

variable {w : World Client} {held : Holdings} {latency : Nat} (holds : w.Holds held latency)
  (time : Timestamp) (context : LiveContext latency)

include holds

/-- Under a live context every operation ends, and puts what it writes. -/
theorem visit (op : Operation) :
    let done := w.visit ⟨time, context.life, op⟩
    (∃ result, done.1 = some result) ∧
      done.2.Holds (held.put (op.writes (held.expiryAt time))) latency := by
  intro done
  have live := context.stop?_eq_none time op w.now
  cases holds with
  | @reference container contents store =>
    obtain ⟨ended, store'⟩ := w.visit_reference store ⟨time, context.life, op⟩
    rw [Reference.perform_state container live] at store'
    exact ⟨⟨_, ended⟩, .reference store'⟩
  | @adapted adapter e serves willing =>
    obtain ⟨ended, serves'⟩ :=
      w.visit_adapted_of_outlasts serves ⟨time, context.life, op⟩ (context.outlasts w.now)
    have puts := adapter.perform_puts willing live op
    have after := adapted serves' (puts.failure.trans willing)
    rw [puts.tables, puts.latency] at after
    exact ⟨⟨_, ended⟩, after⟩

/-- A single read is answered from what is held. -/
theorem visit_get {key : String} (named : Text.isBlankText key = false) :
    (w.visit ⟨time, context.life, .get key⟩).1 = some (held.get time key) := by
  have live := context.stop?_eq_none time (.get key) w.now
  cases holds with
  | @reference container contents store =>
    refine (w.visit_reference store ⟨time, context.life, .get key⟩).1.trans (congrArg some ?_)
    exact Reference.get_of_live live named contents
  | @adapted adapter e serves willing =>
    obtain ⟨ended, -⟩ :=
      w.visit_adapted_of_outlasts serves ⟨time, context.life, .get key⟩ (context.outlasts w.now)
    exact ended.trans
      (congrArg some (adapter.perform_get_result willing live (validateKey_eq_ok.2 named)))

/-- A batch of reads is answered from what is held, too. -/
theorem visit_bulkGet {keys : List String} (few : keys.length ≤ maxBulkKeys)
    (named : ∀ key ∈ keys, Text.isBlankText key = false) :
    (w.visit ⟨time, context.life, .bulkGet keys⟩).1 =
      some (.ok (keys.eraseDups.filterMap fun key => (held.get time key).toOption)) := by
  have live := context.stop?_eq_none time (.bulkGet keys) w.now
  cases holds with
  | @reference container contents store =>
    refine (w.visit_reference store ⟨time, context.life, .bulkGet keys⟩).1.trans
      (congrArg some ?_)
    refine (Reference.bulkGet_of_live live few named contents).trans (congrArg Except.ok ?_)
    exact List.filterMap_congr fun key _ => (Holdings.toOption_get_contents contents time key).symm
  | @adapted adapter e serves willing =>
    obtain ⟨ended, -⟩ := w.visit_adapted_of_outlasts serves
      ⟨time, context.life, .bulkGet keys⟩ (context.outlasts w.now)
    refine ended.trans (congrArg some ?_)
    rw [adapter.perform_bulkGet_result willing live few named, List.filterMap_filterMap]
    exact congrArg Except.ok
      (List.filterMap_congr fun key _ => (Adapter.toOption_recordOfFound _).symm)

/-- A batch of writes succeeds. -/
theorem visit_bulkSave (records : Records) :
    (w.visit ⟨time, context.life, .bulkSave records⟩).1 = some (.ok ()) := by
  have live := context.stop?_eq_none time (.bulkSave records) w.now
  cases holds with
  | @reference container contents store =>
    refine (w.visit_reference store ⟨time, context.life, .bulkSave records⟩).1.trans
      (congrArg some ?_)
    show (Reference.bulkSave container _ records contents).1.result = _
    rw [Reference.bulkSave, live]
    rfl
  | @adapted adapter e serves willing =>
    obtain ⟨ended, -⟩ := w.visit_adapted_of_outlasts serves
      ⟨time, context.life, .bulkSave records⟩ (context.outlasts w.now)
    exact ended.trans (congrArg some (adapter.perform_bulkSave willing live records).1)

/-! ## Operations one after the other -/

omit context in
/-- Saves of records under their own keys put what a batch of the records would. -/
theorem visitAll_save (saves : List (Record × LiveContext latency)) :
    let done := w.visitAll (saves.map fun s => ⟨time, s.2.life, .save s.1.key (some s.1)⟩)
    (∃ answers, done.1 = some answers) ∧
      done.2.Holds (held.put ((Operation.bulkSave (saves.map (·.1))).writes
        (held.expiryAt time))) latency := by
  induction saves generalizing w held with
  | nil => exact ⟨⟨[], rfl⟩, held.put_nil.symm ▸ holds⟩
  | cons save rest ih =>
    obtain ⟨record, context⟩ := save
    obtain ⟨⟨result, ended⟩, after⟩ := holds.visit time context (.save record.key (some record))
    obtain ⟨⟨answers, later⟩, last⟩ := ih after
    rw [Holdings.expiryAt_put, ← Holdings.put_append, ← writes_bulkSave_cons] at last
    refine ⟨⟨⟨_, result⟩ :: answers, ?_⟩, ?_⟩
    · rw [List.map_cons, (visitAll_cons ended).1, later]
      rfl
    · rw [List.map_cons, (visitAll_cons ended).2]
      exact last

end World.Holds

/-! ## Batches and their parts -/

/-- Batches agree with single operations on what is held, at one time of day and under live
contexts. -/
structure World.AgreesInBatches (w : World Client) (held : Holdings) (latency : Nat)
    (time : Timestamp) : Prop where
  /-- A batch of reads gives the records that single reads find, each key once, in the order in
  which the keys appear first. -/
  reads (keys : List String) (few : keys.length ≤ maxBulkKeys)
    (named : ∀ key ∈ keys, Text.isBlankText key = false)
    (batch : LiveContext latency) (single : String → LiveContext latency) :
    (∀ key ∈ keys, (w.visit ⟨time, (single key).life, .get key⟩).1 = some (held.get time key)) ∧
      (w.visit ⟨time, batch.life, .bulkGet keys⟩).1 =
        some (.ok (keys.eraseDups.filterMap fun key => (held.get time key).toOption))
  /-- A batch of writes succeeds, and puts the entries of the records that can be stored, in their
  order.  So do saves of its records, one after the other and each under its own key, whether they
  succeed or not. -/
  writes (saves : List (Record × LiveContext latency)) (batch : LiveContext latency) :
    let together := w.visit ⟨time, batch.life, .bulkSave (saves.map (·.1))⟩
    let apart := w.visitAll (saves.map fun s => ⟨time, s.2.life, .save s.1.key (some s.1)⟩)
    let entries := (Operation.bulkSave (saves.map (·.1))).writes (held.expiryAt time)
    together.1 = some (.ok ()) ∧ (∃ answers, apart.1 = some answers) ∧
      together.2.Holds (held.put entries) latency ∧ apart.2.Holds (held.put entries) latency
  /-- A record that can be stored makes the earlier ones of its key as good as absent. -/
  overrides (before after : Records) (record : Record) (storable : record.Storable)
    (batch : LiveContext latency) :
    let records := before ++ record :: after
    let all := w.visit ⟨time, batch.life, .bulkSave records⟩
    let last := w.visit
      ⟨time, batch.life, .bulkSave (before.filter (·.key != record.key) ++ record :: after)⟩
    let entries := (Operation.bulkSave records).writes (held.expiryAt time)
    all.2.Holds (held.put entries) latency ∧ last.2.Holds (held.put entries) latency

/-- **Batches agree with single operations**, whatever the store holds: over the emulator also items
that are no records. -/
theorem agreesInBatches_of_holds {w : World Client} {held : Holdings} {latency : Nat}
    (holds : w.Holds held latency) (time : Timestamp) : w.AgreesInBatches held latency time where
  reads keys few named batch single :=
    ⟨fun key member => holds.visit_get time (single key) (named key member),
      holds.visit_bulkGet time batch few named⟩
  writes saves batch := by
    have succeeds := holds.visit_bulkSave time batch (saves.map (·.1))
    have together := (holds.visit time batch (.bulkSave (saves.map (·.1)))).2
    obtain ⟨answers, apart⟩ := holds.visitAll_save time saves
    exact ⟨succeeds, answers, together, apart⟩
  overrides before after record storable batch := by
    obtain ⟨kept, made⟩ := storable.entry? (held.expiryAt time record)
    have entries (first : Records) :
        (Operation.bulkSave (first ++ record :: after)).writes (held.expiryAt time) =
          (Operation.bulkSave first).writes (held.expiryAt time) ++
            (record.key, kept) :: (Operation.bulkSave after).writes (held.expiryAt time) := by
      rw [writes_bulkSave_append, writes_bulkSave_cons]
      simp [Operation.writes, made]
    have all := (holds.visit time batch (.bulkSave (before ++ record :: after))).2
    have last := (holds.visit time batch
      (.bulkSave (before.filter (·.key != record.key) ++ record :: after))).2
    have same := held.put_override ((Operation.bulkSave before).writes (held.expiryAt time))
      ((Operation.bulkSave after).writes (held.expiryAt time)) (record.key, kept)
    rw [entries, writes_bulkSave_filter, ← same, ← entries] at last
    exact ⟨all, last⟩

/-- A batch over an item without a value, under contexts that end after the answer: a key is written
twice with a blank key in between, and read twice before and after that. -/
theorem agreesInBatches_undecodableItem :
    let a : Adapter := .new "t" .verbatim (some (.ofSeconds 1))
    let e : Emulator := ((Emulator.empty 3).insertItem "t" (keyItem "a")).2
    let w : World Client := ⟨0, 0, .adapted a (.emulator e) .initial, none, 0, [], [], []⟩
    let held := Holdings.tables a e.tables
    let context := LiveContext.deadline 3 6
    let records := [.ofText "b" "1" none, .ofText " " "1" none, .ofText "b" "2" none]
    let together := w.visit ⟨7, context.life, .bulkSave records⟩
    let apart := w.visitAll (records.map fun r => ⟨7, context.life, .save r.key (some r)⟩)
    let after := held.put [("b", ⟨"1", some 8⟩), ("b", ⟨"2", some 8⟩)]
    let read (w : World Client) := (w.visit ⟨7, context.life, .bulkGet ["b", "a", "b"]⟩).1
    w.Holds held 3 ∧ (w.visit ⟨7, context.life, .get "b"⟩).1 = some (.error .keyNotFound) ∧
      (w.visit ⟨7, context.life, .get "a"⟩).1 =
        some (.error (.internal (.missingAttribute valueAttribute))) ∧
      read w = some (.ok []) ∧
      together.1 = some (.ok ()) ∧ together.2.Holds after 3 ∧ apart.2.Holds after 3 ∧
      (w.visit ⟨7, context.life, .bulkSave (records.drop 1)⟩).2.Holds after 3 ∧
      read together.2 = some (.ok [.ofText "b" "2" (some 8)]) := by
  intro a e w held context records together apart after read
  have holds : w.Holds held 3 := .adapted ⟨.initial, rfl, rfl⟩ rfl
  have agrees := agreesInBatches_of_holds holds 7
  have named : ∀ key ∈ ["b", "a", "b"], Text.isBlankText key = false := by decide
  obtain ⟨singles, batch⟩ :=
    agrees.reads ["b", "a", "b"] (by decide) named context fun _ => context
  have written : (Operation.bulkSave records).writes (held.expiryAt 7) =
      [("b", ⟨"1", some 8⟩), ("b", ⟨"2", some 8⟩)] := by decide +kernel
  obtain ⟨succeeds, -, all, each⟩ := agrees.writes (records.map fun r => (r, context)) context
  have storable : (Record.ofText "b" "2" none).Storable := ⟨by decide, "2", rfl⟩
  obtain ⟨-, last⟩ := agrees.overrides [.ofText "b" "1" none, .ofText " " "1" none] [] _ storable
    context
  rw [show (records.map fun r => (r, context)).map (·.1) = records from rfl, written] at all each
  rw [show [.ofText "b" "1" none, .ofText " " "1" none] ++ [.ofText "b" "2" none] = records from rfl,
    written] at last
  obtain ⟨-, later⟩ := (agreesInBatches_of_holds all 7).reads ["b", "a", "b"] (by decide) named
    context fun _ => context
  have found : after.get 7 "b" = .ok (.ofText "b" "2" (some 8)) :=
    Holdings.get_put_tables [("b", ⟨"1", some 8⟩)] (by simp) a e.tables 7
  have broken : after.get 7 "a" = .error (.internal (.missingAttribute valueAttribute)) :=
    held.get_put (by decide) 7
  have shown : ["b", "a", "b"].eraseDups.filterMap (fun key => (after.get 7 key).toOption) =
      [.ofText "b" "2" (some 8)] := by
    rw [show ["b", "a", "b"].eraseDups = ["b", "a"] from rfl, List.filterMap_cons, found,
      List.filterMap_cons, broken]
    rfl
  exact ⟨holds, singles "b" (by decide), singles "a" (by decide), batch, succeeds, all, each,
    last, later.trans (congrArg (some ∘ Except.ok) shown)⟩

end RecordStore
