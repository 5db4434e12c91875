/-
RecordStore.Proofs.Contents -- what operations leave in the stores

What an operation writes is a list of entries (`Operation.writes`).  The
reference store puts them into its contents (`Reference.perform_state`), and the
adapter puts the items that they make into its table of the emulator
(`Adapter.perform_puts`).  Under a context that is over nothing is put anywhere.
-/
import Mathlib.Data.List.Induction
import RecordStore.Emulator
import RecordStore.Proofs.Plan
import RecordStore.Proofs.Wire.RecordItem
import RecordStore.Reference

namespace RecordStore

set_option autoImplicit false

open RecordStore.Wire

/-! ## What an operation writes -/

/-- The entry that a record makes under a key with an expiry, if key and value can be stored. -/
def Record.entry? (r : Record) (key : String) (expiry : Option Timestamp) :
    Option (String × Stored) :=
  if Text.isBlankText key then none
  else
    match r.encode with
    | .ok text => some (key, ⟨text, expiry⟩)
    | .error _ => none

/-- The entries that an operation writes where records have the given expiries. -/
def Operation.writes (expiry : Record → Option Timestamp) : Operation → List (String × Stored)
  | .save key (some record) => (record.entry? key (expiry record)).toList
  | .bulkSave records => records.filterMap fun r => r.entry? r.key (expiry r)
  | .save _ none | .get _ | .bulkGet _ => []

/-- The operation writes nothing under a key. -/
def Operation.Spares (key : String) : Operation → Prop
  | .save other _ => other ≠ key
  | .bulkSave records => ∀ r ∈ records, r.key ≠ key
  | .get _ | .bulkGet _ => True

theorem Record.entry?_eq_some {r : Record} {key : String} {expiry : Option Timestamp}
    {e : String × Stored} (made : r.entry? key expiry = some e) :
    e.1 = key ∧ e.2.expiry = expiry := by
  unfold entry? at made
  split at made
  · cases made
  · split at made
    · cases made
      exact ⟨rfl, rfl⟩
    · cases made

theorem Operation.Spares.ne_of_mem_writes {key : String} {op : Operation} (spares : op.Spares key)
    (expiry : Record → Option Timestamp) : ∀ e ∈ op.writes expiry, e.1 ≠ key := by
  intro e member
  cases op with
  | get _ => cases member
  | bulkGet _ => cases member
  | save other record =>
    cases record with
    | none => cases member
    | some record =>
      rw [(Record.entry?_eq_some (Option.mem_toList.1 member)).1]
      exact spares
  | bulkSave records =>
    obtain ⟨r, among, made⟩ := List.mem_filterMap.1 member
    rw [(Record.entry?_eq_some made).1]
    exact spares r among

/-! ## The reference store -/

namespace Reference

/-- Each record of a batch is kept or passed over. -/
theorem foldl_bulkSaveOne (container : String) (records : Records) (s : Reference)
    (notices : List Notice) :
    (records.foldl (bulkSaveOne container) (s, notices)).1 =
      Dict.putAll ((Operation.bulkSave records).writes Record.expiry?) s := by
  induction records generalizing s notices with
  | nil => rfl
  | cons record rest ih =>
    have passes (given : List Notice) : record.entry? record.key record.expiry? = none →
        (rest.foldl (bulkSaveOne container) (s, given)).1 =
          Dict.putAll ((Operation.bulkSave (record :: rest)).writes Record.expiry?) s := by
      intro made
      rw [ih, Operation.writes, Operation.writes, List.filterMap_cons, made]
    rw [List.foldl_cons, bulkSaveOne]
    split
    · next blank => exact passes _ (by rw [Record.entry?, if_pos blank])
    · next sound =>
      split
      · next text encoded =>
        have made : record.entry? record.key record.expiry? =
            some (record.key, ⟨text, record.expiry?⟩) := by
          rw [Record.entry?, if_neg sound, encoded]
        rw [ih, Operation.writes, Operation.writes, List.filterMap_cons, made]
        rfl
      · next e encoded => exact passes _ (by rw [Record.entry?, if_neg sound, encoded])

theorem save_state {m : Moment} (live : m.stop? = none) (key : String) (record : Option Record)
    (s : Reference) :
    (save m key record s).2 =
      Dict.putAll ((Operation.save key record).writes Record.expiry?) s := by
  unfold save saveText validateKey
  rw [live]
  cases blank : Text.isBlankText key with
  | true => cases record <;> simp [Operation.writes, Record.entry?, blank, bind, Except.bind]
  | false =>
    cases record with
    | none => rfl
    | some record =>
      cases encoded : record.encode with
      | error e =>
        simp [Operation.writes, Record.entry?, blank, encoded, bind, Except.bind, checkLive]
      | ok text =>
        simp [Operation.writes, Record.entry?, blank, encoded, bind, Except.bind, pure,
          Except.pure, checkLive, put]

/-- Under a live context an operation puts what it writes into the contents. -/
theorem perform_state (container : String) {m : Moment} (live : m.stop? = none) (op : Operation)
    (s : Reference) :
    ((backend container).perform m op s).2 = Dict.putAll (op.writes Record.expiry?) s := by
  cases op with
  | get key => rfl
  | bulkGet keys => rfl
  | save key record => exact save_state live key record s
  | bulkSave records =>
    show (bulkSave container m records s).2 = _
    rw [bulkSave, live]
    exact foldl_bulkSaveOne container records s []

/-- Under a context that is over the contents stay as they are. -/
theorem perform_state_of_over (container : String) {m : Moment} {reason : StopReason}
    (ended : m.stop? = some reason) (op : Operation) (s : Reference) :
    ((backend container).perform m op s).2 = s := by
  cases op with
  | get key => rfl
  | bulkGet keys => rfl
  | save key record =>
    show (save m key record s).2 = s
    unfold save
    cases saved : saveText m key record with
    | error e => rfl
    | ok kept =>
      obtain ⟨_, _, saved⟩ := bind_eq_ok.1 saved
      cases record with
      | none => cases saved
      | some record =>
        obtain ⟨_, live, _⟩ := bind_eq_ok.1 saved
        rw [checkLive_eq_ok.1 live] at ended
        cases ended
  | bulkSave records =>
    show (bulkSave container m records s).2 = _
    rw [bulkSave, ended]
    rfl

/-- A read under a live context is answered from what is under its key. -/
theorem get_of_live {m : Moment} (live : m.stop? = none) {key : String}
    (named : Text.isBlankText key = false) (s : Reference) :
    get m key s = (s.lookup key m.time).elim (.error .keyNotFound) .ok := by
  unfold get
  rw [validateKey_eq_ok.2 named, live]
  dsimp only [bind, Except.bind, checkLive]
  cases s.lookup key m.time <;> rfl

theorem bulkGet_of_live {m : Moment} (live : m.stop? = none) {keys : List String}
    (few : keys.length ≤ maxBulkKeys) (named : ∀ key ∈ keys, Text.isBlankText key = false)
    (s : Reference) :
    bulkGet m keys s = .ok (keys.eraseDups.filterMap fun key => s.lookup key m.time) := by
  unfold bulkGet
  rw [validateBulkKeys_eq_ok.2 few, forM_validateKey_eq_ok.2 named, live]
  rfl

end Reference

/-! ## The emulator -/

/-- The item that keeps a stored text. -/
def Stored.item (kept : Stored) (key : String) : Item := recordItem key kept.text kept.expiry

/-- The item of an entry, under its key. -/
def Stored.keyed (e : String × Stored) : String × Item := (e.1, e.2.item e.1)

theorem Stored.ne_of_mem_keyed {entries : List (String × Stored)} {key : String}
    (others : ∀ e ∈ entries, e.1 ≠ key) : ∀ x ∈ entries.map Stored.keyed, x.1 ≠ key :=
  List.forall_mem_map.2 others

namespace Emulator

@[simp] theorem itemKey_keyItem (key : String) : itemKey (keyItem key) = .ok key := by
  rw [itemKey, get?_keyItem, if_pos rfl]

@[simp] theorem itemKey_item (kept : Stored) (key : String) :
    itemKey (kept.item key) = .ok key := by
  have name : (kept.item key).get? keyAttribute = some (.string key) := by
    rw [Stored.item, get?_recordItem]
    simp [expiryAttribute, valueAttribute, keyAttribute]
  rw [itemKey, name]

/-- Items of stored texts are all taken. -/
theorem putAll_items (entries : List (String × Stored)) (t : Table) :
    putAll (entries.map fun e => e.2.item e.1) t =
      (none, Dict.putAll (entries.map Stored.keyed) t) := by
  induction entries generalizing t with
  | nil => rfl
  | cons e rest ih =>
    rw [List.map_cons, putAll, itemKey_item]
    exact ih _

/-- A batch of writes to one table. -/
theorem putTables_items (name : String) (entries : List (String × Stored)) (tables : Dict Table) :
    putTables [(name, entries.map fun e => ⟨some (e.2.item e.1)⟩)] tables =
      (none, tables.insert name
        (Dict.putAll (entries.map Stored.keyed) ((tables.get? name).getD ∅))) := by
  have items : (entries.map fun e => (⟨some (e.2.item e.1)⟩ : WriteEntry)).filterMap (·.put?) =
      entries.map fun e => e.2.item e.1 := by
    rw [List.filterMap_map, ← List.filterMap_eq_map]
    rfl
  rw [putTables, items, putAll_items]
  rfl

theorem findAll_keys (t : Table) (keys : List String) :
    findAll t (keys.map keyItem) = .ok (keys.filterMap t.get?) := by
  induction keys with
  | nil => rfl
  | cons key rest ih =>
    rw [List.map_cons, findAll, itemKey_keyItem, ih]
    dsimp only [bind, Except.bind, pure, Except.pure]
    rw [List.filterMap_cons]
    cases t.get? key <;> rfl

/-- A batch of reads from one table finds nothing where the table does not exist. -/
theorem findTables_keys (e : Emulator) (name : String) (keys : List String) :
    e.findTables [(name, ⟨keys.map keyItem⟩)] =
      .ok ((∅ : Dict (List Item)).insert name (keys.filterMap (e.item? name))) := by
  have none_of_empty : keys.filterMap (fun key => (∅ : Table).get? key) = [] := by
    rw [List.filterMap_eq_nil_iff]
    exact fun key _ => rfl
  rw [findTables]
  unfold item? table
  cases e.tables.get? name with
  | some t =>
    dsimp only [Option.getD_some]
    rw [findAll_keys]
    rfl
  | none =>
    dsimp only [Option.getD_none]
    rw [none_of_empty]
    rfl

/-- The tables after entries were put into one of them, one after the other.  The first of them
makes the table, if there is none. -/
def fill (name : String) (entries : List (String × Item)) (tables : Dict Table) : Dict Table :=
  entries.foldl
    (fun tables e => tables.insert name (((tables.get? name).getD ∅).insert e.1 e.2)) tables

theorem fill_append (name : String) (first rest : List (String × Item)) (tables : Dict Table) :
    fill name (first ++ rest) tables = fill name rest (fill name first tables) :=
  List.foldl_append ..

theorem fill_insert (name : String) (entries : List (String × Item)) (tables : Dict Table)
    (t : Table) :
    fill name entries (tables.insert name t) = tables.insert name (Dict.putAll entries t) := by
  induction entries generalizing t with
  | nil => rfl
  | cons e rest ih =>
    have first : fill name (e :: rest) (tables.insert name t) =
        fill name rest ((tables.insert name t).insert name (t.insert e.1 e.2)) := by
      simp [fill]
    rw [first, Dict.insert_insert, ih, Dict.putAll_cons]

/-- A batch of entries can be put into the table at once. -/
theorem fill_eq_insert {entries : List (String × Item)} (some_ : entries ≠ []) (name : String)
    (tables : Dict Table) :
    fill name entries tables =
      tables.insert name (Dict.putAll entries ((tables.get? name).getD ∅)) := by
  cases entries with
  | nil => exact absurd rfl some_
  | cons e rest => exact fill_insert name rest tables _

/-- An entry overrides the entries of its key that come before it. -/
theorem fill_override (name : String) (first rest : List (String × Item)) (e : String × Item)
    (tables : Dict Table) :
    fill name (first ++ e :: rest) tables =
      fill name (first.filter (·.1 != e.1) ++ e :: rest) tables := by
  rw [fill_eq_insert (by simp), fill_eq_insert (by simp), Dict.putAll_override]

theorem get?_fill (name : String) (entries : List (String × Item)) (tables : Dict Table) :
    ((fill name entries tables).get? name).getD ∅ =
      Dict.putAll entries ((tables.get? name).getD ∅) := by
  cases entries with
  | nil => rfl
  | cons e rest =>
    rw [fill_eq_insert (List.cons_ne_nil e rest), Dict.get?_insert_self]
    rfl

/-- The item of the entry that was put last under a key is there. -/
theorem keyed_fill_last {key : String} (first : List (String × Stored))
    {rest : List (String × Stored)} (others : ∀ e ∈ rest, e.1 ≠ key) (kept : Stored)
    (name : String) (tables : Dict Table) :
    (((fill name ((first ++ (key, kept) :: rest).map Stored.keyed) tables).get? name).getD ∅).get?
      key = some (kept.item key) := by
  rw [get?_fill, List.map_append, List.map_cons]
  exact Dict.get?_putAll_last _ (Stored.ne_of_mem_keyed others) (kept.item key) _

/-- Entries of other keys leave the item of a key alone. -/
theorem keyed_fill_of_ne {entries : List (String × Stored)} {key : String}
    (others : ∀ e ∈ entries, e.1 ≠ key) (name : String) (tables : Dict Table) :
    (((fill name (entries.map Stored.keyed) tables).get? name).getD ∅).get? key =
      ((tables.get? name).getD ∅).get? key := by
  rw [get?_fill, Dict.get?_putAll_of_ne (Stored.ne_of_mem_keyed others)]

theorem item?_insert (e : Emulator) (name : String) (t : Table) (key : String) (counts : CallCounts)
    (lastWrite? : Option Item) (lastBatchWrite? : Option BatchWrite) :
    ({ e with tables := e.tables.insert name t, counts, lastWrite?, lastBatchWrite? } :
      Emulator).item? name key = t.get? key := by
  simp [item?, table]

theorem complete_of_willing {e : Emulator} (willing : e.failure? = none) (request : Request) :
    e.complete request = e.effect request := by
  rw [complete, willing]

theorem complete_noteCall {e : Emulator} (willing : e.failure? = none) (request : Request) :
    (e.noteCall request).complete request = (e.noteCall request).effect request :=
  complete_of_willing (show (e.noteCall request).failure? = none from willing) request

/-- A read is answered with the item that is there. -/
theorem complete_read {e : Emulator} (willing : e.failure? = none) (name key : String) :
    e.complete (.read ⟨name, keyItem key⟩) = (.ok ⟨e.item? name key⟩, e) := by
  rw [complete_of_willing willing, effect, itemKey_keyItem]

/-- A write puts its item. -/
theorem complete_write {e : Emulator} (willing : e.failure? = none) {request : ItemWrite}
    {key : String} (named : itemKey request.item = .ok key) :
    e.complete (.write request) = (.ok ⟨⟩, { e with
      tables := e.tables.insert request.table ((e.table request.table).insert key request.item),
      lastWrite? := some request.item }) := by
  rw [complete_of_willing willing, effect, named]

end Emulator

/-- The emulator after the items of entries were put into a table. -/
structure Puts (name : String) (entries : List (String × Stored)) (e e' : Emulator) : Prop where
  failure : e'.failure? = e.failure?
  latency : e'.latency = e.latency
  tables : e'.tables = Emulator.fill name (entries.map Stored.keyed) e.tables

namespace Puts

variable {name : String} {e e' e'' : Emulator} {entries more : List (String × Stored)}

theorem nothing : Puts name [] e e := ⟨rfl, rfl, rfl⟩

theorem noteCall (request : Request) : Puts name [] e (e.noteCall request) := ⟨rfl, rfl, rfl⟩

theorem item (puts : Puts name entries e e') (key : String) :
    e'.item? name key = (Dict.putAll (entries.map Stored.keyed) (e.table name)).get? key := by
  rw [Emulator.item?, Emulator.table, puts.tables, Emulator.get?_fill]
  rfl

theorem trans (first : Puts name entries e e') (rest : Puts name more e' e'') :
    Puts name (entries ++ more) e e'' where
  failure := rest.failure.trans first.failure
  latency := rest.latency.trans first.latency
  tables := by rw [rest.tables, first.tables, List.map_append, Emulator.fill_append]

end Puts

/-! ## The adapter over the emulator -/

namespace Adapter

/-- The entries of a batch are the items of what it writes. -/
theorem writeEntries_fst (a : Adapter) (time : Timestamp) (records : Records) :
    (a.writeEntries time records).1 =
      ((Operation.bulkSave records).writes (a.expiryFor time)).map
        fun e => ⟨some (e.2.item e.1)⟩ := by
  induction records using List.reverseRecOn with
  | nil => rfl
  | append_singleton rest record ih =>
    unfold writeEntries at ih ⊢
    rw [List.foldl_append, List.foldl_cons, List.foldl_nil, Operation.writes,
      List.filterMap_append, List.map_append]
    rw [Operation.writes] at ih
    split
    · next blank =>
      rw [ih, List.filterMap_cons, Record.entry?, if_pos blank]
      simp
    · next sound =>
      split
      · next text encoded =>
        rw [ih, List.filterMap_cons, Record.entry?, if_neg sound, encoded]
        rfl
      · next failure encoded =>
        rw [ih, List.filterMap_cons, Record.entry?, if_neg sound, encoded]
        simp

/-- The records of items are those of the items that are records. -/
theorem decodeItems_fst (table : String) (items : List Item) :
    (decodeItems table items).1 = items.filterMap fun item => (recordOfItem item).toOption := by
  induction items using List.reverseRecOn with
  | nil => rfl
  | append_singleton rest item ih =>
    unfold decodeItems at ih ⊢
    rw [List.foldl_append, List.foldl_cons, List.foldl_nil, List.filterMap_append, ← ih]
    cases decoded : recordOfItem item <;> simp [decoded, Except.toOption]

/-- A single read finds the record of the item that is there, if it is one. -/
theorem toOption_recordOfFound (item? : Option Item) :
    (recordOfFound ⟨item?⟩).toOption = item?.bind fun item => (recordOfItem item).toOption := by
  cases item? with
  | none => rfl
  | some item =>
    unfold recordOfFound
    dsimp only [Option.bind_some]
    split
    · next empty =>
      rw [Dict.isEmpty_eq_true.1 empty]
      rfl
    · rfl

/-- A save that is not refused writes the item of its entry. -/
theorem saveItem_eq_ok {a : Adapter} {m : Moment} {key : String} {record : Option Record}
    {item : Item} (saved : a.saveItem m key record = .ok item) :
    ∃ kept, (Operation.save key record).writes (a.expiryFor m.time) = [(key, kept)] ∧
      item = kept.item key := by
  obtain ⟨_, valid, saved⟩ := bind_eq_ok.1 saved
  have sound := validateKey_eq_ok.1 valid
  cases record with
  | none => cases saved
  | some record =>
    obtain ⟨text, encoded, saved⟩ := bind_eq_ok.1 saved
    obtain ⟨_, _, made⟩ := bind_eq_ok.1 saved
    refine ⟨⟨text, a.expiryFor m.time record⟩, ?_, ?_⟩
    · simp [Operation.writes, Record.entry?, sound, encoded]
    · cases made
      rfl

/-- A save that is refused under a live context has nothing to write. -/
theorem writes_of_saveItem_error {a : Adapter} {m : Moment} (live : m.stop? = none) {key : String}
    {record : Option Record} {failure : StoreError}
    (refused : a.saveItem m key record = .error failure) :
    (Operation.save key record).writes (a.expiryFor m.time) = [] := by
  cases record with
  | none => rfl
  | some record =>
    cases blank : Text.isBlankText key with
    | true => simp [Operation.writes, Record.entry?, blank]
    | false =>
      cases encoded : record.encode with
      | error e => simp [Operation.writes, Record.entry?, blank, encoded]
      | ok text =>
        simp [saveItem, validateKey, blank, encoded, checkLive, live, bind, Except.bind, pure,
          Except.pure] at refused

/-! ### Operations -/

variable (a : Adapter) {m : Moment} {e : Emulator}

theorem perform_get_puts (willing : e.failure? = none) (m : Moment) (key : String) :
    Puts a.table [] e ((a.backend Emulator.client).perform m (.get key) e).2 := by
  show Puts a.table [] e ((a.planGet m key).carryOut Emulator.client e).2
  unfold planGet
  split
  · exact .nothing
  · dsimp only [Plan.carryOut, Emulator.client]
    rw [Emulator.complete_noteCall willing]
    dsimp only [readRequest, Emulator.effect]
    rw [Emulator.itemKey_keyItem]
    exact .noteCall _

/-- A read of a sound key gives the record of the item that is there. -/
theorem perform_get_result (willing : e.failure? = none) (live : m.stop? = none) {key : String}
    (valid : validateKey key = .ok ()) :
    ((a.backend Emulator.client).perform m (.get key) e).1.result =
      recordOfFound ⟨e.item? a.table key⟩ := by
  show ((a.planGet m key).carryOut Emulator.client e).1.result = _
  unfold planGet
  rw [valid, live]
  dsimp only [bind, Except.bind, checkLive, Plan.carryOut, Emulator.client]
  rw [Emulator.complete_noteCall willing]
  dsimp only [readRequest, Emulator.effect]
  rw [Emulator.itemKey_keyItem]
  rfl

theorem perform_bulkGet_puts (willing : e.failure? = none) (m : Moment) (keys : List String) :
    Puts a.table [] e ((a.backend Emulator.client).perform m (.bulkGet keys) e).2 := by
  show Puts a.table [] e ((a.planBulkGet m keys).carryOut Emulator.client e).2
  unfold planBulkGet
  split
  · exact .nothing
  · split
    · exact .nothing
    · dsimp only [Plan.carryOut, Emulator.client]
      rw [Emulator.complete_noteCall willing, Emulator.effect]
      split <;> exact .noteCall _

/-- A batch of reads of sound keys gives the records of the items that are there and are records,
each key looked at once. -/
theorem perform_bulkGet_result (willing : e.failure? = none) (live : m.stop? = none)
    {keys : List String} (few : keys.length ≤ maxBulkKeys)
    (named : ∀ key ∈ keys, Text.isBlankText key = false) :
    ((a.backend Emulator.client).perform m (.bulkGet keys) e).1.result =
      .ok ((keys.eraseDups.filterMap (e.item? a.table)).filterMap
        fun item => (recordOfItem item).toOption) := by
  show ((a.planBulkGet m keys).carryOut Emulator.client e).1.result = _
  unfold planBulkGet
  rw [validateBulkKeys_eq_ok.2 few, forM_validateKey_eq_ok.2 named, live]
  dsimp only [bind, Except.bind, checkLive]
  split
  · next none =>
    rw [List.isEmpty_iff.1 none]
    rfl
  · dsimp only [Plan.carryOut, Emulator.client]
    rw [Emulator.complete_noteCall willing]
    dsimp only [Emulator.effect, batchReadRequest]
    rw [Dict.entries_singleton, Emulator.findTables_keys]
    dsimp only [Except.mapError, batchReadReply]
    rw [Dict.visit_singleton, List.map_singleton, List.flatMap_singleton, decodeItems_fst]
    rfl

/-- A save is refused or puts its item. -/
theorem perform_save (willing : e.failure? = none) (live : m.stop? = none) (key : String)
    (record : Option Record) :
    let done := (a.backend Emulator.client).perform m (.save key record) e
    done.1.result = (a.saveItem m key record).map (fun _ => ()) ∧
      Puts a.table ((Operation.save key record).writes (a.expiryFor m.time)) e done.2 := by
  intro done
  have planned : done = (a.planSave m key record).carryOut Emulator.client e := rfl
  rw [planned]
  unfold planSave
  cases saved : a.saveItem m key record with
  | error failure =>
    rw [writes_of_saveItem_error live saved]
    exact ⟨rfl, .nothing⟩
  | ok item =>
    obtain ⟨kept, writes, rfl⟩ := saveItem_eq_ok saved
    rw [writes]
    dsimp only [Plan.carryOut, Emulator.client]
    rw [Emulator.complete_noteCall willing]
    dsimp only [Emulator.effect]
    rw [Emulator.itemKey_item]
    exact ⟨rfl, rfl, rfl, rfl⟩

/-- A batch of writes never fails. -/
theorem perform_bulkSave (willing : e.failure? = none) (live : m.stop? = none)
    (records : Records) :
    let done := (a.backend Emulator.client).perform m (.bulkSave records) e
    done.1.result = .ok () ∧
      Puts a.table ((Operation.bulkSave records).writes (a.expiryFor m.time)) e done.2 := by
  intro done
  have planned : done = (a.planBulkSave m records).carryOut Emulator.client e := rfl
  rw [planned]
  unfold planBulkSave
  rw [live]
  dsimp only [checkLive]
  rw [writeEntries_fst]
  split
  · next none =>
    rw [List.map_eq_nil_iff.1 (List.isEmpty_iff.1 none)]
    exact ⟨rfl, .nothing⟩
  · next some_ =>
    have items : ((Operation.bulkSave records).writes (a.expiryFor m.time)).map Stored.keyed ≠ [] :=
      fun none => some_ (by simp [List.map_eq_nil_iff.1 none])
    dsimp only [Plan.carryOut, Emulator.client]
    rw [Emulator.complete_noteCall willing]
    dsimp only [Emulator.effect]
    rw [Dict.entries_singleton, Emulator.putTables_items]
    exact ⟨rfl, rfl, rfl, (Emulator.fill_eq_insert items a.table e.tables).symm⟩

/-- Under a live context an operation puts what it writes into the adapter's table. -/
theorem perform_puts (willing : e.failure? = none) (live : m.stop? = none) (op : Operation) :
    Puts a.table (op.writes (a.expiryFor m.time)) e
      ((a.backend Emulator.client).perform m op e).2 := by
  cases op with
  | get key => exact a.perform_get_puts willing m key
  | save key record => exact (a.perform_save willing live key record).2
  | bulkGet keys => exact a.perform_bulkGet_puts willing m keys
  | bulkSave records => exact (a.perform_bulkSave willing live records).2

/-- Under a context that is over the wire is asked for nothing. -/
theorem perform_state_of_over {σ : Type} (client : WireClient σ) {reason : StopReason}
    (ended : m.stop? = some reason) (op : Operation) (s : σ) :
    ((a.backend client).perform m op s).2 = s := by
  show ((a.plan m op).carryOut client s).2 = s
  have sound := a.plan_sound m op
  cases planned : a.plan m op with
  | done reply => rfl
  | sharedRead request =>
    rw [planned] at sound
    exact absurd (ended.symm.trans sound) nofun
  | exchange request conclude =>
    rw [planned] at sound
    exact absurd (ended.symm.trans sound.1) nofun

end Adapter

end RecordStore
