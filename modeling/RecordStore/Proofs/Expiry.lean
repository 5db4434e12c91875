/-
RecordStore.Proofs.Expiry -- when records expire

A time to live is counted in whole seconds from a time of day and stops at the
greatest timestamp (`Timestamp.after_eq`), so it never ends before it begins and
never earlier for being longer.  The expiry that is due to a record is its own
or that of the store (`dueExpiry`).  It is what an adapter sends with the record
in a save and in a batch alike (`planSave_item`, `planBulkSave_items`), as a
decimal, and what a read gives back.
-/
import Mathlib.Data.List.Forall2
import RecordStore.Proofs.Kept
import RecordStore.Proofs.Wire.RecordForm

namespace RecordStore

set_option autoImplicit false

open RecordStore.Wire

/-! ## Times to live -/

namespace Timestamp

/-- The time that lies the whole seconds of a time to live after `now`, if it is a timestamp, and
else the greatest one. -/
def dueAfter (now : Timestamp) (ttl : Duration) : Timestamp :=
  min (now + ttl.seconds) maxTimestamp

theorem after_eq {now : Timestamp} (nonneg : 0 ≤ now) (ttl : Duration) :
    now.after ttl = now.dueAfter ttl := by
  unfold after dueAfter
  rcases Int.le_total ttl.seconds maxTimestamp with fits | exceeds
  · rw [Int.min_eq_left fits]
  · -- Seconds beyond the greatest timestamp are cut, and the sum is cut either way.
    have far : maxTimestamp ≤ now + maxTimestamp := Int.le_add_of_nonneg_left nonneg
    have farther : maxTimestamp ≤ now + ttl.seconds :=
      Int.le_trans exceeds (Int.le_add_of_nonneg_left nonneg)
    rw [Int.min_eq_right exceeds, Int.min_eq_right far, Int.min_eq_right farther]

theorem dueAfter_le (now : Timestamp) (ttl : Duration) : now.dueAfter ttl ≤ maxTimestamp :=
  Int.min_le_right _ _

theorem le_dueAfter {now : Timestamp} (range : now ≤ maxTimestamp) (ttl : Duration) :
    now ≤ now.dueAfter ttl :=
  Int.le_min.2 ⟨Int.le_add_of_nonneg_right (Int.natCast_nonneg _), range⟩

theorem dueAfter_pos {now : Timestamp} (positive : 1 ≤ now) (ttl : Duration) :
    0 < now.dueAfter ttl :=
  Int.lt_min.2 ⟨Int.lt_of_lt_of_le positive (Int.le_add_of_nonneg_right (Int.natCast_nonneg _)),
    by decide⟩

theorem dueAfter_mono (now : Timestamp) {ttl longer : Duration} (le : ttl.nanos ≤ longer.nanos) :
    now.dueAfter ttl ≤ now.dueAfter longer := by
  have seconds : (ttl.seconds : Int) ≤ longer.seconds :=
    Int.ofNat_le.2 (Nat.div_le_div_right le)
  exact Int.le_min.2 ⟨Int.le_trans (Int.min_le_left _ _) (Int.add_le_add_left seconds now),
    Int.min_le_right _ _⟩

end Timestamp

/-! ## The expiry that is due -/

/-- The expiry that a store gives at `now` to records that have none, if it was set up with a time
to live other than none at all. -/
def defaultExpiry (default? : Option Duration) (now : Timestamp) : Option Timestamp :=
  match default? with
  | some ttl => if ttl.nanos = 0 then none else some (now.dueAfter ttl)
  | none => none

/-- The expiry of a record that is saved at `now`: its own if it is positive, and else that of the
store. -/
def dueExpiry (default? : Option Duration) (now : Timestamp) (own : Option Timestamp) :
    Option Timestamp :=
  match own with
  | some t => if 0 < t then some t else defaultExpiry default? now
  | none => defaultExpiry default? now

theorem Adapter.expiryFor_new {now : Timestamp} (nonneg : 0 ≤ now) (container : String)
    (naming : TableName) (default? : Option Duration) (r : Record) :
    (new container naming default?).expiryFor now r = dueExpiry default? now r.expiry := by
  have fallback : (new container naming default?).defaultTtl.map now.after =
      defaultExpiry default? now := by
    cases default? with
    | none => rfl
    | some ttl =>
      by_cases none_ : ttl.nanos = 0
      · simp [new, defaultExpiry, Option.filter, Duration.isZero, none_]
      · simp [new, defaultExpiry, Option.filter, Duration.isZero, none_, Timestamp.after_eq nonneg]
  unfold expiryFor Record.expiry? dueExpiry
  rw [fallback]
  cases r.expiry with
  | none => rfl
  | some t =>
    by_cases positive : 0 < t
    · simp [Option.filter, positive]
    · simp [Option.filter, positive]

/-- What is due is the record's own expiry, or counted from `now`. -/
theorem dueExpiry_eq_some {default? : Option Duration} {now t : Timestamp}
    {own : Option Timestamp} (due : dueExpiry default? now own = some t) :
    own = some t ∧ 0 < t ∨ ∃ ttl, t = now.dueAfter ttl := by
  have fallback (due : defaultExpiry default? now = some t) : ∃ ttl, t = now.dueAfter ttl := by
    unfold defaultExpiry at due
    split at due
    · split at due
      · cases due
      · exact ⟨_, (Option.some.inj due).symm⟩
    · cases due
  unfold dueExpiry at due
  split at due
  · split at due
    · next positive =>
      cases due
      exact .inl ⟨rfl, positive⟩
    · exact .inr (fallback due)
  · exact .inr (fallback due)

theorem pos_of_dueExpiry {default? : Option Duration} {now t : Timestamp}
    {own : Option Timestamp} (positive : 1 ≤ now) (due : dueExpiry default? now own = some t) :
    0 < t := by
  rcases dueExpiry_eq_some due with ⟨-, own⟩ | ⟨ttl, rfl⟩
  · exact own
  · exact Timestamp.dueAfter_pos positive ttl

theorem dueExpiry_le {default? : Option Duration} {now t : Timestamp} {own : Option Timestamp}
    (fits : ∀ t, own = some t → t ≤ maxTimestamp) (due : dueExpiry default? now own = some t) :
    t ≤ maxTimestamp := by
  rcases dueExpiry_eq_some due with ⟨own, -⟩ | ⟨ttl, rfl⟩
  · exact fits t own
  · exact Timestamp.dueAfter_le now ttl

/-! ## What is sent -/

instance (r : Record) : Decidable r.Storable :=
  decidable_of_iff (Text.isBlankText r.key = false ∧ r.encode.toOption.isSome) <| by
    unfold Record.Storable
    cases r.encode <;> simp [Except.toOption]

namespace Adapter

variable (a : Adapter) {m : Moment}

theorem planSave_item (live : m.stop? = none) {key text : String}
    (named : Text.isBlankText key = false) {record : Record} (encoded : record.encode = .ok text) :
    ∃ conclude, a.plan m (.save key (some record)) =
      .exchange (.write ⟨a.table, recordItem key text (a.expiryFor m.time record)⟩) conclude := by
  have saved : a.saveItem m key (some record) =
      .ok (recordItem key text (a.expiryFor m.time record)) := by
    simp [saveItem, validateKey_eq_ok.2 named, encoded, live, checkLive, bind, Except.bind, pure,
      Except.pure]
  rw [plan, planSave, saved]
  exact ⟨_, rfl⟩

/-- A batch sends the items of the entries that it writes, if there are any. -/
theorem planBulkSave_items (live : m.stop? = none) (records : Records) :
    let entries := (Operation.bulkSave records).writes (a.expiryFor m.time)
    (entries = [] → ∃ reply, a.plan m (.bulkSave records) = .done reply) ∧
    (entries ≠ [] → ∃ conclude, a.plan m (.bulkSave records) = .exchange (.batchWrite
      ⟨(∅ : Dict (List WriteEntry)).insert a.table
        (entries.map fun e => ⟨some (e.2.item e.1)⟩)⟩) conclude) := by
  intro entries
  have sent := a.writeEntries_fst m.time records
  rw [plan, planBulkSave, live, checkLive]
  dsimp only
  rw [sent, List.isEmpty_map]
  refine ⟨fun none_ => ?_, fun some_ => ?_⟩
  · rw [if_pos (List.isEmpty_iff.2 none_)]
    exact ⟨_, rfl⟩
  · rw [if_neg (by simpa [List.isEmpty_iff] using some_)]
    exact ⟨_, rfl⟩

end Adapter

/-- A batch writes one entry for each of its records that can be stored, in their order. -/
theorem writes_bulkSave_forall₂ (expiry : Record → Option Timestamp) (records : Records) :
    List.Forall₂ (fun r e => ∃ text, r.encode = .ok text ∧ e = (r.key, ⟨text, expiry r⟩))
      (records.filter (·.Storable)) ((Operation.bulkSave records).writes expiry) := by
  induction records with
  | nil => exact .nil
  | cons record rest ih =>
    rw [writes_bulkSave_cons]
    by_cases storable : record.Storable
    · obtain ⟨named, text, encoded⟩ := storable
      rw [List.filter_cons_of_pos (by simpa using ⟨named, text, encoded⟩),
        writes_save named encoded]
      exact .cons ⟨text, encoded, rfl⟩ ih
    · rw [List.filter_cons_of_neg (by simpa using storable)]
      have nothing : (Operation.save record.key (some record)).writes expiry = [] :=
        List.eq_nil_iff_forall_not_mem.2 fun e member =>
          storable (Record.named_of_entry (Option.mem_toList.1 member))
      rw [nothing]
      exact ih

/-! ## What is read -/

/-- What was written last under a key is read from the adapter, whether or not it has expired,
while nothing else is stored there. -/
theorem World.Holds.visitAll_get_tables {w : World Client} {a : Adapter} {all : Dict Table}
    {latency : Nat} (holds : w.Holds (.tables a all) latency) (now : Timestamp)
    (context : LiveContext latency) {key text : String} {record : Record} {op : Operation}
    (saves : op.SavesLast key record) (named : Text.isBlankText key = false)
    (encoded : record.encode = .ok text) (fits : (⟨text, a.expiryFor now record⟩ : Stored).Fits)
    {between : List Visit} (spare : ∀ v ∈ between, ¬ v.op.Stores key) (time : Timestamp)
    (later : LiveContext latency) :
    let between := (w.visit ⟨now, context.life, op⟩).2.visitAll between
    (∃ answers, between.1 = some answers) ∧
      (between.2.visit ⟨time, later.life, .get key⟩).1 =
        some (.ok (.ofText key text (a.expiryFor now record))) := by
  intro between
  obtain ⟨first, rest, written, others⟩ := saves.writes named encoded (a.expiryFor now)
  have wrote := (holds.visit now context op).2
  rw [show (Holdings.tables a all).expiryAt now = a.expiryFor now from rfl, written] at wrote
  obtain ⟨answers, entries, ended, after, has⟩ :=
    wrote.visitAll_spares (Holdings.has_put_last first others _ _) spare
  refine ⟨⟨answers, ended⟩, (after.visit_get time later named).trans (congrArg some ?_)⟩
  exact Holdings.Has.get_tables has fits time

/-! ## Records and their expiries -/

/-- An adapter sends with every record the expiry that is due at `now`, and reads it again. -/
structure Adapter.DatesRecords (a : Adapter) (default? : Option Duration) (now : Timestamp) :
    Prop where
  /-- A save sends one item. -/
  save {m : Moment} (time : m.time = now) (live : m.stop? = none) {key text : String}
    (named : Text.isBlankText key = false) {record : Record} (encoded : record.encode = .ok text) :
    ∃ item conclude,
      a.plan m (.save key (some record)) = .exchange (.write ⟨a.table, item⟩) conclude ∧
      Carries item key text (dueExpiry default? now record.expiry)
  /-- A batch sends an item for each of its records that can be stored, and nothing if there is
  none. -/
  bulkSave {m : Moment} (time : m.time = now) (live : m.stop? = none) (records : Records) :
    ∃ items : List Item,
      List.Forall₂ (fun r item => ∃ text, r.encode = .ok text ∧
          Carries item r.key text (dueExpiry default? now r.expiry))
        (records.filter (·.Storable)) items ∧
      (items = [] → ∃ reply, a.plan m (.bulkSave records) = .done reply) ∧
      (items ≠ [] → ∃ conclude, a.plan m (.bulkSave records) = .exchange (.batchWrite
        ⟨(∅ : Dict (List WriteEntry)).insert a.table (items.map fun item => ⟨some item⟩)⟩) conclude)
  /-- Over the emulator a record is saved, by itself or as the last of its key in a batch, and a read
  gives the expiry that is due, while nothing else is stored under the key. -/
  get {w : World Client} {all : Dict Table} {latency : Nat} (holds : w.Holds (.tables a all) latency)
    (context later : LiveContext latency) {key text : String} {record : Record} {op : Operation}
    (saves : op.SavesLast key record) (named : Text.isBlankText key = false)
    (encoded : record.encode = .ok text)
    (range : ∀ t, record.expiry = some t → t ≤ maxTimestamp) {between : List Visit}
    (spare : ∀ v ∈ between, ¬ v.op.Stores key) (time : Timestamp) :
    let save := w.visit ⟨now, context.life, op⟩
    let between := save.2.visitAll between
    (∃ answer, save.1 = some (.ok answer)) ∧ (∃ answers, between.1 = some answers) ∧
      (between.2.visit ⟨time, later.life, .get key⟩).1 =
        some (.ok (.ofText key text (dueExpiry default? now record.expiry)))

/-- What an adapter makes of records at `now` follows from the expiries that it gives them. -/
theorem Adapter.datesRecords {a : Adapter} {default? : Option Duration} {now : Timestamp}
    (positive : 1 ≤ now) (due : ∀ r, a.expiryFor now r = dueExpiry default? now r.expiry) :
    a.DatesRecords default? now := by
  have carries (key text : String) (r : Record) :
      Carries (recordItem key text (a.expiryFor now r)) key text
        (dueExpiry default? now r.expiry) := by
    rw [due]
    have plain := carries_recordItem key text (dueExpiry default? now r.expiry)
    rwa [filter_pos fun t => pos_of_dueExpiry positive] at plain
  have fits {text : String} {r : Record} (own : ∀ t, r.expiry = some t → t ≤ maxTimestamp) :
      (⟨text, a.expiryFor now r⟩ : Stored).Fits := fun t expires => by
    rw [due] at expires
    exact ⟨pos_of_dueExpiry positive expires, dueExpiry_le own expires⟩
  refine ⟨?save, ?bulkSave, ?get⟩
  case save =>
    rintro m rfl live key text named record encoded
    obtain ⟨conclude, sent⟩ := a.planSave_item live named encoded
    exact ⟨_, conclude, sent, carries key text record⟩
  case bulkSave =>
    rintro m rfl live records
    obtain ⟨nothing, something⟩ := a.planBulkSave_items live records
    refine ⟨((Operation.bulkSave records).writes (a.expiryFor m.time)).map fun e => e.2.item e.1,
      ?_, fun none_ => nothing (List.map_eq_nil_iff.1 none_), fun some_ => ?_⟩
    · refine List.forall₂_map_right_iff.2 ((writes_bulkSave_forall₂ _ records).imp ?_)
      rintro r e ⟨text, encoded, rfl⟩
      exact ⟨text, encoded, carries r.key text r⟩
    · rw [List.map_map]
      exact something fun none_ => some_ (List.map_eq_nil_iff.2 none_)
  case get =>
    intro w all latency holds context later key text record op saves named encoded own between spare
      time
    have read := holds.visitAll_get_tables now context saves named encoded (fits own) spare time later
    rw [due] at read
    exact ⟨holds.visit_savesLast now context saves named encoded, read⟩

/-- How records are dated at a time of day. -/
structure Timestamp.DatesRecords (now : Timestamp) : Prop where
  /-- A record that is built with a time to live expires after its whole seconds. -/
  built (key : String) (payload : Except Json.Cause Json) (ttl? : Option Duration) :
    (Record.new key payload ttl? now).expiry = ttl?.map now.dueAfter
  /-- That is not before now, and a timestamp. -/
  inRange (ttl : Duration) : now ≤ now.dueAfter ttl ∧ now.dueAfter ttl ≤ maxTimestamp
  /-- A longer time to live does not end earlier. -/
  monotone {ttl longer : Duration} (le : ttl.nanos ≤ longer.nanos) :
    now.dueAfter ttl ≤ now.dueAfter longer
  /-- Adapters send and read what is due. -/
  adapter (container : String) (naming : TableName) (default? : Option Duration) :
    (Adapter.new container naming default?).DatesRecords default? now

/-- **Records are sent with the expiry that is due**: their own, or the default of the store counted
from the time of day, which stops at the greatest timestamp. -/
theorem datesRecords_of_clock {now : Timestamp} (positive : 1 ≤ now) (range : now ≤ maxTimestamp) :
    now.DatesRecords where
  built key payload ttl? := by
    show ttl?.map now.after = _
    rw [funext (Timestamp.after_eq (Int.le_of_lt positive))]
  inRange ttl := ⟨Timestamp.le_dueAfter range ttl, Timestamp.dueAfter_le now ttl⟩
  monotone le := Timestamp.dueAfter_mono now le
  adapter container naming default? :=
    Adapter.datesRecords positive
      (Adapter.expiryFor_new (Int.le_of_lt positive) container naming default?)

/-- A time to live beyond all timestamps, and a default of less than a second: it is due to a record
whose own expiry is none, and not to the one that comes with it in a batch. -/
theorem datesRecords_farAndNear :
    let far : Duration := .ofSeconds 0xffff_ffff_ffff_ffff
    let near : Duration := .ofMillis 1
    let adapter : Adapter := .new "t" .verbatim (some near)
    let e : Emulator := .empty 2
    let w : World Client := ⟨0, 0, .adapted adapter (.emulator e) .initial, none, 0, [], [], []⟩
    let context : LiveContext 2 := .deadline 2 0
    let save := w.visit ⟨5, context.life, .save "a" (some (.ofText "a" "1" (some (-3))))⟩
    let batch := w.visit ⟨5, context.life,
      .bulkSave [.ofText "a" "1" (some (-3)), .ofText "b" "[1" (some 42)]⟩
    let between : List Visit := [⟨60, context.life, .save "c" none⟩]
    (1 : Timestamp) ≤ 5 ∧ (5 : Timestamp) ≤ maxTimestamp ∧
      (Record.new "a" (.ok .null) (some far) 5).expiry = some maxTimestamp ∧
      save.1 = some (.ok ()) ∧
      ((save.2.visitAll between).2.visit ⟨90, context.life, .get "a"⟩).1 =
        some (.ok (.ofText "a" "1" (some 5))) ∧
      batch.1 = some (.ok ()) ∧
      ((batch.2.visitAll between).2.visit ⟨90, context.life, .get "b"⟩).1 =
        some (.ok (.ofText "b" "[1" (some 42))) := by
  intro far near adapter e w context save batch between
  have dates : Timestamp.DatesRecords 5 := datesRecords_of_clock (by decide) (by decide)
  have holds : w.Holds (.tables adapter e.tables) 2 := .adapted ⟨.initial, rfl, rfl⟩ rfl
  have spare (key : String) : ∀ v ∈ between, ¬ v.op.Stores key := by
    intro v member stores
    obtain rfl := List.mem_singleton.1 member
    cases stores
  have bare : ∀ t, (Record.ofText "a" "1" (some (-3))).expiry = some t → t ≤ maxTimestamp := by
    rintro t ⟨⟩
    decide
  have dated : ∀ t, (Record.ofText "b" "[1" (some 42)).expiry = some t → t ≤ maxTimestamp := by
    rintro t ⟨⟩
    decide
  have sends := dates.adapter "t" .verbatim (some near)
  obtain ⟨⟨_, saved⟩, -, read⟩ :=
    sends.get holds context context .save (by decide) rfl bare (spare "a") 90
  obtain ⟨⟨_, stored⟩, -, found⟩ := sends.get holds context context
    (.bulkSave rfl [.ofText "a" "1" (some (-3))] fun _ member => absurd member List.not_mem_nil)
    (by decide) rfl dated (spare "b") 90
  have due : dueExpiry (some near) 5 (Record.ofText "a" "1" (some (-3))).expiry = some 5 := by
    decide
  have own : dueExpiry (some near) 5 (Record.ofText "b" "[1" (some 42)).expiry = some 42 := by
    decide
  rw [due] at read
  rw [own] at found
  exact ⟨by decide, by decide, (dates.built "a" (.ok .null) (some far)).trans (by decide), saved,
    read, stored, found⟩

end RecordStore
