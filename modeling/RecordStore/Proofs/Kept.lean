/-
RecordStore.Proofs.Kept -- what is kept under a key

An operation has something to store under a key or not (`Operation.Stores`), and
the last record of the key decides what that is (`SavesLast.writes`).  A store
keeps a text and an expiry under a key (`Holdings.Has`): the reference store as
they are, an adapter as an item of its table.  The last entry that is put under a
key is what is kept there (`has_put_last`), entries of other keys do not matter
(`Has.put_of_ne`), and entries of what is kept already change nothing
(`put_of_has`).  Whatever its context, a visit puts entries of what its operation
writes (`World.Holds.puts`), and a read that succeeds was answered from what is
held (`World.Holds.get_of_ok`).
-/
import RecordStore.Proofs.Batch
import RecordStore.Proofs.OnlyRequested
import RecordStore.Proofs.Refinement
import RecordStore.Proofs.SavedValue

namespace RecordStore

set_option autoImplicit false

open RecordStore.Wire

/-! ## What is written under a key -/

/-- The operation has something to store under a key: a save a record that can be stored, a batch
such a record of that key. -/
inductive Operation.Stores (key : String) : Operation → Prop
  | save {r : Record} {text : String} (named : Text.isBlankText key = false)
      (encoded : r.encode = .ok text) : Stores key (.save key (some r))
  | bulkSave {records : Records} {r : Record} (among : r ∈ records) (same : r.key = key)
      (storable : r.Storable) : Stores key (.bulkSave records)

theorem Record.named_of_entry {r : Record} {key : String} {expiry : Option Timestamp}
    {e : String × Stored} (made : r.entry? key expiry = some e) :
    Text.isBlankText key = false ∧ ∃ text, r.encode = .ok text := by
  unfold entry? at made
  split at made
  · cases made
  · next named =>
    split at made
    · next text encoded => exact ⟨eq_false_of_ne_true named, text, encoded⟩
    · cases made

/-- Every entry that is written is that of a record which is saved, or one of a batch. -/
theorem Operation.exists_record_of_mem_writes {op : Operation}
    {expiry : Record → Option Timestamp} {e : String × Stored} (member : e ∈ op.writes expiry) :
    ∃ r, r.entry? e.1 (expiry r) = some e ∧ (op = .save e.1 (some r) ∨
      ∃ records, op = .bulkSave records ∧ r ∈ records ∧ r.key = e.1) := by
  cases op with
  | get _ => cases member
  | bulkGet _ => cases member
  | save key record =>
    cases record with
    | none => cases member
    | some r =>
      have made := Option.mem_toList.1 member
      obtain ⟨rfl, -⟩ := Record.entry?_eq_some made
      exact ⟨r, made, .inl rfl⟩
  | bulkSave records =>
    obtain ⟨r, among, made⟩ := List.mem_filterMap.1 member
    have same := (Record.entry?_eq_some made).1
    exact ⟨r, same ▸ made, .inr ⟨records, rfl, among, same.symm⟩⟩

theorem Operation.stores_of_mem_writes {op : Operation} {expiry : Record → Option Timestamp}
    {e : String × Stored} (member : e ∈ op.writes expiry) : op.Stores e.1 := by
  obtain ⟨r, made, saved⟩ := exists_record_of_mem_writes member
  obtain ⟨named, text, encoded⟩ := Record.named_of_entry made
  rcases saved with rfl | ⟨records, rfl, among, same⟩
  · exact .save named encoded
  · exact .bulkSave among same ⟨same ▸ named, text, encoded⟩

/-- Nothing is written under a blank key, and of the expiries only those that are positive. -/
theorem Operation.sound_of_mem_writes {op : Operation} {e : String × Stored}
    (member : e ∈ op.writes Record.expiry?) :
    Text.isBlankText e.1 = false ∧ ∀ t, e.2.expiry = some t → 0 < t := by
  obtain ⟨r, made, -⟩ := exists_record_of_mem_writes member
  refine ⟨(Record.named_of_entry made).1, fun t expires => ?_⟩
  rw [(Record.entry?_eq_some made).2, Record.expiry?, Option.filter_eq_some_iff] at expires
  exact of_decide_eq_true expires.2

theorem Operation.Stores.exists_mem_writes {op : Operation} {key : String} (stores : op.Stores key)
    (expiry : Record → Option Timestamp) : ∃ kept, (key, kept) ∈ op.writes expiry := by
  cases stores with
  | @save r text named encoded =>
    refine ⟨⟨text, expiry r⟩, ?_⟩
    rw [writes_save named encoded]
    exact List.mem_singleton_self _
  | @bulkSave records r among same storable =>
    obtain ⟨kept, made⟩ := storable.entry? (expiry r)
    exact ⟨kept, List.mem_filterMap.2 ⟨r, among, same ▸ made⟩⟩

/-- The operation saves a record under a key, in a batch as the last that can be stored there. -/
inductive Operation.SavesLast (key : String) (r : Record) : Operation → Prop
  | save : SavesLast key r (.save key (some r))
  | bulkSave (own : r.key = key) (before : Records) {after : Records}
      (last : ∀ other ∈ after, other.key = key → ¬ other.Storable) :
      SavesLast key r (.bulkSave (before ++ r :: after))

/-- A record that can be stored makes the last entry of the key. -/
theorem Operation.SavesLast.writes {key text : String} {r : Record} {op : Operation}
    (saves : op.SavesLast key r) (named : Text.isBlankText key = false)
    (encoded : r.encode = .ok text) (expiry : Record → Option Timestamp) :
    ∃ first rest, op.writes expiry = first ++ (key, ⟨text, expiry r⟩) :: rest ∧
      ∀ e ∈ rest, e.1 ≠ key := by
  cases saves with
  | save =>
    exact ⟨[], [], writes_save named encoded expiry, fun _ member => absurd member List.not_mem_nil⟩
  | @bulkSave own before after last =>
    obtain rfl := own
    refine ⟨(Operation.bulkSave before).writes expiry, (Operation.bulkSave after).writes expiry, ?_,
      fun e member same => ?_⟩
    · rw [writes_bulkSave_append, writes_bulkSave_cons, writes_save named encoded,
        List.singleton_append]
    · cases stores_of_mem_writes member with
      | bulkSave among own storable => exact last _ among (own.trans same) storable

/-! ## What is kept -/

namespace Holdings

/-- The store keeps this under a key. -/
def Has (key : String) (kept : Stored) : Holdings → Prop
  | .contents s => s.get? key = some kept
  | .tables adapter all =>
    ((all.get? adapter.table).getD ∅).get? key = some (kept.item key)

variable {held : Holdings} {key : String} {kept : Stored}

theorem has_put_last (first : List (String × Stored)) {rest : List (String × Stored)}
    (others : ∀ e ∈ rest, e.1 ≠ key) (kept : Stored) (held : Holdings) :
    (held.put (first ++ (key, kept) :: rest)).Has key kept := by
  cases held with
  | contents s => exact Dict.get?_putAll_last first others kept s
  | tables adapter all => exact Emulator.keyed_fill_last first others kept adapter.table all

theorem Has.put_of_ne (has : held.Has key kept) {entries : List (String × Stored)}
    (others : ∀ e ∈ entries, e.1 ≠ key) : (held.put entries).Has key kept := by
  cases held with
  | contents s => exact (Dict.get?_putAll_of_ne others s).trans has
  | tables adapter all => exact (Emulator.keyed_fill_of_ne others adapter.table all).trans has

/-- Putting what is kept already changes nothing, the tables of the emulator included. -/
theorem put_of_has {entries : List (String × Stored)} (has : ∀ e ∈ entries, held.Has e.1 e.2) :
    held.put entries = held := by
  cases held with
  | contents s => exact congrArg contents (Dict.putAll_of_get? has)
  | tables adapter all =>
    cases entries with
    | nil => exact put_nil _
    | cons e rest =>
      refine congrArg (tables adapter) ?_
      have there : ∀ x ∈ (e :: rest).map Stored.keyed,
          ((all.get? adapter.table).getD ∅).get? x.1 = some x.2 :=
        List.forall_mem_map.2 has
      rw [Emulator.fill_eq_insert (by simp), Dict.putAll_of_get? there]
      cases found : all.get? adapter.table with
      | none =>
        have first := there (Stored.keyed e) (by simp)
        rw [found] at first
        cases first
      | some t => exact Dict.insert_of_get? found

/-! ## Reading what is kept -/

/-- An adapter gives what is kept whether or not it has expired. -/
theorem Has.get_tables {adapter : Adapter} {all : Dict Table}
    (has : (tables adapter all).Has key kept) (fits : kept.Fits) (time : Timestamp) :
    (tables adapter all).get time key = .ok (.ofText key kept.text kept.expiry) := by
  have there : ((all.get? adapter.table).getD ∅).get? key = some (kept.item key) := has
  rw [get, there, Adapter.recordOfFound]
  dsimp only
  rw [Stored.item, isEmpty_recordItem]
  exact Mirrors.recordOfItem_item fits key

/-- Until it expires, what is kept is read as it was kept. -/
theorem Has.get_of_live (has : held.Has key kept) (fits : kept.Fits) {time : Timestamp}
    (live : (Record.ofText key kept.text kept.expiry).isExpiredAt time = false) :
    held.get time key = .ok (.ofText key kept.text kept.expiry) := by
  cases held with
  | contents s =>
    have there : s.get? key = some kept := has
    rw [get, Reference.lookup_eq, Reference.keptRecord?, there, Option.map_some, Option.filter,
      live]
    rfl
  | tables adapter all => exact has.get_tables fits time

end Holdings

/-! ## Visits under any context -/

/-- A read over the wire that succeeds has passed all checks. -/
theorem Adapter.checks_of_perform_get (a : Adapter) {σ : Type} {client : WireClient σ} {m : Moment}
    {key : String} {s : σ} {r : Record}
    (ended : ((a.backend client).perform m (.get key) s).1.result = .ok r) :
    Text.isBlankText key = false ∧ m.stop? = none := by
  have ended : ((a.planGet m key).carryOut client s).1.result = .ok r := ended
  unfold planGet at ended
  split at ended
  · cases ended
  · next checked =>
    obtain ⟨_, named, live⟩ := bind_eq_ok.1 checked
    exact ⟨validateKey_eq_ok.1 named, checkLive_eq_ok.1 live⟩

namespace World.Holds

variable {w : World Client} {held : Holdings} {latency : Nat} (holds : w.Holds held latency)

include holds

/-- Whenever its context ends, a visit ends, and puts nothing or what its operation writes. -/
theorem puts (v : Visit) :
    ∃ result entries, entries ⊆ v.op.writes (held.expiryAt v.time) ∧
      (w.visit v).1 = some result ∧ (w.visit v).2.Holds (held.put entries) latency := by
  cases holds with
  | @reference container contents store =>
    obtain ⟨ended, store'⟩ := w.visit_reference store v
    cases live : (v.moment w.now).stop? with
    | none =>
      rw [Reference.perform_state container live] at store'
      exact ⟨_, _, List.Subset.refl _, ended, .reference store'⟩
    | some reason =>
      rw [Reference.perform_state_of_over container live] at store'
      exact ⟨_, [], List.nil_subset _, ended, .reference store'⟩
  | @adapted adapter e serves willing =>
    obtain ⟨result, e', concludes, ended, serves'⟩ := w.visit_adapted serves v
    have untouched : (Holdings.tables adapter e.tables).put [] = .tables adapter e.tables :=
      Holdings.put_nil _
    cases concludes with
    | stopped reason request ends =>
      have after := @adapted _ adapter (e.noteCall request) serves' willing
      exact ⟨_, [], List.nil_subset _, ended, untouched.symm ▸ after⟩
    | served =>
      cases live : (v.moment w.now).stop? with
      | none =>
        have puts := adapter.perform_puts willing live v.op
        have after := adapted serves' (puts.failure.trans willing)
        rw [puts.tables, puts.latency] at after
        exact ⟨_, _, List.Subset.refl _, ended, after⟩
      | some reason =>
        rw [adapter.perform_state_of_over Emulator.client live] at serves'
        exact ⟨_, [], List.nil_subset _, ended, untouched.symm ▸ .adapted serves' willing⟩

/-- Visits that store nothing under a key leave what is kept there. -/
theorem visitAll_spares {key : String} {kept : Stored} (has : held.Has key kept)
    {visits : List Visit} (spare : ∀ v ∈ visits, ¬ v.op.Stores key) :
    ∃ answers entries, (w.visitAll visits).1 = some answers ∧
      (w.visitAll visits).2.Holds (held.put entries) latency ∧
      (held.put entries).Has key kept := by
  induction visits generalizing w held with
  | nil => exact ⟨[], [], rfl, held.put_nil.symm ▸ holds, held.put_nil.symm ▸ has⟩
  | cons v rest ih =>
    obtain ⟨result, entries, written, ended, after⟩ := holds.puts v
    have others : ∀ e ∈ entries, e.1 ≠ key := fun e member same =>
      spare v (by simp) (same ▸ Operation.stores_of_mem_writes (written member))
    obtain ⟨answers, more, later, last, kept'⟩ :=
      ih after (has.put_of_ne others) fun v member => spare v (by simp [member])
    rw [← Holdings.put_append] at last kept'
    refine ⟨⟨v, result⟩ :: answers, _, ?_, ?_, kept'⟩
    · rw [(visitAll_cons ended).1, later]
      rfl
    · rw [(visitAll_cons ended).2]
      exact last

/-- A record that can be stored is saved under a live context. -/
theorem visit_save (time : Timestamp) (context : LiveContext latency) {key text : String}
    (named : Text.isBlankText key = false) {record : Record} (encoded : record.encode = .ok text) :
    (w.visit ⟨time, context.life, .save key (some record)⟩).1 = some (.ok ()) := by
  have live := context.stop?_eq_none time (.save key (some record)) w.now
  cases holds with
  | @reference container contents store =>
    obtain ⟨ended, -⟩ := w.visit_reference store ⟨time, context.life, .save key (some record)⟩
    exact ended.trans (congrArg some (Reference.save_eq_ok named encoded live contents))
  | @adapted adapter e serves willing =>
    obtain ⟨ended, -⟩ := w.visit_adapted_of_outlasts serves
      ⟨time, context.life, .save key (some record)⟩ (context.outlasts w.now)
    obtain ⟨result, -⟩ := adapter.perform_save willing live key (some record)
    exact ended.trans (congrArg some
      (result.trans (Adapter.saveItem_map_eq_ok named encoded live)))

/-- So is a record that a batch saves as the last of its key. -/
theorem visit_savesLast (time : Timestamp) (context : LiveContext latency) {key text : String}
    {r : Record} {op : Operation} (saves : op.SavesLast key r)
    (named : Text.isBlankText key = false) (encoded : r.encode = .ok text) :
    ∃ answer, (w.visit ⟨time, context.life, op⟩).1 = some (.ok answer) := by
  cases saves with
  | save => exact ⟨(), holds.visit_save time context named encoded⟩
  | bulkSave own before last => exact ⟨(), holds.visit_bulkSave time context _⟩

/-- A read that succeeds, under whatever context, was answered from what is held. -/
theorem get_of_ok {time : Timestamp} {life : Instant → Lifespan} {key : String} {r : Record}
    (read : (w.visit ⟨time, life, .get key⟩).1 = some (.ok r)) :
    Text.isBlankText key = false ∧ held.get time key = .ok r := by
  cases holds with
  | @reference container contents store =>
    obtain ⟨ended, -⟩ := w.visit_reference store ⟨time, life, .get key⟩
    have ended : Reference.get ⟨w.now, time, life w.now⟩ key contents = .ok r :=
      (Option.some.inj (read.symm.trans ended)).symm
    obtain ⟨_, named, checked⟩ := bind_eq_ok.1 ended
    obtain ⟨_, live, -⟩ := bind_eq_ok.1 checked
    have sound := validateKey_eq_ok.1 named
    rw [Reference.get_of_live (checkLive_eq_ok.1 live) sound] at ended
    exact ⟨sound, ended⟩
  | @adapted adapter e serves willing =>
    obtain ⟨result, e', concludes, ended, -⟩ := w.visit_adapted serves ⟨time, life, .get key⟩
    have same := (Option.some.inj (read.symm.trans ended)).symm
    cases concludes with
    | stopped => cases same
    | served =>
      obtain ⟨named, live⟩ := adapter.checks_of_perform_get same
      rw [adapter.perform_get_result willing live (validateKey_eq_ok.2 named)] at same
      exact ⟨named, same⟩

/-- So was a batch of reads that succeeds. -/
theorem bulkGet_of_ok {time : Timestamp} {life : Instant → Lifespan} {keys : List String}
    {records : Records} (read : (w.visit ⟨time, life, .bulkGet keys⟩).1 = some (.ok records)) :
    (∀ key ∈ keys, Text.isBlankText key = false) ∧
      records = keys.eraseDups.filterMap fun key => (held.get time key).toOption := by
  cases holds with
  | @reference container contents store =>
    obtain ⟨ended, -⟩ := w.visit_reference store ⟨time, life, .bulkGet keys⟩
    have ended : Reference.bulkGet ⟨w.now, time, life w.now⟩ keys contents = .ok records :=
      (Option.some.inj (read.symm.trans ended)).symm
    obtain ⟨_, few, checked⟩ := bind_eq_ok.1 ended
    obtain ⟨_, named, checked⟩ := bind_eq_ok.1 checked
    obtain ⟨_, live, -⟩ := bind_eq_ok.1 checked
    have sound := forM_validateKey_eq_ok.1 named
    rw [Reference.bulkGet_of_live (checkLive_eq_ok.1 live) (validateBulkKeys_eq_ok.1 few) sound]
      at ended
    refine ⟨sound, (Except.ok.inj ended).symm.trans ?_⟩
    exact List.filterMap_congr fun key _ =>
      (Holdings.toOption_get_contents contents time key).symm
  | @adapted adapter e serves willing =>
    obtain ⟨result, e', concludes, ended, -⟩ := w.visit_adapted serves ⟨time, life, .bulkGet keys⟩
    have same := (Option.some.inj (read.symm.trans ended)).symm
    cases concludes with
    | stopped => cases same
    | served =>
      obtain ⟨few, named, live⟩ := adapter.checks_of_perform_bulkGet same
      rw [adapter.perform_bulkGet_result willing live few named, List.filterMap_filterMap] at same
      refine ⟨named, (Except.ok.inj same).symm.trans ?_⟩
      exact List.filterMap_congr fun key _ => (Adapter.toOption_recordOfFound _).symm

end World.Holds

end RecordStore
