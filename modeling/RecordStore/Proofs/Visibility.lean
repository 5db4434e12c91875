/-
RecordStore.Proofs.Visibility -- what the reference store shows, and when

All that is in the reference store after some calls was put there by the calls
that were live and had something to store (`contents_of_run`).  So there is one
entry for each key that was written, whether or not it has expired, the key is
no blank one, and an expiry that is kept is positive.  A record that was saved
is shown by every read at a time of day before its expiry and by none from then
on, in whatever order these times come, until something else is stored under the
key (`tells_of_dated`).
-/
import RecordStore.Proofs.DistinctKeys
import RecordStore.Proofs.Expiry

namespace RecordStore

set_option autoImplicit false

namespace Reference

/-! ## What calls leave behind -/

/-- The call is live and has something to store under the key. -/
def Writes (key : String) (call : Moment × Operation) : Prop :=
  call.1.stop? = none ∧ call.2.Stores key

/-- The entries that calls put, in their order. -/
def written (calls : List (Moment × Operation)) : List (String × Stored) :=
  calls.flatMap fun call =>
    if call.1.stop? = none then call.2.writes Record.expiry? else []

variable {calls : List (Moment × Operation)}

theorem contents_of_run (container : String) (calls : List (Moment × Operation)) (s : Reference) :
    ((backend container).run calls s).2 = Dict.putAll (written calls) s := by
  induction calls generalizing s with
  | nil => rfl
  | cons call rest ih =>
    obtain ⟨m, op⟩ := call
    refine (ih ((backend container).perform m op s).2).trans ?_
    rw [written, written, List.flatMap_cons, Dict.putAll_append]
    congr 1
    cases live : m.stop? with
    | none => rw [perform_state container live, if_pos rfl]
    | some reason =>
      rw [perform_state_of_over container live, if_neg (Option.some_ne_none reason)]
      rfl

theorem mem_written {e : String × Stored} :
    e ∈ written calls ↔
      ∃ call ∈ calls, call.1.stop? = none ∧ e ∈ call.2.writes Record.expiry? := by
  rw [written, List.mem_flatMap]
  refine exists_congr fun call => and_congr_right fun _ => ?_
  by_cases live : call.1.stop? = none
  · simp [live]
  · simp [live]

/-- The keys of what was put are those that were written. -/
theorem exists_mem_written {key : String} :
    (∃ e ∈ written calls, e.1 = key) ↔ ∃ call ∈ calls, Writes key call := by
  constructor
  · rintro ⟨e, member, rfl⟩
    obtain ⟨call, among, live, made⟩ := mem_written.1 member
    exact ⟨call, among, live, Operation.stores_of_mem_writes made⟩
  · rintro ⟨call, among, live, stores⟩
    obtain ⟨kept, made⟩ := stores.exists_mem_writes Record.expiry?
    exact ⟨_, mem_written.2 ⟨call, among, live, made⟩, rfl⟩

/-! ## What reads tell -/

/-- What is read under a key at a time of day: by itself, and among others in a batch, where it
comes once or not at all. -/
structure Tells (container : String) (s : Reference) (key : String)
    (shown : Timestamp → Option Record) : Prop where
  get {m : Moment} (live : m.stop? = none) :
    ((backend container).perform m (.get key) s).1.result =
      (shown m.time).elim (.error .keyNotFound) .ok
  bulkGet {m : Moment} (live : m.stop? = none) {keys : List String}
    (few : keys.length ≤ maxBulkKeys) (named : ∀ other ∈ keys, Text.isBlankText other = false)
    (requested : key ∈ keys) :
    ∃ records, ((backend container).perform m (.bulkGet keys) s).1.result = .ok records ∧
      records.filter (·.key = key) = (shown m.time).toList

/-- Among the records of distinct keys there is at most the one record of a key. -/
theorem filter_lookup (s : Reference) (time : Timestamp) {key : String} {keys : List String}
    (nodup : keys.Nodup) (requested : key ∈ keys) :
    (keys.filterMap fun other => s.lookup other time).filter (·.key = key) =
      (s.lookup key time).toList := by
  have own (other : String) : (s.lookup other time).filter (·.key = key) =
      if decide (other = key) then s.lookup other time else none := by
    cases found : s.lookup other time with
    | none => simp
    | some r => simp [Option.filter, key_of_lookup found]
  rw [List.filter_filterMap, funext own, ← List.filterMap_filter, List.filter_eq,
    List.count_eq_one_of_mem nodup requested, List.replicate_one, List.filterMap_cons]
  cases s.lookup key time <;> rfl

theorem tells_of_lookup (container : String) {s : Reference} {key : String}
    (named : Text.isBlankText key = false) {shown : Timestamp → Option Record}
    (same : ∀ time, s.lookup key time = shown time) : Tells container s key shown where
  get live := by
    rw [← same]
    exact get_of_live live named s
  bulkGet live _ few valid requested := by
    refine ⟨_, bulkGet_of_live live few valid s, ?_⟩
    rw [← same]
    exact filter_lookup s _ (nodup_eraseDups _) (List.mem_eraseDups.2 requested)

/-! ## Saving -/

section

variable (container : String) (s : Reference) {key text : String} {r : Record} {op : Operation}
  (saves : op.SavesLast key r) (named : Text.isBlankText key = false)
  (encoded : r.encode = .ok text) {m : Moment} (live : m.stop? = none)

include saves named encoded live

theorem savesLast_ok : ∃ answer, ((backend container).perform m op s).1.result = .ok answer := by
  cases saves with
  | save => exact ⟨(), save_eq_ok named encoded live s⟩
  | @bulkSave own before after last =>
    refine ⟨(), ?_⟩
    show (bulkSave container m (before ++ r :: after) s).1.result = _
    rw [bulkSave, live]
    rfl

/-- What was saved is kept while nothing else is stored under its key. -/
theorem kept_of_saved {between : List (Moment × Operation)}
    (spare : ∀ call ∈ between, ¬ Writes key call) :
    ((backend container).run between ((backend container).perform m op s).2).2.get? key =
      some ⟨text, r.expiry?⟩ := by
  obtain ⟨first, rest, made, others⟩ := saves.writes named encoded Record.expiry?
  have untouched : ∀ e ∈ written between, e.1 ≠ key := fun e member same => by
    obtain ⟨call, among, writes⟩ := exists_mem_written.1 ⟨e, member, same⟩
    exact spare call among writes
  rw [contents_of_run, Dict.get?_putAll_of_ne untouched, perform_state container live, made]
  exact Dict.get?_putAll_last first others _ s

theorem tells_of_undated {between : List (Moment × Operation)}
    (spare : ∀ call ∈ between, ¬ Writes key call) (unset : ∀ t, r.expiry = some t → t ≤ 0) :
    Tells container ((backend container).run between ((backend container).perform m op s).2).2 key
      fun _ => some (.ofText key text none) := by
  have undated : r.expiry? = none := Option.filter_eq_none_iff.2 fun t expires => by
    simpa using unset t expires
  have kept := kept_of_saved container s saves named encoded live spare
  rw [undated] at kept
  exact tells_of_lookup container named fun time => by
    rw [lookup, kept]
    rfl

end

theorem expiry?_new {built : Timestamp} (positive : 1 ≤ built) (key : String)
    (payload : Except Json.Cause Json) (ttl : Duration) :
    (Record.new key payload (some ttl) built).expiry? = some (built.dueAfter ttl) := by
  show (some (built.after ttl)).filter (0 < ·) = _
  rw [Timestamp.after_eq (Int.le_of_lt positive), Option.filter_some,
    if_pos (decide_eq_true (Timestamp.dueAfter_pos positive ttl))]

/-- Reads tell of a record with an expiry before it, and not from then on. -/
theorem tells_of_dated (container : String) (s : Reference) {key : String}
    (named : Text.isBlankText key = false) (json : Json) (ttl : Duration) {built : Timestamp}
    (positive : 1 ≤ built) {op : Operation}
    (saves : op.SavesLast key (.new key (.ok json) (some ttl) built)) {m : Moment}
    (live : m.stop? = none) {between : List (Moment × Operation)}
    (spare : ∀ call ∈ between, ¬ Writes key call) :
    Tells container ((backend container).run between ((backend container).perform m op s).2).2 key
      fun time =>
        if time < built.dueAfter ttl then some (.ofText key json.render (some (built.dueAfter ttl)))
        else none := by
  have kept := kept_of_saved container s saves named rfl live spare
  rw [expiry?_new positive] at kept
  refine tells_of_lookup container named fun time => ?_
  have ended : (Record.ofText key json.render (some (built.dueAfter ttl))).isExpiredAt time =
      decide (built.dueAfter ttl ≤ time) := by
    unfold Record.isExpiredAt Record.expiry? Record.ofText
    rw [Option.filter_some, if_pos (decide_eq_true (Timestamp.dueAfter_pos positive ttl))]
  rw [lookup, kept]
  dsimp only
  rw [ended]
  by_cases early : time < built.dueAfter ttl
  · simp [early, Int.not_le.2 early]
  · simp [early, Int.not_lt.1 early]

/-! ## Stores after any calls -/

/-- What a store that is in a state after some calls holds, and what it shows of the records that
are saved then. -/
structure Visibility (container : String) (calls : List (Moment × Operation)) (s : Reference) :
    Prop where
  /-- No key is blank, and an expiry that is kept is positive. -/
  sound : ∀ key kept, s.get? key = some kept →
    Text.isBlankText key = false ∧ ∀ t, kept.expiry = some t → 0 < t
  /-- Each key that was written is counted once. -/
  counted : ∃ keys : List String, keys.Nodup ∧
    (∀ key, key ∈ keys ↔ ∃ call ∈ calls, Writes key call) ∧ s.size = keys.length
  /-- A record that can be stored is saved. -/
  saved {key text : String} {r : Record} {op : Operation} (saves : op.SavesLast key r)
    (named : Text.isBlankText key = false) (encoded : r.encode = .ok text) {m : Moment}
    (live : m.stop? = none) : ∃ answer, ((backend container).perform m op s).1.result = .ok answer
  /-- If it was built with a time to live it is shown until that is over. -/
  dated {key : String} (named : Text.isBlankText key = false) (json : Json) (ttl : Duration)
    {built : Timestamp} (positive : 1 ≤ built) {op : Operation}
    (saves : op.SavesLast key (.new key (.ok json) (some ttl) built)) {m : Moment}
    (live : m.stop? = none) {between : List (Moment × Operation)}
    (spare : ∀ call ∈ between, ¬ Writes key call) :
    Tells container ((backend container).run between ((backend container).perform m op s).2).2 key
      fun time =>
        if time < min (built + ttl.seconds) maxTimestamp then
          some (.ofText key json.render (some (min (built + ttl.seconds) maxTimestamp)))
        else none
  /-- Without an expiry, or with one that is not positive, it is shown always. -/
  undated {key text : String} (named : Text.isBlankText key = false) {r : Record}
    (encoded : r.encode = .ok text) (unset : ∀ t, r.expiry = some t → t ≤ 0) {op : Operation}
    (saves : op.SavesLast key r) {m : Moment} (live : m.stop? = none)
    {between : List (Moment × Operation)} (spare : ∀ call ∈ between, ¬ Writes key call) :
    Tells container ((backend container).run between ((backend container).perform m op s).2).2 key
      fun _ => some (.ofText key text none)

theorem sound_of_run (container : String) (calls : List (Moment × Operation)) {key : String}
    {kept : Stored} (there : ((backend container).run calls ∅).2.get? key = some kept) :
    Text.isBlankText key = false ∧ ∀ t, kept.expiry = some t → 0 < t := by
  rw [contents_of_run] at there
  refine Dict.putAll_induction (P := fun key (kept : Stored) =>
    Text.isBlankText key = false ∧ ∀ t, kept.expiry = some t → 0 < t) ?_ ?_ key kept there
  · intro e member
    obtain ⟨call, -, -, made⟩ := mem_written.1 member
    exact Operation.sound_of_mem_writes made
  · rintro _ _ ⟨⟩

theorem counted_of_run (container : String) (calls : List (Moment × Operation)) :
    let s := ((backend container).run calls ∅).2
    ∃ keys : List String, keys.Nodup ∧
      (∀ key, key ∈ keys ↔ ∃ call ∈ calls, Writes key call) ∧ s.size = keys.length := by
  intro s
  refine ⟨s.keys, s.nodup_keys, fun key => ?_, (List.length_map _).symm⟩
  have contents : s = Dict.putAll (written calls) ∅ := contents_of_run container calls ∅
  rw [Dict.mem_keys, contents, Dict.exists_get?_putAll, exists_mem_written]
  refine or_iff_left ?_
  rintro ⟨_, ⟨⟩⟩

/-- **A record is visible until it expires**, in every state that calls can lead to: it is shown
before its expiry and not from then on, and its key is counted either way. -/
theorem visibility_of_run (container : String) (calls : List (Moment × Operation)) :
    Visibility container calls ((backend container).run calls ∅).2 where
  sound _ _ there := sound_of_run container calls there
  counted := counted_of_run container calls
  saved saves named encoded _ live := savesLast_ok container _ saves named encoded live
  dated named json ttl _ positive _ saves _ live _ spare :=
    tells_of_dated container _ named json ttl positive saves live spare
  undated named _ encoded unset _ saves _ live _ spare :=
    tells_of_undated container _ saves named encoded live spare unset

/-- A record for a minute, saved in a batch, is read at its last second and gone at the next; the
save of its key in between comes under a context that is over.  A record that expired long ago
counts. -/
theorem visibility_lastSecond :
    let at_ (time : Timestamp) : Moment := ⟨0, time, .unbounded⟩
    let calls : List (Moment × Operation) :=
      [(at_ 500, .save "a" (some (.ofText "a" "1" (some 3)))), (at_ 2, .save " " none)]
    let brief : Record := .new "b" (.ok .null) (some (.ofSeconds 60)) 100
    let between : List (Moment × Operation) :=
      [(⟨9, 800, ⟨some 4, none⟩⟩, .save "b" (some (.ofText "b" "2" none))), (at_ 700, .get "b")]
    let store := backend "t"
    let s := (store.run calls ∅).2
    let after := (store.run between (store.perform (at_ 100) (.bulkSave [brief]) s).2).2
    let read (time : Timestamp) := (store.perform (at_ time) (.get "b") after).1.result
    s.size = 1 ∧ read 159 = .ok (.ofText "b" "null" (some 160)) ∧
      read 160 = .error .keyNotFound := by
  intro at_ calls brief between store s after read
  have visible := visibility_of_run "t" calls
  have spare : ∀ call ∈ between, ¬ Writes "b" call := by
    intro call member writes
    rcases List.mem_pair.1 member with rfl | rfl
    · exact absurd writes.1 (by decide)
    · cases writes.2
  have positive : (1 : Timestamp) ≤ 100 := by decide
  have saves : (Operation.bulkSave [brief]).SavesLast "b" brief :=
    .bulkSave (r := brief) rfl [] fun _ member => absurd member List.not_mem_nil
  have tells :=
    visible.dated (by decide) .null (.ofSeconds 60) positive saves (m := at_ 100) rfl spare
  have early : read 159 = .ok (.ofText "b" "null" (some 160)) := tells.get (m := at_ 159) rfl
  have late : read 160 = .error .keyNotFound := tells.get (m := at_ 160) rfl
  exact ⟨rfl, early, late⟩

end Reference

end RecordStore
