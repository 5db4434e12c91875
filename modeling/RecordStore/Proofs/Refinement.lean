/-
RecordStore.Proofs.Refinement -- the adapter and the reference store agree

Started empty and given the same operations at the same times of day, the
adapter over the emulator and the reference store answer alike, but for records
that have expired: the reference store hides them, the adapter does not
(`Operation.hideExpired`).  Between the two stands what the reference store
keeps.  The adapter's table mirrors it (`Mirrors`), and the answers of both are
computed from it (`Mirrors.answer_adapted`, `Reference.answer_reference`).
-/
import RecordStore.Proofs.Contents
import RecordStore.Proofs.Visit

namespace RecordStore

set_option autoImplicit false

open RecordStore.Wire

/-! ## Expiries within the range of a timestamp -/

/-- The records that an operation is given to write. -/
def Operation.records : Operation → Records
  | .save _ record => record.toList
  | .bulkSave records => records
  | .get _ | .bulkGet _ => []

/-- The expiries of the records are timestamps. -/
def Operation.ExpiriesFit (op : Operation) : Prop :=
  ∀ r ∈ op.records, ∀ t, r.expiry = some t → t ≤ maxTimestamp

/-- An expiry that is kept is positive and a timestamp. -/
def Stored.Fits (kept : Stored) : Prop :=
  ∀ t, kept.expiry = some t → 0 < t ∧ t ≤ maxTimestamp

theorem Stored.Fits.filter {kept : Stored} (fits : kept.Fits) :
    kept.expiry.filter (0 < ·) = kept.expiry :=
  filter_pos fun t expires => (fits t expires).1

theorem Record.entry?_fits {r : Record} {key : String} {e : String × Stored}
    (range : ∀ t, r.expiry = some t → t ≤ maxTimestamp)
    (made : r.entry? key r.expiry? = some e) : e.2.Fits := by
  intro t expires
  rw [(Record.entry?_eq_some made).2, Record.expiry?, Option.filter_eq_some_iff] at expires
  exact ⟨by simpa using expires.2, range t expires.1⟩

theorem Operation.ExpiriesFit.writes {op : Operation} (range : op.ExpiriesFit) :
    ∀ e ∈ op.writes Record.expiry?, e.2.Fits := by
  intro e member
  cases op with
  | get _ => cases member
  | bulkGet _ => cases member
  | save key record =>
    cases record with
    | none => cases member
    | some record =>
      exact Record.entry?_fits (range record (by simp [records])) (Option.mem_toList.1 member)
  | bulkSave records =>
    obtain ⟨r, among, made⟩ := List.mem_filterMap.1 member
    exact Record.entry?_fits (range r among) made

/-! ## Answers from what is kept -/

/-- The record under a key, expired or not. -/
def Reference.keptRecord? (s : Reference) (key : String) : Option Record :=
  (s.get? key).map fun kept => .ofText key kept.text kept.expiry

theorem Reference.lookup_eq (s : Reference) (key : String) (time : Timestamp) :
    s.lookup key time = (s.keptRecord? key).filter fun r => !r.isExpiredAt time := by
  unfold lookup keptRecord?
  cases s.get? key with
  | none => rfl
  | some kept =>
    dsimp only
    rw [Option.map_some, Option.filter]
    cases (Record.ofText key kept.text kept.expiry).isExpiredAt time <;> rfl

namespace Reference

def answerGet (s : Reference) (key : String) : Except StoreError Record := do
  validateKey key
  match s.keptRecord? key with
  | some record => .ok record
  | none => .error .keyNotFound

def answerSave (key : String) (record : Option Record) : Except StoreError Unit := do
  validateKey key
  match record with
  | none => .error .nilItem
  | some record => discard record.encode

def answerBulkGet (s : Reference) (keys : List String) : Except StoreError Records := do
  validateBulkKeys keys
  keys.forM validateKey
  return keys.eraseDups.filterMap s.keptRecord?

/-- What a store answers that keeps `s` and hides nothing. -/
def answer (s : Reference) : (op : Operation) → op.Result
  | .get key => s.answerGet key
  | .save key record => answerSave key record
  | .bulkGet keys => s.answerBulkGet keys
  | .bulkSave _ => .ok ()

end Reference

/-- The result with records that have expired hidden. -/
def Operation.hideExpired (time : Timestamp) : (op : Operation) → op.Result → op.Result
  | .get _, .ok record => if record.isExpiredAt time then .error .keyNotFound else .ok record
  | .bulkGet _, .ok records => .ok (records.filter fun r => !r.isExpiredAt time)
  | _, result => result

namespace Reference

variable {m : Moment} (live : m.stop? = none) (s : Reference)

include live

theorem get_eq_hideExpired (key : String) :
    get m key s = (Operation.get key).hideExpired m.time (s.answerGet key) := by
  unfold get answerGet
  rw [live, lookup_eq]
  cases validateKey key with
  | error e => rfl
  | ok _ =>
    cases s.keptRecord? key with
    | none => rfl
    | some record =>
      dsimp only [bind, Except.bind, checkLive, Operation.hideExpired, Option.filter]
      by_cases expired : record.isExpiredAt m.time = true <;> simp [expired]

theorem save_eq_answerSave (key : String) (record : Option Record) :
    (save m key record s).1 = answerSave key record := by
  unfold save saveText answerSave
  rw [live]
  cases validateKey key with
  | error e => rfl
  | ok _ =>
    cases record with
    | none => rfl
    | some record =>
      dsimp only [bind, Except.bind, checkLive]
      cases record.encode <;> rfl

theorem bulkGet_eq_hideExpired (keys : List String) :
    bulkGet m keys s = (Operation.bulkGet keys).hideExpired m.time (s.answerBulkGet keys) := by
  have hidden : (fun key => s.lookup key m.time) =
      fun key => (s.keptRecord? key).filter fun r => !r.isExpiredAt m.time :=
    funext fun key => s.lookup_eq key m.time
  unfold bulkGet answerBulkGet
  rw [live, hidden]
  cases validateBulkKeys keys with
  | error e => rfl
  | ok _ =>
    cases keys.forM validateKey with
    | error e => rfl
    | ok _ =>
      dsimp only [bind, Except.bind, checkLive, pure, Except.pure, Operation.hideExpired]
      rw [List.filter_filterMap]

/-- The reference store answers from what it keeps, and hides what has expired. -/
theorem answer_reference (container : String) (op : Operation) :
    ((backend container).perform m op s).1.result = op.hideExpired m.time (s.answer op) := by
  cases op with
  | get key => exact get_eq_hideExpired live s key
  | save key record => exact save_eq_answerSave live s key record
  | bulkGet keys => exact bulkGet_eq_hideExpired live s keys
  | bulkSave records =>
    show (bulkSave container m records s).1.result = _
    rw [bulkSave, live]
    rfl

end Reference

/-! ## Answers from what is mirrored -/

/-- A table of the emulator holds the items of the contents, and the emulator does not fail. -/
structure Mirrors (adapter : Adapter) (s : Dict Stored) (e : Emulator) : Prop where
  willing : e.failure? = none
  item : ∀ key, e.item? adapter.table key = (s.get? key).map (·.item key)

namespace Mirrors

variable {adapter : Adapter} {s : Dict Stored} {e : Emulator} {m : Moment}

theorem empty (adapter : Adapter) (latency : Nat) : Mirrors adapter ∅ (.empty latency) where
  willing := rfl
  item _ := rfl

/-- Entries put into the contents, and their items into the table. -/
theorem get?_putAll {t : Table} (item : ∀ key, t.get? key = (s.get? key).map (·.item key))
    (entries : List (String × Stored)) (key : String) :
    (Dict.putAll (entries.map Stored.keyed) t).get? key =
      ((Dict.putAll entries s).get? key).map (·.item key) := by
  induction entries generalizing s t with
  | nil => exact item key
  | cons e rest ih =>
    refine ih fun other => ?_
    rw [Stored.keyed, Dict.get?_insert, Dict.get?_insert]
    split
    · next same => rw [same, Option.map_some]
    · exact item other

/-- Every operation puts the same into the contents and into the table. -/
theorem perform (mirrors : Mirrors adapter s e) (live : m.stop? = none) (op : Operation) :
    Mirrors adapter (Dict.putAll (op.writes (adapter.expiryFor m.time)) s)
      ((adapter.backend Emulator.client).perform m op e).2 := by
  have puts := adapter.perform_puts mirrors.willing live op
  refine ⟨puts.failure.trans mirrors.willing, fun key => ?_⟩
  rw [puts.item]
  exact get?_putAll mirrors.item _ key

/-- What is kept within range is read back as it was. -/
theorem recordOfItem_item {kept : Stored} (fits : kept.Fits) (key : String) :
    recordOfItem (kept.item key) = .ok (.ofText key kept.text kept.expiry) := by
  rw [Stored.item, recordOfItem_recordItem key kept.text fun t expires => (fits t expires).2,
    fits.filter]

theorem answer_get (mirrors : Mirrors adapter s e)
    (fits : ∀ key kept, s.get? key = some kept → kept.Fits) (live : m.stop? = none)
    (key : String) :
    ((adapter.backend Emulator.client).perform m (.get key) e).1.result =
      Reference.answerGet s key := by
  cases valid : validateKey key with
  | error failure =>
    show ((adapter.planGet m key).carryOut Emulator.client e).1.result = _
    unfold Adapter.planGet Reference.answerGet
    rw [valid]
    rfl
  | ok _ =>
    rw [adapter.perform_get_result mirrors.willing live valid, mirrors.item]
    unfold Reference.answerGet Adapter.recordOfFound Reference.keptRecord?
    rw [valid]
    cases found : s.get? key with
    | none => rfl
    | some kept =>
      dsimp only [Option.map_some]
      rw [Stored.item, isEmpty_recordItem]
      exact recordOfItem_item (fits key kept found) key

/-- A save is refused by the adapter as by the reference store. -/
theorem saveItem_eq_answerSave (live : m.stop? = none) (key : String) (record : Option Record) :
    (adapter.saveItem m key record).map (fun _ => ()) = Reference.answerSave key record := by
  unfold Adapter.saveItem Reference.answerSave
  rw [live]
  cases validateKey key with
  | error failure => rfl
  | ok _ =>
    cases record with
    | none => rfl
    | some record =>
      dsimp only [bind, Except.bind, discard, Functor.discard, Functor.mapConst]
      cases record.encode <;> rfl

/-- All items of what is kept within range are records. -/
theorem filterMap_recordOfItem {entries : List (String × Stored)} (fits : ∀ e ∈ entries, e.2.Fits) :
    (entries.map fun e => e.2.item e.1).filterMap (fun item => (recordOfItem item).toOption) =
      entries.map fun e => .ofText e.1 e.2.text e.2.expiry := by
  rw [List.filterMap_map, ← List.filterMap_eq_map]
  refine List.filterMap_congr fun e member => ?_
  show (recordOfItem (e.2.item e.1)).toOption = _
  rw [recordOfItem_item (fits e member)]
  rfl

/-- What is kept under the keys of a list, with the keys. -/
def kept (s : Dict Stored) (keys : List String) : List (String × Stored) :=
  keys.filterMap fun key => (s.get? key).map fun kept => (key, kept)

theorem fits_kept (fits : ∀ key kept, s.get? key = some kept → kept.Fits) (keys : List String) :
    ∀ e ∈ kept s keys, e.2.Fits := by
  intro e member
  obtain ⟨key, -, found⟩ := List.mem_filterMap.1 member
  obtain ⟨stored, there, rfl⟩ := Option.map_eq_some_iff.1 found
  exact fits key stored there

theorem filterMap_item? (mirrors : Mirrors adapter s e) (keys : List String) :
    keys.filterMap (e.item? adapter.table) = (kept s keys).map fun e => e.2.item e.1 := by
  rw [kept, List.map_filterMap, funext mirrors.item]
  simp only [Option.map_map]
  rfl

theorem filterMap_keptRecord? (keys : List String) :
    keys.filterMap (Reference.keptRecord? s) =
      (kept s keys).map fun e => .ofText e.1 e.2.text e.2.expiry := by
  rw [kept, List.map_filterMap]
  simp only [Option.map_map]
  rfl

theorem answer_bulkGet (mirrors : Mirrors adapter s e)
    (fits : ∀ key kept, s.get? key = some kept → kept.Fits) (live : m.stop? = none)
    (keys : List String) :
    ((adapter.backend Emulator.client).perform m (.bulkGet keys) e).1.result =
      Reference.answerBulkGet s keys := by
  cases few : validateBulkKeys keys with
  | error failure =>
    show ((adapter.planBulkGet m keys).carryOut Emulator.client e).1.result = _
    unfold Adapter.planBulkGet Reference.answerBulkGet
    rw [few]
    rfl
  | ok _ =>
    cases named : keys.forM validateKey with
    | error failure =>
      show ((adapter.planBulkGet m keys).carryOut Emulator.client e).1.result = _
      unfold Adapter.planBulkGet Reference.answerBulkGet
      rw [few, named]
      rfl
    | ok _ =>
      rw [adapter.perform_bulkGet_result mirrors.willing live (validateBulkKeys_eq_ok.1 few)
        (forM_validateKey_eq_ok.1 named), mirrors.filterMap_item?,
        filterMap_recordOfItem (fits_kept fits keys.eraseDups)]
      unfold Reference.answerBulkGet
      rw [few, named, filterMap_keptRecord?]
      rfl

/-- The adapter answers from the contents that its table mirrors. -/
theorem answer_adapted (mirrors : Mirrors adapter s e)
    (fits : ∀ key kept, s.get? key = some kept → kept.Fits) (live : m.stop? = none)
    (op : Operation) :
    ((adapter.backend Emulator.client).perform m op e).1.result = Reference.answer s op := by
  cases op with
  | get key => exact mirrors.answer_get fits live key
  | save key record =>
    rw [(adapter.perform_save mirrors.willing live key record).1]
    exact saveItem_eq_answerSave live key record
  | bulkGet keys => exact mirrors.answer_bulkGet fits live keys
  | bulkSave records => exact (adapter.perform_bulkSave mirrors.willing live records).1

end Mirrors

/-! ## Runs -/

/-- The answer with records that have expired hidden. -/
def Answer.withoutExpired (a : Answer) : Answer :=
  ⟨a.visit, a.visit.op.hideExpired a.visit.time a.result⟩

theorem Adapter.expiryFor_of_plain {a : Adapter} (plain : a.defaultTtl = none) (time : Timestamp) :
    a.expiryFor time = Record.expiry? := by
  funext record
  unfold expiryFor
  rw [plain]
  cases record.expiry? <;> rfl

/-- From contents that agree, the same operations are answered alike. -/
theorem World.visitAll_agree {adapter : Adapter} (plain : adapter.defaultTtl = none)
    (container : String) {calls : List (Timestamp × Operation)}
    (range : ∀ call ∈ calls, call.2.ExpiriesFit) {w v : World Client} {s : Reference}
    {e : Emulator} (serves : w.Serves adapter e) (store : v.store = .reference container s)
    (mirrors : Mirrors adapter s e) (fits : ∀ key kept, s.get? key = some kept → kept.Fits) :
    ∃ answers,
      (w.visitAll (calls.map fun call => .background call.1 call.2)).1 = some answers ∧
      (v.visitAll (calls.map fun call => .background call.1 call.2)).1 =
        some (answers.map Answer.withoutExpired) := by
  induction calls generalizing w v s e with
  | nil => exact ⟨[], rfl, rfl⟩
  | cons call rest ih =>
    obtain ⟨time, op⟩ := call
    let first := Visit.background time op
    have live (now : Instant) : (first.moment now).stop? = none := rfl
    obtain ⟨ended, serves'⟩ :=
      w.visit_adapted_of_outlasts serves first (Lifespan.outlasts_unbounded _)
    obtain ⟨shown, store'⟩ := v.visit_reference store first
    rw [Reference.answer_reference (live _)] at shown
    rw [Reference.perform_state container (live _)] at store'
    rw [mirrors.answer_adapted fits (live _)] at ended
    have mirrors' := mirrors.perform (live w.now) op
    rw [Adapter.expiryFor_of_plain plain] at mirrors'
    have within : op.ExpiriesFit := range (time, op) (by simp)
    obtain ⟨answers, adapted, agree⟩ := ih (fun call member => range call (by simp [member]))
      serves' store' mirrors'
      (Dict.putAll_induction (P := fun _ (kept : Stored) => kept.Fits) within.writes fits)
    refine ⟨⟨first, s.answer op⟩ :: answers, ?_, ?_⟩
    · rw [List.map_cons, (visitAll_cons ended).1, adapted]
      rfl
    · rw [List.map_cons, (visitAll_cons shown).1, agree]
      rfl

/-- An adapter without a default expiry, over an emulator that starts empty, answers every run of
operations as a reference store that starts empty does, but that it shows records that have
expired. -/
theorem adapted_refines_reference {adapter : Adapter} (plain : adapter.defaultTtl = none)
    (container : String) (latency : Nat) (w v : World Client)
    (calls : List (Timestamp × Operation)) (range : ∀ call ∈ calls, call.2.ExpiriesFit) :
    let visits : List Visit := calls.map fun call => .background call.1 call.2
    let adapted : World Client :=
      { w with store := .adapted adapter (.emulator (.empty latency)) .initial }
    let reference : World Client := { v with store := .reference container ∅ }
    ∃ answers, (adapted.visitAll visits).1 = some answers ∧
      (reference.visitAll visits).1 = some (answers.map Answer.withoutExpired) :=
  World.visitAll_agree plain container range ⟨.initial, rfl, rfl⟩ rfl (.empty adapter latency)
    fun _ _ found => nomatch found

/-- A record that expires between its save and its reads. -/
theorem adapted_refines_reference_expiring :
    let adapter : Adapter := .new "sessions" .verbatim none
    let idle : World Client := ⟨0, 0, .reference "sessions" ∅, none, 0, [], [], []⟩
    let calls : List (Timestamp × Operation) :=
      [(10, .save "a" (some (.ofText "a" "1" (some 15)))), (20, .get "a"),
        (20, .bulkGet ["a", "b", "a"])]
    adapter.defaultTtl = none ∧ (∀ call ∈ calls, call.2.ExpiriesFit) ∧
      ∃ answers,
        (World.visitAll (calls.map fun call => .background call.1 call.2)
          { idle with store := .adapted adapter (.emulator (.empty 3)) .initial }).1 =
          some answers ∧
        (World.visitAll (calls.map fun call => .background call.1 call.2)
          { idle with store := .reference "sessions" ∅ }).1 =
          some (answers.map Answer.withoutExpired) := by
  intro adapter idle calls
  have range : ∀ call ∈ calls, call.2.ExpiriesFit := by
    intro call member r among t expires
    simp only [calls, List.mem_cons, List.not_mem_nil, or_false] at member
    rcases member with rfl | rfl | rfl
    · simp only [Operation.records, Option.toList_some, List.mem_singleton] at among
      subst among
      cases expires
      decide
    · cases among
    · cases among
  exact ⟨rfl, range, adapted_refines_reference rfl "sessions" 3 idle idle calls range⟩

end RecordStore
