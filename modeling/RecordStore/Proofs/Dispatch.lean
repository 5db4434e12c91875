/-
RecordStore.Proofs.Dispatch -- what is refused, and what is sent

Everything that speaks against an operation is a list, in the order in which it
is looked at (`Operation.faults`); checks done one after the other report its
head (`Reports.bind`).  A plan reports the first fault, or has nothing to ask
the wire for, or makes the one request of its operation
(`Adapter.dispatches_plan`).
-/
import Mathlib.Data.List.Induction
import RecordStore.Adapter
import RecordStore.Proofs.Operation

namespace RecordStore

set_option autoImplicit false

open RecordStore.Wire

/-! ## What speaks against an operation -/

/-- A key that holds nothing but blanks. -/
def keyFaults (key : String) : List StoreError :=
  if Text.isBlankText key then [.emptyKey] else []

/-- No record, or one that cannot be stored. -/
def recordFaults : Option Record → List StoreError
  | none => [.nilItem]
  | some record =>
    match record.value with
    | .invalid cause => [.marshal cause]
    | .payload _ | .encoded _ => []

/-- More keys than a batch may name, with their number. -/
def countFaults (keys : List String) : List StoreError :=
  if 100 < keys.length then [.tooManyKeys keys.length 100] else []

/-- A context that is over. -/
def Moment.faults (m : Moment) : List StoreError :=
  match m.stop? with
  | some reason => [.cancelled reason]
  | none => []

/-- All that speaks against an operation over a wire, in the order in which it is reported. -/
def Operation.faults (m : Moment) : Operation → List StoreError
  | .get key => keyFaults key ++ m.faults
  | .save key record => keyFaults key ++ (recordFaults record ++ m.faults)
  | .bulkGet keys =>
    countFaults keys ++ ((if keys.any Text.isBlankText then [.emptyKey] else []) ++ m.faults)
  | .bulkSave _ => m.faults

/-- An operation that has nothing to ask for: a batch of no keys, or of no record that can be
stored. -/
def Operation.Idle : Operation → Prop
  | .bulkGet keys => keys = []
  | .bulkSave records => ∀ r ∈ records,
      Text.isBlankText r.key = true ∨ ∃ cause, r.encode = .error cause
  | .get _ | .save .. => False

/-! ## Checks one after the other -/

/-- A check fails with the first fault, and succeeds when there is none. -/
def Reports {α : Type} (faults : List StoreError) (check : Except StoreError α) : Prop :=
  match faults with
  | fault :: _ => check = .error fault
  | [] => ∃ a, check = .ok a

theorem Reports.bind {α β : Type} {first rest : List StoreError} {check : Except StoreError α}
    {next : α → Except StoreError β} (reports : Reports first check)
    (later : ∀ a, check = .ok a → Reports rest (next a)) :
    Reports (first ++ rest) (check >>= next) := by
  cases first with
  | nil =>
    obtain ⟨a, passed⟩ := reports
    rw [List.nil_append, passed]
    exact later a passed
  | cons fault _ =>
    rw [show check = .error fault from reports]
    exact rfl

/-- A result that is only changed when a check has passed. -/
theorem Reports.bind_pure {α β : Type} {faults : List StoreError} {check : Except StoreError α}
    (reports : Reports faults check) (f : α → β) :
    Reports faults (check >>= fun a => pure (f a)) := by
  have both : Reports (faults ++ []) (check >>= fun a => pure (f a)) :=
    reports.bind fun a _ => ⟨f a, rfl⟩
  rwa [List.append_nil] at both

theorem reports_validateKey (key : String) : Reports (keyFaults key) (validateKey key) := by
  unfold keyFaults validateKey
  split
  · exact rfl
  · exact ⟨(), rfl⟩

theorem reports_forM_validateKey (keys : List String) :
    Reports (if keys.any Text.isBlankText then [.emptyKey] else []) (keys.forM validateKey) := by
  induction keys with
  | nil => exact ⟨(), rfl⟩
  | cons key rest ih =>
    have both : Reports _ (validateKey key >>= fun _ => rest.forM validateKey) :=
      (reports_validateKey key).bind fun _ _ => ih
    show Reports _ (validateKey key >>= fun _ => rest.forM validateKey)
    unfold keyFaults at both
    cases blank : Text.isBlankText key with
    | true =>
      rw [blank] at both
      rw [List.any_cons, blank]
      exact both
    | false =>
      rw [blank] at both
      rw [List.any_cons, blank]
      exact both

theorem reports_validateBulkKeys (keys : List String) :
    Reports (countFaults keys) (validateBulkKeys keys) := by
  unfold countFaults validateBulkKeys maxBulkKeys
  split
  · exact rfl
  · exact ⟨(), rfl⟩

theorem reports_checkLive (m : Moment) : Reports m.faults (checkLive m.stop?) := by
  unfold Moment.faults
  cases m.stop? with
  | some reason => exact rfl
  | none => exact ⟨(), rfl⟩

theorem reports_encode (record : Record) : Reports (recordFaults (some record)) record.encode := by
  obtain ⟨key, value, expiry⟩ := record
  cases value with
  | payload json => exact ⟨json.render, rfl⟩
  | encoded text => exact ⟨text, rfl⟩
  | invalid cause => exact rfl

namespace Adapter

variable (a : Adapter) (m : Moment)

theorem reports_saveItem (key : String) (record : Option Record) :
    Reports ((Operation.save key record).faults m) (a.saveItem m key record) := by
  unfold saveItem
  refine (reports_validateKey key).bind fun _ _ => ?_
  cases record with
  | none => exact rfl
  | some record =>
    refine (reports_encode record).bind fun text _ => ?_
    exact (reports_checkLive m).bind_pure _

/-! ## Plans -/

/-- The request of an operation that passes all checks and has something to ask for. -/
inductive Asks : Operation → Request → Prop
  | get (key : String) : Asks (.get key) (.read (a.readRequest key))
  | save {key : String} {record : Option Record} {item : Item}
      (made : a.saveItem m key record = .ok item) : Asks (.save key record) (.write ⟨a.table, item⟩)
  | bulkGet (keys : List String) : Asks (.bulkGet keys) (.batchRead (a.batchReadRequest keys))
  | bulkSave (records : Records) : Asks (.bulkSave records) (.batchWrite
      ⟨(∅ : Dict (List WriteEntry)).insert a.table (a.writeEntries m.time records).1⟩)

/-- A batch of writes has no entries exactly when it is idle. -/
theorem isEmpty_writeEntries (time : Timestamp) (records : Records) :
    (a.writeEntries time records).1.isEmpty = true ↔ (Operation.bulkSave records).Idle := by
  induction records using List.reverseRecOn with
  | nil => simp [writeEntries, Operation.Idle]
  | append_singleton rest record ih =>
    rw [Operation.Idle] at ih ⊢
    rw [List.forall_mem_append, ← ih]
    unfold writeEntries
    rw [List.foldl_append, List.foldl_cons, List.foldl_nil]
    split
    · next blank => simp [blank]
    · next sound =>
      cases encoded : record.encode with
      | ok text => simp [sound, encoded]
      | error e => simp [encoded]

/-- How an operation is dispatched: refused for its first fault, done because it is idle, or sent
as its one request. -/
inductive Dispatches : (op : Operation) → Plan op → Prop
  | refused {op : Operation} {fault : StoreError} {rest : List StoreError}
      (first : op.faults m = fault :: rest) : Dispatches op (.done (.of (.error fault)))
  | idle {op : Operation} (answer : op.Answer) (notices : List Notice) (clear : op.faults m = [])
      (idle : op.Idle) : Dispatches op (.done ⟨.ok answer, notices⟩)
  | shared {key : String} (clear : (Operation.get key).faults m = []) :
      Dispatches (.get key) (.sharedRead (a.readRequest key))
  | sent {op : Operation} {request : Request}
      (conclude : Except StoreError request.Response → Reply op) (clear : op.faults m = [])
      (busy : ¬ op.Idle) (asks : a.Asks m op request) (own : op.kind ≠ .get) :
      Dispatches op (.exchange request conclude)

theorem dispatches_planGet (key : String) : a.Dispatches m (.get key) (a.planGet m key) := by
  have reports : Reports ((Operation.get key).faults m)
      (do validateKey key; checkLive m.stop? : Except StoreError Unit) :=
    (reports_validateKey key).bind fun _ _ => reports_checkLive m
  unfold planGet
  cases faults : (Operation.get key).faults m with
  | cons fault rest =>
    rw [faults] at reports
    rw [show (do validateKey key; checkLive m.stop? : Except StoreError Unit) = .error fault from
      reports]
    exact .refused faults
  | nil =>
    rw [faults] at reports
    obtain ⟨_, passed⟩ := reports
    rw [passed]
    exact .shared faults

theorem dispatches_planSave (key : String) (record : Option Record) :
    a.Dispatches m (.save key record) (a.planSave m key record) := by
  have reports := a.reports_saveItem m key record
  unfold planSave
  cases faults : (Operation.save key record).faults m with
  | cons fault rest =>
    rw [faults] at reports
    rw [show a.saveItem m key record = .error fault from reports]
    exact .refused faults
  | nil =>
    rw [faults] at reports
    obtain ⟨item, made⟩ := reports
    rw [made]
    exact .sent _ faults id (.save made) nofun

theorem dispatches_planBulkGet (keys : List String) :
    a.Dispatches m (.bulkGet keys) (a.planBulkGet m keys) := by
  have reports : Reports ((Operation.bulkGet keys).faults m)
      (do validateBulkKeys keys; keys.forM validateKey; checkLive m.stop? :
        Except StoreError Unit) := by
    refine (reports_validateBulkKeys keys).bind fun _ _ => ?_
    exact (reports_forM_validateKey keys).bind fun _ _ => reports_checkLive m
  unfold planBulkGet
  cases faults : (Operation.bulkGet keys).faults m with
  | cons fault rest =>
    rw [faults] at reports
    rw [show (do validateBulkKeys keys; keys.forM validateKey; checkLive m.stop? :
      Except StoreError Unit) = .error fault from reports]
    exact .refused faults
  | nil =>
    rw [faults] at reports
    obtain ⟨_, passed⟩ := reports
    rw [passed]
    dsimp only
    split
    · next empty => exact .idle _ _ faults (List.isEmpty_iff.1 empty)
    · next some_ =>
      have busy : ¬ (Operation.bulkGet keys).Idle := fun none => some_ (List.isEmpty_iff.2 none)
      exact .sent _ faults busy (.bulkGet keys) nofun

theorem dispatches_planBulkSave (records : Records) :
    a.Dispatches m (.bulkSave records) (a.planBulkSave m records) := by
  have reports : Reports ((Operation.bulkSave records).faults m) (checkLive m.stop?) :=
    reports_checkLive m
  unfold planBulkSave
  cases faults : (Operation.bulkSave records).faults m with
  | cons fault rest =>
    rw [faults] at reports
    rw [show checkLive m.stop? = .error fault from reports]
    exact .refused faults
  | nil =>
    rw [faults] at reports
    obtain ⟨_, passed⟩ := reports
    rw [passed]
    dsimp only
    split
    · next empty =>
      exact .idle _ _ faults ((a.isEmpty_writeEntries m.time records).1 empty)
    · next some_ =>
      have busy : ¬ (Operation.bulkSave records).Idle := fun none =>
        some_ ((a.isEmpty_writeEntries m.time records).2 none)
      exact .sent _ faults busy (.bulkSave records) nofun

/-- Every plan dispatches its operation. -/
theorem dispatches_plan : (op : Operation) → a.Dispatches m op (a.plan m op)
  | .get key => a.dispatches_planGet m key
  | .save key record => a.dispatches_planSave m key record
  | .bulkGet keys => a.dispatches_planBulkGet m keys
  | .bulkSave records => a.dispatches_planBulkSave m records

end Adapter

end RecordStore
