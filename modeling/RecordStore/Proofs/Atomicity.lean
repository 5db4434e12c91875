/-
RecordStore.Proofs.Atomicity -- a failed write changes nothing

A write ends in one of two ways: with an error and what was there before, or
with success and all that it writes on top of it (`AllOrNothing`).  The wire is
asked once, at the end of all checks, and the emulator looks at the failure it
was told before it touches a table, so there is no instant at which a context
could end a write halfway (`Concludes.write`).
-/
import RecordStore.Proofs.Batch
import RecordStore.Proofs.Dispatch

namespace RecordStore

set_option autoImplicit false

open RecordStore.Wire

/-- A save or a batch of writes. -/
def Operation.IsWrite : Operation → Prop
  | .save .. | .bulkSave _ => True
  | .get _ | .bulkGet _ => False

/-- What a write can fail with: a check of its arguments, a value that cannot be stored, its context,
or the backend. -/
inductive StoreError.OfWrite : StoreError → Prop
  | emptyKey : OfWrite .emptyKey
  | nilItem : OfWrite .nilItem
  | marshal (cause : Json.Cause) : OfWrite (.marshal cause)
  | cancelled (reason : StopReason) : OfWrite (.cancelled reason)
  | backend (failure : BackendFailure) : OfWrite (.backend failure)

/-- A save has a key and a record that can be stored; batches pass over those that cannot. -/
def Operation.Storable : Operation → Prop
  | .save key record =>
    Text.isBlankText key = false ∧ ∃ r text, record = some r ∧ r.encode = .ok text
  | .get _ | .bulkGet _ | .bulkSave _ => True

/-- A write fails and leaves what was there, or succeeds and leaves all it writes. -/
inductive AllOrNothing {σ : Type} (before written : σ) (op : Operation) : op.Result → σ → Prop
  | failed {failure : StoreError} (known : failure.OfWrite) :
      AllOrNothing before written op (.error failure) before
  | succeeded (answer : op.Answer) (storable : op.Storable) :
      AllOrNothing before written op (.ok answer) written

theorem AllOrNothing.lift {σ τ : Type} {before written after : σ} {op : Operation}
    {result : op.Result} (ends : AllOrNothing before written op result after) (f : σ → τ) :
    AllOrNothing (f before) (f written) op result (f after) := by
  cases ends with
  | failed known => exact .failed known
  | succeeded answer storable => exact .succeeded answer storable

/-! ## What speaks against a write -/

theorem ofWrite_keyFaults {key : String} : ∀ fault ∈ keyFaults key, fault.OfWrite := by
  intro fault member
  unfold keyFaults at member
  split at member
  · rw [List.mem_singleton.1 member]
    exact .emptyKey
  · cases member

theorem ofWrite_recordFaults {record : Option Record} :
    ∀ fault ∈ recordFaults record, fault.OfWrite := by
  intro fault member
  unfold recordFaults at member
  split at member
  · rw [List.mem_singleton.1 member]
    exact .nilItem
  · split at member
    · rw [List.mem_singleton.1 member]
      exact .marshal _
    · cases member
    · cases member

theorem ofWrite_momentFaults {m : Moment} : ∀ fault ∈ m.faults, fault.OfWrite := by
  intro fault member
  unfold Moment.faults at member
  split at member
  · rw [List.mem_singleton.1 member]
    exact .cancelled _
  · cases member

theorem ofWrite_faults {op : Operation} (write : op.IsWrite) {m : Moment} :
    ∀ fault ∈ op.faults m, fault.OfWrite := by
  intro fault member
  cases op with
  | get key => exact write.elim
  | bulkGet keys => exact write.elim
  | bulkSave records => exact ofWrite_momentFaults fault member
  | save key record =>
    rcases List.mem_append.1 member with named | member
    · exact ofWrite_keyFaults fault named
    · rcases List.mem_append.1 member with given | live
      · exact ofWrite_recordFaults fault given
      · exact ofWrite_momentFaults fault live

theorem Moment.live_of_clear {m : Moment} (clear : m.faults = []) : m.stop? = none := by
  unfold Moment.faults at clear
  split at clear
  · cases clear
  · assumption

/-- A write that is not refused begins under a live context. -/
theorem Operation.live_of_clear {op : Operation} (write : op.IsWrite) {m : Moment}
    (clear : op.faults m = []) : m.stop? = none := by
  cases op with
  | get key => exact write.elim
  | bulkGet keys => exact write.elim
  | bulkSave records => exact Moment.live_of_clear clear
  | save key record =>
    have later := (List.append_eq_nil_iff.1 clear).2
    exact Moment.live_of_clear (List.append_eq_nil_iff.1 later).2

theorem Operation.storable_of_clear {key : String} {record : Option Record}
    (named : keyFaults key = []) (given : recordFaults record = []) :
    (Operation.save key record).Storable := by
  constructor
  · unfold keyFaults at named
    split at named
    · cases named
    · next sound => exact Bool.eq_false_iff.2 sound
  · cases record with
    | none => cases given
    | some r =>
      have reports := reports_encode r
      rw [given] at reports
      obtain ⟨text, encoded⟩ := reports
      exact ⟨r, text, rfl, encoded⟩

theorem Operation.storable_of_faults {op : Operation} {m : Moment} (clear : op.faults m = []) :
    op.Storable := by
  cases op with
  | get _ | bulkGet _ | bulkSave _ => trivial
  | save key record =>
    obtain ⟨named, later⟩ := List.append_eq_nil_iff.1 clear
    exact storable_of_clear named (List.append_eq_nil_iff.1 later).1

/-- An idle write has nothing to put. -/
theorem Operation.writes_of_idle {op : Operation} (write : op.IsWrite) (idle : op.Idle)
    (expiry : Record → Option Timestamp) : op.writes expiry = [] := by
  cases op with
  | get key => exact write.elim
  | bulkGet keys => exact write.elim
  | save key record => exact idle.elim
  | bulkSave records =>
    rw [writes, List.filterMap_eq_nil_iff]
    intro record member
    unfold Record.entry?
    rcases idle record member with blank | ⟨cause, encoded⟩
    · rw [if_pos blank]
    · rw [encoded]
      split <;> rfl

/-! ## The reference store -/

namespace Reference

/-- All that speaks against a save in the reference store, which looks at the context before the
value. -/
def saveFaults (m : Moment) (key : String) : Option Record → List StoreError
  | none => keyFaults key ++ [.nilItem]
  | some record => keyFaults key ++ (m.faults ++ recordFaults (some record))

theorem reports_saveText (m : Moment) (key : String) (record : Option Record) :
    Reports (saveFaults m key record) (saveText m key record) := by
  unfold saveText
  cases record with
  | none => exact (reports_validateKey key).bind fun _ _ => rfl
  | some record =>
    refine (reports_validateKey key).bind fun _ _ => ?_
    refine (reports_checkLive m).bind fun _ _ => ?_
    exact (reports_encode record).bind_pure _

theorem ofWrite_saveFaults {m : Moment} {key : String} {record : Option Record} :
    ∀ fault ∈ saveFaults m key record, fault.OfWrite := by
  intro fault member
  cases record with
  | none =>
    rcases List.mem_append.1 member with named | given
    · exact ofWrite_keyFaults fault named
    · exact @ofWrite_recordFaults none fault given
  | some record =>
    rcases List.mem_append.1 member with named | member
    · exact ofWrite_keyFaults fault named
    · rcases List.mem_append.1 member with live | given
      · exact ofWrite_momentFaults fault live
      · exact ofWrite_recordFaults fault given

theorem storable_of_saveFaults {m : Moment} {key : String} {record : Option Record}
    (clear : saveFaults m key record = []) :
    m.stop? = none ∧ (Operation.save key record).Storable := by
  cases record with
  | none => cases (List.append_eq_nil_iff.1 clear).2
  | some record =>
    obtain ⟨named, later⟩ := List.append_eq_nil_iff.1 clear
    obtain ⟨live, given⟩ := List.append_eq_nil_iff.1 later
    exact ⟨Moment.live_of_clear live, Operation.storable_of_clear named given⟩

theorem allOrNothing (container : String) (m : Moment) {op : Operation} (write : op.IsWrite)
    (s : Reference) :
    AllOrNothing s (Dict.putAll (op.writes Record.expiry?) s) op
      ((backend container).perform m op s).1.result ((backend container).perform m op s).2 := by
  cases op with
  | get key => exact write.elim
  | bulkGet keys => exact write.elim
  | save key record =>
    show AllOrNothing s _ (.save key record) (save m key record s).1 (save m key record s).2
    have reports := reports_saveText m key record
    cases faults : saveFaults m key record with
    | cons fault rest =>
      rw [faults] at reports
      unfold save
      rw [show saveText m key record = .error fault from reports]
      have among : fault ∈ saveFaults m key record := faults ▸ List.mem_cons_self
      exact .failed (ofWrite_saveFaults fault among)
    | nil =>
      obtain ⟨live, storable⟩ := storable_of_saveFaults faults
      have state : (save m key record s).2 = _ := perform_state container live (.save key record) s
      rw [faults] at reports
      obtain ⟨kept, saved⟩ := reports
      have succeeded : (save m key record s).1 = .ok () := by
        unfold save
        rw [saved]
      rw [succeeded, state]
      exact .succeeded () storable
  | bulkSave records =>
    cases stop : m.stop? with
    | some reason =>
      show AllOrNothing s _ (.bulkSave records) (bulkSave container m records s).1.result
        (bulkSave container m records s).2
      unfold bulkSave
      rw [stop]
      exact .failed (.cancelled reason)
    | none =>
      have state := perform_state container stop (.bulkSave records) s
      have succeeded : ((backend container).perform m (.bulkSave records) s).1.result =
          .ok () := by
        show (bulkSave container m records s).1.result = _
        unfold bulkSave
        rw [stop]
        rfl
      have storable : (Operation.bulkSave records).Storable := trivial
      rw [succeeded, state]
      exact .succeeded () storable

end Reference

/-! ## The adapter -/

/-- A request to an emulator that was told to fail is refused. -/
theorem Emulator.complete_of_failing {e : Emulator} {text : String} (told : e.failure? = some text)
    (request : Request) :
    (e.noteCall request).complete request = (.error (.injected text), e.noteCall request) := by
  unfold complete
  rw [show (e.noteCall request).failure? = some text from told]

namespace Adapter

variable (a : Adapter) {m : Moment} {e : Emulator}

/-- A write that nothing speaks against succeeds over an emulator that was not told to fail. -/
theorem succeeds_of_clear (willing : e.failure? = none) {op : Operation} (write : op.IsWrite)
    (clear : op.faults m = []) :
    ∃ answer, ((a.backend Emulator.client).perform m op e).1.result = .ok answer := by
  have live := Operation.live_of_clear write clear
  cases op with
  | get key => exact write.elim
  | bulkGet keys => exact write.elim
  | save key record =>
    have reports := a.reports_saveItem m key record
    rw [clear] at reports
    obtain ⟨item, made⟩ := reports
    rw [(a.perform_save willing live key record).1, made]
    exact ⟨(), rfl⟩
  | bulkSave records => exact ⟨(), (a.perform_bulkSave willing live records).1⟩

/-- Carried out at once, a write puts everything or nothing. -/
theorem allOrNothing (m : Moment) (e : Emulator) {op : Operation} (write : op.IsWrite) :
    AllOrNothing e.tables
      (Emulator.fill a.table ((op.writes (a.expiryFor m.time)).map Stored.keyed) e.tables) op
      ((a.backend Emulator.client).perform m op e).1.result
      ((a.backend Emulator.client).perform m op e).2.tables := by
  have sound := a.plan_sound m op
  have dispatches := a.dispatches_plan m op
  have carried : (a.backend Emulator.client).perform m op e =
      (a.plan m op).carryOut Emulator.client e := rfl
  cases planned : a.plan m op with
  | done reply =>
    rw [planned] at dispatches
    rw [carried, planned]
    cases dispatches with
    | refused first =>
      have among : _ ∈ op.faults m := first ▸ List.mem_cons_self
      exact .failed (ofWrite_faults write _ among)
    | idle answer notices clear idle =>
      rw [Operation.writes_of_idle write idle]
      exact .succeeded answer (Operation.storable_of_faults clear)
  | sharedRead request => exact write.elim
  | exchange request conclude =>
    rw [planned] at sound dispatches
    cases told : e.failure? with
    | some text =>
      have failed := sound.2 (.ofWire (.injected text))
      rw [carried, planned]
      dsimp only [Plan.carryOut, Emulator.client]
      rw [Emulator.complete_of_failing told]
      dsimp only [Except.mapError]
      rw [failed]
      exact .failed (.backend _)
    | none =>
      have clear : op.faults m = [] := by
        cases dispatches with
        | sent _ clear => exact clear
      obtain ⟨answer, succeeded⟩ := a.succeeds_of_clear told write clear
      rw [succeeded, (a.perform_puts told sound.1 op).tables]
      exact .succeeded answer (Operation.storable_of_faults clear)

end Adapter

/-- However its context ends, a write over the emulator puts everything or nothing. -/
theorem Concludes.allOrNothing {a : Adapter} {m : Moment} {op : Operation} {e e' : Emulator}
    {result : op.Result} (concludes : Concludes a m op e result e') (write : op.IsWrite) :
    AllOrNothing e.tables
      (Emulator.fill a.table ((op.writes (a.expiryFor m.time)).map Stored.keyed) e.tables) op
      result e'.tables := by
  cases concludes with
  | served => exact a.allOrNothing m e write
  | stopped reason request ends => exact .failed (.cancelled reason)

/-! ## What is held -/

/-- The store holds this and has no read in flight; an adapter is over the emulator, whatever its
latency and whether or not it was told to fail. -/
inductive World.Rests (w : World Client) : Holdings → Prop
  | reference {container : String} {contents : Reference}
      (store : w.store = .reference container contents) : Rests w (.contents contents)
  | adapted {adapter : Adapter} {e : Emulator} (serves : w.Serves adapter e) :
      Rests w (.tables adapter e.tables)

/-- Holdings with entries on top: under each key what the last entry of the key says, or else what
was there before, and no other table touched. -/
inductive Holdings.Adds (entries : List (String × Stored)) : Holdings → Holdings → Prop
  | contents {s s' : Reference}
      (each : ∀ key, s'.get? key = (entries.reverse.lookup key).or (s.get? key)) :
      Adds entries (.contents s) (.contents s')
  | tables {adapter : Adapter} {all all' : Dict Table}
      (each : ∀ key, ((all'.get? adapter.table).getD ∅).get? key =
        ((entries.reverse.lookup key).map (·.item key)).or
          (((all.get? adapter.table).getD ∅).get? key))
      (others : ∀ name, name ≠ adapter.table → all'.get? name = all.get? name) :
      Adds entries (.tables adapter all) (.tables adapter all')

theorem Emulator.get?_fill_of_ne {name other : String} (ne : other ≠ name)
    (entries : List (String × Item)) (tables : Dict Table) :
    (fill name entries tables).get? other = tables.get? other := by
  cases entries with
  | nil => rfl
  | cons e rest =>
    rw [fill_eq_insert (List.cons_ne_nil e rest)]
    exact tables.get?_insert_ne ne _

theorem lookup_keyed (entries : List (String × Stored)) (key : String) :
    (entries.map Stored.keyed).lookup key = (entries.lookup key).map (·.item key) := by
  induction entries with
  | nil => rfl
  | cons e rest ih =>
    obtain ⟨name, x⟩ := e
    by_cases same : key = name
    · simp [Stored.keyed, same]
    · have other : (key == name) = false := beq_eq_false_iff_ne.2 same
      simp [Stored.keyed, List.lookup_cons, other, ih]

theorem Holdings.adds_put (entries : List (String × Stored)) (held : Holdings) :
    held.Adds entries (held.put entries) := by
  cases held with
  | contents s => exact .contents (Dict.get?_putAll entries s)
  | tables adapter all =>
    apply Adds.tables
    · intro key
      rw [Emulator.get?_fill, Dict.get?_putAll, ← List.map_reverse, lookup_keyed]
    · intro name ne
      exact Emulator.get?_fill_of_ne ne _ all

/-- Every write ends, and puts everything or nothing into what is held. -/
theorem World.Rests.visit {w : World Client} {held : Holdings} (rests : w.Rests held) (v : Visit)
    (write : v.op.IsWrite) :
    ∃ result held', (w.visit v).1 = some result ∧ (w.visit v).2.Rests held' ∧
      AllOrNothing held (held.put (v.op.writes (held.expiryAt v.time))) v.op result held' := by
  cases rests with
  | @reference container contents store =>
    obtain ⟨ended, store'⟩ := w.visit_reference store v
    have wrote := Reference.allOrNothing container (v.moment w.now) write contents
    exact ⟨_, _, ended, .reference store', wrote.lift Holdings.contents⟩
  | @adapted adapter e serves =>
    obtain ⟨result, e', concludes, ended, serves'⟩ := w.visit_adapted serves v
    have wrote := concludes.allOrNothing write
    exact ⟨result, _, ended, .adapted serves', wrote.lift (Holdings.tables adapter)⟩

/-! ## A write as a whole -/

/-- **A failed write changes nothing.**  In every store at rest a write ends, whenever its context
does and whatever the emulator was told.  If it fails, then with one of the failures of a write, and
what is held is what was held before.  If it succeeds, then what is held is what was held before with
exactly the entries of its records that can be stored on top, and a single record could be stored. -/
theorem failedWrite_changes_nothing {w : World Client} {held : Holdings} (rests : w.Rests held)
    (v : Visit) (write : v.op.IsWrite) :
    ∃ result, (w.visit v).1 = some result ∧
      (∀ failure, result = .error failure → failure.OfWrite ∧ (w.visit v).2.Rests held) ∧
      (∀ answer, result = .ok answer → v.op.Storable ∧
        ∃ held', (w.visit v).2.Rests held' ∧
          held' = held.put (v.op.writes (held.expiryAt v.time)) ∧
          held.Adds (v.op.writes (held.expiryAt v.time)) held') := by
  obtain ⟨result, held', ended, rests', wrote⟩ := rests.visit v write
  refine ⟨result, ended, ?_, ?_⟩
  · intro failure failed
    cases wrote with
    | failed known =>
      cases failed
      exact ⟨known, rests'⟩
    | succeeded answer storable => cases failed
  · intro answer succeeded
    cases wrote with
    | failed known => cases succeeded
    | succeeded answer storable =>
      exact ⟨storable, _, rests', rfl, held.adds_put _⟩

/-- A batch with a blank key over an emulator that was told to fail, under a context that ends at the
instant of the answer. -/
theorem failedWrite_changes_nothing_told :
    let a : Adapter := .new "t" .verbatim none
    let e : Emulator := { ((Emulator.empty 3).insertItem "t" (keyItem "a")).2 with
      failure? := some "down" }
    let w : World Client := ⟨0, 0, .adapted a (.emulator e) .initial, none, 0, [], [], []⟩
    let v : Visit := ⟨7, fun now => ⟨none, some (now + 3)⟩,
      .bulkSave [.ofText "b" "1" none, .ofText " " "1" none]⟩
    w.Rests (.tables a e.tables) ∧ v.op.IsWrite ∧
      ∃ result, (w.visit v).1 = some result ∧
        ∀ failure, result = .error failure →
          failure.OfWrite ∧ (w.visit v).2.Rests (.tables a e.tables) := by
  intro a e w v
  have rests : w.Rests (.tables a e.tables) := .adapted ⟨.initial, rfl, rfl⟩
  obtain ⟨result, ended, failed, -⟩ := failedWrite_changes_nothing rests v trivial
  exact ⟨rests, trivial, result, ended, failed⟩

end RecordStore
