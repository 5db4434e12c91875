/-
RecordStore.Proofs.Commutation -- operations on other keys may change places

An operation looks at its keys and writes under them (`Operation.keys`).  What is
put under other keys does not change its answer (`Holdings.answer_put`), and
entries of different keys may be put in either order (`Holdings.put_comm`).  So
two operations without a common key may be performed in either order, and so may
two reads, which put nothing (`Operation.Independent`).  The same goes for whole
runs of visits, of which neither has a key that the other writes
(`World.Holds.visitAll_comm`).
-/
import RecordStore.Proofs.Atomicity
import RecordStore.Proofs.Kept

namespace RecordStore

set_option autoImplicit false

open RecordStore.Wire

/-! ## The keys of an operation -/

namespace Operation

/-- The keys that an operation looks at or writes under. -/
def keys : Operation → List String
  | .get key | .save key _ => [key]
  | .bulkGet keys => keys
  | .bulkSave records => records.map (·.key)

/-- The operations have no key in common, or both of them only read. -/
def Independent (one other : Operation) : Prop :=
  one.keys.Disjoint other.keys ∨ ¬ one.IsWrite ∧ ¬ other.IsWrite

theorem Independent.symm {one other : Operation} (independent : one.Independent other) :
    other.Independent one := by
  rcases independent with apart | ⟨reads, reads'⟩
  · exact .inl fun key among common => apart common among
  · exact .inr ⟨reads', reads⟩

theorem isWrite_of_mem_writes {op : Operation} {expiry : Record → Option Timestamp}
    {e : String × Stored} (member : e ∈ op.writes expiry) : op.IsWrite := by
  cases op with
  | get key => cases member
  | bulkGet keys => cases member
  | save key record => trivial
  | bulkSave records => trivial

theorem mem_keys_of_mem_writes {op : Operation} {expiry : Record → Option Timestamp}
    {e : String × Stored} (member : e ∈ op.writes expiry) : e.1 ∈ op.keys := by
  cases op with
  | get key => cases member
  | bulkGet keys => cases member
  | save key record =>
    cases record with
    | none => cases member
    | some r =>
      obtain ⟨same, -⟩ := Record.entry?_eq_some (Option.mem_toList.1 member)
      exact List.mem_singleton.2 same
  | bulkSave records =>
    obtain ⟨r, among, made⟩ := List.mem_filterMap.1 member
    obtain ⟨same, -⟩ := Record.entry?_eq_some made
    exact List.mem_map.2 ⟨r, among, same.symm⟩

/-- An operation writes under no key of one that is independent of it. -/
theorem Independent.notMem_keys {one other : Operation} (independent : one.Independent other)
    {expiry : Record → Option Timestamp} {e : String × Stored} (member : e ∈ one.writes expiry) :
    e.1 ∉ other.keys := by
  intro common
  rcases independent with apart | ⟨reads, -⟩
  · exact apart (mem_keys_of_mem_writes member) common
  · exact reads (isWrite_of_mem_writes member)

end Operation

/-! ## Entries of other keys -/

/-- Entries of different keys may be put into a table in either order, whether or not the table is
there. -/
theorem Emulator.fill_comm {first rest : List (String × Item)}
    (apart : ∀ e ∈ first, ∀ e' ∈ rest, e'.1 ≠ e.1) (name : String) (tables : Dict Table) :
    fill name first (fill name rest tables) = fill name rest (fill name first tables) := by
  by_cases none : first = [] ∨ rest = []
  · rcases none with rfl | rfl <;> rfl
  · obtain ⟨some_, some'⟩ := not_or.1 none
    rw [fill_eq_insert some_, get?_fill, fill_eq_insert some', Dict.insert_insert,
      Dict.putAll_comm apart, fill_eq_insert some', get?_fill, fill_eq_insert some_,
      Dict.insert_insert]

namespace Holdings

variable (held : Holdings)

/-- Entries of different keys may be put in either order. -/
theorem put_comm {first rest : List (String × Stored)}
    (apart : ∀ e ∈ first, ∀ e' ∈ rest, e'.1 ≠ e.1) :
    (held.put rest).put first = (held.put first).put rest := by
  cases held with
  | contents s => exact congrArg contents (Dict.putAll_comm apart s)
  | tables adapter all =>
    refine congrArg (tables adapter) (Emulator.fill_comm ?_ adapter.table all)
    exact List.forall_mem_map.2 fun e member => Stored.ne_of_mem_keyed (apart e member)

/-! ## Answers -/

/-- The answer to an operation under a live context. -/
def answer (time : Timestamp) : (op : Operation) → op.Result
  | .get key => do
    validateKey key
    held.get time key
  | .save key record => Reference.answerSave key record
  | .bulkGet keys => do
    validateBulkKeys keys
    keys.forM validateKey
    return keys.eraseDups.filterMap fun key => (held.get time key).toOption
  | .bulkSave _ => .ok ()

/-- What is put under other keys does not change an answer. -/
theorem answer_put {entries : List (String × Stored)} {op : Operation}
    (others : ∀ e ∈ entries, e.1 ∉ op.keys) (time : Timestamp) :
    (held.put entries).answer time op = held.answer time op := by
  have unseen : ∀ key ∈ op.keys, (held.put entries).get time key = held.get time key := by
    intro key among
    refine held.get_put (fun e member same => ?_) time
    exact others e member (same ▸ among)
  cases op with
  | get key => rw [answer, answer, unseen key (List.mem_singleton_self key)]
  | save key record => rfl
  | bulkSave records => rfl
  | bulkGet keys =>
    have found : keys.eraseDups.filterMap (fun key => ((held.put entries).get time key).toOption) =
        keys.eraseDups.filterMap fun key => (held.get time key).toOption := by
      refine List.filterMap_congr fun key among => ?_
      rw [unseen key (List.mem_eraseDups.1 among)]
    rw [answer, answer, found]

/-- The entries that visits put, one after the other. -/
def written (visits : List Visit) : List (String × Stored) :=
  visits.flatMap fun v => v.op.writes (held.expiryAt v.time)

/-- The answers to visits under live contexts, one after the other. -/
def answers (held : Holdings) : List Visit → List Answer
  | [] => []
  | v :: rest =>
    ⟨v, held.answer v.time v.op⟩ :: (held.put (v.op.writes (held.expiryAt v.time))).answers rest

@[simp] theorem written_put (entries : List (String × Stored)) (visits : List Visit) :
    (held.put entries).written visits = held.written visits := by
  simp [written]

theorem written_cons (v : Visit) (rest : List Visit) :
    held.written (v :: rest) = v.op.writes (held.expiryAt v.time) ++ held.written rest :=
  List.flatMap_cons

theorem written_append (first rest : List Visit) :
    held.written (first ++ rest) = held.written first ++ held.written rest :=
  List.flatMap_append

theorem answers_append (first rest : List Visit) :
    held.answers (first ++ rest) =
      held.answers first ++ (held.put (held.written first)).answers rest := by
  induction first generalizing held with
  | nil => simp [answers, written]
  | cons v first ih =>
    rw [List.cons_append, answers, answers, ih, written_put, written_cons, put_append]
    rfl

/-- What is put under other keys does not change the answers of a run. -/
theorem answers_put {entries : List (String × Stored)} {visits : List Visit}
    (others : ∀ e ∈ entries, ∀ v ∈ visits, e.1 ∉ v.op.keys) :
    (held.put entries).answers visits = held.answers visits := by
  induction visits generalizing held with
  | nil => rfl
  | cons v rest ih =>
    have apart : ∀ e ∈ v.op.writes (held.expiryAt v.time), ∀ e' ∈ entries, e'.1 ≠ e.1 := by
      intro e writes e' member same
      exact others e' member v (by simp) (same ▸ Operation.mem_keys_of_mem_writes writes)
    rw [answers, answers, held.answer_put (fun e member => others e member v (by simp)),
      expiryAt_put, held.put_comm apart, ih]
    exact fun e member u later => others e member u (by simp [later])

end Holdings

/-! ## The stores answer from what they hold -/

theorem Reference.perform_eq_answer (container : String) {m : Moment} (live : m.stop? = none)
    (op : Operation) (s : Reference) :
    ((backend container).perform m op s).1.result = (Holdings.contents s).answer m.time op := by
  cases op with
  | save key record => exact save_eq_answerSave live s key record
  | get key =>
    show get m key s = _
    cases valid : validateKey key with
    | error failure =>
      rw [get, Holdings.answer, valid]
      rfl
    | ok _ =>
      rw [get_of_live live (validateKey_eq_ok.1 valid), Holdings.answer, valid]
      rfl
  | bulkGet keys =>
    show bulkGet m keys s = _
    unfold bulkGet Holdings.answer
    simp only [Holdings.toOption_get_contents]
    rw [live]
    rfl
  | bulkSave records =>
    show (bulkSave container m records s).1.result = _
    rw [bulkSave, live]
    rfl

theorem Adapter.perform_eq_answer (a : Adapter) {m : Moment} (live : m.stop? = none) {e : Emulator}
    (willing : e.failure? = none) (op : Operation) :
    ((a.backend Emulator.client).perform m op e).1.result =
      (Holdings.tables a e.tables).answer m.time op := by
  cases op with
  | bulkSave records => exact (a.perform_bulkSave willing live records).1
  | save key record =>
    rw [(a.perform_save willing live key record).1]
    exact Mirrors.saveItem_eq_answerSave live key record
  | get key =>
    cases valid : validateKey key with
    | error failure =>
      show ((a.planGet m key).carryOut Emulator.client e).1.result = _
      rw [planGet, Holdings.answer, valid]
      rfl
    | ok _ =>
      rw [a.perform_get_result willing live valid, Holdings.answer, valid]
      rfl
  | bulkGet keys =>
    cases few : validateBulkKeys keys with
    | error failure =>
      show ((a.planBulkGet m keys).carryOut Emulator.client e).1.result = _
      rw [planBulkGet, Holdings.answer, few]
      rfl
    | ok _ =>
      cases named : keys.forM validateKey with
      | error failure =>
        show ((a.planBulkGet m keys).carryOut Emulator.client e).1.result = _
        rw [planBulkGet, Holdings.answer, few, named]
        rfl
      | ok _ =>
        rw [a.perform_bulkGet_result willing live (validateBulkKeys_eq_ok.1 few)
          (forM_validateKey_eq_ok.1 named), List.filterMap_filterMap, Holdings.answer, few, named]
        refine congrArg Except.ok (List.filterMap_congr fun key _ => ?_)
        exact (Adapter.toOption_recordOfFound _).symm

/-! ## Visits under live contexts -/

/-- Whenever the visit begins, its context outlasts an answer that takes the latency. -/
def Visit.Live (latency : Nat) (v : Visit) : Prop :=
  ∀ now, (v.life now).Outlasts (now + latency)

namespace World.Holds

variable {w : World Client} {held : Holdings} {latency : Nat} (holds : w.Holds held latency)

include holds

/-- A visit under a live context is answered from what is held. -/
theorem visit_answer {v : Visit} (live : v.Live latency) :
    (w.visit v).1 = some (held.answer v.time v.op) := by
  have begins := (⟨v.life, live⟩ : LiveContext latency).stop?_eq_none v.time v.op w.now
  cases holds with
  | @reference container contents store =>
    obtain ⟨ended, -⟩ := w.visit_reference store v
    rw [ended, Reference.perform_eq_answer container begins]
    rfl
  | @adapted adapter e serves willing =>
    obtain ⟨ended, -⟩ := w.visit_adapted_of_outlasts serves v (live w.now)
    rw [ended, adapter.perform_eq_answer begins willing]
    rfl

/-- So is every visit of a run, from what those before it leave. -/
theorem visitAll_answers {visits : List Visit} (live : ∀ v ∈ visits, v.Live latency) :
    (w.visitAll visits).1 = some (held.answers visits) ∧
      (w.visitAll visits).2.Holds (held.put (held.written visits)) latency := by
  induction visits generalizing w held with
  | nil => exact ⟨rfl, held.put_nil.symm ▸ holds⟩
  | cons v rest ih =>
    have ended := holds.visit_answer (live v (by simp))
    obtain ⟨-, after⟩ := holds.visit v.time ⟨v.life, live v (by simp)⟩ v.op
    obtain ⟨later, last⟩ := ih after fun u member => live u (by simp [member])
    rw [Holdings.written_put, ← Holdings.put_append, ← Holdings.written_cons] at last
    constructor
    · rw [(visitAll_cons ended).1]
      exact congrArg (Option.map _) later
    · rw [(visitAll_cons ended).2]
      exact last

/-- Two runs, of which none writes under a key of the other, may change places. -/
theorem visitAll_comm {first rest : List Visit} (live : ∀ v ∈ first, v.Live latency)
    (live' : ∀ v ∈ rest, v.Live latency)
    (independent : ∀ v ∈ first, ∀ u ∈ rest, v.op.Independent u.op) :
    let after := held.put (held.written (first ++ rest))
    (w.visitAll (first ++ rest)).1 = some (held.answers first ++ held.answers rest) ∧
      (w.visitAll (rest ++ first)).1 = some (held.answers rest ++ held.answers first) ∧
      (w.visitAll (first ++ rest)).2.Holds after latency ∧
      (w.visitAll (rest ++ first)).2.Holds after latency := by
  intro after
  have all : ∀ v, v ∈ first ∨ v ∈ rest → v.Live latency := fun v member =>
    member.elim (live v) (live' v)
  have unseen : ∀ e ∈ held.written first, ∀ u ∈ rest, e.1 ∉ u.op.keys := by
    intro e member u later
    obtain ⟨v, earlier, writes⟩ := List.mem_flatMap.1 member
    exact (independent v earlier u later).notMem_keys writes
  have unseen' : ∀ e ∈ held.written rest, ∀ v ∈ first, e.1 ∉ v.op.keys := by
    intro e member v earlier
    obtain ⟨u, later, writes⟩ := List.mem_flatMap.1 member
    exact (independent v earlier u later).symm.notMem_keys writes
  have apart : ∀ e ∈ held.written first, ∀ e' ∈ held.written rest, e'.1 ≠ e.1 := by
    intro e member e' member' same
    obtain ⟨u, later, writes⟩ := List.mem_flatMap.1 member'
    exact unseen e member u later (same ▸ Operation.mem_keys_of_mem_writes writes)
  obtain ⟨answers, left⟩ := holds.visitAll_answers fun v member => all v (List.mem_append.1 member)
  obtain ⟨answers', left'⟩ := holds.visitAll_answers fun v member =>
    all v (List.mem_append.1 member).symm
  rw [held.answers_append, held.answers_put unseen] at answers
  rw [held.answers_append, held.answers_put unseen'] at answers'
  have same : held.put (held.written (rest ++ first)) = after := by
    unfold after
    rw [held.written_append, held.put_append, held.put_comm apart, ← held.put_append,
      ← held.written_append]
  exact ⟨answers, answers', left, same ▸ left'⟩

end World.Holds

/-! ## Two operations -/

/-- **Operations on other keys commute.**  Whatever a store holds, two operations under live contexts,
each with its own time of day, that have no key in common or only read, are both answered from what
it holds, in either order, and leave the same behind: the entries of both, put into it. -/
theorem independent_visits_commute {w : World Client} {held : Holdings} {latency : Nat}
    (holds : w.Holds held latency) {one other : Visit} (live : one.Live latency)
    (live' : other.Live latency) (independent : one.op.Independent other.op) :
    let result := held.answer one.time one.op
    let result' := held.answer other.time other.op
    let after := held.put (held.written [one, other])
    (w.visitAll [one, other]).1 = some [⟨one, result⟩, ⟨other, result'⟩] ∧
      (w.visitAll [other, one]).1 = some [⟨other, result'⟩, ⟨one, result⟩] ∧
      (w.visitAll [one, other]).2.Holds after latency ∧
      (w.visitAll [other, one]).2.Holds after latency :=
  holds.visitAll_comm (List.forall_mem_singleton.2 live) (List.forall_mem_singleton.2 live')
    (List.forall_mem_singleton.2 (List.forall_mem_singleton.2 independent))

/-- A batch that writes a key twice, with a blank key and a value that cannot be stored in between,
and a batch that reads an item without a value, a key that is not there, and a record that has
expired. -/
theorem independent_visits_commute_batches :
    let a : Adapter := .new "t" .verbatim (some (.ofSeconds 60))
    let e : Emulator := (((Emulator.empty 3).insertItem "t" (keyItem "a")).2.insertItem "t"
      (recordItem "e" "3" (some 8))).2
    let w : World Client := ⟨0, 0, .adapted a (.emulator e) .initial, none, 0, [], [], []⟩
    let held := Holdings.tables a e.tables
    let context := LiveContext.deadline 3 6
    let one : Visit := ⟨7, context.life, .bulkSave [.ofText "b" "1" none, .ofText " " "1" none,
      ⟨"d", .invalid .numberOutOfRange, none⟩, .ofText "b" "2" (some 9)]⟩
    let other : Visit := ⟨11, context.life, .bulkGet ["c", "e", "a", "c"]⟩
    let found : other.op.Result := .ok [.ofText "e" "3" (some 8)]
    let after := held.put [("b", ⟨"1", some 67⟩), ("b", ⟨"2", some 9⟩)]
    w.Holds held 3 ∧ one.Live 3 ∧ other.Live 3 ∧ one.op.Independent other.op ∧
      (w.visitAll [one, other]).1 = some [⟨one, .ok ()⟩, ⟨other, found⟩] ∧
      (w.visitAll [other, one]).1 = some [⟨other, found⟩, ⟨one, .ok ()⟩] ∧
      (w.visitAll [one, other]).2.Holds after 3 ∧ (w.visitAll [other, one]).2.Holds after 3 := by
  intro a e w held context one other found after
  have holds : w.Holds held 3 := .adapted ⟨.initial, rfl, rfl⟩ rfl
  have apart : one.op.Independent other.op := by
    refine .inl fun key among common => ?_
    simp only [one, other, Operation.keys, Record.ofText, List.map_cons, List.map_nil,
      List.mem_cons, List.not_mem_nil, or_false] at among common
    rcases common with rfl | rfl | rfl | rfl <;> revert among <;> decide
  have written : held.written [one, other] = [("b", ⟨"1", some 67⟩), ("b", ⟨"2", some 9⟩)] := by
    decide +kernel
  have live : one.Live 3 := context.outlasts
  have live' : other.Live 3 := context.outlasts
  have commute := independent_visits_commute holds live live' apart
  rw [written] at commute
  exact ⟨holds, live, live', apart, commute⟩

end RecordStore
