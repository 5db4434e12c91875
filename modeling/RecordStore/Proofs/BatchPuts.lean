/-
RecordStore.Proofs.BatchPuts -- what a call leaves behind that puts items

Items come into an emulator one by one or in a batch, and each is kept under its
string attribute `key`.  A call that puts one item looks for the key first, so it is
all or nothing (`Emulator.Indivisible`).  A batch looks for the key of a put when its
turn comes.  So it carries out the puts before the first one without a key, in order,
and nothing else (`Emulator.held_putTables`), also when it is refused for that put.
It is all or nothing where every put has a key (`Emulator.puts_of_calls`), and need
not be otherwise (`Emulator.batch_divided`).
-/
import Mathlib.Data.List.TakeWhile
import RecordStore.Proofs.ItemIdentity

namespace RecordStore.Emulator

set_option autoImplicit false

open RecordStore.Wire

/-! ## Puts -/

/-- An item that is put into a table. -/
structure Put where
  table : String
  item : Item
  deriving DecidableEq

/-- The key under which the item is kept. -/
def Put.key? (put : Put) : Option String := (itemKey put.item).toOption

/-- The item is kept under the key of the table. -/
def Put.about (name key : String) (put : Put) : Bool := put.table == name && put.key? == some key

/-- The puts of a batch of writes, in order. -/
def putsOf (writes : List (String × List WriteEntry)) : List Put :=
  writes.flatMap fun w => (w.2.filterMap (·.put?)).map (Put.mk w.1)

/-- Every put has a key. -/
def AllKeyed (puts : List Put) : Prop := ∀ put ∈ puts, put.key?.isSome

instance (puts : List Put) : Decidable (AllKeyed puts) :=
  inferInstanceAs (Decidable (∀ put ∈ puts, put.key?.isSome))

/-- The puts before the first one that has no key. -/
def accepted (puts : List Put) : List Put := puts.takeWhile (·.key?.isSome)

/-- The item of the last put that is about a key of a table. -/
def lastPut? (puts : List Put) (name key : String) : Option Item :=
  (puts.reverse.find? (·.about name key)).map (·.item)

/-- The puts were carried out in order, and every other item is as it was. -/
def Applied (puts : List Put) (e e' : Emulator) : Prop :=
  ∀ name key, e'.item? name key = (lastPut? puts name key).or (e.item? name key)

/-- A call that is to carry out the puts does so, or fails and leaves the tables as they were. -/
structure Indivisible {α : Type} (willing : Prop) (puts : List Put) (e : Emulator)
    (ended : Except WireError α × Emulator) : Prop where
  succeeds_iff : (∃ answer, ended.1 = .ok answer) ↔ willing ∧ AllKeyed puts
  applied : ∀ answer, ended.1 = .ok answer → Applied puts e ended.2
  untouched : ∀ error, ended.1 = .error error → ∀ name, ended.2.table name = e.table name

/-- What is said to a put without a key. -/
def keyless : WireError :=
  .service 400 "ValidationException" "item is missing string attribute 'key'"

theorem key?_eq_some {put : Put} {key : String} :
    put.key? = some key ↔ itemKey put.item = .ok key := by
  unfold Put.key?
  cases itemKey put.item <;> simp [Except.toOption]

theorem itemKey_eq_error {item : Item} {error : WireError} (refused : itemKey item = .error error) :
    error = keyless := by
  unfold itemKey at refused
  split at refused
  · cases refused
  · exact (Except.error.inj refused).symm

@[simp] theorem lastPut?_nil (name key : String) : lastPut? [] name key = none := rfl

theorem lastPut?_append (first rest : List Put) (name key : String) :
    lastPut? (first ++ rest) name key = (lastPut? rest name key).or (lastPut? first name key) := by
  rw [lastPut?, List.reverse_append, List.find?_append, Option.map_or]
  rfl

theorem lastPut?_cons (put : Put) (rest : List Put) (name key : String) :
    lastPut? (put :: rest) name key =
      (lastPut? rest name key).or (if put.about name key then some put.item else none) := by
  have single : lastPut? [put] name key = if put.about name key then some put.item else none := by
    cases here : put.about name key <;> simp [lastPut?, here]
  rw [← single, ← lastPut?_append, List.singleton_append]

/-- Puts into another table do not matter. -/
theorem lastPut?_of_ne {ps : List Put} {name : String} (others : ∀ put ∈ ps, put.table ≠ name)
    (key : String) : lastPut? ps name key = none := by
  rw [lastPut?, Option.map_eq_none_iff, List.find?_eq_none]
  intro put member about
  simp only [Put.about, Bool.and_eq_true, beq_iff_eq] at about
  exact others put (List.mem_reverse.1 member) about.1

theorem allKeyed_cons {put : Put} {rest : List Put} :
    AllKeyed (put :: rest) ↔ put.key?.isSome ∧ AllKeyed rest := List.forall_mem_cons

theorem allKeyed_append {first rest : List Put} :
    AllKeyed (first ++ rest) ↔ AllKeyed first ∧ AllKeyed rest := List.forall_mem_append

theorem accepted_of_keyed {ps : List Put} (keyed : AllKeyed ps) : accepted ps = ps :=
  List.takeWhile_eq_self_iff.2 keyed

/-- Behind a put without a key nothing is accepted. -/
theorem accepted_append (first rest : List Put) : accepted (first ++ rest) =
    if AllKeyed first then first ++ accepted rest else accepted first := by
  split
  · next keyed => exact List.takeWhile_append_of_pos keyed
  · next refused =>
    induction first with
    | nil => exact absurd nofun refused
    | cons put first ih =>
      unfold accepted at ih ⊢
      rw [List.cons_append, List.takeWhile_cons, List.takeWhile_cons]
      split
      · next own =>
        rw [ih fun keyed => refused (allKeyed_cons.2 ⟨own, keyed⟩)]
      · rfl

theorem putsOf_cons (name : String) (entries : List WriteEntry)
    (rest : List (String × List WriteEntry)) :
    putsOf ((name, entries) :: rest) =
      (entries.filterMap (·.put?)).map (Put.mk name) ++ putsOf rest :=
  List.flatMap_cons

/-! ## The order of the tables -/

theorem table_of_mem_map {name : String} {items : List Item} :
    ∀ put ∈ items.map (Put.mk name), put.table = name := by
  intro put member
  obtain ⟨item, -, rfl⟩ := List.mem_map.1 member
  rfl

/-- Only puts into the table matter. -/
theorem lastPut?_putsOf (writes : List (String × List WriteEntry)) (name key : String) :
    lastPut? (putsOf writes) name key =
      lastPut? (putsOf (writes.filter (·.1 == name))) name key := by
  induction writes with
  | nil => rfl
  | cons write rest ih =>
    obtain ⟨own, entries⟩ := write
    by_cases same : own = name
    · rw [List.filter_cons_of_pos (by simp [same]), putsOf_cons, putsOf_cons, lastPut?_append,
        lastPut?_append, ih]
    · have others : ∀ put ∈ (entries.filterMap (·.put?)).map (Put.mk own), put.table ≠ name := by
        intro put member
        rwa [table_of_mem_map put member]
      rw [List.filter_cons_of_neg (by simp [same]), putsOf_cons, lastPut?_append,
        lastPut?_of_ne others, Option.or_none, ih]

/-- Tables of a batch have different names, so their order does not matter. -/
theorem lastPut?_of_perm {writes writes' : List (String × List WriteEntry)}
    (distinct : (writes'.map (·.1)).Nodup) (perm : writes.Perm writes') (name key : String) :
    lastPut? (putsOf writes) name key = lastPut? (putsOf writes') name key := by
  have same : writes.filter (·.1 == name) = writes'.filter (·.1 == name) := by
    have perm' := perm.filter (·.1 == name)
    have single : (writes'.filter (·.1 == name)).length ≤ 1 := by
      have count := List.nodup_iff_count_le_one.1 distinct name
      rwa [List.count, List.countP_map, List.countP_eq_length_filter] at count
    cases own : writes'.filter (·.1 == name) with
    | nil => exact List.perm_nil.1 (own ▸ perm')
    | cons write rest =>
      rw [own] at perm' single
      obtain rfl : rest = [] := List.length_eq_zero_iff.1 (by simpa using single)
      exact List.perm_singleton.1 perm'
  rw [lastPut?_putsOf, same, ← lastPut?_putsOf]

theorem allKeyed_of_perm {ps ps' : List Put} (perm : ps.Perm ps') (keyed : AllKeyed ps') :
    AllKeyed ps := fun put member => keyed put (perm.subset member)

/-! ## Tables after puts -/

/-- The item under a key of a table. -/
def held (tables : Dict Table) (name key : String) : Option Item :=
  ((tables.get? name).getD ∅).get? key

theorem held_insert (tables : Dict Table) (name other key : String) (t : Table) :
    held (tables.insert name t) other key =
      if other = name then t.get? key else held tables other key := by
  unfold held
  rw [Dict.get?_insert]
  split <;> rfl

/-- Items are put into a table up to the first one without a key. -/
theorem get?_putAll (name : String) (items : List Item) (t : Table) (key : String) :
    (putAll items t).2.get? key =
      (lastPut? (accepted (items.map (Put.mk name))) name key).or (t.get? key) := by
  induction items generalizing t with
  | nil => rfl
  | cons item rest ih =>
    rw [putAll, List.map_cons, accepted, List.takeWhile_cons]
    cases own : itemKey item with
    | error error =>
      have none_ : (Put.mk name item).key? = none := by rw [Put.key?, own]; rfl
      simp [none_]
    | ok k =>
      have some_ : (Put.mk name item).key? = some k := key?_eq_some.2 own
      have about : (Put.mk name item).about name key = (k == key) := by simp [Put.about, some_]
      simp only [some_, Option.isSome_some, if_true]
      rw [ih, lastPut?_cons, about, Option.or_assoc, Dict.get?_insert]
      congr 1
      by_cases same : key = k
      · simp [same]
      · simp [same, Ne.symm same]

theorem putAll_fst (name : String) (items : List Item) (t : Table) :
    (putAll items t).1 = if AllKeyed (items.map (Put.mk name)) then none else some keyless := by
  induction items generalizing t with
  | nil => rfl
  | cons item rest ih =>
    rw [putAll]
    cases own : itemKey item with
    | error error =>
      have none_ : (Put.mk name item).key? = none := by rw [Put.key?, own]; rfl
      simp [allKeyed_cons, none_, itemKey_eq_error own]
    | ok k =>
      have some_ : (Put.mk name item).key? = some k := key?_eq_some.2 own
      simp only [ih, List.map_cons, allKeyed_cons, some_, Option.isSome_some, true_and]

/-- A batch puts what comes before the first put without a key, over all of its tables. -/
theorem held_putTables (writes : List (String × List WriteEntry)) (tables : Dict Table)
    (name key : String) : held (putTables writes tables).2 name key =
      (lastPut? (accepted (putsOf writes)) name key).or (held tables name key) := by
  induction writes generalizing tables with
  | nil => rfl
  | cons write rest ih =>
    obtain ⟨own, entries⟩ := write
    have put := get?_putAll own (entries.filterMap (·.put?)) ((tables.get? own).getD ∅)
    have fails := putAll_fst own (entries.filterMap (·.put?)) ((tables.get? own).getD ∅)
    -- The table of the first entry, whether or not the batch goes on behind it.
    have first : held (tables.insert own
        (putAll (entries.filterMap (·.put?)) ((tables.get? own).getD ∅)).2) name key =
        (lastPut? (accepted ((entries.filterMap (·.put?)).map (Put.mk own))) name key).or
          (held tables name key) := by
      rw [held_insert]
      split
      · next same => rw [same, put key]; rfl
      · next other =>
        have elsewhere : ∀ put ∈ accepted ((entries.filterMap (·.put?)).map (Put.mk own)),
            put.table ≠ name := fun put member =>
          (table_of_mem_map put (List.takeWhile_subset _ member)).trans_ne (Ne.symm other)
        rw [lastPut?_of_ne elsewhere, Option.none_or]
    rw [putsOf_cons, putTables, accepted_append]
    split at fails
    · next keyed =>
      simp only [fails]
      rw [ih, first, if_pos keyed, lastPut?_append, Option.or_assoc, accepted_of_keyed keyed]
    · next refused =>
      simp only [fails]
      rw [first, if_neg refused]

theorem putTables_fst (writes : List (String × List WriteEntry)) (tables : Dict Table) :
    (putTables writes tables).1 = if AllKeyed (putsOf writes) then none else some keyless := by
  induction writes generalizing tables with
  | nil => rfl
  | cons write rest ih =>
    obtain ⟨own, entries⟩ := write
    have fails := putAll_fst own (entries.filterMap (·.put?)) ((tables.get? own).getD ∅)
    rw [putsOf_cons, putTables]
    split at fails
    · next keyed =>
      simp only [fails, ih, allKeyed_append, keyed, true_and]
    · next refused =>
      simp only [fails, allKeyed_append, refused, false_and, if_false]

/-! ## Calls -/

variable (e : Emulator)

/-- A batch of writes whose tables are taken in the order of `writes`. -/
def completeBatch (request : BatchWrite) (writes : List (String × List WriteEntry)) :
    Except WireError BatchWritten × Emulator :=
  match e.failure? with
  | some text => (.error (.injected text), e)
  | none =>
    let (refused, tables) := putTables writes e.tables
    let e := { e with tables, lastBatchWrite? := some request }
    match refused with
    | some error => (.error error, e)
    | none => (.ok ⟨∅⟩, e)

theorem complete_batchWrite (request : BatchWrite) :
    e.complete (.batchWrite request) = e.completeBatch request request.tables.entries := by
  unfold complete completeBatch effect
  cases e.failure? with
  | some text => rfl
  | none =>
    obtain ⟨⟨refused, tables⟩, ended⟩ :
        ∃ pair, putTables request.tables.entries e.tables = pair := ⟨_, rfl⟩
    cases refused <;> simp only [ended]

variable {e}

theorem lastPut?_singleton {name key : String} {item : Item} (own : itemKey item = .ok key)
    (other k : String) : lastPut? [⟨name, item⟩] other k =
      if other = name then if k = key then some item else none else none := by
  have some_ : (Put.mk name item).key? = some key := key?_eq_some.2 own
  rw [lastPut?_cons, lastPut?_nil, Option.none_or, Put.about, some_]
  by_cases table : other = name
  · by_cases same : k = key
    · simp [table, same]
    · simp [table, same, Ne.symm same]
  · simp [table, Ne.symm table]

/-- An item with a key is put. -/
theorem applied_insert {name key : String} {item : Item} (own : itemKey item = .ok key)
    {e' : Emulator} (tables : e'.tables = e.tables.insert name ((e.table name).insert key item)) :
    Applied [⟨name, item⟩] e e' := by
  intro other k
  have here : e'.item? other k = held e'.tables other k := rfl
  rw [here, tables, held_insert, lastPut?_singleton own]
  split
  · next table =>
    rw [Dict.get?_insert, table]
    split <;> rfl
  · rfl

theorem not_allKeyed_of_error {name : String} {item : Item} {error : WireError}
    (refused : itemKey item = .error error) : ¬ AllKeyed [⟨name, item⟩] := by
  simp [AllKeyed, Put.key?, refused, Except.toOption]

theorem allKeyed_of_ok {name key : String} {item : Item} (own : itemKey item = .ok key) :
    AllKeyed [⟨name, item⟩] := by
  simp [AllKeyed, Put.key?, own, Except.toOption]

variable (e)

theorem indivisible_insertItem (name : String) (item : Item) :
    Indivisible True [⟨name, item⟩] e (e.insertItem name item) := by
  unfold insertItem
  cases own : itemKey item with
  | error error => exact ⟨by simp [not_allKeyed_of_error own], nofun, fun _ _ _ => rfl⟩
  | ok key =>
    dsimp only
    exact ⟨by simp [allKeyed_of_ok own], fun _ _ => applied_insert own rfl,
      fun _ failed => by cases failed⟩

theorem indivisible_write (r : ItemWrite) :
    Indivisible (e.failure? = none) [⟨r.table, r.item⟩] e (e.complete (.write r)) := by
  unfold complete
  cases told : e.failure? with
  | some text => exact ⟨by simp, nofun, fun _ _ _ => rfl⟩
  | none =>
    dsimp only [effect]
    cases own : itemKey r.item with
    | error error => exact ⟨by simp [not_allKeyed_of_error own], nofun, fun _ _ _ => rfl⟩
    | ok key =>
      dsimp only
      refine ⟨⟨fun _ => ⟨rfl, allKeyed_of_ok own⟩, fun _ => ⟨⟨⟩, rfl⟩⟩, fun _ _ => ?_,
        fun _ failed => by cases failed⟩
      exact applied_insert own rfl

/-- What a batch of puts comes to. -/
structure Batched (puts : List Put) (ended : Except WireError BatchWritten × Emulator) : Prop where
  succeeds_iff : (∃ answer, ended.1 = .ok answer) ↔ e.failure? = none ∧ AllKeyed puts
  /-- A failure that was told changes nothing. -/
  told : ∀ text, e.failure? = some text → ended = (.error (.injected text), e)
  /-- Otherwise what comes before the first put without a key is put, and nothing else. -/
  applied : e.failure? = none → Applied (accepted puts) e ended.2
  refused : e.failure? = none → ∀ error, ended.1 = .error error → error = keyless

theorem batched_completeBatch (request : BatchWrite) (writes : List (String × List WriteEntry)) :
    e.Batched (putsOf writes) (e.completeBatch request writes) := by
  unfold completeBatch
  cases told : e.failure? with
  | some text =>
    have unwilling : ¬ e.failure? = none := by simp [told]
    refine ⟨by simp [told], fun other same => ?_, fun willing => absurd willing unwilling,
      fun willing => absurd willing unwilling⟩
    rw [Option.some.inj (told.symm.trans same)]
  | none =>
    have fails := putTables_fst writes e.tables
    have applied := held_putTables writes e.tables
    dsimp only
    split at fails
    · next keyed =>
      simp only [fails]
      exact ⟨by simp [told, keyed], by simp [told], fun _ => applied,
        fun _ _ failed => by cases failed⟩
    · next unkeyed =>
      simp only [fails]
      exact ⟨by simp [unkeyed], by simp [told], fun _ => applied,
        fun _ error refused => (Except.error.inj refused).symm⟩

variable {e}

/-- A batch whose puts all have keys is all or nothing. -/
theorem Batched.indivisible {puts : List Put} {ended : Except WireError BatchWritten × Emulator}
    (batched : e.Batched puts ended) (keyed : AllKeyed puts) :
    Indivisible (e.failure? = none) puts e ended where
  succeeds_iff := batched.succeeds_iff
  applied answer succeeded := by
    have applied := batched.applied (batched.succeeds_iff.1 ⟨answer, succeeded⟩).1
    rwa [accepted_of_keyed keyed] at applied
  untouched error failed name := by
    cases told : e.failure? with
    | some text => rw [batched.told text told]
    | none =>
      obtain ⟨answer, succeeded⟩ := batched.succeeds_iff.2 ⟨told, keyed⟩
      cases failed.symm.trans succeeded

theorem Indivisible.of_perm {α : Type} {willing : Prop} {request : BatchWrite}
    {writes : List (String × List WriteEntry)} (perm : writes.Perm request.tables.entries)
    {ended : Except WireError α × Emulator}
    (indivisible : Indivisible willing (putsOf writes) e ended) :
    Indivisible willing (putsOf request.tables.entries) e ended := by
  have puts : (putsOf writes).Perm (putsOf request.tables.entries) := perm.flatMap_right _
  refine ⟨?_, fun answer succeeded name key => ?_, indivisible.untouched⟩
  · rw [indivisible.succeeds_iff]
    exact and_congr_right fun _ => ⟨allKeyed_of_perm puts.symm, allKeyed_of_perm puts⟩
  · rw [indivisible.applied answer succeeded, lastPut?_of_perm request.tables.nodup_keys perm]

/-- **What calls that put items leave behind.**  An item that is inserted or written alone is put if
it has a key and the emulator was not told to fail; otherwise the call fails and every table is as
it was.  So it is with a batch, in whatever order its tables are taken, if every put of it has a
key.  A batch with a put that has none fails, after the puts before the first such put were carried
out, and nothing else. -/
theorem puts_of_calls (e : Emulator) :
    (∀ name item, Indivisible True [⟨name, item⟩] e (e.insertItem name item)) ∧
    (∀ r : ItemWrite,
      Indivisible (e.failure? = none) [⟨r.table, r.item⟩] e (e.complete (.write r))) ∧
    ∀ request : BatchWrite,
      e.complete (.batchWrite request) = e.completeBatch request request.tables.entries ∧
      ∀ writes, writes.Perm request.tables.entries →
        e.Batched (putsOf writes) (e.completeBatch request writes) ∧
        (AllKeyed (putsOf request.tables.entries) →
          Indivisible (e.failure? = none) (putsOf request.tables.entries) e
            (e.completeBatch request writes)) := by
  refine ⟨e.indivisible_insertItem, e.indivisible_write, fun request =>
    ⟨e.complete_batchWrite request, fun writes perm => ?_⟩⟩
  have batched := e.batched_completeBatch request writes
  have puts : (putsOf writes).Perm (putsOf request.tables.entries) := perm.flatMap_right _
  exact ⟨batched, fun keyed => (batched.indivisible (allKeyed_of_perm puts keyed)).of_perm perm⟩

/-- Two tables in the other order, where a key is put twice. -/
theorem puts_of_calls_twoTables :
    let first : List WriteEntry := [⟨some (recordItem "a" "1" none)⟩, ⟨none⟩,
      ⟨some (recordItem "a" "2" none)⟩]
    let second : List WriteEntry := [⟨some (recordItem "a" "3" none)⟩]
    let request : BatchWrite :=
      ⟨((∅ : Dict (List WriteEntry)).insert "s" second).insert "t" first⟩
    let writes := [("t", first), ("s", second)]
    let e := Emulator.empty 0
    writes.Perm request.tables.entries ∧ AllKeyed (putsOf request.tables.entries) ∧
      Indivisible (e.failure? = none) (putsOf request.tables.entries) e
        (e.completeBatch request writes) ∧
      (e.completeBatch request writes).2.item? "t" "a" = some (recordItem "a" "2" none) := by
  intro first second request writes e
  have perm : writes.Perm request.tables.entries := List.Perm.swap ..
  have keyed : AllKeyed (putsOf request.tables.entries) := by decide +kernel
  exact ⟨perm, keyed, (((puts_of_calls e).2.2 request).2 writes perm).2 keyed, by decide +kernel⟩

/-- A batch that is refused for its second put has carried out its first one. -/
theorem batch_divided :
    let broken : BatchWrite := ⟨(∅ : Dict (List WriteEntry)).insert "users"
      [⟨some (recordItem "a" "1" none)⟩, ⟨some ((∅ : Item).insert valueAttribute (.string "2"))⟩]⟩
    let e := Emulator.empty 0
    let ended := e.complete (.batchWrite broken)
    ended.1 = .error keyless ∧ e.item? "users" "a" = none ∧
      ended.2.item? "users" "a" = some (recordItem "a" "1" none) ∧
      ¬ Indivisible (e.failure? = none) (putsOf broken.tables.entries) e ended := by
  intro broken e ended
  have failed : ended.1 = .error keyless := rfl
  have before : e.item? "users" "a" = none := rfl
  have after : ended.2.item? "users" "a" = some (recordItem "a" "1" none) := by decide +kernel
  refine ⟨failed, before, after, fun indivisible => ?_⟩
  have same := indivisible.untouched keyless failed "users"
  rw [item?, same] at after
  cases before.symm.trans after

end RecordStore.Emulator
