/-
RecordStore.Proofs.Conservation -- no record of a batch vanishes

A batch succeeds even if some of its parts are passed over, so each part that has
no result must have a notice.  `Accounted` says of a list that its members, in
order, each yield one result or one notice, and `Balanced` adds what follows: the
two together are as many as the members, and the notices are warnings.  Batches of
writes are accounted for in both stores (`Reference.accounted_bulkSaveOne`,
`Adapter.accounted_writeEntries`), and so is what an adapter makes of the items of a
response, whatever the response holds and in whatever order its tables are gone over
(`Adapter.accounted_batchReadReply`).  What is left unprocessed has one warning for each
table.  `losesNothing_of_live` states this of an operation over any client.
-/
import RecordStore.Proofs.Batch
import RecordStore.Proofs.Dispatch
import RecordStore.Proofs.Undisturbed

namespace RecordStore

set_option autoImplicit false

open RecordStore.Wire

/-! ## Accounts -/

/-- The members of a list, in order, each yield a result, or have a notice that tells why not. -/
inductive Accounted {α β : Type} (each : α → Except Notice β) :
    List α → List β → List Notice → Prop
  | nil : Accounted each [] [] []
  | result {x : α} {y : β} {xs : List α} {ys : List β} {notices : List Notice}
      (yields : each x = .ok y) (others : Accounted each xs ys notices) :
      Accounted each (x :: xs) (y :: ys) notices
  | notice {x : α} {notice : Notice} {xs : List α} {ys : List β} {notices : List Notice}
      (tells : each x = .error notice) (others : Accounted each xs ys notices) :
      Accounted each (x :: xs) ys (notice :: notices)

namespace Accounted

variable {α β : Type} {each : α → Except Notice β} {xs xs' : List α} {ys ys' : List β}
  {notices notices' : List Notice}

theorem append (first : Accounted each xs ys notices) (rest : Accounted each xs' ys' notices') :
    Accounted each (xs ++ xs') (ys ++ ys') (notices ++ notices') := by
  induction first with
  | nil => exact rest
  | result yields _ ih => exact .result yields ih
  | notice tells _ ih => exact .notice tells ih

theorem length (accounted : Accounted each xs ys notices) :
    ys.length + notices.length = xs.length := by
  induction accounted with
  | nil => rfl
  | result _ _ ih => simp only [List.length_cons]; omega
  | notice _ _ ih => simp only [List.length_cons]; omega

/-- Whatever holds of the notice of each member holds of all notices. -/
theorem forall_notice {P : Notice → Prop} (told : ∀ x notice, each x = .error notice → P notice)
    (accounted : Accounted each xs ys notices) : ∀ notice ∈ notices, P notice := by
  induction accounted with
  | nil => exact fun _ member => absurd member List.not_mem_nil
  | result _ _ ih => exact ih
  | notice tells _ ih => exact List.forall_mem_cons.2 ⟨told _ _ tells, ih⟩

end Accounted

/-- Every member of a list is accounted for, once: there are as many results and notices as
members, and the notices are warnings. -/
structure Balanced {α β : Type} (each : α → Except Notice β) (xs : List α) (ys : List β)
    (notices : List Notice) : Prop where
  accounted : Accounted each xs ys notices
  balance : ys.length + notices.length = xs.length
  warnings : ∀ notice ∈ notices, notice.level = .warning

theorem Accounted.balanced {α β : Type} {each : α → Except Notice β} {xs : List α} {ys : List β}
    {notices : List Notice} (accounted : Accounted each xs ys notices)
    (warns : ∀ x notice, each x = .error notice → notice.level = .warning) :
    Balanced each xs ys notices :=
  ⟨accounted, accounted.length, accounted.forall_notice warns⟩

/-! ## Records to be written -/

/-- What a batch of writes does with a record: it is written under its own key, with its text and
the expiry that goes with it, or passed over because of its key or of its value. -/
def Record.share (place : Place) (expiry : Record → Option Timestamp) (r : Record) :
    Except Notice (String × Stored) :=
  if Text.isBlankText r.key then .error (.emptyKey place)
  else
    match r.encode with
    | .ok text => .ok (r.key, ⟨text, expiry r⟩)
    | .error e => .error (.unencodable place r.key e)

section

variable {place : Place} {expiry : Record → Option Timestamp}

theorem Record.share_warns (r : Record) (notice : Notice)
    (passed : r.share place expiry = .error notice) : notice.level = .warning := by
  unfold share at passed
  split at passed
  · cases passed
    rfl
  · split at passed <;> cases passed
    rfl

theorem Record.share_of_blank {r : Record} (blank : Text.isBlankText r.key = true) :
    r.share place expiry = .error (.emptyKey place) := if_pos blank

theorem Record.share_of_encode {r : Record} (named : ¬ Text.isBlankText r.key = true)
    {text : String} (encoded : r.encode = .ok text) :
    r.share place expiry = .ok (r.key, ⟨text, expiry r⟩) := by
  rw [share, if_neg named, encoded]

theorem Record.share_of_encode_error {r : Record} (named : ¬ Text.isBlankText r.key = true)
    {e : StoreError} (encoded : r.encode = .error e) :
    r.share place expiry = .error (.unencodable place r.key e) := by
  rw [share, if_neg named, encoded]

end

/-- Each record of a batch is kept or has its notice. -/
theorem Reference.accounted_bulkSaveOne (container : String) (records : Records) (s : Reference)
    (given : List Notice) :
    ∃ entries notices,
      Accounted (Record.share (.container container) Record.expiry?) records entries notices ∧
      records.foldl (bulkSaveOne container) (s, given) =
        (Dict.putAll entries s, given ++ notices) := by
  induction records generalizing s given with
  | nil => exact ⟨[], [], .nil, by simp⟩
  | cons record rest ih =>
    rw [List.foldl_cons, bulkSaveOne]
    split
    · next blank =>
      obtain ⟨entries, notices, accounted, ends⟩ := ih s (given ++ [.emptyKey (.container container)])
      refine ⟨entries, _, .notice (Record.share_of_blank blank) accounted, ?_⟩
      rw [ends, List.append_assoc]
      rfl
    · next named =>
      cases encoded : record.encode with
      | ok text =>
        obtain ⟨entries, notices, accounted, ends⟩ := ih (s.put record.key text record) given
        exact ⟨_, notices, .result (Record.share_of_encode named encoded) accounted, ends⟩
      | error e =>
        obtain ⟨entries, notices, accounted, ends⟩ :=
          ih s (given ++ [.unencodable (.container container) record.key e])
        refine ⟨entries, _, .notice (Record.share_of_encode_error named encoded) accounted, ?_⟩
        dsimp only
        rw [ends, List.append_assoc]
        rfl

/-- The entry of a batch that writes the item of a stored text. -/
def Stored.write (e : String × Stored) : WriteEntry := ⟨some (e.2.item e.1)⟩

/-- Each record of a batch is an entry of the request or has its notice. -/
theorem Adapter.accounted_writeEntries (a : Adapter) (time : Timestamp) (records : Records) :
    ∃ entries notices,
      Accounted (Record.share (.table a.table) (a.expiryFor time)) records entries notices ∧
      a.writeEntries time records = (entries.map Stored.write, notices) := by
  induction records using List.reverseRecOn with
  | nil => exact ⟨[], [], .nil, rfl⟩
  | append_singleton rest record ih =>
    obtain ⟨entries, notices, accounted, ends⟩ := ih
    unfold writeEntries at ends ⊢
    rw [List.foldl_append, ends, List.foldl_cons, List.foldl_nil]
    split
    · next blank =>
      refine ⟨_, _, accounted.append (.notice (Record.share_of_blank blank) .nil), ?_⟩
      rw [List.append_nil]
    · next named =>
      cases encoded : record.encode with
      | ok text =>
        refine ⟨_, _, accounted.append (.result (Record.share_of_encode named encoded) .nil), ?_⟩
        rw [List.append_nil, List.map_append]
        rfl
      | error e =>
        refine ⟨_, _, accounted.append
          (.notice (Record.share_of_encode_error named encoded) .nil), ?_⟩
        rw [List.append_nil]

/-! ## Items that were found -/

/-- What a batch of reads does with an item of a table: it is a record, or it is dropped. -/
def Wire.shareOfItem (found : String × Item) : Except Notice Record :=
  (recordOfItem found.2).mapError (.undecodableItem found.1)

theorem Wire.shareOfItem_warns (found : String × Item) (notice : Notice)
    (dropped : shareOfItem found = .error notice) : notice.level = .warning := by
  unfold shareOfItem at dropped
  cases read : recordOfItem found.2 with
  | ok r => rw [read] at dropped; cases dropped
  | error e => rw [read] at dropped; cases dropped; rfl

/-- The items of a response, table by table, with the tables in an order. -/
def Wire.BatchFound.items (found : BatchFound) (order : KeyOrder) : List (String × Item) :=
  (found.found.visit order).flatMap fun e => e.2.map fun item => (e.1, item)

/-- The tables of which something was left, with how much. -/
def leftovers {α : Type} (order : KeyOrder) (count : α → Nat) (left : Dict α) :
    List (String × Nat) :=
  ((left.visit order).map fun e => (e.1, count e.2)).filter (·.2 ≠ 0)

theorem Adapter.unprocessedNotices_eq {α : Type} (a : Adapter) (count : α → Nat)
    (notice : String → Nat → Notice) (left : Dict α) :
    a.unprocessedNotices count notice left =
      (leftovers a.leftOrder count left).map fun e => notice e.1 e.2 := by
  unfold unprocessedNotices leftovers
  induction left.visit a.leftOrder with
  | nil => rfl
  | cons e rest ih =>
    rw [List.filterMap_cons, List.map_cons]
    by_cases none : count e.2 = 0
    · rw [if_pos none, List.filter_cons_of_neg (by simp [none])]
      exact ih
    · rw [if_neg none, List.filter_cons_of_pos (by simp [none]), List.map_cons, ih]

theorem Adapter.accounted_decodeItems (table : String) (items : List Item) :
    Accounted shareOfItem (items.map fun item => (table, item)) (decodeItems table items).1
      (decodeItems table items).2 := by
  induction items using List.reverseRecOn with
  | nil => exact .nil
  | append_singleton rest item ih =>
    unfold decodeItems at ih ⊢
    rw [List.map_append, List.foldl_append, List.foldl_cons, List.foldl_nil]
    cases read : recordOfItem item with
    | ok r =>
      have yields : shareOfItem (table, item) = .ok r := by rw [shareOfItem, read]; rfl
      have both := ih.append (.result yields .nil)
      rwa [List.append_nil] at both
    | error e =>
      have tells : shareOfItem (table, item) = .error (.undecodableItem table e) := by
        rw [shareOfItem, read]; rfl
      have both := ih.append (.notice tells .nil)
      rwa [List.append_nil] at both

/-- What an adapter makes of a response: a record or a notice for each item, and a notice for each
table of which keys were left. -/
theorem Adapter.accounted_batchReadReply (a : Adapter) (keys : List String) (found : BatchFound) :
    ∃ records notices, Accounted shareOfItem (found.items a.foundOrder) records notices ∧
      (a.batchReadReply found : Reply (.bulkGet keys)) =
        ⟨.ok records, (leftovers a.leftOrder (·.keys.length) found.unprocessed).map
          (fun e => .unprocessedKeys e.1 e.2) ++ notices⟩ := by
  unfold batchReadReply
  rw [unprocessedNotices_eq]
  refine ⟨_, _, ?_, rfl⟩
  unfold BatchFound.items
  induction found.found.visit a.foundOrder with
  | nil => exact .nil
  | cons e rest ih => exact (accounted_decodeItems e.1 e.2).append ih

/-! ## Batches over any client -/

namespace Adapter

variable (a : Adapter) {m : Moment} (live : m.stop? = none)

/-- The batch that writes the items of entries into the adapter's table. -/
def batchWrite (entries : List (String × Stored)) : BatchWrite :=
  ⟨(∅ : Dict (List WriteEntry)).insert a.table (entries.map Stored.write)⟩

/-- How a batch of writes ends, given what was passed over and what became of its request. -/
def writeReply {records : Records} (entries : List (String × Stored)) (passed : List Notice) :
    Except StoreError BatchWritten → Reply (.bulkSave records)
  | .ok written => ⟨.ok (), passed ++
      (leftovers a.leftOrder List.length written.unprocessed).map
        fun e => .unprocessedWrites e.1 e.2⟩
  | .error e => ⟨.error e, passed ++ [.batchWriteFailed a.table entries.length e]⟩

include live

theorem plan_bulkSave {records : Records} {entries : List (String × Stored)}
    {notices : List Notice}
    (ends : a.writeEntries m.time records = (entries.map Stored.write, notices)) :
    a.plan m (.bulkSave records) =
      if entries = [] then .done ⟨.ok (), notices⟩
      else .exchange (.batchWrite (a.batchWrite entries)) (a.writeReply entries notices) := by
  show a.planBulkSave m records = _
  unfold planBulkSave
  rw [live, ends]
  dsimp only [checkLive]
  cases entries with
  | nil => rfl
  | cons e rest =>
    rw [if_neg (List.cons_ne_nil e rest)]
    refine congrArg (Plan.exchange _) (funext fun outcome => ?_)
    cases outcome with
    | ok written =>
      dsimp only
      rw [unprocessedNotices_eq]
      rfl
    | error e =>
      dsimp only
      rw [List.length_map]
      rfl

theorem plan_bulkGet {keys : List String} (few : keys.length ≤ maxBulkKeys)
    (named : ∀ key ∈ keys, Text.isBlankText key = false) (some_ : keys ≠ []) :
    a.plan m (.bulkGet keys) = .exchange (.batchRead (a.batchReadRequest keys)) fun outcome =>
      match outcome with
      | .ok found => a.batchReadReply found
      | .error e => .of (.error e) := by
  show a.planBulkGet m keys = _
  unfold planBulkGet
  rw [validateBulkKeys_eq_ok.2 few, forM_validateKey_eq_ok.2 named, live]
  dsimp only [bind, Except.bind, checkLive]
  exact if_neg fun empty => some_ (List.isEmpty_iff.1 empty)

end Adapter

/-- Nothing of a batch that is performed alone vanishes without a warning. -/
structure World.LosesNothing {σ : Type} (slow : SlowClient σ) (w : World σ)
    (life : Instant → Lifespan) : Prop where
  /-- The reference store keeps a record, or gives a warning. -/
  kept {container : String} {contents : Reference} (store : w.store = .reference container contents)
    (records : Records) :
    ∃ entries notices,
      Balanced (Record.share (.container container) Record.expiry?) records entries notices ∧
      w.Ends (w.alone slow life (.bulkSave records)) ⟨.ok (), notices⟩ [] ∧
      (w.alone slow life (.bulkSave records)).2.store =
        .reference container (Dict.putAll entries contents)
  /-- An adapter puts a record into its one request, or gives a warning.  Writes that the client
  leaves have a warning for each table, and if the request fails, that is an error and no warning. -/
  written {a : Adapter} {client : σ} {reads : SharedRead.State}
    (store : w.store = .adapted a client reads) (records : Records) :
    ∃ entries notices,
      Balanced (Record.share (.table a.table) (a.expiryFor w.time)) records entries notices ∧
      (entries = [] → w.Ends (w.alone slow life (.bulkSave records)) ⟨.ok (), notices⟩ []) ∧
      (entries ≠ [] → ∃ sent,
        w.Meets slow client (life w.now) (.batchWrite (a.batchWrite entries)) sent ∧
        w.Ends (w.alone slow life (.bulkSave records)) (a.writeReply entries notices sent.outcome)
          [.batchWrite (a.batchWrite entries)])
  /-- An adapter returns the record of an item in a response, or gives a warning.  Keys that the
  client leaves have a warning for each table.  The tables of either come in the adapter's order,
  which may be any. -/
  found {a : Adapter} {client : σ} {reads : SharedRead.State}
    (store : w.store = .adapted a client reads) (keys : List String)
    (few : keys.length ≤ maxBulkKeys) (named : ∀ key ∈ keys, Text.isBlankText key = false)
    (some_ : keys ≠ []) :
    ∃ sent, w.Meets slow client (life w.now) (.batchRead (a.batchReadRequest keys)) sent ∧
      (∀ response, sent.outcome = .ok response → ∃ records notices,
        Balanced shareOfItem (response.items a.foundOrder) records notices ∧
        w.Ends (w.alone slow life (.bulkGet keys))
          ⟨.ok records, (leftovers a.leftOrder (·.keys.length) response.unprocessed).map
            (fun e => .unprocessedKeys e.1 e.2) ++ notices⟩
          [.batchRead (a.batchReadRequest keys)]) ∧
      ∀ e, sent.outcome = .error e →
        w.Ends (w.alone slow life (.bulkGet keys)) (.of (.error e))
          [.batchRead (a.batchReadRequest keys)]

/-- **No record vanishes silently.**  Under a context that is live when a batch begins, each record
that is to be written is written or has one warning, in order, and each item that is found is
returned or has one warning, in order within its table, whatever the client answers and
whenever, and in whatever order the tables of an answer are gone over. -/
theorem losesNothing_of_live {σ : Type} (slow : SlowClient σ) {w : World σ}
    {life : Instant → Lifespan} (live : (life w.now).reason? w.now = none) :
    w.LosesNothing slow life where
  kept {container contents} store records := by
    obtain ⟨entries, notices, accounted, ends⟩ :=
      Reference.accounted_bulkSaveOne container records contents []
    have performed : (Reference.backend container).perform (w.moment life) (.bulkSave records)
        contents = (⟨.ok (), notices⟩, Dict.putAll entries contents) := by
      show Reference.bulkSave container (w.moment life) records contents = _
      rw [Reference.bulkSave, show (w.moment life).stop? = none from live]
      dsimp only [checkLive]
      rw [ends]
      rfl
    have done := w.ends_reference slow life (.bulkSave records) store
    rw [performed] at done
    exact ⟨entries, notices, accounted.balanced Record.share_warns, done⟩
  written {a client reads} store records := by
    obtain ⟨entries, notices, accounted, ends⟩ := a.accounted_writeEntries w.time records
    have planned := a.plan_bulkSave (m := w.moment life) live ends
    refine ⟨entries, notices, accounted.balanced Record.share_warns, fun none => ?_,
      fun some_ => ?_⟩
    · rw [if_pos none] at planned
      exact w.ends_done slow store planned
    · rw [if_neg some_] at planned
      exact w.ends_exchange slow store planned
  found {a client reads} store keys few named some_ := by
    have planned := a.plan_bulkGet (m := w.moment life) live few named some_
    obtain ⟨sent, meets, ends⟩ := w.ends_exchange slow store planned
    refine ⟨sent, meets, fun response answered => ?_, fun e failed => ?_⟩
    · obtain ⟨records, notices, accounted, reply⟩ :=
        a.accounted_batchReadReply keys response
      rw [answered] at ends
      dsimp only at ends
      rw [reply] at ends
      exact ⟨records, notices, accounted.balanced shareOfItem_warns, ends⟩
    · rw [failed] at ends
      exact ends

/-- A client that answers batches after a delay with what it was given, and nothing else. -/
def SlowClient.prepared (delay : Nat) (found : BatchFound) (written : BatchWritten) :
    SlowClient Unit where
  dispatch _ r _ := (⟨delay, fun _ => (match r with
    | .batchRead _ => some (.ok found)
    | .batchWrite _ => some (.ok written)
    | .read _ | .write _ => none, ())⟩, ())

/-- A batch with a blank key, a value that could not be written and a key that comes twice; and a
response with items of two tables, each with one without a value, and keys of two tables that were
left.  The tables of items are gone over backwards. -/
theorem losesNothing_twoTables :
    let found : BatchFound :=
      ⟨.ofList [("t", [recordItem "a" "1" (some 9), keyItem "b", recordItem "b" "2" none]),
        ("u", [keyItem "c", recordItem "a" "3" none])],
        .ofList [("t", ⟨[keyItem "d", keyItem "e"]⟩), ("u", ⟨[]⟩), ("v", ⟨[keyItem "f"]⟩)]⟩
    let written : BatchWritten := ⟨.ofList [("t", [⟨none⟩]), ("u", [])]⟩
    let slow : SlowClient Unit := .prepared 3 found written
    let backwards : KeyOrder := ⟨List.reverse, fun keys => keys.reverse_perm⟩
    let a : Adapter :=
      { Adapter.new "t" .verbatim (some (.ofSeconds 60)) with foundOrder := backwards }
    let w : World Unit := ⟨5, 7, .adapted a () .initial, none, 0, [], [], []⟩
    let life : Instant → Lifespan := fun now => ⟨none, some (now + 4)⟩
    let records : Records := [.ofText "b" "2" none, .ofText " " "1" none,
      ⟨"x", .invalid .keyMustBeString, none⟩, .ofText "b" "3" (some 5)]
    let entries : List (String × Stored) := [("b", ⟨"2", some 67⟩), ("b", ⟨"3", some 5⟩)]
    (life w.now).reason? w.now = none ∧ w.LosesNothing slow life ∧
      (w.alone slow life (.bulkSave records)).1 = some (.ok ()) ∧
      (w.alone slow life (.bulkSave records)).2.requests = [.batchWrite (a.batchWrite entries)] ∧
      (w.alone slow life (.bulkSave records)).2.notices =
        [.emptyKey (.table "t"), .unencodable (.table "t") "x" (.marshal .keyMustBeString),
          .unprocessedWrites "t" 1] ∧
      (w.alone slow life (.bulkGet ["a"])).1 =
        some (.ok [.ofText "a" "3" none, .ofText "a" "1" (some 9), .ofText "b" "2" none]) ∧
      (w.alone slow life (.bulkGet ["a"])).2.notices =
        [.unprocessedKeys "t" 2, .unprocessedKeys "v" 1,
          .undecodableItem "u" (.internal (.missingAttribute valueAttribute)),
          .undecodableItem "t" (.internal (.missingAttribute valueAttribute))] := by
  intro found written slow backwards a w life records entries
  have live : (life w.now).reason? w.now = none := rfl
  refine ⟨live, losesNothing_of_live slow live, rfl, ?_, ?_, ?_, ?_⟩
  · decide +kernel
  · decide +kernel
  · rfl
  · decide +kernel

end RecordStore
