/-
RecordStore.Proofs.SavedValue -- values survive being stored

A record without an expiry of its own that is saved under a key stays there
whatever is done to other keys (`World.Keeps.visitAll`), in the reference store
and in the adapter's table alike.  What a read of the key then gives holds the
text of the saved value, which is that value again unless it nests too deep
(`save_get_decode`).
-/
import RecordStore.Proofs.Contents
import RecordStore.Proofs.Json.RoundTrip
import RecordStore.Proofs.Visit

namespace RecordStore

set_option autoImplicit false

open RecordStore.Wire

/-- The store is the reference store, or an adapter over an emulator that was not told to fail. -/
inductive World.Ready (w : World Client) : Prop
  | reference (container : String) (contents : Reference)
      (store : w.store = .reference container contents)
  | adapted (adapter : Adapter) (e : Emulator) (serves : w.Serves adapter e)
      (willing : e.failure? = none)

/-- A text is kept under a key.  The reference store keeps it for ever; the adapter may have given
it an expiry. -/
inductive World.Keeps (w : World Client) (key text : String) : Prop
  | reference (container : String) (contents : Reference)
      (store : w.store = .reference container contents)
      (kept : contents.get? key = some ⟨text, none⟩)
  | adapted (adapter : Adapter) (e : Emulator) (serves : w.Serves adapter e)
      (willing : e.failure? = none) (expiry : Option Timestamp)
      (fits : ∀ t, expiry = some t → t ≤ maxTimestamp)
      (kept : e.item? adapter.table key = some (recordItem key text expiry))

/-! ## Saving -/

/-- A default expiry is a timestamp. -/
theorem Adapter.expiryFor_le {a : Adapter} {time t : Timestamp} {record : Record}
    (unset : record.expiry? = none) (expires : a.expiryFor time record = some t) :
    t ≤ maxTimestamp := by
  unfold expiryFor at expires
  rw [unset] at expires
  obtain ⟨ttl, -, rfl⟩ := Option.map_eq_some_iff.1 expires
  exact Int.min_le_right _ _

/-- A record that can be stored makes one entry. -/
theorem writes_save {key text : String} (named : Text.isBlankText key = false) {record : Record}
    (encoded : record.encode = .ok text) (expiry : Record → Option Timestamp) :
    (Operation.save key (some record)).writes expiry = [(key, ⟨text, expiry record⟩)] := by
  simp [Operation.writes, Record.entry?, named, encoded]

theorem Reference.save_eq_ok {key text : String} (named : Text.isBlankText key = false)
    {record : Record} (encoded : record.encode = .ok text) {m : Moment} (live : m.stop? = none)
    (s : Reference) : (save m key (some record) s).1 = .ok () := by
  simp [save, saveText, validateKey_eq_ok.2 named, encoded, live, checkLive, bind, Except.bind,
    pure, Except.pure]

theorem Adapter.saveItem_map_eq_ok {a : Adapter} {key text : String}
    (named : Text.isBlankText key = false) {record : Record} (encoded : record.encode = .ok text)
    {m : Moment} (live : m.stop? = none) :
    (a.saveItem m key (some record)).map (fun _ => ()) = .ok () := by
  simp [saveItem, validateKey_eq_ok.2 named, encoded, live, checkLive, bind, Except.bind, pure,
    Except.pure, Except.map]

namespace World

variable {w : World Client} {key text : String}

theorem Ready.visit_save (ready : w.Ready) (named : Text.isBlankText key = false)
    {record : Record} (encoded : record.encode = .ok text) (unset : record.expiry? = none)
    (time : Timestamp) :
    let done := w.visit (.background time (.save key (some record)))
    done.1 = some (.ok ()) ∧ done.2.Keeps key text := by
  intro done
  let v := Visit.background time (.save key (some record))
  have live (now : Instant) : (v.moment now).stop? = none := rfl
  cases ready with
  | reference container contents store =>
    obtain ⟨ended, store'⟩ := w.visit_reference store v
    rw [Reference.perform_state container (live _)] at store'
    refine ⟨ended.trans (congrArg some (Reference.save_eq_ok named encoded (live _) _)), ?_⟩
    refine .reference container _ store' ?_
    rw [show v.op = .save key (some record) from rfl, writes_save named encoded, unset]
    exact Dict.get?_insert_self _ _ _
  | adapted adapter e serves willing =>
    obtain ⟨ended, serves'⟩ :=
      w.visit_adapted_of_outlasts serves v (Lifespan.outlasts_unbounded _)
    obtain ⟨result, puts⟩ := adapter.perform_save willing (live w.now) key (some record)
    refine ⟨ended.trans (congrArg some (result.trans
      (Adapter.saveItem_map_eq_ok named encoded (live _)))), ?_⟩
    refine .adapted adapter _ serves' (puts.failure.trans willing)
      (adapter.expiryFor time record) (fun t => Adapter.expiryFor_le unset) ?_
    rw [writes_save named encoded] at puts
    exact (puts.item key).trans (Dict.get?_insert_self _ _ _)

/-! ## Other operations -/

/-- An operation that writes nothing under the key ends, and leaves what is kept there. -/
theorem Keeps.visit (keeps : w.Keeps key text) {v : Visit} (spares : v.op.Spares key) :
    ∃ result, (w.visit v).1 = some result ∧ (w.visit v).2.Keeps key text := by
  cases keeps with
  | reference container contents store kept =>
    obtain ⟨ended, store'⟩ := w.visit_reference store v
    refine ⟨_, ended, .reference container _ store' ?_⟩
    cases live : (v.moment w.now).stop? with
    | none =>
      rw [Reference.perform_state container live,
        Dict.get?_putAll_of_ne (spares.ne_of_mem_writes _)]
      exact kept
    | some reason =>
      rw [Reference.perform_state_of_over container live]
      exact kept
  | adapted adapter e serves willing expiry fits kept =>
    obtain ⟨result, e', concludes, ended, serves'⟩ := w.visit_adapted serves v
    have untouched : e'.failure? = none ∧
        e'.item? adapter.table key = some (recordItem key text expiry) := by
      cases concludes with
      | served =>
        cases live : (v.moment w.now).stop? with
        | none =>
          have puts := adapter.perform_puts willing live v.op
          have others : ∀ x ∈ (v.op.writes (adapter.expiryFor (v.moment w.now).time)).map
              Stored.keyed, x.1 ≠ key := by
            intro x member
            obtain ⟨entry, among, rfl⟩ := List.mem_map.1 member
            exact spares.ne_of_mem_writes _ entry among
          refine ⟨puts.failure.trans willing, ?_⟩
          rw [puts.item, Dict.get?_putAll_of_ne others]
          exact kept
        | some reason =>
          rw [adapter.perform_state_of_over Emulator.client live]
          exact ⟨willing, kept⟩
      | stopped reason request ends => exact ⟨willing, kept⟩
    exact ⟨result, ended, .adapted adapter e' serves' untouched.1 expiry fits untouched.2⟩

theorem Keeps.visitAll (keeps : w.Keeps key text) {visits : List Visit}
    (spare : ∀ v ∈ visits, v.op.Spares key) :
    ∃ answers, (w.visitAll visits).1 = some answers ∧ (w.visitAll visits).2.Keeps key text := by
  induction visits generalizing w with
  | nil => exact ⟨[], rfl, keeps⟩
  | cons v rest ih =>
    obtain ⟨result, ended, keeps'⟩ := keeps.visit (spare v (by simp))
    obtain ⟨answers, later, kept⟩ := ih keeps' fun v member => spare v (by simp [member])
    refine ⟨⟨v, result⟩ :: answers, ?_, ?_⟩
    · rw [(visitAll_cons ended).1, later]
      rfl
    · rw [(visitAll_cons ended).2]
      exact kept

/-! ## Reading -/

theorem Keeps.visit_get (keeps : w.Keeps key text) (named : Text.isBlankText key = false)
    (time : Timestamp) :
    ∃ expiry, (w.visit (.background time (.get key))).1 =
      some (.ok (Record.ofText key text expiry)) := by
  let v := Visit.background time (.get key)
  have live (now : Instant) : (v.moment now).stop? = none := rfl
  cases keeps with
  | reference container contents store kept =>
    refine ⟨none, (w.visit_reference store v).1.trans (congrArg some ?_)⟩
    show Reference.get (v.moment w.now) key contents = _
    unfold Reference.get Reference.lookup
    rw [validateKey_eq_ok.2 named, live, kept]
    rfl
  | adapted adapter e serves willing expiry fits kept =>
    refine ⟨expiry.filter (0 < ·), ?_⟩
    obtain ⟨ended, -⟩ := w.visit_adapted_of_outlasts serves v (Lifespan.outlasts_unbounded _)
    refine ended.trans (congrArg some ?_)
    refine (adapter.perform_get_result willing (live _) (validateKey_eq_ok.2 named)).trans ?_
    rw [kept, Adapter.recordOfFound]
    dsimp only
    rw [isEmpty_recordItem]
    exact recordOfItem_recordItem key text fits

end World

/-! ## Values -/

/-- The record of a value without doubles is stored as the text of the value. -/
theorem Record.encode_new {j : Json} (plain : Json.Plain j) (key : String) (built : Timestamp) :
    (Record.new key (Codec.any.payload j) none built).encode = .ok j.render := by
  show Except.ok (Json.arrange j).render = _
  rw [plain.canonical.arrange_eq]

/-- A text of a record is decoded as the value that was written. -/
theorem Record.decode_ofText {j : Json} (plain : Json.Plain j) (key : String)
    (expiry : Option Timestamp) :
    (Record.ofText key j.render expiry).decode Codec.any.read =
      if j.depth ≤ 127 then .ok j else .error (.marshal .recursionLimit) := by
  have parsed : Codec.any.read.parse j.render =
      if j.depth ≤ 127 then .ok j else .error .recursionLimit := Json.parse_render plain
  unfold decode ofText
  dsimp only
  rw [parsed]
  by_cases fits : j.depth ≤ 127
  · rw [if_pos fits, if_pos fits]
  · rw [if_neg fits, if_neg fits]

/-- A value without doubles that is saved under a key is read back, whatever was done to other keys
in between: as it was when it nests at most 127 levels deep, and not at all when it nests
deeper. -/
theorem save_get_decode {j : Json} (plain : Json.Plain j) {key : String}
    (named : Text.isBlankText key = false) {w : World Client} (ready : w.Ready)
    (built saved read : Timestamp) {between : List Visit}
    (spare : ∀ v ∈ between, v.op.Spares key) :
    let record := Record.new key (Codec.any.payload j) none built
    let save := w.visit (.background saved (.save key (some record)))
    let others := save.2.visitAll between
    let get := others.2.visit (.background read (.get key))
    save.1 = some (.ok ()) ∧ (∃ answers, others.1 = some answers) ∧
      ∃ found, get.1 = some (.ok found) ∧ found.key = key ∧
        found.decode Codec.any.read =
          if j.depth ≤ 127 then .ok j else .error (.marshal .recursionLimit) := by
  intro record save others get
  obtain ⟨stored, keeps⟩ :=
    ready.visit_save named (Record.encode_new plain key built) rfl saved
  obtain ⟨answers, ended, keeps⟩ := keeps.visitAll spare
  obtain ⟨expiry, found⟩ := keeps.visit_get named read
  exact ⟨stored, ⟨answers, ended⟩, _, found, rfl, Record.decode_ofText plain key expiry⟩

/-- A list is saved over the emulator, and another key is written under a context that ends. -/
theorem save_get_decode_list :
    let j : Json := .array [.null, .string "\n", .object []]
    let w : World Client :=
      ⟨0, 0, .adapted (.new "t" .verbatim (some (.ofSeconds 60))) (.emulator (.empty 5)) .initial,
        none, 0, [], [], []⟩
    let other : Visit :=
      ⟨1, fun now => ⟨some (now + 2), none⟩, .save "b" (some (.ofText "b" "1" none))⟩
    let save := w.visit (.background 1
      (.save "a" (some (.new "a" (Codec.any.payload j) none 0))))
    let others := save.2.visitAll [other]
    let get := others.2.visit (.background 90 (.get "a"))
    Json.Plain j ∧ Text.isBlankText "a" = false ∧ w.Ready ∧ other.op.Spares "a" ∧
      save.1 = some (.ok ()) ∧
      ∃ found, get.1 = some (.ok found) ∧ found.decode Codec.any.read = .ok j := by
  intro j w other save others get
  have plain : Json.Plain j := by
    refine .array _ fun item member => ?_
    simp only [List.mem_cons, List.not_mem_nil, or_false] at member
    rcases member with rfl | rfl | rfl
    · exact .null
    · exact .string _
    · exact .object [] List.Pairwise.nil nofun
  have ready : w.Ready := .adapted _ (.empty 5) ⟨.initial, rfl, rfl⟩ rfl
  have spares : other.op.Spares "a" := by
    show "b" ≠ "a"
    decide
  have named : Text.isBlankText "a" = false := rfl
  have spare : ∀ v ∈ [other], v.op.Spares "a" := fun v member =>
    List.mem_singleton.1 member ▸ spares
  obtain ⟨stored, -, found, read, -, decoded⟩ := save_get_decode plain named ready 0 1 90 spare
  exact ⟨plain, rfl, ready, spares, stored, found, read, decoded⟩

end RecordStore
