/-
RecordStore.Proofs.TypedReads -- batches of values agree with single values

What a typed client reads under a key of the reference store is decided by the
record that is shown there: there is none, its text is a value, or it is not
(`Reads`).  A batch of reads lists the values and has a notice for each text that
is none (`valuesOf_lookup`).  Values whose texts are read back as they were written
are found again after a batch of writes, the last one of each key
(`valueAt_afterSave`).
-/
import RecordStore.Proofs.DistinctKeys
import RecordStore.Proofs.Json.Reading
import RecordStore.Proofs.Kept
import RecordStore.Typed

namespace RecordStore

set_option autoImplicit false

/-- The value is written, and the text of what a record keeps of it is read as the value. -/
def Codec.RoundTrips {α : Type} (codec : Codec α) (a : α) : Prop :=
  ∃ json, codec.payload a = .ok json ∧ codec.read.parse json.render = .ok a

/-- A batch of records that can all be stored has no notices. -/
theorem Reference.notices_of_storable (container : String) {records : Records}
    (storable : ∀ r ∈ records, r.Storable) (s : Reference) (given : List Notice) :
    (records.foldl (bulkSaveOne container) (s, given)).2 = given := by
  induction records generalizing s with
  | nil => rfl
  | cons r rest ih =>
    obtain ⟨named, text, encoded⟩ := storable r (by simp)
    rw [List.foldl_cons, bulkSaveOne, named, encoded]
    exact ih (fun r member => storable r (by simp [member])) _

theorem Reference.bulkSave_of_storable (container : String) {m : Moment} (live : m.stop? = none)
    {records : Records} (storable : ∀ r ∈ records, r.Storable) (s : Reference) :
    bulkSave container m records s =
      (⟨.ok (), []⟩, Dict.putAll ((Operation.bulkSave records).writes Record.expiry?) s) := by
  have quiet := notices_of_storable container storable s []
  have kept := foldl_bulkSaveOne container records s []
  rw [bulkSave, live]
  dsimp only [checkLive]
  rw [quiet, kept]

/-- What is kept without an expiry is shown at all times. -/
theorem Reference.lookup_of_undated {s : Reference} {key text : String}
    (kept : s.get? key = some ⟨text, none⟩) (time : Timestamp) :
    s.lookup key time = some (.ofText key text none) := by
  rw [lookup, kept]
  rfl

namespace Typed

variable {α σ : Type}

/-! ## What is read under a key -/

/-- A value as a batch lists it. -/
def listed (key : String) (result : Except StoreError α) : Option (String × α) :=
  result.toOption.map fun a => (key, a)

/-- The notice that a batch gives about a key. -/
def notice? (container key : String) : Except StoreError α → Option Notice
  | .error (.marshal cause) => some (.undecodableValue container key (.marshal cause))
  | _ => none

/-- What a read of a key comes to, given the record that is shown under it. -/
inductive Reads (codec : Codec α) (key : String) : Option Record → Except StoreError α → Prop
  | missing : Reads codec key none (.error .keyNotFound)
  | value {text : String} {expiry : Option Timestamp} {a : α}
      (decodes : codec.read.parse text = .ok a) :
      Reads codec key (some (.ofText key text expiry)) (.ok a)
  | undecodable {text : String} {expiry : Option Timestamp} {cause : Json.Cause}
      (fails : codec.read.parse text = .error cause) :
      Reads codec key (some (.ofText key text expiry)) (.error (.marshal cause))

theorem Reads.outcome {codec : Codec α} {key : String} {shown : Option Record}
    {result : Except StoreError α} (reads : Reads codec key shown result) :
    (∃ a, result = .ok a) ∨ result = .error .keyNotFound ∨
      ∃ cause, result = .error (.marshal cause) := by
  cases reads with
  | missing => exact .inr (.inl rfl)
  | value decodes => exact .inl ⟨_, rfl⟩
  | undecodable fails => exact .inr (.inr ⟨_, rfl⟩)

/-- The value under a key of the reference store. -/
def valueAt (codec : Codec α) (s : Reference) (time : Timestamp) (key : String) :
    Except StoreError α :=
  valueOf codec ((s.lookup key time).elim (.error .keyNotFound) .ok)

theorem decode_ofText (codec : Codec α) (key text : String) (expiry : Option Timestamp) :
    (Record.ofText key text expiry).decode codec.read =
      (codec.read.parse text).mapError .marshal := by
  unfold Record.decode Record.ofText
  dsimp only
  cases codec.read.parse text <;> rfl

theorem reads_valueAt (codec : Codec α) (s : Reference) (time : Timestamp) (key : String) :
    Reads codec key (s.lookup key time) (valueAt codec s time key) := by
  unfold valueAt
  cases found : s.lookup key time with
  | none => exact .missing
  | some r =>
    obtain ⟨text, expiry, rfl⟩ : ∃ text expiry, r = .ofText key text expiry := by
      unfold Reference.lookup at found
      split at found
      · next kept _ =>
        obtain ⟨-, shown⟩ := Option.ite_none_left_eq_some.1 found
        exact ⟨kept.text, kept.expiry, (Option.some.inj shown).symm⟩
      · cases found
    show Reads codec key _ ((Record.ofText key text expiry).decode codec.read)
    rw [decode_ofText]
    cases decoded : codec.read.parse text with
    | ok a => exact .value decoded
    | error cause => exact .undecodable decoded

/-- The records that are shown under keys have their values listed, or have a notice. -/
theorem valuesOf_lookup (codec : Codec α) (container : String) (s : Reference) (time : Timestamp)
    (keys : List String) :
    valuesOf codec container (keys.filterMap fun key => s.lookup key time) =
      (keys.filterMap fun key => listed key (valueAt codec s time key),
        keys.filterMap fun key => notice? container key (valueAt codec s time key)) := by
  induction keys with
  | nil => rfl
  | cons key rest ih =>
    have reads := reads_valueAt codec s time key
    rw [List.filterMap_cons, List.filterMap_cons, List.filterMap_cons]
    revert reads
    generalize s.lookup key time = shown, valueAt codec s time key = result
    intro reads
    cases reads with
    | missing => exact ih
    | value decodes =>
      dsimp only [listed, notice?, Except.toOption, Option.map_some]
      rw [valuesOf, ih, decode_ofText, decodes]
      rfl
    | undecodable fails =>
      dsimp only [listed, notice?, Except.toOption, Option.map_none]
      rw [valuesOf, ih, decode_ofText, fails]
      rfl

/-! ## A client of the reference store -/

section

variable (result : Except StoreError α)

theorem found_eq_none : found result = .ok none ↔ result = .error .keyNotFound := by
  unfold found
  split <;> simp_all

theorem found_eq_some (a : α) : found result = .ok (some a) ↔ result = .ok a := by
  unfold found
  split <;> simp_all

theorem found_eq_error (e : StoreError) :
    found result = .error e ↔ result = .error e ∧ e ≠ .keyNotFound := by
  unfold found
  split
  · simp
  · simp +contextual [eq_comm]
  · next other missing =>
    constructor
    · intro same
      cases same
      exact ⟨rfl, missing⟩
    · rintro ⟨same, -⟩
      cases same
      rfl

end

section

variable (container : String) (codec : Codec α)

/-- Values in the reference store. -/
def referenceClient : Client Reference α := ⟨Reference.backend container, codec⟩

variable {m : Moment} (live : m.stop? = none) (s : Reference)

include live

theorem get_eq_valueAt {key : String} (named : Text.isBlankText key = false) :
    (referenceClient container codec).get m key s = (valueAt codec s m.time key, s) := by
  show (valueOf codec (Reference.get m key s), s) = _
  rw [Reference.get_of_live live named]
  rfl

theorem bulkGet_eq_valueAt {keys : List String} (few : keys.length ≤ maxBulkKeys)
    (named : ∀ key ∈ keys, Text.isBlankText key = false) :
    (referenceClient container codec).bulkGet m keys s =
      (.ok (keys.eraseDups.filterMap fun key => listed key (valueAt codec s m.time key)),
        keys.eraseDups.filterMap fun key => notice? container key (valueAt codec s m.time key),
        s) := by
  have read := Reference.bulkGet_of_live live few named s
  have values := valuesOf_lookup codec container s m.time keys.eraseDups
  unfold Client.bulkGet referenceClient
  dsimp only [Reference.backend, Reply.of]
  rw [read]
  dsimp only
  rw [values]
  rfl

end

/-! ## Values that were saved -/

/-- The last of some values that has a key. -/
def LastUnder (keyOf : α → String) (values : List α) (key : String) (a : α) : Prop :=
  ∃ before after, values = before ++ a :: after ∧ keyOf a = key ∧ ∀ b ∈ after, keyOf b ≠ key

/-- What is kept after values were saved at a time, each under its key and without an expiry. -/
def afterSave (codec : Codec α) (keyOf : α → String) (built : Timestamp) (values : List α)
    (s : Reference) : Reference :=
  Dict.putAll ((Operation.bulkSave (recordsOf codec keyOf none built values)).writes
    Record.expiry?) s

theorem exists_lastUnder {keyOf : α → String} {values : List α} {key : String}
    (among : ∃ a ∈ values, keyOf a = key) : ∃ a, LastUnder keyOf values key a := by
  induction values with
  | nil => simp at among
  | cons first rest ih =>
    by_cases later : ∃ a ∈ rest, keyOf a = key
    · obtain ⟨a, before, after, rfl, own, last⟩ := ih later
      exact ⟨a, first :: before, after, rfl, own, last⟩
    · obtain ⟨a, member, own⟩ := among
      rcases List.mem_cons.1 member with rfl | member
      · exact ⟨a, [], rest, rfl, own, fun b member same => later ⟨b, member, same⟩⟩
      · exact absurd ⟨a, member, own⟩ later

/-- A search from the end finds it. -/
theorem LastUnder.find? {keyOf : α → String} {values : List α} {key : String} {a : α}
    (last : LastUnder keyOf values key a) :
    values.reverse.find? (fun b => keyOf b == key) = some a := by
  obtain ⟨before, after, rfl, own, others⟩ := last
  have none_ : after.reverse.find? (fun b => keyOf b == key) = none := by
    simpa [List.find?_eq_none] using others
  rw [List.reverse_append, List.reverse_cons, List.append_assoc, List.find?_append, none_,
    List.singleton_append, List.find?_cons_of_pos (by simp [own])]
  rfl

section

variable (container : String) {codec : Codec α} {keyOf : α → String} {values : List α}
  (trips : ∀ a ∈ values, codec.RoundTrips a)
  (named : ∀ a ∈ values, Text.isBlankText (keyOf a) = false)

include trips named

theorem storable_recordsOf (built : Timestamp) :
    ∀ r ∈ recordsOf codec keyOf none built values, r.Storable := by
  intro r member
  obtain ⟨a, among, rfl⟩ := List.mem_map.1 member
  obtain ⟨json, written, -⟩ := trips a among
  refine ⟨named a among, json.render, ?_⟩
  rw [recordOf, Record.new, written]
  rfl

/-- Values that can all be written are saved without notices. -/
theorem bulkSave_eq {m : Moment} (live : m.stop? = none) (s : Reference) :
    (referenceClient container codec).bulkSave m values keyOf none s =
      (.ok (), [], afterSave codec keyOf m.time values s) := by
  have saved := Reference.bulkSave_of_storable container live
    (storable_recordsOf trips named m.time) s
  unfold Client.bulkSave
  split
  · next none =>
    rw [List.isEmpty_iff.1 none]
    rfl
  · dsimp only [referenceClient, Reference.backend]
    rw [saved]
    rfl

/-- What is read under a key then is the last value of the key. -/
theorem valueAt_afterSave {key : String} {a : α} (last : LastUnder keyOf values key a)
    (built : Timestamp) (s : Reference) (time : Timestamp) :
    valueAt codec (afterSave codec keyOf built values s) time key = .ok a := by
  obtain ⟨before, after, rfl, rfl, last⟩ := last
  obtain ⟨json, written, parsed⟩ := trips a (by simp)
  let record := recordOf codec (keyOf a) none built a
  have encoded : record.encode = .ok json.render := by
    unfold record recordOf Record.new
    rw [written]
    rfl
  have saves : (Operation.bulkSave
      (recordsOf codec keyOf none built (before ++ a :: after))).SavesLast (keyOf a) record := by
    rw [recordsOf, List.map_append, List.map_cons]
    refine Operation.SavesLast.bulkSave (r := record) rfl _ fun other member same => ?_
    obtain ⟨b, later, rfl⟩ := List.mem_map.1 member
    exact absurd same (last b later)
  obtain ⟨first, rest, writes, others⟩ := saves.writes (named a (by simp)) encoded Record.expiry?
  have undated : record.expiry? = none := rfl
  have kept := Dict.get?_putAll_last first others ⟨json.render, none⟩ s
  rw [valueAt, afterSave, writes, undated, Reference.lookup_of_undated kept]
  show (Record.ofText (keyOf a) json.render none).decode codec.read = _
  rw [decode_ofText, parsed]
  rfl

end

/-! ## Agreement -/

/-- Reads of values agree: in a batch and by themselves, with and without a failure for missing keys,
and with what was saved. -/
structure ReadsAgree (container : String) (codec : Codec α) : Prop where
  /-- A batch lists the values that single reads give, each key once, in the order in which the keys
  appear first, and warns once of each key whose text does not decode.  Other than that a single read
  only fails for keys that are missing. -/
  batch (s : Reference) (time : Timestamp) {keys : List String} (few : keys.length ≤ maxBulkKeys)
    (named : ∀ key ∈ keys, Text.isBlankText key = false) {m : Moment} (live : m.stop? = none)
    (now : m.time = time) {single : String → Moment}
    (lives : ∀ key ∈ keys, (single key).stop? = none)
    (times : ∀ key ∈ keys, (single key).time = time) :
    ∃ results : String → Except StoreError α,
      (∀ key ∈ keys,
        (referenceClient container codec).get (single key) key s = (results key, s) ∧
          ((∃ a, results key = .ok a) ∨ results key = .error .keyNotFound ∨
            ∃ cause, results key = .error (.marshal cause))) ∧
      (referenceClient container codec).bulkGet m keys s =
        (.ok (keys.eraseDups.filterMap fun key => listed key (results key)),
          keys.eraseDups.filterMap fun key => notice? container key (results key), s)
  /-- A search finds nothing exactly where a read misses the key, and else what the read gives. -/
  search (s : Reference) (m : Moment) (key : String) :
    let got := (referenceClient container codec).get m key s
    let sought := (referenceClient container codec).find m key s
    (sought.1 = .ok none ↔ got.1 = .error .keyNotFound) ∧
      (∀ a, sought.1 = .ok (some a) ↔ got.1 = .ok a) ∧
      (∀ e, sought.1 = .error e ↔ got.1 = .error e ∧ e ≠ .keyNotFound) ∧ sought.2 = got.2
  /-- Values that all can be written and read back are saved without a warning, and a batch of reads
  then lists for each key the last value that was given the key. -/
  saved (s : Reference) {values : List α} (trips : ∀ a ∈ values, codec.RoundTrips a)
    {keyOf : α → String} (named : ∀ a ∈ values, Text.isBlankText (keyOf a) = false)
    {m : Moment} (live : m.stop? = none) :
    ∃ after, (referenceClient container codec).bulkSave m values keyOf none s = (.ok (), [], after) ∧
      ∀ {m' : Moment}, m'.stop? = none → ∀ {keys : List String}, keys.length ≤ maxBulkKeys →
        (∀ key ∈ keys, ∃ a ∈ values, keyOf a = key) →
        ∃ results, (referenceClient container codec).bulkGet m' keys after = (.ok results, [], after) ∧
          results.map (·.1) = keys.eraseDups ∧
          ∀ e ∈ results, LastUnder keyOf values e.1 e.2

/-- Where every key has a value that is read, a batch lists these and nothing else. -/
theorem map_fst_listed {results : String → Except StoreError α} {keys : List String}
    (read : ∀ key ∈ keys, ∃ a, results key = .ok a) :
    (keys.filterMap fun key => listed key (results key)).map (·.1) = keys := by
  rw [List.map_filterMap]
  refine (List.filterMap_congr fun key member => ?_).trans List.filterMap_some
  obtain ⟨a, ok⟩ := read key member
  rw [ok]
  rfl

theorem notices_eq_nil (container : String) {results : String → Except StoreError α}
    {keys : List String} (read : ∀ key ∈ keys, ∃ a, results key = .ok a) :
    (keys.filterMap fun key => notice? container key (results key)) = [] := by
  refine List.filterMap_eq_nil_iff.2 fun key member => ?_
  obtain ⟨a, ok⟩ := read key member
  rw [ok]
  rfl

/-- **Batches of values agree with single values**, for every codec and whatever the reference store
keeps. -/
theorem readsAgree (container : String) (codec : Codec α) : ReadsAgree container codec where
  batch s time keys few named m live now single lives times := by
    refine ⟨valueAt codec s time, fun key member => ⟨?_, ?_⟩, ?_⟩
    · rw [get_eq_valueAt container codec (lives key member) s (named key member), times key member]
    · exact (reads_valueAt codec s time key).outcome
    · rw [bulkGet_eq_valueAt container codec live s few named, now]
  search s m key :=
    ⟨found_eq_none _, found_eq_some _, found_eq_error _, rfl⟩
  saved s values trips keyOf named m live := by
    refine ⟨_, bulkSave_eq container trips named live s, ?_⟩
    intro m' live' keys few among
    have blank : ∀ key ∈ keys, Text.isBlankText key = false := by
      intro key member
      obtain ⟨a, saved, rfl⟩ := among key member
      exact named a saved
    have last : ∀ key ∈ keys.eraseDups, ∃ a, LastUnder keyOf values key a := fun key member =>
      exists_lastUnder (among key (List.mem_eraseDups.1 member))
    have read (key : String) (a : α) (under : LastUnder keyOf values key a) :
        valueAt codec (afterSave codec keyOf m.time values s) m'.time key = .ok a :=
      valueAt_afterSave trips named under m.time s m'.time
    have ok : ∀ key ∈ keys.eraseDups,
        ∃ a, valueAt codec (afterSave codec keyOf m.time values s) m'.time key = .ok a :=
      fun key member => (last key member).imp fun a under => read key a under
    refine ⟨_, ?_, map_fst_listed ok, ?_⟩
    · rw [bulkGet_eq_valueAt container codec live' _ few blank, notices_eq_nil container ok]
    · intro e member
      obtain ⟨key, asked, shown⟩ := List.mem_filterMap.1 member
      obtain ⟨a, under⟩ := last key asked
      rw [read key a under] at shown
      cases shown
      exact under

/-- A batch over a value, a text that does not decode and a key that is missing; then two values of
one key are saved over the text, and the keys are read with repeats. -/
theorem readsAgree_texts :
    let keyOf (text : String) := if text = "c" then "other" else "same"
    let values := ["a", "c", "b"]
    let s : Reference := ((∅ : Dict Stored).insert "same" ⟨"true", none⟩).insert "kept" ⟨"\"k\"", none⟩
    let m : Moment := ⟨0, 9, .unbounded⟩
    let client := referenceClient "texts" .string
    let cause : Json.Cause := .invalidType (.bool true) "a string"
    (∀ a ∈ values, Codec.string.RoundTrips a) ∧
      (∀ a ∈ values, Text.isBlankText (keyOf a) = false) ∧ m.stop? = none ∧
      client.bulkGet m ["same", "kept", "gone", "same"] s =
        (.ok [("kept", "k")], [.undecodableValue "texts" "same" (.marshal cause)], s) ∧
      ∃ after, client.bulkSave m values keyOf none s = (.ok (), [], after) ∧
        client.bulkGet m ["same", "other", "same"] after =
          (.ok [("same", "b"), ("other", "c")], [], after) := by
  intro keyOf values s m client cause
  have agree := readsAgree "texts" Codec.string
  have trips : ∀ a ∈ values, Codec.string.RoundTrips a := fun a _ =>
    ⟨.string a, rfl, (Json.recovers_string a).parse (.string a) (Nat.zero_le _)⟩
  have named : ∀ a ∈ values, Text.isBlankText (keyOf a) = false := by decide
  have few : ["same", "kept", "gone", "same"].length ≤ maxBulkKeys := by decide
  have live : m.stop? = none := rfl
  obtain ⟨results, singles, batch⟩ := agree.batch s 9 few (by decide) live rfl (fun _ _ => live)
    fun _ _ => rfl
  have broken : results "same" = .error (.marshal cause) :=
    (congrArg Prod.fst (singles "same" (by simp)).1).symm
  have kept : results "kept" = .ok "k" :=
    (congrArg Prod.fst (singles "kept" (by simp)).1).symm
  have gone : results "gone" = .error .keyNotFound :=
    (congrArg Prod.fst (singles "gone" (by simp)).1).symm
  have found : ["same", "kept", "gone"].filterMap (fun key => listed key (results key)) =
      [("kept", "k")] := by
    simp [listed, Except.toOption, broken, kept, gone]
  have noticed : ["same", "kept", "gone"].filterMap (fun key => notice? "texts" key (results key)) =
      [.undecodableValue "texts" "same" (.marshal cause)] := by
    simp [notice?, broken, kept, gone]
  rw [show ["same", "kept", "gone", "same"].eraseDups = ["same", "kept", "gone"] from rfl, found,
    noticed] at batch
  obtain ⟨after, saved, reads⟩ := agree.saved s trips named live
  have among : ∀ key ∈ ["same", "other", "same"], ∃ a ∈ values, keyOf a = key := by decide
  obtain ⟨pairs, read, keys, last⟩ := reads live (by decide) among
  obtain ⟨⟨_, one⟩, _, rfl, rfl, rest⟩ := List.map_eq_cons_iff.1 keys
  obtain ⟨⟨_, other⟩, _, rfl, rfl, none_⟩ := List.map_eq_cons_iff.1 rest
  obtain rfl := List.map_eq_nil_iff.1 none_
  obtain rfl : "b" = one := Option.some.inj (last ("same", one) (by simp)).find?
  obtain rfl : "c" = other := Option.some.inj (last ("other", other) (by simp)).find?
  exact ⟨trips, named, live, batch, after, saved, read⟩

end Typed

end RecordStore
