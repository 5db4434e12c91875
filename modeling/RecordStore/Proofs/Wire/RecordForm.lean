/-
RecordStore.Proofs.Wire.RecordForm -- which items are records

An item is a record when its key and its value are strings and its expiry, if it
has one, is a number text that stands for a timestamp (`recordOfItem_eq_ok`).
Whatever else the item has does not matter.  Any other item is refused for the
first attribute that is not as it should be (`FirstOffence`).  Many items may be
the same record; one of them is the item that the record makes, with these
attributes only and a plain decimal (`carries_recordItem`), and it is that record
again because a timestamp that was read is in the range that is written
(`parseTimestamp?_le`).
-/
import RecordStore.Proofs.Operation
import RecordStore.Proofs.Wire.RecordItem

namespace RecordStore.Wire

set_option autoImplicit false

open RecordStore.Number

/-! ## What an item carries -/

/-- The attributes that make an item a record, in the order in which they are looked at. -/
def recordAttributes : List String := [keyAttribute, valueAttribute, expiryAttribute]

/-- The plain decimal of a positive number: digits only, the first of which is no zero. -/
structure PlainDecimal (i : Int) (text : String) : Prop where
  digits : ∀ c ∈ text.toList, isDigit c = true
  leading : ∃ c rest, text.toList = c :: rest ∧ c ≠ '0'
  value : (ofDigits 0 text.toList : Int) = i

/-- The item has the key, the text and the expiry, if there is one, and no other attribute. -/
structure Carries (item : Item) (key text : String) (expiry : Option Timestamp) : Prop where
  key : item.get? keyAttribute = some (.string key)
  text : item.get? valueAttribute = some (.string text)
  timeless : expiry = none → item.get? expiryAttribute = none
  timed : ∀ t, expiry = some t →
    ∃ number, item.get? expiryAttribute = some (.number number) ∧ PlainDecimal t number
  only : ∀ name, name ∉ recordAttributes → item.get? name = none

theorem plainDecimal_integerText {i : Int} (pos : 0 < i) : PlainDecimal i (integerText i) := by
  have written : (integerText i).toList = digits i.natAbs := by
    rw [integerText, if_neg (by omega), String.toList_ofList]
  refine ⟨fun c member => ?_, ?_, ?_⟩
  · rw [written] at member
    exact isDigit_of_mem_digits member
  · rw [written]
    exact digits_eq_cons (by omega)
  · rw [written, ofDigits_digits]
    omega

theorem carries_recordItem (key text : String) (expiry : Option Timestamp) :
    Carries (recordItem key text expiry) key text (expiry.filter (0 < ·)) where
  key := by
    rw [get?_recordItem]
    simp [expiryAttribute, valueAttribute, keyAttribute]
  text := by
    rw [get?_recordItem]
    simp [expiryAttribute, valueAttribute]
  timeless unset := by rw [get?_recordItem, if_pos rfl, unset, Option.map_none]
  timed t expires := by
    have pos : 0 < t := of_decide_eq_true (Option.filter_eq_some_iff.1 expires).2
    refine ⟨integerText t, ?_, plainDecimal_integerText pos⟩
    rw [get?_recordItem, if_pos rfl, expires, Option.map_some]
  only name other := by
    simp only [recordAttributes, List.mem_cons, List.not_mem_nil, or_false, not_or] at other
    rw [get?_recordItem, if_neg other.2.2, if_neg other.2.1, if_neg other.1]

/-! ## Items that are records -/

/-- What an item says of the expiry: nothing, or a timestamp that counts if it is positive. -/
inductive ReadsExpiry (item : Item) : Option Timestamp → Prop
  | absent (missing : item.get? expiryAttribute = none) : ReadsExpiry item none
  | number {text : String} {t : Timestamp}
      (there : item.get? expiryAttribute = some (.number text))
      (accepted : parseTimestamp? text = some t) : ReadsExpiry item ((some t).filter (0 < ·))

theorem requireString_eq_ok {item : Item} {name s : String} :
    requireString item name = .ok s ↔ item.get? name = some (.string s) := by
  unfold requireString
  split
  · next there => simp [there]
  · next other odd there =>
    simp only [reduceCtorEq, there, Option.some.injEq, false_iff]
    exact odd s
  · next missing => simp [missing]

theorem readExpiry_eq_ok {item : Item} {expiry : Option Timestamp} :
    readExpiry item = .ok expiry ↔ ReadsExpiry item expiry := by
  constructor
  · intro read
    unfold readExpiry at read
    split at read
    · next missing =>
      cases read
      exact .absent missing
    · next text there =>
      split at read
      · next t accepted =>
        cases read
        exact .number there accepted
      · cases read
    · cases read
  · intro reads
    unfold readExpiry
    cases reads with
    | absent missing => rw [missing]
    | number there accepted =>
      rw [there]
      dsimp only
      rw [accepted]

theorem recordOfItem_eq_ok {item : Item} {r : Record} :
    recordOfItem item = .ok r ↔
      item.get? keyAttribute = some (.string r.key) ∧
      (∃ text, r.value = .encoded text ∧ item.get? valueAttribute = some (.string text)) ∧
      ReadsExpiry item r.expiry := by
  constructor
  · intro read
    obtain ⟨key, named, read⟩ := bind_eq_ok.1 read
    obtain ⟨text, valued, read⟩ := bind_eq_ok.1 read
    obtain ⟨expiry, timed, read⟩ := bind_eq_ok.1 read
    cases read
    exact ⟨requireString_eq_ok.1 named, ⟨text, rfl, requireString_eq_ok.1 valued⟩,
      readExpiry_eq_ok.1 timed⟩
  · obtain ⟨key, value, expiry⟩ := r
    rintro ⟨named, ⟨text, encoded, valued⟩, timed⟩
    obtain rfl : value = .encoded text := encoded
    unfold recordOfItem
    rw [requireString_eq_ok.2 named, requireString_eq_ok.2 valued, readExpiry_eq_ok.2 timed]
    rfl

/-! ## Items that are none -/

/-- What is wrong with an attribute of an item. -/
inductive Offends (item : Item) (name : String) : Breach → Prop
  | missing (needed : name = keyAttribute ∨ name = valueAttribute)
      (absent : item.get? name = none) : Offends item name (.missingAttribute name)
  | notString {found : AttributeValue} (needed : name = keyAttribute ∨ name = valueAttribute)
      (there : item.get? name = some found) (odd : found.string? = none) :
      Offends item name (.notString name found)
  | notNumber {found : AttributeValue} (own : name = expiryAttribute)
      (there : item.get? name = some found) (odd : found.number? = none) :
      Offends item name (.notNumber name found)
  | invalidTimestamp {text : String} (own : name = expiryAttribute)
      (there : item.get? name = some (.number text)) (odd : parseTimestamp? text = none) :
      Offends item name (.invalidTimestamp name text)

/-- The failure is about the first attribute that offends, and its message says which one. -/
structure FirstOffence (item : Item) (failure : StoreError) (before : List String) (name : String)
    (after : List String) (breach : Breach) : Prop where
  order : recordAttributes = before ++ name :: after
  first : ∀ earlier ∈ before, ∀ breach, ¬ Offends item earlier breach
  offends : Offends item name breach
  internal : failure = .internal breach
  named : ∃ what, failure.message = "internal error: attribute '" ++ name ++ "' " ++ what

theorem string_unoffending {item : Item} {name s : String} (other : name ≠ expiryAttribute)
    (read : requireString item name = .ok s) (breach : Breach) : ¬ Offends item name breach := by
  have there := requireString_eq_ok.1 read
  intro offends
  cases offends with
  | missing _ absent => cases there.symm.trans absent
  | notString _ found odd =>
    cases there.symm.trans found
    cases odd
  | notNumber own => exact other own
  | invalidTimestamp own => exact other own

theorem offends_of_requireString {item : Item} {name : String} {failure : StoreError}
    (needed : name = keyAttribute ∨ name = valueAttribute)
    (refused : requireString item name = .error failure) :
    ∃ breach, Offends item name breach ∧ failure = .internal breach := by
  unfold requireString at refused
  split at refused
  · cases refused
  · next found odd there =>
    cases refused
    refine ⟨_, .notString needed there ?_, rfl⟩
    cases found with
    | string s => exact absurd rfl (odd s)
    | _ => rfl
  · next absent =>
    cases refused
    exact ⟨_, .missing needed absent, rfl⟩

theorem offends_of_readExpiry {item : Item} {failure : StoreError}
    (refused : readExpiry item = .error failure) :
    ∃ breach, Offends item expiryAttribute breach ∧ failure = .internal breach := by
  unfold readExpiry at refused
  split at refused
  · cases refused
  · next text there =>
    split at refused
    · cases refused
    · next odd =>
      cases refused
      exact ⟨_, .invalidTimestamp rfl there odd, rfl⟩
  · next found odd there =>
    cases refused
    refine ⟨_, .notNumber rfl there ?_, rfl⟩
    cases found with
    | number n => exact absurd rfl (odd n)
    | _ => rfl

/-- Whatever is wrong with an attribute, the message begins with its name. -/
theorem message_of_offends {item : Item} {name : String} {breach : Breach}
    (offends : Offends item name breach) :
    ∃ what, (StoreError.internal breach).message =
      "internal error: attribute '" ++ name ++ "' " ++ what := by
  have begins (what : String) : "internal error: " ++ ("attribute '" ++ name ++ ("' " ++ what)) =
      "internal error: attribute '" ++ name ++ "' " ++ what := by
    have front : "internal error: attribute '" = "internal error: " ++ "attribute '" := rfl
    simp only [front, String.append_assoc]
  have continues (what more : String) : "internal error: " ++
      ("attribute '" ++ name ++ ("' " ++ what) ++ more) =
      "internal error: attribute '" ++ name ++ "' " ++ (what ++ more) := by
    rw [← begins]
    simp only [String.append_assoc]
  cases offends with
  | missing => exact ⟨_, begins "is missing"⟩
  | notString => exact ⟨_, continues "is not a string: " _⟩
  | notNumber => exact ⟨_, continues "is not a number: " _⟩
  | invalidTimestamp => exact ⟨_, continues "is not a valid timestamp: " _⟩

theorem Offends.firstOffence {item : Item} {failure : StoreError} {before after : List String}
    {name : String} {breach : Breach} (offends : Offends item name breach)
    (internal : failure = .internal breach) (order : recordAttributes = before ++ name :: after)
    (first : ∀ earlier ∈ before, ∀ breach, ¬ Offends item earlier breach) :
    FirstOffence item failure before name after breach :=
  ⟨order, first, offends, internal, internal ▸ message_of_offends offends⟩

/-- An item that is no record is refused for the first attribute that offends. -/
theorem firstOffence_of_recordOfItem {item : Item} {failure : StoreError}
    (refused : recordOfItem item = .error failure) :
    ∃ before name after breach, FirstOffence item failure before name after breach := by
  unfold recordOfItem at refused
  cases named : requireString item keyAttribute with
  | error _ =>
    rw [named] at refused
    cases refused
    obtain ⟨breach, offends, internal⟩ := offends_of_requireString (.inl rfl) named
    exact ⟨[], _, _, breach, offends.firstOffence internal rfl nofun⟩
  | ok key =>
    have keyed := string_unoffending (by decide) named
    cases valued : requireString item valueAttribute with
    | error _ =>
      rw [named, valued] at refused
      cases refused
      obtain ⟨breach, offends, internal⟩ := offends_of_requireString (.inr rfl) valued
      refine ⟨[keyAttribute], _, _, breach, offends.firstOffence internal rfl ?_⟩
      intro earlier member
      rwa [List.mem_singleton.1 member]
    | ok text =>
      have texted := string_unoffending (by decide) valued
      cases timed : readExpiry item with
      | error _ =>
        rw [named, valued, timed] at refused
        cases refused
        obtain ⟨breach, offends, internal⟩ := offends_of_readExpiry timed
        refine ⟨[keyAttribute, valueAttribute], _, _, breach, offends.firstOffence internal rfl ?_⟩
        intro earlier member
        rcases List.mem_cons.1 member with rfl | last
        · exact keyed
        · rwa [List.mem_singleton.1 last]
      | ok expiry =>
        rw [named, valued, timed] at refused
        cases refused

/-! ## Records as items again -/

/-- A number text stands for a timestamp in range. -/
theorem parseTimestamp?_le {text : String} {t : Timestamp} (read : parseTimestamp? text = some t) :
    t ≤ maxTimestamp := by
  unfold parseTimestamp? at read
  dsimp only at read
  split at read
  · next whole =>
    cases read
    exact (readInt?_range whole).2
  · obtain ⟨number, -, read⟩ := Option.bind_eq_some_iff.1 read
    obtain ⟨double, -, read⟩ := Option.bind_eq_some_iff.1 read
    cases read
    exact Int.max_le.2 ⟨by decide, Int.min_le_right _ _⟩

/-- The expiry of an item is a positive timestamp in range. -/
theorem ReadsExpiry.range {item : Item} {expiry : Option Timestamp} (reads : ReadsExpiry item expiry)
    {t : Timestamp} (expires : expiry = some t) : 0 < t ∧ t ≤ maxTimestamp := by
  cases reads with
  | absent => cases expires
  | number _ accepted =>
    obtain ⟨same, pos⟩ := Option.filter_eq_some_iff.1 expires
    cases same
    exact ⟨of_decide_eq_true pos, parseTimestamp?_le accepted⟩

theorem ReadsExpiry.filter {item : Item} {expiry : Option Timestamp}
    (reads : ReadsExpiry item expiry) : expiry.filter (0 < ·) = expiry :=
  filter_pos fun _ expires => (reads.range expires).1

/-- What an item says as a record. -/
structure RecordForm (item : Item) : Prop where
  /-- It is a record exactly when its key and value are strings and its expiry, if it has one, is a
  number text that stands for a timestamp. -/
  isRecord : (∃ r, recordOfItem item = .ok r) ↔
    (∃ key, item.get? keyAttribute = some (.string key)) ∧
    (∃ text, item.get? valueAttribute = some (.string text)) ∧
    (item.get? expiryAttribute = none ∨ ∃ number t,
      item.get? expiryAttribute = some (.number number) ∧ parseTimestamp? number = some t)
  /-- The record is the one that the attributes tell of. -/
  reads : ∀ r, recordOfItem item = .ok r →
    item.get? keyAttribute = some (.string r.key) ∧
    (∃ text, r.value = .encoded text ∧ item.get? valueAttribute = some (.string text)) ∧
    ReadsExpiry item r.expiry
  /-- No other attribute matters. -/
  blind : ∀ other : Item, (∀ name ∈ recordAttributes, other.get? name = item.get? name) →
    recordOfItem other = recordOfItem item
  /-- The item that the record makes is the record again, and carries nothing else. -/
  again : ∀ r, recordOfItem item = .ok r → ∃ text, r.value = .encoded text ∧
    recordOfItem (recordItem r.key text r.expiry) = .ok r ∧
    Carries (recordItem r.key text r.expiry) r.key text r.expiry
  /-- An item that is no record is refused for the first attribute that offends. -/
  refused : ∀ failure, recordOfItem item = .error failure →
    ∃ before name after breach, FirstOffence item failure before name after breach

theorem isRecord_iff {item : Item} : (∃ r, recordOfItem item = .ok r) ↔
    (∃ key, item.get? keyAttribute = some (.string key)) ∧
    (∃ text, item.get? valueAttribute = some (.string text)) ∧
    (item.get? expiryAttribute = none ∨ ∃ number t,
      item.get? expiryAttribute = some (.number number) ∧ parseTimestamp? number = some t) := by
  constructor
  · rintro ⟨⟨_, _, expiry⟩, read⟩
    obtain ⟨named, ⟨text, -, valued⟩, timed⟩ := recordOfItem_eq_ok.1 read
    refine ⟨⟨_, named⟩, ⟨text, valued⟩, ?_⟩
    cases timed with
    | absent missing => exact .inl missing
    | number there accepted => exact .inr ⟨_, _, there, accepted⟩
  · rintro ⟨⟨key, named⟩, ⟨text, valued⟩, timed⟩
    have reads : ∃ expiry, ReadsExpiry item expiry := by
      rcases timed with missing | ⟨number, t, there, accepted⟩
      · exact ⟨_, .absent missing⟩
      · exact ⟨_, .number there accepted⟩
    obtain ⟨expiry, timed⟩ := reads
    exact ⟨.ofText key text expiry, recordOfItem_eq_ok.2 ⟨named, ⟨text, rfl, valued⟩, timed⟩⟩

/-- Items that agree on the attributes of a record are the same record, or refused alike. -/
theorem recordOfItem_congr {item other : Item}
    (agree : ∀ name ∈ recordAttributes, other.get? name = item.get? name) :
    recordOfItem other = recordOfItem item := by
  unfold recordOfItem requireString readExpiry
  rw [agree keyAttribute (by simp [recordAttributes]),
    agree valueAttribute (by simp [recordAttributes]),
    agree expiryAttribute (by simp [recordAttributes])]

theorem recordOfItem_again {item : Item} {r : Record} (read : recordOfItem item = .ok r) :
    ∃ text, r.value = .encoded text ∧ recordOfItem (recordItem r.key text r.expiry) = .ok r ∧
      Carries (recordItem r.key text r.expiry) r.key text r.expiry := by
  obtain ⟨key, value, expiry⟩ := r
  obtain ⟨-, ⟨text, encoded, -⟩, timed⟩ := recordOfItem_eq_ok.1 read
  obtain rfl : value = .encoded text := encoded
  have again := recordOfItem_recordItem key text fun t expires => (timed.range expires).2
  have carries := carries_recordItem key text expiry
  rw [timed.filter] at again carries
  exact ⟨text, rfl, again, carries⟩

/-- **Records and items are inverse to one another.**  The item that a key, a text and an expiry in
range make is the record of these, but for an expiry that is not positive.  Every item is a record
or not as its key, value and expiry say, a record is recovered from the item that it makes, and what
is no record is refused for the first of the three that is not as it should be. -/
theorem recordForm_of_item :
    (∀ (key text : String) (expiry : Option Timestamp), (∀ t, expiry = some t → t ≤ maxTimestamp) →
      recordOfItem (recordItem key text expiry) =
        .ok ⟨key, .encoded text, expiry.filter (0 < ·)⟩) ∧
    ∀ item : Item, RecordForm item :=
  ⟨fun key text _ fits => recordOfItem_recordItem key text fits, fun _ =>
    { isRecord := isRecord_iff
      reads := fun _ read => recordOfItem_eq_ok.1 read
      blind := fun _ agree => recordOfItem_congr agree
      again := fun _ read => recordOfItem_again read
      refused := fun _ refused => firstOffence_of_recordOfItem refused }⟩

/-- The greatest expiry, one with an exponent beside an attribute of another use, and a number where
the text belongs. -/
theorem recordForm_oddNumber :
    let item : Item := ((recordItem "a" "[1" none).insert expiryAttribute (.number "4.2e1")).insert
      "note" (.bool true)
    let broken : Item := item.insert valueAttribute (.number "1")
    recordOfItem (recordItem "a" "1" (some maxTimestamp)) =
        .ok ⟨"a", .encoded "1", some maxTimestamp⟩ ∧
      recordOfItem item = .ok (.ofText "a" "[1" (some 42)) ∧
      recordOfItem (recordItem "a" "[1" (some 42)) = .ok (.ofText "a" "[1" (some 42)) ∧
      Carries (recordItem "a" "[1" (some 42)) "a" "[1" (some 42) ∧
      recordOfItem broken = .error (.internal (.notString "value" (.number "1"))) ∧
      ∃ before name after breach, FirstOffence broken
        (.internal (.notString "value" (.number "1"))) before name after breach := by
  intro item broken
  have greatest := recordForm_of_item.1 "a" "1" (some maxTimestamp) fun t expires =>
    Int.le_of_eq (Option.some.inj expires).symm
  have read : recordOfItem item = .ok (.ofText "a" "[1" (some 42)) := rfl
  have refused : recordOfItem broken = .error (.internal (.notString "value" (.number "1"))) := rfl
  obtain ⟨text, same, again, carries⟩ := (recordForm_of_item.2 item).again _ read
  obtain rfl := RecordValue.encoded.inj same
  exact ⟨greatest, read, again, carries, refused, (recordForm_of_item.2 broken).refused _ refused⟩

end RecordStore.Wire
