/-
RecordStore.Proofs.Wire.RecordItem -- records survive being items

An item that was made of a key, a text and an expiry within the range of a
timestamp gives the record of that key, text and expiry again
(`recordOfItem_recordItem`).  An expiry that is not positive is dropped on the
way.
-/
import RecordStore.Proofs.Dict
import RecordStore.Proofs.Number.Digits
import RecordStore.Wire.RecordItem

namespace RecordStore.Wire

set_option autoImplicit false

open RecordStore.Number

/-- Timestamps are read back from their text. -/
theorem parseTimestamp?_integerText {t : Timestamp} (ge : -(maxInt64 : Int) - 1 ≤ t)
    (le : t ≤ maxTimestamp) : parseTimestamp? (integerText t) = some t := by
  unfold parseTimestamp?
  dsimp only
  rw [readInt?_integerText ge le]

/-- An expiry that is positive is an expiry. -/
theorem filter_pos {expiry : Option Timestamp} (pos : ∀ t, expiry = some t → 0 < t) :
    expiry.filter (0 < ·) = expiry := by
  cases expiry with
  | none => rfl
  | some t => simp [Option.filter, pos t rfl]

theorem get?_keyItem (key name : String) :
    (keyItem key).get? name = if name = keyAttribute then some (.string key) else none := by
  rw [keyItem, Dict.get?_insert]
  rfl

/-- The attributes of an item. -/
theorem get?_recordItem (key text : String) (expiry : Option Timestamp) (name : String) :
    (recordItem key text expiry).get? name =
      if name = expiryAttribute then
        (expiry.filter (0 < ·)).map fun t => .number (integerText t)
      else if name = valueAttribute then some (.string text)
      else if name = keyAttribute then some (.string key)
      else none := by
  unfold recordItem
  cases expiry.filter (0 < ·) with
  | some t => simp only [Dict.get?_insert, get?_keyItem, Option.map_some]
  | none =>
    simp only [Dict.get?_insert, get?_keyItem, Option.map_none]
    by_cases h : name = expiryAttribute
    · subst h
      simp [expiryAttribute, valueAttribute, keyAttribute]
    · rw [if_neg h]

theorem requireString_key (key text : String) (expiry : Option Timestamp) :
    requireString (recordItem key text expiry) keyAttribute = .ok key := by
  rw [requireString, get?_recordItem]
  simp [expiryAttribute, valueAttribute, keyAttribute]

theorem requireString_value (key text : String) (expiry : Option Timestamp) :
    requireString (recordItem key text expiry) valueAttribute = .ok text := by
  rw [requireString, get?_recordItem]
  simp [expiryAttribute, valueAttribute]

theorem readExpiry_recordItem (key text : String) {expiry : Option Timestamp}
    (fits : ∀ t, expiry = some t → t ≤ maxTimestamp) :
    readExpiry (recordItem key text expiry) = .ok (expiry.filter (0 < ·)) := by
  rw [readExpiry, get?_recordItem, if_pos rfl]
  cases expiry with
  | none => rfl
  | some t =>
    by_cases positive : 0 < t
    · have ge : -(maxInt64 : Int) - 1 ≤ t :=
        Int.le_trans (by decide) (Int.le_of_lt positive)
      have read := parseTimestamp?_integerText ge (fits t rfl)
      simp [Option.filter, positive, read]
    · simp [Option.filter, positive]

theorem recordOfItem_recordItem (key text : String) {expiry : Option Timestamp}
    (fits : ∀ t, expiry = some t → t ≤ maxTimestamp) :
    recordOfItem (recordItem key text expiry) =
      .ok (.ofText key text (expiry.filter (0 < ·))) := by
  unfold recordOfItem
  rw [requireString_key, requireString_value, readExpiry_recordItem key text fits]
  rfl

theorem isEmpty_recordItem (key text : String) (expiry : Option Timestamp) :
    (recordItem key text expiry).isEmpty = false := by
  unfold recordItem
  split <;> exact Dict.isEmpty_insert _ _ _

end RecordStore.Wire
