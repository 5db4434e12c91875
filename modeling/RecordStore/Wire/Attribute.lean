/-
RecordStore.Wire.Attribute -- typed attribute values and items

An item of the attribute store is a map from attribute names to typed values.
Numbers travel as their decimal text and binary data as its base-64 text.  The
entries of a map value are in strict key order (`Canonical`), so that equal maps
are one value; `same_iff` gives decidable equality.
-/
import RecordStore.Dict
import RecordStore.Text.Quoted

namespace RecordStore.Wire

set_option autoImplicit false

open RecordStore.Text

inductive AttributeValue
  | string (text : String)
  | number (text : String)
  | binary (base64 : String)
  | bool (b : Bool)
  | null (b : Bool)
  | list (items : List AttributeValue)
  | map (entries : List (String × AttributeValue))

/-- One item, or the key that addresses one. -/
abbrev Item := Dict AttributeValue

namespace AttributeValue

/-- The text of a string value. -/
def string? : AttributeValue → Option String
  | .string s => some s
  | _ => none

/-- The text of a number value. -/
def number? : AttributeValue → Option String
  | .number n => some n
  | _ => none

mutual

/-- Whether two values are the same. -/
def same : AttributeValue → AttributeValue → Bool
  | .string a, .string b => a == b
  | .number a, .number b => a == b
  | .binary a, .binary b => a == b
  | .bool a, .bool b => a == b
  | .null a, .null b => a == b
  | .list a, .list b => sameItems a b
  | .map a, .map b => sameEntries a b
  | _, _ => false

def sameItems : List AttributeValue → List AttributeValue → Bool
  | [], [] => true
  | a :: as, b :: bs => same a b && sameItems as bs
  | _, _ => false

def sameEntries : List (String × AttributeValue) → List (String × AttributeValue) → Bool
  | [], [] => true
  | (k, a) :: as, (l, b) :: bs => k == l && (same a b && sameEntries as bs)
  | _, _ => false

end

mutual

theorem same_iff : (a b : AttributeValue) → (same a b = true ↔ a = b)
  | .string a, b => by cases b <;> simp [same]
  | .number a, b => by cases b <;> simp [same]
  | .binary a, b => by cases b <;> simp [same]
  | .bool a, b => by cases b <;> simp [same]
  | .null a, b => by cases b <;> simp [same]
  | .list a, b => by cases b <;> simp [same, sameItems_iff a]
  | .map a, b => by cases b <;> simp [same, sameEntries_iff a]

theorem sameItems_iff : (a b : List AttributeValue) → (sameItems a b = true ↔ a = b)
  | [], b => by cases b <;> simp [sameItems]
  | a :: as, b => by cases b <;> simp [sameItems, same_iff a, sameItems_iff as]

theorem sameEntries_iff :
    (a b : List (String × AttributeValue)) → (sameEntries a b = true ↔ a = b)
  | [], b => by cases b <;> simp [sameEntries]
  | (k, a) :: as, b => by
    rcases b with _ | ⟨⟨l, b⟩, bs⟩
    · simp [sameEntries]
    · simp [sameEntries, same_iff a b, sameEntries_iff as bs, and_assoc]

end

instance : DecidableEq AttributeValue := fun a b => decidable_of_iff _ (same_iff a b)

/-- Entries of maps are in strict key order, at every depth. -/
inductive Canonical : AttributeValue → Prop
  | string (text : String) : Canonical (.string text)
  | number (text : String) : Canonical (.number text)
  | binary (base64 : String) : Canonical (.binary base64)
  | bool (b : Bool) : Canonical (.bool b)
  | null (b : Bool) : Canonical (.null b)
  | list (items : List AttributeValue) (each : ∀ v ∈ items, Canonical v) :
      Canonical (.list items)
  | map (entries : List (String × AttributeValue)) (sorted : Entries.Sorted entries)
      (each : ∀ e ∈ entries, Canonical e.2) : Canonical (.map entries)

mutual

/-- A value as messages show it. -/
def shown : AttributeValue → String
  | .string s => "S(" ++ quoted s ++ ")"
  | .number n => "N(" ++ quoted n ++ ")"
  | .binary b => "B(" ++ quoted b ++ ")"
  | .bool b => if b then "Bool(true)" else "Bool(false)"
  | .null b => if b then "Null(true)" else "Null(false)"
  | .list [] => "L([])"
  | .list (first :: rest) => "L([" ++ shown first ++ shownItems rest ++ "])"
  | .map [] => "M(\x7b\x7d)"
  | .map ((key, value) :: rest) =>
    "M(\x7b" ++ quoted key ++ ": " ++ shown value ++ shownEntries rest ++ "\x7d)"

def shownItems : List AttributeValue → String
  | [] => ""
  | v :: rest => ", " ++ shown v ++ shownItems rest

def shownEntries : List (String × AttributeValue) → String
  | [] => ""
  | (key, v) :: rest => ", " ++ quoted key ++ ": " ++ shown v ++ shownEntries rest

end

end AttributeValue

end RecordStore.Wire
