/-
RecordStore.Proofs.Wire.Protocol -- messages survive being protocol JSON

A typed value is recovered from the object that names its type, by induction over
the value (`recovers_attribute`); its braces and those of the list or map inside
take the two brackets that reading it takes.  Each message is then a structure
whose fields are recovered.  The eight kinds of messages are taken together
(`Message`), so that what holds of the protocol is said once.
-/
import RecordStore.Proofs.Json.Reading
import RecordStore.Wire.Codec

namespace RecordStore.Wire

set_option autoImplicit false

open RecordStore.Json

/-! ## Typed values -/

theorem readAttribute_succ (levels : Nat) :
    readAttribute (levels + 1) =
      scanTagged typeNames (some (scanContent (Reader.below readAttribute levels))) := by
  cases levels <;> rfl

theorem scanContent_list (levels : Nat) :
    scanContent (Reader.below readAttribute levels) "L" =
      ((readList readAttribute).map AttributeValue.list) levels := by
  funext cs
  unfold scanContent Reader.map readList
  simp only [String.reduceEq, if_false, if_true]
  cases skipSpace cs with
  | nil => rfl
  | cons c rest =>
    by_cases opens : c = '['
    · subst opens
      rfl
    · simp [opens, bind, Except.bind]

theorem scanContent_map (levels : Nat) :
    scanContent (Reader.below readAttribute levels) "M" =
      ((readEntries readAttribute).map AttributeValue.map) levels := by
  funext cs
  unfold scanContent Reader.map readEntries
  simp only [String.reduceEq, if_false]
  cases skipSpace cs with
  | nil => rfl
  | cons c rest =>
    by_cases opens : c = '\x7b'
    · subst opens
      rfl
    · simp [opens, bind, Except.bind]

/-- A value under the name of its type. -/
theorem recovers_tagged {name : String} (known : name ∈ typeNames) {json : Json}
    {v : AttributeValue}
    (content : ∀ j, json.Reordered j → ∀ levels rest, j.depth ≤ levels →
      scanContent (Reader.below readAttribute levels) name (j.chars ++ rest) = .ok (v, rest)) :
    readAttribute.Recovers (.object [(name, json)]) v := by
  intro j same levels rest fits
  cases same with
  | object perm each =>
    rw [List.singleton_perm] at perm
    subst perm
    cases each with
    | @cons _ _ j' _ _ inner others =>
      cases others
      obtain ⟨levels, rfl⟩ := Nat.exists_eq_succ_of_ne_zero (Nat.ne_zero_of_lt fits)
      have fits' : j'.depth ≤ levels :=
        (Nat.max_le.1 (Nat.le_of_succ_le_succ fits)).1
      have shape : (Json.object [(name, j')]).chars ++ rest =
          '\x7b' :: '"' :: (name.toList.flatMap escapeChar ++ '"' :: ':' ::
            (j'.chars ++ '\x7d' :: rest)) := by
        simp [chars, stringChars, membersChars]
      rw [shape, readAttribute_succ]
      show (scanString (name.toList.flatMap escapeChar ++ '"' :: ':' ::
        (j'.chars ++ '\x7d' :: rest)) >>= fun word =>
          if typeNames.contains word.1 then _ else _) = _
      rw [scanString_flatMap]
      show (if typeNames.contains name then _ else _) = _
      rw [if_pos (List.contains_iff_mem.2 known)]
      show (scanContent (Reader.below readAttribute levels) name (j'.chars ++ '\x7d' :: rest) >>=
        _) = _
      rw [content j' inner levels _ fits']
      rfl

theorem itemsToJson_eq (items : List AttributeValue) :
    AttributeValue.itemsToJson items = items.map AttributeValue.toJson := by
  induction items with
  | nil => rfl
  | cons v rest ih => rw [AttributeValue.itemsToJson, List.map_cons, ih]

theorem entriesToJson_eq (entries : List (String × AttributeValue)) :
    AttributeValue.entriesToJson entries = entries.map fun e => (e.1, e.2.toJson) := by
  induction entries with
  | nil => rfl
  | cons e rest ih =>
    obtain ⟨key, v⟩ := e
    rw [AttributeValue.entriesToJson, List.map_cons, ih]

theorem bracketed_attribute (v : AttributeValue) : v.toJson.Bracketed := by
  cases v <;> exact trivial

/-- A value that opens no bracket of its own. -/
theorem recovers_flat {name : String} (known : name ∈ typeNames) {read : Reader AttributeValue}
    (content : ∀ inner, scanContent inner name = read 0) {json : Json} {v : AttributeValue}
    (recovers : read.Recovers json v) (flat : json.depth = 0) :
    readAttribute.Recovers (.object [(name, json)]) v := by
  apply recovers_tagged known
  intro j same levels rest _
  rw [content]
  exact recovers j same 0 rest (Nat.le_of_eq (same.depth_eq.trans flat))

/-- A typed value is recovered from the object that names its type. -/
theorem recovers_attribute {v : AttributeValue} (canonical : v.Canonical) :
    readAttribute.Recovers v.toJson v := by
  induction canonical with
  | string text =>
    exact recovers_flat (by decide) (fun _ => rfl)
      ((recovers_string text).map AttributeValue.string) rfl
  | number text =>
    exact recovers_flat (by decide) (fun _ => rfl)
      ((recovers_string text).map AttributeValue.number) rfl
  | binary base64 =>
    exact recovers_flat (by decide) (fun _ => rfl)
      ((recovers_string base64).map AttributeValue.binary) rfl
  | bool b =>
    exact recovers_flat (by decide) (fun _ => rfl)
      ((recovers_bool b).map AttributeValue.bool) rfl
  | null b =>
    exact recovers_flat (by decide) (fun _ => rfl)
      ((recovers_bool b).map AttributeValue.null) rfl
  | list items _ ih =>
    have inner := (recovers_list (fun v _ => bracketed_attribute v) ih).map AttributeValue.list
    rw [AttributeValue.toJson, itemsToJson_eq]
    apply recovers_tagged (by decide)
    intro j same levels rest fits
    rw [scanContent_list]
    exact inner j same levels rest fits
  | map entries sorted _ ih =>
    have inner := (recovers_entries sorted ih).map AttributeValue.map
    rw [AttributeValue.toJson, entriesToJson_eq]
    apply recovers_tagged (by decide)
    intro j same levels rest fits
    rw [scanContent_map]
    exact inner j same levels rest fits

/-! ## Parts of messages -/

/-- The values of an item are in their one form. -/
def Item.Canonical (item : Item) : Prop := ∀ e ∈ item.entries, e.2.Canonical

theorem recovers_item {item : Item} (canonical : Item.Canonical item) :
    readItem.Recovers (Item.toJson item) item :=
  recovers_dict fun e member => recovers_attribute (canonical e member)

theorem recovers_items {items : List Item} (canonical : ∀ item ∈ items, Item.Canonical item) :
    (readList readItem).Recovers (.array (items.map Item.toJson)) items :=
  recovers_list (fun _ _ => trivial) fun item member => recovers_item (canonical item member)

/-- Maps from table names are recovered when what they hold is. -/
theorem recovers_dictToJson {α : Type} {read : Reader α} {write : α → Json} {d : Dict α}
    (recovers : ∀ e ∈ d.entries, read.Recovers (write e.2) e.2) :
    (readDict read).Recovers (dictToJson write d) d :=
  recovers_dict recovers

theorem recovers_keyList {k : KeyList} (canonical : ∀ item ∈ k.keys, Item.Canonical item) :
    KeyList.schema.read.Recovers k.toJson k := by
  have whole := Schema.recovers_one KeyList.schema rfl (recovers_items canonical)
  exact whole

theorem recovers_put {item : Item} (canonical : Item.Canonical item) :
    putSchema.read.Recovers (.object [("Item", Item.toJson item)]) item := by
  have whole := Schema.recovers_one putSchema rfl (recovers_item canonical)
  exact whole

/-- A put that is absent contributes no member. -/
theorem recovers_writeEntry {w : WriteEntry}
    (canonical : ∀ item, w.put? = some item → Item.Canonical item) :
    WriteEntry.schema.read.Recovers w.toJson w := by
  obtain ⟨_ | item⟩ := w
  · exact Schema.recovers_absent WriteEntry.schema (by simp [WriteEntry.schema, Field.named])
  · have put := recovers_put (canonical item rfl)
    have whole := Schema.recovers_one WriteEntry.schema rfl (recovers_option put trivial)
    exact whole

/-! ## Messages -/

/-- The kinds of messages: four requests, and what each is answered with. -/
inductive Message
  | itemRead
  | itemFound
  | itemWrite
  | itemWritten
  | batchRead
  | batchFound
  | batchWrite
  | batchWritten
  deriving DecidableEq

namespace Message

/-- What a message of a kind says. -/
@[reducible] def Body : Message → Type
  | itemRead => ItemRead
  | itemFound => ItemFound
  | itemWrite => ItemWrite
  | itemWritten => ItemWritten
  | batchRead => BatchRead
  | batchFound => BatchFound
  | batchWrite => BatchWrite
  | batchWritten => BatchWritten

/-- The protocol form of a message. -/
def toJson : (m : Message) → m.Body → Json
  | itemRead => ItemRead.toJson
  | itemFound => ItemFound.toJson
  | itemWrite => ItemWrite.toJson
  | itemWritten => ItemWritten.toJson
  | batchRead => BatchRead.toJson
  | batchFound => BatchFound.toJson
  | batchWrite => BatchWrite.toJson
  | batchWritten => BatchWritten.toJson

/-- How messages of a kind are read. -/
def schema : (m : Message) → Schema m.Body
  | itemRead => ItemRead.schema
  | itemFound => ItemFound.schema
  | itemWrite => ItemWrite.schema
  | itemWritten => ItemWritten.schema
  | batchRead => BatchRead.schema
  | batchFound => BatchFound.schema
  | batchWrite => BatchWrite.schema
  | batchWritten => BatchWritten.schema

/-- The items of a batch of writes. -/
def written (tables : Dict (List WriteEntry)) : List Item :=
  tables.entries.flatMap fun e => e.2.filterMap (·.put?)

/-- The keys of a batch of reads. -/
def wanted (tables : Dict KeyList) : List Item :=
  tables.entries.flatMap fun e => e.2.keys

/-- The items and keys that a message carries. -/
def items : (m : Message) → m.Body → List Item
  | itemRead, r => [r.key]
  | itemFound, r => r.item?.toList
  | itemWrite, r => [r.item]
  | itemWritten, _ => []
  | batchRead, r => wanted r.tables
  | batchFound, r => r.found.entries.flatMap (·.2) ++ wanted r.unprocessed
  | batchWrite, r => written r.tables
  | batchWritten, r => written r.unprocessed

/-- All maps in a message are in their one form. -/
def Canonical (m : Message) (x : m.Body) : Prop := ∀ item ∈ m.items x, Item.Canonical item

theorem canonical_of_items {m : Message} {x : m.Body} {item : Item} (single : m.items x = [item])
    (canonical : Item.Canonical item) : m.Canonical x := by
  intro other member
  rw [single, List.mem_singleton] at member
  rw [member]
  exact canonical

theorem recovers_wanted {tables : Dict KeyList}
    (canonical : ∀ item ∈ wanted tables, Item.Canonical item) :
    (readDict KeyList.schema.read).Recovers (dictToJson KeyList.toJson tables) tables := by
  apply recovers_dictToJson
  intro e member
  apply recovers_keyList
  intro item key
  exact canonical item (List.mem_flatMap.2 ⟨e, member, key⟩)

theorem recovers_written {tables : Dict (List WriteEntry)}
    (canonical : ∀ item ∈ written tables, Item.Canonical item) :
    (readDict (readList WriteEntry.schema.read)).Recovers (writesToJson tables) tables := by
  apply recovers_dictToJson
  intro e member
  apply recovers_list
  · exact fun w _ => trivial
  · intro w entry
    apply recovers_writeEntry
    intro item put
    exact canonical item
      (List.mem_flatMap.2 ⟨e, member, List.mem_filterMap.2 ⟨w, entry, put⟩⟩)

/-- A message is recovered from its protocol form. -/
theorem recovers (m : Message) {x : m.Body} (canonical : m.Canonical x) :
    m.schema.read.Recovers (m.toJson x) x := by
  cases m with
  | itemRead =>
    have key := recovers_item (canonical x.key (by simp [items]))
    have whole := Schema.recovers_two ItemRead.schema rfl (by decide) rfl
      (Field.recovers_named (recovers_string x.table)) (Field.recovers_named key) fun _ => rfl
    exact whole
  | itemFound =>
    obtain ⟨_ | item⟩ := x
    · exact Schema.recovers_absent ItemFound.schema (by simp [ItemFound.schema, Field.named])
    · have item := recovers_item (canonical item (by simp [items]))
      have whole := Schema.recovers_one ItemFound.schema rfl (recovers_option item trivial)
      exact whole
  | itemWrite =>
    have item := recovers_item (canonical x.item (by simp [items]))
    have whole := Schema.recovers_two ItemWrite.schema rfl (by decide) rfl
      (Field.recovers_named (recovers_string x.table)) (Field.recovers_named item) fun _ => rfl
    exact whole
  | itemWritten =>
    exact Schema.recovers_absent ItemWritten.schema (by simp [ItemWritten.schema])
  | batchRead =>
    have whole := Schema.recovers_one BatchRead.schema rfl (recovers_wanted canonical)
    exact whole
  | batchFound =>
    have found : (readDict (readList readItem)).Recovers
        (dictToJson (fun items => .array (items.map Item.toJson)) x.found) x.found := by
      apply recovers_dictToJson
      intro e member
      apply recovers_items
      intro item there
      exact canonical item (List.mem_append_left _ (List.mem_flatMap.2 ⟨e, member, there⟩))
    have left := recovers_wanted fun item there =>
      canonical item (List.mem_append_right _ there)
    have whole := Schema.recovers_two BatchFound.schema rfl (by decide) rfl
      (Field.recovers_named found) (Field.recovers_named left) fun _ => rfl
    exact whole
  | batchWrite =>
    have whole := Schema.recovers_one BatchWrite.schema rfl (recovers_written canonical)
    exact whole
  | batchWritten =>
    have whole := Schema.recovers_one BatchWritten.schema rfl (recovers_written canonical)
    exact whole

end Message

end RecordStore.Wire
