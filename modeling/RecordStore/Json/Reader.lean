/-
RecordStore.Json.Reader -- reading typed values from JSON text

A reader takes one value from the front of a text and knows how many brackets
may still be opened.  It reads as it goes: a value of the wrong kind is refused
where it starts, before the text after it is looked at.  A structure reads from
an object by name, passing over unknown members, or from an array by position.
-/
import RecordStore.Dict
import RecordStore.Json.Skip

namespace RecordStore.Json

set_option autoImplicit false

open RecordStore.Number

variable {α β σ : Type}

/-- Takes a value from the front of a text. -/
abbrev Scan (α : Type) := List Char → Except Cause (α × List Char)

/-- Takes a value where this many brackets may still be opened. -/
abbrev Reader (α : Type) := (levels : Nat) → Scan α

/-- How many brackets a text may open inside one another. -/
def maxLevels : Nat := 127

/-- The reader inside one more bracket, if one may be opened. -/
def Reader.below (read : Reader α) : (levels : Nat) → Option (Scan α)
  | 0 => none
  | levels + 1 => some (read levels)

/-- The whole text is one value, with blanks around it. -/
def Reader.parse (read : Reader α) (text : String) : Except Cause α := do
  let (value, rest) ← read maxLevels text.toList
  if (skipSpace rest).isEmpty then .ok value else .error .trailingCharacters

/-- The value read, changed. -/
def Reader.map (f : α → β) (read : Reader α) : Reader β := fun levels cs => do
  let (value, rest) ← read levels cs
  .ok (f value, rest)

/-! ## Values of the wrong kind -/

def Found.ofNumeral : Numeral → Found
  | .whole n => .integer n.value
  | .real x => .real x

/-- Why the value at the front is not the one wanted: a broken word comes first. -/
def refuse (wanted : String) : List Char → Cause
  | 'n' :: rest =>
    match scanIdent ['u', 'l', 'l'] rest with
    | .ok _ => .invalidType .null wanted
    | .error cause => cause
  | 't' :: rest =>
    match scanIdent ['r', 'u', 'e'] rest with
    | .ok _ => .invalidType (.bool true) wanted
    | .error cause => cause
  | 'f' :: rest =>
    match scanIdent ['a', 'l', 's', 'e'] rest with
    | .ok _ => .invalidType (.bool false) wanted
    | .error cause => cause
  | '-' :: rest =>
    match scanNumber true rest with
    | .ok (n, _) => .invalidType (.ofNumeral n) wanted
    | .error cause => cause
  | '"' :: rest =>
    match scanString rest with
    | .ok (s, _) => .invalidType (.string s) wanted
    | .error cause => cause
  | '[' :: _ => .invalidType .sequence wanted
  | '\x7b' :: _ => .invalidType .map wanted
  | c :: rest =>
    if isDigit c then
      match scanNumber false (c :: rest) with
      | .ok (n, _) => .invalidType (.ofNumeral n) wanted
      | .error cause => cause
    else .expectedValue
  | [] => .endInValue

/-! ## Single words -/

/-- A string, where `wanted` names what is expected. -/
def stringWanted (wanted : String) : Scan String := fun cs =>
  match skipSpace cs with
  | '"' :: rest => scanString rest
  | cs => .error (refuse wanted cs)

def readString : Reader String := fun _ => stringWanted "a string"

def readBool : Reader Bool := fun _ cs =>
  match skipSpace cs with
  | 't' :: rest => do .ok (true, ← scanIdent ['r', 'u', 'e'] rest)
  | 'f' :: rest => do .ok (false, ← scanIdent ['a', 'l', 's', 'e'] rest)
  | cs => .error (refuse "a boolean" cs)

/-- A number of any kind. -/
def numeralWanted (wanted : String) : Scan Numeral := fun cs =>
  match skipSpace cs with
  | '-' :: rest => scanNumber true rest
  | c :: rest =>
    if isDigit c then scanNumber false (c :: rest) else .error (refuse wanted (c :: rest))
  | [] => .error .endInValue

/-- A whole number between two bounds, whose range has a name. -/
def readInteger (least greatest : Int) (wanted : String) : Reader Int := fun _ cs => do
  match ← numeralWanted wanted cs with
  | (.whole n, rest) =>
    if least ≤ n.value ∧ n.value ≤ greatest then .ok (n.value, rest)
    else .error (.invalidValue (.integer n.value) wanted)
  | (.real x, _) => .error (.invalidType (.real x) wanted)

/-- A double; whole numbers are rounded to one. -/
def readReal : Reader Binary64 := fun _ cs => do
  match ← numeralWanted "f64" cs with
  | (.whole n, rest) =>
    .ok ((Binary64.round (n.value < 0) n.value.natAbs 1).getD Binary64.zero, rest)
  | (.real x, rest) => .ok (x, rest)

/-- Null, or a value. -/
def readOption (read : Reader α) : Reader (Option α) := fun levels cs =>
  match skipSpace cs with
  | 'n' :: rest => do .ok (none, ← scanIdent ['u', 'l', 'l'] rest)
  | cs => read.map some levels cs

/-! ## Lists and objects -/

/-- The items of a list up to its closing bracket, at most `fuel` of them. -/
def scanItems (item : Scan α) : (fuel : Nat) → (first : Bool) → Scan (List α)
  | 0, _, _ => .error .endInList
  | fuel + 1, first, cs =>
    match skipSpace cs with
    | [] => .error .endInList
    | ']' :: rest => .ok ([], rest)
    | ',' :: rest =>
      if first then do
        let (x, rest) ← item (',' :: rest)
        let (xs, rest) ← scanItems item fuel false rest
        .ok (x :: xs, rest)
      else
        match skipSpace rest with
        | [] => .error .endInValue
        | ']' :: _ => .error .trailingComma
        | rest => do
          let (x, rest) ← item rest
          let (xs, rest) ← scanItems item fuel false rest
          .ok (x :: xs, rest)
    | cs =>
      if first then do
        let (x, rest) ← item cs
        let (xs, rest) ← scanItems item fuel false rest
        .ok (x :: xs, rest)
      else .error .expectedCommaOrBracket

/-- The items after an opening bracket; `item` is none when no bracket may be opened. -/
def scanList (item : Option (Scan α)) : Scan (List α) := fun cs =>
  match item with
  | none => .error .recursionLimit
  | some item => scanItems item (cs.length + 1) true cs

def readList (item : Reader α) : Reader (List α) := fun levels cs =>
  match skipSpace cs with
  | '[' :: rest => scanList (item.below levels) rest
  | cs => .error (refuse "a sequence" cs)

/-- The members of an object up to its closing brace.  Each key is handed to `member` together
with the text from the colon on. -/
def scanMembers (member : σ → String → Scan σ) : (fuel : Nat) → (first : Bool) → σ → Scan σ
  | 0, _, _, _ => .error .endInObject
  | fuel + 1, first, state, cs =>
    match skipSpace cs with
    | [] => .error .endInObject
    | '\x7d' :: rest => .ok (state, rest)
    | '"' :: rest =>
      if first then do
        let (key, rest) ← scanString rest
        let (state, rest) ← member state key rest
        scanMembers member fuel false state rest
      else .error .expectedCommaOrBrace
    | ',' :: rest =>
      if first then .error .keyMustBeString
      else
        match skipSpace rest with
        | [] => .error .endInValue
        | '"' :: rest => do
          let (key, rest) ← scanString rest
          let (state, rest) ← member state key rest
          scanMembers member fuel false state rest
        | '\x7d' :: _ => .error .trailingComma
        | _ => .error .keyMustBeString
    | _ => .error (if first then .keyMustBeString else .expectedCommaOrBrace)

/-- An entry list in key order that takes each key's value from `value`. -/
def scanEntry (value : Scan α) (entries : List (String × α)) (key : String) :
    Scan (List (String × α)) := fun cs => do
  let rest ← scanColon cs
  let (x, rest) ← value rest
  .ok (Entries.insert key x entries, rest)

/-- The entries after an opening brace; of a repeated key the last one stays. -/
def scanEntries (value : Option (Scan α)) : Scan (List (String × α)) := fun cs =>
  match value with
  | none => .error .recursionLimit
  | some value => scanMembers (scanEntry value) (cs.length + 1) true [] cs

def readEntries (value : Reader α) : Reader (List (String × α)) := fun levels cs =>
  match skipSpace cs with
  | '\x7b' :: rest => scanEntries (value.below levels) rest
  | cs => .error (refuse "a map" cs)

/-- A map with any keys. -/
def readDict (value : Reader α) : Reader (Dict α) :=
  (readEntries value).map Dict.ofList

/-! ## Structures -/

/-- A field of a structure: its names in text, whether it may be absent, and how it is read into
a value of the structure. -/
structure Field (α : Type) where
  name : String
  aliases : List String
  required : Bool
  read : Reader (α → α)

/-- A field under one name. -/
def Field.named (name : String) (required : Bool) (read : Reader β) (set : β → α → α) : Field α :=
  ⟨name, [], required, read.map set⟩

/-- A structure: its name in messages, the value with every field at its default, its fields. -/
structure Schema (α : Type) where
  title : String
  default : α
  fields : List (Field α)

namespace Schema

/-- How many elements the array form has, in words. -/
def wantedLength (s : Schema α) : String :=
  "struct " ++ s.title ++ " with " ++ integerText s.fields.length ++
    (if s.fields.length = 1 then " element" else " elements")

/-- One member: fields are read once, other members are passed over. -/
def member (s : Schema α) (levels : Nat) (state : α × List String) (key : String) :
    Scan (α × List String) := fun cs =>
  match s.fields.find? fun f => f.name == key || f.aliases.contains key with
  | some f =>
    if state.2.contains f.name then .error (.duplicateField f.name)
    else do
      let rest ← scanColon cs
      let (set, rest) ← f.read levels rest
      .ok ((set state.1, f.name :: state.2), rest)
  | none => do
    let rest ← scanColon cs
    .ok (state, ← skipValue rest)

/-- The first required field that was not read. -/
def missing? (s : Schema α) (seen : List String) : Option String :=
  (s.fields.find? fun f => f.required && !seen.contains f.name).map (·.name)

/-- The object form, after the brace. -/
def scanObject (s : Schema α) (levels : Nat) : Scan α := fun cs => do
  let ((value, seen), rest) ← scanMembers (s.member levels) (cs.length + 1) true (s.default, []) cs
  match s.missing? seen with
  | some name => .error (.missingField name)
  | none => .ok (value, rest)

/-- Fields by position: what the fields set, and the text after the last item that was read. -/
def scanPositions (s : Schema α) (levels : Nat) :
    List (Field α) → (position : Nat) → α → Scan α
  | [], _, value, cs => .ok (value, cs)
  | f :: fields, position, value, cs => do
    let next ← match skipSpace cs with
      | [] => .error .endInList
      | ']' :: _ => pure none
      | ',' :: rest =>
        if position = 0 then pure (some (',' :: rest))
        else
          match skipSpace rest with
          | [] => .error .endInValue
          | ']' :: _ => .error .trailingComma
          | rest => pure (some rest)
      | cs => if position = 0 then pure (some cs) else .error .expectedCommaOrBracket
    match next with
    | some cs => do
      let (set, rest) ← f.read levels cs
      scanPositions s levels fields (position + 1) (set value) rest
    | none =>
      if f.required then .error (.invalidLength position s.wantedLength)
      else scanPositions s levels fields (position + 1) value cs

/-- The end of the array form. -/
def scanPositionsEnd (cs : List Char) : Except Cause (List Char) :=
  match skipSpace cs with
  | ']' :: rest => .ok rest
  | ',' :: rest =>
    match skipSpace rest with
    | ']' :: _ => .error .trailingComma
    | _ => .error .trailingCharacters
  | _ :: _ => .error .trailingCharacters
  | [] => .error .endInList

/-- A structure in either form. -/
def read (s : Schema α) : Reader α := fun levels cs =>
  match skipSpace cs, levels with
  | '[' :: rest, levels + 1 => do
    let (value, rest) ← s.scanPositions levels s.fields 0 s.default rest
    .ok (value, ← scanPositionsEnd rest)
  | '\x7b' :: rest, levels + 1 => s.scanObject levels rest
  | '[' :: _, 0 => .error .recursionLimit
  | '\x7b' :: _, 0 => .error .recursionLimit
  | cs, _ => .error (refuse ("struct " ++ s.title) cs)

end Schema

/-! ## Tagged values -/

/-- A value under the name of its variant.  `content` reads what belongs to a name, one bracket
deeper, and is none when no bracket may be opened. -/
def scanTagged (known : List String) (content : Option (String → Scan α)) : Scan α := fun cs =>
  match skipSpace cs with
  | '\x7b' :: rest =>
    match content with
    | none => .error .recursionLimit
    | some content => do
      let (name, rest) ← match skipSpace rest with
        | [] => .error .endInValue
        | rest => stringWanted "variant identifier" rest
      if known.contains name then
        let rest ← scanColon rest
        let (value, rest) ← content name rest
        match skipSpace rest with
        | '\x7d' :: rest => .ok (value, rest)
        | _ :: _ => .error .expectedValue
        | [] => .error .endInObject
      else .error (.unknownVariant name known)
  | '"' :: rest => do
    let (name, _) ← scanString rest
    if known.contains name then .error (.invalidType .unitVariant "newtype variant")
    else .error (.unknownVariant name known)
  | _ :: _ => .error .expectedValue
  | [] => .error .endInValue

/-! ## Values of any kind -/

/-- A value of any kind, where `inner` reads what stands one bracket deeper. -/
def scanAny (inner : Option (Scan Json)) : Scan Json := fun cs =>
  match skipSpace cs with
  | [] => .error .endInValue
  | 'n' :: rest => do .ok (.null, ← scanIdent ['u', 'l', 'l'] rest)
  | 't' :: rest => do .ok (.bool true, ← scanIdent ['r', 'u', 'e'] rest)
  | 'f' :: rest => do .ok (.bool false, ← scanIdent ['a', 'l', 's', 'e'] rest)
  | '-' :: rest => do
    let (n, rest) ← scanNumber true rest
    .ok (.number n, rest)
  | '"' :: rest => do
    let (s, rest) ← scanString rest
    .ok (.string s, rest)
  | '[' :: rest => do
    let (items, rest) ← scanList inner rest
    .ok (.array items, rest)
  | '\x7b' :: rest => do
    let (members, rest) ← scanEntries inner rest
    .ok (.object members, rest)
  | c :: rest =>
    if isDigit c then do
      let (n, rest) ← scanNumber false (c :: rest)
      .ok (.number n, rest)
    else .error .expectedValue

/-- Any JSON value. -/
def readAny : Reader Json
  | 0 => scanAny none
  | levels + 1 => scanAny (some (readAny levels))

/-- The JSON value that a text holds. -/
def parse (text : String) : Except Cause Json := Reader.parse readAny text

end RecordStore.Json
