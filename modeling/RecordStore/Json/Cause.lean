/-
RecordStore.Json.Cause -- why JSON text is refused

Causes are of two kinds: the text breaks the grammar, or it is well formed so
far and holds something else than what is wanted at this place.  `Cause.message`
gives the wording of each.  A value that cannot be written as JSON may also give
a cause in words of its own (`Cause.reported`).
-/
import RecordStore.Json.Decimal
import RecordStore.Json.Position
import RecordStore.Text.Quoted

namespace RecordStore.Json

set_option autoImplicit false

open RecordStore.Number RecordStore.Text

/-- What stood where something else was wanted. -/
inductive Found
  | null
  | bool (b : Bool)
  | integer (i : Int)
  | real (x : Binary64)
  | string (s : String)
  | sequence
  | map
  | unitVariant
  deriving DecidableEq

inductive Cause
  | endInValue
  | endInList
  | endInObject
  | endInString
  | expectedValue
  | expectedIdent
  | expectedColon
  | expectedCommaOrBracket
  | expectedCommaOrBrace
  | keyMustBeString
  | trailingComma
  | trailingCharacters
  | invalidNumber
  | numberOutOfRange
  | invalidEscape
  | unexpectedEndOfEscape
  | loneSurrogate
  | controlCharacter
  | recursionLimit
  | invalidType (found : Found) (wanted : String)
  | invalidValue (found : Found) (wanted : String)
  | invalidLength (length : Nat) (wanted : String)
  | missingField (name : String)
  | duplicateField (name : String)
  | unknownVariant (name : String) (known : List String)
  | other (text : String)
  deriving DecidableEq

/-- Text in backquotes, which mark what comes from the document or the schema. -/
def marked (s : String) : String :=
  let mark := String.ofList [Char.ofNat 0x60]
  mark ++ s ++ mark

def Found.message : Found → String
  | .null => "null"
  | .bool b => "boolean " ++ marked (if b then "true" else "false")
  | .integer i => "integer " ++ marked (integerText i)
  | .real x => "floating point " ++ marked (String.ofList (floatChars x))
  | .string s => "string " ++ quoted s
  | .sequence => "sequence"
  | .map => "map"
  | .unitVariant => "unit variant"

def Cause.message : Cause → String
  | .endInValue => "EOF while parsing a value"
  | .endInList => "EOF while parsing a list"
  | .endInObject => "EOF while parsing an object"
  | .endInString => "EOF while parsing a string"
  | .expectedValue => "expected value"
  | .expectedIdent => "expected ident"
  | .expectedColon => "expected " ++ marked ":"
  | .expectedCommaOrBracket => "expected " ++ marked "," ++ " or " ++ marked "]"
  | .expectedCommaOrBrace => "expected " ++ marked "," ++ " or " ++ marked "\x7d"
  | .keyMustBeString => "key must be a string"
  | .trailingComma => "trailing comma"
  | .trailingCharacters => "trailing characters"
  | .invalidNumber => "invalid number"
  | .numberOutOfRange => "number out of range"
  | .invalidEscape => "invalid escape"
  | .unexpectedEndOfEscape => "unexpected end of hex escape"
  | .loneSurrogate => "lone leading surrogate in hex escape"
  | .controlCharacter => "control character (\\u0000-\\u001F) found while parsing a string"
  | .recursionLimit => "recursion limit exceeded"
  | .invalidType found wanted => "invalid type: " ++ found.message ++ ", expected " ++ wanted
  | .invalidValue found wanted => "invalid value: " ++ found.message ++ ", expected " ++ wanted
  | .invalidLength length wanted =>
    "invalid length " ++ integerText length ++ ", expected " ++ wanted
  | .missingField name => "missing field " ++ marked name
  | .duplicateField name => "duplicate field " ++ marked name
  | .unknownVariant name known =>
    "unknown variant " ++ marked name ++ ", expected one of "
      ++ ", ".intercalate (known.map marked)
  | .other text => text

/-- A cause in the words of a value that refuses to be written. -/
def Cause.reported (text : String) : Cause := .other (Position.restated text)

end RecordStore.Json
