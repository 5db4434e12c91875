/-
RecordStore.Json.Skip -- passing over a value that nobody asked for

A value that is not read must still be well formed, but it may nest to any
depth, and its numbers and escaped surrogates are not evaluated.  The open
brackets are kept on a stack; a comma commits to another item, so a bracket that
closes right after it is refused as a missing value or key.
-/
import RecordStore.Json.Scan

namespace RecordStore.Json

set_option autoImplicit false

open RecordStore.Number

/-- Passes over a string whose opening quote has been read. -/
def skipStringFrom : (fuel : Nat) → List Char → Except Cause (List Char)
  | 0, _ => .error .endInString
  | _ + 1, [] => .error .endInString
  | _ + 1, '"' :: rest => .ok rest
  | _ + 1, ['\\'] => .error .endInString
  | fuel + 1, '\\' :: 'u' :: rest =>
    match scanHex4 rest with
    | .ok (_, rest) => skipStringFrom fuel rest
    | .error cause => .error cause
  | fuel + 1, '\\' :: c :: rest =>
    if ['"', '\\', '/', 'b', 'f', 'n', 'r', 't'].contains c then skipStringFrom fuel rest
    else .error .invalidEscape
  | fuel + 1, c :: rest =>
    if c.toNat < 32 then .error .controlCharacter else skipStringFrom fuel rest

def skipString (cs : List Char) : Except Cause (List Char) :=
  skipStringFrom (cs.length + 1) cs

/-- At least one digit. -/
def skipDigits : List Char → Except Cause (List Char)
  | c :: rest => if isDigit c then .ok (rest.dropWhile isDigit) else .error .invalidNumber
  | [] => .error .invalidNumber

/-- The exponent after its letter. -/
def skipExponent : List Char → Except Cause (List Char)
  | '+' :: rest => skipDigits rest
  | '-' :: rest => skipDigits rest
  | cs => skipDigits cs

/-- What may follow the whole part of a number. -/
def skipAfterWhole : List Char → Except Cause (List Char)
  | '.' :: rest => do
    match ← skipDigits rest with
    | 'e' :: rest => skipExponent rest
    | 'E' :: rest => skipExponent rest
    | rest => .ok rest
  | 'e' :: rest => skipExponent rest
  | 'E' :: rest => skipExponent rest
  | cs => .ok cs

/-- Passes over a number after its sign. -/
def skipNumber : List Char → Except Cause (List Char)
  | '0' :: c :: rest => if isDigit c then .error .invalidNumber else skipAfterWhole (c :: rest)
  | cs => do skipAfterWhole (← skipDigits cs)

inductive Bracket
  | square
  | curly
  deriving DecidableEq

/-- What the skipped text is about to hold. -/
inductive Stage
  /-- A value. -/
  | value
  /-- The first item, or the end, of the innermost bracket. -/
  | first
  /-- A comma, or the end, of the innermost bracket. -/
  | next

/-- A key and its colon, at the start of a member. -/
def skipKey (cs : List Char) : Except Cause (List Char) :=
  match skipSpace cs with
  | '"' :: rest => do scanColon (← skipString rest)
  | _ :: _ => .error .keyMustBeString
  | [] => .error .endInObject

/-- Passes over what remains inside the open brackets, innermost first. -/
def skipFrom : (fuel : Nat) → List Bracket → Stage → List Char → Except Cause (List Char)
  | 0, _, _, _ => .error .endInValue
  | fuel + 1, stack, .value, cs =>
    match skipSpace cs with
    | [] => .error .endInValue
    | 'n' :: rest => do skipFrom fuel stack .next (← scanIdent ['u', 'l', 'l'] rest)
    | 't' :: rest => do skipFrom fuel stack .next (← scanIdent ['r', 'u', 'e'] rest)
    | 'f' :: rest => do skipFrom fuel stack .next (← scanIdent ['a', 'l', 's', 'e'] rest)
    | '-' :: rest => do skipFrom fuel stack .next (← skipNumber rest)
    | '"' :: rest => do skipFrom fuel stack .next (← skipString rest)
    | '[' :: rest => skipFrom fuel (.square :: stack) .first rest
    | '\x7b' :: rest => skipFrom fuel (.curly :: stack) .first rest
    | c :: rest =>
      if isDigit c then do skipFrom fuel stack .next (← skipNumber (c :: rest))
      else .error .expectedValue
  | _ + 1, [], _, cs => .ok cs
  | fuel + 1, .square :: stack, stage, cs =>
    match skipSpace cs, stage with
    | ']' :: rest, _ => skipFrom fuel stack .next rest
    | ',' :: rest, .next => skipFrom fuel (.square :: stack) .value rest
    | [], _ => .error .endInList
    | _, .next => .error .expectedCommaOrBracket
    | cs, _ => skipFrom fuel (.square :: stack) .value cs
  | fuel + 1, .curly :: stack, stage, cs =>
    match skipSpace cs, stage with
    | '\x7d' :: rest, _ => skipFrom fuel stack .next rest
    | ',' :: rest, .next => do skipFrom fuel (.curly :: stack) .value (← skipKey rest)
    | [], _ => .error .endInObject
    | _, .next => .error .expectedCommaOrBrace
    | cs, _ => do skipFrom fuel (.curly :: stack) .value (← skipKey cs)

/-- Passes over one value. -/
def skipValue (cs : List Char) : Except Cause (List Char) :=
  skipFrom (2 * cs.length + 2) [] .value cs

end RecordStore.Json
