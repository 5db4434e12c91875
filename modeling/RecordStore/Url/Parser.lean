/-
RecordStore.Url.Parser -- reading URLs

Controls and blanks around a URL, and tabs and line ends within, count for
nothing.  A text without a scheme is refused, since there is nothing that it
could be relative to.  URLs of the well-known schemes have a host, whatever
slashes follow the scheme; only file URLs may do without one.
-/
import RecordStore.Url.Basic
import RecordStore.Url.Path

namespace RecordStore.Url

set_option autoImplicit false

/-- The characters of a text that count. -/
def significant (text : String) : List Char :=
  let isOuter (c : Char) : Bool := c.toNat ≤ 0x20
  let inner := ((text.toList.dropWhile isOuter).reverse.dropWhile isOuter).reverse
  inner.filter fun c => !(c == '\t' || c == '\n' || c == '\r')

def isSchemeChar (c : Char) : Bool := c.isAlphanum || c == '+' || c == '-' || c == '.'

/-- The scheme in small letters, and what follows its colon. -/
def readScheme : List Char → Except Fault (String × List Char)
  | c :: rest =>
    let cs := c :: rest
    match c.isAlpha, cs.dropWhile isSchemeChar with
    | true, ':' :: after =>
      .ok (String.ofList ((cs.takeWhile isSchemeChar).map Char.toLower), after)
    | _, _ => .error .relativeWithoutBase
  | [] => .error .relativeWithoutBase

/-- Name and password, encoded. -/
def readUserinfo (cs : List Char) : String × String :=
  let encode (part : List Char) := String.ofList (percentEncode .userinfo part)
  (encode (cs.takeWhile (· ≠ ':')), encode (cs.dropWhile (· ≠ ':')).tail)

/-- The text of a host, which ends with a colon outside brackets. -/
def takeHost (inBrackets : Bool) : List Char → List Char × List Char
  | [] => ([], [])
  | c :: rest =>
    if c == ':' && !inBrackets then ([], c :: rest)
    else
      let (host, rest) := takeHost (c == '[' || (inBrackets && c != ']')) rest
      (c :: host, rest)

/-- The host, which only URLs of other than the well-known schemes may do without. -/
def readHost (kind : SchemeKind) (cs : List Char) : Except Fault (Option Host) :=
  if kind.isSpecial then
    if cs.isEmpty then .error .emptyHost else (Host.readSpecial cs).map some
  else if cs.isEmpty then .ok none
  else (Host.readOpaque cs).map some

/-- The port after a colon, and what follows it. -/
def readPort (kind : SchemeKind) (cs : List Char) : Except Fault (Option Nat × List Char) :=
  let digits := cs.takeWhile Number.isDigit
  let rest := cs.dropWhile Number.isDigit
  let port := Number.ofDigits 0 digits
  if 65535 < port then .error .invalidPort
  else if rest.isEmpty || rest.head? = some '\\' then
    .ok (if digits.isEmpty || kind = .special port then none else some port, rest)
  else .error .invalidPort

/-- The text of an authority, parted at its last at-sign. -/
def splitUserinfo (cs : List Char) : Option (List Char) × List Char :=
  if cs.contains '@' then
    (some (cs.reverse.dropWhile (· ≠ '@')).tail.reverse, (cs.reverse.takeWhile (· ≠ '@')).reverse)
  else (none, cs)

/-- An authority, and what follows it. -/
def readAuthority (kind : SchemeKind) (cs : List Char) : Except Fault (Authority × List Char) := do
  let after := cs.dropWhile fun c => !kind.endsAuthority c
  let (userinfo?, cs) := splitUserinfo (cs.takeWhile fun c => !kind.endsAuthority c)
  if userinfo? = some [] && cs.isEmpty && !after.isEmpty then .error .emptyHost
  else
    let (username, password) := readUserinfo (userinfo?.getD [])
    let (hostText, cs) := takeHost false cs
    let host? ← readHost kind hostText
    let (port?, cs) ← match cs with
      | ':' :: cs => if host?.isNone then .error .emptyHost else readPort kind cs
      | cs => pure (none, cs)
    if host?.isNone && !(username.isEmpty && password.isEmpty) then .error .emptyHost
    else .ok (⟨username, password, host?, port?⟩, cs ++ after)

/-- A URL whose path has been read, with the query and the fragment that follow. -/
def withRest (kind : SchemeKind) (scheme : String) (authority? : Option Authority)
    (path : List Char) (cs : List Char) : Url :=
  let beforeFragment := cs.takeWhile (· ≠ '#')
  let encode (set : CharSet) (part : List Char) := String.ofList (percentEncode set part)
  { scheme, authority?
    path := String.ofList path
    query? := match beforeFragment with
      | '?' :: query => some (encode (if kind.isSpecial then .specialQuery else .query) query)
      | _ => none
    fragment? := match cs.dropWhile (· ≠ '#') with
      | _ :: fragment => some (encode .fragment fragment)
      | [] => none }

/-- What ends a path. -/
def endsPath (c : Char) : Bool := c == '?' || c == '#'

/-- The text of a path without its first slash, and what follows the path. -/
def splitPath (kind : SchemeKind) (cs : List Char) : List Char × List Char :=
  let path := cs.takeWhile fun c => !endsPath c
  let path := match path with
    | c :: rest => if kind.isSlash c then rest else path
    | [] => []
  (path, cs.dropWhile fun c => !endsPath c)

/-- A URL of a well-known scheme that needs a host. -/
def readHosted (scheme : String) (kind : SchemeKind) (cs : List Char) : Except Fault Url := do
  let (authority, cs) ← readAuthority kind (cs.dropWhile kind.isSlash)
  let (path, rest) := splitPath kind cs
  .ok (withRest kind scheme (some authority) (readPath kind path).path rest)

/-- The host of a file URL; the local one is none. -/
def readFileHost (cs : List Char) : Except Fault (Option Host) :=
  if cs.isEmpty then .ok none
  else do
    let host ← Host.readSpecial cs
    .ok (if host = .domain "localhost" then none else some host)

/-- A file URL.  A host before a drive letter is passed over, and so is a missing one. -/
def readFile (cs : List Char) : Except Fault Url := do
  let kind := SchemeKind.file
  let (host?, cs) ← match cs with
    | a :: b :: rest =>
      if kind.isSlash a && kind.isSlash b then
        let host := rest.takeWhile fun c => !kind.endsAuthority c
        if isDriveLetter host then pure (none, rest)
        else do pure (← readFileHost host, rest.dropWhile fun c => !kind.endsAuthority c)
      else pure (none, cs)
    | cs => pure (none, cs)
  let (path, rest) := splitPath kind cs
  let reader := readPath kind path
  let host? := if reader.onDrive then none else host?
  .ok (withRest kind "file" (some ⟨"", "", host?, none⟩) reader.path rest)

/-- A URL of any other scheme. -/
def readOther (scheme : String) (cs : List Char) : Except Fault Url :=
  let kind := SchemeKind.other
  match cs with
  | '/' :: '/' :: cs => do
    let (authority, cs) ← readAuthority kind cs
    let (path, rest) := splitPath kind cs
    let path := if cs.length = rest.length then [] else (readPath kind path).path
    .ok (withRest kind scheme (some authority) path rest)
  | '/' :: _ =>
    let (path, rest) := splitPath kind cs
    .ok (withRest kind scheme none (readPath kind path).path rest)
  | cs =>
    .ok (withRest kind scheme none (percentEncode .controls (cs.takeWhile fun c => !endsPath c))
      (cs.dropWhile fun c => !endsPath c))

/-- The URL that a text denotes. -/
def parse (text : String) : Except Fault Url := do
  let (scheme, cs) ← readScheme (significant text)
  match SchemeKind.ofScheme scheme with
  | .special port => readHosted scheme (.special port) cs
  | .file => readFile cs
  | .other => readOther scheme cs

end RecordStore.Url
