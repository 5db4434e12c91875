/-
RecordStore.Url.Path -- hierarchical paths

A path is read segment by segment.  A segment of one dot adds nothing, and one of
two dots takes the last segment away, but never the root and never the drive
letter at the start of a file path.  All other segments are kept as they are,
with what must not stand in a path encoded.
-/
import RecordStore.Text.Pieces
import RecordStore.Url.Percent

namespace RecordStore.Url

set_option autoImplicit false

open RecordStore.Text

/-- What the scheme says about the rest of a URL. -/
inductive SchemeKind
  | special (port : Nat)
  | file
  | other
  deriving DecidableEq

namespace SchemeKind

def ofScheme (scheme : String) : SchemeKind :=
  if scheme = "http" ∨ scheme = "ws" then .special 80
  else if scheme = "https" ∨ scheme = "wss" then .special 443
  else if scheme = "ftp" then .special 21
  else if scheme = "file" then .file
  else .other

/-- One of the well-known schemes, for which a backslash is a slash. -/
def isSpecial : SchemeKind → Bool
  | .other => false
  | _ => true

def isSlash (kind : SchemeKind) (c : Char) : Bool :=
  c == '/' || (kind.isSpecial && c == '\\')

/-- What ends an authority. -/
def endsAuthority (kind : SchemeKind) (c : Char) : Bool :=
  kind.isSlash c || c == '?' || c == '#'

end SchemeKind

/-- A letter and a colon or a bar. -/
def isDriveLetter : List Char → Bool
  | [c, mark] => c.isAlpha && (mark == ':' || mark == '|')
  | _ => false

/-- A letter and a colon. -/
def isPlainDriveLetter : List Char → Bool
  | [c, mark] => c.isAlpha && mark == ':'
  | _ => false

/-- A drive letter and nothing more of its segment. -/
def startsWithDriveLetter : List Char → Bool
  | c :: mark :: rest => isDriveLetter [c, mark] && (match rest with
    | [] => true
    | next :: _ => ['/', '\\', '?', '#'].contains next)
  | _ => false

def isOneDot (segment : List Char) : Bool :=
  [['.'], ['%', '2', 'e']].contains (segment.map Char.toLower)

def isTwoDots (segment : List Char) : Bool :=
  [['.', '.'], ['.', '%', '2', 'e'], ['%', '2', 'e', '.'], ['%', '2', 'e', '%', '2', 'e']].contains
    (segment.map Char.toLower)

/-- What follows the last slash of a path. -/
def lastSegment (path : List Char) : List Char :=
  (path.reverse.takeWhile (· ≠ '/')).reverse

/-- The path up to its last slash. -/
def toLastSlash (path : List Char) : List Char :=
  (path.reverse.dropWhile (· ≠ '/')).reverse

/-- A path without the slash at its end, unless that is the root or follows a drive letter. -/
def withoutLastSlash (path : List Char) : List Char :=
  if path.getLast? = some '/' then
    let before := path.dropLast
    if before.contains '/' && !startsWithDriveLetter (lastSegment before ++ ['/']) then before
    else path
  else path

/-- A path without its last segment. -/
def parentPath (kind : SchemeKind) (path : List Char) : List Char :=
  let path := withoutLastSlash path
  if kind = .file && isPlainDriveLetter (lastSegment path) then path else toLastSlash path

def withLastSlash (path : List Char) : List Char :=
  if path.getLast? = some '/' then path else path ++ ['/']

/-- A path being read, and whether it begins with a drive letter. -/
structure PathReader where
  path : List Char
  onDrive : Bool

/-- One segment, and whether a slash follows it. -/
def PathReader.add (kind : SchemeKind) (r : PathReader) (segment : List Char) (slash : Bool) :
    PathReader :=
  let ending := if slash then ['/'] else []
  if isTwoDots segment then
    let path := parentPath kind r.path
    { r with path := if slash then withLastSlash path else path }
  else if isOneDot segment then { r with path := withLastSlash r.path }
  else if kind = .file && r.path == ['/'] && isDriveLetter segment then
    ⟨r.path ++ segment.take 1 ++ [':'] ++ ending, true⟩
  else { r with path := r.path ++ percentEncode .path segment ++ ending }

def PathReader.addAll (kind : SchemeKind) (r : PathReader) : List (List Char) → PathReader
  | [] => r
  | [last] => r.add kind last false
  | segment :: rest => (r.add kind segment true).addAll kind rest

/-- The path that the text after its first slash gives. -/
def readPath (kind : SchemeKind) (cs : List Char) : PathReader :=
  let r := PathReader.addAll kind ⟨['/'], false⟩ (splitAt kind.isSlash cs)
  if kind = .file then { r with path := '/' :: r.path.dropWhile (· == '/') } else r

end RecordStore.Url
