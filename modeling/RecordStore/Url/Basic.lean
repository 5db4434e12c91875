/-
RecordStore.Url.Basic -- URLs and their text

A URL keeps its parts as they stand in its text, that is with what must not stand
there encoded.  A port that is the usual one of the scheme is not kept.  A path
that begins with two slashes, in a URL without an authority, is written after a
slash and a dot, so that it does not read as an authority.
-/
import RecordStore.Url.Host

namespace RecordStore

set_option autoImplicit false

namespace Url

/-- Who is asked, and as whom.  The host may be missing, but then so is all else. -/
structure Authority where
  username : String
  password : String
  host? : Option Host
  port? : Option Nat
  deriving DecidableEq

/-- Name and password before the host, if there are any. -/
def Authority.userinfo (a : Authority) : String :=
  if a.username.isEmpty && a.password.isEmpty then ""
  else a.username ++ (if a.password.isEmpty then "" else ":" ++ a.password) ++ "@"

/-- Host and port. -/
def hostAndPort (host? : Option Host) (port? : Option Nat) : String :=
  (host?.map Host.text).getD "" ++
    (match port? with
    | some port => ":" ++ Number.integerText port
    | none => "")

def Authority.text (a : Authority) : String :=
  "//" ++ a.userinfo ++ hostAndPort a.host? a.port?

end Url

structure Url where
  scheme : String
  authority? : Option Url.Authority
  path : String
  query? : Option String
  fragment? : Option String
  deriving DecidableEq

namespace Url

/-- The text of the host; an empty host is none. -/
def host? (u : Url) : Option String :=
  u.authority?.bind fun a => a.host?.map Host.text

/-- The port, if it is not the usual one. -/
def port? (u : Url) : Option Nat := u.authority?.bind (·.port?)

/-- The text of a URL. -/
def text (u : Url) : String :=
  u.scheme ++ ":"
    ++ (match u.authority? with
      | some a => a.text
      | none => if u.path.startsWith "//" then "/." else "")
    ++ u.path
    ++ (match u.query? with
      | some q => "?" ++ q
      | none => "")
    ++ (match u.fragment? with
      | some f => "#" ++ f
      | none => "")

end Url

end RecordStore
