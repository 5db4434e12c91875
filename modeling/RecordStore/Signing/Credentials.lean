/-
RecordStore.Signing.Credentials -- who signs a request
-/
import RecordStore.Environment
import RecordStore.Text.Quoted

namespace RecordStore.Signing

set_option autoImplicit false

open RecordStore.Text

structure Credentials where
  id : String
  secret : String
  token? : Option String
  deriving DecidableEq

namespace Credentials

/-- The credentials of the environment; an empty token is none. -/
def ofEnvironment? (env : Environment) : Option Credentials := do
  return ⟨← env.text? "AWS_ACCESS_KEY_ID", ← env.text? "AWS_SECRET_ACCESS_KEY",
    env.nonempty? "AWS_SESSION_TOKEN"⟩

/-- Credentials as messages show them: without what must stay secret. -/
def shown (c : Credentials) : String :=
  let redacted := quoted "<redacted>"
  "Credentials \x7b access_key_id: " ++ quoted c.id ++ ", secret_access_key: " ++ redacted
    ++ ", session_token: " ++ (if c.token?.isSome then "Some(" ++ redacted ++ ")" else "None")
    ++ " \x7d"

end Credentials

end RecordStore.Signing
