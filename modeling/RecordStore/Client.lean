/-
RecordStore.Client -- the clients that a store can be built over

A client is the emulator, a script of prepared answers, or a remote service.
The emulator takes its latency for every answer.  A script hands out its turns in
the order in which requests leave, and refuses every request after the last one.
-/
import RecordStore.Emulator
import RecordStore.Http
import RecordStore.Timeline

namespace RecordStore

set_option autoImplicit false

open RecordStore.Wire RecordStore.Signing

/-- What a turn of a script gives. -/
inductive Prepared
  /-- The answer never comes: whoever was to give it is gone. -/
  | lost
  /-- A response as protocol JSON. -/
  | text (json : String)
  | failure (error : WireError)
  deriving DecidableEq

/-- One turn of a script: how long it takes, and what it gives. -/
structure Turn where
  delay : Nat
  prepared : Prepared
  deriving DecidableEq

/-- A remote service, with the way to it. -/
structure Remote where
  endpoint : Url
  region : String
  credentials : Credentials
  transport : Http.Post → Option Http.Response

inductive Client
  | emulator (e : Emulator)
  | script (turns : List Turn)
  | remote (r : Remote)

namespace Prepared

/-- The outcome of a request that gets this turn. -/
def outcome (r : Request) : Prepared → Option (Except WireError r.Response)
  | .lost => none
  | .text json => some ((Json.Reader.parse r.readResponse json).mapError .serialization)
  | .failure error => some (.error error)

end Prepared

namespace Client

/-- An exchange whose outcome is settled when it begins. -/
def settled {r : Request} (delay : Nat) (outcome : Option (Except WireError r.Response)) :
    Exchange Client r :=
  ⟨delay, fun c => (outcome, c)⟩

/-- An exchange with the emulator, which takes effect when its latency is over. -/
def emulated (latency : Nat) (r : Request) : Exchange Client r where
  delay := latency
  complete
    | .emulator e =>
      let (outcome, e) := e.complete r
      (some outcome, .emulator e)
    | other => (none, other)

/-- How a request leaves at a time of day. -/
def dispatch (time : Timestamp) (r : Request) : Client → Exchange Client r × Client
  | .emulator e => (emulated e.latency r, .emulator (e.noteCall r))
  | .script [] => (settled 0 (some (.error (.injected "script exhausted"))), .script [])
  | .script (turn :: rest) => (settled turn.delay (turn.prepared.outcome r), .script rest)
  | .remote service =>
    (settled 0 (some (Http.exchange service.credentials service.region service.endpoint
      service.transport time r)), .remote service)

/-- The clients as ones whose answers take time. -/
def slow : SlowClient Client := ⟨dispatch⟩

end Client

end RecordStore
