/-
RecordStore.Settings -- what a client is configured with

Settings come from a document, in which every member may be left out, or from the
environment.  The region has a last resort.  The environment is asked for it
twice: an empty first variable counts as an answer, and the second variable is
asked only when the first one is not set.
-/
import RecordStore.Codec
import RecordStore.Duration
import RecordStore.Environment
import RecordStore.Notice
import RecordStore.Text.Blank

namespace RecordStore

set_option autoImplicit false

open RecordStore.Number

structure Settings where
  container : String
  ttlSeconds? : Option Nat
  endpoint? : Option String
  region? : Option String
  deriving DecidableEq

namespace Settings

def default : Settings := ⟨"", none, none, none⟩

/-- The region where none is named. -/
def defaultRegion : String := "us-east-1"

def schema : Json.Schema Settings where
  title := "KvsConfig"
  default := default
  fields := [
    .named "container_name" false Json.readString fun container s => { s with container },
    .named "ttl_seconds" false (Json.readOption Codec.nat64.read)
      fun seconds? s => { s with ttlSeconds? := seconds?.map Int.toNat },
    .named "endpoint" false (Json.readOption Json.readString)
      fun endpoint? s => { s with endpoint? },
    .named "region" false (Json.readOption Json.readString) fun region? s => { s with region? }]

/-- The settings of a document. -/
def parse (text : String) : Except Json.Cause Settings := Json.Reader.parse schema.read text

/-- A string or null. -/
def optionalText (s? : Option String) : Json := (s?.map Json.string).getD .null

/-- The document of settings. -/
def toJson (s : Settings) : Json :=
  .object [("container_name", .string s.container),
    ("ttl_seconds", (s.ttlSeconds?.map Json.ofNat).getD .null),
    ("endpoint", optionalText s.endpoint?), ("region", optionalText s.region?)]

/-- The region that the environment names. -/
def environmentRegion? (env : Environment) : Option String :=
  ((env.text? "AWS_REGION").or (env.text? "AWS_DEFAULT_REGION")).filter fun s => !s.isEmpty

/-- The time to live that the environment names, or a notice that it makes no sense. -/
def environmentTtl (env : Environment) : Option Nat × List Notice :=
  match env.text? "KVS_TTL_SECONDS" with
  | none => (none, [])
  | some raw =>
    match readNat maxNat64 (Text.trimChars raw.toList) with
    | .ok seconds => (some seconds, [])
    | .error fault => (none, [.invalidTtl raw fault])

/-- The settings of the environment. -/
def ofEnvironment (env : Environment) : Settings × List Notice :=
  let (ttlSeconds?, notices) := environmentTtl env
  ({ container := (env.text? "KVS_CONTAINER_NAME").getD ""
     ttlSeconds?
     endpoint? := env.nonempty? "KVS_ENDPOINT"
     region? := environmentRegion? env }, notices)

/-- The default time to live; zero is none. -/
def ttl? (s : Settings) : Option Duration :=
  (s.ttlSeconds?.filter (0 < ·)).map Duration.ofSeconds

/-- The first region that is named: here, in the environment, or the last resort. -/
def resolveRegion (region? : Option String) (env : Environment) : String :=
  ((region?.filter fun s => !s.isEmpty).or (environmentRegion? env)).getD defaultRegion

/-- The region to use. -/
def resolvedRegion (s : Settings) (env : Environment) : String := resolveRegion s.region? env

end Settings

end RecordStore
