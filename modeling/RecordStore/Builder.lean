/-
RecordStore.Builder -- putting a store together

A builder collects what a store needs; of a part that is set more than once the
last one counts.  A store needs a container whose name is more than blanks, and
one over a remote service needs credentials and a valid endpoint as well.  What
is missing is looked for in that order: credentials, endpoint, container.
-/
import RecordStore.Client
import RecordStore.Endpoint
import RecordStore.Settings

namespace RecordStore

set_option autoImplicit false

open RecordStore.Signing

structure Builder where
  container? : Option String
  ttl? : Option Duration
  endpoint : Endpoint
  naming : TableName
  region? : Option String
  credentials? : Option Credentials

namespace Builder

def empty : Builder := ⟨none, none, .regional, .verbatim, none, none⟩

/-- A builder that starts from settings. -/
def ofSettings (s : Settings) (env : Environment) : Builder :=
  { empty with
    region? := some (s.resolvedRegion env)
    container? := if s.container.isEmpty then none else some s.container
    ttl? := s.ttl?
    endpoint := (s.endpoint?.map Endpoint.custom).getD .regional }

/-- The container of a store in memory when none is named. -/
def memoryContainer : String := "__kvs-test"

/-- The adapter, without a client. -/
def adapter (b : Builder) : Except StoreError Adapter :=
  match b.container?.filter fun name => !Text.isBlankText name with
  | some container => .ok (.new container b.naming b.ttl?)
  | none => .error (.configuration .containerRequired)

/-- The adapter of a store in memory. -/
def memoryAdapter (b : Builder) : Except StoreError Adapter :=
  { b with container? := some (b.container?.getD memoryContainer) }.adapter

/-- The region of a store over a remote service. -/
def region (b : Builder) (env : Environment) : String := Settings.resolveRegion b.region? env

/-- The credentials of a store over a remote service. -/
def credentials (b : Builder) (env : Environment) : Except StoreError Credentials :=
  match b.credentials?.or (Credentials.ofEnvironment? env) with
  | some credentials => .ok credentials
  | none => .error (.configuration .noCredentials)

/-- A store over a remote service, with the way to it. -/
def remote (b : Builder) (env : Environment) (transport : Http.Post → Option Http.Response) :
    Except StoreError (Adapter × Remote) × List Notice :=
  let region := b.region env
  match b.credentials env with
  | .error e => (.error e, [])
  | .ok credentials =>
    let (endpoint, notices) := b.endpoint.resolve region
    (do
      let endpoint ← endpoint
      let adapter ← b.adapter
      return (adapter, ⟨endpoint, region, credentials, transport⟩), notices)

end Builder

/-- An adapter as messages show it. -/
def Adapter.shown (a : Adapter) : String :=
  "DynamoDbBackend \x7b container_name: " ++ Text.quoted a.container ++ ", table_name: "
    ++ Text.quoted a.table ++ ", default_ttl: "
    ++ (match a.defaultTtl with
      | some ttl => "Some(" ++ ttl.shown ++ ")"
      | none => "None")
    ++ ", .. \x7d"

/-- A metered store as messages show it. -/
def Metrics.shownMetered (inner : String) : String :=
  "MetricsBackend \x7b inner: " ++ inner ++ ", .. \x7d"

end RecordStore
