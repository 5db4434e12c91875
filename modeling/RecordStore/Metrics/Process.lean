/-
RecordStore.Metrics.Process -- labels of a process from a document or the environment

Every member of the document may be left out.  The environment names the
deployment, in small letters, and the application.
-/
import RecordStore.Codec
import RecordStore.Environment
import RecordStore.Metrics.Meter
import RecordStore.Text.LowerCase
import RecordStore.Text.Quoted

namespace RecordStore.Metrics.ProcessLabels

set_option autoImplicit false

open RecordStore.Text

def default : ProcessLabels := ⟨"kvs-client", "", ""⟩

def schema : Json.Schema ProcessLabels where
  title := "MetricsConfig"
  default := default
  fields := [
    .named "service_type" false Json.readString fun serviceType p => { p with serviceType },
    .named "environment" false Json.readString fun environment p => { p with environment },
    .named "application" false Json.readString fun application p => { p with application }]

/-- The labels of a document. -/
def parse (text : String) : Except Json.Cause ProcessLabels := Json.Reader.parse schema.read text

/-- The document of labels. -/
def toJson (p : ProcessLabels) : Json :=
  .object [("service_type", .string p.serviceType), ("environment", .string p.environment),
    ("application", .string p.application)]

/-- The labels of the environment. -/
def ofEnvironment (env : Environment) : ProcessLabels :=
  { default with
    environment := lowerCase ((env.text? "ENV").getD "")
    application := (env.text? "APP_NAME").getD "" }

/-- A meter with these labels as messages show it. -/
def shownMeter (p : ProcessLabels) : String :=
  "PrometheusSink \x7b config: MetricsConfig \x7b service_type: " ++ quoted p.serviceType
    ++ ", environment: " ++ quoted p.environment ++ ", application: " ++ quoted p.application
    ++ " \x7d \x7d"

end RecordStore.Metrics.ProcessLabels
