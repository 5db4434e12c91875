/-
RecordStore.Metrics.Series -- which labels share a series

A series belongs to a number of 64 bits that is computed from the values of its
labels, written one after the other (`seriesKey`).  Labels whose values spell
the same text therefore share a series, and it carries the labels that brought
it into being.
-/
import RecordStore.Metrics.Sample

namespace RecordStore.Metrics

set_option autoImplicit false

/-- Labels that every series of a process carries. -/
structure ProcessLabels where
  serviceType : String
  environment : String
  application : String
  deriving DecidableEq

/-- The names of the labels, in order. -/
def labelNames : List String :=
  ["service_type", "environment", "application", "client_name", "event_type", "event_subtype"]

/-- The values of the labels, in the order of their names. -/
def labelValues (process : ProcessLabels) (labels : Labels) : List String :=
  [process.serviceType, process.environment, process.application,
    labels.container, labels.kind.label, labels.outcome.label]

/-- The 64-bit FNV-1a hash: each byte is added to the bits, which are then multiplied by a prime. -/
def fnv1a (bytes : List UInt8) : UInt64 :=
  bytes.foldl (fun h b => (h ^^^ b.toUInt64) * 0x100000001b3) 0xcbf29ce484222325

/-- The number by which a series is found. -/
def seriesKey (process : ProcessLabels) (labels : Labels) : UInt64 :=
  fnv1a ((labelValues process labels).flatMap fun value => value.toUTF8.toList)

structure Series (α : Type) where
  key : UInt64
  /-- The labels that were first to touch the series. -/
  labels : Labels
  value : α

namespace Series

variable {α : Type}

/-- The series of these labels changed, or added with a change of its first value. -/
def adjust (process : ProcessLabels) (labels : Labels) (first : α) (f : α → α) :
    List (Series α) → List (Series α)
  | [] => [⟨seriesKey process labels, labels, f first⟩]
  | s :: rest =>
    if s.key = seriesKey process labels then { s with value := f s.value } :: rest
    else s :: adjust process labels first f rest

/-- The value of the series of these labels, or the first value. -/
def valueAt (process : ProcessLabels) (labels : Labels) (first : α) (series : List (Series α)) : α :=
  match series.find? (·.key == seriesKey process labels) with
  | some s => s.value
  | none => first

end Series

end RecordStore.Metrics
