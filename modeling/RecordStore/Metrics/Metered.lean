/-
RecordStore.Metrics.Metered -- a store that reports what it does

A metered store passes every operation on, gives back what it gets, and reports
the samples of the operation.  Stores can be metered more than once; the
innermost reports first.
-/
import RecordStore.Metrics.Meter

namespace RecordStore.Metrics

set_option autoImplicit false

variable {σ μ : Type}

/-- The store `inner`, whose samples are folded into a second state by `record`.  `elapsed` tells
how long an operation took. -/
def metered (inner : Backend σ) (record : μ → Sample → μ)
    (elapsed : Moment → Operation → Duration) : Backend (σ × μ) where
  container := inner.container
  perform m op s :=
    let (reply, next) := inner.perform m op s.1
    (reply, (next, (samples inner.container (elapsed m op) op reply.result).foldl record s.2))

end RecordStore.Metrics
