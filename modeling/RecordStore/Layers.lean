/-
RecordStore.Layers -- what can be put around a store

A pointer to a store, and a metered store, are stores again, so layers can be put
around a store to any depth (`Backend.layered`).  The sinks of all metered layers
make up one state, which lets layers share a sink.

A store is called under a context, or plainly.  The context of a plain call is one
of its own that has no deadline, and that nobody else can cancel; but a store may have
its own way to answer plain calls.  Layers have none: a plain call of a layer is a
call under such a context, and is handed on as one.
-/
import RecordStore.Context
import RecordStore.Metrics.Metered

namespace RecordStore

set_option autoImplicit false

open RecordStore.Metrics

variable {σ μ : Type}

/-! ## Calls -/

/-- How a store is called. -/
inductive Invocation.Form
  | under (ctx : Context)
  | plain

/-- A call of a store: when it is made, which tokens there are, and what is asked for. -/
structure Invocation where
  now : Instant
  time : Timestamp
  forest : TokenForest
  form : Invocation.Form
  op : Operation

/-- When the context of a call ends, which is its own if it is called plainly. -/
def Invocation.life (c : Invocation) : Lifespan :=
  match c.form with
  | .under ctx => ctx.lifespan c.forest
  | .plain =>
    let (ctx, forest) := Context.root c.forest none
    ctx.lifespan forest

def Invocation.moment (c : Invocation) : Moment := ⟨c.now, c.time, c.life⟩

/-- A store is called: plainly in its own way, and under a context by performing the operation. -/
def Backend.call (b : Backend σ) (c : Invocation) (s : σ) : Reply c.op × σ :=
  match c.form with
  | .under _ => b.perform c.moment c.op s
  | .plain => b.plain c.now c.time c.op s

/-- The replies to calls made one after the other, and the last state. -/
def Backend.callAll (b : Backend σ) : List Invocation → σ → List (Sigma Reply) × σ
  | [], s => ([], s)
  | c :: rest, s =>
    let (reply, s) := b.call c s
    let (replies, s) := b.callAll rest s
    (⟨c.op, reply⟩ :: replies, s)

/-! ## Layers -/

/-- A pointer through which a store is used. -/
inductive Pointer
  | shared
  | boxed
  deriving DecidableEq

/-- One layer around a store. -/
inductive Layer (μ : Type)
  /-- Everything is passed on. -/
  | pointer (kind : Pointer)
  /-- Everything is passed on, and samples are reported to a sink. -/
  | metered (record : μ → Sample → μ) (elapsed : Moment → Operation → Duration)

/-- A store beside sinks that it does not know of. -/
def Backend.beside (b : Backend σ) (μ : Type) : Backend (σ × μ) where
  container := b.container
  perform m op s :=
    let (reply, next) := b.perform m op s.1
    (reply, (next, s.2))
  plain now time op s :=
    let (reply, next) := b.plain now time op s.1
    (reply, (next, s.2))

/-- A store with a layer put around it. -/
def Layer.around : Layer μ → Backend (σ × μ) → Backend (σ × μ)
  | .pointer _, inner =>
    { container := inner.container
      perform := fun m op s => inner.perform m op s }
  | .metered record elapsed, inner =>
    { container := inner.container
      perform := fun m op s =>
        let (reply, next) := inner.perform m op s
        (reply, (next.1,
          (samples inner.container (elapsed m op) op reply.result).foldl record next.2)) }

/-- A store with layers around it, the outermost one first. -/
def Backend.layered (b : Backend σ) (layers : List (Layer μ)) : Backend (σ × μ) :=
  layers.foldr Layer.around (b.beside μ)

end RecordStore
