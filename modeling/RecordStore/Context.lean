/-
RecordStore.Context -- cancellation and deadlines

A context pairs a token with an optional deadline.  Tokens form a forest: a token
counts as cancelled from the first moment at which it or a token it was derived
from was cancelled, whether the derivation came before or after.  What a context
means for the work done under it is its `Lifespan`: the instant of cancellation
and the deadline, either of which may be absent.

`Lifespan.reason?` says whether and why work must stop at an instant,
`Lifespan.end?` gives the first such instant, and `Lifespan.race` the outcome of
work that becomes ready at some instant.  Cancellation is reported before an
expired deadline.

The clock counts whole milliseconds, which is the tick of the timers that wake at
deadlines.  Deadlines and completions between two ticks are left out: a sleep until
such a deadline lasts until the next tick, and work that is ready in between is still
done, so there `Lifespan.race` would say too much.
-/

namespace RecordStore

set_option autoImplicit false

/-- Whole milliseconds on a clock. -/
abbrev Instant := Nat

/-- Why a context stopped accepting work. -/
inductive StopReason
  | canceled
  | deadlineExceeded
  deriving DecidableEq

def StopReason.message : StopReason → String
  | .canceled => "context canceled"
  | .deadlineExceeded => "context deadline exceeded"

/-- When a context ends. -/
structure Lifespan where
  cancelledAt? : Option Instant
  deadline? : Option Instant
  deriving DecidableEq

namespace Lifespan

/-- Never cancelled and without a deadline. -/
def unbounded : Lifespan := ⟨none, none⟩

/-- An instant that has come at `now`. -/
def reached (instant? : Option Instant) (now : Instant) : Bool :=
  match instant? with
  | some t => t ≤ now
  | none => false

/-- Why work must stop at `now`, if it must. -/
def reason? (life : Lifespan) (now : Instant) : Option StopReason :=
  if reached life.cancelledAt? now then some .canceled
  else if reached life.deadline? now then some .deadlineExceeded
  else none

/-- The earlier of two instants that may be absent. -/
def earlier : Option Instant → Option Instant → Option Instant
  | some a, some b => some (min a b)
  | some a, none => some a
  | none, b => b

/-- The first instant at which work must stop. -/
def end? (life : Lifespan) : Option Instant :=
  earlier life.cancelledAt? life.deadline?

/-- The reason at the first instant at which work must stop. -/
def endReason (life : Lifespan) : StopReason :=
  match life.end? with
  | some t => (life.reason? t).getD .canceled
  | none => .canceled

/-- How work under a context ends. -/
inductive Outcome
  /-- The context was over before the work began. -/
  | refused (reason : StopReason)
  /-- The work was done at this instant. -/
  | finished (time : Instant)
  /-- The context ended first, or at the instant at which the work would have been done. -/
  | interrupted (time : Instant) (reason : StopReason)
  /-- Neither ever happens. -/
  | unending
  deriving DecidableEq

/-- The outcome of work that starts at `now` and becomes ready at `ready?`. -/
def race (life : Lifespan) (now : Instant) (ready? : Option Instant) : Outcome :=
  match life.reason? now with
  | some reason => .refused reason
  | none =>
    match life.end?, ready? with
    | some t, some r => if t ≤ r then .interrupted t life.endReason else .finished r
    | some t, none => .interrupted t life.endReason
    | none, some r => .finished r
    | none, none => .unending

/-- When someone who waits from `now` on learns that the context is over, and why. -/
def done? (life : Lifespan) (now : Instant) : Option (Instant × StopReason) :=
  match life.reason? now with
  | some reason => some (now, reason)
  | none => life.end?.map fun t => (t, life.endReason)

end Lifespan

/-! ## Tokens -/

/-- A cancellation token: the older token it was derived from, and when it was cancelled itself. -/
structure Token where
  parent? : Option Nat
  cancelledAt? : Option Instant
  deriving DecidableEq

/-- Tokens, newest first.  A token is named by the number of tokens older than it. -/
structure TokenForest where
  newestFirst : List Token
  deriving DecidableEq

namespace TokenForest

def empty : TokenForest := ⟨[]⟩

/-- When a token counts as cancelled: the first instant for itself and all it descends from. -/
def cancelledAtIn? : List Token → Nat → Option Instant
  | [], _ => none
  | token :: older, id =>
    if id = older.length then
      Lifespan.earlier token.cancelledAt? (token.parent?.bind (cancelledAtIn? older))
    else cancelledAtIn? older id

def cancelledAt? (forest : TokenForest) (id : Nat) : Option Instant :=
  cancelledAtIn? forest.newestFirst id

/-- A new token, derived from another one or from none. -/
def add (forest : TokenForest) (parent? : Option Nat) : Nat × TokenForest :=
  (forest.newestFirst.length, ⟨⟨parent?, none⟩ :: forest.newestFirst⟩)

/-- Cancel a token at an instant, which may lie ahead; an earlier cancellation stays. -/
def cancelIn (id : Nat) (time : Instant) : List Token → List Token
  | [] => []
  | token :: older =>
    if id = older.length then
      { token with cancelledAt? := Lifespan.earlier token.cancelledAt? (some time) } :: older
    else token :: cancelIn id time older

def cancel (forest : TokenForest) (id : Nat) (time : Instant) : TokenForest :=
  ⟨cancelIn id time forest.newestFirst⟩

end TokenForest

/-- A token and an optional deadline.  Clones of a context are the same context. -/
structure Context where
  token : Nat
  deadline? : Option Instant
  deriving DecidableEq

namespace Context

/-- A context that can be cancelled and has the given deadline, if any. -/
def root (forest : TokenForest) (deadline? : Option Instant) : Context × TokenForest :=
  let (token, forest) := forest.add none
  (⟨token, deadline?⟩, forest)

/-- A context that is cancelled with `ctx` and can be cancelled on its own. -/
def child (ctx : Context) (forest : TokenForest) : Context × TokenForest :=
  let (token, forest) := forest.add (some ctx.token)
  (⟨token, ctx.deadline?⟩, forest)

/-- When the context ends. -/
def lifespan (ctx : Context) (forest : TokenForest) : Lifespan :=
  ⟨forest.cancelledAt? ctx.token, ctx.deadline?⟩

/-- Why the context is over at `now`, if it is. -/
def reason? (ctx : Context) (forest : TokenForest) (now : Instant) : Option StopReason :=
  (ctx.lifespan forest).reason? now

end Context

end RecordStore
