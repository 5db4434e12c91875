/-
RecordStore.Proofs.Timer -- hearing of the end of a context

One who waits for the end of a context looks at its token and at a sleep until its
deadline.  When a sleep is over is for a timer to say, which may be late (`Timer`); so
he sees the context with its deadline put off until the timer wakes
(`Lifespan.slept`).  He may look at the two in an order that differs from poll to poll
(`Lifespan.heard?`), so that of two reasons either may be the one he reports, but he
hears one exactly when the context is over for him (`heard?_eq_none`).
-/
import RecordStore.Proofs.Lifespan

namespace RecordStore

set_option autoImplicit false

/-! ## Timers -/

/-- A timer: the instant from which on a sleep is over that is to last until an instant.  A timer that
keeps its word is not early, and may be late by less than a tick. -/
structure Timer where
  wakes : Instant → Instant

namespace Timer

/-- The sleep until the deadline of a context, if it has one, is not over before it. -/
def NotEarly (timer : Timer) (life : Lifespan) : Prop :=
  ∀ deadline, life.deadline? = some deadline → deadline ≤ timer.wakes deadline

/-- The sleep until the deadline of a context, if it has one, is over when the deadline comes and not
before. -/
def OnTime (timer : Timer) (life : Lifespan) : Prop :=
  ∀ deadline, life.deadline? = some deadline → timer.wakes deadline = deadline

theorem OnTime.notEarly {timer : Timer} {life : Lifespan} (onTime : timer.OnTime life) :
    timer.NotEarly life := fun deadline due => (onTime deadline due).ge

/-- A timer that wakes only at its ticks: at the first one that is not too early. -/
def ticking (tick : Nat) : Timer := ⟨fun t => (t + (tick - 1)) / tick * tick⟩

theorem notEarly_ticking {tick : Nat} (pos : 0 < tick) (life : Lifespan) :
    (ticking tick).NotEarly life := by
  have late (t : Nat) : t ≤ (t + (tick - 1)) / tick * tick := by
    have rest := Nat.mod_lt (t + (tick - 1)) pos
    have whole := Nat.div_add_mod' (t + (tick - 1)) tick
    omega
  exact fun deadline _ => late deadline

/-- It is on time for deadlines that fall on a tick. -/
theorem onTime_ticking {tick : Nat} (pos : 0 < tick) {life : Lifespan}
    (falls : ∀ deadline, life.deadline? = some deadline → tick ∣ deadline) :
    (ticking tick).OnTime life := by
  intro deadline due
  obtain ⟨ticks, rfl⟩ := falls deadline due
  show (tick * ticks + (tick - 1)) / tick * tick = tick * ticks
  rw [Nat.mul_add_div pos, Nat.div_eq_of_lt (Nat.sub_lt pos Nat.one_pos), Nat.add_zero,
    Nat.mul_comm]

/-- If its ticks are those of the clock, it is on time for every deadline. -/
theorem onTime_ticking_one (life : Lifespan) : (ticking 1).OnTime life :=
  onTime_ticking Nat.one_pos fun deadline _ => Nat.one_dvd deadline

end Timer

namespace Lifespan

/-- A context as it looks to one who sleeps until its deadline. -/
def slept (life : Lifespan) (timer : Timer) : Lifespan :=
  { life with deadline? := life.deadline?.map timer.wakes }

section

variable {life : Lifespan} {timer : Timer}

theorem slept_of_onTime (onTime : timer.OnTime life) : life.slept timer = life := by
  obtain ⟨cancelledAt?, _ | deadline⟩ := life
  · rfl
  · rw [slept, Option.map_some, onTime deadline rfl]

/-- What holds for one who sleeps holds, if the timer is not early. -/
theorem holds_of_slept (notEarly : timer.NotEarly life) {reason : StopReason} {t : Instant}
    (holds : (life.slept timer).Holds reason t) : life.Holds reason t := by
  obtain ⟨cancelledAt?, deadline?⟩ := life
  cases reason with
  | canceled => exact holds
  | deadlineExceeded =>
    cases deadline? with
    | none => cases holds
    | some deadline =>
      exact reached_some.2 ((notEarly deadline rfl).trans (reached_some.1 holds))

theorem slept_live (notEarly : timer.NotEarly life) {t : Instant} (live : life.reason? t = none) :
    (life.slept timer).reason? t = none := by
  by_contra ended
  obtain ⟨reason, holds⟩ := over_iff_holds.1 ended
  exact over_iff_holds.2 ⟨reason, holds_of_slept notEarly holds⟩ live

end

/-! ## One poll -/

/-- A poll of a task: its instant, and whether of the two things that end a context the sleep is
looked at before the token. -/
structure Poll where
  time : Instant
  clockFirst : Bool
  deriving DecidableEq

/-- A reason to stop, if one who waits can tell that it has come. -/
def told? (life : Lifespan) (timer : Timer) (reason : StopReason) (t : Instant) :
    Option StopReason :=
  if reached ((life.slept timer).comes? reason) t then some reason else none

/-- What one who waits for the end of the context hears at a poll. -/
def heard? (life : Lifespan) (timer : Timer) (poll : Poll) : Option StopReason :=
  if poll.clockFirst then
    (life.told? timer .deadlineExceeded poll.time).or (life.told? timer .canceled poll.time)
  else (life.told? timer .canceled poll.time).or (life.told? timer .deadlineExceeded poll.time)

section

variable {life : Lifespan} {timer : Timer} {poll : Poll}

theorem holds_of_told? {reason heard : StopReason} {t : Instant}
    (told : life.told? timer reason t = some heard) : (life.slept timer).Holds heard t := by
  obtain ⟨come, same⟩ := Option.ite_none_right_eq_some.1 told
  cases same
  exact come

theorem heard?_of_tokenFirst (tokenFirst : poll.clockFirst = false) :
    life.heard? timer poll = (life.slept timer).reason? poll.time := by
  unfold heard? reason? told? comes?
  rw [tokenFirst]
  cases reached (life.slept timer).cancelledAt? poll.time <;> rfl

/-- A reason is heard exactly when the context is over for one who sleeps. -/
theorem heard?_eq_none :
    life.heard? timer poll = none ↔ (life.slept timer).reason? poll.time = none := by
  unfold heard? reason? told? comes?
  cases poll.clockFirst <;> cases reached (life.slept timer).cancelledAt? poll.time <;>
    cases reached (life.slept timer).deadline? poll.time <;> decide

theorem over_of_heard? {reason : StopReason} (heard : life.heard? timer poll = some reason) :
    ((life.slept timer).reason? poll.time).isSome = true := by
  rw [Option.isSome_iff_ne_none, Ne, ← heard?_eq_none, heard]
  exact nofun

/-- What is heard is so. -/
theorem holds_of_heard? {reason : StopReason} (heard : life.heard? timer poll = some reason) :
    (life.slept timer).Holds reason poll.time := by
  unfold heard? at heard
  split at heard <;> rcases Option.or_eq_some_iff.1 heard with told | ⟨-, told⟩ <;>
    exact holds_of_told? told

end

end Lifespan

end RecordStore
