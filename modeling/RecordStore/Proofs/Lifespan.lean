/-
RecordStore.Proofs.Lifespan -- reasons to stop

A context is over once it was cancelled or its deadline came, and of two reasons
the cancellation is reported.  What `Lifespan.reason?` says at an instant and when
it first says something (`Lifespan.EndsAt`) are told in these terms.
-/
import Mathlib.Order.Bounds.Basic
import Mathlib.Order.MinMax
import RecordStore.Proofs.Single

namespace RecordStore

set_option autoImplicit false

namespace Lifespan

theorem reached_some {r t : Instant} : reached (some r) t = true ↔ r ≤ t := decide_eq_true_iff

theorem reached_earlier {a? b? : Option Instant} {t : Instant} :
    reached (earlier a? b?) t = true ↔ reached a? t = true ∨ reached b? t = true := by
  cases a? <;> cases b? <;> simp only [earlier, reached, Bool.false_eq_true, or_false, false_or,
    decide_eq_true_eq]
  exact min_le_iff

/-- When a reason to stop comes. -/
def comes? (life : Lifespan) : StopReason → Option Instant
  | .canceled => life.cancelledAt?
  | .deadlineExceeded => life.deadline?

/-- A reason to stop that holds at an instant. -/
def Holds (life : Lifespan) (reason : StopReason) (t : Instant) : Prop :=
  reached (life.comes? reason) t = true

/-- The first instant at which there is a reason to stop. -/
def EndsAt (life : Lifespan) (t : Instant) : Prop := IsLeast {s | life.reason? s ≠ none} t

theorem holds_of_reason? {life : Lifespan} {t : Instant} {reason : StopReason}
    (ended : life.reason? t = some reason) : life.Holds reason t := by
  unfold reason? at ended
  split at ended
  next cancelled =>
    cases ended
    exact cancelled
  next =>
    split at ended
    next late =>
      cases ended
      exact late
    next => cases ended

/-- Of two reasons the cancellation is reported. -/
theorem reason?_eq_canceled {life : Lifespan} {t : Instant} :
    life.reason? t = some .canceled ↔ life.Holds .canceled t :=
  ⟨holds_of_reason?, fun cancelled => if_pos cancelled⟩

theorem reason?_eq_deadlineExceeded {life : Lifespan} {t : Instant} :
    life.reason? t = some .deadlineExceeded ↔
      ¬ life.Holds .canceled t ∧ life.Holds .deadlineExceeded t := by
  constructor
  · intro late
    refine ⟨fun cancelled => ?_, holds_of_reason? late⟩
    cases late.symm.trans (reason?_eq_canceled.2 cancelled)
  · rintro ⟨live, late⟩
    exact (if_neg live).trans (if_pos late)

/-- A context is over once a reason holds. -/
theorem over_iff_holds {life : Lifespan} {t : Instant} :
    life.reason? t ≠ none ↔ ∃ reason, life.Holds reason t := by
  constructor
  · intro ended
    obtain ⟨reason, stopped⟩ := Option.ne_none_iff_exists'.1 ended
    exact ⟨reason, holds_of_reason? stopped⟩
  · rintro ⟨reason, holds⟩
    by_cases cancelled : life.Holds .canceled t
    · rw [reason?_eq_canceled.2 cancelled]
      exact nofun
    · cases reason with
      | canceled => exact absurd holds cancelled
      | deadlineExceeded =>
        rw [reason?_eq_deadlineExceeded.2 ⟨cancelled, holds⟩]
        exact nofun

theorem reason?_ne_none {life : Lifespan} {t : Instant} :
    life.reason? t ≠ none ↔ ∃ e, life.end? = some e ∧ e ≤ t := by
  rw [Ne, reason?_eq_none, Outlasts]
  simp only [not_forall, Nat.not_lt, exists_prop]

/-- A context that is over stays so. -/
theorem reason?_stays {life : Lifespan} {t u : Instant} (ended : life.reason? t ≠ none)
    (le : t ≤ u) : life.reason? u ≠ none := by
  obtain ⟨e, ends, before⟩ := reason?_ne_none.1 ended
  exact reason?_ne_none.2 ⟨e, ends, before.trans le⟩

theorem endsAt_iff {life : Lifespan} {e : Instant} : life.EndsAt e ↔ life.end? = some e := by
  constructor
  · intro least
    obtain ⟨e', ends, le⟩ := reason?_ne_none.1 least.1
    have ge : e ≤ e' := least.2 (reason?_ne_none.2 ⟨e', ends, Nat.le_refl e'⟩)
    rw [ends, Nat.le_antisymm le ge]
  · intro ends
    refine ⟨reason?_ne_none.2 ⟨e, ends, Nat.le_refl e⟩, fun t ended => ?_⟩
    obtain ⟨e', ends', le⟩ := reason?_ne_none.1 ended
    rwa [Option.some.inj (ends.symm.trans ends')]

theorem end?_eq_none {life : Lifespan} : life.end? = none ↔ life = unbounded := by
  obtain ⟨_ | a, _ | b⟩ := life <;> simp [end?, earlier, unbounded]

/-- A context ends when a reason comes. -/
theorem comes?_of_endsAt {life : Lifespan} {e : Instant} (ends : life.EndsAt e) :
    ∃ reason, life.comes? reason = some e := by
  have ends := endsAt_iff.1 ends
  obtain ⟨_ | a, _ | b⟩ := life
  case none.none => cases ends
  case none.some => exact ⟨.deadlineExceeded, ends⟩
  case some.none => exact ⟨.canceled, ends⟩
  case some.some =>
    rw [← ends]
    rcases Nat.le_total a b with le | le
    · exact ⟨.canceled, by rw [end?, earlier, Nat.min_eq_left le]; rfl⟩
    · exact ⟨.deadlineExceeded, by rw [end?, earlier, Nat.min_eq_right le]; rfl⟩

theorem lt_of_live {life : Lifespan} {now e : Instant} (live : life.reason? now = none)
    (ends : life.EndsAt e) : now < e :=
  reason?_eq_none.1 live e (endsAt_iff.1 ends)

theorem live_of_lt {life : Lifespan} {t : Instant} (before : ∀ e, life.EndsAt e → t < e) :
    life.reason? t = none := reason?_eq_none.2 fun e ends => before e (endsAt_iff.2 ends)

theorem endsAt_unique {life : Lifespan} {e e' : Instant} (ends : life.EndsAt e)
    (ends' : life.EndsAt e') : e = e' := IsLeast.unique ends ends'

/-- The reason reported at the end of a context. -/
theorem reason?_of_endsAt {life : Lifespan} {e : Instant} (ends : life.EndsAt e) :
    life.reason? e = some life.endReason := by
  obtain ⟨reason, ended⟩ := Option.ne_none_iff_exists'.1 ends.1
  rw [endReason, endsAt_iff.1 ends]
  simp only [ended, Option.getD_some]

end Lifespan

end RecordStore
