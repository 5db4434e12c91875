/-
RecordStore.Proofs.Race -- work that races its context

Three things tell whether a context is over: `Lifespan.reason?`, which looks once;
a waiter, which is polled until it has heard a reason; and work that is run under
the context, where the waiter is asked before the work at each poll.

What comes first decides, as it looks to one who sleeps until the deadline
(`settles_slept`): over any polls it is the first one at which the context is over or
the work is ready (`outcome_drive`), and if the task is polled when something it waits
for comes, that poll is at the first such instant (`Prompt.find?`).  If the timer is on
time for the deadline, all three agree.  `raced_of_prompt` puts this together, also for
the outcome that the timelines use, `Lifespan.race`.  A timer that is late lets work
finish that is ready in between (`raced_lateTimer`).
-/
import RecordStore.Proofs.Operation
import RecordStore.Proofs.Timer

namespace RecordStore

set_option autoImplicit false

namespace Lifespan

/-! ## Polls of a task -/

/-- How an attempt went: its outcome, and the instants at which the work was polled. -/
structure Attempt where
  outcome : Outcome
  polled : List Instant
  deriving DecidableEq

/-- The waiter is asked first, and the work only if there was nothing to hear. -/
def drive (life : Lifespan) (timer : Timer) (ready? : Option Instant) : List Poll → Attempt
  | [] => ⟨.unending, []⟩
  | poll :: later =>
    match life.heard? timer poll with
    | some reason => ⟨.interrupted poll.time reason, []⟩
    | none =>
      if reached ready? poll.time then ⟨.finished poll.time, [poll.time]⟩
      else
        ⟨(life.drive timer ready? later).outcome,
          poll.time :: (life.drive timer ready? later).polled⟩

/-- Work under a context, from `now` on.  A context that is over is refused at once. -/
def attempt (life : Lifespan) (timer : Timer) (now : Instant) (ready? : Option Instant)
    (polls : List Poll) : Attempt :=
  match life.reason? now with
  | some reason => ⟨.refused reason, []⟩
  | none => life.drive timer ready? polls

/-- When a waiter hears that the context is over, and what. -/
def learned? (life : Lifespan) (timer : Timer) (polls : List Poll) :
    Option (Instant × StopReason) :=
  polls.findSome? fun poll => (life.heard? timer poll).map (poll.time, ·)

/-- The context is over at an instant, or the work is ready. -/
def stirs (life : Lifespan) (ready? : Option Instant) (t : Instant) : Bool :=
  (life.reason? t).isSome || reached ready? t

theorem stirs_none (life : Lifespan) (t : Instant) :
    life.stirs none t = (life.reason? t).isSome := Bool.or_false _

/-- Where nothing is to come, nothing stirs at any poll. -/
theorem find?_stirs_unbounded (polls : List Poll) :
    polls.find? (fun poll => unbounded.stirs none poll.time) = none :=
  List.find?_eq_none.2 fun _ _ => Bool.false_ne_true

/-- What happens at the poll that decides. -/
def settle (life : Lifespan) (timer : Timer) (poll : Poll) : Outcome :=
  match life.heard? timer poll with
  | some reason => .interrupted poll.time reason
  | none => .finished poll.time

section

variable (life : Lifespan) (timer : Timer) (ready? : Option Instant)

/-- The first poll at which something has come decides. -/
theorem outcome_drive (polls : List Poll) :
    (life.drive timer ready? polls).outcome =
      ((polls.find? fun poll => (life.slept timer).stirs ready? poll.time).map
        (life.settle timer)).getD .unending := by
  induction polls with
  | nil => rfl
  | cons poll later ih =>
    cases heard : life.heard? timer poll with
    | some reason =>
      simp [drive, stirs, settle, heard, over_of_heard? heard]
    | none =>
      have live : (life.slept timer).reason? poll.time = none := heard?_eq_none.1 heard
      by_cases ready : reached ready? poll.time = true
      · simp [drive, stirs, settle, heard, ready]
      · simp [drive, stirs, heard, live, ready, ih]

/-- Work is polled only while the context is live for one who sleeps. -/
theorem live_of_mem_polled {polls : List Poll} {t : Instant}
    (member : t ∈ (life.drive timer ready? polls).polled) :
    (life.slept timer).reason? t = none := by
  induction polls with
  | nil => cases member
  | cons poll later ih =>
    unfold drive at member
    split at member
    next => cases member
    next silent =>
      have live : (life.slept timer).reason? poll.time = none := heard?_eq_none.1 silent
      split at member
      next =>
        rw [List.mem_singleton] at member
        rwa [member]
      next =>
        cases List.mem_cons.1 member with
        | inl same => rwa [same]
        | inr later => exact ih later

/-- A waiter alone hears at the first poll at which the context is over. -/
theorem learned?_eq (polls : List Poll) :
    life.learned? timer polls =
      (polls.find? fun poll => (life.slept timer).stirs none poll.time).bind fun poll =>
        (life.heard? timer poll).map (poll.time, ·) := by
  induction polls with
  | nil => rfl
  | cons poll later ih =>
    unfold learned? at ih ⊢
    rw [List.findSome?_cons, List.find?_cons, stirs_none]
    cases heard : life.heard? timer poll with
    | some reason =>
      rw [over_of_heard? heard]
      simp [heard]
    | none =>
      rw [heard?_eq_none.1 heard]
      exact ih

end

/-! ## When a task is polled -/

/-- A task is polled at once, and again when something that it waits for comes.  It may be polled
at other instants too. -/
structure Prompt (life : Lifespan) (now : Instant) (ready? : Option Instant)
    (polls : List Poll) : Prop where
  ascending : polls.Pairwise fun a b => a.time ≤ b.time
  start : ∃ poll later, polls = poll :: later ∧ poll.time = now
  woken : ∀ t, now ≤ t → (∃ reason, life.comes? reason = some t) ∨ ready? = some t →
    ∃ poll ∈ polls, poll.time = t

namespace Prompt

variable {life : Lifespan} {now : Instant} {ready? : Option Instant} {polls : List Poll}

theorem le_time (prompt : life.Prompt now ready? polls) {poll : Poll} (member : poll ∈ polls) :
    now ≤ poll.time := by
  obtain ⟨first, later, rfl, start⟩ := prompt.start
  rw [← start]
  cases List.mem_cons.1 member with
  | inl same => rw [same]
  | inr after => exact (List.pairwise_cons.1 prompt.ascending).1 poll after

/-- One who waits for the end alone needs no other polls than work has. -/
theorem waiter (prompt : life.Prompt now ready? polls) : life.Prompt now none polls where
  ascending := prompt.ascending
  start := prompt.start
  woken t le comes := prompt.woken t le (by
    rcases comes with ended | ready
    · exact .inl ended
    · cases ready)

/-- The first poll at which something stirs is at the first instant at which it does, if the task
is polled then. -/
theorem find? (prompt : life.Prompt now ready? polls) {stirs : Instant → Bool} {t : Instant}
    (least : IsLeast {s | now ≤ s ∧ stirs s = true} t) (polled : ∃ poll ∈ polls, poll.time = t) :
    ∃ poll, polls.find? (fun poll => stirs poll.time) = some poll ∧ poll.time = t := by
  obtain ⟨woken, member, rfl⟩ := polled
  obtain ⟨poll, found⟩ := Option.isSome_iff_exists.1
    (List.find?_isSome (p := fun poll : Poll => stirs poll.time) |>.2 ⟨woken, member, least.1.2⟩)
  obtain ⟨stirred, before, after, split, quiet⟩ := List.find?_eq_some_iff_append.1 found
  refine ⟨poll, found, Nat.le_antisymm ?_ (least.2 ⟨prompt.le_time ?_, stirred⟩)⟩
  · -- The poll at that instant is none of the quiet ones before.
    rw [split, List.mem_append, List.mem_cons] at member
    rcases member with early | same | late
    · simpa [least.1.2] using quiet woken early
    · rw [same]
    · have ordered := prompt.ascending
      rw [split] at ordered
      exact (List.pairwise_cons.1 (List.pairwise_append.1 ordered).2.1).1 woken late
  · rw [split]
    simp

end Prompt

/-! ## Outcomes -/

/-- How work that starts at `now` may end: what comes first decides, and the end of the context
decides if both come at once. -/
structure Settles (life : Lifespan) (now : Instant) (ready? : Option Instant)
    (outcome : Outcome) : Prop where
  refused : ∀ reason, outcome = .refused reason ↔ life.reason? now = some reason
  finished : ∀ t, outcome = .finished t ↔
    life.reason? now = none ∧ ready? = some t ∧ ∀ e, life.EndsAt e → t < e
  interrupted : ∀ t, (∃ reason, outcome = .interrupted t reason) ↔
    life.reason? now = none ∧ life.EndsAt t ∧ ∀ r, ready? = some r → t ≤ r
  holds : ∀ t reason, outcome = .interrupted t reason → life.Holds reason t
  unending : outcome = .unending ↔ life = unbounded ∧ ready? = none

section

variable {life : Lifespan} {now : Instant} {ready? : Option Instant}

theorem settles_refused {reason : StopReason} (ended : life.reason? now = some reason) :
    life.Settles now ready? (.refused reason) where
  refused reason' := by rw [ended, Outcome.refused.injEq, Option.some.injEq]
  finished t := by simp [ended]
  interrupted t := by simp [ended]
  holds := nofun
  unending := by
    refine ⟨nofun, fun ⟨same, _⟩ => ?_⟩
    rw [same] at ended
    cases ended

theorem settles_finished {r : Instant} (live : life.reason? now = none) (ready : ready? = some r)
    (before : ∀ e, life.EndsAt e → r < e) : life.Settles now ready? (.finished r) where
  refused reason := by simp [live]
  finished t := by
    constructor
    · rintro ⟨⟩
      exact ⟨live, ready, before⟩
    · rintro ⟨-, ready', -⟩
      rw [Option.some.inj (ready.symm.trans ready')]
  interrupted t := by
    refine ⟨nofun, fun ⟨_, ends, after⟩ => ?_⟩
    exact absurd (before t ends) (Nat.not_lt.2 (after r ready))
  holds := nofun
  unending := by simp [ready]

theorem settles_interrupted {e : Instant} {reason : StopReason} (live : life.reason? now = none)
    (ends : life.EndsAt e) (first : ∀ r, ready? = some r → e ≤ r) (holds : life.Holds reason e) :
    life.Settles now ready? (.interrupted e reason) where
  refused reason := by simp [live]
  finished t := by
    refine ⟨nofun, fun ⟨_, ready, before⟩ => ?_⟩
    exact absurd (before e ends) (Nat.not_lt.2 (first t ready))
  interrupted t := by
    constructor
    · rintro ⟨_, ⟨⟩⟩
      exact ⟨live, ends, first⟩
    · rintro ⟨-, ends', -⟩
      exact ⟨reason, by rw [endsAt_unique ends ends']⟩
  holds t reason' same := by
    cases same
    exact holds
  unending := by
    refine ⟨nofun, fun ⟨same, _⟩ => ?_⟩
    rw [same] at ends
    cases endsAt_iff.1 ends

theorem settles_unending (forever : life = unbounded) (never : ready? = none) :
    life.Settles now ready? .unending where
  refused reason := by
    rw [forever]
    exact ⟨nofun, nofun⟩
  finished t := by simp [never]
  interrupted t := by
    rw [forever]
    exact ⟨nofun, fun ⟨_, ends, _⟩ => nomatch endsAt_iff.1 ends⟩
  holds := nofun
  unending := ⟨fun _ => ⟨forever, never⟩, fun _ => rfl⟩

end

/-! ## The first thing to come -/

section

variable {life : Lifespan} {now : Instant} {ready? : Option Instant} {polls : List Poll}

/-- The end of a live context stirs first, if the work is not ready before. -/
theorem least_of_endsAt {e : Instant} (live : life.reason? now = none) (ends : life.EndsAt e)
    (first : ∀ r, ready? = some r → e ≤ r) :
    IsLeast {t | now ≤ t ∧ life.stirs ready? t = true} e := by
  have ended : (life.reason? e).isSome = true := Option.isSome_iff_ne_none.2 ends.1
  refine ⟨⟨(lt_of_live live ends).le, by rw [stirs, ended, Bool.true_or]⟩, ?_⟩
  rintro t ⟨-, stirred⟩
  rcases Bool.or_eq_true_iff.1 stirred with stopped | come
  · exact ends.2 (Option.isSome_iff_ne_none.1 stopped)
  · cases ready? with
    | none => cases come
    | some r => exact (first r rfl).trans (reached_some.1 come)

/-- Work that is ready before the context ends stirs first. -/
theorem least_of_ready {r : Instant} (from_now : now ≤ r)
    (before : ∀ e, life.EndsAt e → r < e) :
    IsLeast {t | now ≤ t ∧ life.stirs (some r) t = true} r := by
  refine ⟨⟨from_now, ?_⟩, ?_⟩
  · rw [stirs, reached_some.2 (Nat.le_refl r), Bool.or_true]
  · rintro t ⟨-, stirred⟩
    rcases Bool.or_eq_true_iff.1 stirred with stopped | come
    · obtain ⟨e, ends, le⟩ := reason?_ne_none.1 (Option.isSome_iff_ne_none.1 stopped)
      exact (before e (endsAt_iff.2 ends)).le.trans le
    · exact reached_some.1 come

variable {timer : Timer}

/-- A poll at the end of the context interrupts the work. -/
theorem settle_of_endsAt {poll : Poll} (ends : (life.slept timer).EndsAt poll.time) :
    ∃ reason, life.heard? timer poll = some reason ∧
      life.settle timer poll = .interrupted poll.time reason := by
  cases heard : life.heard? timer poll with
  | none => exact absurd (heard?_eq_none.1 heard) ends.1
  | some reason => exact ⟨reason, rfl, by rw [settle, heard]⟩

/-- A poll before the end of the context finds the work ready. -/
theorem settle_of_live {poll : Poll} (live : (life.slept timer).reason? poll.time = none) :
    life.settle timer poll = .finished poll.time := by
  rw [settle, heard?_eq_none.2 live]

/-- Work that is polled when something comes is settled by what comes first, for one who sleeps until
the deadline. -/
theorem settles_drive (live : (life.slept timer).reason? now = none)
    (prompt : (life.slept timer).Prompt now ready? polls)
    (from_now : ∀ r, ready? = some r → now ≤ r) :
    (life.slept timer).Settles now ready? (life.drive timer ready? polls).outcome := by
  rw [outcome_drive]
  by_cases ends : ∃ e, (life.slept timer).EndsAt e ∧ ∀ r, ready? = some r → e ≤ r
  · obtain ⟨e, ends, first⟩ := ends
    obtain ⟨poll, found, rfl⟩ := prompt.find? (least_of_endsAt live ends first)
      (prompt.woken e (lt_of_live live ends).le (.inl (comes?_of_endsAt ends)))
    obtain ⟨reason, heard, settled⟩ := settle_of_endsAt ends
    rw [found]
    simp only [Option.map_some, Option.getD_some, settled]
    exact settles_interrupted live ends first (holds_of_heard? heard)
  · cases ready? with
    | some r =>
      have before : ∀ e, (life.slept timer).EndsAt e → r < e := fun e at_e => Nat.not_le.1 fun le =>
        ends ⟨e, at_e, fun r' same => Option.some.inj same ▸ le⟩
      obtain ⟨poll, found, rfl⟩ := prompt.find? (least_of_ready (from_now r rfl) before)
        (prompt.woken r (from_now r rfl) (.inr rfl))
      rw [found]
      simp only [Option.map_some, Option.getD_some, settle_of_live (live_of_lt before)]
      exact settles_finished live rfl before
    | none =>
      have endless : (life.slept timer).end? = none := Option.eq_none_iff_forall_ne_some.2
        fun e at_e => ends ⟨e, endsAt_iff.2 at_e, nofun⟩
      have forever : life.slept timer = unbounded := end?_eq_none.1 endless
      rw [forever, find?_stirs_unbounded]
      exact settles_unending rfl rfl

/-- Whatever the timer, as long as it is not early: under a live context work is settled by what comes
first for one who sleeps, and the reason of an interruption holds. -/
theorem settles_slept (notEarly : timer.NotEarly life) (live : life.reason? now = none)
    (prompt : (life.slept timer).Prompt now ready? polls)
    (from_now : ∀ r, ready? = some r → now ≤ r) :
    (life.slept timer).Settles now ready? (life.attempt timer now ready? polls).outcome ∧
      ∀ t reason, (life.attempt timer now ready? polls).outcome = .interrupted t reason →
        life.Holds reason t := by
  have settled : (life.slept timer).Settles now ready?
      (life.attempt timer now ready? polls).outcome := by
    rw [attempt, live]
    exact settles_drive (slept_live notEarly live) prompt from_now
  exact ⟨settled, fun t reason stopped => holds_of_slept notEarly (settled.holds t reason stopped)⟩

/-- If the timer is on time, work is settled by what comes first. -/
theorem settles_attempt (onTime : timer.OnTime life)
    (prompt : (life.slept timer).Prompt now ready? polls)
    (from_now : ∀ r, ready? = some r → now ≤ r) :
    life.Settles now ready? (life.attempt timer now ready? polls).outcome := by
  cases live : life.reason? now with
  | some reason =>
    rw [attempt, live]
    exact settles_refused live
  | none =>
    obtain ⟨settled, -⟩ := settles_slept onTime.notEarly live prompt from_now
    rwa [slept_of_onTime onTime] at settled

theorem settles_race : life.Settles now ready? (life.race now ready?) := by
  unfold race
  cases live : life.reason? now with
  | some reason => exact settles_refused live
  | none =>
    cases ends : life.end? with
    | none =>
      have forever : life = unbounded := end?_eq_none.1 ends
      cases ready? with
      | none => exact settles_unending forever rfl
      | some r =>
        refine settles_finished live rfl fun e at_e => ?_
        rw [endsAt_iff, ends] at at_e
        cases at_e
    | some e =>
      have at_e : life.EndsAt e := endsAt_iff.2 ends
      have holds := holds_of_reason? (reason?_of_endsAt at_e)
      cases ready? with
      | none => exact settles_interrupted live at_e nofun holds
      | some r =>
        by_cases le : e ≤ r
        · simp only [le, if_true]
          exact settles_interrupted live at_e (fun r' same => Option.some.inj same ▸ le) holds
        · simp only [le, if_false]
          exact settles_finished live rfl fun e' at_e' =>
            endsAt_unique at_e at_e' ▸ Nat.not_le.1 le

/-- The outcome of a race names the reason that the context reports. -/
theorem reason?_of_race {t : Instant} {reason : StopReason}
    (stopped : life.race now ready? = .interrupted t reason) : life.reason? t = some reason := by
  obtain ⟨live, ends, first⟩ := (settles_race.interrupted t).1 ⟨reason, stopped⟩
  unfold race at stopped
  rw [live, endsAt_iff.1 ends] at stopped
  have same : reason = life.endReason := by
    cases ready? with
    | none =>
      cases stopped
      rfl
    | some r =>
      simp only [first r rfl, if_true] at stopped
      cases stopped
      rfl
  rw [same, reason?_of_endsAt ends]

/-- An interruption comes with what was heard at a poll. -/
theorem heard_of_interrupted {t : Instant} {reason : StopReason}
    (stopped : (life.drive timer ready? polls).outcome = .interrupted t reason) :
    ∃ poll ∈ polls, poll.time = t ∧ life.heard? timer poll = some reason := by
  rw [outcome_drive] at stopped
  cases found : polls.find? fun poll => (life.slept timer).stirs ready? poll.time with
  | none =>
    rw [found] at stopped
    cases stopped
  | some poll =>
    rw [found] at stopped
    simp only [Option.map_some, Option.getD_some, settle] at stopped
    refine ⟨poll, List.mem_of_find?_eq_some found, ?_⟩
    cases heard : life.heard? timer poll with
    | none =>
      rw [heard] at stopped
      cases stopped
    | some reason' =>
      rw [heard] at stopped
      cases stopped
      exact ⟨rfl, rfl⟩

/-- If the token is always looked at first, the reason is the one that the context reports. -/
theorem attempt_of_tokenFirst (onTime : timer.OnTime life)
    (prompt : (life.slept timer).Prompt now ready? polls)
    (from_now : ∀ r, ready? = some r → now ≤ r)
    (tokenFirst : ∀ poll ∈ polls, poll.clockFirst = false) :
    (life.attempt timer now ready? polls).outcome = life.race now ready? := by
  have settled := settles_attempt onTime prompt from_now
  have raced : life.Settles now ready? (life.race now ready?) := settles_race
  cases outcome : life.race now ready? with
  | refused reason => exact (settled.refused reason).2 ((raced.refused reason).1 outcome)
  | finished t => exact (settled.finished t).2 ((raced.finished t).1 outcome)
  | unending => exact settled.unending.2 (raced.unending.1 outcome)
  | interrupted t reason =>
    obtain ⟨live, ends, first⟩ := (raced.interrupted t).1 ⟨reason, outcome⟩
    obtain ⟨reason', stopped⟩ := (settled.interrupted t).2 ⟨live, ends, first⟩
    rw [stopped]
    have reported : life.reason? t = some reason' := by
      unfold attempt at stopped
      rw [live] at stopped
      obtain ⟨poll, member, rfl, heard⟩ := heard_of_interrupted stopped
      rwa [heard?_of_tokenFirst (tokenFirst poll member), slept_of_onTime onTime] at heard
    rw [Option.some.inj (reported.symm.trans (reason?_of_race outcome))]

/-- Work is left alone exactly when it is refused. -/
theorem polled_eq_nil (notEarly : timer.NotEarly life)
    (prompt : (life.slept timer).Prompt now ready? polls) :
    (life.attempt timer now ready? polls).polled = [] ↔ life.reason? now ≠ none := by
  unfold attempt
  cases live : life.reason? now with
  | some reason => exact ⟨fun _ => nofun, fun _ => rfl⟩
  | none =>
    obtain ⟨poll, later, rfl, start⟩ := prompt.start
    have silent : life.heard? timer poll = none := by
      rw [heard?_eq_none, start, slept_live notEarly live]
    refine ⟨fun empty => ?_, fun ended => absurd rfl ended⟩
    simp only [drive, silent] at empty
    split at empty <;> cases empty

theorem live_of_polled {t : Instant}
    (member : t ∈ (life.attempt timer now ready? polls).polled) :
    (life.slept timer).reason? t = none := by
  unfold attempt at member
  cases live : life.reason? now with
  | some reason =>
    rw [live] at member
    cases member
  | none =>
    rw [live] at member
    exact live_of_mem_polled life timer ready? member

end

/-! ## Waiting for the end -/

/-- What one who waits from `now` on learns: the first instant at which the context is over, with
a reason that holds then. -/
structure Learns (life : Lifespan) (now : Instant) (learned? : Option (Instant × StopReason)) :
    Prop where
  first : ∀ t, (∃ reason, learned? = some (t, reason)) ↔
    IsLeast {s | now ≤ s ∧ life.reason? s ≠ none} t
  holds : ∀ t reason, learned? = some (t, reason) → life.Holds reason t
  never : learned? = none ↔ life = unbounded

section

variable {life : Lifespan} {now : Instant} {polls : List Poll}

theorem learns_some {t : Instant} {reason : StopReason}
    (least : IsLeast {s | now ≤ s ∧ life.reason? s ≠ none} t) (holds : life.Holds reason t) :
    life.Learns now (some (t, reason)) where
  first t' := by
    constructor
    · rintro ⟨_, ⟨⟩⟩
      exact least
    · exact fun least' => ⟨reason, by rw [IsLeast.unique least least']⟩
  holds t' reason' same := by
    cases same
    exact holds
  never := by
    refine ⟨nofun, fun forever => ?_⟩
    rw [forever] at least
    exact absurd rfl least.1.2

theorem learns_unbounded : unbounded.Learns now none where
  first _ := ⟨nofun, fun least => absurd rfl least.1.2⟩
  holds := nofun
  never := ⟨fun _ => rfl, fun _ => rfl⟩

theorem least_of_over (ended : life.reason? now ≠ none) :
    IsLeast {s | now ≤ s ∧ life.reason? s ≠ none} now :=
  ⟨⟨Nat.le_refl now, ended⟩, fun _ later => later.1⟩

theorem least_of_live {e : Instant} (live : life.reason? now = none) (ends : life.EndsAt e) :
    IsLeast {s | now ≤ s ∧ life.reason? s ≠ none} e :=
  ⟨⟨(lt_of_live live ends).le, ends.1⟩, fun _ later => ends.2 later.2⟩

theorem learns_done? : life.Learns now (life.done? now) := by
  unfold done?
  cases live : life.reason? now with
  | some reason =>
    exact learns_some (least_of_over (by rw [live]; exact nofun)) (holds_of_reason? live)
  | none =>
    cases ends : life.end? with
    | none =>
      rw [end?_eq_none.1 ends]
      exact learns_unbounded
    | some e =>
      have at_e : life.EndsAt e := endsAt_iff.2 ends
      exact learns_some (least_of_live live at_e) (holds_of_reason? (reason?_of_endsAt at_e))

/-- What is learned is the reason that the context reports. -/
theorem reason?_of_done? {t : Instant} {reason : StopReason}
    (told : life.done? now = some (t, reason)) : life.reason? t = some reason := by
  unfold done? at told
  cases live : life.reason? now with
  | some reason' =>
    rw [live] at told
    cases told
    exact live
  | none =>
    rw [live] at told
    obtain ⟨e, ends, same⟩ := Option.map_eq_some_iff.1 told
    cases same
    exact reason?_of_endsAt (endsAt_iff.2 ends)

variable {timer : Timer}

/-- A waiter hears at the first instant at which the context is over for one who sleeps. -/
theorem learned?_of_least (prompt : (life.slept timer).Prompt now none polls) {t : Instant}
    (least : IsLeast {s | now ≤ s ∧ (life.slept timer).reason? s ≠ none} t)
    (polled : ∃ poll ∈ polls, poll.time = t) :
    ∃ poll ∈ polls, poll.time = t ∧ ∃ reason, life.heard? timer poll = some reason ∧
      life.learned? timer polls = some (t, reason) := by
  have stirred : IsLeast {s | now ≤ s ∧ (life.slept timer).stirs none s = true} t := by
    simpa only [stirs_none, Option.isSome_iff_ne_none] using least
  obtain ⟨poll, found, rfl⟩ := prompt.find? stirred polled
  cases heard : life.heard? timer poll with
  | none => exact absurd (heard?_eq_none.1 heard) least.1.2
  | some reason =>
    refine ⟨poll, List.mem_of_find?_eq_some found, rfl, reason, heard, ?_⟩
    rw [learned?_eq, found, Option.bind_some, heard, Option.map_some]

/-- Either the context never ends, or the waiter is polled when it does. -/
theorem Prompt.end_polled (prompt : life.Prompt now none polls) :
    life = unbounded ∨ ∃ t, IsLeast {s | now ≤ s ∧ life.reason? s ≠ none} t ∧
      ∃ poll ∈ polls, poll.time = t := by
  cases live : life.reason? now with
  | some reason =>
    obtain ⟨poll, later, rfl, start⟩ := prompt.start
    exact .inr ⟨now, least_of_over (by rw [live]; exact nofun), poll, List.mem_cons_self, start⟩
  | none =>
    cases ends : life.end? with
    | none => exact .inl (end?_eq_none.1 ends)
    | some e =>
      have at_e : life.EndsAt e := endsAt_iff.2 ends
      exact .inr ⟨e, least_of_live live at_e,
        prompt.woken e (lt_of_live live at_e).le (.inl (comes?_of_endsAt at_e))⟩

theorem learned?_eq_none (forever : life.slept timer = unbounded) (polls : List Poll) :
    life.learned? timer polls = none := by
  rw [learned?_eq, forever, find?_stirs_unbounded, Option.bind_none]

theorem learns_learned? (prompt : (life.slept timer).Prompt now none polls) :
    (life.slept timer).Learns now (life.learned? timer polls) := by
  rcases prompt.end_polled with forever | ⟨t, least, polled⟩
  · rw [learned?_eq_none forever, forever]
    exact learns_unbounded
  · obtain ⟨poll, -, rfl, reason, heard, learned⟩ := learned?_of_least prompt least polled
    rw [learned]
    exact learns_some least (holds_of_heard? heard)

theorem learned?_of_tokenFirst (prompt : (life.slept timer).Prompt now none polls)
    (tokenFirst : ∀ poll ∈ polls, poll.clockFirst = false) :
    life.learned? timer polls = (life.slept timer).done? now := by
  rcases prompt.end_polled with forever | ⟨t, least, polled⟩
  · rw [learned?_eq_none forever, forever]
    rfl
  · obtain ⟨poll, member, rfl, reason, heard, learned⟩ := learned?_of_least prompt least polled
    obtain ⟨reason', told⟩ := (learns_done?.first poll.time).2 least
    rw [heard?_of_tokenFirst (tokenFirst poll member)] at heard
    rw [learned, told, Option.some.inj (heard.symm.trans (reason?_of_done? told))]

end

/-! ## The whole -/

/-- All that tells whether a context is over agrees: looking once, waiting, and running work. -/
structure Raced (life : Lifespan) (timer : Timer) (now : Instant) (ready? : Option Instant)
    (polls : List Poll) : Prop where
  /-- If the polls miss nothing, what comes first decides. -/
  settled : life.Settles now ready? (life.attempt timer now ready? polls).outcome
  /-- Whatever the polls, the first at which something has come decides, and there the context
  comes before the work. -/
  firstPoll : ∀ others : List Poll, life.reason? now = none →
    (life.attempt timer now ready? others).outcome =
      ((others.find? fun poll => life.stirs ready? poll.time).map (life.settle timer)).getD .unending
  /-- A timer that is late puts the deadline off until it wakes, and nothing else: no reason is given
  before it holds. -/
  late : ∀ (other : Timer) (others : List Poll), other.NotEarly life →
    (life.slept other).Prompt now ready? others → life.reason? now = none →
      (life.slept other).Settles now ready? (life.attempt other now ready? others).outcome ∧
        (life.slept other).Learns now (life.learned? other others) ∧
        ∀ t reason, (life.attempt other now ready? others).outcome = .interrupted t reason →
          life.Holds reason t
  unpolled : (life.attempt timer now ready? polls).polled = [] ↔ life.reason? now ≠ none
  live : ∀ t ∈ (life.attempt timer now ready? polls).polled, life.reason? t = none
  learned : life.Learns now (life.learned? timer polls)
  race : life.Settles now ready? (life.race now ready?)
  done? : life.Learns now (life.done? now)
  tokenFirst : (∀ poll ∈ polls, poll.clockFirst = false) →
    (life.attempt timer now ready? polls).outcome = life.race now ready? ∧
      life.learned? timer polls = life.done? now
  ended : ∀ t, life.reason? t ≠ none ↔ ∃ reason, life.Holds reason t
  stays : ∀ t u, life.reason? t ≠ none → t ≤ u → life.reason? u ≠ none
  holds : ∀ t reason, life.reason? t = some reason → life.Holds reason t
  canceled : ∀ t, life.reason? t = some .canceled ↔ life.Holds .canceled t
  check : ∀ t reason, checkLive (life.reason? t) = .error (.cancelled reason) ↔
    life.reason? t = some reason
  check_ok : ∀ t, checkLive (life.reason? t) = .ok () ↔ life.reason? t = none

/-- **What comes first decides.**  Work under a context is refused, and never polled, exactly if the
context is over at the call; it finishes exactly if it is ready before the context ends, and is
interrupted if the end comes first or at the same poll, with a reason that holds.  A waiter learns
of the end when it comes and not before.  `delay?` is how long after the call the work is ready.
The timer is on time for the deadline, as it is for every deadline if its ticks are those of the clock
(`Timer.onTime_ticking_one`), and `polls` are any polls that miss nothing. -/
theorem raced_of_prompt {life : Lifespan} {timer : Timer} {now : Instant} {delay? : Option Nat}
    {polls : List Poll} (onTime : timer.OnTime life)
    (prompt : (life.slept timer).Prompt now (delay?.map (now + ·)) polls) :
    life.Raced timer now (delay?.map (now + ·)) polls := by
  have from_now : ∀ r, delay?.map (now + ·) = some r → now ≤ r := by
    intro r ready
    obtain ⟨delay, -, rfl⟩ := Option.map_eq_some_iff.1 ready
    exact Nat.le_add_right now delay
  have same : life.slept timer = life := slept_of_onTime onTime
  have learns := learns_learned? prompt.waiter
  have listens := learned?_of_tokenFirst prompt.waiter
  rw [same] at learns listens
  exact {
    settled := settles_attempt onTime prompt from_now
    firstPoll := fun others live => by rw [attempt, live, outcome_drive, same]
    late := fun other others notEarly awake live => by
      obtain ⟨settled, holds⟩ := settles_slept notEarly live awake from_now
      exact ⟨settled, learns_learned? awake.waiter, holds⟩
    unpolled := polled_eq_nil onTime.notEarly prompt
    live := fun _ member => same ▸ live_of_polled member
    learned := learns
    race := settles_race
    done? := learns_done?
    tokenFirst := fun tokenFirst =>
      ⟨attempt_of_tokenFirst onTime prompt from_now tokenFirst, listens tokenFirst⟩
    ended := fun _ => over_iff_holds
    stays := fun _ _ => reason?_stays
    holds := fun _ _ => holds_of_reason?
    canceled := fun _ => reason?_eq_canceled
    check := fun _ _ => checkLive_eq_error
    check_ok := fun _ => checkLive_eq_ok }

/-- Cancellation, deadline and completion at one tick of the timer, and a waiter that then looks at
its sleep first: the work is interrupted, and the deadline is the reason. -/
theorem raced_tie :
    let life : Lifespan := ⟨some 20, some 20⟩
    let timer : Timer := .ticking 10
    let polls : List Poll := [⟨0, false⟩, ⟨20, true⟩]
    timer.OnTime life ∧ life.Raced timer 0 (some 20) polls ∧
      life.attempt timer 0 (some 20) polls = ⟨.interrupted 20 .deadlineExceeded, [0]⟩ ∧
      life.race 0 (some 20) = .interrupted 20 .canceled ∧
      life.attempt timer 0 (some 17) [⟨0, false⟩, ⟨17, false⟩] = ⟨.finished 17, [0, 17]⟩ ∧
      life.attempt timer 20 (some 20) [⟨20, true⟩] = ⟨.refused .canceled, []⟩ := by
  intro life timer polls
  have onTime : timer.OnTime life := by
    refine Timer.onTime_ticking (by decide) fun deadline due => ?_
    cases due
    decide
  have prompt : (life.slept timer).Prompt 0 ((some 20).map (0 + ·)) polls :=
    { ascending := by decide
      start := ⟨_, _, rfl, rfl⟩
      woken := by
        rintro t - (⟨reason, comes⟩ | ready)
        · cases reason <;> cases comes <;> exact ⟨⟨20, true⟩, by decide, rfl⟩
        · cases ready
          exact ⟨⟨20, true⟩, by decide, rfl⟩ }
  exact ⟨onTime, raced_of_prompt onTime prompt, by decide, by decide, by decide, by decide⟩

/-- A deadline between two ticks of the timer: work that is ready after the deadline and before the
next tick finishes, although the context is over. -/
theorem raced_lateTimer :
    let life : Lifespan := ⟨none, some 15⟩
    let timer : Timer := .ticking 10
    let polls : List Poll := [⟨0, false⟩, ⟨17, false⟩, ⟨20, false⟩]
    timer.NotEarly life ∧ (life.slept timer).Prompt 0 (some 17) polls ∧
      life.attempt timer 0 (some 17) polls = ⟨.finished 17, [0, 17]⟩ ∧
      life.reason? 17 = some .deadlineExceeded ∧
      ¬ life.Settles 0 (some 17) (life.attempt timer 0 (some 17) polls).outcome := by
  intro life timer polls
  have finishes : life.attempt timer 0 (some 17) polls = ⟨.finished 17, [0, 17]⟩ := by decide
  refine ⟨Timer.notEarly_ticking (by decide) life, ⟨by decide, ⟨_, _, rfl, rfl⟩, ?_⟩, finishes,
    by decide, fun settled => ?_⟩
  · rintro t - (⟨reason, comes⟩ | ready)
    · cases reason with
      | canceled => cases comes
      | deadlineExceeded =>
        cases comes
        exact ⟨⟨20, false⟩, by decide, rfl⟩
    · cases ready
      exact ⟨⟨17, false⟩, by decide, rfl⟩
  · rw [finishes] at settled
    obtain ⟨-, -, before⟩ := (settled.finished 17).1 rfl
    exact absurd (before 15 (endsAt_iff.2 rfl)) (by decide)

/-- Polls at every instant from `now` on, up to a horizon. -/
def everyInstant (clockFirst : Instant → Bool) (now horizon : Nat) : List Poll :=
  (List.range' now (horizon + 1)).map fun t => ⟨t, clockFirst t⟩

/-- Every attempt has polls that miss nothing, whichever way the waiter looks. -/
theorem prompt_everyInstant (life : Lifespan) (now : Instant) (ready? : Option Instant)
    (clockFirst : Instant → Bool) :
    ∃ horizon, life.Prompt now ready? (everyInstant clockFirst now horizon) := by
  refine ⟨life.cancelledAt?.getD 0 + life.deadline?.getD 0 + ready?.getD 0, ?_, ?_, ?_⟩
  · rw [everyInstant, List.pairwise_map]
    exact List.pairwise_le_range'
  · exact ⟨_, _, rfl, rfl⟩
  · intro t from_now comes
    refine ⟨⟨t, clockFirst t⟩, List.mem_map.2 ⟨t, List.mem_range'_1.2 ⟨from_now, ?_⟩, rfl⟩, rfl⟩
    rcases comes with ⟨_ | _, ended⟩ | ready
    · rw [show life.cancelledAt? = some t from ended, Option.getD_some]
      omega
    · rw [show life.deadline? = some t from ended, Option.getD_some]
      omega
    · rw [ready, Option.getD_some]
      omega

end Lifespan

end RecordStore
