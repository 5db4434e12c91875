/-
RecordStore.Proofs.Metrics.Recording -- what a meter holds after its samples

A series is found by its number alone, so a counter holds, modulo 2^64, all that
was added under labels of its number, and a timer as many samples as came under
them (`counter_after`, `timerCount_after`).  Over all timers the samples are
counted once each, whoever shares a series (`samplesTimed_after`).
-/
import Mathlib
import RecordStore.Metrics.Metered

namespace RecordStore.Metrics

set_option autoImplicit false

open RecordStore.Number

/-! ## Series -/

namespace Series

variable {α : Type} (process : ProcessLabels) {labels other : Labels} (first : α) (f : α → α)

theorem valueAt_cons (s : Series α) (rest : List (Series α)) :
    valueAt process labels first (s :: rest) =
      if s.key = seriesKey process labels then s.value else valueAt process labels first rest := by
  unfold valueAt
  by_cases found : s.key = seriesKey process labels
  · simp [found]
  · simp [found]

/-- A change of a series is seen under all labels of its number, and under no others. -/
theorem valueAt_adjust (series : List (Series α)) :
    valueAt process other first (adjust process labels first f series) =
      if seriesKey process labels = seriesKey process other
      then f (valueAt process other first series) else valueAt process other first series := by
  induction series with
  | nil =>
    rw [adjust, valueAt_cons]
    rfl
  | cons s rest ih =>
    rw [adjust]
    by_cases changed : s.key = seriesKey process labels
    · rw [if_pos changed, valueAt_cons, valueAt_cons, changed]
      split <;> rfl
    · rw [if_neg changed, valueAt_cons, ih, valueAt_cons]
      by_cases found : s.key = seriesKey process other
      · have apart : seriesKey process labels ≠ seriesKey process other := fun same =>
          changed (found.trans same.symm)
        rw [if_pos found, if_neg apart, if_pos found]
      · rw [if_neg found, if_neg found]

/-- A change adds to the sum of a measure what it adds to the one value that it changes. -/
theorem sum_map_adjust (measure : α → Nat) (more : Nat)
    (adds : ∀ x, measure (f x) = measure x + more)
    (starts : measure first = 0) (series : List (Series α)) :
    ((adjust process labels first f series).map fun s => measure s.value).sum =
      (series.map fun s => measure s.value).sum + more := by
  induction series with
  | nil => simp [adjust, adds, starts]
  | cons s rest ih =>
    rw [adjust]
    split
    · simp only [List.map_cons, List.sum_cons, adds]
      omega
    · simp only [List.map_cons, List.sum_cons, ih]
      omega

/-- The labels of a series are those that were there before, or those that were touched. -/
theorem labels_adjust {series : List (Series α)} {s : Series α}
    (member : s ∈ adjust process labels first f series) :
    s.labels = labels ∨ ∃ old ∈ series, old.labels = s.labels := by
  induction series with
  | nil => exact .inl (by rw [List.mem_singleton.1 member])
  | cons head rest ih =>
    rw [adjust] at member
    split at member
    · rcases List.mem_cons.1 member with rfl | member
      · exact .inr ⟨head, List.mem_cons_self, rfl⟩
      · exact .inr ⟨s, List.mem_cons_of_mem _ member, rfl⟩
    · rcases List.mem_cons.1 member with rfl | member
      · exact .inr ⟨s, List.mem_cons_self, rfl⟩
      · rcases ih member with touched | ⟨old, among, same⟩
        · exact .inl touched
        · exact .inr ⟨old, List.mem_cons_of_mem _ among, same⟩

end Series

/-! ## Samples -/

namespace Sample

/-- What a sample adds to the counter of a number. -/
def addedAt (process : ProcessLabels) (key : UInt64) : Sample → Nat
  | .count labels amount => if seriesKey process labels = key then amount else 0
  | .time _ _ => 0

/-- How many latency samples a sample is for the timer of a number. -/
def timedAt (process : ProcessLabels) (key : UInt64) : Sample → Nat
  | .count _ _ => 0
  | .time labels _ => if seriesKey process labels = key then 1 else 0

/-- How many latency samples a sample is. -/
def timed : Sample → Nat
  | .count _ _ => 0
  | .time _ _ => 1

def labels : Sample → Labels
  | .count labels _ => labels
  | .time labels _ => labels

end Sample

namespace Meter

/-- The meter of a process after samples. -/
def after (process : ProcessLabels) (samples : List Sample) : Meter :=
  samples.foldl record (.empty process)

theorem after_concat (process : ProcessLabels) (samples : List Sample) (s : Sample) :
    after process (samples ++ [s]) = (after process samples).record s := by
  rw [after, List.foldl_append]
  rfl

theorem process_after (process : ProcessLabels) (samples : List Sample) :
    (after process samples).process = process := by
  induction samples using List.reverseRecOn with
  | nil => rfl
  | append_singleton rest s ih =>
    rw [after_concat]
    cases s <;> exact ih

/-- A counter holds what was added under its number. -/
theorem counter_after (process : ProcessLabels) (samples : List Sample) (labels : Labels) :
    ((after process samples).counter labels).1 =
      (samples.map (Sample.addedAt process (seriesKey process labels))).sum % 2 ^ 64 := by
  induction samples using List.reverseRecOn with
  | nil => rfl
  | append_singleton rest s ih =>
    rw [after_concat, List.map_append, List.sum_append]
    have held : Series.valueAt process labels 0 (after process rest).counters =
        (rest.map (Sample.addedAt process (seriesKey process labels))).sum % 2 ^ 64 := by
      rw [counter, process_after] at ih
      exact ih
    cases s with
    | time other elapsed =>
      show Series.valueAt (after process rest).process labels 0 (after process rest).counters = _
      rw [process_after, held]
      rfl
    | count other amount =>
      show Series.valueAt (after process rest).process labels 0
        (Series.adjust (after process rest).process other 0 _ (after process rest).counters) = _
      rw [process_after, Series.valueAt_adjust, held]
      by_cases same : seriesKey process other = seriesKey process labels
      · rw [if_pos same]
        simp [Sample.addedAt, same, maxNat64, Nat.mod_add_mod]
      · rw [if_neg same]
        simp [Sample.addedAt, same]

/-- A timer holds as many samples as came under its number. -/
theorem timerCount_after (process : ProcessLabels) (samples : List Sample) (labels : Labels) :
    ((after process samples).timerCount labels).1 =
      (samples.map (Sample.timedAt process (seriesKey process labels))).sum := by
  induction samples using List.reverseRecOn with
  | nil => rfl
  | append_singleton rest s ih =>
    rw [after_concat, List.map_append, List.sum_append]
    have held : (Series.valueAt process labels .empty (after process rest).timers).count =
        (rest.map (Sample.timedAt process (seriesKey process labels))).sum := by
      rw [timerCount, process_after] at ih
      exact ih
    cases s with
    | count other amount =>
      show (Series.valueAt (after process rest).process labels .empty
        (after process rest).timers).count = _
      rw [process_after, held]
      rfl
    | time other elapsed =>
      show (Series.valueAt (after process rest).process labels .empty
        (Series.adjust (after process rest).process other .empty _
          (after process rest).timers)).count = _
      rw [process_after, Series.valueAt_adjust]
      by_cases same : seriesKey process other = seriesKey process labels
      · rw [if_pos same]
        simp [Sample.timedAt, same, Histogram.observe, held]
      · rw [if_neg same]
        simp [Sample.timedAt, same, held]

/-- The latency samples of all timers. -/
def samplesTimed (m : Meter) : Nat := (m.timers.map (·.value.count)).sum

/-- Every latency sample is in one timer. -/
theorem samplesTimed_after (process : ProcessLabels) (samples : List Sample) :
    (after process samples).samplesTimed = (samples.map Sample.timed).sum := by
  induction samples using List.reverseRecOn with
  | nil => rfl
  | append_singleton rest s ih =>
    rw [after_concat, List.map_append, List.sum_append, ← ih]
    cases s with
    | count labels amount => rfl
    | time labels elapsed =>
      exact Series.sum_map_adjust _ _ _ Histogram.count 1 (fun _ => rfl) rfl _

/-- Every series carries labels under which a sample came. -/
theorem labels_after (process : ProcessLabels) (samples : List Sample) :
    (∀ s ∈ (after process samples).counters, ∃ sample ∈ samples, sample.labels = s.labels) ∧
      ∀ s ∈ (after process samples).timers, ∃ sample ∈ samples, sample.labels = s.labels := by
  induction samples using List.reverseRecOn with
  | nil =>
    exact ⟨fun _ member => absurd member List.not_mem_nil,
      fun _ member => absurd member List.not_mem_nil⟩
  | append_singleton rest s ih =>
    have earlier {labels : Labels} (known : ∃ sample ∈ rest, sample.labels = labels) :
        ∃ sample ∈ rest ++ [s], sample.labels = labels := by
      obtain ⟨sample, member, same⟩ := known
      exact ⟨sample, List.mem_append_left _ member, same⟩
    rw [after_concat]
    cases s with
    | count labels amount =>
      refine ⟨fun series member => ?_, fun series member => earlier (ih.2 series member)⟩
      rcases Series.labels_adjust _ _ _ member with touched | ⟨old, among, same⟩
      · exact ⟨.count labels amount, by simp, touched.symm⟩
      · rw [← same]
        exact earlier (ih.1 old among)
    | time labels elapsed =>
      refine ⟨fun series member => earlier (ih.1 series member), fun series member => ?_⟩
      rcases Series.labels_adjust _ _ _ member with touched | ⟨old, among, same⟩
      · exact ⟨.time labels elapsed, by simp, touched.symm⟩
      · rw [← same]
        exact earlier (ih.2 old among)

end Meter

end RecordStore.Metrics
