/-
RecordStore.Proofs.Metrics.Accounting -- what the metrics of a store add up to

Each call that has ended reports one latency sample, and adds to the counters of
its class (`Call.timed_samples`, `Call.added_samples`).  Whatever the order in
which the samples of calls come, the counters are therefore tallies of how the
calls ended (`accounts_of_told`), where the labels of the container have series
of their own (`ToldApart`).
-/
import RecordStore.Proofs.DistinctKeys
import RecordStore.Proofs.Metrics.Recording

namespace RecordStore.Metrics

set_option autoImplicit false

/-! ## Calls that have ended -/

/-- A call that has ended, and how. -/
abbrev Ended := Sigma Operation.Result

namespace Ended

/-- The key of a read was found. -/
def found : Ended → Bool
  | ⟨.get _, .ok _⟩ => true
  | _ => false

/-- The key of a read was not there. -/
def notFound : Ended → Bool
  | ⟨.get _, .error e⟩ => e = .keyNotFound
  | _ => false

/-- The call failed, other than by not finding a key. -/
def failed : Ended → Bool
  | ⟨.get _, .error e⟩ => e ≠ .keyNotFound
  | ⟨.save .., .error _⟩ => true
  | ⟨.bulkGet _, .error _⟩ => true
  | ⟨.bulkSave _, .error _⟩ => true
  | _ => false

/-- The distinct keys that a batch of reads returned. -/
def returned : Ended → Finset String
  | ⟨.bulkGet _, .ok records⟩ => (records.map (·.key)).toFinset
  | _ => ∅

/-- The distinct keys that a batch of reads that succeeded was asked for. -/
def requested : Ended → Finset String
  | ⟨.bulkGet keys, .ok _⟩ => keys.toFinset
  | _ => ∅

/-- What a call adds to the counter of a kind of operation and a class of outcomes. -/
def tally (kind : Operation.Kind) (outcome : Outcome) (c : Ended) : Nat :=
  if c.1.kind = kind then
    match kind, outcome with
    | .get, .hit => c.found.toNat
    | .get, .miss => c.notFound.toNat
    | .bulkGet, .hit => c.returned.card
    | .bulkGet, .miss => (c.requested \ c.returned).card
    | .save, .save | .bulkSave, .save => (!c.failed).toNat
    | _, .error => c.failed.toNat
    | _, _ => 0
  else 0

end Ended

/-- A call that has ended, and the time it took. -/
structure Call where
  ended : Ended
  elapsed : Duration

/-- The samples of a call. -/
def Call.samples (container : String) (c : Call) : List Sample :=
  Metrics.samples container c.elapsed c.ended.1 c.ended.2

/-! ## The samples of one call -/

namespace Sample

/-- What a sample adds to the counter of labels. -/
def added (of : Labels) : Sample → Nat
  | .count labels amount => if labels = of then amount else 0
  | .time _ _ => 0

/-- How many latency samples of labels a sample is. -/
def timedOf (of : Labels) : Sample → Nat
  | .count _ _ => 0
  | .time labels _ => if labels = of then 1 else 0

end Sample

theorem length_returnedKeys (records : Records) :
    (returnedKeys records).length = (records.map (·.key)).toFinset.card :=
  length_eraseDups _

theorem length_missedKeys (keys : List String) (records : Records) :
    (missedKeys keys records).length =
      (keys.toFinset \ (records.map (·.key)).toFinset).card := by
  have same : keys.toFinset \ (records.map (·.key)).toFinset =
      (missedKeys keys records).toFinset := by
    ext key
    simp [missedKeys, returnedKeys]
  have distinct : (missedKeys keys records).Nodup := (nodup_eraseDups keys).filter _
  rw [same, List.toFinset_card_of_nodup distinct]

/-- A read that fails is a miss or an error. -/
theorem ofRead_error {α : Type} (e : StoreError) :
    Outcome.ofRead (.error e : Except StoreError α) =
      if e = .keyNotFound then .miss else .error := by
  cases e <;> rfl

theorem sum_added_single (container : String) (op other : Operation.Kind)
    (outcome class_ : Outcome) (elapsed : Duration) :
    ((single container op class_ elapsed).map (Sample.added ⟨container, other, outcome⟩)).sum =
      if op = other ∧ class_ = outcome then 1 else 0 := by
  simp [single, Sample.added]

/-- A batch of reads adds no sample of zero, except a miss where nothing was returned. -/
theorem sum_added_batchRead (container : String) (keys : List String) (records : Records)
    (elapsed : Duration) (kind : Operation.Kind) (outcome : Outcome) :
    ((batchRead container keys records elapsed).map
        (Sample.added ⟨container, kind, outcome⟩)).sum =
      if kind = .bulkGet then
        match outcome with
        | .hit => (records.map (·.key)).toFinset.card
        | .miss => (keys.toFinset \ (records.map (·.key)).toFinset).card
        | _ => 0
      else 0 := by
  unfold batchRead
  rw [length_returnedKeys, length_missedKeys]
  generalize (records.map (·.key)).toFinset.card = hits
  generalize (keys.toFinset \ (records.map (·.key)).toFinset).card = misses
  by_cases some_ : 0 < hits
  · by_cases less : 0 < misses
    · cases kind <;> cases outcome <;> simp [some_, less, Sample.added]
    · obtain rfl : misses = 0 := by omega
      have ne : hits ≠ 0 := by omega
      cases kind <;> cases outcome <;> simp [some_, ne, Sample.added]
  · obtain rfl : hits = 0 := by omega
    cases kind <;> cases outcome <;> simp [Sample.added]

namespace Call

variable (container : String) (c : Call)

/-- The samples of a call add its tallies. -/
theorem added_samples (kind : Operation.Kind) (outcome : Outcome) :
    ((c.samples container).map (Sample.added ⟨container, kind, outcome⟩)).sum =
      c.ended.tally kind outcome := by
  obtain ⟨⟨op, result⟩, elapsed⟩ := c
  show ((Metrics.samples container elapsed op result).map _).sum = _
  cases op with
  | get key =>
    rw [Metrics.samples, sum_added_single]
    rcases result with e | record
    · rw [ofRead_error]
      by_cases missing : e = .keyNotFound <;> cases kind <;> cases outcome <;>
        simp [missing, Ended.tally, Operation.kind, Ended.found, Ended.notFound, Ended.failed]
    · cases kind <;> cases outcome <;> rfl
  | save key record =>
    rw [Metrics.samples, sum_added_single]
    rcases result with e | _ <;> cases kind <;> cases outcome <;> rfl
  | bulkGet keys =>
    rcases result with e | records
    · rw [Metrics.samples, sum_added_single]
      cases kind <;> cases outcome <;> rfl
    · show ((batchRead container keys records elapsed).map _).sum = _
      rw [sum_added_batchRead]
      cases kind <;> cases outcome <;> rfl
  | bulkSave records =>
    rw [Metrics.samples, sum_added_single]
    rcases result with e | _ <;> cases kind <;> cases outcome <;> rfl

/-- A call gives one latency sample, of its kind and of one class. -/
theorem exists_timed : ∃ outcome, ∀ measure : Sample → Nat,
    (∀ labels amount, measure (.count labels amount) = 0) →
      ((c.samples container).map measure).sum =
        measure (.time ⟨container, c.ended.1.kind, outcome⟩ c.elapsed) := by
  obtain ⟨⟨op, result⟩, elapsed⟩ := c
  cases op with
  | get key =>
    refine ⟨.ofRead result, fun measure nothing => ?_⟩
    simp [samples, Metrics.samples, single, nothing, Operation.kind]
  | save key record =>
    refine ⟨.ofWrite result, fun measure nothing => ?_⟩
    simp [samples, Metrics.samples, single, nothing, Operation.kind]
  | bulkSave records =>
    refine ⟨.ofWrite result, fun measure nothing => ?_⟩
    simp [samples, Metrics.samples, single, nothing, Operation.kind]
  | bulkGet keys =>
    rcases result with e | records
    · refine ⟨.error, fun measure nothing => ?_⟩
      simp [samples, Metrics.samples, single, nothing, Operation.kind]
    · refine ⟨if 0 < (returnedKeys records).length then .hit else .miss,
        fun measure nothing => ?_⟩
      show ((batchRead container keys records elapsed).map measure).sum = _
      unfold batchRead
      dsimp only
      rw [List.map_append, List.sum_append, List.map_append, List.sum_append]
      have hits : ((if 0 < (returnedKeys records).length then
          [Sample.count ⟨container, .bulkGet, .hit⟩ (returnedKeys records).length]
          else []).map measure).sum = 0 := by
        split <;> simp [nothing]
      have misses : ((if 0 < (missedKeys keys records).length ∨ (returnedKeys records).length = 0
          then [Sample.count ⟨container, .bulkGet, .miss⟩ (missedKeys keys records).length]
          else []).map measure).sum = 0 := by
        split <;> simp [nothing]
      rw [hits, misses]
      simp [Operation.kind]

theorem labels_samples : ∀ s ∈ c.samples container, s.labels.container = container := by
  obtain ⟨⟨op, result⟩, elapsed⟩ := c
  have one (kind : Operation.Kind) (outcome : Outcome) :
      ∀ s ∈ single container kind outcome elapsed, s.labels.container = container := by
    intro s member
    rcases List.mem_pair.1 member with rfl | rfl <;> rfl
  cases op with
  | get key => exact one _ _
  | save key record => exact one _ _
  | bulkSave records => exact one _ _
  | bulkGet keys =>
    rcases result with e | records
    · exact one _ _
    · intro s member
      unfold samples Metrics.samples batchRead at member
      rcases List.mem_append.1 member with counted | timed
      · rcases List.mem_append.1 counted with hit | miss
        · split at hit
          · rw [List.mem_singleton.1 hit]
            rfl
          · cases hit
        · split at miss
          · rw [List.mem_singleton.1 miss]
            rfl
          · cases miss
      · rw [List.mem_singleton.1 timed]
        rfl

end Call

/-! ## The samples of many calls -/

/-- The samples of calls, in the order in which these ended. -/
def reported (container : String) (calls : List Call) : List Sample :=
  calls.flatMap (Call.samples container)

theorem sum_reported (container : String) (calls : List Call) (measure : Sample → Nat) :
    ((reported container calls).map measure).sum =
      (calls.map fun c => ((c.samples container).map measure).sum).sum := by
  induction calls with
  | nil => rfl
  | cons c rest ih =>
    show ((c.samples container ++ reported container rest).map measure).sum = _
    rw [List.map_append, List.sum_append, ih]
    rfl

theorem labels_reported (container : String) (calls : List Call) :
    ∀ s ∈ reported container calls, s.labels.container = container := by
  intro s member
  obtain ⟨c, -, among⟩ := List.mem_flatMap.1 member
  exact c.labels_samples container s among

/-- No two labels of a container share a series. -/
def ToldApart (process : ProcessLabels) (container : String) : Prop :=
  ∀ kind outcome kind' outcome',
    seriesKey process ⟨container, kind, outcome⟩ = seriesKey process ⟨container, kind', outcome'⟩ →
      kind = kind' ∧ outcome = outcome'

namespace ToldApart

variable {process : ProcessLabels} {container : String} (apart : ToldApart process container)

include apart

/-- Labels of the container share a series only with themselves. -/
theorem key_eq_iff {labels : Labels} (of : labels.container = container) (kind : Operation.Kind)
    (outcome : Outcome) :
    seriesKey process labels = seriesKey process ⟨container, kind, outcome⟩ ↔
      labels = ⟨container, kind, outcome⟩ := by
  obtain ⟨_, kind', outcome'⟩ := labels
  subst of
  constructor
  · intro same
    obtain ⟨rfl, rfl⟩ := apart kind' outcome' kind outcome same
    rfl
  · intro same
    rw [same]

theorem addedAt_eq {s : Sample} (of : s.labels.container = container) (kind : Operation.Kind)
    (outcome : Outcome) :
    s.addedAt process (seriesKey process ⟨container, kind, outcome⟩) =
      s.added ⟨container, kind, outcome⟩ := by
  cases s with
  | time labels elapsed => rfl
  | count labels amount => exact if_congr (apart.key_eq_iff of kind outcome) rfl rfl

theorem timedAt_eq {s : Sample} (of : s.labels.container = container) (kind : Operation.Kind)
    (outcome : Outcome) :
    s.timedAt process (seriesKey process ⟨container, kind, outcome⟩) =
      s.timedOf ⟨container, kind, outcome⟩ := by
  cases s with
  | count labels amount => rfl
  | time labels elapsed => exact if_congr (apart.key_eq_iff of kind outcome) rfl rfl

end ToldApart

/-- The classes of outcomes. -/
def Outcome.all : List Outcome := [.hit, .miss, .error, .save]

/-- All labels of a container. -/
def Labels.all (container : String) : List Labels :=
  [Operation.Kind.get, .save, .bulkGet, .bulkSave].flatMap fun kind =>
    Outcome.all.map fun outcome => ⟨container, kind, outcome⟩

theorem Labels.mem_all (container : String) (kind : Operation.Kind) (outcome : Outcome) :
    ⟨container, kind, outcome⟩ ∈ Labels.all container := by
  cases kind <;> cases outcome <;> simp [Labels.all, Outcome.all]

/-- Whether labels are told apart can be computed. -/
theorem toldApart_of_nodup {process : ProcessLabels} {container : String}
    (distinct : ((Labels.all container).map (seriesKey process)).Nodup) :
    ToldApart process container := by
  intro kind outcome kind' outcome' same
  have eq := List.inj_on_of_nodup_map distinct (Labels.mem_all container kind outcome)
    (Labels.mem_all container kind' outcome') same
  cases eq
  exact ⟨rfl, rfl⟩

/-! ## Accounts -/

/-- What a meter holds of calls under a container, given how these ended. -/
structure Accounts (container : String) (calls : List Ended) (meter : Meter) : Prop where
  /-- Each call gives one latency sample. -/
  samples : meter.samplesTimed = calls.length
  /-- Nothing is recorded under another container. -/
  counters : ∀ s ∈ meter.counters, s.labels.container = container
  timers : ∀ s ∈ meter.timers, s.labels.container = container
  /-- The latency samples of a kind of operation, over all classes of outcomes, are its calls. -/
  operations : ∀ kind : Operation.Kind,
    (Outcome.all.map fun outcome => (meter.timerCount ⟨container, kind, outcome⟩).1).sum =
      calls.countP fun c => c.1.kind = kind
  /-- Each counter is the sum of the tallies of the calls. -/
  tallies : ∀ (kind : Operation.Kind) (outcome : Outcome),
    (meter.counter ⟨container, kind, outcome⟩).1 =
      (calls.map (Ended.tally kind outcome)).sum % 2 ^ 64
  /-- Where batches of reads return only what they were asked for, hits and misses are the distinct
  keys that they were asked for. -/
  batches : (∀ c ∈ calls, c.returned ⊆ c.requested) →
    ((meter.counter ⟨container, .bulkGet, .hit⟩).1 +
        (meter.counter ⟨container, .bulkGet, .miss⟩).1) % 2 ^ 64 =
      (calls.map fun c => c.requested.card).sum % 2 ^ 64

/-- Each call is one latency sample, of one of the classes of its kind. -/
theorem Call.timed_samples (container : String) (c : Call) (kind : Operation.Kind) :
    (Outcome.all.map fun outcome =>
        ((c.samples container).map (Sample.timedOf ⟨container, kind, outcome⟩)).sum).sum =
      if c.ended.1.kind = kind then 1 else 0 := by
  obtain ⟨outcome, once⟩ := c.exists_timed container
  have counts (other : Outcome) :
      ((c.samples container).map (Sample.timedOf ⟨container, kind, other⟩)).sum =
        if c.ended.1.kind = kind ∧ outcome = other then 1 else 0 := by
    rw [once _ fun _ _ => rfl]
    simp [Sample.timedOf]
  simp only [counts, Outcome.all]
  by_cases same : c.ended.1.kind = kind <;> cases outcome <;> simp [same]

theorem timed_reported (container : String) (calls : List Call) (kind : Operation.Kind) :
    (Outcome.all.map fun outcome =>
        ((reported container calls).map (Sample.timedOf ⟨container, kind, outcome⟩)).sum).sum =
      (calls.map Call.ended).countP fun c => c.1.kind = kind := by
  induction calls with
  | nil => rfl
  | cons c rest ih =>
    have split (outcome : Outcome) :
        ((reported container (c :: rest)).map (Sample.timedOf ⟨container, kind, outcome⟩)).sum =
          ((c.samples container).map (Sample.timedOf ⟨container, kind, outcome⟩)).sum +
            ((reported container rest).map (Sample.timedOf ⟨container, kind, outcome⟩)).sum := by
      rw [← List.sum_append, ← List.map_append]
      rfl
    simp only [split, List.sum_map_add, ih, c.timed_samples, List.map_cons, List.countP_cons,
      decide_eq_true_eq]
    exact Nat.add_comm _ _

theorem added_reported (container : String) (calls : List Call) (kind : Operation.Kind)
    (outcome : Outcome) :
    ((reported container calls).map (Sample.added ⟨container, kind, outcome⟩)).sum =
      ((calls.map Call.ended).map (Ended.tally kind outcome)).sum := by
  rw [sum_reported, List.map_map]
  refine congrArg List.sum (List.map_congr_left fun c _ => ?_)
  exact c.added_samples container kind outcome

theorem length_reported_timed (container : String) (calls : List Call) :
    ((reported container calls).map Sample.timed).sum = calls.length := by
  have one (c : Call) : ((c.samples container).map Sample.timed).sum = 1 := by
    obtain ⟨outcome, once⟩ := c.exists_timed container
    exact once _ fun _ _ => rfl
  rw [sum_reported]
  simp [one]

/-- A batch that returns only what it was asked for has each key it was asked for as a hit or a
miss. -/
theorem Ended.tally_hit_add_miss {c : Ended} (only : c.returned ⊆ c.requested) :
    c.tally .bulkGet .hit + c.tally .bulkGet .miss = c.requested.card := by
  obtain ⟨op, result⟩ := c
  cases op with
  | get key => rfl
  | save key record => rfl
  | bulkSave records => rfl
  | bulkGet keys =>
    have all := Finset.card_sdiff_add_card_eq_card only
    show (returned ⟨.bulkGet keys, result⟩).card +
      (requested ⟨.bulkGet keys, result⟩ \ returned ⟨.bulkGet keys, result⟩).card = _
    omega

theorem sum_hits_misses {calls : List Ended} (only : ∀ c ∈ calls, c.returned ⊆ c.requested) :
    (calls.map (Ended.tally .bulkGet .hit)).sum + (calls.map (Ended.tally .bulkGet .miss)).sum =
      (calls.map fun c => c.requested.card).sum := by
  rw [← List.sum_map_add]
  refine congrArg List.sum (List.map_congr_left fun c member => ?_)
  exact Ended.tally_hit_add_miss (only c member)

/-- A meter that was told the samples of calls accounts for the calls, in whatever order the samples
came: those of calls that overlap may alternate. -/
theorem accounts_of_told {process : ProcessLabels} {container : String}
    (apart : ToldApart process container) {calls : List Call} {told : List Sample}
    (perm : told.Perm (reported container calls)) :
    Accounts container (calls.map Call.ended) (Meter.after process told) := by
  have labels : ∀ s ∈ told, s.labels.container = container := fun s member =>
    labels_reported container calls s (perm.mem_iff.1 member)
  have counter (kind : Operation.Kind) (outcome : Outcome) :
      ((Meter.after process told).counter ⟨container, kind, outcome⟩).1 =
        ((calls.map Call.ended).map (Ended.tally kind outcome)).sum % 2 ^ 64 := by
    have added : told.map (Sample.addedAt process (seriesKey process ⟨container, kind, outcome⟩)) =
        told.map (Sample.added ⟨container, kind, outcome⟩) :=
      List.map_congr_left fun s among => apart.addedAt_eq (labels s among) kind outcome
    rw [Meter.counter_after, added, (perm.map _).sum_eq, added_reported]
  constructor
  case samples =>
    rw [Meter.samplesTimed_after, (perm.map _).sum_eq, length_reported_timed, List.length_map]
  case counters =>
    intro s member
    obtain ⟨sample, among, same⟩ := (Meter.labels_after process told).1 s member
    rw [← same]
    exact labels sample among
  case timers =>
    intro s member
    obtain ⟨sample, among, same⟩ := (Meter.labels_after process told).2 s member
    rw [← same]
    exact labels sample among
  case operations =>
    intro kind
    rw [← timed_reported]
    refine congrArg List.sum (List.map_congr_left fun outcome _ => ?_)
    have timed : told.map (Sample.timedAt process (seriesKey process ⟨container, kind, outcome⟩)) =
        told.map (Sample.timedOf ⟨container, kind, outcome⟩) :=
      List.map_congr_left fun s among => apart.timedAt_eq (labels s among) kind outcome
    rw [Meter.timerCount_after, timed, (perm.map _).sum_eq]
  case tallies => exact counter
  case batches =>
    intro only
    rw [counter, counter, ← Nat.add_mod, sum_hits_misses only]

end RecordStore.Metrics
