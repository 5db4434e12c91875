/-
RecordStore.Proofs.Metrics.MeteredRun -- runs of a metered store

A metered store gives the results and leaves the state of the store inside, and
tells its meter the samples of each call (`run_metered`).  A meter that starts
empty therefore accounts for the whole run (`metered_run_accounts`).
-/
import RecordStore.Metrics.Process
import RecordStore.Proofs.Metrics.Accounting
import RecordStore.Proofs.OnlyRequested

namespace RecordStore.Metrics

set_option autoImplicit false

/-- A batch that returns records of requested keys only, and every other call. -/
theorem Ended.returned_subset {c : Ended}
    (only : ∀ keys records, c = ⟨.bulkGet keys, .ok records⟩ → ∀ r ∈ records, r.key ∈ keys) :
    c.returned ⊆ c.requested := by
  obtain ⟨op, result⟩ := c
  cases op with
  | get key => exact Finset.Subset.refl _
  | save key record => exact Finset.Subset.refl _
  | bulkSave records => exact Finset.Subset.refl _
  | bulkGet keys =>
    rcases result with e | records
    · exact Finset.Subset.refl _
    · intro key member
      obtain ⟨r, among, rfl⟩ := List.mem_map.1 (List.mem_toFinset.1 member)
      exact List.mem_toFinset.2 (only keys records rfl r among)

theorem returned_subset_of_onlyRequested {σ : Type} {b : Backend σ} {s : σ}
    (only : b.OnlyRequested s) (calls : List (Moment × Operation)) :
    ∀ c ∈ (b.run calls s).1, Ended.returned c ⊆ Ended.requested c := by
  intro c member
  refine Ended.returned_subset fun keys records same => ?_
  subst same
  exact only calls keys records member

/-- A metered store runs as the store inside does, and tells the samples of its calls. -/
theorem run_metered {σ μ : Type} (inner : Backend σ) (record : μ → Sample → μ)
    (elapsed : Moment → Operation → Duration) (calls : List (Moment × Operation)) (s : σ)
    (m : μ) :
    ∃ ended : List Call, ended.map Call.ended = (inner.run calls s).1 ∧
      (metered inner record elapsed).run calls (s, m) =
        ((inner.run calls s).1,
          ((inner.run calls s).2, (reported inner.container ended).foldl record m)) := by
  induction calls generalizing s m with
  | nil => exact ⟨[], rfl, rfl⟩
  | cons call rest ih =>
    obtain ⟨moment, op⟩ := call
    let done := inner.perform moment op s
    let first : Call := ⟨⟨op, done.1.result⟩, elapsed moment op⟩
    obtain ⟨ended, same, ran⟩ := ih done.2 ((first.samples inner.container).foldl record m)
    refine ⟨first :: ended, ?_, ?_⟩
    · rw [List.map_cons, same]
      rfl
    · have told : (reported inner.container (first :: ended)).foldl record m =
          (reported inner.container ended).foldl record
            ((first.samples inner.container).foldl record m) := List.foldl_append ..
      rw [told, Backend.run, Backend.run]
      exact congrArg (fun later : List Ended × σ × μ => (first.ended :: later.1, later.2)) ran

/-- **A metered store gives what the store inside gives, and its meter accounts for the run.**  The
reference store and the adapter over the emulator return only what batches ask for, so there hits
and misses make up the distinct keys that were asked for. -/
theorem metered_run_accounts {σ : Type} (inner : Backend σ) (process : ProcessLabels)
    (apart : ToldApart process inner.container) (elapsed : Moment → Operation → Duration)
    (calls : List (Moment × Operation)) (s : σ) :
    let done := (metered inner Meter.record elapsed).run calls (s, .empty process)
    (done.1, done.2.1) = inner.run calls s ∧
      Accounts inner.container done.1 done.2.2 ∧
      (∀ (container : String) (contents : Reference) (calls : List (Moment × Operation)),
        ∀ c ∈ ((Reference.backend container).run calls contents).1,
          Ended.returned c ⊆ Ended.requested c) ∧
      ∀ (adapter : Adapter) (e : Emulator), e.Keyed → ∀ calls : List (Moment × Operation),
        ∀ c ∈ ((adapter.backend Emulator.client).run calls e).1,
          Ended.returned c ⊆ Ended.requested c := by
  obtain ⟨ended, same, ran⟩ := run_metered inner Meter.record elapsed calls s (.empty process)
  have accounts : Accounts inner.container (ended.map Call.ended)
      (Meter.after process (reported inner.container ended)) := accounts_of_told apart (.refl _)
  dsimp only
  rw [ran]
  rw [same] at accounts
  exact ⟨rfl, accounts,
    fun container contents =>
      returned_subset_of_onlyRequested (Reference.onlyRequested container contents),
    fun adapter _ keyed => returned_subset_of_onlyRequested (adapter.onlyRequested keyed)⟩

/-- A run with a hit and a miss, a batch that asks for a key twice and for one that is not there,
an empty batch, and a save that fails. -/
theorem metered_run_accounts_users :
    let store := Reference.backend "users"
    let at_ (op : Operation) : Moment × Operation := (⟨0, 0, .unbounded⟩, op)
    let calls := [at_ (.save "a" (some (.ofText "a" "1" none))), at_ (.get "a"), at_ (.get "b"),
      at_ (.bulkGet ["b", "a", "a"]), at_ (.bulkGet []), at_ (.save "c" none)]
    let done := (metered store Meter.record fun _ _ => .ofMillis 3).run calls (∅, .empty .default)
    ToldApart .default store.container ∧ Accounts "users" done.1 done.2.2 ∧
      (done.2.2.counter ⟨"users", .bulkGet, .hit⟩).1 = 1 ∧
      (done.2.2.counter ⟨"users", .bulkGet, .miss⟩).1 = 1 ∧
      (done.2.2.timerCount ⟨"users", .bulkGet, .miss⟩).1 = 1 := by
  intro store at_ calls done
  have apart : ToldApart .default store.container := toldApart_of_nodup (by decide +kernel)
  have accounts := (metered_run_accounts store .default apart (fun _ _ => .ofMillis 3) calls ∅).2.1
  exact ⟨apart, accounts, by decide +kernel, by decide +kernel, by decide +kernel⟩

end RecordStore.Metrics
