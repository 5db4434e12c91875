/-
RecordStore.Proofs.SharedRead.Schedule -- the code shows the steps of `SharedRead`, all of them

What the parties of shared reads do in the code, others see as steps of `SharedRead`
(`Consistent.reachable`).  Here is the other half: whatever steps of `SharedRead` are taken,
the parties can go through their code so that just these are seen
(`exists_run_of_reachable`), and so both have the same tables, counts and callers
(`reachable_iff`).

A step is played by one party that goes through its code while the others stand
still, those that wait at the first line of their wait and tasks that wait at their
fetches (`Calm`).
-/
import RecordStore.Proofs.SharedRead.Course

namespace RecordStore.SharedRead.Program

set_option autoImplicit false

/-- Everybody that waits stands where the wait begins. -/
structure Calm (s : State) : Prop where
  callers : ∀ {caller : CallerId} {id : CallId}, s.shared.Waits caller id →
    s.stages caller = .seated
  tasks : ∀ {id : CallId}, s.phase id = .reading → (s.tasks id).point = .fetching

/-- Some steps lead to a calm state that shows this. -/
def Shows (s : State) (shared : SharedRead.State) : Prop :=
  ∃ steps t, Trace State.step? s steps t ∧ t.shared = shared ∧ Calm t

section

variable {steps : List Step} {s t : State} {e : Step} {shared : SharedRead.State}

theorem shows_of_calm (calm : Calm s) : Shows s s.shared := ⟨[], s, .nil, rfl, calm⟩

theorem shows_of_move (move : Move s e t) (shows_ : Shows t shared) : Shows s shared := by
  obtain ⟨rest, u, went, same, calm⟩ := shows_
  exact ⟨e :: rest, u, Trace.append (.snoc .nil (step?_of_move move)) went, same, calm⟩

theorem shows_arrive (cons : Consistent steps s) (calm : Calm s) (key : String) :
    Shows s (s.shared.arrive key) := by
  have asks : Move s (.ask key none) (s.letIn key) := .letIn
  have enters : Move (s.letIn key) (.enter key) ((s.letIn key).enter key) :=
    .enter (List.mem_cons_self ..)
  refine shows_of_move asks (shows_of_move enters ?_)
  refine shows_of_calm ⟨fun {caller id} waits => ?_, fun {id} reading => ?_⟩
  · obtain ⟨joined, callers⟩ := callers_enter (s.letIn key) key
    rw [SharedRead.State.Waits, callers] at waits
    obtain waits | ⟨rfl, -⟩ := getElem?_concat_cases waits
    · exact calm.callers waits
    · exact cons.unseated (Nat.le_refl _)
  · rw [phase_enter] at reading
    exact calm.tasks reading

/-- A caller that has its place goes through its code up to its departure. -/
theorem shows_leave (calm : Calm s) {caller : CallerId} {id : CallId} {call : Call}
    {d : Departure} (waits : s.shared.Waits caller id) (found : s.shared.calls[id]? = some call)
    (ends : ∀ s' : State, s'.shared = s.shared → s'.tasks = s.tasks →
      s'.stages caller = .listening → ∃ e', Move s' e' (s'.shift caller (.leaving d))) :
    Shows s ((s.shared.leaveCall id call).depart caller d) := by
  have listens : Move s (.listen caller) (s.shift caller .listening) :=
    .shift waits (calm.callers waits ▸ .listen caller)
  obtain ⟨e', stops⟩ := ends (s.shift caller .listening) rfl rfl (Function.update_self ..)
  let s' := (s.shift caller .listening).shift caller (.leaving d)
  have leaves : Move s' (.leave caller) (s'.leave caller id call d) :=
    .leave (c := ⟨id, none⟩) waits found (Function.update_self ..)
  refine shows_of_move listens (shows_of_move stops (shows_of_move leaves ?_))
  refine shows_of_calm ⟨fun {other read} waits' => ?_, fun {read} reading => ?_⟩
  · rw [SharedRead.State.Waits, callers_leave] at waits'
    by_cases same : other = caller
    · subst same
      rw [if_pos rfl] at waits'
      obtain ⟨was, -, departed⟩ := Option.map_eq_some_iff.1 waits'
      cases departed
    · rw [if_neg same] at waits'
      show Function.update s'.stages caller (.left d) other = .seated
      rw [Function.update_of_ne same]
      simpa [s', State.shift, Function.update_of_ne same] using calm.callers waits'
  · rw [phase_leave] at reading
    exact calm.tasks reading

/-- The wait of a task is over, and its read leaves the table. -/
theorem shows_finish (cons : Consistent steps s) (calm : Calm s) {id : CallId} {call : Call}
    {ending : Ending} (found : s.shared.calls[id]? = some call) (reading : call.phase = .reading)
    (seen : ending = .aborted → call.cancelled = true) :
    Shows s (s.shared.endTask id call ending) := by
  have here := calm.tasks ((phase_of_found found).trans reading)
  have settles := Move.settle found here seen
  -- Only the task moves on, and only the phase of its read changes.
  have withdrawn : ∀ s' : State, s'.shared = s.shared → s'.stages = s.stages →
      (∀ other, other ≠ id → s'.tasks other = s.tasks other) →
        (s'.tasks id).point = .withdrawing ending → Shows s' (s.shared.endTask id call ending) := by
    intro s' sameShared sameStages sameTasks here'
    have withdraws : Move s' (.withdraw id) (s'.withdraw id call ending) :=
      .withdraw (sameShared ▸ found) here'
    have shown : (s'.withdraw id call ending).shared = s.shared.endTask id call ending := by
      rw [← sameShared]
      rfl
    rw [← shown]
    refine shows_of_move withdraws (shows_of_calm ⟨fun {caller read} waits => ?_,
      fun {read} goesOn => ?_⟩)
    · rw [SharedRead.State.Waits, callers_withdraw, sameShared] at waits
      exact (congrFun sameStages caller).trans (calm.callers waits)
    · have replaces : Replaces s.shared (s'.withdraw id call ending).shared id call _ :=
        shown ▸ replaces_endTask found
      rw [phase_of_replaces replaces] at goesOn
      split at goesOn
      · cases goesOn
      · next different =>
        show (Function.update s'.tasks id _ read).point = .fetching
        rw [Function.update_of_ne different, sameTasks read different]
        exact calm.tasks goesOn
  cases ending with
  | lost =>
    let s' := s.advance id ((s.tasks id).settle .lost)
    have here' : (s'.tasks id).point = .closing := by simp [s', State.advance, Task.settle]
    refine shows_of_move settles (shows_of_move (.close (s := s') found here') ?_)
    refine withdrawn _ rfl rfl (fun other different => ?_) ?_
    · simp [s', State.advance, Function.update_of_ne different]
    · have unnoted := ((cons.course id).of_fetching here).2
      simp [s', State.advance, Task.settle, Task.close, unnoted]
  | fetched | aborted =>
    refine shows_of_move settles (withdrawn _ rfl rfl (fun other different => ?_) ?_)
    · exact Function.update_of_ne different _ _
    · simp [State.advance, Task.settle]

/-- A task sends. -/
theorem shows_publish (cons : Consistent steps s) (calm : Calm s) {id : CallId} {call : Call}
    {result : Result} (found : s.shared.calls[id]? = some call)
    (ended : call.phase = .ending result) : Shows s (s.shared.makePublic id result) := by
  have course := cons.course id
  rw [phase_of_found found, ended] at course
  obtain ⟨ending, here, rfl⟩ := course.of_ending
  refine shows_of_move (.send found here) (shows_of_calm ⟨calm.callers, fun {read} goesOn => ?_⟩)
  have replaces : Replaces s.shared (s.shared.makePublic id ending.result) id call _ :=
    replaces_makePublic found
  rw [phase_of_replaces replaces] at goesOn
  split at goesOn
  · cases goesOn
  · next different =>
    show (Function.update s.tasks id _ read).point = .fetching
    rw [Function.update_of_ne different]
    exact calm.tasks goesOn

theorem shows_of_sharedMove (cons : Consistent steps s) (calm : Calm s) {e : SharedRead.Step}
    (move : SharedRead.Move s.shared e shared) : Shows s shared := by
  cases move with
  | @join key id held =>
    have arrives := shows_arrive cons calm key
    rwa [SharedRead.State.arrive, held] at arrives
  | @start key absent =>
    have arrives := shows_arrive cons calm key
    rwa [SharedRead.State.arrive, absent] at arrives
  | @leave _ caller d id call waits found leaves =>
    refine shows_leave calm waits found fun s' sameShared sameTasks here => ?_
    have seat : s'.shared.callers[caller]? = some ⟨id, none⟩ := sameShared ▸ waits
    cases leaves with
    | stop _ reason => exact ⟨.stop caller reason, .shift seat (here ▸ .stop caller reason)⟩
    | drop => exact ⟨.drop caller, .shift seat (here ▸ .drop caller)⟩
    | @answer _ result there =>
      have course := cons.course id
      rw [phase_of_found found, there, ← sameTasks] at course
      have hears : s'.hear id = some (.value (some result)) :=
        (hear_eq_some_iff seat (by rw [here]; rfl)).2 ⟨result, course.of_published, rfl⟩
      exact ⟨.hear caller, .shift seat (here ▸ .hear caller hears)⟩
  | finish found reading seen => exact shows_finish cons calm found reading seen
  | publish found ended => exact shows_publish cons calm found ended

end

/-! ## Both ways -/

/-- The parties can take any steps of `SharedRead`. -/
theorem exists_run_of_reachable {shared : SharedRead.State} (reachable : Reachable shared) :
    Shows .initial shared := by
  induction reachable with
  | initial => exact shows_of_calm ⟨fun _ => rfl, fun _ => rfl⟩
  | step _ e taken ih =>
    obtain ⟨steps, s, went, rfl, calm⟩ := ih
    have cons := consistent_of_trace went
    obtain ⟨rest, t, went', same, calm'⟩ :=
      shows_of_sharedMove cons calm (SharedRead.move_of_step taken)
    exact ⟨steps ++ rest, t, went.append went', same, calm'⟩

/-- **The code and `SharedRead` reach the same tables, counts and callers.** -/
theorem reachable_iff {shared : SharedRead.State} :
    Reachable shared ↔ ∃ steps s, State.initial.run? steps = some s ∧ s.shared = shared := by
  constructor
  · intro reachable
    obtain ⟨steps, s, went, same, -⟩ := exists_run_of_reachable reachable
    exact ⟨steps, s, foldlM_of_trace went, same⟩
  · rintro ⟨steps, s, ran, rfl⟩
    exact (consistent_of_trace (trace_of_foldlM ran)).reachable

end RecordStore.SharedRead.Program
