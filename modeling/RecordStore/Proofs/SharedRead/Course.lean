/-
RecordStore.Proofs.SharedRead.Course -- what every party of a shared read has behind it

A task that has ended has one way behind it: its wait ended once, its read left
the table, and its result was sent once, either before its publisher was dropped
or by the publisher itself (`Course`).  Every point of the code stands for one
stretch of that way, and each step of a task leads from one to the next, so a
second sending would need a point that there is not.

`Consistent` ties the steps of a run to the state that they led to, for tasks and for
callers.  It says in particular that the table, the counts and the callers of the
state are ones that the steps of `SharedRead` reach (`Consistent.reachable`): a
party that goes through its code takes, at the moments when others can see it, the
steps that `SharedRead` allows, and no other ones (`sharedMove_of_move`).
-/
import RecordStore.Proofs.SharedRead.Lasting
import RecordStore.Proofs.SharedRead.Program
import RecordStore.Proofs.Trace

namespace RecordStore.SharedRead.Program

set_option autoImplicit false

/-! ## What a run says of a task -/

/-- How a step ends the wait of a task, if it does. -/
def Step.ending? (id : CallId) : Step → Option Ending
  | .settle other ending => if other = id then some ending else none
  | _ => none

/-- How the wait of a task ended, each time that it did. -/
def endings (id : CallId) (steps : List Step) : List Ending :=
  steps.filterMap (·.ending? id)

/-- The step sends a result of the read. -/
def Step.sends (id : CallId) : Step → Bool
  | .send other => other == id
  | _ => false

/-- How many results of the read were sent. -/
def sendings (id : CallId) (steps : List Step) : Nat := steps.countP (·.sends id)

theorem endings_concat (id : CallId) (steps : List Step) (e : Step) :
    endings id (steps ++ [e]) = endings id steps ++ (e.ending? id).toList := by
  unfold endings
  rw [List.filterMap_append]
  cases h : e.ending? id <;> simp [h]

theorem sendings_concat (id : CallId) (steps : List Step) (e : Step) :
    sendings id (steps ++ [e]) = sendings id steps + if e.sends id then 1 else 0 := by
  simp [sendings, List.countP_append, List.countP_singleton]

/-- The step is none of the task of the read. -/
def Step.Spares (id : CallId) (e : Step) : Prop := e.ending? id = none ∧ e.sends id = false

/-- The publisher of a task whose wait ended like this has noted that it publishes. -/
def notes : Ending → Bool
  | .lost => false
  | _ => true

/-- The way of a task: the task, the phase that its read shows, how its wait ended, and how many
results it sent. -/
inductive Course : Task → Phase → List Ending → Nat → Prop
  | fetching : Course ⟨.fetching, false, none⟩ .reading [] 0
  | lost : Course ⟨.closing, false, none⟩ .reading [.lost] 0
  | withdrawing (ending : Ending) :
      Course ⟨.withdrawing ending, notes ending, none⟩ .reading [ending] 0
  | sending (ending : Ending) :
      Course ⟨.sending ending, notes ending, none⟩ (.ending ending.result) [ending] 0
  | closing (ending : Ending) (noted : notes ending = true) :
      Course ⟨.closing, true, some ending.result⟩ (.published ending.result) [ending] 1
  | gone (ending : Ending) :
      Course ⟨.gone, notes ending, some ending.result⟩ (.published ending.result) [ending] 1

namespace Course

variable {t : Task} {phase : Phase} {ended : List Ending} {sent : Nat} {ending : Ending}

theorem settle (course : Course t phase ended sent) (here : t.point = .fetching)
    (ending : Ending) : Course (t.settle ending) phase (ended ++ [ending]) sent := by
  cases course <;> cases here
  cases ending with
  | fetched result => exact .withdrawing (.fetched result)
  | lost => exact .lost
  | aborted => exact .withdrawing .aborted

theorem withdraw (course : Course t phase ended sent) (here : t.point = .withdrawing ending) :
    phase = .reading ∧ ended = [ending] ∧
      Course { t with point := .sending ending } (.ending ending.result) ended sent := by
  cases course <;> cases here
  exact ⟨rfl, rfl, .sending ending⟩

theorem send (course : Course t phase ended sent) (here : t.point = .sending ending) :
    phase = .ending ending.result ∧
      Course (t.send ending) (.published ending.result) ended (sent + 1) := by
  cases course <;> cases here
  refine ⟨rfl, ?_⟩
  cases ending with
  | fetched result => exact .closing (.fetched result) rfl
  | lost => exact .gone .lost
  | aborted => exact .closing .aborted rfl

theorem close (course : Course t phase ended sent) (here : t.point = .closing) :
    Course t.close phase ended sent := by
  cases course with
  | lost => exact .withdrawing .lost
  | closing ending noted =>
    have gone := Course.gone ending
    rw [noted] at gone
    exact gone
  | _ => cases here

theorem noted_of_sending (course : Course t phase ended sent) (here : t.point = .sending ending) :
    t.noted = notes ending := by
  cases course <;> cases here
  rfl

/-- A result in the channel is the one with which the wait ended, and it was sent once. -/
theorem of_value (course : Course t phase ended sent) {result : Result}
    (held : t.value? = some result) :
    ∃ ending, ended = [ending] ∧ ending.result = result ∧ phase = .published result ∧
      sent = 1 := by
  cases course <;> cases held <;> exact ⟨_, rfl, rfl, rfl, rfl⟩

/-- A task that has ended has left a result in the channel. -/
theorem of_gone (course : Course t phase ended sent) (here : t.point = .gone) :
    ∃ ending, ended = [ending] ∧ t.value? = some ending.result ∧ sent = 1 := by
  cases course <;> cases here
  exact ⟨_, rfl, rfl, rfl⟩

theorem of_ending {result : Result} (course : Course t (.ending result) ended sent) :
    ∃ ending, t.point = .sending ending ∧ ending.result = result := by
  cases course with
  | sending ending => exact ⟨ending, rfl, rfl⟩

theorem of_published {result : Result} (course : Course t (.published result) ended sent) :
    t.value? = some result := by
  cases course <;> rfl

/-- Nothing was sent of a read that goes on. -/
theorem of_reading (course : Course t .reading ended sent) : t.value? = none ∧ sent = 0 := by
  cases course <;> exact ⟨rfl, rfl⟩

/-- A task that waits for its fetch has done nothing yet. -/
theorem of_fetching (course : Course t phase ended sent) (here : t.point = .fetching) :
    ended = [] ∧ t.noted = false := by
  cases course <;> cases here
  exact ⟨rfl, rfl⟩

end Course

/-! ## Views of a state -/

/-- The phase that a read shows; one that does not exist yet counts as going on. -/
def State.phase (s : State) (id : CallId) : Phase :=
  (s.shared.calls[id]?).elim .reading Call.phase

/-- How a caller of the table left, once it has. -/
def State.departure? (s : State) (caller : CallerId) : Option Departure :=
  (s.shared.callers[caller]?).bind Caller.departure?

theorem phase_of_found {s : State} {id : CallId} {call : Call}
    (found : s.shared.calls[id]? = some call) : s.phase id = call.phase := by
  rw [State.phase, found, Option.elim_some]

/-- What holds of a state and the steps that led to it. -/
structure Consistent (steps : List Step) (s : State) : Prop where
  /-- The table, the counts and the callers are ones that the steps of `SharedRead` lead to. -/
  reachable : Reachable s.shared
  course : ∀ id, Course (s.tasks id) (s.phase id) (endings id steps) (sendings id steps)
  unborn : ∀ {id}, s.shared.calls.length ≤ id → (s.tasks id).point = .fetching
  /-- Only a cancelled read is aborted. -/
  aborted : ∀ {id call}, s.shared.calls[id]? = some call → .aborted ∈ endings id steps →
    call.cancelled = true
  unseated : ∀ {caller}, s.shared.callers.length ≤ caller → s.stages caller = .seated
  departed : ∀ caller, (s.stages caller).departure? = s.departure? caller
  /-- An answer is what the channel of the read holds. -/
  answered : ∀ {caller c result}, s.shared.callers[caller]? = some c →
    (s.stages caller).answer? = some result → (s.tasks c.call).value? = some result

theorem consistent_initial : Consistent [] .initial where
  reachable := .initial
  course _ := .fetching
  unborn _ := rfl
  aborted found := by simp [State.initial, SharedRead.State.initial] at found
  unseated _ := rfl
  departed _ := rfl
  answered found := by simp [State.initial, SharedRead.State.initial] at found

section

variable {steps : List Step} {s t : State} {e : Step}

/-! ## What a listener hears -/

/-- Whoever has a place at a read has its sender. -/
theorem isHeld_of_place {caller : CallerId} {c : Caller}
    (found : s.shared.callers[caller]? = some c) (here : (s.stages caller).departure? = none) :
    s.isHeld c.call = true := by
  have place : (s.shared.callers.zipIdx.any fun x =>
      x.1.call == c.call && (s.stages x.2).departure?.isNone) = true := by
    rw [List.any_eq_true]
    exact ⟨(c, caller), List.mk_mem_zipIdx_iff_getElem?.2 found, by simp [here]⟩
  rw [State.isHeld, place, Bool.or_true]

/-- So it hears results only. -/
theorem hear_eq_some_iff {caller : CallerId} {c : Caller} {heard : Heard}
    (found : s.shared.callers[caller]? = some c) (here : (s.stages caller).departure? = none) :
    s.hear c.call = some heard ↔
      ∃ result, (s.tasks c.call).value? = some result ∧ heard = .value (some result) := by
  unfold State.hear
  dsimp only
  rw [isHeld_of_place found here, if_pos rfl]
  cases (s.tasks c.call).value? with
  | none => simp
  | some result => simp [eq_comm]

/-! ## Each step is a step of `SharedRead`, or none -/

variable (cons : Consistent steps s) (move : Move s e t)

include cons

theorem Consistent.waits {caller : CallerId} {c : Caller}
    (found : s.shared.callers[caller]? = some c) (here : (s.stages caller).departure? = none) :
    s.shared.Waits caller c.call := by
  have departed := cons.departed caller
  rw [here, State.departure?, found, Option.bind_some] at departed
  rw [SharedRead.State.Waits, found, departed]

/-- Nobody is answered from a cancelled read. -/
theorem Consistent.live_of_answer {caller : CallerId} {c : Caller} {call : Call} {result : Result}
    (found : s.shared.callers[caller]? = some c) (read : s.shared.calls[c.call]? = some call)
    (answer : (s.stages caller).answer? = some result) : call.cancelled = false := by
  have inv := invariant_of_reachable cons.reachable
  have departed := cons.departed caller
  rw [State.departure?, found, Option.bind_some] at departed
  cases here : s.stages caller with
  | seated | listening => rw [here] at answer; cases answer
  | leaving d => exact inv.live_of_waits (cons.waits found (by rw [here]; rfl)) read
  | left d =>
    rw [here] at answer departed
    cases d with
    | stopped | dropped => cases answer
    | answered given =>
      obtain ⟨call', read', -, live⟩ := inv.answered found departed.symm
      obtain rfl := Option.some.inj (read'.symm.trans read)
      exact live

/-- Nobody was answered from a read whose fetch goes on. -/
theorem Consistent.unanswered_of_fetching {caller : CallerId} {id : CallId}
    (fetching : (s.tasks id).point = .fetching)
    (place : ∀ c, s.shared.callers[caller]? = some c → c.call = id) :
    (s.stages caller).answer? = none := by
  cases found : s.shared.callers[caller]? with
  | none => rw [cons.unseated (List.getElem?_eq_none_iff.1 found)]; rfl
  | some c =>
    cases answer : (s.stages caller).answer? with
    | none => rfl
    | some result =>
      have held := cons.answered found answer
      obtain ⟨ending, once, -⟩ := (cons.course c.call).of_value held
      rw [((cons.course c.call).of_fetching (place c found ▸ fetching)).1] at once
      cases once

include move

theorem sharedMove_of_move :
    t.shared = s.shared ∨ ∃ e', SharedRead.Move s.shared e' t.shared := by
  cases move with
  | refuse | letIn | shift | settle | close => exact .inl rfl
  | @enter key here =>
    refine .inr ⟨.arrive key, ?_⟩
    show SharedRead.Move s.shared (.arrive key) (s.shared.arrive key)
    unfold SharedRead.State.arrive
    cases held : s.shared.table.get? key with
    | some id => exact .join held
    | none => exact .start held
  | @leave caller c call d found read here =>
    have waits := cons.waits found (by rw [here]; rfl)
    cases d with
    | stopped reason => exact .inr ⟨_, .leave waits read (.stop caller reason)⟩
    | dropped => exact .inr ⟨_, .leave waits read (.drop caller)⟩
    | answered result =>
      have held := cons.answered found (by rw [here]; rfl)
      obtain ⟨-, -, -, shows, -⟩ := (cons.course c.call).of_value held
      rw [phase_of_found read] at shows
      exact .inr ⟨_, .leave waits read (.answer caller shows)⟩
  | @withdraw id call ending found here =>
    obtain ⟨reading, once, -⟩ := (cons.course id).withdraw here
    rw [phase_of_found found] at reading
    exact .inr ⟨_, .finish found reading fun aborted =>
      cons.aborted found (by rw [once, aborted]; exact List.mem_singleton_self _)⟩
  | @send id call ending found here =>
    obtain ⟨shows, -⟩ := (cons.course id).send here
    rw [phase_of_found found] at shows
    exact .inr ⟨_, .publish found shows⟩

theorem reachable_next : Reachable t.shared := by
  obtain same | ⟨e', shared⟩ := sharedMove_of_move cons move
  · rw [same]
    exact cons.reachable
  · exact reachable_of_move cons.reachable shared

/-- Reads last. -/
theorem lasts_next {id : CallId} {call : Call} (found : s.shared.calls[id]? = some call) :
    ∃ call', t.shared.calls[id]? = some call' ∧ Lasts call call' := by
  obtain same | ⟨e', shared⟩ := sharedMove_of_move cons move
  · exact ⟨call, by rw [same]; exact found, .refl call⟩
  · exact lasts_of_move (invariant_of_reachable cons.reachable) shared found

/-- Callers stay at their reads, and leave for good. -/
theorem keepsPlace_next {caller : CallerId} {c : Caller}
    (found : s.shared.callers[caller]? = some c) :
    ∃ c', t.shared.callers[caller]? = some c' ∧ c'.call = c.call ∧
      ∀ d, c.departure? = some d → c'.departure? = some d := by
  obtain same | ⟨e', shared⟩ := sharedMove_of_move cons move
  · exact ⟨c, by rw [same]; exact found, rfl, fun _ left => left⟩
  · exact keepsPlace_of_move shared found

end

/-! ## A step more -/

section

variable {steps : List Step} {s t : State} {e : Step}

theorem phase_enter (s : State) (key : String) (id : CallId) :
    (s.enter key).phase id = s.phase id := by
  show ((s.shared.arrive key).calls[id]?).elim _ _ = (s.shared.calls[id]?).elim _ _
  unfold SharedRead.State.arrive
  cases s.shared.table.get? key with
  | some joined =>
    show (((s.shared.updateCall joined _).calls[id]?).elim _ _ : Phase) = _
    rw [getElem?_updateCall]
    split
    · cases s.shared.calls[id]? <;> rfl
    · rfl
  | none =>
    dsimp only [SharedRead.State.start]
    rw [List.getElem?_append]
    split
    · rfl
    · next beyond =>
      rw [List.getElem?_eq_none (Nat.le_of_not_lt beyond)]
      cases id - s.shared.calls.length <;> rfl

theorem phase_leave (s : State) (caller : CallerId) (left : CallId) (call : Call) (d : Departure)
    (id : CallId) : (s.leave caller left call d).phase id = s.phase id := by
  show ((s.shared.leaveCall left call).calls[id]?).elim _ _ = (s.shared.calls[id]?).elim _ _
  rw [getElem?_leaveCall]
  split
  · cases s.shared.calls[id]? <;> rfl
  · rfl

theorem phase_of_replaces {id : CallId} {before after : Call}
    (replaces : Replaces s.shared t.shared id before after) (other : CallId) :
    t.phase other = if other = id then after.phase else s.phase other := by
  split
  · next same =>
    subst same
    exact phase_of_found replaces.changed
  · next different => rw [State.phase, replaces.kept other different, State.phase]

/-- A step that is none of the task's, and leaves the task and what its read shows. -/
theorem course_of_spares (cons : Consistent steps s) {id : CallId} (spares : e.Spares id)
    (task : t.tasks id = s.tasks id) (phase : t.phase id = s.phase id) :
    Course (t.tasks id) (t.phase id) (endings id (steps ++ [e])) (sendings id (steps ++ [e])) := by
  rw [endings_concat, sendings_concat, spares.1, spares.2, task, phase]
  simpa using cons.course id

theorem spares_settle {id other : CallId} (different : other ≠ id) (ending : Ending) :
    (Step.settle id ending).Spares other :=
  ⟨if_neg (Ne.symm different), rfl⟩

theorem spares_send {id other : CallId} (different : other ≠ id) : (Step.send id).Spares other :=
  ⟨rfl, by simpa [Step.sends] using Ne.symm different⟩

theorem Shifts.spares {read : CallId} {caller : CallerId} {stage stage' : Stage}
    (shifts : Shifts s read e caller stage stage') (id : CallId) : e.Spares id := by
  cases shifts <;> exact ⟨rfl, rfl⟩

theorem course_next (cons : Consistent steps s) (move : Move s e t) (id : CallId) :
    Course (t.tasks id) (t.phase id) (endings id (steps ++ [e])) (sendings id (steps ++ [e])) := by
  cases move with
  | refuse | letIn => exact course_of_spares cons ⟨rfl, rfl⟩ rfl rfl
  | enter => exact course_of_spares cons ⟨rfl, rfl⟩ rfl (phase_enter s _ id)
  | shift found shifts => exact course_of_spares cons (shifts.spares id) rfl rfl
  | leave => exact course_of_spares cons ⟨rfl, rfl⟩ rfl (phase_leave s _ _ _ _ id)
  | @settle settled _ ending found here =>
    by_cases same : id = settled
    · subst same
      have course := (cons.course id).settle here ending
      rw [endings_concat, sendings_concat, Step.ending?, if_pos rfl]
      show Course (Function.update s.tasks id _ id) _ _ _
      rw [Function.update_self]
      exact course
    · exact course_of_spares cons (spares_settle same ending)
        (Function.update_of_ne same _ _) rfl
  | @withdraw withdrawn call ending found here =>
    have replaces : Replaces s.shared (s.shared.endTask withdrawn call ending) withdrawn call _ :=
      replaces_endTask found
    by_cases same : id = withdrawn
    · subst same
      obtain ⟨-, -, course⟩ := (cons.course id).withdraw here
      rw [endings_concat, sendings_concat, phase_of_replaces replaces, if_pos rfl]
      simpa [State.withdraw, State.advance, Step.ending?, Step.sends] using course
    · refine course_of_spares cons ⟨rfl, rfl⟩ (Function.update_of_ne same _ _) ?_
      rw [phase_of_replaces replaces, if_neg same]
  | @send sent call ending found here =>
    have replaces : Replaces s.shared (s.shared.makePublic sent ending.result) sent call _ :=
      replaces_makePublic found
    by_cases same : id = sent
    · subst same
      obtain ⟨-, course⟩ := (cons.course id).send here
      rw [endings_concat, sendings_concat, phase_of_replaces replaces, if_pos rfl]
      simpa [State.send, State.advance, Step.ending?, Step.sends] using course
    · refine course_of_spares cons (spares_send same) (Function.update_of_ne same _ _) ?_
      rw [phase_of_replaces replaces, if_neg same]
  | @close closed call found here =>
    by_cases same : id = closed
    · subst same
      have course := (cons.course id).close here
      rw [endings_concat, sendings_concat]
      show Course (Function.update s.tasks id _ id) (s.phase id) _ _
      rw [Function.update_self]
      simpa [Step.ending?, Step.sends] using course
    · exact course_of_spares cons ⟨rfl, rfl⟩ (Function.update_of_ne same _ _) rfl

/-- A read that was never settled or sent may not exist; one that was does. -/
theorem Consistent.born (cons : Consistent steps s) {id : CallId} {ending : Ending}
    (settled : ending ∈ endings id steps) : ∃ call, s.shared.calls[id]? = some call := by
  cases found : s.shared.calls[id]? with
  | some call => exact ⟨call, rfl⟩
  | none =>
    have unborn := cons.unborn (List.getElem?_eq_none_iff.1 found)
    rw [((cons.course id).of_fetching unborn).1] at settled
    cases settled

theorem unborn_next (cons : Consistent steps s) (move : Move s e t) {id : CallId}
    (beyond : t.shared.calls.length ≤ id) : (t.tasks id).point = .fetching := by
  have absent : s.shared.calls[id]? = none := by
    cases found : s.shared.calls[id]? with
    | none => rfl
    | some call =>
      obtain ⟨call', found', -⟩ := lasts_next cons move found
      exact absurd (List.getElem?_eq_some_iff.1 found').1 (Nat.not_lt.2 beyond)
  have before := cons.unborn (List.getElem?_eq_none_iff.1 absent)
  -- A task that moves belongs to a read that exists.
  have other : ∀ {moved : CallId} {call : Call} (task : Task),
      s.shared.calls[moved]? = some call →
        (Function.update s.tasks moved task id).point = .fetching := by
    intro moved call task found
    have different : id ≠ moved := by
      rintro rfl
      simp [absent] at found
    rw [Function.update_of_ne different]
    exact before
  cases move with
  | refuse | letIn | enter | shift | leave => exact before
  | settle found | withdraw found | send found | close found => exact other _ found

theorem aborted_next (cons : Consistent steps s) (move : Move s e t) {id : CallId} {call : Call}
    (found : t.shared.calls[id]? = some call) (settled : .aborted ∈ endings id (steps ++ [e])) :
    call.cancelled = true := by
  rw [endings_concat, List.mem_append] at settled
  obtain before | now := settled
  · obtain ⟨was, found'⟩ := cons.born before
    obtain ⟨call', here, lasts⟩ := lasts_next cons move found'
    obtain rfl := Option.some.inj (here.symm.trans found)
    exact lasts.cancelled (cons.aborted found' before)
  · cases move with
    | @settle other was ending found' here seen =>
      simp only [Step.ending?, Option.mem_toList] at now
      obtain ⟨rfl, aborted⟩ := Option.ite_none_right_eq_some.1 now
      obtain rfl := Option.some.inj (found'.symm.trans found)
      exact seen (Option.some.inj aborted)
    | shift _ shifts =>
      rw [(shifts.spares id).1] at now
      cases now
    | _ => cases now

theorem unseated_next (cons : Consistent steps s) (move : Move s e t) {caller : CallerId}
    (beyond : t.shared.callers.length ≤ caller) : t.stages caller = .seated := by
  have absent : s.shared.callers[caller]? = none := by
    cases found : s.shared.callers[caller]? with
    | none => rfl
    | some c =>
      obtain ⟨c', found', -⟩ := keepsPlace_next cons move found
      exact absurd (List.getElem?_eq_some_iff.1 found').1 (Nat.not_lt.2 beyond)
  have before := cons.unseated (List.getElem?_eq_none_iff.1 absent)
  have other : ∀ {moved : CallerId} {c : Caller} (stage : Stage),
      s.shared.callers[moved]? = some c →
        Function.update s.stages moved stage caller = .seated := by
    intro moved c stage found
    have different : caller ≠ moved := by
      rintro rfl
      simp [absent] at found
    rw [Function.update_of_ne different]
    exact before
  cases move with
  | refuse | letIn | enter | settle | withdraw | send | close => exact before
  | shift found | leave found => exact other _ found

/-- Whoever takes the table waits, and everybody else is where they were. -/
theorem callers_enter (s : State) (key : String) :
    ∃ id, (s.enter key).shared.callers = s.shared.callers ++ [⟨id, none⟩] := by
  show ∃ id, (s.shared.arrive key).callers = _
  unfold SharedRead.State.arrive
  cases s.shared.table.get? key with
  | some id => exact ⟨id, rfl⟩
  | none => exact ⟨s.shared.calls.length, rfl⟩

theorem callers_leave (s : State) (leaver : CallerId) (id : CallId) (call : Call) (d : Departure)
    (caller : CallerId) : (s.leave leaver id call d).shared.callers[caller]? =
      if caller = leaver then s.shared.callers[caller]?.map fun c => { c with departure? := some d }
      else s.shared.callers[caller]? := by
  show ((s.shared.leaveCall id call).depart leaver d).callers[caller]? = _
  rw [getElem?_depart, leaveCall_callers]

theorem callers_withdraw (s : State) (id : CallId) (call : Call) (ending : Ending) :
    (s.withdraw id call ending).shared.callers = s.shared.callers :=
  removeCurrent_callers s.shared id call.key

theorem departed_next (cons : Consistent steps s) (move : Move s e t) (caller : CallerId) :
    (t.stages caller).departure? = t.departure? caller := by
  have before := cons.departed caller
  cases move with
  | refuse | letIn | settle | send | close => exact before
  | @enter key here =>
    obtain ⟨id, callers⟩ := callers_enter s key
    rw [State.departure?, callers, List.getElem?_append]
    split
    · exact before
    · next beyond =>
      show (s.stages caller).departure? = _
      rw [cons.unseated (Nat.le_of_not_lt beyond)]
      cases caller - s.shared.callers.length <;> rfl
  | @shift _ moved c stage found shifts =>
    show (Function.update s.stages moved stage caller).departure? = s.departure? caller
    by_cases same : caller = moved
    · subst same
      rw [← before, Function.update_self]
      generalize s.stages caller = stage' at shifts
      cases shifts <;> rfl
    · rw [Function.update_of_ne same]
      exact before
  | @leave moved c call d found read here =>
    show (Function.update s.stages moved (.left d) caller).departure? = _
    rw [State.departure?, callers_leave]
    by_cases same : caller = moved
    · subst same
      rw [Function.update_self, if_pos rfl, found]
      rfl
    · rw [Function.update_of_ne same, if_neg same]
      exact before
  | withdraw =>
    rw [State.departure?, callers_withdraw]
    exact before

/-- What a channel holds stays there: only a task that has sent nothing sends. -/
theorem value?_next (cons : Consistent steps s) (move : Move s e t) {id : CallId}
    {result : Result} (held : (s.tasks id).value? = some result) :
    (t.tasks id).value? = some result := by
  -- The other steps of a task leave its channel alone.
  have kept : ∀ {moved : CallId} {task : Task}, task.value? = (s.tasks moved).value? →
      (Function.update s.tasks moved task id).value? = some result := by
    intro moved task same
    by_cases h : id = moved
    · subst h
      rw [Function.update_self, same, held]
    · rw [Function.update_of_ne h, held]
  cases move with
  | refuse | letIn | enter | shift | leave => exact held
  | @settle moved call ending => exact kept (by cases ending <;> rfl)
  | withdraw => exact kept rfl
  | @send moved call ending found here =>
    have different : id ≠ moved := by
      rintro rfl
      have course := cons.course id
      obtain ⟨-, -, -, shows, -⟩ := course.of_value held
      rw [(course.send here).1] at shows
      cases shows
    show (Function.update s.tasks moved _ id).value? = some result
    rw [Function.update_of_ne different, held]
  | close => exact kept rfl

/-- A caller keeps its answer when it gives up its place. -/
theorem answer?_leaving (d : Departure) : (Stage.leaving d).answer? = (Stage.left d).answer? := by
  cases d <;> rfl

/-- A caller that is answered after a step was answered before it, or has just heard its answer. -/
theorem answer_of_move (cons : Consistent steps s) (move : Move s e t) {caller : CallerId}
    {c : Caller} {result : Result} (found : t.shared.callers[caller]? = some c)
    (answer : (t.stages caller).answer? = some result) :
    (s.tasks c.call).value? = some result := by
  cases move with
  | refuse | letIn | settle | send | close => exact cons.answered found answer
  | @enter key here =>
    obtain ⟨id, callers⟩ := callers_enter s key
    rw [callers] at found
    obtain found | ⟨rfl, rfl⟩ := getElem?_concat_cases found
    · exact cons.answered found answer
    · have seated : (s.enter key).stages s.shared.callers.length = .seated :=
        cons.unseated (Nat.le_refl _)
      rw [seated] at answer
      cases answer
  | @shift _ moved c' stage found' shifts =>
    have answer : (Function.update s.stages moved stage caller).answer? = some result := answer
    by_cases same : caller = moved
    · subst same
      obtain rfl := Option.some.inj (found'.symm.trans found)
      rw [Function.update_self] at answer
      generalize here : s.stages caller = stage' at shifts
      cases shifts with
      | hear _ hears =>
        obtain ⟨held, there, rfl⟩ := (hear_eq_some_iff found' (by rw [here]; rfl)).1 hears
        obtain rfl : held = result := Option.some.inj answer
        exact there
      | listen | stop | drop => cases answer
    · rw [Function.update_of_ne same] at answer
      exact cons.answered found answer
  | @leave moved c' call d found' read here =>
    have answer : (Function.update s.stages moved (.left d) caller).answer? = some result := answer
    rw [callers_leave] at found
    by_cases same : caller = moved
    · subst same
      rw [if_pos rfl, found'] at found
      obtain rfl := Option.some.inj found
      rw [Function.update_self, ← answer?_leaving, ← here] at answer
      exact (cons.answered found' answer :)
    · rw [if_neg same] at found
      rw [Function.update_of_ne same] at answer
      exact cons.answered found answer
  | withdraw =>
    rw [callers_withdraw] at found
    exact cons.answered found answer

theorem answered_next (cons : Consistent steps s) (move : Move s e t) {caller : CallerId}
    {c : Caller} {result : Result} (found : t.shared.callers[caller]? = some c)
    (answer : (t.stages caller).answer? = some result) :
    (t.tasks c.call).value? = some result :=
  value?_next cons move (answer_of_move cons move found answer)

theorem consistent_of_move (cons : Consistent steps s) (move : Move s e t) :
    Consistent (steps ++ [e]) t where
  reachable := reachable_next cons move
  course := course_next cons move
  unborn := unborn_next cons move
  aborted := aborted_next cons move
  unseated := unseated_next cons move
  departed := departed_next cons move
  answered := answered_next cons move

end

/-! ## Along a run -/

section

variable {begun later : List Step} {s t : State} (cons : Consistent begun s)
  (trace : Trace State.step? s later t)

include cons trace

theorem consistent_append : Consistent (begun ++ later) t := by
  induction trace with
  | nil => simpa using cons
  | snoc _ taken ih =>
    rw [← List.append_assoc]
    exact consistent_of_move ih (move_of_step taken)

theorem lasts_of_trace {id : CallId} {call : Call} (found : s.shared.calls[id]? = some call) :
    ∃ call', t.shared.calls[id]? = some call' ∧ Lasts call call' := by
  induction trace with
  | nil => exact ⟨call, found, .refl call⟩
  | snoc before taken ih =>
    obtain ⟨call', found', lasts⟩ := ih
    obtain ⟨call'', found'', lasts'⟩ :=
      lasts_next (consistent_append cons before) (move_of_step taken) found'
    exact ⟨call'', found'', lasts.trans lasts'⟩

theorem keepsPlace_of_trace {caller : CallerId} {c : Caller}
    (found : s.shared.callers[caller]? = some c) :
    ∃ c', t.shared.callers[caller]? = some c' ∧ c'.call = c.call := by
  induction trace with
  | nil => exact ⟨c, found, rfl⟩
  | snoc before taken ih =>
    obtain ⟨c', found', same⟩ := ih
    obtain ⟨c'', found'', same', -⟩ :=
      keepsPlace_next (consistent_append cons before) (move_of_step taken) found'
    exact ⟨c'', found'', same'.trans same⟩

theorem value?_of_trace {id : CallId} {result : Result}
    (held : (s.tasks id).value? = some result) : (t.tasks id).value? = some result := by
  induction trace with
  | nil => exact held
  | snoc before taken ih =>
    exact value?_next (consistent_append cons before) (move_of_step taken) ih

end

/-- Every run leads to a state that fits its steps. -/
theorem consistent_of_trace {steps : List Step} {s : State}
    (trace : Trace State.step? .initial steps s) : Consistent steps s :=
  consistent_append consistent_initial trace

end RecordStore.SharedRead.Program
