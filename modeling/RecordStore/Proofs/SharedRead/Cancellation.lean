/-
RecordStore.Proofs.SharedRead.Cancellation -- one caller's leaving is no other caller's business

A run is a list of steps from the initial state (`History`).  Three things about
a state can be read off the steps that led to it: which tasks have ended and how
(`ended_of_history`), how each caller left (`departure_of_history`), and which
reads were abandoned (`cancelled_iff_abandoned`).  A read is abandoned when a
caller left it for which nobody else waited, and its task had not ended by then
(`Abandoned`); that speaks of callers only, not of counts or of the table.

Since an abandoned read has no callers and gets none, a caller that stays is
answered from a read that was never cancelled, so what it gets is what the fetch
gave (`cancellationIsolated_of_run`).
-/
import Mathlib.Data.List.Induction
import RecordStore.Proofs.SharedRead.InFlight

namespace RecordStore.SharedRead

set_option autoImplicit false

/-! ## Runs -/

/-- The steps of a run that led to a state, the last one at the end. -/
inductive History : List Step → State → Prop
  | initial : History [] .initial
  | snoc {steps : List Step} {s t : State} {e : Step} (before : History steps s)
      (taken : s.step? e = some t) : History (steps ++ [e]) t

theorem run?_append (s : State) (first rest : List Step) :
    s.run? (first ++ rest) = (s.run? first).bind (·.run? rest) := by
  induction first generalizing s with
  | nil => rfl
  | cons e first ih =>
    simp only [List.cons_append, State.run?, Option.bind_eq_bind, ih, Option.bind_assoc]

theorem run?_singleton (s : State) (e : Step) : s.run? [e] = s.step? e := by
  cases h : s.step? e <;> simp [State.run?, h]

theorem history_of_run {steps : List Step} {s : State}
    (ran : State.initial.run? steps = some s) : History steps s := by
  induction steps using List.reverseRecOn generalizing s with
  | nil =>
    obtain rfl := Option.some.inj ran
    exact .initial
  | append_singleton steps e ih =>
    rw [run?_append, Option.bind_eq_some_iff] at ran
    obtain ⟨before, ran, taken⟩ := ran
    rw [run?_singleton] at taken
    exact .snoc (ih ran) taken

theorem run_of_history {steps : List Step} {s : State} (history : History steps s) :
    State.initial.run? steps = some s := by
  induction history with
  | initial => rfl
  | snoc _ taken ih => rw [run?_append, ih, Option.bind_some, run?_singleton, taken]

theorem History.reachable {steps : List Step} {s : State} (history : History steps s) :
    Reachable s :=
  reachable_of_run .initial (run_of_history history)

theorem length_le_of_move {s t : State} {e : Step} (move : Move s e t) :
    s.calls.length ≤ t.calls.length := by
  cases move with
  | join held => simp [State.join, State.updateCall]
  | start absent => simp [State.start]
  | leave waits found leaves => exact Nat.le_of_eq (replaces_leave found _ _).sameLength.symm
  | finish found reading seen => exact Nat.le_of_eq (replaces_endTask found).sameLength.symm
  | publish found ended => exact Nat.le_of_eq (replaces_makePublic found).sameLength.symm

/-! ## How tasks ended -/

/-- How a step ends the task of a read, if it does. -/
def Step.ending? (id : CallId) : Step → Option Ending
  | .finish other ending => if other = id then some ending else none
  | _ => none

/-- How the task of a read ended, each time that it did. -/
def endings (id : CallId) (steps : List Step) : List Ending :=
  steps.filterMap (·.ending? id)

theorem endings_concat (id : CallId) (steps : List Step) (e : Step) :
    endings id (steps ++ [e]) = endings id steps ++ (e.ending? id).toList := by
  unfold endings
  rw [List.filterMap_append]
  cases h : e.ending? id <;> simp [h]

theorem mem_endings {id : CallId} {ending : Ending} {steps : List Step} :
    ending ∈ endings id steps ↔ .finish id ending ∈ steps := by
  unfold endings
  rw [List.mem_filterMap]
  constructor
  · rintro ⟨e, member, ends⟩
    cases e with
    | finish other ending' =>
      simp only [Step.ending?, Option.ite_none_right_eq_some, Option.some.injEq] at ends
      obtain ⟨rfl, rfl⟩ := ends
      exact member
    | _ => simp [Step.ending?] at ends
  · intro member
    exact ⟨_, member, by simp [Step.ending?]⟩

theorem Leaves.ending?_eq_none {call : Call} {e : Step} {caller : CallerId} {d : Departure}
    (leaves : Leaves call e caller d) (id : CallId) : e.ending? id = none := by
  cases leaves <;> rfl

/-- What a task that ended gave. -/
def Phase.result? : Phase → Option Result
  | .reading => none
  | .ending result | .published result => some result

theorem result?_eq_none_iff {phase : Phase} : phase.result? = none ↔ phase = .reading := by
  cases phase <;> simp [Phase.result?]

/-- The phase of a read agrees with how its task ended: not at all, or once. -/
inductive Ended (call : Call) : List Ending → Prop
  | never (running : call.phase.result? = none) : Ended call []
  | once {ending : Ending} (gave : call.phase.result? = some ending.result)
      (seen : ending = .aborted → call.cancelled = true) : Ended call [ending]

theorem Ended.eq_nil_iff {call : Call} {list : List Ending} (ended : Ended call list) :
    list = [] ↔ call.phase = .reading := by
  rw [← result?_eq_none_iff]
  cases ended with
  | never running => simp [running]
  | once gave seen => simp [gave]

theorem Ended.mono {before after : Call} {list : List Ending} (ended : Ended before list)
    (sameResult : after.phase.result? = before.phase.result?)
    (kept : before.cancelled = true → after.cancelled = true) : Ended after list := by
  cases ended with
  | never running => exact .never (sameResult.trans running)
  | once gave seen => exact .once (sameResult.trans gave) fun aborted => kept (seen aborted)

theorem Ended.eq_singleton {call : Call} {list : List Ending} {result : Result}
    (ended : Ended call list) (gave : call.phase.result? = some result) :
    ∃ ending, list = [ending] ∧ ending.result = result ∧
      (ending = .aborted → call.cancelled = true) := by
  cases ended with
  | never running => simp [running] at gave
  | @once ending gave' seen => exact ⟨ending, rfl, Option.some.inj (gave'.symm.trans gave), seen⟩

/-- A task that never existed never ended. -/
theorem endings_of_absent {steps : List Step} {s : State} (history : History steps s)
    {id : CallId} (absent : s.calls.length ≤ id) : endings id steps = [] := by
  induction history with
  | initial => rfl
  | @snoc steps s t e before taken ih =>
    have move := move_of_step taken
    have absent' := Nat.le_trans (length_le_of_move move) absent
    have none_ : e.ending? id = none := by
      cases move with
      | join | start | publish => rfl
      | leave _ _ leaves => exact leaves.ending?_eq_none id
      | @finish other _ _ found _ _ =>
        have lt := (List.getElem?_eq_some_iff.1 found).1
        exact if_neg (Nat.ne_of_lt (Nat.lt_of_lt_of_le lt absent'))
    rw [endings_concat, ih absent', none_]
    rfl

theorem ended_of_history {steps : List Step} {s : State} (history : History steps s)
    {id : CallId} {call : Call} (found : s.calls[id]? = some call) :
    Ended call (endings id steps) := by
  induction history generalizing id call with
  | initial => simp [State.initial] at found
  | @snoc steps s t e before taken ih =>
    -- A step that ends no task of this read leaves the list of its endings as it was.
    have unended : e.ending? id = none → endings id (steps ++ [e]) = endings id steps :=
      fun none_ => by rw [endings_concat, none_, Option.toList_none, List.append_nil]
    cases move_of_step taken with
    | join held =>
      rw [unended rfl]
      obtain ⟨joined, was, -, -⟩ := (invariant_of_reachable before.reachable).current.1 held
      obtain ⟨rfl, rfl⟩ | ⟨-, found⟩ := (replaces_join was).cases found
      · exact (ih was).mono rfl fun cancelled => cancelled
      · exact ih found
    | start absent =>
      rw [unended rfl]
      obtain found | ⟨rfl, rfl⟩ := getElem?_concat_cases found
      · exact ih found
      · rw [endings_of_absent before (Nat.le_refl _)]
        exact .never rfl
    | leave waits was leaves =>
      rw [unended (leaves.ending?_eq_none id)]
      obtain ⟨rfl, rfl⟩ | ⟨-, found⟩ := (replaces_leave was _ _).cases found
      · exact (ih was).mono rfl fun cancelled => by simp [cancelled]
      · exact ih found
    | @finish other ended ending was reading seen =>
      obtain ⟨rfl, rfl⟩ | ⟨different, found⟩ := (replaces_endTask was).cases found
      · rw [endings_concat, (ih was).eq_nil_iff.2 reading]
        simp only [Step.ending?, if_true, Option.toList_some, List.nil_append]
        exact .once rfl seen
      · rw [unended (if_neg (Ne.symm different))]
        exact ih found
    | publish was ended =>
      rw [unended rfl]
      obtain ⟨rfl, rfl⟩ | ⟨-, found⟩ := (replaces_makePublic was).cases found
      · exact (ih was).mono (by rw [ended]; rfl) fun cancelled => cancelled
      · exact ih found

/-! ## How callers left -/

/-- The caller that leaves with a step. -/
def Step.leaver? : Step → Option CallerId
  | .stop caller _ | .drop caller | .answer caller => some caller
  | _ => none

theorem Leaves.leaver?_eq {call : Call} {e : Step} {caller : CallerId} {d : Departure}
    (leaves : Leaves call e caller d) : e.leaver? = some caller := by
  cases leaves <;> rfl

/-- Each way of leaving but that with an answer has its step in the run. -/
theorem departure_of_history {steps : List Step} {s : State} (history : History steps s)
    {caller : CallerId} {c : Caller} (found : s.callers[caller]? = some c) :
    (∀ reason, c.departure? = some (.stopped reason) → .stop caller reason ∈ steps) ∧
      (c.departure? = some .dropped → .drop caller ∈ steps) := by
  induction history generalizing caller c with
  | initial => simp [State.initial] at found
  | @snoc steps s t e before taken ih =>
    have old : s.callers[caller]? = some c →
        (∀ reason, c.departure? = some (.stopped reason) → .stop caller reason ∈ steps ++ [e]) ∧
          (c.departure? = some .dropped → .drop caller ∈ steps ++ [e]) := fun found =>
      ⟨fun reason left => List.mem_append_left _ ((ih found).1 reason left),
        fun left => List.mem_append_left _ ((ih found).2 left)⟩
    cases move_of_step taken with
    | join | start =>
      obtain found | ⟨-, rfl⟩ := getElem?_concat_cases found
      · exact old found
      · simp
    | @leave _ leaver d _ call _ _ leaves =>
      rw [getElem?_depart, leaveCall_callers] at found
      split at found
      · next same =>
        subst same
        obtain ⟨was, -, rfl⟩ := Option.map_eq_some_iff.1 found
        cases leaves <;> simp
      · exact old found
    | @finish id ended =>
      exact old (by rw [← removeCurrent_callers s id ended.key]; exact found)
    | publish => exact old found

/-! ## Which reads were abandoned -/

/-- The caller that leaves with this step is the last one that waits for the read, and the task of
the read has not ended in the run so far. -/
def Deserts (before : List Step) (s : State) (e : Step) (id : CallId) : Prop :=
  ∃ caller, e.leaver? = some caller ∧ s.Waits caller id ∧
    (∀ other, s.Waits other id → other = caller) ∧ endings id before = []

/-- At some step of the run the last caller of the read left, and its task had not ended. -/
def Abandoned (steps : List Step) (id : CallId) : Prop :=
  ∃ before e after s, steps = before ++ e :: after ∧ State.initial.run? before = some s ∧
    Deserts before s e id

theorem abandoned_concat {steps : List Step} {s : State} (history : History steps s) (e : Step)
    (id : CallId) :
    Abandoned (steps ++ [e]) id ↔ Abandoned steps id ∨ Deserts steps s e id := by
  constructor
  · rintro ⟨before, e', after, s', split, ran, deserts⟩
    obtain rfl | ⟨after, last, rfl⟩ := List.eq_nil_or_concat after
    · obtain ⟨rfl, rfl⟩ := List.append_singleton_inj.1 split
      obtain rfl := Option.some.inj (ran.symm.trans (run_of_history history))
      exact .inr deserts
    · rw [List.concat_eq_append, ← List.cons_append, ← List.append_assoc] at split
      obtain ⟨rfl, -⟩ := List.append_singleton_inj.1 split
      exact .inl ⟨before, e', after, s', rfl, ran, deserts⟩
  · rintro (⟨before, e', after, s', rfl, ran, deserts⟩ | deserts)
    · exact ⟨before, e', after ++ [e], s', by simp, ran, deserts⟩
    · exact ⟨steps, e, [], s, rfl, run_of_history history, deserts⟩

/-- Only a read that exists is abandoned. -/
theorem lt_of_abandoned {steps : List Step} {s : State} (history : History steps s) {id : CallId}
    (abandoned : Abandoned steps id) : id < s.calls.length := by
  induction history with
  | initial =>
    obtain ⟨before, e, after, s, split, -⟩ := abandoned
    simp at split
  | snoc before taken ih =>
    refine Nat.lt_of_lt_of_le ?_ (length_le_of_move (move_of_step taken))
    obtain abandoned | ⟨caller, -, waits, -⟩ := (abandoned_concat before _ id).1 abandoned
    · exact ih abandoned
    · exact (invariant_of_reachable before.reachable).joined waits

/-- For a caller that is about to leave, what the code checks and what the run says agree. -/
theorem abandons_iff_deserts {steps : List Step} {s : State} (history : History steps s)
    {e : Step} {caller : CallerId} {id : CallId} {call : Call} (waits : s.Waits caller id)
    (found : s.calls[id]? = some call) (leaver : e.leaver? = some caller) :
    Abandons s id call ↔ Deserts steps s e id := by
  have inv := invariant_of_reachable history.reachable
  have reading := (ended_of_history history found).eq_nil_iff
  have last := waitingOn_eq_one_iff waits
  rw [← inv.counted found] at last
  constructor
  · rintro ⟨one, held⟩
    have isOpen := inv.isOpen_of_held held found
    exact ⟨caller, leaver, waits, last.1 one, reading.2 isOpen.2⟩
  · rintro ⟨caller', leaver', waits', only, unended⟩
    obtain rfl : caller' = caller := by simpa [leaver'] using leaver
    have live := inv.live_of_waits waits found
    exact ⟨last.2 only, inv.current.2 ⟨call, found, rfl, live, reading.1 unended⟩⟩

theorem not_deserts_of_leaver {steps : List Step} {s : State} {e : Step} {id : CallId}
    (stays : e.leaver? = none) : ¬ Deserts steps s e id := by
  rintro ⟨caller, leaver, -⟩
  simp [stays] at leaver

/-- The flag of a read says whether it was abandoned. -/
theorem cancelled_iff_abandoned {steps : List Step} {s : State} (history : History steps s)
    {id : CallId} {call : Call} (found : s.calls[id]? = some call) :
    call.cancelled = true ↔ Abandoned steps id := by
  induction history generalizing id call with
  | initial => simp [State.initial] at found
  | @snoc steps s t e before taken ih =>
    rw [abandoned_concat before]
    have stays : e.leaver? = none → (Abandoned steps id ∨ Deserts steps s e id ↔
        Abandoned steps id) := fun none_ => by simp [not_deserts_of_leaver none_]
    cases move_of_step taken with
    | join held =>
      rw [stays rfl]
      obtain ⟨joined, was, -, -⟩ := (invariant_of_reachable before.reachable).current.1 held
      obtain ⟨rfl, rfl⟩ | ⟨-, found⟩ := (replaces_join was).cases found
      · exact (ih was :)
      · exact ih found
    | start absent =>
      rw [stays rfl]
      obtain found | ⟨rfl, rfl⟩ := getElem?_concat_cases found
      · exact ih found
      · simp only [Bool.false_eq_true, false_iff]
        exact fun abandoned => Nat.lt_irrefl _ (lt_of_abandoned before abandoned)
    | @leave _ caller _ left _ waits was leaves =>
      have leaver := leaves.leaver?_eq
      obtain ⟨rfl, rfl⟩ | ⟨different, found⟩ := (replaces_leave was _ _).cases found
      · rw [← ih was, ← abandons_iff_deserts before waits was leaver]
        simp
      · have elsewhere : ¬ Deserts steps s e id := by
          rintro ⟨caller', leaver', waits', -⟩
          obtain rfl : caller' = caller := by simpa [leaver] using leaver'.symm
          exact different (by simpa [show s.callers[_]? = _ from waits] using waits'.symm)
        rw [← ih found]
        simp [elsewhere]
    | finish was reading seen =>
      rw [stays rfl]
      obtain ⟨rfl, rfl⟩ | ⟨-, found⟩ := (replaces_endTask was).cases found
      · exact (ih was :)
      · exact ih found
    | publish was ended =>
      rw [stays rfl]
      obtain ⟨rfl, rfl⟩ | ⟨-, found⟩ := (replaces_makePublic was).cases found
      · exact (ih was :)
      · exact ih found

/-! ## What a caller that stays is answered -/

/-- What a caller that left was told; one that was dropped was told nothing. -/
def Departure.result? : Departure → Option Result
  | .answered result => some result
  | .stopped reason => some (.error (.cancelled reason))
  | .dropped => none

/-- What a caller was told, if it was told anything yet. -/
def Caller.result? (c : Caller) : Option Result := c.departure?.bind Departure.result?

/-- In this run the context of the caller did not end while it waited, and it was not dropped. -/
def Stays (steps : List Step) (caller : CallerId) : Prop :=
  (∀ reason, Step.stop caller reason ∉ steps) ∧ Step.drop caller ∉ steps

/-- No fetch of this run gave the result that a cancelled caller gets. -/
def FetchesUncancelled (steps : List Step) : Prop :=
  ∀ id reason, Step.finish id (.fetched (.error (.cancelled reason))) ∉ steps

/-- How cancelling is kept to the callers that asked for it, in a run and the state it led to. -/
structure CancellationIsolated (steps : List Step) (s : State) : Prop where
  /-- A read is cancelled exactly when its last caller left before its task had ended. -/
  cancelled_iff : ∀ id call, s.calls[id]? = some call →
    (call.cancelled = true ↔ Abandoned steps id)
  /-- A read for which some caller waits is not cancelled. -/
  waited : ∀ caller id, s.Waits caller id →
    ∃ call, s.calls[id]? = some call ∧ call.cancelled = false
  /-- A caller that stays is told what the one fetch of its read gave, or that it was lost. -/
  answer : ∀ caller c result, s.callers[caller]? = some c → Stays steps caller →
    c.result? = some result →
      endings c.call steps = [.fetched result] ∨
        (endings c.call steps = [.lost] ∧ result = .error (.internal .readEnded))
  /-- A caller that stays is not told that it was cancelled, unless a fetch says so. -/
  uncancelled : FetchesUncancelled steps → ∀ caller c, s.callers[caller]? = some c →
    Stays steps caller → ∀ reason, c.result? ≠ some (.error (.cancelled reason))

theorem answer_of_stays {steps : List Step} {s : State} (history : History steps s)
    {caller : CallerId} {c : Caller} {result : Result} (found : s.callers[caller]? = some c)
    (stays : Stays steps caller) (told : c.result? = some result) :
    endings c.call steps = [.fetched result] ∨
      (endings c.call steps = [.lost] ∧ result = .error (.internal .readEnded)) := by
  obtain ⟨stopped, dropped⟩ := departure_of_history history found
  obtain ⟨d, left, told⟩ := Option.bind_eq_some_iff.1 told
  cases d with
  | stopped reason => exact absurd (stopped reason left) (stays.1 reason)
  | dropped => exact absurd (dropped left) stays.2
  | answered answer =>
    obtain rfl : answer = result := Option.some.inj told
    obtain ⟨call, found', there, live⟩ :=
      (invariant_of_reachable history.reachable).answered found left
    obtain ⟨ending, once, rfl, seen⟩ :=
      (ended_of_history history found').eq_singleton (by rw [there]; rfl)
    cases ending with
    | fetched result => exact .inl once
    | lost => exact .inr ⟨once, rfl⟩
    | aborted => simp [live] at seen

/-- **Cancellation is isolated**, in every run of any number of callers over any keys. -/
theorem cancellationIsolated_of_run {steps : List Step} {s : State}
    (ran : State.initial.run? steps = some s) : CancellationIsolated steps s := by
  have history := history_of_run ran
  have inv := invariant_of_reachable history.reachable
  constructor
  case cancelled_iff =>
    intro id call found
    exact cancelled_iff_abandoned history found
  case waited =>
    intro caller id waits
    have found : s.calls[id]? = some _ := List.getElem?_eq_getElem (inv.joined waits)
    exact ⟨_, found, inv.live_of_waits waits found⟩
  case answer =>
    intro caller c result found stays told
    exact answer_of_stays history found stays told
  case uncancelled =>
    intro uncancelled caller c found stays reason told
    obtain once | ⟨-, lost⟩ := answer_of_stays history found stays told
    · exact uncancelled c.call reason (mem_endings.1 (by simp [once]))
    · cases lost

/-- Two callers share a read, the first is stopped, the fetch ends, and the second is answered. -/
def patientCaller : List Step :=
  [.arrive "k", .arrive "k", .stop 0 .deadlineExceeded,
    .finish 0 (.fetched (.error .keyNotFound)), .publish 0, .answer 1]

theorem cancellationIsolated_patientCaller :
    ∃ s, State.initial.run? patientCaller = some s ∧ Stays patientCaller 1 ∧
      s.callers[1]? = some ⟨0, some (.answered (.error .keyNotFound))⟩ ∧
      CancellationIsolated patientCaller s := by
  have ran : State.initial.run? patientCaller = some _ := rfl
  exact ⟨_, ran, by simp [Stays, patientCaller], rfl, cancellationIsolated_of_run ran⟩

end RecordStore.SharedRead
