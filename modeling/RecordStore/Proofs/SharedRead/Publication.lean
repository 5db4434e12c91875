/-
RecordStore.Proofs.SharedRead.Publication -- a result is sent once, and reaches everybody

A task ends in one of two ways: it sends a result, notes that, and drops its
publisher, or it is lost, and its publisher sends when it is dropped.  Either
way one result is in the channel when the task is gone, and none is sent after
it (`once_of_gone`, `silent_of_value`).  A caller with a place at the read hears
that result whenever it comes to listen, so nobody is left behind
(`answered_of_listening`, `answered_of_seated`), and a task whose fetch is over
comes to its end by steps of its own (`ends_of_settled`).

The two branches of a caller for a channel that gives no result are there in
`Heard.result`, and no run reaches them: an answer is how the wait of the task
ended (`ending_of_answer`), and `publication_of_run` draws the consequences for
the internal errors that a caller can see.
-/
import RecordStore.Proofs.SharedRead.Course

namespace RecordStore.SharedRead.Program

set_option autoImplicit false

section

variable {steps : List Step} {s t : State}

/-! ## Sent once -/

theorem once_of_gone (cons : Consistent steps s) {id : CallId} (here : (s.tasks id).point = .gone) :
    ∃ ending, endings id steps = [ending] ∧ (s.tasks id).value? = some ending.result ∧
      sendings id steps = 1 :=
  (cons.course id).of_gone here

/-- Once a result was sent, no other one is. -/
theorem silent_of_value (cons : Consistent steps s) {later : List Step}
    (trace : Trace State.step? s later t) {id : CallId} {result : Result}
    (held : (s.tasks id).value? = some result) : sendings id later = 0 := by
  have later_ := value?_of_trace cons trace held
  obtain ⟨-, -, -, -, before⟩ := (cons.course id).of_value held
  obtain ⟨-, -, -, -, after⟩ := ((consistent_append cons trace).course id).of_value later_
  rw [sendings, List.countP_append] at after
  rw [sendings] at before ⊢
  omega

/-! ## Tasks come to their end -/

/-- What a task has to do once its wait is over. -/
def finishing (id : CallId) : List Step := [.close id, .withdraw id, .send id]

/-- The task of a read can come to its end by steps of its own. -/
def Ends (s : State) (id : CallId) : Prop :=
  ∃ rest t, rest ⊆ finishing id ∧ s.run? rest = some t ∧ (t.tasks id).point = .gone

theorem ends_of_move {id : CallId} {e : Step} (own : e ∈ finishing id) (move : Move s e t)
    (ends : Ends t id) : Ends s id := by
  obtain ⟨rest, u, owned, ran, gone⟩ := ends
  exact ⟨e :: rest, u, List.cons_subset.2 ⟨own, owned⟩, (run?_of_move move rest).trans ran, gone⟩

/-- The task of a read with its publisher dropped after a result was noted is at its end. -/
theorem ends_of_closing {id : CallId} {call : Call} (found : s.shared.calls[id]? = some call)
    (here : (s.tasks id).point = .closing) (noted : (s.tasks id).noted = true) : Ends s id := by
  refine ends_of_move (by simp [finishing]) (.close found here) ⟨[], _, by simp, rfl, ?_⟩
  simp [State.advance, Task.close, noted]

theorem ends_of_sending (cons : Consistent steps s) {id : CallId} {call : Call} {ending : Ending}
    (found : s.shared.calls[id]? = some call) (here : (s.tasks id).point = .sending ending) :
    Ends s id := by
  have sends := Move.send found here
  refine ends_of_move (by simp [finishing]) sends ?_
  obtain ⟨call', found', -⟩ := lasts_next cons sends found
  have sent : ((s.send id ending).tasks id) = (s.tasks id).send ending := Function.update_self ..
  have noted := (cons.course id).noted_of_sending here
  cases ending with
  | lost => exact ⟨[], _, by simp, rfl, by rw [sent]; rfl⟩
  | fetched | aborted =>
    exact ends_of_closing found' (by rw [sent]; rfl) (by rw [sent]; exact noted)

theorem ends_of_withdrawing (cons : Consistent steps s) {id : CallId} {call : Call}
    {ending : Ending} (found : s.shared.calls[id]? = some call)
    (here : (s.tasks id).point = .withdrawing ending) : Ends s id := by
  have withdraws := Move.withdraw found here
  refine ends_of_move (by simp [finishing]) withdraws ?_
  obtain ⟨call', found', -⟩ := lasts_next cons withdraws found
  have here' : ((s.withdraw id call ending).tasks id).point = .sending ending := by
    simp [State.withdraw, State.advance]
  exact ends_of_sending (consistent_of_move cons withdraws) found' here'

theorem ends_of_settled (cons : Consistent steps s) {id : CallId} {call : Call}
    (found : s.shared.calls[id]? = some call) (settled : (s.tasks id).point ≠ .fetching) :
    Ends s id := by
  cases here : (s.tasks id).point with
  | fetching => exact absurd here settled
  | withdrawing ending => exact ends_of_withdrawing cons found here
  | sending ending => exact ends_of_sending cons found here
  | closing =>
    cases noted : (s.tasks id).noted with
    | true => exact ends_of_closing found here noted
    | false =>
      -- The publisher has to withdraw the read and to send by itself.
      have closes := Move.close found here
      refine ends_of_move (by simp [finishing]) closes ?_
      have here' : ((s.advance id (s.tasks id).close).tasks id).point = .withdrawing .lost := by
        simp [State.advance, Task.close, noted]
      exact ends_of_withdrawing (consistent_of_move cons closes) found here'
  | gone => exact ⟨[], s, by simp, rfl, here⟩

/-! ## Heard by everybody -/

variable (cons : Consistent steps s) {caller : CallerId} {c : Caller} {result : Result}
  (found : s.shared.callers[caller]? = some c)

include cons found

/-- The answer of a caller is how the wait of the task of its read ended. -/
theorem ending_of_answer (answer : (s.stages caller).answer? = some result) :
    ∃ ending, endings c.call steps = [ending] ∧ ending.result = result := by
  obtain ⟨ending, once, gives, -⟩ := (cons.course c.call).of_value (cons.answered found answer)
  exact ⟨ending, once, gives⟩

/-- A listener gets the result that is in the channel. -/
theorem answered_of_listening (here : s.stages caller = .listening)
    (held : (s.tasks c.call).value? = some result) :
    ∃ t, s.run? [.hear caller, .leave caller] = some t ∧
      t.stages caller = .left (.answered result) := by
  have hears := (hear_eq_some_iff found (by rw [here]; rfl)).2 ⟨result, held, rfl⟩
  have joined := (invariant_of_reachable cons.reachable).joined found
  obtain ⟨call, read⟩ : ∃ call, s.shared.calls[c.call]? = some call :=
    ⟨_, List.getElem?_eq_getElem joined⟩
  let s' := s.shift caller (.leaving (.answered result))
  have heard : Move s (.hear caller) s' := .shift found (here ▸ .hear caller hears)
  have here' : s'.stages caller = .leaving (.answered result) := Function.update_self ..
  refine ⟨s'.leave caller c.call call (.answered result), ?_, Function.update_self caller _ _⟩
  rw [run?_of_move heard, run?_of_move (Move.leave (s := s') found read here')]
  rfl

/-- And so does a caller that comes to listen when the result is there already. -/
theorem answered_of_seated (here : s.stages caller = .seated)
    (held : (s.tasks c.call).value? = some result) :
    ∃ t, s.run? [.listen caller, .hear caller, .leave caller] = some t ∧
      t.stages caller = .left (.answered result) := by
  have listens := Move.shift found (here ▸ Shifts.listen caller)
  have here' : (s.shift caller .listening).stages caller = .listening := Function.update_self ..
  obtain ⟨t, ran, answered⟩ :=
    answered_of_listening (consistent_of_move cons listens) found here' held
  exact ⟨t, (run?_of_move listens _).trans ran, answered⟩

end

/-! ## Every run -/

/-- What callers can rely on about the results of reads. -/
structure Publication (steps : List Step) (s : State) : Prop where
  /-- A task that has ended has sent one result, and it is in the channel. -/
  once : ∀ id, (s.tasks id).point = .gone → ∃ ending, endings id steps = [ending] ∧
    (s.tasks id).value? = some ending.result ∧ sendings id steps = 1
  /-- What is in a channel stays there, and nothing is sent after it. -/
  final : ∀ id result later t, (s.tasks id).value? = some result → s.run? later = some t →
    (t.tasks id).value? = some result ∧ sendings id later = 0
  /-- A task whose fetch is over comes to its end by steps of its own. -/
  ends : ∀ id call, s.shared.calls[id]? = some call → (s.tasks id).point ≠ .fetching → Ends s id
  /-- A listener gets the result in the channel. -/
  listening : ∀ (caller : CallerId) c result, s.shared.callers[caller]? = some c →
    s.stages caller = .listening → (s.tasks c.call).value? = some result →
      ∃ t, s.run? [.hear caller, .leave caller] = some t ∧
        t.stages caller = .left (.answered result)
  /-- And so does a caller that has yet to listen. -/
  seated : ∀ (caller : CallerId) c result, s.shared.callers[caller]? = some c →
    s.stages caller = .seated → (s.tasks c.call).value? = some result →
      ∃ t, s.run? [.listen caller, .hear caller, .leave caller] = some t ∧
        t.stages caller = .left (.answered result)
  /-- A listener never hears of a channel without a result or without a sender. -/
  heard : ∀ (caller : CallerId) c heard, s.shared.callers[caller]? = some c →
    s.stages caller = .listening → s.hear c.call = some heard →
      ∃ result, heard = .value (some result)
  /-- A caller is answered with what the wait of the task ended with. -/
  answered : ∀ (caller : CallerId) c result, s.shared.callers[caller]? = some c →
    (s.stages caller).answer? = some result →
      ∃ ending, endings c.call steps = [ending] ∧ ending.result = result
  /-- So an internal error comes from the fetch itself, or says that the task was lost. -/
  breach : ∀ (caller : CallerId) c breach, s.shared.callers[caller]? = some c →
    (s.stages caller).answer? = some (.error (.internal breach)) →
      endings c.call steps = [.fetched (.error (.internal breach))] ∨
        breach = .readEnded ∧ endings c.call steps = [.lost]

/-- **Nothing that is published is lost, and nobody is stuck**, whatever callers and tasks do. -/
theorem publication_of_run {steps : List Step} {s : State}
    (ran : State.initial.run? steps = some s) : Publication steps s := by
  have cons := consistent_of_trace (trace_of_foldlM ran)
  constructor
  case once => exact fun id here => once_of_gone cons here
  case final =>
    intro id result later t held ran
    have trace := trace_of_foldlM ran
    exact ⟨value?_of_trace cons trace held, silent_of_value cons trace held⟩
  case ends => exact fun id call found settled => ends_of_settled cons found settled
  case listening => exact fun caller c result => answered_of_listening cons
  case seated => exact fun caller c result => answered_of_seated cons
  case heard =>
    intro caller c heard found here hears
    obtain ⟨result, -, rfl⟩ := (hear_eq_some_iff found (by rw [here]; rfl)).1 hears
    exact ⟨result, rfl⟩
  case answered => exact fun caller c result => ending_of_answer cons
  case breach =>
    intro caller c breach found answer
    obtain ⟨ending, once, gives⟩ := ending_of_answer cons found answer
    cases ending with
    | fetched result =>
      obtain rfl : result = .error (.internal breach) := gives
      exact .inl once
    | lost =>
      simp only [Ending.result, Except.error.injEq, StoreError.internal.injEq] at gives
      exact .inr ⟨gives.symm, once⟩
    | aborted => simp [Ending.result] at gives

/-- The fetch panics while one caller listens; a second caller comes to listen when the task is
gone. -/
def lateListener : List Step :=
  [.ask "k" none, .enter "k", .ask "k" none, .enter "k", .listen 0, .settle 0 .lost, .close 0,
    .withdraw 0, .send 0, .listen 1, .hear 1, .leave 1]

theorem publication_lateListener :
    ∃ s, State.initial.run? lateListener = some s ∧ (s.tasks 0).point = .gone ∧
      s.stages 1 = .left (.answered (.error (.internal .readEnded))) ∧
        Publication lateListener s := by
  have ran : State.initial.run? lateListener = some _ := rfl
  exact ⟨_, ran, rfl, rfl, publication_of_run ran⟩

end RecordStore.SharedRead.Program
