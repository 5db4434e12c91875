/-
RecordStore.Proofs.Staleness -- how old the result of a shared read can be

A get that is answered gives what its key held at one instant: the one at which
the client looked for the item of the read that served it.  That instant comes
after the request of the read was sent, and before the get was answered
(`fresh_of_run`).

So a get can miss a save only if the save had not returned when the request was
sent.  A get that starts its read by itself misses none that returned before it came,
because nobody sends the request of a read that does not exist yet.  A get that
joins a read may miss a save that returned before it came, as in
`fresh_missedSave`.
-/
import RecordStore.Proofs.SharedRead.SingleFlight
import RecordStore.Proofs.Traffic

namespace RecordStore.Traffic

set_option autoImplicit false

open RecordStore.Wire RecordStore.SharedRead

section

variable {a : Adapter} {s t : State} {e : Step} {steps : List Step}

/-! ## The shared reads among the traffic -/

theorem reads_of_move (move : Move a s e t) :
    t.reads = s.reads ∨ ∃ e', StandsFor s e e' ∧ s.reads.step? e' = some t.reads := by
  cases move with
  | read stands taken => exact .inr ⟨_, stands, taken⟩
  | _ => exact .inl rfl

/-- What the parties of shared reads do in the course of a run is a run of theirs. -/
theorem reads_of_trace (trace : Trace (State.step? a) s steps t) :
    ∃ parts, Trace Program.State.step? s.reads parts t.reads := by
  induction trace with
  | nil => exact ⟨[], .nil⟩
  | snoc _ taken ih =>
    obtain ⟨parts, went⟩ := ih
    obtain same | ⟨e', -, taken'⟩ := reads_of_move (move_of_step taken)
    · exact ⟨parts, same ▸ went⟩
    · exact ⟨parts ++ [e'], went.snoc taken'⟩

/-! ## Requests of reads -/

/-- A request is sent once, and then the client looks once, while the task waits. -/
theorem fetches_of_move (move : Move a s e t) (id : CallId) :
    t.fetches id = s.fetches id ∨
      (e = .dispatch id ∧ s.fetches id = .unsent ∧ t.fetches id = .sent) ∨
        (e = .look id ∧ s.fetches id = .sent ∧ (s.reads.tasks id).point = .fetching ∧
          ∃ call, s.reads.shared.calls[id]? = some call ∧
            t.fetches id = .seen (s.client.complete (.read (a.readRequest call.key))).1) := by
  cases move with
  | @dispatch sent call found unsent =>
    by_cases same : id = sent
    · subst same
      exact .inr (.inl ⟨rfl, unsent, Function.update_self ..⟩)
    · exact .inl (Function.update_of_ne same _ _)
  | @look looked call found here sent =>
    by_cases same : id = looked
    · subst same
      exact .inr (.inr ⟨rfl, sent, here, call, found, Function.update_self ..⟩)
    · exact .inl (Function.update_of_ne same _ _)
  | _ => exact .inl rfl

/-- An answer of the client stays. -/
theorem seen_of_move (move : Move a s e t) {id : CallId} {outcome : Except WireError ItemFound}
    (seen : s.fetches id = .seen outcome) : t.fetches id = .seen outcome := by
  obtain same | ⟨-, unsent, -⟩ | ⟨-, sent, -⟩ := fetches_of_move move id
  · rw [same, seen]
  · rw [seen] at unsent
    cases unsent
  · rw [seen] at sent
    cases sent

/-- The client looked for the item of a read: the request was sent after `begun`, and after
`reading` the client looked, at `u`, while the task of the read waited. -/
structure Looked (a : Adapter) (start : State) (id : CallId) (outcome : Except WireError ItemFound)
    (begun reading : List Step) (u : State) : Prop where
  reached : Trace (State.step? a) start (begun ++ .dispatch id :: reading) u
  waits : (u.reads.tasks id).point = .fetching
  outcome : ∃ call, u.reads.shared.calls[id]? = some call ∧
    outcome = (u.client.complete (.read (a.readRequest call.key))).1

theorem sent_of_trace {client : Emulator} (trace : Trace (State.step? a) (.initial client) steps s)
    {id : CallId} (sent : s.fetches id = .sent) :
    ∃ begun reading, steps = begun ++ .dispatch id :: reading := by
  induction trace with
  | nil => cases sent
  | @snoc steps s t e _ taken ih =>
    obtain same | ⟨rfl, -⟩ | ⟨-, -, -, call, -, seen⟩ := fetches_of_move (move_of_step taken) id
    · obtain ⟨begun, reading, rfl⟩ := ih (same ▸ sent)
      exact ⟨begun, reading ++ [e], by simp⟩
    · exact ⟨steps, [], rfl⟩
    · rw [seen] at sent
      cases sent

theorem looked_of_trace {client : Emulator}
    (trace : Trace (State.step? a) (.initial client) steps s) {id : CallId}
    {outcome : Except WireError ItemFound} (seen : s.fetches id = .seen outcome) :
    ∃ begun reading u, begun ++ .dispatch id :: reading <+: steps ∧
      Looked a (.initial client) id outcome begun reading u := by
  induction trace with
  | nil => cases seen
  | snoc before taken ih =>
    obtain same | ⟨-, -, sent⟩ | ⟨rfl, sent, here, call, found, given⟩ :=
      fetches_of_move (move_of_step taken) id
    · obtain ⟨begun, reading, u, order, looked⟩ := ih (same ▸ seen)
      exact ⟨begun, reading, u, order.trans (List.prefix_append _ _), looked⟩
    · rw [sent] at seen
      cases seen
    · obtain ⟨begun, reading, rfl⟩ := sent_of_trace before sent
      rw [given] at seen
      cases seen
      exact ⟨begun, reading, _, List.prefix_append _ _, before, here, call, found, rfl⟩

/-- What a fetch gave is what the client answered. -/
theorem fetched_of_trace {client : Emulator}
    (trace : Trace (State.step? a) (.initial client) steps s) :
    ∃ parts, Trace Program.State.step? .initial parts s.reads ∧
      ∀ id result, .fetched result ∈ Program.endings id parts →
        ∃ outcome, s.fetches id = .seen outcome ∧
          Timeline.endingOf (some outcome) = .fetched result := by
  induction trace with
  | nil => exact ⟨[], .nil, fun _ _ ended => nomatch ended⟩
  | @snoc steps s t e _ taken ih =>
    obtain ⟨parts, went, sourced⟩ := ih
    have move := move_of_step taken
    have kept : ∀ id result, .fetched result ∈ Program.endings id parts →
        ∃ outcome, t.fetches id = .seen outcome ∧
          Timeline.endingOf (some outcome) = .fetched result := by
      intro id result ended
      obtain ⟨outcome, seen, gives⟩ := sourced id result ended
      exact ⟨outcome, seen_of_move move seen, gives⟩
    obtain same | ⟨e', stands, taken'⟩ := reads_of_move move
    · exact ⟨parts, same ▸ went, kept⟩
    · refine ⟨parts ++ [e'], went.snoc taken', fun id result ended => ?_⟩
      rw [Program.endings_concat, List.mem_append] at ended
      obtain ended | ended := ended
      · exact kept id result ended
      · rw [Option.mem_toList] at ended
        -- Only the answer of the client ends a fetch with a result.
        cases stands with
        | get => cases ended
        | @go e' alone =>
          cases e' with
          | settle other ending =>
            obtain ⟨-, same⟩ := Option.ite_none_right_eq_some.1 ended
            obtain rfl := Option.some.inj same
            cases alone
          | _ => cases ended
        | @receive other outcome seen =>
          obtain ⟨rfl, same⟩ := Option.ite_none_right_eq_some.1 ended
          exact ⟨outcome, seen_of_move move seen, Option.some.inj same⟩

/-! ## The instant of a result -/

theorem reads_of_enter {key : String} (taken : s.step? a (.go (.enter key)) = some t) :
    t.reads = s.reads.enter key := by
  obtain ⟨reads, went, taken⟩ := Option.bind_eq_some_iff.1 taken
  obtain rfl := Option.some.inj taken
  exact Program.eq_enter_of_move (Program.move_of_step went)

theorem exists_of_dispatch {id : CallId} (taken : s.step? a (.dispatch id) = some t) :
    ∃ call, t.reads.shared.calls[id]? = some call := by
  cases move_of_step taken with
  | dispatch found => exact ⟨_, found⟩
  | read stands => cases stands

variable {client : Emulator} (trace : Trace (State.step? a) (.initial client) steps s)

include trace

theorem reads_consistent : ∃ parts, Program.Consistent parts s.reads := by
  obtain ⟨parts, went⟩ := reads_of_trace trace
  exact ⟨parts, Program.consistent_of_trace went⟩

/-- A result that is not the loss of the task is what the client answered to the request of the
read. -/
theorem looked_of_answer {caller : CallerId} {c : Caller} {call : Call} {result : Result}
    (found : s.reads.shared.callers[caller]? = some c)
    (read : s.reads.shared.calls[c.call]? = some call)
    (answer : (s.reads.stages caller).answer? = some result)
    (kept : result ≠ .error (.internal .readEnded)) :
    ∃ outcome begun reading u, Timeline.endingOf (some outcome) = .fetched result ∧
      begun ++ .dispatch c.call :: reading <+: steps ∧
      Looked a (.initial client) c.call outcome begun reading u := by
  obtain ⟨parts, went, sourced⟩ := fetched_of_trace trace
  have cons := Program.consistent_of_trace went
  obtain ⟨ending, once, gives, -⟩ := (cons.course c.call).of_value (cons.answered found answer)
  have ended : ending ∈ Program.endings c.call parts := by
    rw [once]
    exact List.mem_singleton_self _
  cases ending with
  | lost => exact absurd gives.symm kept
  | aborted =>
    have live := cons.live_of_answer found read answer
    rw [cons.aborted read ended] at live
    cases live
  | fetched given =>
    obtain rfl : given = result := gives
    obtain ⟨outcome, seen, ends⟩ := sourced c.call given ended
    obtain ⟨begun, reading, u, order, looked⟩ := looked_of_trace trace seen
    exact ⟨outcome, begun, reading, u, ends, order, looked⟩

/-- A caller that starts its read came before the request of the read was sent. -/
theorem enter_before_dispatch {begun before after : List Step} {v : State} {caller : CallerId}
    {c : Caller} {key : String} (found : s.reads.shared.callers[caller]? = some c)
    (order : begun ++ [.dispatch c.call] <+: steps)
    (parts : steps = before ++ .go (.enter key) :: after)
    (came : Trace (State.step? a) (.initial client) before v)
    (here : v.reads.shared.callers.length = caller)
    (absent : v.reads.shared.table.get? key = none) : before <+: begun := by
  have order' : before ++ [.go (.enter key)] <+: steps := ⟨after, by simp [parts]⟩
  obtain first | first := List.prefix_or_prefix_of_prefix order' order
  · obtain same | first := List.prefix_concat_iff.1 first
    · exact nomatch (List.append_inj' same rfl).2
    · exact (List.prefix_append _ _).trans first
  · exfalso
    obtain same | first := List.prefix_concat_iff.1 first
    · exact nomatch (List.append_inj' same rfl).2
    · -- Then the read was there when the caller came, so the caller did not start it.
      subst parts
      obtain ⟨v', w, came', enters, later⟩ := trace.split_cons
      obtain rfl := came.unique came'
      obtain ⟨rest, rfl⟩ := first
      rw [List.append_assoc, List.singleton_append] at came
      obtain ⟨d, d', reached, dispatched, since⟩ := came.split_cons
      obtain ⟨call, there⟩ := exists_of_dispatch dispatched
      obtain ⟨_, cons⟩ := reads_consistent (reached.snoc dispatched)
      obtain ⟨_, went⟩ := reads_of_trace since
      obtain ⟨call', there', -⟩ := Program.lasts_of_trace cons went there
      have seat : w.reads.shared.callers[caller]? = some ⟨v.reads.shared.calls.length, none⟩ := by
        rw [reads_of_enter enters]
        show (v.reads.shared.arrive key).callers[caller]? = _
        rw [SharedRead.State.arrive, absent, ← here]
        simp [SharedRead.State.start]
      obtain ⟨_, cons'⟩ := reads_consistent (came'.snoc enters)
      obtain ⟨_, went'⟩ := reads_of_trace later
      obtain ⟨c', found', same⟩ := Program.keepsPlace_of_trace cons' went' seat
      obtain rfl := Option.some.inj (found'.symm.trans found)
      rw [same] at there'
      exact absurd (List.getElem?_eq_some_iff.1 there').1 (Nat.lt_irrefl _)

end

/-! ## Every run -/

/-- What callers can rely on about the age of a result.  The request of the read `id` of a key was
sent after `begun`, in the state `d`; after `reading` the client looked, in the state `u`. -/
structure Fresh (a : Adapter) (client : Emulator) (steps : List Step) (id : CallId) (key : String)
    (caller : CallerId) (result : Result) (begun reading : List Step) (d u : State) : Prop where
  order : begun ++ .dispatch id :: reading <+: steps
  sent : (State.initial client).run? a begun = some d
  looked : (State.initial client).run? a (begun ++ .dispatch id :: reading) = some u
  /-- The caller was not answered yet. -/
  waiting : (u.reads.stages caller).answer? = none
  /-- The result is what the key held then, -/
  result : result = Adapter.recordOfFound ⟨u.client.item? a.table key⟩
  /-- which is the last item that was written by then. -/
  item : u.client.item? a.table key =
    ((u.wrote key (begun ++ .dispatch id :: reading)).getLast?).or (client.item? a.table key)
  /-- Every save that had returned when the request was sent had written. -/
  saved : ∀ n saving, d.saves[n]? = some saving → saving.result? = some (.ok ()) →
    .write n ∈ begun
  /-- So had every save that had returned when the caller came, if the caller started the read. -/
  own : ∀ before after v, steps = before ++ .go (.enter key) :: after →
    (State.initial client).run? a before = some v → v.reads.shared.callers.length = caller →
      v.reads.shared.table.get? key = none →
        ∀ n saving, v.saves[n]? = some saving → saving.result? = some (.ok ()) → .write n ∈ begun

/-- **The age of a result**, whatever gets and saves do: a get that is answered, and whose task was
not lost, gives what its key held after the request of its read was sent and before the get was
answered. -/
theorem fresh_of_run {a : Adapter} {client : Emulator} (willing : client.failure? = none)
    {steps : List Step} {s : State} (ran : (State.initial client).run? a steps = some s)
    {caller : CallerId} {c : Caller} {call : Call} {result : Result}
    (found : s.reads.shared.callers[caller]? = some c)
    (read : s.reads.shared.calls[c.call]? = some call)
    (answer : (s.reads.stages caller).answer? = some result)
    (kept : result ≠ .error (.internal .readEnded)) :
    ∃ begun reading d u,
      Fresh a client steps c.call call.key caller result begun reading d u := by
  have trace := trace_of_foldlM ran
  obtain ⟨outcome, begun, reading, u, ends, order, looked⟩ :=
    looked_of_answer trace found read answer kept
  obtain ⟨d, reached, -⟩ := looked.reached.split
  obtain ⟨rest, parts⟩ := order
  obtain ⟨u', reached', later⟩ := (parts ▸ trace).split
  obtain rfl := looked.reached.unique reached'
  obtain ⟨_, cons⟩ := reads_consistent looked.reached
  obtain ⟨_, went⟩ := reads_of_trace later
  obtain ⟨call', there, rfl⟩ := looked.outcome
  obtain ⟨now, here, lasts⟩ := Program.lasts_of_trace cons went there
  obtain rfl := Option.some.inj (here.symm.trans read)
  have ledger := ledger_of_trace willing looked.reached
  have returned : ∀ {before : List Step} {v : State} {n : Nat} {saving : Saving},
      Trace (State.step? a) (.initial client) before v → v.saves[n]? = some saving →
        saving.result? = some (.ok ()) → .write n ∈ before := by
    intro before v n saving came sent well
    have ledger := ledger_of_trace willing came
    exact ledger.written sent (ledger.concluded sent well)
  refine ⟨begun, reading, d, u, ⟨rest, parts⟩, foldlM_of_trace reached,
    foldlM_of_trace looked.reached, ?waiting, ?result, ledger.item _,
    fun n saving => returned reached, ?own⟩
  case waiting =>
    refine cons.unanswered_of_fetching looked.waits fun c' place => ?_
    obtain ⟨c'', found', same⟩ := Program.keepsPlace_of_trace cons went place
    obtain rfl := Option.some.inj (found'.symm.trans found)
    exact same.symm
  case result =>
    rw [Adapter.readRequest, Emulator.complete_read ledger.willing] at ends
    rw [lasts.key]
    exact (SharedRead.Ending.fetched.inj ends).symm
  case own =>
    intro before after v cut ran' place absent n saving sent well
    have came := trace_of_foldlM ran'
    have order : begun ++ [.dispatch c.call] <+: steps := ⟨reading ++ rest, by simp [← parts]⟩
    have first := enter_before_dispatch trace found order cut came place absent
    exact first.subset (returned came sent well)

/-- A get joins a read for which the client has looked already.  The save that it misses returned
before the get came, but not before the request of the read was sent. -/
def missedSave : List Step :=
  let m : Moment := ⟨0, 0, .unbounded⟩
  [.get m "k", .go (.enter "k"), .go (.listen 0), .dispatch 0, .look 0,
    .save m "k" (some (.ofText "k" "1" none)), .write 0, .conclude 0,
    .get m "k", .go (.enter "k"), .go (.listen 1), .receive 0, .go (.withdraw 0), .go (.send 0),
    .go (.hear 1)]

theorem fresh_missedSave :
    let a : Adapter := .new "t" .verbatim none
    ∃ s saving begun reading d u, (State.initial (.empty 5)).run? a missedSave = some s ∧
      s.saves[0]? = some saving ∧ saving.result? = some (.ok ()) ∧
      (s.reads.stages 1).answer? = some (.error .keyNotFound) ∧
      Fresh a (.empty 5) missedSave 0 "k" 1 (.error .keyNotFound) begun reading d u := by
  intro a
  have ran : (State.initial (.empty 5)).run? a missedSave = some _ := rfl
  have given : Except.error .keyNotFound ≠ (.error (.internal .readEnded) : Result) := nofun
  have willing : (Emulator.empty 5).failure? = none := rfl
  obtain ⟨begun, reading, d, u, fresh⟩ :=
    fresh_of_run willing ran (show _[1]? = some ⟨0, none⟩ from rfl) rfl rfl given
  exact ⟨_, _, begun, reading, d, u, ran, rfl, rfl, rfl, fresh⟩

end RecordStore.Traffic
