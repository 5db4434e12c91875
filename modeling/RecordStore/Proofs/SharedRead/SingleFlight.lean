/-
RecordStore.Proofs.SharedRead.SingleFlight -- one fetch for callers that come together

A fetch is started by a caller that takes the table and finds no read of its key
there, and by nobody else (`fetched_of_trace`).  While a read stays in the table no
other fetch of its key is started (`single_of_trace`): one that was would be
newer, and of two reads of one key only the newer one can be open.

Nothing is kept for callers that come later.  A caller is given a read that is
open (`entrance`), so what it is answered was not sent yet when it came, and a
read that has left the table is not given to anybody again (`uncached_of_trace`).
That holds from the moment at which the entry goes, whether the result was sent by
then or not, and whether or not the task of an abandoned read still runs.
-/
import RecordStore.Proofs.SharedRead.Course

namespace RecordStore.SharedRead.Program

set_option autoImplicit false

/-! ## What is counted -/

/-- The keys of the fetches that were started, oldest first. -/
def State.fetched (s : State) : List String := s.shared.calls.map Call.key

/-- The key of the caller that a step lets find no read of it. -/
def State.misses (s : State) : Step → List String
  | .enter key => if (s.shared.table.get? key).isNone then [key] else []
  | _ => []

/-- The keys of the callers that took the table and found no read of theirs, in order. -/
def missed : State → List Step → List String
  | _, [] => []
  | s, e :: rest => s.misses e ++ (s.step? e).elim [] fun t => missed t rest

/-- The keys that were asked for by callers whose contexts were live. -/
def asked (steps : List Step) : List String :=
  steps.filterMap fun
    | .ask key none => some key
    | _ => none

/-- The keys of the callers that took the table. -/
def entered (steps : List Step) : List String :=
  steps.filterMap fun
    | .enter key => some key
    | _ => none

/-! ## Fetches -/

theorem keys_of_replaces {s t : SharedRead.State} {id : CallId} {before after : Call}
    (replaces : Replaces s t id before after) : t.calls.map Call.key = s.calls.map Call.key := by
  refine List.ext_getElem? fun other => ?_
  rw [List.getElem?_map, List.getElem?_map]
  by_cases same : other = id
  · subst same
    rw [replaces.changed, replaces.found, Option.map_some, Option.map_some, replaces.sameKey]
  · rw [replaces.kept other same]

/-- Taking the table starts a fetch if there is no read of the key, and nothing else does. -/
theorem fetched_of_move {steps : List Step} {s t : State} {e : Step} (cons : Consistent steps s)
    (move : Move s e t) : t.fetched = s.fetched ++ s.misses e := by
  unfold State.fetched
  cases move with
  | refuse | letIn | settle | close => simp [State.misses, State.letIn, State.advance]
  | @enter key here =>
    show (s.shared.arrive key).calls.map Call.key = _
    unfold SharedRead.State.arrive
    cases held : s.shared.table.get? key with
    | some id =>
      obtain ⟨joined, found, -, -⟩ :=
        (invariant_of_reachable cons.reachable).current.1 held
      simp [State.misses, held, keys_of_replaces (replaces_join found)]
    | none => simp [State.misses, held, SharedRead.State.start]
  | shift found shifts =>
    generalize s.stages _ = stage at shifts
    cases shifts <;> simp [State.misses, State.shift]
  | @leave caller c call d found read here =>
    exact (keys_of_replaces (replaces_leave read caller d)).trans (List.append_nil _).symm
  | withdraw found here =>
    exact (keys_of_replaces (replaces_endTask found)).trans (List.append_nil _).symm
  | send found here =>
    exact (keys_of_replaces (replaces_makePublic found)).trans (List.append_nil _).symm

theorem fetched_of_trace {begun later : List Step} {s t : State} (cons : Consistent begun s)
    (ran : s.run? later = some t) : t.fetched = s.fetched ++ missed s later := by
  induction later generalizing begun s with
  | nil =>
    obtain rfl := Option.some.inj ran
    simp [missed]
  | cons e rest ih =>
    rw [State.run?, List.foldlM_cons, Option.bind_eq_bind, Option.bind_eq_some_iff] at ran
    obtain ⟨u, taken, ran⟩ := ran
    have move := move_of_step taken
    rw [ih (consistent_of_move cons move) ran, fetched_of_move cons move, missed, taken,
      Option.elim_some, List.append_assoc]

/-- Callers whose contexts were live take the table once each. -/
theorem asked_perm {steps : List Step} {s : State} (trace : Trace State.step? .initial steps s) :
    (asked steps).Perm (entered steps ++ s.admitted) := by
  induction trace with
  | nil => exact .refl _
  | @snoc steps s t e _ taken ih =>
    -- No other step asks, enters or changes who is admitted.
    have kept : asked [e] = [] → entered [e] = [] → t.admitted = s.admitted →
        (asked (steps ++ [e])).Perm (entered (steps ++ [e]) ++ t.admitted) := by
      intro noAsk noEntry same
      unfold asked entered at *
      rw [List.filterMap_append, List.filterMap_append, noAsk, noEntry, same]
      simpa using ih
    cases move_of_step taken with
    | refuse => exact kept rfl rfl rfl
    | @letIn key =>
      have more := (List.perm_append_singleton key _).trans ((ih.cons key).trans
        List.perm_middle.symm)
      simpa [asked, entered, State.letIn] using more
    | @enter key here =>
      have fewer := ih.trans ((List.perm_cons_erase here).append_left _)
      simpa [asked, entered, State.enter] using fewer
    | shift found shifts =>
      generalize s.stages _ = stage at shifts
      cases shifts <;> exact kept rfl rfl rfl
    | leave | settle | withdraw | send | close => exact kept rfl rfl rfl

section

variable {begun later : List Step} {s t : State} (cons : Consistent begun s)
  (trace : Trace State.step? s later t)

include cons trace

/-- While a read stays in the table, no other fetch of its key is started. -/
theorem single_of_trace {key : String} {id : CallId} (held : s.shared.table.get? key = some id)
    (still : t.shared.table.get? key = some id) : t.fetched.count key = s.fetched.count key := by
  have more := fetched_of_trace cons (foldlM_of_trace trace)
  rw [more, List.count_append, Nat.add_eq_left, List.count_eq_zero]
  intro member
  -- A read that was started since is newer than the one in the table.
  obtain ⟨i, here⟩ := List.getElem?_of_mem member
  have fresh : t.fetched[s.fetched.length + i]? = some key := by
    rw [more, List.getElem?_append_right (Nat.le_add_right _ _), Nat.add_sub_cancel_left]
    exact here
  rw [State.fetched, List.getElem?_map, Option.map_eq_some_iff] at fresh
  obtain ⟨newer, found', sameKey'⟩ := fresh
  have cons' := consistent_append cons trace
  obtain ⟨old, was, -, -⟩ := (invariant_of_reachable cons.reachable).current.1 held
  obtain ⟨call, found, sameKey, isOpen⟩ := (invariant_of_reachable cons'.reachable).current.1 still
  have older : id < s.fetched.length + i := by
    have length : s.fetched.length = s.shared.calls.length := List.length_map _
    have lt := (List.getElem?_eq_some_iff.1 was).1
    exact Nat.lt_of_lt_of_le (length ▸ lt) (Nat.le_add_right _ _)
  exact closed_of_newer cons'.reachable found found' (sameKey.trans sameKey'.symm) older isOpen

end

/-! ## Who is given which read -/

theorem enter_of_newCaller {s t : State} {e : Step} (move : Move s e t)
    (more : s.shared.callers.length < t.shared.callers.length) : ∃ key, e = .enter key := by
  cases move with
  | enter => exact ⟨_, rfl⟩
  | refuse | letIn | shift | settle | send | close => exact absurd more (Nat.lt_irrefl _)
  | @leave caller c call d =>
    simp [State.leave, SharedRead.State.depart] at more
  | withdraw =>
    rw [callers_withdraw] at more
    exact absurd more (Nat.lt_irrefl _)

/-- A caller that came in the course of a run came by taking the table. -/
theorem enter_of_trace {later : List Step} {s t : State} (trace : Trace State.step? s later t)
    {caller : CallerId} (old : s.shared.callers.length ≤ caller)
    (new : caller < t.shared.callers.length) :
    ∃ key before after u, later = before ++ .enter key :: after ∧
      Trace State.step? s before u ∧ u.shared.callers.length = caller := by
  induction trace with
  | nil => exact absurd new (Nat.not_lt.2 old)
  | @snoc steps t t' e before taken ih =>
    by_cases there : caller < t.shared.callers.length
    · obtain ⟨key, first, rest, u, rfl, reached, here⟩ := ih there
      exact ⟨key, first, rest ++ [e], u, by simp, reached, here⟩
    · have move := move_of_step taken
      obtain ⟨key, rfl⟩ := enter_of_newCaller move
        (Nat.lt_of_le_of_lt (Nat.le_of_not_lt there) new)
      refine ⟨key, steps, [], t, rfl, before, Nat.le_antisymm (Nat.le_of_not_lt there) ?_⟩
      obtain ⟨id, callers⟩ := callers_enter t key
      rw [eq_enter_of_move move, callers, List.length_append] at new
      exact Nat.le_of_lt_succ new

/-- How a caller came by its read: it took the table for a key, and was given a read of that key
that was open. -/
theorem entrance {begun later : List Step} {s t : State} (cons : Consistent begun s)
    (trace : Trace State.step? s later t) {caller : CallerId} {c : Caller}
    (old : s.shared.callers.length ≤ caller) (found : t.shared.callers[caller]? = some c) :
    ∃ key before after u u' call, later = before ++ .enter key :: after ∧
      Trace State.step? s before u ∧ u.shared.callers.length = caller ∧
      u.step? (.enter key) = some u' ∧ Trace State.step? u' after t ∧
      u'.shared.calls[c.call]? = some call ∧ call.key = key ∧ call.IsOpen := by
  obtain ⟨key, before, after, u, rfl, reached, here⟩ :=
    enter_of_trace trace old (List.getElem?_eq_some_iff.1 found).1
  obtain ⟨v, u', reached', taken, rest⟩ := trace.split_cons
  obtain rfl := reached.unique reached'
  have cons' := consistent_append cons reached
  have move := move_of_step taken
  obtain rfl := eq_enter_of_move move
  have arrives : u.shared.step? (.arrive key) = some (u.shared.arrive key) := rfl
  obtain ⟨id, call, callers, read, sameKey, live, reading⟩ :=
    joining_of_step (invariant_of_reachable cons'.reachable) arrives
  have seat : (u.enter key).shared.callers[caller]? = some ⟨id, none⟩ := by
    show (u.shared.arrive key).callers[caller]? = _
    rw [callers, ← here]
    simp
  obtain ⟨c', found', same⟩ := keepsPlace_of_trace (consistent_of_move cons' move) rest seat
  obtain rfl := Option.some.inj (found'.symm.trans found)
  exact ⟨key, before, after, u, _, call, rfl, reached, here, taken, rest, same ▸ read, sameKey,
    live, reading⟩

section

variable {begun later : List Step} {s t : State} (cons : Consistent begun s)

include cons

/-- A read that is out of the table is not given to callers that come later. -/
theorem uncached_of_trace (trace : Trace State.step? s later t) {id : CallId} {call : Call}
    (found : s.shared.calls[id]? = some call) (out : s.shared.table.get? call.key ≠ some id)
    {caller : CallerId} {c : Caller} (old : s.shared.callers.length ≤ caller)
    (here : t.shared.callers[caller]? = some c) : c.call ≠ id := by
  rintro rfl
  obtain ⟨key, before, after, u, u', call', -, reached, -, taken, -, read, -, isOpen⟩ :=
    entrance cons trace old here
  obtain ⟨now, there, lasts⟩ := lasts_of_trace cons (reached.snoc taken) found
  obtain rfl := Option.some.inj (there.symm.trans read)
  exact out ((invariant_of_reachable cons.reachable).current.2
    ⟨call, found, rfl, lasts.opened isOpen⟩)

/-- The read that the table holds for a key is newer than every other read of it. -/
theorem newer_of_held {id newer : CallId} {call : Call} (found : s.shared.calls[id]? = some call)
    (held : s.shared.table.get? call.key = some newer) (different : newer ≠ id) : id < newer := by
  obtain ⟨call', found', sameKey, isOpen⟩ := (invariant_of_reachable cons.reachable).current.1 held
  refine Nat.lt_of_not_le fun older => ?_
  have older := Nat.lt_of_le_of_ne older different
  exact closed_of_newer cons.reachable found' found sameKey older isOpen

/-- What a caller is answered was sent once, after the caller took the table. -/
theorem sent_after_entry {caller : CallerId} {c : Caller} {result : Result}
    (trace : Trace State.step? s later t) (found : t.shared.callers[caller]? = some c)
    (answer : (t.stages caller).answer? = some result) (old : s.shared.callers.length ≤ caller) :
    ∃ key before after u call, later = before ++ .enter key :: after ∧
      s.run? before = some u ∧ u.shared.callers.length = caller ∧
      t.shared.calls[c.call]? = some call ∧ call.key = key ∧
      sendings c.call (begun ++ before) = 0 ∧ sendings c.call after = 1 := by
  obtain ⟨key, before, after, u, u', call, rfl, reached, here, taken, rest, read, rfl, isOpen⟩ :=
    entrance cons trace old found
  have cons' := consistent_append cons (reached.snoc taken)
  obtain ⟨call', read', lasts⟩ := lasts_of_trace cons' rest read
  have none_ := cons'.course c.call
  rw [phase_of_found read, isOpen.2] at none_
  have before_ := none_.of_reading.2
  have cons'' := consistent_append cons' rest
  obtain ⟨-, -, -, -, once⟩ := (cons''.course c.call).of_value
    ((consistent_append cons trace).answered found answer)
  refine ⟨call.key, before, after, u, call', rfl, foldlM_of_trace reached, here, read', lasts.key,
    ?_, ?_⟩
  · rw [← List.append_assoc, sendings_concat] at before_
    exact Nat.eq_zero_of_add_eq_zero_right before_
  · rw [sendings, List.countP_append] at once
    rw [sendings] at before_ ⊢
    omega

end

/-! ## Every run -/

/-- What callers can rely on about fetches, and about whose result they are given. -/
structure SingleFlight (steps : List Step) (s : State) : Prop where
  /-- Callers whose contexts were live take the table, each of them once. -/
  admitted : (asked steps).Perm (entered steps ++ s.admitted)
  /-- A fetch is started for each of them that finds no read of its key, and for nobody else. -/
  fetched : s.fetched = missed .initial steps
  /-- While a read stays in the table, no other fetch of its key is started, -/
  single : ∀ begun rest u key id, steps = begun ++ rest → State.initial.run? begun = some u →
    u.shared.table.get? key = some id → s.shared.table.get? key = some id →
      s.fetched.count key = u.fetched.count key
  /-- and whoever comes is given that read. -/
  joins : ∀ key id t, s.shared.table.get? key = some id → s.step? (.enter key) = some t →
    t.fetched = s.fetched ∧ t.shared.callers = s.shared.callers ++ [⟨id, none⟩]
  /-- Callers of one read are answered with the same result. -/
  same : ∀ (one other : CallerId) c c' result result', s.shared.callers[one]? = some c →
    s.shared.callers[other]? = some c' → c.call = c'.call →
      (s.stages one).answer? = some result → (s.stages other).answer? = some result' →
        result = result'
  /-- It is of a read of the caller's key, and was sent after the caller took the table. -/
  after : ∀ (caller : CallerId) c result, s.shared.callers[caller]? = some c →
    (s.stages caller).answer? = some result →
      ∃ key begun rest u call, steps = begun ++ .enter key :: rest ∧
        State.initial.run? begun = some u ∧ u.shared.callers.length = caller ∧
        s.shared.calls[c.call]? = some call ∧ call.key = key ∧
        sendings c.call begun = 0 ∧ sendings c.call rest = 1
  /-- A read that is out of the table is not given to callers that come later. -/
  uncached : ∀ begun rest u id call, steps = begun ++ rest → State.initial.run? begun = some u →
    u.shared.calls[id]? = some call → u.shared.table.get? call.key ≠ some id →
      ∀ (caller : CallerId) c, u.shared.callers.length ≤ caller →
        s.shared.callers[caller]? = some c → c.call ≠ id
  /-- They start a fetch, unless the table holds a newer read of the key. -/
  next : ∀ id call t, s.shared.calls[id]? = some call →
    s.shared.table.get? call.key ≠ some id → s.step? (.enter call.key) = some t →
      (s.shared.table.get? call.key = none ∧ t.fetched = s.fetched ++ [call.key]) ∨
        ∃ newer, id < newer ∧ t.fetched = s.fetched ∧
          t.shared.callers = s.shared.callers ++ [⟨newer, none⟩]

theorem joins_of_enter {steps : List Step} {s t : State} (cons : Consistent steps s) {key : String}
    {id : CallId} (held : s.shared.table.get? key = some id)
    (taken : s.step? (.enter key) = some t) :
    t.fetched = s.fetched ∧ t.shared.callers = s.shared.callers ++ [⟨id, none⟩] := by
  have move := move_of_step taken
  refine ⟨by simpa [State.misses, held] using fetched_of_move cons move, ?_⟩
  rw [eq_enter_of_move move]
  show (s.shared.arrive key).callers = _
  rw [SharedRead.State.arrive, held]
  rfl

/-- **Callers that come together share one fetch, and nothing is kept for callers that come
later**, whatever callers and tasks do. -/
theorem singleFlight_of_run {steps : List Step} {s : State}
    (ran : State.initial.run? steps = some s) : SingleFlight steps s := by
  have trace := trace_of_foldlM ran
  have cons := consistent_of_trace trace
  -- A run that is cut in two passes through the state at the cut.
  have cut : ∀ {begun rest : List Step} {u : State}, steps = begun ++ rest →
      State.initial.run? begun = some u →
        Consistent begun u ∧ Trace State.step? u rest s := by
    rintro begun rest u rfl first
    have before := trace_of_foldlM first
    obtain ⟨v, before', after⟩ := trace.split
    obtain rfl := before.unique before'
    exact ⟨consistent_of_trace before, after⟩
  constructor
  case admitted => exact asked_perm trace
  case fetched => exact fetched_of_trace consistent_initial ran
  case single =>
    intro begun rest u key id parts first held still
    obtain ⟨cons', after⟩ := cut parts first
    exact single_of_trace cons' after held still
  case joins => exact fun key id t held taken => joins_of_enter cons held taken
  case same =>
    intro one other c c' result result' found found' sameCall answer answer'
    have held := cons.answered found answer
    have held' := cons.answered found' answer'
    rw [← sameCall] at held'
    exact Option.some.inj (held.symm.trans held')
  case after =>
    intro caller c result found answer
    exact sent_after_entry consistent_initial trace found answer (Nat.zero_le _)
  case uncached =>
    intro begun rest u id call parts first found out caller c old here
    obtain ⟨cons', after⟩ := cut parts first
    exact uncached_of_trace cons' after found out old here
  case next =>
    intro id call t found out taken
    cases held : s.shared.table.get? call.key with
    | none =>
      have more := fetched_of_move cons (move_of_step taken)
      exact .inl ⟨rfl, by simpa [State.misses, held] using more⟩
    | some newer =>
      have different : newer ≠ id := fun same => out (same ▸ held)
      exact .inr ⟨newer, newer_of_held cons found held different, joins_of_enter cons held taken⟩

/-- A read is abandoned, and its task sends late; in between two callers read the key again. -/
def abandonedRead : List Step :=
  [.ask "k" none, .enter "k", .listen 0, .stop 0 .canceled, .leave 0,
    .ask "k" none, .ask "k" none, .enter "k", .listen 1, .settle 0 .aborted, .withdraw 0, .send 0,
    .close 0, .enter "k", .listen 2, .settle 1 (.fetched (.error .keyNotFound)), .withdraw 1,
    .send 1, .hear 1, .hear 2]

theorem singleFlight_abandonedRead :
    ∃ s, State.initial.run? abandonedRead = some s ∧ s.fetched = ["k", "k"] ∧
      (s.stages 1).answer? = some (.error .keyNotFound) ∧
      (s.stages 2).answer? = some (.error .keyNotFound) ∧ SingleFlight abandonedRead s := by
  have ran : State.initial.run? abandonedRead = some _ := rfl
  exact ⟨_, ran, rfl, rfl, rfl, singleFlight_of_run ran⟩

end RecordStore.SharedRead.Program
