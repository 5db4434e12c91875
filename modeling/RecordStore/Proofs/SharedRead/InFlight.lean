/-
RecordStore.Proofs.SharedRead.InFlight -- which reads the table holds, and who waits for them

`Invariant` ties the four views of a state together.  The count of a read is the
number of callers that joined it and have not left; the table holds, for each
key, exactly the open read of that key; an open read is waited for and an
abandoned one is not.  Each move keeps it (`invariant_of_move`), one lemma for
each operation, so every reachable state has it (`invariant_of_reachable`).

Removal compares reads and not keys, and that is what the proof for a task that
ends late rests on: an abandoned read is not open, so the table does not hold it,
so nothing is removed (`invariant_endTask`).

`inFlightTable_of_reachable` draws the consequences: the count never falls below
zero, a step that concerns one read leaves every other read and its entry alone,
nobody joins a read that has ended or was abandoned, and when nobody waits no
read is in flight.
-/
import RecordStore.Proofs.SharedRead.Moves

namespace RecordStore.SharedRead

set_option autoImplicit false

/-- What holds in every reachable state. -/
structure Invariant (s : State) : Prop where
  /-- The count of a read is the number of callers that wait for it. -/
  counted : ∀ {id : CallId} {call : Call}, s.calls[id]? = some call →
    call.waiters = s.waitingOn id
  /-- Callers joined reads that exist. -/
  joined : ∀ {caller : CallerId} {c : Caller}, s.callers[caller]? = some c →
    c.call < s.calls.length
  /-- The table holds the open reads, each under its key. -/
  current : ∀ {key : String} {id : CallId}, s.table.get? key = some id ↔
    ∃ call, s.calls[id]? = some call ∧ call.key = key ∧ call.IsOpen
  /-- An open read is waited for. -/
  wanted : ∀ {id : CallId} {call : Call}, s.calls[id]? = some call → call.IsOpen →
    0 < s.waitingOn id
  /-- Nobody waits for a cancelled read. -/
  deserted : ∀ {id : CallId} {call : Call}, s.calls[id]? = some call → call.cancelled = true →
    s.waitingOn id = 0
  /-- An answer is the published result of a read that was not cancelled. -/
  answered : ∀ {caller : CallerId} {c : Caller} {result : Result},
    s.callers[caller]? = some c → c.departure? = some (.answered result) →
      ∃ call, s.calls[c.call]? = some call ∧ call.phase = .published result ∧
        call.cancelled = false

theorem invariant_initial : Invariant .initial := by
  constructor <;> simp [State.initial, EmptyCollection.emptyCollection]

section

variable {s : State} (inv : Invariant s) {caller : CallerId} {id : CallId} {call : Call}

include inv

/-- Nobody waits for a cancelled read, so one that is waited for is not cancelled. -/
theorem Invariant.live_of_waits (waits : s.Waits caller id) (found : s.calls[id]? = some call) :
    call.cancelled = false := by
  by_contra cancelled
  have none_ := inv.deserted found (by simpa using cancelled)
  have pos := Waits.waitingOn_pos waits
  omega

theorem Invariant.isOpen_of_held {key : String} (held : s.table.get? key = some id)
    (found : s.calls[id]? = some call) : call.IsOpen := by
  obtain ⟨call', found', -, isOpen⟩ := inv.current.1 held
  obtain rfl : call' = call := by simpa [found'] using found
  exact isOpen

/-- Nobody waits for a read that does not exist yet. -/
theorem Invariant.waitingOn_fresh : s.waitingOn s.calls.length = 0 := by
  by_contra waited
  obtain ⟨caller, waits⟩ := waits_of_waitingOn_pos (Nat.pos_of_ne_zero waited)
  exact absurd (inv.joined waits) (Nat.lt_irrefl _)

end

/-- An entry of a list with one more at its end is an old one or the new one. -/
theorem getElem?_concat_cases {α : Type} {l : List α} {a b : α} {i : Nat}
    (found : (l ++ [a])[i]? = some b) : l[i]? = some b ∨ (i = l.length ∧ b = a) := by
  rw [List.getElem?_append] at found
  split at found
  · exact .inl found
  · next beyond =>
    obtain ⟨at_, rfl⟩ := List.getElem?_eq_some_iff.1 found
    simp only [List.length_singleton] at at_
    exact .inr ⟨by omega, by simp⟩

/-! ## What the table holds after one read changed -/

/-- The entries stay right when the read changed nothing that decides whether it is open. -/
theorem current_of_same {s t : State} (inv : Invariant s) {id : CallId} {before after : Call}
    (replaces : Replaces s t id before after) (sameTable : t.table = s.table)
    (sameOpen : after.IsOpen ↔ before.IsOpen) {key : String} {other : CallId} :
    t.table.get? key = some other ↔
      ∃ call, t.calls[other]? = some call ∧ call.key = key ∧ call.IsOpen := by
  rw [sameTable, inv.current]
  by_cases same : other = id
  · subst same
    simp [replaces.found, replaces.changed, replaces.sameKey, sameOpen]
  · rw [replaces.kept other same]

/-- The entries stay right when the read is open no more and its own entry, if there was one, is
gone. -/
theorem current_of_closed {s t : State} (inv : Invariant s) {id : CallId} {before after : Call}
    (replaces : Replaces s t id before after) (closed : ¬ after.IsOpen)
    (removed : ∀ key, t.table.get? key =
      if key = before.key ∧ s.table.get? before.key = some id then none else s.table.get? key)
    {key : String} {other : CallId} :
    t.table.get? key = some other ↔
      ∃ call, t.calls[other]? = some call ∧ call.key = key ∧ call.IsOpen := by
  rw [removed]
  constructor
  · intro held
    split at held
    · simp at held
    · next notRemoved =>
      obtain ⟨call, found, sameKey, isOpen⟩ := inv.current.1 held
      have different : other ≠ id := by
        rintro rfl
        obtain rfl : before = call := by simpa [replaces.found] using found
        exact notRemoved ⟨sameKey.symm, sameKey ▸ held⟩
      exact ⟨call, by rw [replaces.kept other different]; exact found, sameKey, isOpen⟩
  · rintro ⟨call, found, sameKey, isOpen⟩
    obtain ⟨-, rfl⟩ | ⟨different, found⟩ := replaces.cases found
    · exact absurd isOpen closed
    · have held := inv.current.2 ⟨call, found, sameKey, isOpen⟩
      rw [if_neg]
      · exact held
      · rintro ⟨rfl, held'⟩
        exact different (by simpa [held'] using held.symm)

/-! ## A caller arrives -/

theorem replaces_join {s : State} {id : CallId} {call : Call} (found : s.calls[id]? = some call) :
    Replaces s (s.join id) id call { call with waiters := call.waiters + 1 } :=
  let updated := replaces_updateCall found (f := fun c => { c with waiters := c.waiters + 1 }) rfl
  ⟨found, updated.changed, updated.kept, updated.sameLength, rfl⟩

theorem waitingOn_join (s : State) (id other : CallId) :
    (s.join id).waitingOn other = s.waitingOn other + if other = id then 1 else 0 := by
  by_cases same : other = id
  · simp [State.waitingOn, State.join, same]
  · simp [State.waitingOn, State.join, same, Ne.symm same]

theorem waitingOn_start (s : State) (key : String) (other : CallId) :
    (s.start key).waitingOn other =
      s.waitingOn other + if other = s.calls.length then 1 else 0 := by
  by_cases same : other = s.calls.length
  · simp [State.waitingOn, State.start, same]
  · simp [State.waitingOn, State.start, same, Ne.symm same]

theorem invariant_join {s : State} (inv : Invariant s) {key : String} {id : CallId}
    (held : s.table.get? key = some id) : Invariant (s.join id) := by
  obtain ⟨call, found, rfl, isOpen⟩ := inv.current.1 held
  have replaces := replaces_join found
  constructor
  case counted =>
    intro other c found'
    rw [waitingOn_join]
    obtain ⟨rfl, rfl⟩ | ⟨different, found'⟩ := replaces.cases found'
    · simp [inv.counted found]
    · simp [different, inv.counted found']
  case joined =>
    intro caller c found'
    rw [replaces.sameLength]
    obtain found' | ⟨-, rfl⟩ := getElem?_concat_cases found'
    · exact inv.joined found'
    · exact (List.getElem?_eq_some_iff.1 found).1
  case current => exact current_of_same inv replaces rfl Iff.rfl
  case wanted =>
    intro other c found' isOpen'
    rw [waitingOn_join]
    obtain ⟨rfl, -⟩ | ⟨different, found'⟩ := replaces.cases found'
    · simp
    · simpa [different] using inv.wanted found' isOpen'
  case deserted =>
    intro other c found' cancelled
    rw [waitingOn_join]
    obtain ⟨rfl, rfl⟩ | ⟨different, found'⟩ := replaces.cases found'
    · simp [isOpen.1] at cancelled
    · simpa [different] using inv.deserted found' cancelled
  case answered =>
    intro caller c result found' answer
    obtain found' | ⟨-, rfl⟩ := getElem?_concat_cases found'
    · obtain ⟨call', found'', there, live⟩ := inv.answered found' answer
      have different : c.call ≠ id := by
        intro same
        rw [same, found] at found''
        obtain rfl := Option.some.inj found''
        simp [isOpen.2] at there
      exact ⟨call', by rw [replaces.kept _ different]; exact found'', there, live⟩
    · simp at answer

theorem invariant_start {s : State} (inv : Invariant s) {key : String}
    (absent : s.table.get? key = none) : Invariant (s.start key) := by
  have none_open : ∀ {id : CallId} {call : Call}, s.calls[id]? = some call → call.IsOpen →
      call.key ≠ key := by
    rintro id call found isOpen rfl
    simp [inv.current.2 ⟨call, found, rfl, isOpen⟩] at absent
  have old : ∀ {id : CallId} {call : Call}, s.calls[id]? = some call →
      id ≠ s.calls.length ∧ (s.start key).calls[id]? = some call := by
    intro id call found
    have lt := (List.getElem?_eq_some_iff.1 found).1
    exact ⟨Nat.ne_of_lt lt, by rw [State.start, List.getElem?_append_left lt]; exact found⟩
  have fresh : (s.start key).calls[s.calls.length]? = some ⟨key, 1, false, .reading⟩ := by
    simp [State.start]
  constructor
  case counted =>
    intro id call found
    rw [waitingOn_start]
    obtain found | ⟨rfl, rfl⟩ := getElem?_concat_cases found
    · simp [(old found).1, inv.counted found]
    · simp [inv.waitingOn_fresh]
  case joined =>
    intro caller c found
    simp only [State.start, List.length_append, List.length_singleton]
    obtain found | ⟨-, rfl⟩ := getElem?_concat_cases found
    · exact Nat.lt_succ_of_lt (inv.joined found)
    · exact Nat.lt_succ_self _
  case current =>
    intro key' id
    constructor
    · intro held
      by_cases same : key' = key
      · subst same
        obtain rfl : s.calls.length = id := by simpa [State.start] using held
        exact ⟨_, fresh, rfl, rfl, rfl⟩
      · rw [State.start, Dict.get?_insert_ne _ same] at held
        obtain ⟨call, found, sameKey, isOpen⟩ := inv.current.1 held
        exact ⟨call, (old found).2, sameKey, isOpen⟩
    · rintro ⟨call, found, rfl, isOpen⟩
      obtain found | ⟨rfl, rfl⟩ := getElem?_concat_cases found
      · rw [State.start, Dict.get?_insert_ne _ (none_open found isOpen)]
        exact inv.current.2 ⟨call, found, rfl, isOpen⟩
      · simp [State.start]
  case wanted =>
    intro id call found isOpen
    rw [waitingOn_start]
    obtain found | ⟨rfl, rfl⟩ := getElem?_concat_cases found
    · simpa [(old found).1] using inv.wanted found isOpen
    · simp
  case deserted =>
    intro id call found cancelled
    rw [waitingOn_start]
    obtain found | ⟨rfl, rfl⟩ := getElem?_concat_cases found
    · simpa [(old found).1] using inv.deserted found cancelled
    · simp at cancelled
  case answered =>
    intro caller c result found answer
    obtain found | ⟨-, rfl⟩ := getElem?_concat_cases found
    · obtain ⟨call, found', there, live⟩ := inv.answered found answer
      exact ⟨call, (old found').2, there, live⟩
    · simp at answer

/-! ## A caller leaves -/

theorem replaces_leave {s : State} {id : CallId} {call : Call}
    (found : s.calls[id]? = some call) (caller : CallerId) (d : Departure) :
    Replaces s ((s.leaveCall id call).depart caller d) id call
      { call with waiters := call.waiters - 1
                  cancelled := call.cancelled || decide (Abandons s id call) } where
  found
  changed := by rw [depart_calls, getElem?_leaveCall, if_pos rfl, found, Option.map_some]
  kept other different := by rw [depart_calls, getElem?_leaveCall, if_neg different]
  sameLength := by
    rw [depart_calls]
    unfold State.leaveCall
    dsimp only
    split <;> simp [State.updateCall]
  sameKey := rfl

theorem waitingOn_leave {s : State} {caller : CallerId} {d : Departure} {id : CallId} {call : Call}
    (waits : s.Waits caller id) (other : CallId) :
    ((s.leaveCall id call).depart caller d).waitingOn other =
      if other = id then s.waitingOn other - 1 else s.waitingOn other := by
  have same : (s.leaveCall id call).callers = s.callers := leaveCall_callers s id call
  have waits' : (s.leaveCall id call).Waits caller id := by
    rw [State.Waits, same]
    exact waits
  rw [waitingOn_depart waits']
  simp only [State.waitingOn, same]

/-- A caller that leaves takes nothing from a result that was published. A read with a published
result is not in the table, so leaving it does not abandon it. -/
theorem published_of_leave {s : State} (inv : Invariant s) {caller : CallerId} {d : Departure}
    {id other : CallId} {call c : Call} {result : Result} (left : s.calls[id]? = some call)
    (found : s.calls[other]? = some c) (there : c.phase = .published result)
    (live : c.cancelled = false) :
    ∃ c', ((s.leaveCall id call).depart caller d).calls[other]? = some c' ∧
      c'.phase = .published result ∧ c'.cancelled = false := by
  have replaces := replaces_leave left caller d
  by_cases same : other = id
  · subst same
    obtain rfl : call = c := by simpa [left] using found
    have kept : ¬ Abandons s other call := by
      intro abandons
      have reading := (inv.isOpen_of_held abandons.2 left).2
      simp [reading] at there
    exact ⟨_, replaces.changed, there, by simp [live, kept]⟩
  · exact ⟨c, by rw [replaces.kept other same]; exact found, there, live⟩

theorem invariant_leave {s : State} (inv : Invariant s) {e : Step} {caller : CallerId}
    {d : Departure} {id : CallId} {call : Call} (waits : s.Waits caller id)
    (found : s.calls[id]? = some call) (leaves : Leaves call e caller d) :
    Invariant ((s.leaveCall id call).depart caller d) := by
  have replaces := replaces_leave found caller d
  have pos := Waits.waitingOn_pos waits
  have live := inv.live_of_waits waits found
  constructor
  case counted =>
    intro other c found'
    rw [waitingOn_leave waits]
    obtain ⟨rfl, rfl⟩ | ⟨different, found'⟩ := replaces.cases found'
    · simp [inv.counted found]
    · simp [different, inv.counted found']
  case joined =>
    intro other c found'
    rw [replaces.sameLength]
    rw [getElem?_depart, leaveCall_callers] at found'
    split at found'
    · obtain ⟨before, was, rfl⟩ := Option.map_eq_some_iff.1 found'
      exact inv.joined (c := before) was
    · exact inv.joined found'
  case current =>
    by_cases abandoned : Abandons s id call
    · refine current_of_closed inv replaces (by simp [Call.IsOpen, abandoned]) fun key => ?_
      rw [depart_table, get?_leaveCall]
      simp only [abandoned, abandoned.2, and_true]
    · refine current_of_same inv replaces ?_ (by simp [Call.IsOpen, abandoned])
      rw [depart_table]
      exact Dict.ext_get fun key => by simp [get?_leaveCall, abandoned]
  case wanted =>
    intro other c found' isOpen
    rw [waitingOn_leave waits]
    obtain ⟨rfl, rfl⟩ | ⟨different, found'⟩ := replaces.cases found'
    · -- An open read is in the table, so its last caller abandons it; this one was not the last.
      have kept : ¬ Abandons s other call := by
        have := isOpen.1
        simp_all
      have held := inv.current.2 ⟨call, found, rfl, live, isOpen.2⟩
      have more : call.waiters ≠ 1 := fun one => kept ⟨one, held⟩
      rw [inv.counted found] at more
      rw [if_pos rfl]
      omega
    · simpa [different] using inv.wanted found' isOpen
  case deserted =>
    intro other c found' cancelled
    rw [waitingOn_leave waits]
    obtain ⟨rfl, rfl⟩ | ⟨different, found'⟩ := replaces.cases found'
    · have abandoned : Abandons s other call := by simpa [live] using cancelled
      have one := abandoned.1
      rw [inv.counted found] at one
      simp [one]
    · simpa [different] using inv.deserted found' cancelled
  case answered =>
    intro other c result found' answer
    rw [getElem?_depart, leaveCall_callers] at found'
    split at found'
    · next same =>
      subst same
      rw [show s.callers[other]? = _ from waits] at found'
      obtain rfl := Option.some.inj found'
      obtain rfl : d = .answered result := by simpa using answer
      cases leaves with
      | answer caller there => exact published_of_leave inv found found there live
    · obtain ⟨call', found'', there, live'⟩ := inv.answered found' answer
      exact published_of_leave inv found found'' there live'

/-! ## A task ends, and its result is published -/

theorem replaces_endTask {s : State} {id : CallId} {call : Call} {ending : Ending}
    (found : s.calls[id]? = some call) :
    Replaces s (s.endTask id call ending) id call { call with phase := .ending ending.result } :=
  have same : (s.removeCurrent id call.key).calls = s.calls := removeCurrent_calls s id call.key
  let updated := replaces_updateCall (s := s.removeCurrent id call.key) (same ▸ found)
    (f := fun c => { c with phase := .ending ending.result }) rfl
  ⟨found, updated.changed,
    fun other different => by rw [← same]; exact updated.kept other different,
    by rw [← same]; exact updated.sameLength, rfl⟩

theorem replaces_makePublic {s : State} {id : CallId} {call : Call} {result : Result}
    (found : s.calls[id]? = some call) :
    Replaces s (s.makePublic id result) id call { call with phase := .published result } :=
  replaces_updateCall found rfl

/-- A read whose result nobody has been given changes its phase and is open no more. -/
theorem invariant_of_phase {s t : State} (inv : Invariant s) {id : CallId} {call : Call}
    {phase : Phase} (replaces : Replaces s t id call { call with phase })
    (callers : t.callers = s.callers) (unpublished : ∀ result, call.phase ≠ .published result)
    (closed : phase ≠ .reading)
    (removed : ∀ key, t.table.get? key =
      if key = call.key ∧ s.table.get? call.key = some id then none else s.table.get? key) :
    Invariant t := by
  have counts : ∀ other, t.waitingOn other = s.waitingOn other := fun other => by
    rw [State.waitingOn, callers, State.waitingOn]
  constructor
  case counted =>
    intro other c found
    rw [counts]
    obtain ⟨rfl, rfl⟩ | ⟨-, found⟩ := replaces.cases found
    · exact (inv.counted replaces.found :)
    · exact inv.counted found
  case joined =>
    intro caller c found
    rw [callers] at found
    rw [replaces.sameLength]
    exact inv.joined found
  case current => exact current_of_closed inv replaces (fun isOpen => closed isOpen.2) removed
  case wanted =>
    intro other c found isOpen
    rw [counts]
    obtain ⟨rfl, rfl⟩ | ⟨-, found⟩ := replaces.cases found
    · exact absurd isOpen.2 closed
    · exact inv.wanted found isOpen
  case deserted =>
    intro other c found cancelled
    rw [counts]
    obtain ⟨rfl, rfl⟩ | ⟨-, found⟩ := replaces.cases found
    · exact (inv.deserted replaces.found cancelled :)
    · exact inv.deserted found cancelled
  case answered =>
    intro caller c result found answer
    rw [callers] at found
    obtain ⟨call', found', there, live⟩ := inv.answered found answer
    have different : c.call ≠ id := by
      intro same
      rw [same, replaces.found] at found'
      obtain rfl := Option.some.inj found'
      exact unpublished result there
    exact ⟨call', by rw [replaces.kept _ different]; exact found', there, live⟩

theorem invariant_endTask {s : State} (inv : Invariant s) {id : CallId} {call : Call}
    (found : s.calls[id]? = some call) (reading : call.phase = .reading) (ending : Ending) :
    Invariant (s.endTask id call ending) :=
  invariant_of_phase inv (replaces_endTask found) (removeCurrent_callers s id call.key)
    (by simp [reading]) (by simp) fun key => get?_removeCurrent s id call.key key

theorem invariant_makePublic {s : State} (inv : Invariant s) {id : CallId} {call : Call}
    {result : Result} (found : s.calls[id]? = some call) (ended : call.phase = .ending result) :
    Invariant (s.makePublic id result) := by
  refine invariant_of_phase inv (replaces_makePublic found) rfl (by simp [ended]) (by simp) ?_
  intro key
  rw [if_neg]
  · rfl
  · rintro ⟨-, held⟩
    have reading := (inv.isOpen_of_held held found).2
    simp [reading] at ended

/-! ## Every reachable state -/

theorem invariant_of_move {s t : State} {e : Step} (inv : Invariant s) (move : Move s e t) :
    Invariant t := by
  cases move with
  | join held => exact invariant_join inv held
  | start absent => exact invariant_start inv absent
  | leave waits found leaves => exact invariant_leave inv waits found leaves
  | finish found reading _ => exact invariant_endTask inv found reading _
  | publish found ended => exact invariant_makePublic inv found ended

theorem invariant_of_reachable {s : State} (reachable : Reachable s) : Invariant s := by
  induction reachable with
  | initial => exact invariant_initial
  | step _ e taken inv => exact invariant_of_move inv (move_of_step taken)

theorem reachable_of_run {s t : State} {steps : List Step} (reachable : Reachable s)
    (ran : s.run? steps = some t) : Reachable t := by
  induction steps generalizing s with
  | nil =>
    obtain rfl := Option.some.inj ran
    exact reachable
  | cons e rest ih =>
    simp only [State.run?, Option.bind_eq_bind, Option.bind_eq_some_iff] at ran
    obtain ⟨next, taken, ran⟩ := ran
    exact ih (.step reachable e taken) ran

/-! ## What the invariant gives -/

/-- The read whose count or task a step changes: that of the caller that leaves, or of the task. -/
def State.concerned? (s : State) : Step → Option CallId
  | .arrive _ => none
  | .stop caller _ | .drop caller | .answer caller => (s.waitsFor? caller).map (·.1)
  | .finish id _ | .publish id => some id

/-- What callers can rely on about the table of reads in flight. -/
structure InFlightTable (s : State) : Prop where
  /-- A read in the table is counted right, waited for, not cancelled, and nothing is published. -/
  entry : ∀ key id, s.table.get? key = some id →
    ∃ call, s.calls[id]? = some call ∧ call.key = key ∧ call.waiters = s.waitingOn id ∧
      1 ≤ call.waiters ∧ call.cancelled = false ∧ call.phase = .reading
  /-- A read that is not cancelled and whose task has not ended is the entry of its key. -/
  current : ∀ id call, s.calls[id]? = some call → call.cancelled = false →
    call.phase = .reading → s.table.get? call.key = some id
  /-- So there is at most one such read for a key. -/
  unique : ∀ (id id' : CallId) (call call' : Call), s.calls[id]? = some call →
    s.calls[id']? = some call' → call.IsOpen → call'.IsOpen → call.key = call'.key → id = id'
  /-- A caller that is about to leave is counted: the count cannot fall below zero. -/
  noUnderflow : ∀ caller id call, s.waitsFor? caller = some (id, call) → 1 ≤ call.waiters
  /-- Leaving one read, or ending its task, neither changes another read nor removes its entry. -/
  others : ∀ e t id other, s.step? e = some t → s.concerned? e = some id → other ≠ id →
    t.calls[other]? = s.calls[other]? ∧
      ∀ key, s.table.get? key = some other → t.table.get? key = some other
  /-- A caller that arrives waits for a read of its key that is still going on. -/
  joining : ∀ key t, s.step? (.arrive key) = some t →
    ∃ id call, t.callers = s.callers ++ [⟨id, none⟩] ∧ t.calls[id]? = some call ∧
      call.key = key ∧ call.cancelled = false ∧ call.phase = .reading
  /-- When nobody waits, no read is in flight. -/
  idle : (∀ caller id, ¬ s.Waits caller id) → s.inFlight = 0

/-- Removing an entry for one read keeps the entries of the others. -/
theorem get?_of_removed {table after : Dict CallId} {id other : CallId} {key removed : String}
    (gone : after.get? key =
      if key = removed ∧ table.get? removed = some id then none else table.get? key)
    (held : table.get? key = some other) (different : other ≠ id) :
    after.get? key = some other := by
  rw [gone, if_neg]
  · exact held
  · rintro ⟨rfl, held'⟩
    exact different (by simpa [held'] using held.symm)

theorem others_of_move {s t : State} {e : Step} {id other : CallId} (move : Move s e t)
    (concerned : s.concerned? e = some id) (different : other ≠ id) :
    t.calls[other]? = s.calls[other]? ∧
      ∀ key, s.table.get? key = some other → t.table.get? key = some other := by
  cases move with
  | join held => simp [State.concerned?] at concerned
  | start absent => simp [State.concerned?] at concerned
  | @leave _ caller d left call waits found leaves =>
    have waitsFor := waitsFor?_eq_some.2 ⟨waits, found⟩
    obtain rfl : left = id := by
      cases leaves <;> simpa [State.concerned?, waitsFor] using concerned
    refine ⟨(replaces_leave found caller d).kept other different, fun key held => ?_⟩
    rw [depart_table, get?_leaveCall, if_neg]
    · exact held
    · rintro ⟨rfl, abandoned⟩
      exact different (by simpa [abandoned.2] using held.symm)
  | finish found reading seen =>
    obtain rfl := Option.some.inj concerned
    exact ⟨(replaces_endTask found).kept other different, fun key held =>
      get?_of_removed (get?_removeCurrent s _ _ key) held different⟩
  | publish found ended =>
    obtain rfl := Option.some.inj concerned
    exact ⟨(replaces_makePublic found).kept other different, fun key held => held⟩

theorem joining_of_step {s t : State} (inv : Invariant s) {key : String}
    (taken : s.step? (.arrive key) = some t) :
    ∃ id call, t.callers = s.callers ++ [⟨id, none⟩] ∧ t.calls[id]? = some call ∧
      call.key = key ∧ call.cancelled = false ∧ call.phase = .reading := by
  cases move_of_step taken with
  | join held =>
    obtain ⟨call, found, sameKey, isOpen⟩ := inv.current.1 held
    exact ⟨_, _, rfl, (replaces_join found).changed, sameKey, isOpen⟩
  | start absent =>
    exact ⟨s.calls.length, ⟨key, 1, false, .reading⟩, rfl, by simp [State.start], rfl, rfl, rfl⟩
  | leave _ _ leaves => cases leaves

/-- **The table of reads in flight**, in every state that some interleaving of arrivals,
departures, ends of tasks and publications leads to. -/
theorem inFlightTable_of_reachable {s : State} (reachable : Reachable s) : InFlightTable s := by
  have inv := invariant_of_reachable reachable
  constructor
  case entry =>
    intro key id held
    obtain ⟨call, found, sameKey, isOpen⟩ := inv.current.1 held
    have counted := inv.counted found
    have wanted := inv.wanted found isOpen
    exact ⟨call, found, sameKey, counted, by omega, isOpen.1, isOpen.2⟩
  case current =>
    intro id call found live reading
    exact inv.current.2 ⟨call, found, rfl, live, reading⟩
  case unique =>
    intro id id' call call' found found' isOpen isOpen' sameKey
    have held := inv.current.2 ⟨call, found, rfl, isOpen⟩
    have held' := inv.current.2 ⟨call', found', sameKey.symm, isOpen'⟩
    exact Option.some.inj (held.symm.trans held')
  case noUnderflow =>
    intro caller id call waitsFor
    obtain ⟨waits, found⟩ := waitsFor?_eq_some.1 waitsFor
    have counted := inv.counted found
    have pos := Waits.waitingOn_pos waits
    omega
  case others =>
    intro e t id other taken concerned different
    exact others_of_move (move_of_step taken) concerned different
  case joining =>
    intro key t taken
    exact joining_of_step inv taken
  case idle =>
    intro nobody
    have empty : s.table = ∅ := by
      refine Dict.ext_get fun key => ?_
      cases held : s.table.get? key with
      | none => rfl
      | some id =>
        obtain ⟨call, found, -, isOpen⟩ := inv.current.1 held
        obtain ⟨caller, waits⟩ := waits_of_waitingOn_pos (inv.wanted found isOpen)
        exact absurd waits (nobody caller id)
    rw [State.inFlight, empty]
    rfl

/-- An abandoned read whose task ends late, after a fresh read of the same key began: the fresh
one stays in the table. -/
def lateEnd : List Step :=
  [.arrive "k", .stop 0 .canceled, .arrive "k", .finish 0 .aborted]

theorem inFlightTable_lateEnd :
    ∃ s, State.initial.run? lateEnd = some s ∧ Reachable s ∧ s.table.get? "k" = some 1 ∧
      InFlightTable s := by
  have ran : State.initial.run? lateEnd = some _ := rfl
  have reachable := reachable_of_run .initial ran
  exact ⟨_, ran, reachable, by decide, inFlightTable_of_reachable reachable⟩

end RecordStore.SharedRead
