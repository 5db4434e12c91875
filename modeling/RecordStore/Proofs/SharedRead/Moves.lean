/-
RecordStore.Proofs.SharedRead.Moves -- what one step does to reads and callers

`Move s e t` lists the ways in which a step can change a state, with what the
step found there: a caller joins or starts a read, a caller leaves, a task ends,
a result is published.  `move_of_step` says that there are no others, so a
property of all states is shown move by move.

A state is looked at through four views: the read under a number, the callers,
the read that the table holds for a key, and how many callers wait for a read
(`State.waitingOn`).  Each operation has one lemma for each view that it changes.
-/
import Mathlib.Data.List.Basic
import RecordStore.SharedRead

namespace RecordStore.SharedRead

set_option autoImplicit false

/-! ## Views of a state -/

/-- The caller joined this read and has not left. -/
def Caller.waitsOn (c : Caller) (id : CallId) : Bool :=
  c.call == id && c.departure?.isNone

/-- How many callers joined a read and have not left. -/
def State.waitingOn (s : State) (id : CallId) : Nat :=
  s.callers.countP (·.waitsOn id)

/-- The caller with this number joined the read and has not left. -/
def State.Waits (s : State) (caller : CallerId) (id : CallId) : Prop :=
  s.callers[caller]? = some ⟨id, none⟩

/-- The read can still be joined: its task has not ended, and it was not abandoned. -/
def Call.IsOpen (c : Call) : Prop := c.cancelled = false ∧ c.phase = .reading

@[simp] theorem waitsOn_waiting (id other : CallId) :
    (Caller.mk id none).waitsOn other = (id == other) := by
  simp [Caller.waitsOn]

@[simp] theorem waitsOn_departed (id other : CallId) (d : Departure) :
    (Caller.mk id (some d)).waitsOn other = false := by
  simp [Caller.waitsOn]

theorem waitsOn_iff {c : Caller} {id : CallId} : c.waitsOn id = true ↔ c = ⟨id, none⟩ := by
  obtain ⟨call, departure?⟩ := c
  cases departure? <;> simp

theorem waitsFor?_eq_some {s : State} {caller : CallerId} {id : CallId} {call : Call} :
    s.waitsFor? caller = some (id, call) ↔ s.Waits caller id ∧ s.calls[id]? = some call := by
  unfold State.waitsFor? State.Waits
  cases h : s.callers[caller]? with
  | none => simp
  | some c =>
    obtain ⟨found, departure?⟩ := c
    cases departure? with
    | some d => simp
    | none =>
      cases hc : s.calls[found]? with
      | none =>
        simp only [Option.bind_eq_bind, Option.bind_some, Option.bind_none, hc, reduceCtorEq,
          Option.some.injEq, Caller.mk.injEq, and_true, false_iff, not_and]
        rintro rfl
        simp [hc]
      | some found' =>
        simp only [Option.bind_eq_bind, Option.bind_some, hc, Option.pure_def, Option.some.injEq,
          Prod.mk.injEq, Caller.mk.injEq, and_true]
        constructor
        · rintro ⟨rfl, rfl⟩
          exact ⟨rfl, hc⟩
        · rintro ⟨rfl, hc'⟩
          exact ⟨rfl, by simpa [hc] using hc'⟩

theorem Waits.waitingOn_pos {s : State} {caller : CallerId} {id : CallId}
    (waits : s.Waits caller id) : 0 < s.waitingOn id :=
  List.countP_pos_iff.2 ⟨_, List.mem_of_getElem? waits, by simp⟩

theorem waits_of_waitingOn_pos {s : State} {id : CallId} (pos : 0 < s.waitingOn id) :
    ∃ caller, s.Waits caller id := by
  obtain ⟨c, member, waits⟩ := List.countP_pos_iff.1 pos
  obtain ⟨caller, found⟩ := List.getElem?_of_mem member
  exact ⟨caller, by rw [State.Waits, found, waitsOn_iff.1 waits]⟩

/-! ## Each operation through the views -/

section Operations

variable (s : State) (id : CallId)

@[simp] theorem updateCall_callers (f : Call → Call) : (s.updateCall id f).callers = s.callers :=
  rfl

@[simp] theorem updateCall_table (f : Call → Call) : (s.updateCall id f).table = s.table := rfl

theorem getElem?_updateCall (f : Call → Call) (other : CallId) :
    (s.updateCall id f).calls[other]? =
      if other = id then s.calls[other]?.map f else s.calls[other]? := by
  rw [State.updateCall, List.getElem?_modify]
  by_cases h : other = id
  · simp [h]
  · simp [h, Ne.symm h]

@[simp] theorem removeCurrent_calls (key : String) : (s.removeCurrent id key).calls = s.calls := by
  unfold State.removeCurrent
  split <;> rfl

@[simp] theorem removeCurrent_callers (key : String) :
    (s.removeCurrent id key).callers = s.callers := by
  unfold State.removeCurrent
  split <;> rfl

/-- Removal is by identity: only an entry for this very read goes. -/
theorem get?_removeCurrent (key other : String) :
    (s.removeCurrent id key).table.get? other =
      if other = key ∧ s.table.get? key = some id then none else s.table.get? other := by
  unfold State.removeCurrent
  by_cases held : s.table.get? key = some id
  · by_cases h : other = key
    · simp [held, h]
    · simp [held, h, Dict.get?_erase_ne _ h]
  · simp [held]

@[simp] theorem depart_calls (caller : CallerId) (d : Departure) :
    (s.depart caller d).calls = s.calls := rfl

@[simp] theorem depart_table (caller : CallerId) (d : Departure) :
    (s.depart caller d).table = s.table := rfl

theorem getElem?_depart (caller other : CallerId) (d : Departure) :
    (s.depart caller d).callers[other]? =
      if other = caller then s.callers[other]?.map fun c => { c with departure? := some d }
      else s.callers[other]? := by
  rw [State.depart, List.getElem?_modify]
  by_cases h : other = caller
  · simp [h]
  · simp [h, Ne.symm h]

@[simp] theorem leaveCall_callers (call : Call) : (s.leaveCall id call).callers = s.callers := by
  unfold State.leaveCall
  dsimp only
  split <;> simp

/-- The last caller leaves while the table still holds the read. -/
def Abandons (call : Call) : Prop := call.waiters = 1 ∧ s.table.get? call.key = some id

instance (call : Call) : Decidable (Abandons s id call) :=
  inferInstanceAs (Decidable (_ ∧ _))

theorem getElem?_leaveCall (call : Call) (other : CallId) :
    (s.leaveCall id call).calls[other]? =
      if other = id then s.calls[other]?.map fun c =>
        { c with waiters := c.waiters - 1
                 cancelled := c.cancelled || decide (Abandons s id call) }
      else s.calls[other]? := by
  unfold State.leaveCall
  dsimp only
  rw [← getElem?_updateCall]
  split
  · rw [removeCurrent_calls]
    rfl
  · rfl

theorem get?_leaveCall (call : Call) (key : String) :
    (s.leaveCall id call).table.get? key =
      if key = call.key ∧ Abandons s id call then none else s.table.get? key := by
  unfold State.leaveCall
  dsimp only
  split
  · next abandoned =>
    rw [get?_removeCurrent]
    simp [abandoned.2, show Abandons s id call from abandoned]
  · next kept => simp [show ¬ Abandons s id call from kept]

end Operations

/-! ## Counting the callers of a read -/

/-- One entry of a list changed: what it counted before and what it counts now. -/
theorem countP_modify {α : Type} (p : α → Bool) (f : α → α) {l : List α} {i : Nat} {a : α}
    (found : l[i]? = some a) :
    (l.modify i f).countP p + (if p a then 1 else 0) =
      l.countP p + (if p (f a) then 1 else 0) := by
  induction l generalizing i with
  | nil => simp at found
  | cons b rest ih =>
    cases i with
    | zero =>
      have same : b = a := by simpa using found
      subst same
      simp only [List.modify_zero_cons, List.countP_cons]
      omega
    | succ i =>
      have := ih (i := i) (by simpa using found)
      simp only [List.modify_succ_cons, List.countP_cons]
      omega

theorem waitingOn_depart {s : State} {caller : CallerId} {id : CallId}
    (waits : s.Waits caller id) (d : Departure) (other : CallId) :
    (s.depart caller d).waitingOn other =
      if other = id then s.waitingOn other - 1 else s.waitingOn other := by
  have counted := countP_modify (·.waitsOn other)
    (fun c : Caller => { c with departure? := some d }) waits
  have pos := Waits.waitingOn_pos waits
  unfold State.waitingOn State.depart at *
  by_cases h : other = id
  · subst h
    simp only [waitsOn_waiting, waitsOn_departed, beq_self_eq_true, if_true] at counted ⊢
    simp at counted
    omega
  · simp only [waitsOn_waiting, waitsOn_departed, beq_iff_eq, Ne.symm h, if_false] at counted
    simpa [h] using counted

/-- One caller is all there is exactly when nobody else waits. -/
theorem waitingOn_eq_one_iff {s : State} {caller : CallerId} {id : CallId}
    (waits : s.Waits caller id) :
    s.waitingOn id = 1 ↔ ∀ other, s.Waits other id → other = caller := by
  have pos := Waits.waitingOn_pos waits
  have left := waitingOn_depart waits .dropped id
  rw [if_pos rfl] at left
  constructor
  · intro one other waits'
    by_contra different
    have still : (s.depart caller .dropped).Waits other id := by
      rw [State.Waits, getElem?_depart, if_neg different]
      exact waits'
    have := Waits.waitingOn_pos still
    omega
  · intro only
    by_contra more
    have others : 0 < (s.depart caller .dropped).waitingOn id := by omega
    obtain ⟨other, still⟩ := waits_of_waitingOn_pos others
    rw [State.Waits, getElem?_depart] at still
    split at still
    · next same =>
      subst same
      simp [show s.callers[other]? = _ from waits] at still
    · next different => exact different (only other still)

/-! ## The moves -/

/-- Two states differ in one read, which keeps its key. -/
structure Replaces (s t : State) (id : CallId) (before after : Call) : Prop where
  found : s.calls[id]? = some before
  changed : t.calls[id]? = some after
  kept : ∀ other, other ≠ id → t.calls[other]? = s.calls[other]?
  sameLength : t.calls.length = s.calls.length
  sameKey : after.key = before.key

theorem Replaces.cases {s t : State} {id other : CallId} {before after call : Call}
    (replaces : Replaces s t id before after) (found : t.calls[other]? = some call) :
    (other = id ∧ call = after) ∨ (other ≠ id ∧ s.calls[other]? = some call) := by
  by_cases same : other = id
  · subst same
    rw [replaces.changed] at found
    exact .inl ⟨rfl, (Option.some.inj found).symm⟩
  · rw [replaces.kept other same] at found
    exact .inr ⟨same, found⟩

theorem replaces_updateCall {s : State} {id : CallId} {call : Call}
    (found : s.calls[id]? = some call) {f : Call → Call} (sameKey : (f call).key = call.key) :
    Replaces s (s.updateCall id f) id call (f call) where
  found
  changed := by rw [getElem?_updateCall, if_pos rfl, found, Option.map_some]
  kept other different := by rw [getElem?_updateCall, if_neg different]
  sameLength := by simp [State.updateCall]
  sameKey

/-- How a step makes a caller leave a read. -/
inductive Leaves (call : Call) : Step → CallerId → Departure → Prop
  | stop (caller : CallerId) (reason : StopReason) :
      Leaves call (.stop caller reason) caller (.stopped reason)
  | drop (caller : CallerId) : Leaves call (.drop caller) caller .dropped
  | answer (caller : CallerId) {result : Result} (there : call.phase = .published result) :
      Leaves call (.answer caller) caller (.answered result)

/-- The task of a read ended, and the read left the table. -/
def State.endTask (s : State) (id : CallId) (call : Call) (ending : Ending) : State :=
  (s.removeCurrent id call.key).updateCall id fun c => { c with phase := .ending ending.result }

/-- A result is there for every caller. -/
def State.makePublic (s : State) (id : CallId) (result : Result) : State :=
  s.updateCall id fun c => { c with phase := .published result }

/-- What a step can do. -/
inductive Move (s : State) : Step → State → Prop
  | join {key : String} {id : CallId} (held : s.table.get? key = some id) :
      Move s (.arrive key) (s.join id)
  | start {key : String} (absent : s.table.get? key = none) :
      Move s (.arrive key) (s.start key)
  | leave {e : Step} {caller : CallerId} {d : Departure} {id : CallId} {call : Call}
      (waits : s.Waits caller id) (found : s.calls[id]? = some call)
      (leaves : Leaves call e caller d) :
      Move s e ((s.leaveCall id call).depart caller d)
  | finish {id : CallId} {call : Call} {ending : Ending}
      (found : s.calls[id]? = some call) (reading : call.phase = .reading)
      (seen : ending = .aborted → call.cancelled = true) :
      Move s (.finish id ending) (s.endTask id call ending)
  | publish {id : CallId} {call : Call} {result : Result}
      (found : s.calls[id]? = some call) (ended : call.phase = .ending result) :
      Move s (.publish id) (s.makePublic id result)

/-- Every step that can be taken is one of the moves. -/
theorem move_of_step {s t : State} {e : Step} (taken : s.step? e = some t) : Move s e t := by
  cases e with
  | arrive key =>
    simp only [State.step?, State.arrive, Option.some.injEq] at taken
    subst taken
    split
    · next held => exact .join held
    · next absent => exact .start absent
  | stop caller reason =>
    simp only [State.step?, Option.bind_eq_bind, Option.bind_eq_some_iff, Option.some.injEq,
      Prod.exists] at taken
    obtain ⟨id, call, waits, rfl⟩ := taken
    obtain ⟨waits, found⟩ := waitsFor?_eq_some.1 waits
    exact .leave waits found (.stop caller reason)
  | drop caller =>
    simp only [State.step?, Option.bind_eq_bind, Option.bind_eq_some_iff, Option.some.injEq,
      Prod.exists] at taken
    obtain ⟨id, call, waits, rfl⟩ := taken
    obtain ⟨waits, found⟩ := waitsFor?_eq_some.1 waits
    exact .leave waits found (.drop caller)
  | answer caller =>
    simp only [State.step?, Option.bind_eq_bind, Option.bind_eq_some_iff, Prod.exists] at taken
    obtain ⟨id, call, waits, taken⟩ := taken
    obtain ⟨waits, found⟩ := waitsFor?_eq_some.1 waits
    split at taken
    · next result there =>
      obtain rfl := Option.some.inj taken
      exact .leave waits found (.answer caller there)
    · simp at taken
  | finish id ending =>
    simp only [State.step?, Option.bind_eq_bind, Option.bind_eq_some_iff] at taken
    obtain ⟨call, found, taken⟩ := taken
    split at taken
    · next reading =>
      split at taken
      · next cancelled =>
        obtain rfl := Option.some.inj taken
        exact .finish found reading fun _ => cancelled
      · simp at taken
    · next reading other =>
      obtain rfl := Option.some.inj taken
      exact .finish found reading fun aborted => absurd aborted (by simpa using other)
    · simp at taken
  | publish id =>
    simp only [State.step?, Option.bind_eq_bind, Option.bind_eq_some_iff] at taken
    obtain ⟨call, found, taken⟩ := taken
    split at taken
    · next result ended =>
      obtain rfl := Option.some.inj taken
      exact .publish found ended
    · simp at taken

end RecordStore.SharedRead
