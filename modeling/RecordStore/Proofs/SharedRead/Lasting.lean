/-
RecordStore.Proofs.SharedRead.Lasting -- what later states keep of reads and callers

A read keeps its key, stays cancelled, and is never open again once it was not
(`Lasts`); a caller keeps its read, and how it left.  Each move has this
(`lasts_of_move`, `keepsPlace_of_move`).  When a read is started, no read of its
key is open, so of two reads of one key the older one is not
(`closed_of_newer`): whoever finds a read of a key in the table after another one
left it has found a newer one.
-/
import RecordStore.Proofs.SharedRead.InFlight

namespace RecordStore.SharedRead

set_option autoImplicit false

/-- The moves are steps that can be taken. -/
theorem step?_of_move {s t : State} {e : Step} (move : Move s e t) : s.step? e = some t := by
  cases move with
  | join held => simp [State.step?, State.arrive, held]
  | start absent => simp [State.step?, State.arrive, absent]
  | leave waits found leaves =>
    have waitsFor := waitsFor?_eq_some.2 ⟨waits, found⟩
    cases leaves with
    | stop caller reason => simp [State.step?, waitsFor]
    | drop caller => simp [State.step?, waitsFor]
    | answer caller there => simp [State.step?, waitsFor, there]
  | @finish id call ending found reading seen =>
    cases ending with
    | fetched result => simp [State.step?, found, reading, State.endTask]
    | lost => simp [State.step?, found, reading, State.endTask]
    | aborted => simp [State.step?, found, reading, seen rfl, State.endTask]
  | publish found ended => simp [State.step?, found, ended, State.makePublic]

theorem reachable_of_move {s t : State} {e : Step} (reachable : Reachable s) (move : Move s e t) :
    Reachable t :=
  .step reachable e (step?_of_move move)

/-! ## Reads -/

/-- A read now and later. -/
structure Lasts (before after : Call) : Prop where
  key : after.key = before.key
  cancelled : before.cancelled = true → after.cancelled = true
  opened : after.IsOpen → before.IsOpen

theorem Lasts.refl (call : Call) : Lasts call call :=
  ⟨rfl, fun cancelled => cancelled, fun isOpen => isOpen⟩

theorem Lasts.trans {first second third : Call} (one : Lasts first second)
    (other : Lasts second third) : Lasts first third :=
  ⟨other.key.trans one.key, other.cancelled ∘ one.cancelled, one.opened ∘ other.opened⟩

/-- A read that was replaced lasts, and so does every other one. -/
theorem lasts_of_replaces {s t : State} {id other : CallId} {before after call : Call}
    (replaces : Replaces s t id before after) (lasts : Lasts before after)
    (found : s.calls[other]? = some call) :
    ∃ call', t.calls[other]? = some call' ∧ Lasts call call' := by
  by_cases same : other = id
  · subst same
    obtain rfl : before = call := by simpa [replaces.found] using found
    exact ⟨after, replaces.changed, lasts⟩
  · exact ⟨call, by rw [replaces.kept other same]; exact found, .refl call⟩

theorem lasts_of_move {s t : State} {e : Step} (inv : Invariant s) (move : Move s e t)
    {id : CallId} {call : Call} (found : s.calls[id]? = some call) :
    ∃ call', t.calls[id]? = some call' ∧ Lasts call call' := by
  cases move with
  | join held =>
    obtain ⟨joined, was, -, -⟩ := inv.current.1 held
    exact lasts_of_replaces (replaces_join was)
      ⟨rfl, fun cancelled => cancelled, fun isOpen => isOpen⟩ found
  | start absent =>
    have lt := (List.getElem?_eq_some_iff.1 found).1
    exact ⟨call, by rw [State.start, List.getElem?_append_left lt]; exact found, .refl call⟩
  | leave waits was leaves =>
    refine lasts_of_replaces (replaces_leave was _ _) ⟨rfl, ?_, ?_⟩ found
    · exact fun cancelled => by simp [cancelled]
    · rintro ⟨live, reading⟩
      exact ⟨(Bool.or_eq_false_iff.1 live).1, reading⟩
  | finish was reading seen =>
    refine lasts_of_replaces (replaces_endTask was)
      ⟨rfl, fun cancelled => cancelled, fun isOpen => ?_⟩ found
    cases isOpen.2
  | publish was ended =>
    refine lasts_of_replaces (replaces_makePublic was)
      ⟨rfl, fun cancelled => cancelled, fun isOpen => ?_⟩ found
    cases isOpen.2

/-- Of two reads of one key the older one is not open. -/
theorem closed_of_newer {s : State} (reachable : Reachable s) {id newer : CallId}
    {call call' : Call} (found : s.calls[id]? = some call)
    (found' : s.calls[newer]? = some call') (sameKey : call.key = call'.key)
    (older : id < newer) : ¬ call.IsOpen := by
  induction reachable generalizing id newer call call' with
  | initial => simp [State.initial] at found
  | @step s t from_s e taken ih =>
    intro isOpen
    have inv := invariant_of_reachable from_s
    -- Both reads were there before, and the older one was no more open than it is now.
    have old : ∀ {before before' : Call}, s.calls[id]? = some before →
        s.calls[newer]? = some before' → False := by
      intro before before' was was'
      obtain ⟨now, here, lasts⟩ := lasts_of_move inv (move_of_step taken) was
      obtain ⟨now', here', lasts'⟩ := lasts_of_move inv (move_of_step taken) was'
      obtain rfl : now = call := by simpa [found] using here.symm
      obtain rfl : now' = call' := by simpa [found'] using here'.symm
      exact ih was was' (lasts.key.symm.trans (sameKey.trans lasts'.key)) older
        (lasts.opened isOpen)
    have length : newer < t.calls.length := (List.getElem?_eq_some_iff.1 found').1
    have replaced : ∀ {other : CallId} {before after : Call}, Replaces s t other before after →
        False := by
      intro other before after replaces
      rw [replaces.sameLength] at length
      exact old (List.getElem?_eq_getElem (Nat.lt_trans older length))
        (List.getElem?_eq_getElem length)
    cases move_of_step taken with
    | join held =>
      obtain ⟨joined, was, -, -⟩ := inv.current.1 held
      exact replaced (replaces_join was)
    | start absent =>
      obtain was | ⟨rfl, rfl⟩ := getElem?_concat_cases found
      · obtain was' | ⟨-, rfl⟩ := getElem?_concat_cases found'
        · exact old was was'
        · have held := inv.current.2 ⟨call, was, sameKey, isOpen⟩
          simp [held] at absent
      · simp only [State.start, List.length_append, List.length_singleton] at length
        exact absurd older (Nat.not_lt.2 (Nat.le_of_lt_succ length))
    | leave waits was leaves => exact replaced (replaces_leave was _ _)
    | finish was reading seen => exact replaced (replaces_endTask was)
    | publish was ended => exact replaced (replaces_makePublic was)

/-! ## Callers -/

/-- A caller stays at its read, and once it has left it has left for good. -/
theorem keepsPlace_of_move {s t : State} {e : Step} (move : Move s e t) {caller : CallerId}
    {c : Caller} (found : s.callers[caller]? = some c) :
    ∃ c', t.callers[caller]? = some c' ∧ c'.call = c.call ∧
      ∀ d, c.departure? = some d → c'.departure? = some d := by
  have kept : t.callers[caller]? = s.callers[caller]? → ∃ c', t.callers[caller]? = some c' ∧
      c'.call = c.call ∧ ∀ d, c.departure? = some d → c'.departure? = some d :=
    fun same => ⟨c, same.trans found, rfl, fun _ left => left⟩
  have lt := (List.getElem?_eq_some_iff.1 found).1
  cases move with
  | join held => exact kept (List.getElem?_append_left lt)
  | start absent => exact kept (List.getElem?_append_left lt)
  | @leave _ leaver d id call waits was leaves =>
    by_cases same : caller = leaver
    · subst same
      obtain rfl := Option.some.inj (found.symm.trans waits)
      refine ⟨⟨id, some d⟩, ?_, rfl, by simp⟩
      rw [getElem?_depart, if_pos rfl, leaveCall_callers, found]
      rfl
    · exact kept (by rw [getElem?_depart, if_neg same, leaveCall_callers])
  | @finish id ended => exact kept (by rw [← removeCurrent_callers s id ended.key]; rfl)
  | publish was ended => exact kept rfl

end RecordStore.SharedRead
