/-
RecordStore.Proofs.SharedRead.Alone -- a read with a single caller

With no read in flight, a caller that arrives starts one of its own.  `alone`
is the state from there on, with what may still change: the read, why its caller
left, and the table.  Whether the caller is answered (`step?_answer_alone`) or its
context ends (`step?_stop_alone`), no read is in flight afterwards.
-/
import Mathlib.Data.List.Basic
import RecordStore.SharedRead

namespace RecordStore.SharedRead

set_option autoImplicit false

namespace State

/-- A state with one more read, of one more caller. -/
def alone (s : State) (call : Call) (departure? : Option Departure) (table : Dict CallId) :
    State :=
  ⟨s.calls ++ [call], s.callers ++ [⟨s.calls.length, departure?⟩], table⟩

variable {s : State} {call : Call} {departure? : Option Departure} {table : Dict CallId}

@[simp] theorem alone_table : (s.alone call departure? table).table = table := rfl

@[simp] theorem alone_calls_getElem? :
    (s.alone call departure? table).calls[s.calls.length]? = some call := by
  simp [alone]

theorem modify_append_singleton {α : Type} (list : List α) (a : α) (f : α → α) :
    (list ++ [a]).modify list.length f = list ++ [f a] := by
  induction list with
  | nil => rfl
  | cons head rest ih => simpa using ih

@[simp] theorem updateCall_alone (f : Call → Call) :
    (s.alone call departure? table).updateCall s.calls.length f =
      s.alone (f call) departure? table := by
  simp [updateCall, alone, modify_append_singleton]

@[simp] theorem depart_alone (departure : Departure) :
    (s.alone call departure? table).depart s.callers.length departure =
      s.alone call (some departure) table := by
  simp [depart, alone, modify_append_singleton]

theorem waitsFor?_alone :
    (s.alone call none table).waitsFor? s.callers.length = some (s.calls.length, call) := by
  simp [waitsFor?, alone]

theorem erase_insert_empty {α : Type} (key : String) (x : α) :
    ((∅ : Dict α).insert key x).erase key = ∅ := by
  apply Dict.ext_get
  intro other
  by_cases h : other = key
  · subst h
    exact Dict.get?_erase_self _ _
  · rw [Dict.get?_erase_ne _ h, Dict.get?_insert_ne _ h]

theorem removeCurrent_of_get? {id : CallId} {key : String}
    (current : table.get? key = some id) :
    (s.alone call departure? table).removeCurrent id key =
      s.alone call departure? (table.erase key) := by
  simp [removeCurrent, alone, current]

theorem removeCurrent_empty (id : CallId) (key : String) :
    (s.alone call departure? ∅).removeCurrent id key = s.alone call departure? ∅ := by
  rw [removeCurrent, if_neg]
  intro current
  cases current

/-- A caller that finds no read in flight is alone with its read. -/
theorem arrive_eq_alone (empty : s.table = ∅) (key : String) :
    s.arrive key =
      s.alone ⟨key, 1, false, .reading⟩ none ((∅ : Dict CallId).insert key s.calls.length) := by
  have missing : s.table.get? key = none := by
    rw [empty]
    exact Dict.get?_empty key
  rw [arrive, missing, start, empty, alone]

/-- Every end of the fetch of a read that is wanted leaves the table empty. -/
theorem step?_finish_alone {key : String} {ending : Ending} (own : ending ≠ .aborted) :
    (s.alone ⟨key, 1, false, .reading⟩ none ((∅ : Dict CallId).insert key s.calls.length)).step?
        (.finish s.calls.length ending) =
      some (s.alone ⟨key, 1, false, .ending ending.result⟩ none ∅) := by
  cases ending with
  | aborted => exact absurd rfl own
  | fetched result =>
    simp [step?, removeCurrent_of_get? (Dict.get?_insert_self _ _ _), erase_insert_empty]
  | lost => simp [step?, removeCurrent_of_get? (Dict.get?_insert_self _ _ _), erase_insert_empty]

/-- A read that was cancelled ends as aborted. -/
theorem step?_abort_alone {key : String} :
    (s.alone ⟨key, 0, true, .reading⟩ departure? ∅).step? (.finish s.calls.length .aborted) =
      some (s.alone ⟨key, 0, true, .ending Ending.aborted.result⟩ departure? ∅) := by
  simp [step?, removeCurrent_empty]

theorem step?_publish_alone {key : String} {waiters : Nat} {cancelled : Bool} {result : Result} :
    (s.alone ⟨key, waiters, cancelled, .ending result⟩ departure? ∅).step?
        (.publish s.calls.length) =
      some (s.alone ⟨key, waiters, cancelled, .published result⟩ departure? ∅) := by
  simp [step?]

theorem step?_answer_alone {key : String} {result : Result} :
    (s.alone ⟨key, 1, false, .published result⟩ none ∅).step? (.answer s.callers.length) =
      some (s.alone ⟨key, 0, false, .published result⟩ (some (.answered result)) ∅) := by
  have missing : (∅ : Dict CallId).get? key = none := rfl
  simp [step?, waitsFor?_alone, leaveCall, missing]

/-- The caller takes its read out of the table and cancels it. -/
theorem step?_stop_alone {key : String} (reason : StopReason) :
    (s.alone ⟨key, 1, false, .reading⟩ none ((∅ : Dict CallId).insert key s.calls.length)).step?
        (.stop s.callers.length reason) =
      some (s.alone ⟨key, 0, true, .reading⟩ (some (.stopped reason)) ∅) := by
  simp [step?, waitsFor?_alone, leaveCall, removeCurrent_of_get? (Dict.get?_insert_self _ _ _),
    erase_insert_empty]

end State

end RecordStore.SharedRead
