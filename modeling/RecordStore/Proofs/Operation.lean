/-
RecordStore.Proofs.Operation -- the checks that come first

Operations are refused by checks in a row, of which the first that fails decides.
-/
import RecordStore.Operation

namespace RecordStore

set_option autoImplicit false

/-- A row of steps gives a result exactly when each of them does. -/
theorem bind_eq_ok {ε α β : Type} {x : Except ε α} {f : α → Except ε β} {b : β} :
    x >>= f = .ok b ↔ ∃ a, x = .ok a ∧ f a = .ok b := by
  cases x with
  | error e => simp [bind, Except.bind]
  | ok a => simp [bind, Except.bind]

theorem ok_of_toOption {ε α : Type} {x : Except ε α} {value : α} (shown : x.toOption = some value) :
    x = .ok value := by
  cases x <;> cases shown
  rfl

theorem validateKey_eq_ok {key : String} :
    validateKey key = .ok () ↔ Text.isBlankText key = false := by
  cases h : Text.isBlankText key <;> simp [validateKey, h]

theorem forM_validateKey_eq_ok {keys : List String} :
    keys.forM validateKey = .ok () ↔ ∀ key ∈ keys, Text.isBlankText key = false := by
  induction keys with
  | nil => simp [pure, Except.pure]
  | cons key rest ih =>
    show (validateKey key >>= fun _ => rest.forM validateKey) = .ok () ↔ _
    rw [bind_eq_ok, List.forall_mem_cons, ← ih, ← validateKey_eq_ok]
    exact ⟨fun ⟨_, valid, others⟩ => ⟨valid, others⟩, fun ⟨valid, others⟩ => ⟨(), valid, others⟩⟩

theorem validateBulkKeys_eq_ok {keys : List String} :
    validateBulkKeys keys = .ok () ↔ keys.length ≤ maxBulkKeys := by
  unfold validateBulkKeys
  split
  · next many => simpa using many
  · next few => simpa using few

theorem checkLive_eq_error {stop? : Option StopReason} {reason : StopReason} :
    checkLive stop? = .error (.cancelled reason) ↔ stop? = some reason := by
  cases stop? <;> simp [checkLive]

theorem checkLive_eq_ok {stop? : Option StopReason} : checkLive stop? = .ok () ↔ stop? = none := by
  cases stop? <;> simp [checkLive]

end RecordStore
