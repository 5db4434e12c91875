/-
RecordStore.Proofs.Plan -- plans that reach the wire

A plan that asks the wire for anything was made under a live context, and what
it concludes from a failure is that failure (`Adapter.plan_sound`).
-/
import RecordStore.Adapter
import RecordStore.Proofs.Operation

namespace RecordStore

set_option autoImplicit false

open RecordStore.Wire

/-- A plan reaches the wire under a live context only, and concludes a failure with that
failure. -/
def Plan.Sound (m : Moment) : {op : Operation} → Plan op → Prop
  | _, .done _ => True
  | _, .sharedRead _ => m.stop? = none
  | _, .exchange _ conclude => m.stop? = none ∧ ∀ e, (conclude (.error e)).result = .error e

namespace Adapter

variable (a : Adapter) (m : Moment)

theorem planGet_sound (key : String) : (a.planGet m key).Sound m := by
  unfold planGet
  split
  · trivial
  · next checked =>
    obtain ⟨_, _, live⟩ := bind_eq_ok.1 checked
    exact checkLive_eq_ok.1 live

theorem planSave_sound (key : String) (record : Option Record) :
    (a.planSave m key record).Sound m := by
  unfold planSave
  split
  · trivial
  · next saved =>
    refine ⟨?_, fun _ => rfl⟩
    obtain ⟨_, _, saved⟩ := bind_eq_ok.1 saved
    cases record with
    | none => cases saved
    | some record =>
      obtain ⟨_, _, saved⟩ := bind_eq_ok.1 saved
      obtain ⟨_, live, _⟩ := bind_eq_ok.1 saved
      exact checkLive_eq_ok.1 live

theorem planBulkGet_sound (keys : List String) : (a.planBulkGet m keys).Sound m := by
  unfold planBulkGet
  split
  · trivial
  · next checked =>
    split
    · trivial
    · refine ⟨?_, fun _ => rfl⟩
      obtain ⟨_, _, checked⟩ := bind_eq_ok.1 checked
      obtain ⟨_, _, live⟩ := bind_eq_ok.1 checked
      exact checkLive_eq_ok.1 live

theorem planBulkSave_sound (records : Records) : (a.planBulkSave m records).Sound m := by
  unfold planBulkSave
  split
  · trivial
  · next checked =>
    dsimp only
    split
    · trivial
    · exact ⟨checkLive_eq_ok.1 checked, fun _ => rfl⟩

theorem plan_sound : (op : Operation) → (a.plan m op).Sound m
  | .get key => a.planGet_sound m key
  | .save key record => a.planSave_sound m key record
  | .bulkGet keys => a.planBulkGet_sound m keys
  | .bulkSave records => a.planBulkSave_sound m records

end Adapter

end RecordStore
