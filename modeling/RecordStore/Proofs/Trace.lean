/-
RecordStore.Proofs.Trace -- runs of a system that takes steps

A system is given by what a step makes of a state, if it can be taken there.
`Trace step? s steps t` says that the steps, taken one after the other from `s`,
lead to `t`; that is what folding the steps over the state computes
(`trace_iff_foldlM`).  A trace grows at its end, so what the states of a run have
in common with the steps behind them is shown by induction on the trace, and a
trace passes through the state after each part of it (`Trace.split`).
-/
import Mathlib.Data.List.Induction

namespace RecordStore

set_option autoImplicit false

universe u v

variable {σ : Type u} {ε : Type v} {step? : σ → ε → Option σ}

/-- The steps lead from one state to another, the last one at the end. -/
inductive Trace (step? : σ → ε → Option σ) (s : σ) : List ε → σ → Prop
  | nil : Trace step? s [] s
  | snoc {steps : List ε} {t u : σ} {e : ε} (before : Trace step? s steps t)
      (taken : step? t e = some u) : Trace step? s (steps ++ [e]) u

theorem foldlM_of_trace {s t : σ} {steps : List ε} (trace : Trace step? s steps t) :
    steps.foldlM step? s = some t := by
  induction trace with
  | nil => rfl
  | snoc _ taken ih => simp [List.foldlM_append, ih, taken]

theorem trace_of_foldlM {s t : σ} {steps : List ε} (ran : steps.foldlM step? s = some t) :
    Trace step? s steps t := by
  induction steps using List.reverseRecOn generalizing t with
  | nil =>
    obtain rfl := Option.some.inj ran
    exact .nil
  | append_singleton steps e ih =>
    rw [List.foldlM_append, Option.bind_eq_bind, Option.bind_eq_some_iff] at ran
    obtain ⟨u, before, last⟩ := ran
    exact .snoc (ih before) (by simpa using last)

theorem trace_iff_foldlM {s t : σ} {steps : List ε} :
    Trace step? s steps t ↔ steps.foldlM step? s = some t :=
  ⟨foldlM_of_trace, trace_of_foldlM⟩

namespace Trace

variable {s t u : σ} {first rest : List ε} {e : ε}

theorem split (trace : Trace step? s (first ++ rest) u) :
    ∃ t, Trace step? s first t ∧ Trace step? t rest u := by
  have ran := foldlM_of_trace trace
  rw [List.foldlM_append, Option.bind_eq_bind, Option.bind_eq_some_iff] at ran
  obtain ⟨t, before, after⟩ := ran
  exact ⟨t, trace_of_foldlM before, trace_of_foldlM after⟩

/-- A run from where another one ended goes on with it. -/
theorem append (before : Trace step? s first t) (after : Trace step? t rest u) :
    Trace step? s (first ++ rest) u := by
  rw [trace_iff_foldlM, List.foldlM_append, foldlM_of_trace before]
  exact foldlM_of_trace after

theorem split_cons (trace : Trace step? s (first ++ e :: rest) u) :
    ∃ t t', Trace step? s first t ∧ step? t e = some t' ∧ Trace step? t' rest u := by
  obtain ⟨t, before, after⟩ := trace.split
  have ran := foldlM_of_trace after
  rw [List.foldlM_cons, Option.bind_eq_bind, Option.bind_eq_some_iff] at ran
  obtain ⟨t', taken, after⟩ := ran
  exact ⟨t, t', before, taken, trace_of_foldlM after⟩

theorem unique (one : Trace step? s first t) (other : Trace step? s first u) : t = u :=
  Option.some.inj ((foldlM_of_trace one).symm.trans (foldlM_of_trace other))

end Trace

end RecordStore
