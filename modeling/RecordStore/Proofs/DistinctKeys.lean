/-
RecordStore.Proofs.DistinctKeys -- each key once, where it appears first

Batches name each of their keys once, and keys are counted without repeats.
What stays of a list comes in the order in which it appears first
(`firstFirst_eraseDups`), hence without repeats, and as often as the list has
distinct members (`length_eraseDups`).
-/
import Mathlib.Data.Finset.Card
import Mathlib.Data.Finset.Dedup
import Mathlib.Data.List.Induction

namespace RecordStore

set_option autoImplicit false

variable {α : Type} [DecidableEq α]

theorem eraseDups_concat (xs : List α) (x : α) :
    (xs ++ [x]).eraseDups = xs.eraseDups ++ if x ∈ xs then [] else [x] := by
  rw [List.eraseDups_append]
  congr 1
  by_cases member : x ∈ xs
  · rw [if_pos member]
    simp [List.removeAll, member]
  · rw [if_neg member]
    simp [List.removeAll, member, List.eraseDups_cons]

/-- What stays of a list comes in the order in which it appears first. -/
theorem firstFirst_eraseDups (xs : List α) :
    xs.eraseDups.Pairwise fun x y => xs.idxOf x < xs.idxOf y := by
  induction xs using List.reverseRecOn with
  | nil => exact .nil
  | append_singleton rest x ih =>
    have earlier : rest.eraseDups.Pairwise fun y z =>
        (rest ++ [x]).idxOf y < (rest ++ [x]).idxOf z := by
      refine ih.imp_of_mem fun {y z} first second before => ?_
      rw [List.idxOf_append_of_mem (List.mem_eraseDups.1 first),
        List.idxOf_append_of_mem (List.mem_eraseDups.1 second)]
      exact before
    rw [eraseDups_concat]
    split
    · rwa [List.append_nil]
    · next fresh =>
      refine List.pairwise_append.2 ⟨earlier, List.pairwise_singleton _ _, ?_⟩
      intro y member z last
      rw [List.mem_singleton.1 last, List.idxOf_append_of_mem (List.mem_eraseDups.1 member),
        List.idxOf_append_of_notMem fresh]
      have := List.idxOf_lt_length_iff.2 (List.mem_eraseDups.1 member)
      omega

theorem nodup_eraseDups (xs : List α) : xs.eraseDups.Nodup :=
  (firstFirst_eraseDups xs).imp fun {x y} before same => by
    rw [same] at before
    exact Nat.lt_irrefl _ before

theorem length_eraseDups (xs : List α) : xs.eraseDups.length = xs.toFinset.card := by
  have same : xs.toFinset = xs.eraseDups.toFinset := by
    ext x
    rw [List.mem_toFinset, List.mem_toFinset, List.mem_eraseDups]
  rw [same, List.toFinset_card_of_nodup (nodup_eraseDups xs)]

end RecordStore
