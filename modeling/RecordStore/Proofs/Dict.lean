/-
RecordStore.Proofs.Dict -- maps that are filled

Entries that were put into a map one after the other are found again, the last
one of a key (`Dict.get?_putAll`), and entries in key order are already the map that
is made of them (`ofList_of_sorted`).  The keys of a map are those under which
something is found (`Dict.mem_keys`), each of them once (`Dict.nodup_keys`).  In
whatever order the keys are gone over, the entries are the same (`Dict.visit_perm`).
-/
import Mathlib.Data.List.Basic
import RecordStore.Dict

namespace RecordStore

set_option autoImplicit false

universe u

namespace Entries

variable {α : Type u}

/-- An entry whose key comes after all others is put at the end. -/
theorem insert_of_greater {key : String} (x : α) {entries : List (String × α)}
    (greater : ∀ e ∈ entries, e.1 < key) : insert key x entries = entries ++ [(key, x)] := by
  induction entries with
  | nil => rfl
  | cons e rest ih =>
    obtain ⟨k, y⟩ := e
    have lt : k < key := greater (k, y) (by simp)
    have ge : ¬ key < k := fun gt => String.lt_irrefl k (String.lt_trans lt gt)
    rw [insert, if_neg ge, if_pos lt, ih fun e member => greater e (by simp [member])]
    rfl

theorem foldl_insert_of_sorted {entries : List (String × α)} (done : List (String × α))
    (sorted : Sorted (done ++ entries)) :
    entries.foldl (fun sofar e => insert e.1 e.2 sofar) done = done ++ entries := by
  induction entries generalizing done with
  | nil => rw [List.append_nil, List.foldl_nil]
  | cons e rest ih =>
    have greater : ∀ d ∈ done, d.1 < e.1 := fun d member =>
      (List.pairwise_append.1 sorted).2.2 d member e (by simp)
    rw [List.foldl_cons, insert_of_greater e.2 greater, ih (done ++ [e]) (by simpa using sorted)]
    simp

/-- Entries in key order stay as they are. -/
theorem ofList_of_sorted {entries : List (String × α)} (sorted : Sorted entries) :
    ofList entries = entries :=
  foldl_insert_of_sorted [] sorted

end Entries

namespace Dict

variable {α : Type u}

theorem get?_insert (d : Dict α) (key other : String) (x : α) :
    (d.insert key x).get? other = if other = key then some x else d.get? other := by
  split
  · next same => rw [same, get?_insert_self]
  · next ne => exact d.get?_insert_ne ne x

/-- What was put under a key before does not matter. -/
theorem insert_insert (d : Dict α) (key : String) (x y : α) :
    (d.insert key x).insert key y = d.insert key y := by
  refine ext_get fun other => ?_
  rw [get?_insert, get?_insert, get?_insert]
  split <;> rfl

/-- Entries of different keys may be put in either order. -/
theorem insert_comm (d : Dict α) {key other : String} (ne : other ≠ key) (x y : α) :
    (d.insert key x).insert other y = (d.insert other y).insert key x := by
  refine ext_get fun name => ?_
  rw [get?_insert, get?_insert, get?_insert, get?_insert]
  split
  · next same => rw [same, if_neg ne]
  · rfl

theorem isEmpty_eq_true {d : Dict α} : d.isEmpty = true ↔ d = ∅ := by
  constructor
  · intro h
    apply ext_get
    intro key
    rw [get?, List.isEmpty_iff.1 h]
    rfl
  · rintro rfl
    rfl

theorem isEmpty_insert (d : Dict α) (key : String) (x : α) :
    (d.insert key x).isEmpty = false := by
  rw [Bool.eq_false_iff]
  intro empty
  have found := d.get?_insert_self key x
  rw [isEmpty_eq_true.1 empty] at found
  cases found

/-- The entries of a map of one key. -/
theorem entries_singleton (key : String) (x : α) :
    ((∅ : Dict α).insert key x).entries = [(key, x)] := rfl

theorem nodup_keys (d : Dict α) : d.keys.Nodup := by
  have ascending : d.keys.Pairwise (· < ·) := List.pairwise_map.2 d.sorted
  refine ascending.imp fun {first later} less (same : first = later) => ?_
  rw [same] at less
  exact String.lt_irrefl later less

theorem mem_keys {d : Dict α} {key : String} : key ∈ d.keys ↔ ∃ x, d.get? key = some x := by
  unfold keys get?
  generalize d.entries = entries
  induction entries with
  | nil => simp [Entries.get?]
  | cons e rest ih =>
    obtain ⟨name, x⟩ := e
    rw [List.map_cons, List.mem_cons, ih, Entries.get?]
    by_cases same : name = key
    · simp [same]
    · simp [same, Ne.symm same]

theorem get?_of_mem {d : Dict α} {e : String × α} (member : e ∈ d.entries) :
    d.get? e.1 = some e.2 := by
  obtain ⟨entries, sorted⟩ := d
  unfold get?
  induction entries with
  | nil => cases member
  | cons first rest ih =>
    obtain ⟨greater, tail⟩ := List.pairwise_cons.1 sorted
    rw [Entries.get?]
    cases List.mem_cons.1 member with
    | inl same => rw [if_pos (by rw [same]), same]
    | inr later =>
      have other : first.1 ≠ e.1 := fun same => String.lt_irrefl e.1 (same ▸ greater e later)
      rw [if_neg other]
      exact ih tail later

/-- Entries of a map are found again under their keys. -/
theorem filterMap_get? {d : Dict α} {entries : List (String × α)}
    (among : ∀ e ∈ entries, e ∈ d.entries) :
    ((entries.map (·.1)).filterMap fun key => (d.get? key).map (key, ·)) = entries := by
  rw [List.filterMap_map]
  refine (List.filterMap_congr fun e member => ?_).trans List.filterMap_some
  show (d.get? e.1).map (e.1, ·) = some e
  rw [get?_of_mem (among e member)]
  rfl

theorem visit_given (d : Dict α) : d.visit .given = d.entries :=
  filterMap_get? fun _ member => member

/-- Going over a map passes each of its entries once. -/
theorem visit_perm (d : Dict α) (order : KeyOrder) : (d.visit order).Perm d.entries := by
  rw [← d.visit_given]
  exact (order.perm d.keys).filterMap _

theorem visit_singleton (key : String) (x : α) (order : KeyOrder) :
    ((∅ : Dict α).insert key x).visit order = [(key, x)] :=
  List.perm_singleton.1 (visit_perm _ order)

/-- The entries may come in every order. -/
theorem exists_visit {d : Dict α} {entries : List (String × α)} (perm : entries.Perm d.entries) :
    ∃ order, d.visit order = entries := by
  let order : KeyOrder :=
    { of := fun keys => if keys = d.keys then entries.map (·.1) else keys
      perm := fun keys => by
        split
        · next same => exact same ▸ perm.map _
        · exact .refl keys }
  refine ⟨order, ?_⟩
  have keys : order.of d.keys = entries.map (·.1) := if_pos rfl
  rw [visit, keys]
  exact filterMap_get? fun e member => perm.subset member

/-- Entries put one after the other. -/
def putAll (entries : List (String × α)) (d : Dict α) : Dict α :=
  entries.foldl (fun d e => d.insert e.1 e.2) d

@[simp] theorem putAll_nil (d : Dict α) : putAll [] d = d := rfl

@[simp] theorem putAll_cons (e : String × α) (rest : List (String × α)) (d : Dict α) :
    putAll (e :: rest) d = putAll rest (d.insert e.1 e.2) := rfl

theorem putAll_append (first rest : List (String × α)) (d : Dict α) :
    putAll (first ++ rest) d = putAll rest (putAll first d) :=
  List.foldl_append ..

/-- What was under a key before an entry of the key is put does not matter. -/
theorem putAll_insert (first rest : List (String × α)) (e : String × α) (x : α) (d : Dict α) :
    putAll (first ++ e :: rest) (d.insert e.1 x) = putAll (first ++ e :: rest) d := by
  induction first generalizing d with
  | nil => rw [List.nil_append, putAll_cons, putAll_cons, insert_insert]
  | cons other first ih =>
    rw [List.cons_append, putAll_cons, putAll_cons]
    by_cases same : other.1 = e.1
    · rw [same, insert_insert]
    · rw [insert_comm d same, ih]

/-- An entry overrides the entries of its key that come before it. -/
theorem putAll_override (first rest : List (String × α)) (e : String × α) (d : Dict α) :
    putAll (first ++ e :: rest) d = putAll (first.filter (·.1 != e.1) ++ e :: rest) d := by
  induction first generalizing d with
  | nil => rfl
  | cons other first ih =>
    rw [List.cons_append, putAll_cons]
    by_cases same : other.1 = e.1
    · rw [List.filter_cons_of_neg (by simp [same]), same, putAll_insert, ih]
    · rw [List.filter_cons_of_pos (by simp [same]), List.cons_append, putAll_cons, ih]

/-- Entries of other keys do not matter. -/
theorem get?_putAll_of_ne {entries : List (String × α)} {key : String}
    (other : ∀ e ∈ entries, e.1 ≠ key) (d : Dict α) : (putAll entries d).get? key = d.get? key := by
  induction entries generalizing d with
  | nil => rfl
  | cons e rest ih =>
    rw [putAll_cons, ih fun e' member => other e' (by simp [member]),
      get?_insert_ne _ (other e (by simp)).symm]

/-- An entry may be put before or after entries of other keys. -/
theorem putAll_insert_comm {entries : List (String × α)} {key : String}
    (others : ∀ e ∈ entries, e.1 ≠ key) (x : α) (d : Dict α) :
    putAll entries (d.insert key x) = (putAll entries d).insert key x := by
  induction entries generalizing d with
  | nil => rfl
  | cons e rest ih =>
    rw [putAll_cons, putAll_cons, insert_comm d (others e (by simp)),
      ih fun e' member => others e' (by simp [member])]

/-- Entries may be put before or after entries of other keys. -/
theorem putAll_comm {first rest : List (String × α)}
    (apart : ∀ e ∈ first, ∀ e' ∈ rest, e'.1 ≠ e.1) (d : Dict α) :
    putAll first (putAll rest d) = putAll rest (putAll first d) := by
  induction first generalizing d with
  | nil => rfl
  | cons e first ih =>
    rw [putAll_cons, putAll_cons, ← putAll_insert_comm (apart e (by simp)),
      ih fun e' member => apart e' (by simp [member])]

/-- Under each key is what the last entry of the key says, or what was there before. -/
theorem get?_putAll (entries : List (String × α)) (d : Dict α) (key : String) :
    (putAll entries d).get? key = (entries.reverse.lookup key).or (d.get? key) := by
  induction entries generalizing d with
  | nil => rfl
  | cons e rest ih =>
    obtain ⟨name, x⟩ := e
    rw [putAll_cons, ih, List.reverse_cons, List.lookup_append, Option.or_assoc, get?_insert]
    congr 1
    by_cases same : key = name
    · simp [same]
    · have other : (key == name) = false := beq_eq_false_iff_ne.2 same
      simp [List.lookup_cons, same, other]

/-- Under a key is the last entry of the key. -/
theorem get?_putAll_last (first : List (String × α)) {rest : List (String × α)} {key : String}
    (others : ∀ e ∈ rest, e.1 ≠ key) (x : α) (d : Dict α) :
    (putAll (first ++ (key, x) :: rest) d).get? key = some x := by
  rw [putAll_append, putAll_cons, get?_putAll_of_ne others, get?_insert_self]

/-- Putting what is there changes nothing. -/
theorem insert_of_get? {d : Dict α} {key : String} {x : α} (there : d.get? key = some x) :
    d.insert key x = d := by
  refine ext_get fun other => ?_
  rw [get?_insert]
  split
  · next same => rw [same, there]
  · rfl

theorem putAll_of_get? {entries : List (String × α)} {d : Dict α}
    (there : ∀ e ∈ entries, d.get? e.1 = some e.2) : putAll entries d = d := by
  induction entries with
  | nil => rfl
  | cons e rest ih =>
    rw [putAll_cons, insert_of_get? (there e (by simp))]
    exact ih fun e' member => there e' (by simp [member])

/-- Under the keys of the entries, and under those that were there before, there is something. -/
theorem exists_get?_putAll {entries : List (String × α)} {d : Dict α} {key : String} :
    (∃ x, (putAll entries d).get? key = some x) ↔
      (∃ e ∈ entries, e.1 = key) ∨ ∃ x, d.get? key = some x := by
  induction entries generalizing d with
  | nil => simp
  | cons e rest ih =>
    rw [putAll_cons, ih, get?_insert]
    by_cases same : key = e.1
    · simp [same]
    · simp [same, Ne.symm same]

/-- Whatever holds of all entries of a map and of all that are put into it holds of all entries
afterwards. -/
theorem putAll_induction {P : String → α → Prop} {entries : List (String × α)}
    (each : ∀ e ∈ entries, P e.1 e.2) {d : Dict α}
    (before : ∀ key x, d.get? key = some x → P key x) (key : String) (x : α)
    (found : (putAll entries d).get? key = some x) : P key x := by
  induction entries generalizing d with
  | nil => exact before key x found
  | cons e rest ih =>
    refine ih (fun e' member => each e' (by simp [member])) ?_ found
    intro other y there
    rw [get?_insert] at there
    split at there
    · next same =>
      cases there
      rw [same]
      exact each e (by simp)
    · exact before other y there

end Dict

end RecordStore
