/-
RecordStore.Dict -- finite maps from texts, in key order

A dictionary is a list of entries in strictly ascending key order, so it has one
form, and two dictionaries that answer every look-up alike are equal
(`Dict.ext_get`).  Whoever goes over a map may still do so in another order
(`KeyOrder`).  The operations on entry lists are stated first, because values
that nest in themselves hold such lists directly; their look-up laws need no
order.  Order is by code point.
-/

namespace RecordStore

set_option autoImplicit false

universe u v

namespace Entries

variable {α : Type u} {β : Type v}

/-- The value of the first entry for `key`. -/
def get? (key : String) : List (String × α) → Option α
  | [] => none
  | (k, x) :: rest => if k = key then some x else get? key rest

/-- Put an entry in its place, over an older one of the same key. -/
def insert (key : String) (x : α) : List (String × α) → List (String × α)
  | [] => [(key, x)]
  | (k, y) :: rest =>
    if key < k then (key, x) :: (k, y) :: rest
    else if k < key then (k, y) :: insert key x rest
    else (key, x) :: rest

/-- Leave out the entries for `key`. -/
def erase (key : String) (entries : List (String × α)) : List (String × α) :=
  entries.filter (·.1 ≠ key)

/-- Put every entry of a list in its place, so that the last one of a key stays. -/
def ofList (entries : List (String × α)) : List (String × α) :=
  entries.foldl (fun sofar e => insert e.1 e.2 sofar) []

/-- Keys ascend strictly. -/
def Sorted (entries : List (String × α)) : Prop :=
  entries.Pairwise fun a b => a.1 < b.1

theorem eq_of_not_lt {a b : String} (h : ¬ a < b) (h' : ¬ b < a) : a = b :=
  String.le_antisymm (String.not_lt.1 h') (String.not_lt.1 h)

theorem get?_insert_self (key : String) (x : α) (entries : List (String × α)) :
    get? key (insert key x entries) = some x := by
  induction entries with
  | nil => simp [insert, get?]
  | cons e rest ih =>
    obtain ⟨k, y⟩ := e
    rw [insert]
    split
    · simp [get?]
    · split
      · next h =>
        have ne : k ≠ key := fun same => String.lt_irrefl key (same ▸ h)
        simp [get?, ih, ne]
      · simp [get?]

theorem get?_insert_ne {key other : String} (ne : other ≠ key) (x : α)
    (entries : List (String × α)) :
    get? other (insert key x entries) = get? other entries := by
  induction entries with
  | nil => simp [insert, get?, ne.symm]
  | cons e rest ih =>
    obtain ⟨k, y⟩ := e
    rw [insert]
    split
    · simp [get?, ne.symm]
    · split
      · by_cases h : k = other <;> simp [get?, h, ih]
      · next h h' =>
        have := eq_of_not_lt h h'
        subst this
        simp [get?, ne.symm]

theorem mem_insert {key : String} {x : α} {entries : List (String × α)} {e : String × α}
    (h : e ∈ insert key x entries) : e = (key, x) ∨ e ∈ entries := by
  induction entries with
  | nil => simp_all [insert]
  | cons head rest ih =>
    obtain ⟨k, y⟩ := head
    rw [insert] at h
    split at h
    · simp_all
    · split at h
      · rcases List.mem_cons.1 h with h | h
        · simp [h]
        · rcases ih h with h | h <;> simp [h]
      · rcases List.mem_cons.1 h with h | h <;> simp [h]

theorem Sorted.insert {entries : List (String × α)} (h : Sorted entries) (key : String) (x : α) :
    Sorted (insert key x entries) := by
  induction entries with
  | nil => simp [Sorted, Entries.insert]
  | cons head rest ih =>
    obtain ⟨k, y⟩ := head
    have tail := List.pairwise_cons.1 h
    rw [Entries.insert]
    split
    · next lt =>
      refine List.pairwise_cons.2 ⟨?_, h⟩
      intro e he
      rcases List.mem_cons.1 he with rfl | he
      · exact lt
      · exact String.lt_trans lt (tail.1 e he)
    · split
      · next lt =>
        refine List.pairwise_cons.2 ⟨?_, ih tail.2⟩
        intro e he
        rcases mem_insert he with rfl | he
        · exact lt
        · exact tail.1 e he
      · next ge le =>
        have same := eq_of_not_lt ge le
        subst same
        exact List.pairwise_cons.2 ⟨tail.1, tail.2⟩

theorem Sorted.erase {entries : List (String × α)} (h : Sorted entries) (key : String) :
    Sorted (erase key entries) :=
  List.Pairwise.filter _ h

theorem get?_erase_self (key : String) (entries : List (String × α)) :
    get? key (erase key entries) = none := by
  induction entries with
  | nil => rfl
  | cons e rest ih =>
    obtain ⟨k, y⟩ := e
    by_cases h : k = key
    · simpa [erase, h] using ih
    · simpa [erase, h, get?] using ih

theorem get?_erase_ne {key other : String} (ne : other ≠ key) (entries : List (String × α)) :
    get? other (erase key entries) = get? other entries := by
  induction entries with
  | nil => rfl
  | cons e rest ih =>
    obtain ⟨k, y⟩ := e
    by_cases h : k = key
    · subst h
      simpa [erase, get?, ne.symm] using ih
    · by_cases h' : k = other <;> simp_all [erase, get?]

theorem sorted_foldl_insert (pairs : List (String × α)) {entries : List (String × α)}
    (h : Sorted entries) :
    Sorted (pairs.foldl (fun sofar e => insert e.1 e.2 sofar) entries) := by
  induction pairs generalizing entries with
  | nil => exact h
  | cons e rest ih => exact ih (h.insert e.1 e.2)

theorem sorted_ofList (pairs : List (String × α)) : Sorted (ofList pairs) :=
  sorted_foldl_insert pairs List.Pairwise.nil

theorem get?_eq_none_of_lt {key : String} {entries : List (String × α)}
    (h : ∀ e ∈ entries, key < e.1) : get? key entries = none := by
  induction entries with
  | nil => rfl
  | cons e rest ih =>
    obtain ⟨k, y⟩ := e
    have lt := h (k, y) (by simp)
    have ne : k ≠ key := fun same => String.lt_irrefl k (same ▸ lt)
    simp [get?, ne, ih fun e he => h e (by simp [he])]

/-- Two sorted lists with the same answers are one list. -/
theorem Sorted.ext {first second : List (String × α)} (hf : Sorted first) (hs : Sorted second)
    (same : ∀ key, get? key first = get? key second) : first = second := by
  induction first generalizing second with
  | nil =>
    match second with
    | [] => rfl
    | (k, y) :: rest =>
      have := same k
      simp [get?] at this
  | cons e rest ih =>
    obtain ⟨k, x⟩ := e
    match second with
    | [] =>
      have := same k
      simp [get?] at this
    | (k', x') :: rest' =>
      have hf' := List.pairwise_cons.1 hf
      have hs' := List.pairwise_cons.1 hs
      have key : k = k' := by
        apply eq_of_not_lt
        · intro lt
          have none : get? k ((k', x') :: rest') = none := by
            apply get?_eq_none_of_lt
            intro e he
            rcases List.mem_cons.1 he with rfl | he
            · exact lt
            · exact String.lt_trans lt (hs'.1 e he)
          have := (same k).trans none
          simp [get?] at this
        · intro lt
          have none : get? k' ((k, x) :: rest) = none := by
            apply get?_eq_none_of_lt
            intro e he
            rcases List.mem_cons.1 he with rfl | he
            · exact lt
            · exact String.lt_trans lt (hf'.1 e he)
          have := (same k').symm.trans none
          simp [get?] at this
      subst key
      have value : x = x' := by simpa [get?] using same k
      subst value
      congr 1
      refine ih hf'.2 hs'.2 fun key => ?_
      by_cases h : k = key
      · subst h
        rw [get?_eq_none_of_lt hf'.1, get?_eq_none_of_lt hs'.1]
      · simpa [get?, h] using same key

theorem Sorted.mapValues (f : α → β) {entries : List (String × α)} (h : Sorted entries) :
    Sorted (entries.map fun e => (e.1, f e.2)) := by
  rw [Sorted, List.pairwise_map]
  exact h

end Entries

/-- An order in which keys are gone over. -/
structure KeyOrder where
  of : List String → List String
  perm (keys : List String) : (of keys).Perm keys

/-- Keys are gone over as they stand. -/
def KeyOrder.given : KeyOrder := ⟨id, List.Perm.refl⟩

/-- A finite map from texts. -/
structure Dict (α : Type u) where
  entries : List (String × α)
  sorted : Entries.Sorted entries

namespace Dict

variable {α : Type u} {β : Type v}

/-- The map without entries. -/
def empty : Dict α := ⟨[], List.Pairwise.nil⟩

instance : EmptyCollection (Dict α) := ⟨empty⟩

instance : Inhabited (Dict α) := ⟨empty⟩

instance [DecidableEq α] : DecidableEq (Dict α) := fun x y =>
  if h : x.entries = y.entries then
    isTrue (by cases x; cases y; simp_all)
  else isFalse fun same => h (same ▸ rfl)

def get? (d : Dict α) (key : String) : Option α := Entries.get? key d.entries

def insert (d : Dict α) (key : String) (x : α) : Dict α :=
  ⟨Entries.insert key x d.entries, d.sorted.insert key x⟩

def erase (d : Dict α) (key : String) : Dict α :=
  ⟨Entries.erase key d.entries, d.sorted.erase key⟩

/-- All entries of a list; the last one of a key stays. -/
def ofList (pairs : List (String × α)) : Dict α :=
  ⟨Entries.ofList pairs, Entries.sorted_ofList pairs⟩

def size (d : Dict α) : Nat := d.entries.length

def isEmpty (d : Dict α) : Bool := d.entries.isEmpty

def keys (d : Dict α) : List String := d.entries.map (·.1)

/-- The entries, as they come when their keys are gone over in an order. -/
def visit (d : Dict α) (order : KeyOrder) : List (String × α) :=
  (order.of d.keys).filterMap fun key => (d.get? key).map (key, ·)

/-- Another value under every key. -/
def mapValues (f : α → β) (d : Dict α) : Dict β :=
  ⟨d.entries.map fun e => (e.1, f e.2), Entries.Sorted.mapValues f d.sorted⟩

@[simp] theorem get?_empty (key : String) : (empty : Dict α).get? key = none := rfl

@[simp] theorem get?_insert_self (d : Dict α) (key : String) (x : α) :
    (d.insert key x).get? key = some x :=
  Entries.get?_insert_self key x d.entries

theorem get?_insert_ne (d : Dict α) {key other : String} (ne : other ≠ key) (x : α) :
    (d.insert key x).get? other = d.get? other :=
  Entries.get?_insert_ne ne x d.entries

@[simp] theorem get?_erase_self (d : Dict α) (key : String) : (d.erase key).get? key = none :=
  Entries.get?_erase_self key d.entries

theorem get?_erase_ne (d : Dict α) {key other : String} (ne : other ≠ key) :
    (d.erase key).get? other = d.get? other :=
  Entries.get?_erase_ne ne d.entries

theorem ext_get {x y : Dict α} (same : ∀ key, x.get? key = y.get? key) : x = y := by
  have h := x.sorted.ext y.sorted same
  cases x; cases y; simp_all

end Dict

end RecordStore
