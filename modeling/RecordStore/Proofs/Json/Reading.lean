/-
RecordStore.Proofs.Json.Reading -- readers that take back what was written

Text may be written with the members of its objects in any order
(`Reordered`).  A reader recovers a value from a JSON value when it takes it from
the text of every reordering, whatever text follows, as soon as the brackets of
the text may be opened (`Reader.Recovers`).  Lists, maps and structures recover
what they are made of: entries are put in their places as they come
(`recovers_dict`), and the fields of a structure are set in any order
(`Schema.recovers`).
-/
import Mathlib.Data.List.Perm.Basic
import RecordStore.Proofs.Json.RoundTrip

namespace RecordStore

set_option autoImplicit false

/-! ## Entries in any order -/

namespace Entries

variable {α : Type}

theorem insert_perm {key : String} (x : α) {entries : List (String × α)}
    (fresh : key ∉ entries.map (·.1)) : (insert key x entries).Perm ((key, x) :: entries) := by
  induction entries with
  | nil => exact .refl _
  | cons e rest ih =>
    obtain ⟨k, y⟩ := e
    rw [List.map_cons, List.mem_cons, not_or] at fresh
    rw [insert]
    split
    · exact .refl _
    · split
      · exact ((ih fresh.2).cons (k, y)).trans (.swap _ _ _)
      · next ge le => exact absurd (eq_of_not_lt ge le) fresh.1

theorem foldl_insert_perm (done : List (String × α)) {entries : List (String × α)}
    (distinct : ((done ++ entries).map (·.1)).Nodup) :
    (entries.foldl (fun sofar e => insert e.1 e.2 sofar) done).Perm (done ++ entries) := by
  induction entries generalizing done with
  | nil => simp
  | cons e rest ih =>
    have moved : (done ++ e :: rest).Perm (e :: done ++ rest) := List.perm_middle
    have distinct' : ((e :: done ++ rest).map (·.1)).Nodup := (moved.map _).nodup_iff.1 distinct
    have fresh : e.1 ∉ done.map (·.1) := by
      rw [List.cons_append, List.map_cons, List.map_append, List.nodup_cons] at distinct'
      exact fun member => distinct'.1 (List.mem_append_left _ member)
    have placed := (insert_perm e.2 fresh).append_right rest
    have later := ih (insert e.1 e.2 done) ((placed.map (·.1)).nodup_iff.2 distinct')
    exact (later.trans placed).trans moved.symm

theorem Sorted.nodup {entries : List (String × α)} (sorted : Sorted entries) :
    (entries.map (·.1)).Nodup := by
  refine List.pairwise_map.2 (List.Pairwise.imp ?_ sorted)
  intro a b lt same
  rw [same] at lt
  exact String.lt_irrefl _ lt

/-- Entries in key order are found again from any order of them. -/
theorem ofList_of_perm {entries shuffled : List (String × α)} (sorted : Sorted entries)
    (perm : entries.Perm shuffled) : ofList shuffled = entries := by
  have distinct : (shuffled.map (·.1)).Nodup := (perm.map _).nodup_iff.1 sorted.nodup
  have same : (ofList shuffled).Perm entries :=
    (foldl_insert_perm [] distinct).trans perm.symm
  refine List.Perm.eq_of_pairwise ?_ (sorted_ofList shuffled) sorted same
  intro a b _ _ lt gt
  exact absurd (String.lt_trans lt gt) (String.lt_irrefl _)

end Entries

namespace Json

open RecordStore.Number

/-! ## Members in any order -/

mutual

/-- The same value, with the members of every object in any order. -/
inductive Reordered : Json → Json → Prop
  | null : Reordered .null .null
  | bool (b : Bool) : Reordered (.bool b) (.bool b)
  | number (n : Numeral) : Reordered (.number n) (.number n)
  | string (s : String) : Reordered (.string s) (.string s)
  | array {items items' : List Json} (each : ReorderedItems items items') :
      Reordered (.array items) (.array items')
  | object {members shuffled members' : List (String × Json)} (perm : members.Perm shuffled)
      (each : ReorderedMembers shuffled members') : Reordered (.object members) (.object members')

inductive ReorderedItems : List Json → List Json → Prop
  | nil : ReorderedItems [] []
  | cons {j j' : Json} {rest rest' : List Json} (first : Reordered j j')
      (others : ReorderedItems rest rest') : ReorderedItems (j :: rest) (j' :: rest')

inductive ReorderedMembers : List (String × Json) → List (String × Json) → Prop
  | nil : ReorderedMembers [] []
  | cons (key : String) {j j' : Json} {rest rest' : List (String × Json)} (first : Reordered j j')
      (others : ReorderedMembers rest rest') :
      ReorderedMembers ((key, j) :: rest) ((key, j') :: rest')

end

mutual

theorem Reordered.refl : (j : Json) → Reordered j j
  | .null => .null
  | .bool b => .bool b
  | .number n => .number n
  | .string s => .string s
  | .array items => .array (ReorderedItems.refl items)
  | .object members => .object (.refl members) (ReorderedMembers.refl members)

theorem ReorderedItems.refl : (items : List Json) → ReorderedItems items items
  | [] => .nil
  | j :: rest => .cons (Reordered.refl j) (ReorderedItems.refl rest)

theorem ReorderedMembers.refl : (members : List (String × Json)) → ReorderedMembers members members
  | [] => .nil
  | (key, j) :: rest => .cons key (Reordered.refl j) (ReorderedMembers.refl rest)

end

theorem depthMembers_perm {members shuffled : List (String × Json)}
    (perm : members.Perm shuffled) : depthMembers shuffled = depthMembers members := by
  induction perm with
  | nil => rfl
  | cons m _ ih =>
    obtain ⟨key, j⟩ := m
    rw [depthMembers, depthMembers, ih]
  | swap first second rest =>
    obtain ⟨key, j⟩ := first
    obtain ⟨key', j'⟩ := second
    simp only [depthMembers]
    omega
  | trans _ _ first second => rw [second, first]

mutual

/-- The order of members does not matter to the depth. -/
theorem Reordered.depth_eq {j j' : Json} : j.Reordered j' → j'.depth = j.depth
  | .null | .bool _ | .number _ | .string _ => rfl
  | .array each => congrArg (· + 1) each.depth_eq
  | .object perm each =>
    congrArg (· + 1) (each.depth_eq.trans (depthMembers_perm perm))

theorem ReorderedItems.depth_eq {items items' : List Json} :
    ReorderedItems items items' → depthItems items' = depthItems items
  | .nil => rfl
  | .cons first others => congrArg₂ max first.depth_eq others.depth_eq

theorem ReorderedMembers.depth_eq {members members' : List (String × Json)} :
    ReorderedMembers members members' → depthMembers members' = depthMembers members
  | .nil => rfl
  | .cons _ first others => congrArg₂ max first.depth_eq others.depth_eq

end

/-! ## Texts and readers -/

variable {α β : Type}

/-- The reader takes the value from the text of a JSON value, whatever follows, where the brackets of
the text may be opened. -/
def Reader.Takes (read : Reader α) (j : Json) (x : α) : Prop :=
  ∀ levels rest, j.depth ≤ levels → read levels (j.chars ++ rest) = .ok (x, rest)

/-- The reader takes the value from every reordering of a JSON value. -/
def Reader.Recovers (read : Reader α) (json : Json) (x : α) : Prop :=
  ∀ j, json.Reordered j → read.Takes j x

/-- What a reader takes from a text it reads from the whole text. -/
theorem Reader.Takes.parse {read : Reader α} {j : Json} {x : α} (takes : read.Takes j x)
    (fits : j.depth ≤ maxLevels) : read.parse j.render = .ok x := by
  have whole := takes maxLevels [] fits
  rw [List.append_nil] at whole
  unfold Reader.parse render
  rw [String.toList_ofList, whole]
  rfl

/-- The whole text of a value is read as what it was written from. -/
theorem Reader.Recovers.parse {read : Reader α} {json j : Json} {x : α}
    (recovers : read.Recovers json x) (same : json.Reordered j) (fits : json.depth ≤ maxLevels) :
    read.parse j.render = .ok x :=
  (recovers j same).parse (same.depth_eq ▸ fits)

/-- Different values have different texts, however deep these nest. -/
theorem Reader.Recovers.unique {read : Reader α} {json json' j j' : Json} {x y : α}
    (first : read.Recovers json x) (second : read.Recovers json' y) (same : json.Reordered j)
    (same' : json'.Reordered j') (text : j.render = j'.render) : x = y := by
  have chars : j.chars = j'.chars := by
    rw [← String.toList_ofList (l := j.chars), ← String.toList_ofList (l := j'.chars)]
    exact congrArg String.toList text
  have taken := first j same (max j.depth j'.depth) [] (Nat.le_max_left ..)
  have taken' := second j' same' (max j.depth j'.depth) [] (Nat.le_max_right ..)
  rw [chars, taken'] at taken
  cases taken
  rfl

theorem Reader.Recovers.map {read : Reader α} {json : Json} {x : α} (recovers : read.Recovers json x)
    (f : α → β) : (read.map f).Recovers json (f x) := by
  intro j same levels rest fits
  unfold Reader.map
  rw [recovers j same levels rest fits]
  rfl

/-- Values in brackets. -/
def Bracketed : Json → Prop
  | .array _ | .object _ => True
  | _ => False

theorem Bracketed.reordered {json j : Json} (bracketed : json.Bracketed) (same : json.Reordered j) :
    j.Bracketed := by
  cases same with
  | array | object => trivial
  | null | bool | number | string => exact bracketed

theorem Bracketed.chars_eq_cons {j : Json} (bracketed : j.Bracketed) :
    ∃ c tail, j.chars = c :: tail ∧ Begins c ∧ c ≠ 'n' := by
  cases j with
  | array items => cases items <;> exact ⟨_, _, rfl, ⟨by decide, by decide, by decide⟩, by decide⟩
  | object members =>
    cases members <;> exact ⟨_, _, rfl, ⟨by decide, by decide, by decide⟩, by decide⟩
  | null | bool | number | string => exact bracketed.elim

theorem recovers_string (s : String) : readString.Recovers (.string s) s := by
  rintro _ ⟨⟩ levels rest -
  show readString levels (stringChars s ++ rest) = _
  rw [stringChars_append]
  exact scanString_flatMap s rest

theorem recovers_bool (b : Bool) : readBool.Recovers (.bool b) b := by
  rintro _ ⟨⟩ levels rest -
  cases b <;> rfl

theorem recovers_option {read : Reader α} {json : Json} {x : α} (recovers : read.Recovers json x)
    (bracketed : json.Bracketed) : (readOption read).Recovers json (some x) := by
  intro j same levels rest fits
  obtain ⟨c, tail, eq, begins, other⟩ := (bracketed.reordered same).chars_eq_cons
  have taken := recovers.map some j same levels rest fits
  rw [eq, List.cons_append] at taken ⊢
  unfold readOption
  rw [skipSpace_cons begins.space]
  split
  · next h => exact absurd (List.cons.inj h).1 other
  · exact taken

/-! ## Lists -/

/-- The items after the first one. -/
theorem scanItems_takes {read : Reader α} {js : List Json} {xs : List α}
    (each : List.Forall₂ (fun j x => j.Bracketed ∧ read.Takes j x) js xs) {levels fuel : Nat}
    (fits : depthItems js ≤ levels) (enough : js.length < fuel) (rest : List Char) :
    scanItems (read levels) fuel false (itemsChars js ++ ']' :: rest) = .ok (xs, rest) := by
  induction each generalizing fuel with
  | nil =>
    obtain ⟨fuel, rfl⟩ := Nat.exists_eq_succ_of_ne_zero (Nat.ne_of_gt enough)
    rfl
  | @cons j x others ys first _ ih =>
    obtain ⟨fuel, rfl⟩ := Nat.exists_eq_succ_of_ne_zero (Nat.ne_zero_of_lt enough)
    obtain ⟨c, tail, eq, begins, -⟩ := first.1.chars_eq_cons
    have both := Nat.max_le.1 fits
    rw [itemsChars, List.cons_append, List.append_assoc, eq, List.cons_append,
      scanItems_comma begins, ← List.cons_append, ← eq, first.2 levels _ both.1]
    show (scanItems (read levels) fuel false (itemsChars others ++ ']' :: rest) >>= fun found =>
      .ok (x :: found.1, found.2)) = _
    rw [ih both.2 (Nat.lt_of_succ_lt_succ enough)]
    rfl

/-- The items after an opening bracket. -/
theorem scanList_takes {read : Reader α} {js : List Json} {xs : List α}
    (each : List.Forall₂ (fun j x => j.Bracketed ∧ read.Takes j x) js xs) :
    (readList read).Takes (.array js) xs := by
  intro levels rest fits
  obtain ⟨levels, rfl⟩ := Nat.exists_eq_succ_of_ne_zero (Nat.ne_zero_of_lt fits)
  cases each with
  | nil => rfl
  | @cons j x others ys first others' =>
    obtain ⟨c, tail, eq, begins, -⟩ := first.1.chars_eq_cons
    have both := Nat.max_le.1 (Nat.le_of_succ_le_succ fits)
    let text := j.chars ++ (itemsChars others ++ ']' :: rest)
    have shape : (Json.array (j :: others)).chars ++ rest = '[' :: text := by
      simp [chars, text]
    have enough : others.length < text.length := by
      have := length_le_itemsChars others
      simp only [text, List.length_append, List.length_cons]
      omega
    rw [shape]
    show scanItems (read levels) (text.length + 1) true text = _
    generalize text.length = fuel at enough ⊢
    simp only [text]
    rw [eq, List.cons_append, scanItems_first begins, ← List.cons_append, ← eq,
      first.2 levels _ both.1]
    show (scanItems (read levels) fuel false (itemsChars others ++ ']' :: rest) >>= fun found =>
      .ok (x :: found.1, found.2)) = _
    rw [scanItems_takes others' both.2 enough]
    rfl

/-- What holds of each item with its reordering holds along the list. -/
theorem ReorderedItems.forall₂ {write : α → Json} {P : Json → α → Prop} {xs : List α}
    {js : List Json} (same : ReorderedItems (xs.map write) js)
    (each : ∀ x ∈ xs, ∀ j, (write x).Reordered j → P j x) : List.Forall₂ P js xs := by
  induction xs generalizing js with
  | nil =>
    cases same
    exact .nil
  | cons x rest ih =>
    cases same with
    | cons first others =>
      apply List.Forall₂.cons
      · exact each x (by simp) _ first
      · exact ih others fun y member => each y (by simp [member])

theorem recovers_list {read : Reader α} {write : α → Json} {xs : List α}
    (bracketed : ∀ x ∈ xs, (write x).Bracketed) (recovers : ∀ x ∈ xs, read.Recovers (write x) x) :
    (readList read).Recovers (.array (xs.map write)) xs := by
  intro j same
  cases same with
  | array items =>
    apply scanList_takes
    apply items.forall₂
    intro x member j same
    exact ⟨(bracketed x member).reordered same, recovers x member j same⟩

/-! ## Members -/

section

variable {σ γ : Type} {member : σ → String → Scan σ}

/-- Each member leads from one state to the next, whatever follows it. -/
inductive Steps (member : σ → String → Scan σ) : σ → List (String × Json) → σ → Prop
  | nil (s : σ) : Steps member s [] s
  | cons {s t u : σ} {key : String} {j : Json} {others : List (String × Json)}
      (one : ∀ rest, member s key (':' :: (j.chars ++ rest)) = .ok (t, rest))
      (later : Steps member t others u) : Steps member s ((key, j) :: others) u

/-- The members after the first one. -/
theorem Steps.scanMembers {s u : σ} {members : List (String × Json)}
    (steps : Steps member s members u) {fuel : Nat} (enough : members.length < fuel)
    (rest : List Char) :
    scanMembers member fuel false s (membersChars members ++ '\x7d' :: rest) = .ok (u, rest) := by
  induction steps generalizing fuel with
  | nil s =>
    obtain ⟨fuel, rfl⟩ := Nat.exists_eq_succ_of_ne_zero (Nat.ne_of_gt enough)
    rfl
  | @cons s t u key j others one _ ih =>
    obtain ⟨fuel, rfl⟩ := Nat.exists_eq_succ_of_ne_zero (Nat.ne_zero_of_lt enough)
    have shape : membersChars ((key, j) :: others) ++ '\x7d' :: rest =
        ',' :: '"' :: (key.toList.flatMap escapeChar ++ '"' :: ':' ::
          (j.chars ++ (membersChars others ++ '\x7d' :: rest))) := by
      simp [membersChars, stringChars]
    rw [shape]
    show (scanString (key.toList.flatMap escapeChar ++ '"' :: ':' ::
        (j.chars ++ (membersChars others ++ '\x7d' :: rest))) >>= fun name =>
      member s name.1 name.2 >>= fun next =>
        Json.scanMembers member fuel false next.1 next.2) = _
    rw [scanString_flatMap]
    show (member s key (':' :: (j.chars ++ (membersChars others ++ '\x7d' :: rest))) >>=
      fun next => Json.scanMembers member fuel false next.1 next.2) = _
    rw [one]
    exact ih (Nat.lt_of_succ_lt_succ enough)

/-- The members of an object, after the brace. -/
theorem Steps.object {s u : σ} {members : List (String × Json)}
    (steps : Steps member s members u) (rest : List Char) :
    ∃ text, (Json.object members).chars ++ rest = '\x7b' :: text ∧
      Json.scanMembers member (text.length + 1) true s text = .ok (u, rest) := by
  cases steps with
  | nil => exact ⟨'\x7d' :: rest, rfl, rfl⟩
  | @cons _ t _ key j others one later =>
    let text := '"' :: (key.toList.flatMap escapeChar ++ '"' :: ':' ::
      (j.chars ++ (membersChars others ++ '\x7d' :: rest)))
    have enough : others.length < text.length := by
      have := length_le_membersChars others
      simp only [text, List.length_append, List.length_cons]
      omega
    refine ⟨text, by simp [chars, stringChars, text], ?_⟩
    generalize text.length = fuel at enough ⊢
    show (scanString (key.toList.flatMap escapeChar ++ '"' :: ':' ::
        (j.chars ++ (membersChars others ++ '\x7d' :: rest))) >>= fun name =>
      member s name.1 name.2 >>= fun next =>
        Json.scanMembers member fuel false next.1 next.2) = _
    rw [scanString_flatMap]
    show (member s key (':' :: (j.chars ++ (membersChars others ++ '\x7d' :: rest))) >>=
      fun next => Json.scanMembers member fuel false next.1 next.2) = _
    rw [one]
    exact later.scanMembers enough rest

/-- What holds of each member with its reordering holds along the members. -/
theorem ReorderedMembers.forall₂ {key : γ → String} {write : γ → Json}
    {P : String × Json → γ → Prop} {xs : List γ} {members : List (String × Json)}
    (same : ReorderedMembers (xs.map fun x => (key x, write x)) members)
    (each : ∀ x ∈ xs, ∀ j, (write x).Reordered j → P (key x, j) x) :
    List.Forall₂ P members xs := by
  induction xs generalizing members with
  | nil =>
    cases same
    exact .nil
  | cons x rest ih =>
    cases same with
    | cons _ first others =>
      apply List.Forall₂.cons
      · exact each x (by simp) _ first
      · exact ih others fun y member => each y (by simp [member])

/-- The members of a reordered object are those of its entries in some order. -/
theorem Reordered.exists_members {key : γ → String} {write : γ → Json} {xs : List γ} {j : Json}
    (same : (Json.object (xs.map fun x => (key x, write x))).Reordered j) :
    ∃ ys members, xs.Perm ys ∧ j = .object members ∧
      ReorderedMembers (ys.map fun x => (key x, write x)) members := by
  cases same with
  | @object _ shuffled members perm each =>
    have split := congrFun (congrFun (List.eq_map_comp_perm fun x : γ => (key x, write x)) shuffled) xs
    obtain ⟨ys, rfl, moved⟩ := split.mpr perm.symm
    exact ⟨ys, members, moved.symm, rfl, each⟩

end

/-- The members of a map are its entries, put in their places one after the other. -/
theorem steps_scanEntry {read : Reader α} {levels : Nat} {members : List (String × Json)}
    {entries : List (String × α)}
    (each : List.Forall₂ (fun m e => m.1 = e.1 ∧ read.Takes m.2 e.2) members entries)
    (fits : depthMembers members ≤ levels) (done : List (String × α)) :
    Steps (scanEntry (read levels)) done members
      (entries.foldl (fun sofar e => Entries.insert e.1 e.2 sofar) done) := by
  induction each generalizing done with
  | nil => exact .nil done
  | @cons m e others entries first _ ih =>
    obtain ⟨key, j⟩ := m
    obtain ⟨rfl, takes⟩ := first
    have both := Nat.max_le.1 fits
    apply Steps.cons (t := Entries.insert e.1 e.2 done)
    · intro rest
      show (read levels (j.chars ++ rest) >>= fun found =>
        .ok (Entries.insert e.1 found.1 done, found.2)) = _
      rw [takes levels rest both.1]
      rfl
    · exact ih both.2 _

theorem recovers_entries {read : Reader α} {write : α → Json} {entries : List (String × α)}
    (sorted : Entries.Sorted entries) (recovers : ∀ e ∈ entries, read.Recovers (write e.2) e.2) :
    (readEntries read).Recovers (.object (entries.map fun e => (e.1, write e.2))) entries := by
  intro j same levels rest fits
  obtain ⟨shuffled, members, perm, rfl, each⟩ := same.exists_members
  obtain ⟨levels, rfl⟩ := Nat.exists_eq_succ_of_ne_zero (Nat.ne_zero_of_lt fits)
  have taken : List.Forall₂ (fun m e => m.1 = e.1 ∧ read.Takes m.2 e.2) members shuffled := by
    apply each.forall₂
    intro e member j same
    exact ⟨rfl, recovers e (perm.mem_iff.2 member) j same⟩
  have steps := steps_scanEntry taken (Nat.le_of_succ_le_succ fits) []
  obtain ⟨text, shape, scanned⟩ := steps.object rest
  rw [shape]
  show scanMembers (scanEntry (read levels)) (text.length + 1) true [] text = _
  rw [scanned]
  exact congrArg (fun found => Except.ok (found, rest)) (Entries.ofList_of_perm sorted perm)

theorem recovers_dict {read : Reader α} {write : α → Json} {d : Dict α}
    (recovers : ∀ e ∈ d.entries, read.Recovers (write e.2) e.2) :
    (readDict read).Recovers (.object (d.entries.map fun e => (e.1, write e.2))) d := by
  have whole := (recovers_entries d.sorted recovers).map Dict.ofList
  rwa [show Dict.ofList d.entries = d by
    unfold Dict.ofList
    congr
    exact Entries.ofList_of_sorted d.sorted] at whole

/-! ## Structures -/

/-- A member that a structure is written with, and what reading it back sets. -/
structure Assignment (α : Type) where
  field : Field α
  json : Json
  set : α → α

def Assignment.name (a : Assignment α) : String := a.field.name

theorem Field.recovers_named {name : String} {required : Bool} {read : Reader β}
    {set : β → α → α} {json : Json} {y : β} (recovers : read.Recovers json y) :
    (Field.named name required read set).read.Recovers json (set y) :=
  recovers.map set

namespace Schema

variable {s : Schema α}

/-- The members are those of a structure: each belongs to a field of its own, which reads what it
was written from, no required field is left out, and the fields may be set in any order. -/
structure Writes (s : Schema α) (assigned : List (Assignment α)) : Prop where
  known : ∀ a ∈ assigned,
    s.fields.find? (fun f => f.name == a.name || f.aliases.contains a.name) = some a.field
  reads : ∀ a ∈ assigned, a.field.read.Recovers a.json a.set
  distinct : (assigned.map Assignment.name).Nodup
  complete : ∀ f ∈ s.fields, f.required = true → f.name ∈ assigned.map Assignment.name
  commute : ∀ a ∈ assigned, ∀ b ∈ assigned, ∀ x, b.set (a.set x) = a.set (b.set x)

/-- The member sets the field that goes by its key, from what it was written with. -/
def Sets (s : Schema α) (m : String × Json) (a : Assignment α) : Prop :=
  s.fields.find? (fun f => f.name == m.1 || f.aliases.contains m.1) = some a.field ∧
    a.field.read.Takes m.2 a.set

/-- A member that was not read before sets its field. -/
theorem member_chars {a : Assignment α} {levels : Nat} {key : String} {j : Json}
    (sets : s.Sets (key, j) a) (fits : j.depth ≤ levels) {x : α} {seen : List String}
    (fresh : a.name ∉ seen) (rest : List Char) :
    s.member levels (x, seen) key (':' :: (j.chars ++ rest)) =
      .ok ((a.set x, a.name :: seen), rest) := by
  have unseen : ¬ seen.contains a.field.name = true := fun there =>
    fresh (List.contains_iff_mem.1 there)
  unfold member
  rw [sets.1]
  show (if seen.contains a.field.name then _ else a.field.read levels (j.chars ++ rest) >>=
    fun found => .ok ((found.1 x, a.field.name :: seen), found.2) : Except Cause _) = _
  rw [if_neg unseen, sets.2 levels rest fits]
  rfl

theorem steps_member {levels : Nat} {members : List (String × Json)}
    {assigned : List (Assignment α)} (each : List.Forall₂ s.Sets members assigned)
    (fits : depthMembers members ≤ levels) (x : α) (seen : List String)
    (distinct : (seen ++ assigned.map Assignment.name).Nodup) :
    Steps (s.member levels) (x, seen) members
      (assigned.foldl (fun x a => a.set x) x, (assigned.map Assignment.name).reverse ++ seen) := by
  induction each generalizing x seen with
  | nil => exact .nil _
  | @cons m a others assigned sets _ ih =>
    obtain ⟨key, j⟩ := m
    have both := Nat.max_le.1 fits
    have moved : (a.name :: (seen ++ assigned.map Assignment.name)).Nodup :=
      List.perm_middle.nodup_iff.1 distinct
    have fresh : a.name ∉ seen := fun member =>
      (List.nodup_cons.1 moved).1 (List.mem_append_left _ member)
    apply Steps.cons
    · exact member_chars sets both.1 fresh
    · have later := ih both.2 (a.set x) (a.name :: seen) moved
      simpa using later

/-- Members that each set a field of their own are read one after the other. -/
theorem takes_members {members : List (String × Json)} {assigned : List (Assignment α)}
    (each : List.Forall₂ s.Sets members assigned) (distinct : (assigned.map Assignment.name).Nodup)
    (complete : ∀ f ∈ s.fields, f.required = true → f.name ∈ assigned.map Assignment.name) :
    s.read.Takes (.object members) (assigned.foldl (fun x a => a.set x) s.default) := by
  intro levels rest fits
  obtain ⟨levels, rfl⟩ := Nat.exists_eq_succ_of_ne_zero (Nat.ne_zero_of_lt fits)
  have steps := steps_member each (Nat.le_of_succ_le_succ fits) s.default [] distinct
  obtain ⟨text, shape, scanned⟩ := steps.object rest
  have nothing : s.missing? ((assigned.map Assignment.name).reverse ++ []) = none := by
    unfold missing?
    rw [Option.map_eq_none_iff, List.find?_eq_none]
    intro f member wanted
    rw [Bool.and_eq_true, Bool.not_eq_true'] at wanted
    have written := complete f member wanted.1
    simp [written] at wanted
  rw [shape]
  show s.scanObject levels text = _
  unfold scanObject
  rw [scanned]
  dsimp only [bind, Except.bind]
  rw [nothing]

theorem Writes.recovers {assigned : List (Assignment α)} (writes : s.Writes assigned) :
    s.read.Recovers (.object (assigned.map fun a => (a.name, a.json)))
      (assigned.foldl (fun x a => a.set x) s.default) := by
  intro j same
  obtain ⟨shuffled, members, perm, rfl, each⟩ := same.exists_members
  have sets : List.Forall₂ s.Sets members shuffled := by
    apply each.forall₂
    intro a member j same
    have among := perm.mem_iff.2 member
    exact ⟨writes.known a among, writes.reads a among j same⟩
  have distinct : (shuffled.map Assignment.name).Nodup :=
    (perm.map _).nodup_iff.1 writes.distinct
  have complete : ∀ f ∈ s.fields, f.required = true → f.name ∈ shuffled.map Assignment.name :=
    fun f member required =>
      (perm.map Assignment.name).mem_iff.1 (writes.complete f member required)
  rw [perm.foldl_eq' writes.commute]
  exact takes_members sets distinct complete

/-- A structure whose fields may all be absent, and are. -/
theorem recovers_absent (s : Schema α) (optional : ∀ f ∈ s.fields, f.required = false) :
    s.read.Recovers (.object []) s.default := by
  have writes : s.Writes [] :=
    { known := by simp
      reads := by simp
      distinct := .nil
      complete := by
        intro f member required
        rw [optional f member] at required
        cases required
      commute := by simp }
  exact writes.recovers

/-- A structure of one field. -/
theorem recovers_one (s : Schema α) {name : String} {required : Bool} {read : Reader β}
    {set : β → α → α} (fields : s.fields = [.named name required read set]) {json : Json} {y : β}
    (recovers : read.Recovers json y) :
    s.read.Recovers (.object [(name, json)]) (set y s.default) := by
  have writes : s.Writes [⟨.named name required read set, json, set y⟩] :=
    { known := by simp [fields, Assignment.name]
      reads := by
        intro a member
        rw [List.mem_singleton] at member
        subst member
        exact Field.recovers_named recovers
      distinct := by simp
      complete := by simp [fields, Assignment.name]
      commute := by simp }
  exact writes.recovers

/-- A structure of two fields. -/
theorem recovers_two (s : Schema α) {f f' : Field α} (fields : s.fields = [f, f'])
    (ne : f.name ≠ f'.name) (plain : f.aliases = []) {json json' : Json} {set set' : α → α}
    (recovers : f.read.Recovers json set) (recovers' : f'.read.Recovers json' set')
    (commute : ∀ x, set' (set x) = set (set' x)) :
    s.read.Recovers (.object [(f.name, json), (f'.name, json')]) (set' (set s.default)) := by
  have writes : s.Writes [⟨f, json, set⟩, ⟨f', json', set'⟩] :=
    { known := by simp [fields, Assignment.name, ne, plain]
      reads := by simp [recovers, recovers']
      distinct := by simp [Assignment.name, ne]
      complete := by simp [fields, Assignment.name]
      commute := by simp [commute] }
  exact writes.recovers

end Schema

end Json

end RecordStore
