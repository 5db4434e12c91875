/-
RecordStore.Proofs.Json.RoundTrip -- reading back values

A value without doubles is read back from its text, whatever follows that could
not belong to a number, as long as it nests no deeper than brackets may be opened
(`Plain.readable`).  Deeper values are refused for that reason alone.  The whole
text of a value is read accordingly (`parse_render`).
-/
import RecordStore.Codec
import RecordStore.Proofs.Dict
import RecordStore.Proofs.Json.Words

namespace RecordStore.Json

set_option autoImplicit false

open RecordStore.Number

/-- Values of null, booleans, whole numbers of 64 bits, strings, arrays and objects.  The members of
objects are in strict key order. -/
inductive Plain : Json → Prop
  | null : Plain .null
  | bool (b : Bool) : Plain (.bool b)
  | whole (w : Whole) : Plain (.number (.whole w))
  | string (s : String) : Plain (.string s)
  | array (items : List Json) (each : ∀ j ∈ items, Plain j) : Plain (.array items)
  | object (members : List (String × Json)) (sorted : Entries.Sorted members)
      (each : ∀ m ∈ members, Plain m.2) : Plain (.object members)

theorem Plain.canonical {j : Json} (plain : Plain j) : Canonical j := by
  induction plain with
  | null => exact .null
  | bool b => exact .bool b
  | whole w => exact .number (.whole w)
  | string s => exact .string s
  | array items _ ih => exact .array items ih
  | object members sorted _ ih => exact .object members sorted ih

/-! ## Values in order stay as they are -/

theorem arrangeItems_eq {items : List Json} (each : ∀ j ∈ items, arrange j = j) :
    arrangeItems items = items := by
  induction items with
  | nil => rfl
  | cons j rest ih =>
    rw [arrangeItems, each j (by simp), ih fun j' member => each j' (by simp [member])]

theorem arrangeMembers_eq {members : List (String × Json)}
    (each : ∀ m ∈ members, arrange m.2 = m.2) : arrangeMembers members = members := by
  induction members with
  | nil => rfl
  | cons m rest ih =>
    obtain ⟨key, j⟩ := m
    rw [arrangeMembers, each (key, j) (by simp), ih fun m' member => each m' (by simp [member])]

theorem Canonical.arrange_eq {j : Json} (canonical : Canonical j) : arrange j = j := by
  induction canonical with
  | null | bool | number | string => rfl
  | array items _ ih => rw [arrange, arrangeItems_eq ih]
  | object members sorted _ ih =>
    rw [arrange, arrangeMembers_eq ih, Entries.ofList_of_sorted sorted]

/-! ## The first character of a value -/

/-- A character with which a value can begin. -/
structure Begins (c : Char) : Prop where
  space : isSpace c = false
  bracket : c ≠ ']'
  comma : c ≠ ','

theorem begins_of_isDigit {c : Char} (digit : isDigit c = true) : Begins c := by
  have range := isDigit_iff.1 digit
  refine ⟨?_, ?_, ?_⟩
  · rw [Bool.eq_false_iff]
    intro space
    simp only [isSpace, Bool.or_eq_true, decide_eq_true_eq] at space
    rcases space with ((rfl | rfl) | rfl) | rfl <;> revert digit <;> decide
  · rintro rfl
    revert digit
    decide
  · rintro rfl
    revert digit
    decide

theorem Plain.chars_eq_cons {j : Json} (plain : Plain j) :
    ∃ c tail, j.chars = c :: tail ∧ Begins c := by
  cases plain with
  | null => exact ⟨_, _, rfl, by decide, by decide, by decide⟩
  | bool b => cases b <;> exact ⟨_, _, rfl, by decide, by decide, by decide⟩
  | whole w =>
    show ∃ c tail, (integerText w.value).toList = c :: tail ∧ Begins c
    unfold integerText
    split
    · rw [String.toList_ofList]
      exact ⟨_, _, rfl, by decide, by decide, by decide⟩
    · obtain ⟨c, tail, eq⟩ := List.exists_cons_of_ne_nil (digits_ne_nil w.value.natAbs)
      rw [String.toList_ofList, eq]
      exact ⟨c, tail, rfl,
        begins_of_isDigit (isDigit_of_mem_digits (n := w.value.natAbs) (by simp [eq]))⟩
  | string s => exact ⟨_, _, rfl, by decide, by decide, by decide⟩
  | array items each => cases items <;> exact ⟨_, _, rfl, by decide, by decide, by decide⟩
  | object members sorted each =>
    cases members <;> exact ⟨_, _, rfl, by decide, by decide, by decide⟩

theorem skipSpace_cons {c : Char} (space : isSpace c = false) (tail : List Char) :
    skipSpace (c :: tail) = c :: tail := by
  rw [skipSpace, List.dropWhile_cons, space]
  rfl

/-! ## Reading back -/

/-- The value is read back from its text where it does not nest too deep, and is refused for its
depth where it does. -/
def Readable (j : Json) : Prop :=
  ∀ levels rest, EndsNumber rest →
    readAny levels (j.chars ++ rest) =
      if j.depth ≤ levels then .ok (j, rest) else .error .recursionLimit

/-- What follows a step that may be refused. -/
theorem bind_ite {ε α β : Type} {p : Prop} [Decidable p] (a : α) (e : ε) (f : α → Except ε β) :
    (if p then .ok a else .error e : Except ε α) >>= f = if p then f a else .error e := by
  split <;> rfl

/-- Two values fit when the deeper one does. -/
theorem ite_max_le {α : Type} (first second levels : Nat) (x y : α) :
    (if first ≤ levels then if second ≤ levels then x else y else y) =
      if max first second ≤ levels then x else y := by
  by_cases fits : first ≤ levels
  · by_cases deep : second ≤ levels
    · rw [if_pos fits, if_pos deep, if_pos (Nat.max_le.2 ⟨fits, deep⟩)]
    · rw [if_pos fits, if_neg deep, if_neg fun both => deep (Nat.max_le.1 both).2]
  · rw [if_neg fits, if_neg fun both => fits (Nat.max_le.1 both).1]

theorem readAny_eq (levels : Nat) : readAny levels = scanAny (Reader.below readAny levels) := by
  cases levels <;> rfl

theorem scanAny_digit (inner : Option (Scan Json)) {c : Char} (digit : isDigit c = true)
    (tail : List Char) :
    scanAny inner (c :: tail) = (do
      let (n, rest) ← scanNumber false (c :: tail)
      .ok (.number n, rest)) := by
  have other (d : Char) (plain : isDigit d = false) : c ≠ d := by
    rintro rfl
    rw [digit] at plain
    cases plain
  unfold scanAny
  rw [skipSpace_cons (begins_of_isDigit digit).space]
  split
  · next h => cases h
  · next h => exact absurd (List.cons.inj h).1 (other 'n' rfl)
  · next h => exact absurd (List.cons.inj h).1 (other 't' rfl)
  · next h => exact absurd (List.cons.inj h).1 (other 'f' rfl)
  · next h => exact absurd (List.cons.inj h).1 (other '-' rfl)
  · next h => exact absurd (List.cons.inj h).1 (other '"' rfl)
  · next h => exact absurd (List.cons.inj h).1 (other '[' rfl)
  · next h => exact absurd (List.cons.inj h).1 (other '\x7b' rfl)
  · next h =>
    obtain ⟨rfl, rfl⟩ := List.cons.inj h
    rw [if_pos digit]

/-- A value that opens no bracket is read at any depth. -/
theorem readable_of_flat {j : Json} (flat : j.depth = 0)
    (read : ∀ inner rest, EndsNumber rest → scanAny inner (j.chars ++ rest) = .ok (j, rest)) :
    Readable j := by
  intro levels rest ends
  rw [flat, if_pos (Nat.zero_le levels), readAny_eq]
  exact read _ rest ends

theorem readable_whole (w : Whole) : Readable (.number (.whole w)) := by
  refine readable_of_flat rfl fun inner rest ends => ?_
  have value := wholeOf_natAbs w
  show scanAny _ ((integerText w.value).toList ++ rest) = _
  unfold integerText
  by_cases negative : w.value < 0
  · rw [decide_eq_true negative] at value
    rw [if_pos negative, String.toList_ofList]
    show (do
      let (n, rest) ← scanNumber true (digits w.value.natAbs ++ rest)
      .ok (Json.number n, rest)) = _
    rw [scanNumber_digits true w.natAbs_le ends, value]
    rfl
  · rw [decide_eq_false negative] at value
    have read := scanNumber_digits false w.natAbs_le ends
    obtain ⟨c, tail, eq⟩ := List.exists_cons_of_ne_nil (digits_ne_nil w.value.natAbs)
    have digit : isDigit c = true := isDigit_of_mem_digits (n := w.value.natAbs) (by simp [eq])
    rw [eq, List.cons_append] at read
    rw [if_neg negative, String.toList_ofList, eq, List.cons_append, scanAny_digit _ digit, read,
      value]
    rfl

theorem readable_string (s : String) : Readable (.string s) := by
  refine readable_of_flat rfl fun inner rest _ => ?_
  show scanAny _ (stringChars s ++ rest) = _
  rw [stringChars_append]
  show ((scanString (s.toList.flatMap escapeChar ++ '"' :: rest)).bind fun read =>
    .ok (Json.string read.1, read.2)) = _
  rw [scanString_flatMap]
  rfl

/-! ## Items -/

section

variable {α : Type} {item : Scan α} {fuel : Nat} {c : Char}

theorem scanItems_first (begins : Begins c) (tail : List Char) :
    scanItems item (fuel + 1) true (c :: tail) = (do
      let (x, rest) ← item (c :: tail)
      let (xs, rest) ← scanItems item fuel false rest
      .ok (x :: xs, rest)) := by
  rw [scanItems, skipSpace_cons begins.space]
  split
  · next h => cases h
  · next h => exact absurd (List.cons.inj h).1 begins.bracket
  · next h => exact absurd (List.cons.inj h).1 begins.comma
  · rfl

theorem scanItems_comma (begins : Begins c) (tail : List Char) :
    scanItems item (fuel + 1) false (',' :: c :: tail) = (do
      let (x, rest) ← item (c :: tail)
      let (xs, rest) ← scanItems item fuel false rest
      .ok (x :: xs, rest)) := by
  rw [scanItems, skipSpace_cons (by decide)]
  split
  · next h => cases h
  · next h => exact absurd (List.cons.inj h).1 (by decide)
  · next h =>
    obtain ⟨-, rfl⟩ := List.cons.inj h
    rw [if_neg Bool.false_ne_true, skipSpace_cons begins.space]
    split
    · next h => cases h
    · next h => exact absurd (List.cons.inj h).1 begins.bracket
    · rfl
  · next other => exact absurd rfl (other (c :: tail))

end

theorem endsNumber_itemsChars (items : List Json) (rest : List Char) :
    EndsNumber (itemsChars items ++ ']' :: rest) := by
  cases items <;> exact ⟨rfl, by decide, by decide, by decide⟩

/-- An item and those after it. -/
theorem scanItem_chars {j : Json} (readable : Readable j) {others : List Json}
    {levels fuel : Nat} {tail rest : List Char} (ends : EndsNumber tail)
    (later : scanItems (readAny levels) fuel false tail =
      if depthItems others ≤ levels then .ok (others, rest) else .error .recursionLimit) :
    (do
      let (x, rest) ← readAny levels (j.chars ++ tail)
      let (xs, rest) ← scanItems (readAny levels) fuel false rest
      .ok (x :: xs, rest)) =
      if depthItems (j :: others) ≤ levels then .ok (j :: others, rest)
      else .error .recursionLimit := by
  rw [readable levels tail ends, bind_ite]
  dsimp only
  rw [later, bind_ite, ite_max_le, depthItems]

/-- The items after the first one. -/
theorem scanItems_itemsChars {items : List Json} (plain : ∀ j ∈ items, Plain j)
    (readable : ∀ j ∈ items, Readable j) (levels : Nat) {fuel : Nat}
    (enough : items.length < fuel) (rest : List Char) :
    scanItems (readAny levels) fuel false (itemsChars items ++ ']' :: rest) =
      if depthItems items ≤ levels then .ok (items, rest) else .error .recursionLimit := by
  induction items generalizing fuel with
  | nil =>
    obtain ⟨fuel, rfl⟩ := Nat.exists_eq_succ_of_ne_zero (Nat.ne_of_gt enough)
    rfl
  | cons j others ih =>
    obtain ⟨fuel, rfl⟩ := Nat.exists_eq_succ_of_ne_zero (Nat.ne_zero_of_lt enough)
    obtain ⟨c, tail, eq, begins⟩ := (plain j (by simp)).chars_eq_cons
    rw [itemsChars, List.cons_append, List.append_assoc, eq, List.cons_append,
      scanItems_comma begins, ← List.cons_append, ← eq]
    exact scanItem_chars (readable j (by simp)) (endsNumber_itemsChars others rest)
      (ih (fun j' member => plain j' (by simp [member]))
        (fun j' member => readable j' (by simp [member])) (Nat.lt_of_succ_lt_succ enough))

theorem length_le_itemsChars (items : List Json) : items.length ≤ (itemsChars items).length := by
  induction items with
  | nil => exact Nat.le_refl 0
  | cons j rest ih =>
    rw [itemsChars, List.length_cons, List.length_cons, List.length_append]
    omega

/-- The items after an opening bracket. -/
theorem scanList_itemsChars {first : Json} {others : List Json}
    (plain : ∀ j ∈ first :: others, Plain j) (readable : ∀ j ∈ first :: others, Readable j)
    (levels : Nat) (rest : List Char) :
    scanList (some (readAny levels)) (first.chars ++ (itemsChars others ++ ']' :: rest)) =
      if depthItems (first :: others) ≤ levels then .ok (first :: others, rest)
      else .error .recursionLimit := by
  obtain ⟨c, tail, eq, begins⟩ := (plain first (by simp)).chars_eq_cons
  have enough :
      others.length < (first.chars ++ (itemsChars others ++ ']' :: rest)).length := by
    have := length_le_itemsChars others
    rw [List.length_append, List.length_append, List.length_cons]
    omega
  have later := scanItems_itemsChars (fun j member => plain j (by simp [member]))
    (fun j member => readable j (by simp [member])) levels enough rest
  dsimp only [scanList]
  generalize (first.chars ++ (itemsChars others ++ ']' :: rest)).length = fuel at later ⊢
  rw [eq, List.cons_append, scanItems_first begins, ← List.cons_append, ← eq]
  exact scanItem_chars (readable first (by simp)) (endsNumber_itemsChars others rest) later

theorem readable_array {items : List Json} (plain : ∀ j ∈ items, Plain j)
    (readable : ∀ j ∈ items, Readable j) : Readable (.array items) := by
  intro levels rest _
  rw [readAny_eq, depth]
  cases levels with
  | zero =>
    rw [if_neg (Nat.not_succ_le_zero _)]
    cases items <;> rfl
  | succ levels =>
    cases items with
    | nil => rfl
    | cons first others =>
      have shape : (Json.array (first :: others)).chars ++ rest =
          '[' :: (first.chars ++ (itemsChars others ++ ']' :: rest)) := by
        simp [chars]
      rw [shape]
      show (do
        let (items, rest) ← scanList (some (readAny levels))
          (first.chars ++ (itemsChars others ++ ']' :: rest))
        .ok (Json.array items, rest)) = _
      rw [scanList_itemsChars plain readable levels rest, bind_ite]
      simp only [Nat.succ_le_succ_iff]

/-! ## Members -/

theorem endsNumber_membersChars (members : List (String × Json)) (rest : List Char) :
    EndsNumber (membersChars members ++ '\x7d' :: rest) := by
  rcases members with _ | ⟨⟨key, j⟩, others⟩ <;> exact ⟨rfl, by decide, by decide, by decide⟩

/-- One member is put to those read before it. -/
theorem scanEntry_chars {j : Json} (readable : Readable j) (levels : Nat)
    (entries : List (String × Json)) (key : String) {rest : List Char} (ends : EndsNumber rest) :
    scanEntry (readAny levels) entries key (':' :: (j.chars ++ rest)) =
      if j.depth ≤ levels then .ok (Entries.insert key j entries, rest)
      else .error .recursionLimit := by
  show (do
    let (x, rest) ← readAny levels (j.chars ++ rest)
    .ok (Entries.insert key x entries, rest)) = _
  rw [readable levels rest ends, bind_ite]

/-- The key and the value of a member, and what comes after them. -/
theorem scanMember_chars {j : Json} (readable : Readable j) (levels fuel : Nat)
    (entries : List (String × Json)) (key : String) {rest : List Char} (ends : EndsNumber rest) :
    (do
      let (key, rest) ← scanString
        (key.toList.flatMap escapeChar ++ '"' :: ':' :: (j.chars ++ rest))
      let (entries, rest) ← scanEntry (readAny levels) entries key rest
      scanMembers (scanEntry (readAny levels)) fuel false entries rest) =
      if j.depth ≤ levels then
        scanMembers (scanEntry (readAny levels)) fuel false (Entries.insert key j entries) rest
      else .error .recursionLimit := by
  rw [scanString_flatMap]
  show (do
    let (entries, rest) ← scanEntry (readAny levels) entries key (':' :: (j.chars ++ rest))
    scanMembers (scanEntry (readAny levels)) fuel false entries rest) = _
  rw [scanEntry_chars readable levels entries key ends, bind_ite]

/-- The members after the first one. -/
theorem scanMembers_membersChars {members : List (String × Json)}
    (readable : ∀ m ∈ members, Readable m.2) (levels : Nat) {fuel : Nat}
    (enough : members.length < fuel) (entries : List (String × Json)) (rest : List Char) :
    scanMembers (scanEntry (readAny levels)) fuel false entries
        (membersChars members ++ '\x7d' :: rest) =
      if depthMembers members ≤ levels then
        .ok (members.foldl (fun sofar m => Entries.insert m.1 m.2 sofar) entries, rest)
      else .error .recursionLimit := by
  induction members generalizing fuel entries with
  | nil =>
    obtain ⟨fuel, rfl⟩ := Nat.exists_eq_succ_of_ne_zero (Nat.ne_of_gt enough)
    rfl
  | cons m others ih =>
    obtain ⟨key, j⟩ := m
    obtain ⟨fuel, rfl⟩ := Nat.exists_eq_succ_of_ne_zero (Nat.ne_zero_of_lt enough)
    have one := scanMember_chars (readable (key, j) (by simp)) levels fuel entries key
      (endsNumber_membersChars others rest)
    have later := ih (fun m member => readable m (by simp [member]))
      (Nat.lt_of_succ_lt_succ enough) (Entries.insert key j entries)
    have shape : membersChars ((key, j) :: others) ++ '\x7d' :: rest =
        ',' :: '"' :: (key.toList.flatMap escapeChar ++ '"' :: ':' ::
          (j.chars ++ (membersChars others ++ '\x7d' :: rest))) := by
      simp [membersChars, stringChars]
    rw [shape]
    refine Eq.trans ?_ (one.trans ?_)
    · rfl
    · rw [later, ite_max_le, depthMembers, List.foldl_cons]

theorem length_le_membersChars (members : List (String × Json)) :
    members.length ≤ (membersChars members).length := by
  induction members with
  | nil => exact Nat.le_refl 0
  | cons m rest ih =>
    obtain ⟨key, j⟩ := m
    rw [membersChars]
    simp only [List.length_cons, List.length_append]
    omega

/-- The members after an opening brace; put in their places, they stand as they stood. -/
theorem scanEntries_membersChars {key : String} {j : Json} {others : List (String × Json)}
    (sorted : Entries.Sorted ((key, j) :: others))
    (readable : ∀ m ∈ (key, j) :: others, Readable m.2) (levels : Nat) (rest : List Char) :
    scanEntries (some (readAny levels))
        ('"' :: (key.toList.flatMap escapeChar ++ '"' :: ':' ::
          (j.chars ++ (membersChars others ++ '\x7d' :: rest)))) =
      if depthMembers ((key, j) :: others) ≤ levels then .ok ((key, j) :: others, rest)
      else .error .recursionLimit := by
  have kept : (others.foldl (fun sofar m => Entries.insert m.1 m.2 sofar)
      (Entries.insert key j [])) = (key, j) :: others :=
    Entries.ofList_of_sorted sorted
  let text := '"' :: (key.toList.flatMap escapeChar ++ '"' :: ':' ::
    (j.chars ++ (membersChars others ++ '\x7d' :: rest)))
  have enough : others.length < text.length := by
    have := length_le_membersChars others
    simp only [text, List.length_cons, List.length_append]
    omega
  have one := scanMember_chars (readable (key, j) (by simp)) levels text.length [] key
    (endsNumber_membersChars others rest)
  refine Eq.trans ?_ (one.trans ?_)
  · rfl
  · rw [scanMembers_membersChars (fun m member => readable m (by simp [member])) levels enough,
      kept, ite_max_le, depthMembers]

theorem readable_object {members : List (String × Json)} (sorted : Entries.Sorted members)
    (readable : ∀ m ∈ members, Readable m.2) : Readable (.object members) := by
  intro levels rest _
  rw [readAny_eq, depth]
  cases levels with
  | zero =>
    rw [if_neg (Nat.not_succ_le_zero _)]
    rcases members with _ | ⟨⟨key, j⟩, others⟩ <;> rfl
  | succ levels =>
    rcases members with _ | ⟨⟨key, j⟩, others⟩
    · rfl
    · have shape : (Json.object ((key, j) :: others)).chars ++ rest =
          '\x7b' :: '"' :: (key.toList.flatMap escapeChar ++ '"' :: ':' ::
            (j.chars ++ (membersChars others ++ '\x7d' :: rest))) := by
        simp [chars, stringChars]
      rw [shape]
      show (do
        let (members, rest) ← scanEntries (some (readAny levels))
          ('"' :: (key.toList.flatMap escapeChar ++ '"' :: ':' ::
            (j.chars ++ (membersChars others ++ '\x7d' :: rest))))
        .ok (Json.object members, rest)) = _
      rw [scanEntries_membersChars sorted readable levels rest, bind_ite]
      simp only [Nat.succ_le_succ_iff]

/-! ## Whole texts -/

theorem Plain.readable {j : Json} (plain : Plain j) : Readable j := by
  induction plain with
  | null => exact readable_of_flat rfl fun inner rest _ => rfl
  | bool b => cases b <;> exact readable_of_flat rfl fun inner rest _ => rfl
  | whole w => exact readable_whole w
  | string s => exact readable_string s
  | array items each ih => exact readable_array each ih
  | object members sorted _ ih => exact readable_object sorted ih

/-- The text of a value is read as that value when it nests no deeper than `maxLevels`, and is
refused for its depth otherwise. -/
theorem parse_render {j : Json} (plain : Plain j) :
    Reader.parse readAny j.render =
      if j.depth ≤ maxLevels then .ok j else .error .recursionLimit := by
  have read := plain.readable maxLevels [] trivial
  rw [List.append_nil] at read
  unfold Reader.parse render
  rw [String.toList_ofList, read, bind_ite]
  rfl

end RecordStore.Json
