/-
RecordStore.Proofs.Url.PlainLabels -- labels that stay as they are

A domain name is brought into ASCII label by label, so what stands between stops
does not depend on what stands around it (`labelsOf?_append`), but for the order on
the line of letters that are written from right to left.  Small ASCII letters are
written from left to right, so a label of these is no obstacle there either: it may
stand before or after any name (`domainToAscii_cons`, `domainToAscii_concat`).
-/
import RecordStore.Url.Host

namespace RecordStore.Text

set_option autoImplicit false

/-! ## Pieces -/

theorem splitAt_ne_nil (isSeparator : Char → Bool) (cs : List Char) :
    splitAt isSeparator cs ≠ [] := by
  intro none_
  have length := length_splitAt isSeparator cs
  rw [none_] at length
  cases length

/-- A separator parts the pieces before it from those after it. -/
theorem splitAt_append {isSeparator : Char → Bool} {c : Char} (separates : isSeparator c = true)
    (before after : List Char) : splitAt isSeparator (before ++ c :: after) =
      splitAt isSeparator before ++ splitAt isSeparator after := by
  induction before with
  | nil =>
    rw [List.nil_append, splitAt_cons, if_pos separates]
    rfl
  | cons d before ih =>
    obtain ⟨piece, rest, pieces⟩ := List.exists_cons_of_ne_nil (splitAt_ne_nil isSeparator before)
    rw [List.cons_append, splitAt_cons, splitAt_cons, ih, pieces]
    split <;> rfl

/-- Without a separator there is one piece. -/
theorem splitAt_eq_singleton {isSeparator : Char → Bool} {cs : List Char}
    (whole : ∀ c ∈ cs, isSeparator c = false) : splitAt isSeparator cs = [cs] := by
  induction cs with
  | nil => rfl
  | cons c cs ih =>
    obtain ⟨first, rest⟩ := List.forall_mem_cons.1 whole
    rw [splitAt_cons, if_neg (by simp [first]), ih rest]

/-! ## Tables -/

/-- A table of the characters of a text; the text is not evaluated. -/
theorem Table.read_ofList (cs : List Char) : Table.read (String.ofList cs) =
    ((splitAt isBlank cs).filter fun word => !word.isEmpty).map Row.read := by
  rw [Table.read, String.toList_ofList]

/-- No class lists small letters, and the classes that are written from right to left list no ASCII
character. -/
theorem directionTables_ascii : directionTables.all (fun entry =>
    entry.2.all (fun row => row.last < 0x61 || 0x7B ≤ row.first) &&
      (!entry.1.isRightToLeft || entry.2.all (0x80 ≤ ·.first))) = true := by
  unfold directionTables
  repeat rw [show Table.read _ = _ from Table.read_ofList _]
  decide +kernel

theorem nonspacingMarks_ascii : nonspacingMarks.all (0x80 ≤ ·.first) = true := by
  unfold nonspacingMarks
  rw [show Table.read _ = _ from Table.read_ofList _]
  decide +kernel

theorem isRightToLeft_direction {c : Char} (ascii : c.toNat < 0x80) :
    (direction c).isRightToLeft = false := by
  unfold direction
  split
  · next d table found =>
    have holds : table.holds c = true := by simpa using List.find?_some found
    obtain ⟨row, listed, first, -⟩ := (table.holds_iff c).1 holds
    have entry := List.all_eq_true.1 directionTables_ascii _ (List.mem_of_find?_eq_some found)
    simp only [Bool.and_eq_true, Bool.or_eq_true, Bool.not_eq_true', List.all_eq_true,
      decide_eq_true_eq] at entry
    rcases entry.2 with other | beyond
    · exact other
    · have := beyond row listed
      omega
  · split <;> rfl

/-- Small letters are written from left to right. -/
theorem direction_smallLetter {c : Char} (low : 0x61 ≤ c.toNat) (high : c.toNat ≤ 0x7A) :
    direction c = .leftToRight := by
  have unlisted : directionTables.find? (fun entry => entry.2.holds c) = none := by
    rw [List.find?_eq_none]
    intro entry member holds
    obtain ⟨row, listed, first, last⟩ := (entry.2.holds_iff c).1 holds
    have entry := List.all_eq_true.1 directionTables_ascii _ member
    simp only [Bool.and_eq_true, Bool.or_eq_true, List.all_eq_true, decide_eq_true_eq] at entry
    have := entry.1 row listed
    omega
  have plain : isNonspacing c = false := by
    rw [Bool.eq_false_iff]
    intro holds
    obtain ⟨row, listed, first, -⟩ := (nonspacingMarks.holds_iff c).1 holds
    have := of_decide_eq_true (List.all_eq_true.1 nonspacingMarks_ascii row listed)
    omega
  rw [direction, unlisted]
  dsimp only
  rw [plain]
  rfl

/-! ## Characters by their codes -/

/-- What was checked of all codes below a bound holds of the characters there. -/
theorem of_codes {P : Char → Prop} {bound : Nat} (codes : ∀ n < bound, P (Char.ofNat n)) {c : Char}
    (below : c.toNat < bound) : P c := by
  have code := codes c.toNat below
  rwa [Char.ofNat_toNat] at code

/-- Capital letters come first in the runs of letters, and all other runs are beyond ASCII. -/
theorem lowerChar_ascii {c : Char} (ascii : c.toNat < 0x80) : lowerChar c = [c.toLower] :=
  of_codes (P := fun c => lowerChar c = [c.toLower]) (by decide +kernel) ascii

end RecordStore.Text

namespace RecordStore.Url

set_option autoImplicit false

open RecordStore.Text

/-! ## Labels of a name -/

/-- The labels of a name. -/
def labelsOf? (cs : List Char) : Option (List Label) := do
  let folded ← (splitAt (· == '.') cs).mapM foldLabel
  (folded.flatMap (splitAt (· == '.'))).mapM Label.ofFolded

/-- Labels between stops, unless their letters are out of order on the line. -/
def written? (labels : List Label) : Option String :=
  if labels.any (fun l => holdsRightToLeft l.plain) && !labels.all (fun l => isOrdered l.plain) then
    none
  else some (String.ofList (['.'].intercalate (labels.map (·.written))))

theorem domainToAscii_eq (name : String) :
    domainToAscii name = (labelsOf? name.toList).bind written? := by
  unfold domainToAscii labelsOf?
  simp only [Option.bind_eq_bind, Option.bind_assoc]
  rfl

theorem labelsOf?_append (before after : List Char) : labelsOf? (before ++ '.' :: after) =
    (labelsOf? before).bind fun first => (labelsOf? after).map fun rest => first ++ rest := by
  unfold labelsOf?
  rw [splitAt_append rfl, List.mapM_append]
  cases (splitAt (· == '.') before).mapM foldLabel with
  | none => rfl
  | some first =>
    cases (splitAt (· == '.') after).mapM foldLabel with
    | none =>
      simp
    | some rest =>
      simp only [Option.bind_eq_bind, Option.bind_some, Option.pure_def, List.flatMap_append,
        List.mapM_append]
      cases (first.flatMap (splitAt (· == '.'))).mapM Label.ofFolded <;>
        cases (rest.flatMap (splitAt (· == '.'))).mapM Label.ofFolded <;> rfl

theorem ne_nil_of_mapM {α β : Type} {f : α → Option β} {xs : List α} {ys : List β}
    (mapped : xs.mapM f = some ys) (some_ : xs ≠ []) : ys ≠ [] := by
  obtain ⟨x, rest, rfl⟩ := List.exists_cons_of_ne_nil some_
  rw [List.mapM_cons] at mapped
  obtain ⟨y, -, mapped⟩ := Option.bind_eq_some_iff.1 mapped
  obtain ⟨others, -, mapped⟩ := Option.bind_eq_some_iff.1 mapped
  cases mapped
  exact List.cons_ne_nil y others

/-- Every name has a label, even if it is empty. -/
theorem ne_nil_of_labelsOf? {cs : List Char} {labels : List Label}
    (read : labelsOf? cs = some labels) : labels ≠ [] := by
  obtain ⟨folded, mapped, read⟩ := Option.bind_eq_some_iff.1 read
  obtain ⟨piece, rest, rfl⟩ :=
    List.exists_cons_of_ne_nil (ne_nil_of_mapM mapped (splitAt_ne_nil _ cs))
  refine ne_nil_of_mapM read ?_
  rw [List.flatMap_cons]
  exact List.append_ne_nil_of_left_ne_nil (splitAt_ne_nil _ piece) _

theorem intercalate_concat {α : Type} (x : α) {parts : List (List α)} (some_ : parts ≠ [])
    (last : List α) : [x].intercalate (parts ++ [last]) = [x].intercalate parts ++ x :: last := by
  induction parts with
  | nil => exact absurd rfl some_
  | cons part rest ih =>
    cases rest with
    | nil =>
      rw [List.singleton_append, List.intercalate_cons_cons, List.intercalate_singleton,
        List.intercalate_singleton, List.append_assoc, List.singleton_append]
    | cons next rest =>
      have shorter := ih (List.cons_ne_nil _ _)
      rw [List.cons_append] at shorter
      rw [List.cons_append, List.cons_append, List.intercalate_cons_cons, shorter,
        List.intercalate_cons_cons, List.append_assoc, List.append_assoc, List.append_assoc]

/-! ## Plain labels -/

/-- ASCII characters that may stand in a label, without the mark of punycode. -/
structure IsPlainLabel (label : List Char) : Prop where
  ascii : ∀ c ∈ label, c.toNat < 0x80
  allowed : ∀ c ∈ label, isForbiddenInDomain c = false
  whole : ∀ c ∈ label, c ≠ '.'
  unmarked : Label.mark.isPrefixOf (label.map Char.toLower) = false

theorem isPlainLabel_iff {label : List Char} : IsPlainLabel label ↔
    label.all (fun c => decide (c.toNat < 0x80) && !isForbiddenInDomain c && c != '.') = true ∧
      Label.mark.isPrefixOf (label.map Char.toLower) = false := by
  rw [List.all_eq_true]
  simp only [Bool.and_eq_true, decide_eq_true_eq, Bool.not_eq_true', bne_iff_ne]
  constructor
  · rintro ⟨ascii, allowed, whole, unmarked⟩
    exact ⟨fun c member => ⟨⟨ascii c member, allowed c member⟩, whole c member⟩, unmarked⟩
  · rintro ⟨each, unmarked⟩
    exact ⟨fun c member => (each c member).1.1, fun c member => (each c member).1.2,
      fun c member => (each c member).2, unmarked⟩

instance (label : List Char) : Decidable (IsPlainLabel label) :=
  decidable_of_iff' _ isPlainLabel_iff

namespace IsPlainLabel

variable {label : List Char} (plain : IsPlainLabel label)

include plain

/-- In small letters a plain label is as plain as it was. -/
theorem of_mem_lower {c : Char} (member : c ∈ label.map Char.toLower) :
    c.toNat < 0x80 ∧ c ≠ '.' ∧ isForbiddenInDomain c = false := by
  obtain ⟨d, there, rfl⟩ := List.mem_map.1 member
  have lower : d.toLower.toNat < 0x80 ∧ (d.toLower = '.' → d = '.') ∧
      (isForbiddenInDomain d = false → isForbiddenInDomain d.toLower = false) :=
    of_codes (P := fun d => d.toLower.toNat < 0x80 ∧ (d.toLower = '.' → d = '.') ∧
      (isForbiddenInDomain d = false → isForbiddenInDomain d.toLower = false))
      (by decide +kernel) (plain.ascii d there)
  exact ⟨lower.1, fun stop => plain.whole d there (lower.2.1 stop),
    lower.2.2 (plain.allowed d there)⟩

theorem foldLabel_eq : foldLabel label = some (label.map Char.toLower) := by
  have ascii : label.all isAscii = true :=
    List.all_eq_true.2 fun c member => decide_eq_true (plain.ascii c member)
  have lower : label.flatMap lowerChar = label.map Char.toLower := by
    rw [List.map_eq_flatMap, List.flatMap_def, List.flatMap_def]
    exact congrArg List.flatten
      (List.map_congr_left fun c member => lowerChar_ascii (plain.ascii c member))
  rw [foldLabel, if_pos ascii, lower]

theorem ofFolded_eq : Label.ofFolded (label.map Char.toLower) =
    some ⟨label.map Char.toLower, label.map Char.toLower⟩ := by
  have allowed : (label.map Char.toLower).any isForbiddenInDomain = false := by
    rw [List.any_eq_false]
    intro c member
    simp [(plain.of_mem_lower member).2.2]
  have ascii : (label.map Char.toLower).all isAscii = true :=
    List.all_eq_true.2 fun c member => decide_eq_true (plain.of_mem_lower member).1
  rw [Label.ofFolded, if_neg (by simp [allowed]), if_neg (by simp [plain.unmarked]), if_pos ascii]

/-- A plain label is one label, in small letters. -/
theorem labelsOf?_eq :
    labelsOf? label = some [⟨label.map Char.toLower, label.map Char.toLower⟩] := by
  have one : splitAt (· == '.') label = [label] :=
    splitAt_eq_singleton fun c member => beq_eq_false_iff_ne.2 (plain.whole c member)
  have still : splitAt (· == '.') (label.map Char.toLower) = [label.map Char.toLower] :=
    splitAt_eq_singleton fun c member => beq_eq_false_iff_ne.2 (plain.of_mem_lower member).2.1
  unfold labelsOf?
  rw [one]
  simp [plain.foldLabel_eq, still, plain.ofFolded_eq]

end IsPlainLabel

/-- Small letters only. -/
def SmallLetters (label : List Char) : Prop := ∀ c ∈ label, 0x61 ≤ c.toNat ∧ c.toNat ≤ 0x7A

instance (label : List Char) : Decidable (SmallLetters label) :=
  List.decidableBAll (fun c : Char => 0x61 ≤ c.toNat ∧ c.toNat ≤ 0x7A) label

namespace SmallLetters

variable {label : List Char} (small : SmallLetters label)

include small

/-- Small letters have no other form, and may stand in a label. -/
theorem of_mem {c : Char} (member : c ∈ label) :
    c.toLower = c ∧ isForbiddenInDomain c = false :=
  of_codes (P := fun c => 0x61 ≤ c.toNat → c.toLower = c ∧ isForbiddenInDomain c = false)
    (by decide) (Nat.lt_succ_of_le (small c member).2) (small c member).1

theorem map_toLower : label.map Char.toLower = label := by
  rw [List.map_congr_left fun c member => (small.of_mem member).1, List.map_id']

theorem isPlainLabel : IsPlainLabel label where
  ascii c member := by
    have := small c member
    omega
  allowed c member := (small.of_mem member).2
  whole := by
    rintro c member rfl
    exact absurd (small '.' member).1 (by decide)
  unmarked := by
    rw [small.map_toLower, Bool.eq_false_iff]
    intro marked
    have hyphen : '-' ∈ label := (List.isPrefixOf_iff_prefix.1 marked).subset (by decide)
    exact absurd (small '-' hyphen).1 (by decide)

theorem labelsOf?_eq : labelsOf? label = some [⟨label, label⟩] := by
  rw [small.isPlainLabel.labelsOf?_eq, small.map_toLower]

theorem holdsRightToLeft_eq : holdsRightToLeft label = false := by
  rw [holdsRightToLeft, List.any_eq_false]
  intro c member
  have := small c member
  simp [isRightToLeft_direction (c := c) (by omega)]

theorem isOrdered_eq : isOrdered label = true := by
  have each (c : Char) (member : c ∈ label) : direction c = .leftToRight :=
    direction_smallLetter (small c member).1 (small c member).2
  have directions : label.map direction = List.replicate label.length .leftToRight := by
    rw [List.map_congr_left each, List.map_const']
  unfold isOrdered
  rw [directions]
  cases label.length with
  | zero => rfl
  | succ n =>
    simp [List.replicate_succ, isLeftToRightLabel, endsIn, ← List.replicate_succ']

end SmallLetters

/-! ## Beside any name -/

section

variable {label : Label} (straight : holdsRightToLeft label.plain = false)
  (ordered : isOrdered label.plain = true) {labels : List Label} (some_ : labels ≠ [])

include straight ordered some_

theorem written?_cons : written? (label :: labels) =
    (written? labels).map fun s => String.ofList (label.written ++ '.' :: s.toList) := by
  have parts : labels.map (·.written) ≠ [] := by simpa using some_
  unfold written?
  simp only [List.any_cons, List.all_cons, straight, ordered, Bool.false_or, Bool.true_and]
  split
  · rfl
  · rw [List.map_cons, List.intercalate_cons_of_ne_nil parts, Option.map_some, String.toList_ofList,
      List.append_assoc, List.singleton_append]

theorem written?_concat : written? (labels ++ [label]) =
    (written? labels).map fun s => String.ofList (s.toList ++ '.' :: label.written) := by
  have parts : labels.map (·.written) ≠ [] := by simpa using some_
  unfold written?
  simp only [List.any_append, List.all_append, List.any_cons, List.any_nil, List.all_cons,
    List.all_nil, straight, ordered, Bool.or_false, Bool.and_true]
  split
  · rfl
  · rw [List.map_append, List.map_singleton, intercalate_concat '.' parts, Option.map_some,
      String.toList_ofList]

end

variable {label : List Char} (small : SmallLetters label) (name : String)

include small

/-- A label of small letters in front of a name is kept. -/
theorem domainToAscii_cons : domainToAscii (String.ofList (label ++ '.' :: name.toList)) =
    (domainToAscii name).map fun s => String.ofList (label ++ '.' :: s.toList) := by
  rw [domainToAscii_eq, domainToAscii_eq, String.toList_ofList, labelsOf?_append,
    small.labelsOf?_eq, Option.bind_some]
  cases read : labelsOf? name.toList with
  | none => rfl
  | some labels =>
    exact written?_cons small.holdsRightToLeft_eq small.isOrdered_eq (ne_nil_of_labelsOf? read)

/-- A label of small letters behind a name is kept. -/
theorem domainToAscii_concat : domainToAscii (String.ofList (name.toList ++ '.' :: label)) =
    (domainToAscii name).map fun s => String.ofList (s.toList ++ '.' :: label) := by
  rw [domainToAscii_eq, domainToAscii_eq, String.toList_ofList, labelsOf?_append,
    small.labelsOf?_eq]
  cases read : labelsOf? name.toList with
  | none => rfl
  | some labels =>
    exact written?_concat small.holdsRightToLeft_eq small.isOrdered_eq (ne_nil_of_labelsOf? read)

omit small in
/-- A name that is one plain label is written in small letters. -/
theorem IsPlainLabel.domainToAscii_eq {label : List Char} (plain : IsPlainLabel label) :
    domainToAscii (String.ofList label) = some (String.ofList (label.map Char.toLower)) := by
  have straight : holdsRightToLeft (label.map Char.toLower) = false := by
    rw [holdsRightToLeft, List.any_eq_false]
    intro c member
    simp [isRightToLeft_direction (plain.of_mem_lower member).1]
  rw [Url.domainToAscii_eq, String.toList_ofList, plain.labelsOf?_eq, Option.bind_some, written?]
  simp [straight]

end RecordStore.Url
