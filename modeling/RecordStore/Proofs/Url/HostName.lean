/-
RecordStore.Proofs.Url.HostName -- names of hosts, and a name put into another

The host of a URL is decoded and brought into ASCII as one name.  Even so, what stands
between two given labels and their stops becomes the same name that it would be on
its own (`hostName?_regional`): no character of it takes part in a sequence of
percent signs, in an encoding, or in a label with what stands around it.  The last
label keeps the whole from being read as an address (`readSpecial_regional`).
-/
import RecordStore.Proofs.Text.Encoding
import RecordStore.Proofs.Url.PlainLabels

namespace RecordStore.Url

set_option autoImplicit false

open RecordStore.Text RecordStore.Number

/-! ## Names of hosts -/

/-- A name as the host of a URL: with its percent signs decoded, and in ASCII. -/
def hostName? (cs : List Char) : Option String :=
  (String.fromUTF8? ⟨(percentDecode cs).toArray⟩).bind domainToAscii

theorem readDomain_eq (cs : List Char) : Host.readDomain cs =
    match hostName? cs with
    | none => .error .invalidDomainName
    | some name =>
      if name.isEmpty then .error .emptyHost
      else if endsInNumber (splitAt (· == '.') name.toList) then
        match readIpv4? (splitAt (· == '.') name.toList) with
        | some address => .ok (.ipv4 address)
        | none => .error .invalidIpv4
      else .ok (.domain name) := rfl

/-- A name that does not read as an address is the host. -/
theorem readDomain_of_name {cs : List Char} {name : String} (named : hostName? cs = some name)
    (some_ : name.isEmpty = false)
    (unnumbered : endsInNumber (splitAt (· == '.') name.toList) = false) :
    Host.readDomain cs = .ok (.domain name) := by
  rw [readDomain_eq, named]
  simp only [some_, unnumbered, Bool.false_eq_true, if_false]

theorem readSpecial_eq_readDomain {c : Char} (plain : c ≠ '[') (cs : List Char) :
    Host.readSpecial (c :: cs) = Host.readDomain (c :: cs) := by
  unfold Host.readSpecial
  split
  · next same =>
    cases same
    exact absurd rfl plain
  · rfl

theorem percentDecode_cons {c : Char} (plain : c ≠ '%') (rest : List Char) :
    percentDecode (c :: rest) = (String.singleton c).toUTF8.toList ++ percentDecode rest := by
  rw [percentDecode]
  rintro a b rest ⟨⟩
  exact absurd rfl plain

/-- A percent sign that no two digits follow stands for itself. -/
theorem percentDecode_percent {a b : Char}
    (none_ : ∀ hi lo, Hex.value? a = some hi → Hex.value? b = some lo → False) (rest : List Char) :
    percentDecode ('%' :: a :: b :: rest) = 0x25 :: percentDecode (a :: b :: rest) := by
  rw [percentDecode]
  split
  · next hi lo first second => exact absurd second fun second => none_ hi lo first second
  · rfl

/-- A character that is no digit cuts a percent sign off from what follows. -/
theorem percentDecode_append {c : Char} (border : Hex.value? c = none) (cs rest : List Char) :
    percentDecode (cs ++ c :: rest) = percentDecode cs ++ percentDecode (c :: rest) := by
  have sign : (String.singleton '%').toUTF8.toList = [0x25] := by decide +kernel
  fun_induction percentDecode cs with
  | case1 => rfl
  | case2 a b tail hi lo first second ih =>
    simp only [List.cons_append]
    rw [percentDecode, first, second]
    simp [ih]
  | case3 a b tail none_ ih =>
    simp only [List.cons_append] at ih ⊢
    rw [percentDecode_percent none_, ih]
  | case4 d tail other ih =>
    by_cases percent : d = '%'
    · subst percent
      match tail with
      | [] =>
        cases rest with
        | nil => simp [percentDecode]
        | cons next rest =>
          rw [List.singleton_append, percentDecode_percent (by simp [border]), sign]
          rfl
      | [a] =>
        simp only [List.cons_append, List.nil_append] at ih ⊢
        rw [percentDecode_percent (by simp [border]), sign, ih]
        rfl
      | a :: b :: tail => exact absurd rfl (other a b tail rfl)
    · rw [List.cons_append, percentDecode_cons percent, ih, List.append_assoc]

/-- Text without percent signs is decoded on its own. -/
theorem percentDecode_append_of_plain {cs : List Char} (plain : '%' ∉ cs) (rest : List Char) :
    percentDecode (cs ++ rest) = percentDecode cs ++ percentDecode rest := by
  induction cs with
  | nil => rfl
  | cons c cs ih =>
    rw [List.mem_cons, not_or] at plain
    have own : c ≠ '%' := Ne.symm plain.1
    rw [List.cons_append, percentDecode_cons own, percentDecode_cons own, ih plain.2,
      List.append_assoc]

/-- ASCII text without percent signs denotes its own bytes. -/
theorem percentDecode_eq_encoded {cs : List Char} (plain : '%' ∉ cs)
    (ascii : ∀ c ∈ cs, c.toNat < 0x80) :
    percentDecode cs = (String.ofList cs).toByteArray.data.toList := by
  have encoded {c : Char} (ascii : c.toNat < 0x80) : (String.singleton c).toUTF8.toList =
      (String.singleton c).toByteArray.data.toList :=
    of_codes (P := fun c => (String.singleton c).toUTF8.toList =
      (String.singleton c).toByteArray.data.toList) (by decide +kernel) ascii
  induction cs with
  | nil => rfl
  | cons c cs ih =>
    rw [List.mem_cons, not_or] at plain
    rw [List.forall_mem_cons] at ascii
    have joined : String.ofList (c :: cs) = String.singleton c ++ String.ofList cs := by
      rw [← String.toList_inj]
      simp
    rw [percentDecode_cons (Ne.symm plain.1), ih plain.2 ascii.2, encoded ascii.1, joined,
      String.toByteArray_append, ByteArray.toList_data_append]

/-! ## Hosts of regions -/

/-- The first label of the host of a region, with the stop behind it. -/
def hostStart : String := "dynamodb."

/-- The last labels, with the stop in front of them. -/
def hostEnd : String := ".amazonaws.com"

theorem toList_hostStart :
    hostStart.toList = ['d', 'y', 'n', 'a', 'm', 'o', 'd', 'b', '.'] := by decide

theorem toList_hostEnd : hostEnd.toList =
    ['.', 'a', 'm', 'a', 'z', 'o', 'n', 'a', 'w', 's', '.', 'c', 'o', 'm'] := by decide

theorem percentDecode_hostStart :
    percentDecode hostStart.toList = hostStart.toByteArray.data.toList := by
  decide +kernel

theorem percentDecode_hostEnd : percentDecode hostEnd.toList = hostEnd.toByteArray.data.toList := by
  decide +kernel

/-- The name of a region between the labels of its host. -/
def regionalName (name : String) : String := hostStart ++ name ++ hostEnd

theorem domainToAscii_regionalName (name : String) :
    domainToAscii (regionalName name) = (domainToAscii name).map regionalName := by
  let first := ['d', 'y', 'n', 'a', 'm', 'o', 'd', 'b']
  let second := ['a', 'm', 'a', 'z', 'o', 'n', 'a', 'w', 's']
  let last := ['c', 'o', 'm']
  have parts (name : String) : regionalName name = String.ofList (first ++ '.' ::
      (String.ofList ((String.ofList (name.toList ++ '.' :: second)).toList ++
        '.' :: last)).toList) := by
    rw [← String.toList_inj, regionalName, String.toList_append, String.toList_append,
      toList_hostStart, toList_hostEnd]
    simp [first, second, last]
  have small : SmallLetters first ∧ SmallLetters second ∧ SmallLetters last := by decide
  rw [parts, domainToAscii_cons small.1, domainToAscii_concat small.2.2,
    domainToAscii_concat small.2.1]
  cases domainToAscii name with
  | none => rfl
  | some s => rw [Option.map_some, Option.map_some, Option.map_some, Option.map_some, parts s]

/-- The name in the host of a region is that of the region, whatever characters it holds. -/
theorem hostName?_regional (cs : List Char) :
    hostName? (hostStart.toList ++ (cs ++ hostEnd.toList)) = (hostName? cs).map regionalName := by
  have stop : Hex.value? '.' = none := by decide
  have behind : percentDecode (cs ++ hostEnd.toList) =
      percentDecode cs ++ hostEnd.toByteArray.data.toList := by
    rw [← percentDecode_hostEnd, toList_hostEnd, percentDecode_append stop]
  unfold hostName?
  rw [percentDecode_append_of_plain (by decide), percentDecode_hostStart, behind,
    fromUTF8?_between]
  cases String.fromUTF8? ⟨(percentDecode cs).toArray⟩ with
  | none => rfl
  | some name =>
    rw [Option.map_some, Option.bind_some, Option.bind_some, ← domainToAscii_regionalName,
      regionalName, String.append_assoc]

theorem endsInNumber_regionalName (name : String) :
    endsInNumber (splitAt (· == '.') (regionalName name).toList) = false := by
  have last : (regionalName name).toList =
      (hostStart.toList ++ name.toList ++ ['.', 'a', 'm', 'a', 'z', 'o', 'n', 'a', 'w', 's']) ++
        '.' :: ['c', 'o', 'm'] := by
    rw [regionalName, String.toList_append, String.toList_append, toList_hostEnd]
    simp
  have single : splitAt (· == '.') ['c', 'o', 'm'] = [['c', 'o', 'm']] := by decide
  rw [last, splitAt_append rfl, single, endsInNumber, List.reverse_append]
  rfl

theorem isEmpty_regionalName (name : String) : (regionalName name).isEmpty = false := by
  rw [String.isEmpty_eq_false_iff]
  intro empty
  have first := congrArg String.toList empty
  rw [regionalName, String.toList_append, String.toList_append, toList_hostStart] at first
  cases first

/-- The host of a region is a domain name if the region can be written in ASCII. -/
theorem readSpecial_regional (cs : List Char) :
    Host.readSpecial (hostStart.toList ++ (cs ++ hostEnd.toList)) =
      match hostName? cs with
      | some name => .ok (.domain (regionalName name))
      | none => .error .invalidDomainName := by
  have domain (cs : List Char) : Host.readSpecial (hostStart.toList ++ cs) =
      Host.readDomain (hostStart.toList ++ cs) := by
    rw [toList_hostStart]
    exact readSpecial_eq_readDomain (by decide) _
  rw [domain]
  cases named : hostName? cs with
  | none => rw [readDomain_eq, hostName?_regional, named, Option.map_none]
  | some name =>
    exact readDomain_of_name (by rw [hostName?_regional, named, Option.map_some])
      (isEmpty_regionalName name) (endsInNumber_regionalName name)

end RecordStore.Url
