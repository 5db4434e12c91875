/-
RecordStore.Proofs.Url.HostText -- the characters of hosts

Whatever text is read as a URL, the host that it names is written with visible
ASCII characters only (`Parsed.visible_host`).  Domain names are brought into
ASCII label by label, and what is left of a label holds no control and no blank
(`Label.visible_written`).  The digits of punycode are letters and decimal digits,
because the thresholds of a delta stay below the base (`visible_deltaChars`).
Addresses are digits between stops or colons, and a host of an unknown scheme has
its controls encoded.  So a host is one word on one line.
-/
import RecordStore.Proofs.Number.Digits
import RecordStore.Proofs.Operation
import RecordStore.Url.Parser

namespace RecordStore.Url

set_option autoImplicit false

open RecordStore.Text RecordStore.Number

/-! ## Visible characters -/

/-- An ASCII character that leaves a mark: neither a control nor a blank. -/
def isVisible (c : Char) : Bool := 0x20 < c.toNat && c.toNat < 0x7F

/-- Written with visible characters only. -/
def Visible (cs : List Char) : Prop := ∀ c ∈ cs, isVisible c = true

theorem isVisible_iff {c : Char} : isVisible c = true ↔ 0x20 < c.toNat ∧ c.toNat < 0x7F := by
  simp [isVisible]

theorem isVisible_of_isDigit {c : Char} (digit : isDigit c = true) : isVisible c = true := by
  obtain ⟨low, high⟩ := isDigit_iff.1 digit
  exact isVisible_iff.2 ⟨by omega, by omega⟩

@[simp] theorem visible_nil : Visible [] := fun _ member => nomatch member

@[simp] theorem visible_cons {c : Char} {cs : List Char} :
    Visible (c :: cs) ↔ isVisible c = true ∧ Visible cs := List.forall_mem_cons

@[simp] theorem visible_append {cs ds : List Char} :
    Visible (cs ++ ds) ↔ Visible cs ∧ Visible ds := List.forall_mem_append

theorem visible_digits (n : Nat) : Visible (digits n) :=
  fun _ member => isVisible_of_isDigit (isDigit_of_mem_digits member)

/-- Visible parts between visible separators. -/
theorem visible_intercalate {separator : List Char} (between : Visible separator)
    {parts : List (List Char)} (each : ∀ part ∈ parts, Visible part) :
    Visible (separator.intercalate parts) := by
  induction parts with
  | nil => exact visible_nil
  | cons part rest ih =>
    obtain ⟨first, others⟩ := List.forall_mem_cons.1 each
    cases rest with
    | nil => rwa [List.intercalate_singleton]
    | cons next rest =>
      rw [List.intercalate_cons_cons, visible_append, visible_append]
      exact ⟨⟨first, between⟩, ih others⟩

/-! ## Punycode -/

namespace Punycode

theorem isVisible_digit {n : Nat} (small : n < 36) : isVisible (digit n) = true := by
  revert n
  decide

theorem threshold_bounds (bias place : Nat) :
    1 ≤ threshold bias place ∧ threshold bias place ≤ 26 := by
  unfold threshold
  omega

/-- A digit is below the threshold, or the rest of a division by what lies above it. -/
theorem visible_deltaChars (bias fuel place delta : Nat) :
    Visible (deltaChars bias fuel place delta) := by
  induction fuel generalizing place delta with
  | zero => exact visible_nil
  | succ fuel ih =>
    obtain ⟨low, high⟩ := threshold_bounds bias place
    rw [deltaChars]
    split
    case isTrue below =>
      exact visible_cons.2 ⟨isVisible_digit (by omega), visible_nil⟩
    case isFalse =>
      have rest : (delta - threshold bias place) % (36 - threshold bias place) <
          36 - threshold bias place := Nat.mod_lt _ (by omega)
      exact visible_cons.2 ⟨isVisible_digit (by omega), ih _ _⟩

theorem visible_writeOne {next : Nat} {w : Writer} {c : Char} (visible : Visible w.out) :
    Visible (writeOne next w c).out := by
  unfold writeOne
  split
  · exact visible
  · split
    · exact visible_append.2 ⟨visible, visible_deltaChars _ _ _ _⟩
    · exact visible

theorem visible_writeAll (label : List Char) (codes : List Nat) (after : Nat) (w : Writer)
    (visible : Visible w.out) : Visible (writeAll label codes after w).out := by
  have pass (next : Nat) (cs : List Char) (w : Writer) (visible : Visible w.out) :
      Visible (cs.foldl (writeOne next) w).out := by
    induction cs generalizing w with
    | nil => exact visible
    | cons c cs ih => exact ih _ (visible_writeOne visible)
  induction codes generalizing after w with
  | nil => exact visible
  | cons next rest ih => exact ih _ _ (pass next label _ visible)

/-- A label in punycode is visible if its ASCII characters are. -/
theorem visible_encode {label : List Char}
    (ascii : ∀ c ∈ label, isAscii c = true → isVisible c = true) : Visible (encode label) := by
  have basic : Visible (label.filter fun c => c.toNat < 0x80) := by
    intro c member
    obtain ⟨member, small⟩ := List.mem_filter.1 member
    exact ascii c member small
  unfold encode
  rw [visible_append, visible_append]
  refine ⟨⟨basic, ?_⟩, visible_writeAll _ _ _ _ visible_nil⟩
  split
  · exact visible_nil
  · exact visible_cons.2 ⟨rfl, visible_nil⟩

end Punycode

/-! ## Domain names -/

theorem isVisible_of_allowed {c : Char} (allowed : isForbiddenInDomain c = false)
    (ascii : isAscii c = true) : isVisible c = true := by
  simp only [isForbiddenInDomain, Bool.or_eq_false_iff, decide_eq_false_iff_not,
    beq_eq_false_iff_ne] at allowed
  have small : c.toNat < 0x80 := by simpa [isAscii] using ascii
  exact isVisible_iff.2 ⟨by omega, by omega⟩

namespace Label

theorem visible_mark : Visible mark := by
  simp only [mark, visible_cons, visible_nil, and_true]
  exact ⟨rfl, rfl, rfl, rfl⟩

/-- A marked label is the mark and the text that was read. -/
theorem visible_ofPunycode {text : List Char} {label : Label} (read : ofPunycode text = some label)
    (ascii : ∀ c ∈ text, isAscii c = true → isVisible c = true) : Visible label.written := by
  unfold ofPunycode at read
  split at read
  case isTrue => cases read
  case isFalse short =>
    obtain ⟨plain, -, read⟩ := Option.bind_eq_some_iff.1 read
    split at read
    case isFalse => cases read
    case isTrue =>
      obtain rfl := Option.some.inj read
      simp only [Bool.or_eq_true, not_or, Bool.not_eq_true', Bool.not_eq_false] at short
      have all := List.all_eq_true.1 short.1.1
      exact visible_append.2 ⟨visible_mark, fun c member => ascii c member (all c member)⟩

theorem visible_written {cs : List Char} {label : Label} (read : ofFolded cs = some label) :
    Visible label.written := by
  unfold ofFolded at read
  split at read
  case isTrue => cases read
  case isFalse none_ =>
    have ascii (c : Char) (member : c ∈ cs) : isAscii c = true → isVisible c = true :=
      isVisible_of_allowed (eq_false_of_ne_true fun forbidden =>
        none_ (List.any_eq_true.2 ⟨c, member, forbidden⟩))
    split at read
    case isTrue =>
      exact visible_ofPunycode read fun c member => ascii c (List.mem_of_mem_drop member)
    case isFalse =>
      split at read
      case isTrue all =>
        obtain rfl := Option.some.inj read
        exact fun c member => ascii c member (List.all_eq_true.1 all c member)
      case isFalse =>
        split at read
        case isTrue =>
          obtain rfl := Option.some.inj read
          exact visible_append.2 ⟨visible_mark, Punycode.visible_encode ascii⟩
        case isFalse => cases read

end Label

theorem visible_domainToAscii {name ascii : String} (read : domainToAscii name = some ascii) :
    Visible ascii.toList := by
  have each (folded : List (List Char)) (labels : List Label)
      (read : folded.mapM Label.ofFolded = some labels) :
      ∀ label ∈ labels, Visible label.written := by
    induction folded generalizing labels with
    | nil =>
      obtain rfl := Option.some.inj read
      exact fun _ member => nomatch member
    | cons cs rest ih =>
      rw [List.mapM_cons] at read
      obtain ⟨label, first, read⟩ := Option.bind_eq_some_iff.1 read
      obtain ⟨others, later, read⟩ := Option.bind_eq_some_iff.1 read
      obtain rfl := Option.some.inj read
      exact List.forall_mem_cons.2 ⟨Label.visible_written first, ih others later⟩
  obtain ⟨folded, -, read⟩ := Option.bind_eq_some_iff.1 read
  obtain ⟨labels, written, read⟩ := Option.bind_eq_some_iff.1 read
  split at read
  case isTrue => cases read
  case isFalse =>
    obtain rfl := Option.some.inj read
    rw [String.toList_ofList]
    refine visible_intercalate (visible_cons.2 ⟨rfl, visible_nil⟩) fun part member => ?_
    obtain ⟨label, there, rfl⟩ := List.mem_map.1 member
    exact each _ labels written label there

/-! ## Addresses -/

theorem visible_ipv4Chars (address : Nat) : Visible (ipv4Chars address) := by
  refine visible_intercalate (visible_cons.2 ⟨rfl, visible_nil⟩) fun part member => ?_
  obtain ⟨byte, -, rfl⟩ := List.mem_map.1 member
  exact visible_digits byte

theorem visible_hex (n : Nat) : Visible (Hex.ofNat n) := by
  have digit : ∀ d < 16, isVisible d.digitChar = true := by decide
  induction n using Nat.strongRecOn with
  | ind n ih =>
    unfold Hex.ofNat
    rcases Nat.lt_or_ge n 16 with small | large
    · rw [Nat.toDigits_of_lt_base small]
      exact visible_cons.2 ⟨digit n small, visible_nil⟩
    · rw [Nat.toDigits_of_base_le (by decide) large, visible_append]
      exact ⟨ih (n / 16) (by omega), visible_cons.2 ⟨digit _ (by omega), visible_nil⟩⟩

theorem visible_ipv6Chars (pieces : List Nat) : Visible (ipv6Chars pieces) := by
  have join (ps : List Nat) : Visible ([':'].intercalate (ps.map Hex.ofNat)) := by
    refine visible_intercalate (visible_cons.2 ⟨rfl, visible_nil⟩) fun part member => ?_
    obtain ⟨piece, -, rfl⟩ := List.mem_map.1 member
    exact visible_hex piece
  unfold ipv6Chars
  dsimp only
  split
  · exact join pieces
  · rw [visible_append, visible_append]
    exact ⟨⟨join _, by simp [isVisible]⟩, join _⟩

/-! ## Hosts -/

theorem visible_percentByte (b : UInt8) : Visible (percentByte b) := by
  have digit : ∀ n < 16, isVisible (Hex.digit n).toUpper = true := by decide
  have small : b.toNat < 256 := b.toNat_lt
  simp only [percentByte, Hex.ofByte, List.map_cons, List.map_nil, visible_cons]
  exact ⟨rfl, digit _ (by omega), digit _ (by omega), visible_nil⟩

/-- With the controls encoded, only a blank is not visible. -/
theorem visible_percentEncode {cs : List Char} (blank : ' ' ∉ cs) :
    Visible (percentEncode .controls cs) := by
  intro c member
  obtain ⟨d, there, member⟩ := List.mem_flatMap.1 member
  unfold encodeChar at member
  split at member
  case isTrue =>
    obtain ⟨b, -, member⟩ := List.mem_flatMap.1 member
    exact visible_percentByte b c member
  case isFalse plain =>
    obtain rfl := List.mem_singleton.1 member
    have ne : c.toNat ≠ 0x20 := fun same => by
      have space : c = ' ' := by rw [← Char.ofNat_toNat c, same]
      exact blank (space ▸ there)
    simp only [CharSet.controls, Bool.or_eq_true, decide_eq_true_eq, not_or] at plain
    exact isVisible_iff.2 ⟨by omega, by omega⟩

namespace Host

/-- The text of the host is visible. -/
def IsVisible (host : Host) : Prop := Visible host.text.toList

theorem isVisible_ipv4 (address : Nat) : IsVisible (.ipv4 address) := by
  unfold IsVisible text
  rw [String.toList_ofList]
  exact visible_ipv4Chars address

theorem isVisible_ipv6 (pieces : List Nat) : IsVisible (.ipv6 pieces) := by
  unfold IsVisible text
  rw [String.toList_ofList, visible_append, visible_cons]
  exact ⟨⟨rfl, visible_ipv6Chars pieces⟩, visible_cons.2 ⟨rfl, visible_nil⟩⟩

theorem isVisible_readBracketed {cs : List Char} {host : Host}
    (read : readBracketed cs = .ok host) : host.IsVisible := by
  unfold readBracketed at read
  split at read
  · split at read <;> cases read
    exact isVisible_ipv6 _
  · cases read

theorem isVisible_readDomain {cs : List Char} {host : Host} (read : readDomain cs = .ok host) :
    host.IsVisible := by
  unfold readDomain at read
  dsimp only at read
  split at read
  · cases read
  · next name shown =>
    obtain ⟨decoded, -, ascii⟩ := Option.bind_eq_some_iff.1 shown
    split at read
    · cases read
    · split at read
      · split at read <;> cases read
        exact isVisible_ipv4 _
      · cases read
        exact visible_domainToAscii ascii

theorem isVisible_readSpecial {cs : List Char} {host : Host} (read : readSpecial cs = .ok host) :
    host.IsVisible := by
  unfold readSpecial at read
  split at read
  · exact isVisible_readBracketed read
  · exact isVisible_readDomain read

theorem isVisible_readOpaque {cs : List Char} {host : Host} (read : readOpaque cs = .ok host) :
    host.IsVisible := by
  unfold readOpaque at read
  split at read
  · exact isVisible_readBracketed read
  · split at read
    · cases read
    · next allowed =>
      cases read
      have blank : ' ' ∉ cs := fun member => allowed (List.any_eq_true.2 ⟨' ', member, rfl⟩)
      unfold IsVisible text
      rw [String.toList_ofList]
      exact visible_percentEncode blank

end Host

/-! ## URLs -/

theorem isVisible_readHost {kind : SchemeKind} {cs : List Char} {host : Host}
    (read : readHost kind cs = .ok (some host)) : host.IsVisible := by
  have found {result : Except Fault Host} (read : result.map some = .ok (some host)) :
      result = .ok host := by
    cases result with
    | error => cases read
    | ok other => cases read; rfl
  unfold readHost at read
  split at read
  · split at read
    · cases read
    · exact Host.isVisible_readSpecial (found read)
  · split at read
    · cases read
    · exact Host.isVisible_readOpaque (found read)

theorem isVisible_readAuthority {kind : SchemeKind} {cs : List Char}
    {result : Authority × List Char} (read : readAuthority kind cs = .ok result) {host : Host}
    (hosted : result.1.host? = some host) : host.IsVisible := by
  unfold readAuthority at read
  dsimp only at read
  split at read
  · cases read
  · obtain ⟨host?, shown, read⟩ := bind_eq_ok.1 read
    -- Whatever is read of a port, the host stays.
    have kept {port : Except Fault (Option Nat × List Char)} {username password : String}
        {after : List Char}
        (read : (port >>= fun port =>
          if (host?.isNone && !(username.isEmpty && password.isEmpty)) = true then .error .emptyHost
          else .ok (⟨username, password, host?, port.1⟩, port.2 ++ after)) = Except.ok result) :
        host? = some host := by
      obtain ⟨_, -, read⟩ := bind_eq_ok.1 read
      split at read <;> cases read
      exact hosted
    suffices host? = some host by
      subst this
      exact isVisible_readHost shown
    split at read
    · split at read <;> exact kept read
    · exact kept read

theorem isVisible_readFileHost {cs : List Char} {host : Host}
    (read : readFileHost cs = .ok (some host)) : host.IsVisible := by
  unfold readFileHost at read
  split at read
  · cases read
  · obtain ⟨other, shown, read⟩ := bind_eq_ok.1 read
    split at read <;> cases read
    exact Host.isVisible_readSpecial shown

theorem isVisible_readHosted {scheme : String} {kind : SchemeKind} {cs : List Char} {url : Url}
    (read : readHosted scheme kind cs = .ok url) {a : Authority} (authority : url.authority? = some a)
    {host : Host} (hosted : a.host? = some host) : host.IsVisible := by
  obtain ⟨result, shown, read⟩ := bind_eq_ok.1 read
  cases read
  obtain rfl : result.1 = a := Option.some.inj authority
  exact isVisible_readAuthority shown hosted

theorem isVisible_readFile {cs : List Char} {url : Url} (read : readFile cs = .ok url)
    {a : Authority} (authority : url.authority? = some a) {host : Host}
    (hosted : a.host? = some host) : host.IsVisible := by
  unfold readFile at read
  dsimp only at read
  have kept {host? : Option Host} {onDrive : Bool} {path rest : List Char}
      (read : Except.ok (withRest .file "file"
        (some ⟨"", "", if onDrive = true then none else host?, none⟩) path rest) =
          (.ok url : Except Fault Url)) : host? = some host := by
    cases read
    obtain rfl := Option.some.inj authority
    dsimp only at hosted
    split at hosted
    · cases hosted
    · exact hosted
  -- A host is read only after two slashes, and if it is no drive letter.
  split at read
  · split at read
    · split at read
      · cases kept read
      · obtain ⟨host?, shown, read⟩ := bind_eq_ok.1 read
        obtain rfl := kept read
        exact isVisible_readFileHost shown
    · cases kept read
  · cases kept read

theorem isVisible_readOther {scheme : String} {cs : List Char} {url : Url}
    (read : readOther scheme cs = .ok url) {a : Authority} (authority : url.authority? = some a)
    {host : Host} (hosted : a.host? = some host) : host.IsVisible := by
  unfold readOther at read
  dsimp only at read
  split at read
  · obtain ⟨result, shown, read⟩ := bind_eq_ok.1 read
    cases read
    obtain rfl : result.1 = a := Option.some.inj authority
    exact isVisible_readAuthority shown hosted
  · cases read
    cases authority
  · cases read
    cases authority

/-- Some text is read as this URL. -/
def Parsed (url : Url) : Prop := ∃ text, parse text = .ok url

/-- The host that a URL names is written with visible ASCII characters. -/
theorem Parsed.visible_host {url : Url} (parsed : url.Parsed) {host : String}
    (hosted : url.host? = some host) : Visible host.toList := by
  obtain ⟨text, read⟩ := parsed
  obtain ⟨a, authority, hosted⟩ := Option.bind_eq_some_iff.1 hosted
  obtain ⟨shown, named, rfl⟩ := Option.map_eq_some_iff.1 hosted
  obtain ⟨⟨scheme, cs⟩, -, read⟩ := bind_eq_ok.1 read
  dsimp only at read
  split at read
  · exact isVisible_readHosted read authority named
  · exact isVisible_readFile read authority named
  · exact isVisible_readOther read authority named

end RecordStore.Url
