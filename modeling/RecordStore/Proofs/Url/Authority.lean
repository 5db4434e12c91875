/-
RecordStore.Proofs.Url.Authority -- the parts of an authority

An authority of a URL of a well-known scheme is read from the text up to a slash, a
query or a fragment: what stands before its last at-sign is the user, what stands
before the first colon behind that is the host, and digits up to its end are the
port (`ReadsAuthority`).
-/
import Mathlib.Data.List.Basic
import Mathlib.Data.List.TakeWhile
import RecordStore.Proofs.Operation
import RecordStore.Url.Parser

namespace RecordStore.Url

set_option autoImplicit false

/-- What is left begins with the first element that is not passed over. -/
theorem of_dropWhile_eq_cons {α : Type} {p : α → Bool} {xs rest : List α} {x : α}
    (left : xs.dropWhile p = x :: rest) : p x = false := by
  simpa [left] using List.head?_dropWhile_not p xs

/-! ## Host and port -/

theorem takeHost_append (inBrackets : Bool) (cs : List Char) :
    (takeHost inBrackets cs).1 ++ (takeHost inBrackets cs).2 = cs := by
  induction cs generalizing inBrackets with
  | nil => rfl
  | cons c rest ih =>
    rw [takeHost]
    split
    · rfl
    · exact congrArg (c :: ·) (ih _)

/-- What follows a host begins with a colon. -/
theorem takeHost_snd (inBrackets : Bool) (cs : List Char) :
    (takeHost inBrackets cs).2 = [] ∨ ∃ rest, (takeHost inBrackets cs).2 = ':' :: rest := by
  induction cs generalizing inBrackets with
  | nil => exact .inl rfl
  | cons c rest ih =>
    rw [takeHost]
    split
    · next colon =>
      simp only [Bool.and_eq_true, beq_iff_eq] at colon
      exact .inr ⟨rest, by rw [colon.1]⟩
    · exact ih _

theorem takeHost_of_notMem {cs : List Char} (whole : ':' ∉ cs) (inBrackets : Bool) :
    takeHost inBrackets cs = (cs, []) := by
  induction cs generalizing inBrackets with
  | nil => rfl
  | cons c rest ih =>
    rw [List.mem_cons, not_or] at whole
    rw [takeHost, if_neg (by simp [Ne.symm whole.1]), ih whole.2]

/-- Where no backslash can follow, a port is digits only. -/
theorem readPort_eq_ok {kind : SchemeKind} {cs rest : List Char} {port? : Option Nat}
    (read : readPort kind cs = .ok (port?, rest)) (whole : '\\' ∉ cs) :
    (∀ d ∈ cs, Number.isDigit d = true) ∧ rest = [] := by
  unfold readPort at read
  dsimp only at read
  split at read
  · cases read
  · split at read
    · next ended =>
      cases read
      have none_ : cs.dropWhile Number.isDigit = [] := by
        rw [Bool.or_eq_true, List.isEmpty_iff, decide_eq_true_eq] at ended
        refine ended.resolve_right fun backslash => whole ?_
        exact (List.dropWhile_sublist _).subset (List.mem_of_head? backslash)
      exact ⟨List.dropWhile_eq_nil_iff.1 none_, none_⟩
    · cases read

/-! ## Users -/

theorem splitUserinfo_of_notMem {cs : List Char} (anonymous : '@' ∉ cs) :
    splitUserinfo cs = (none, cs) := if_neg (by simpa using anonymous)

/-- The host is written behind the last at-sign. -/
theorem splitUserinfo_append {server : List Char} (last : '@' ∉ server) (user : List Char) :
    splitUserinfo (user ++ '@' :: server) = (some user, server) := by
  have behind : ∀ c ∈ server.reverse, decide (c ≠ '@') = true := by
    rintro c member
    exact decide_eq_true fun sign => last (sign ▸ List.mem_reverse.1 member)
  have reversed : (user ++ '@' :: server).reverse = server.reverse ++ '@' :: user.reverse := by simp
  rw [splitUserinfo, if_pos (by simp), reversed, List.dropWhile_append_of_pos behind,
    List.takeWhile_append_of_pos behind, List.dropWhile_cons_of_neg (by simp),
    List.takeWhile_cons_of_neg (by simp), List.tail_cons, List.append_nil, List.reverse_reverse,
    List.reverse_reverse]

theorem splitUserinfo_of_mem {cs : List Char} (named : '@' ∈ cs) :
    ∃ user, (splitUserinfo cs).1 = some user ∧ cs = user ++ '@' :: (splitUserinfo cs).2 := by
  obtain ⟨server, user, parts, last⟩ := List.eq_append_cons_of_mem (List.mem_reverse.2 named)
  have parts : cs = user.reverse ++ '@' :: server.reverse := by
    rw [← List.reverse_reverse cs, parts]
    simp
  rw [parts, splitUserinfo_append (by simpa using last)]
  exact ⟨user.reverse, rfl, rfl⟩

theorem splitUserinfo_suffix (cs : List Char) : (splitUserinfo cs).2 <:+ cs := by
  by_cases named : '@' ∈ cs
  · obtain ⟨userinfo, -, parts⟩ := splitUserinfo_of_mem named
    refine ⟨userinfo ++ ['@'], ?_⟩
    rw [List.append_assoc]
    exact parts.symm
  · exact ⟨[], by rw [List.nil_append, splitUserinfo_of_notMem named]⟩

/-! ## Authorities -/

/-- The text of an authority. -/
def authorityText (port : Nat) (cs : List Char) : List Char :=
  cs.takeWhile fun c => !(SchemeKind.special port).endsAuthority c

/-- What follows an authority. -/
def afterAuthority (port : Nat) (cs : List Char) : List Char :=
  cs.dropWhile fun c => !(SchemeKind.special port).endsAuthority c

/-- What follows an authority ends as the text does. -/
theorem afterAuthority_concat (port : Nat) {front : List Char} {last c : Char}
    (inside : (SchemeKind.special port).endsAuthority last = false) (member : c ∈ front ++ [last])
    (ends : (SchemeKind.special port).endsAuthority c = true) :
    ∃ d after, (SchemeKind.special port).endsAuthority d = true ∧
      afterAuthority port (front ++ [last]) = d :: (after ++ [last]) := by
  have found : afterAuthority port (front ++ [last]) ≠ [] := by
    rw [afterAuthority, ne_eq, List.dropWhile_eq_nil_iff]
    intro all
    simpa [ends] using all c member
  obtain ⟨d, after, rest⟩ := List.exists_cons_of_ne_nil found
  have border : (SchemeKind.special port).endsAuthority d = true := by
    simpa using of_dropWhile_eq_cons rest
  have ending : (d :: after).getLast? = some last := by
    obtain ⟨before, parts⟩ : d :: after <:+ front ++ [last] := rest ▸ List.dropWhile_suffix _
    rw [← List.getLast?_append_of_ne_nil before (List.cons_ne_nil d after), parts,
      List.getLast?_concat]
  rcases List.eq_nil_or_concat after with rfl | ⟨after, e, rfl⟩
  · rw [List.getLast?_singleton, Option.some_inj] at ending
    rw [← ending, border] at inside
    cases inside
  · rw [List.concat_eq_append, ← List.cons_append, List.getLast?_concat, Option.some_inj] at ending
    exact ⟨d, after, border, by rw [rest, ending, List.concat_eq_append]⟩

/-- Name and password. -/
def userText (port : Nat) (cs : List Char) : List Char :=
  (splitUserinfo (authorityText port cs)).1.getD []

/-- Host and port. -/
def serverText (port : Nat) (cs : List Char) : List Char :=
  (splitUserinfo (authorityText port cs)).2

/-- Text that holds nothing that ends an authority. -/
theorem endsAuthority_of_mem_serverText {port : Nat} {cs : List Char} {c : Char}
    (member : c ∈ serverText port cs) : (SchemeKind.special port).endsAuthority c = false := by
  simpa using List.mem_takeWhile_imp ((splitUserinfo_suffix _).subset member)

/-- What an authority is read from. -/
structure ReadsAuthority (port : Nat) (cs : List Char) (a : Authority) (rest : List Char) :
    Prop where
  user : (a.username, a.password) = readUserinfo (userText port cs)
  host : ∃ host, Host.readSpecial (takeHost false (serverText port cs)).1 = .ok host ∧
    a.host? = some host
  digits : (takeHost false (serverText port cs)).2 = [] ∧ a.port? = none ∨
    ∃ digits, (takeHost false (serverText port cs)).2 = ':' :: digits ∧
      ∀ d ∈ digits, Number.isDigit d = true
  rest : rest = afterAuthority port cs

theorem readHost_special_eq_ok {port : Nat} {cs : List Char} {host? : Option Host}
    (read : readHost (.special port) cs = .ok host?) :
    ∃ host, Host.readSpecial cs = .ok host ∧ host? = some host := by
  rw [readHost, if_pos (show (SchemeKind.special port).isSpecial = true from rfl)] at read
  split at read
  · cases read
  · cases parsed : Host.readSpecial cs with
    | error fault =>
      rw [parsed] at read
      cases read
    | ok host =>
      rw [parsed] at read
      cases read
      exact ⟨host, rfl, rfl⟩

theorem readsAuthority_of_ok {port : Nat} {cs rest : List Char} {a : Authority}
    (read : readAuthority (.special port) cs = .ok (a, rest)) : ReadsAuthority port cs a rest := by
  unfold readAuthority at read
  rw [show cs.takeWhile _ = authorityText port cs from rfl,
    show splitUserinfo (authorityText port cs) =
      ((splitUserinfo (authorityText port cs)).1, serverText port cs) from rfl,
    show cs.dropWhile _ = afterAuthority port cs from rfl] at read
  dsimp only at read
  split at read
  · cases read
  obtain ⟨host?, hosted, read⟩ := bind_eq_ok.1 read
  obtain ⟨host, parsed, rfl⟩ := readHost_special_eq_ok hosted
  simp only [Option.isNone_some, Bool.false_and, Bool.false_eq_true, if_false] at read
  obtain none_ | ⟨digits, colon⟩ := takeHost_snd false (serverText port cs)
  · rw [none_] at read
    cases read
    exact ⟨rfl, ⟨host, parsed, rfl⟩, .inl ⟨none_, rfl⟩, rfl⟩
  · rw [colon] at read
    obtain ⟨⟨port?, left⟩, ported, read⟩ := bind_eq_ok.1 read
    cases read
    have unslashed : '\\' ∉ digits := by
      intro member
      have inside : '\\' ∈ serverText port cs := by
        rw [← takeHost_append false (serverText port cs), colon]
        exact List.mem_append_right _ (List.mem_cons_of_mem _ member)
      exact absurd (endsAuthority_of_mem_serverText inside) (by
        simp [SchemeKind.endsAuthority, SchemeKind.isSlash, SchemeKind.isSpecial])
    obtain ⟨all, rfl⟩ := readPort_eq_ok ported unslashed
    exact ⟨rfl, ⟨host, parsed, rfl⟩, .inr ⟨digits, colon, all⟩, rfl⟩

/-! ## Hosts alone -/

section

variable {port : Nat} {cs : List Char}
  (whole : ∀ c ∈ cs, (SchemeKind.special port).endsAuthority c = false)

include whole

theorem authorityText_eq_self : authorityText port cs = cs :=
  List.takeWhile_eq_self_iff.2 fun c member => by simp [whole c member]

theorem afterAuthority_eq_nil : afterAuthority port cs = [] :=
  List.dropWhile_eq_nil_iff.2 fun c member => by simp [whole c member]

variable (anonymous : '@' ∉ cs)

include anonymous

theorem serverText_eq_self : serverText port cs = cs := by
  rw [serverText, authorityText_eq_self whole, splitUserinfo_of_notMem anonymous]

theorem userText_eq_nil : userText port cs = [] := by
  rw [userText, authorityText_eq_self whole, splitUserinfo_of_notMem anonymous]
  rfl

/-- A text without a user that does not end with a digit or a colon is all host. -/
theorem readAuthority_eq_ok_of_host {a : Authority} {rest : List Char} {last : Char}
    (ends : cs.getLast? = some last) (plain : Number.isDigit last = false) (open_ : last ≠ ':')
    (read : readAuthority (.special port) cs = .ok (a, rest)) :
    ∃ host, Host.readSpecial cs = .ok host ∧ a = ⟨"", "", some host, none⟩ ∧ rest = [] := by
  obtain ⟨user, ⟨host, parsed, some_⟩, digits, rest⟩ := readsAuthority_of_ok read
  rw [userText_eq_nil whole anonymous] at user
  rw [serverText_eq_self whole anonymous] at parsed digits
  rw [afterAuthority_eq_nil whole] at rest
  have parts := takeHost_append false cs
  obtain ⟨none_, none'⟩ | ⟨digits, colon, all⟩ := digits
  · rw [none_, List.append_nil] at parts
    rw [parts] at parsed
    obtain ⟨username, password, host?, port?⟩ := a
    cases user
    cases some_
    cases none'
    exact ⟨host, parsed, rfl, rest⟩
  · rw [← parts, colon, List.getLast?_append_of_ne_nil _ (List.cons_ne_nil _ _)] at ends
    have member := List.mem_of_getLast? ends
    rcases List.mem_cons.1 member with rfl | member
    · exact absurd rfl open_
    · rw [all last member] at plain
      cases plain

end

/-- A host without a port is read behind its user. -/
theorem readAuthority_of_server {port : Nat} {cs : List Char} {host : Host}
    (parsed : Host.readSpecial (serverText port cs) = .ok host) (some_ : serverText port cs ≠ [])
    (unported : ':' ∉ serverText port cs) : readAuthority (.special port) cs =
      .ok (⟨(readUserinfo (userText port cs)).1, (readUserinfo (userText port cs)).2, some host,
        none⟩, afterAuthority port cs) := by
  have hosted : readHost (.special port) (serverText port cs) = .ok (some host) := by
    rw [readHost, if_pos (show (SchemeKind.special port).isSpecial = true from rfl),
      if_neg (by simpa using some_), parsed]
    rfl
  unfold readAuthority
  rw [show cs.takeWhile _ = authorityText port cs from rfl,
    show splitUserinfo (authorityText port cs) =
      ((splitUserinfo (authorityText port cs)).1, serverText port cs) from rfl,
    show cs.dropWhile _ = afterAuthority port cs from rfl]
  dsimp only
  rw [if_neg (by simp [some_]), takeHost_of_notMem unported]
  dsimp only
  rw [hosted]
  rfl

end RecordStore.Url
