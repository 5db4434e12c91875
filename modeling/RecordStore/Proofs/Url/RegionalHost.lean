/-
RecordStore.Proofs.Url.RegionalHost -- regions that are put into a URL

The endpoint of a region is a text with the region in the middle, read as a URL.  As
long as the region holds none of the characters that end a host or stand before it
(`IsHostPart`), the URL is that of the one host and nothing more, with the name of
the region in it (`regionalUrl_of_ok`).  With one of these characters it is always
more than a host (`not_isHostAlone`): the first labels become a user, or the last ones
a path, a query or a fragment.  What is left as the host can then be any host at all
(`Endpoint.resolveRegional_regionOfHost`).
-/
import RecordStore.Endpoint
import RecordStore.Proofs.Url.AfterHost
import RecordStore.Proofs.Url.HostName

namespace RecordStore.Url

set_option autoImplicit false

open RecordStore.Text RecordStore.Number

/-! ## Texts of regions -/

/-- All characters within a URL count but tabs and line ends. -/
def isCounted (c : Char) : Bool := !(c == '\t' || c == '\n' || c == '\r')

/-- The characters of a region that count. -/
def counted (region : String) : List Char := region.toList.filter isCounted

/-- What follows the scheme and its slashes. -/
def serverOf (region : String) : List Char := hostStart.toList ++ (counted region ++ hostEnd.toList)

/-- Characters before which a host ends, or behind which it begins. -/
def delimiters : List Char := ['/', '\\', '?', '#', '@']

/-- A region whose text stays within the host. -/
def IsHostPart (region : String) : Prop := ∀ c ∈ region.toList, c ∉ delimiters

/-- The scheme of the endpoint of a region. -/
theorem readScheme_https (cs : List Char) :
    readScheme ('h' :: 't' :: 't' :: 'p' :: 's' :: ':' :: cs) = .ok ("https", cs) := by
  have inside : ∀ c ∈ ['h', 't', 't', 'p', 's'], isSchemeChar c = true :=
    List.all_eq_true.1 (by decide)
  have colon : ¬ isSchemeChar ':' = true := by decide
  have scheme : String.ofList (['h', 't', 't', 'p', 's'].map Char.toLower) = "https" := by decide
  have letter : 'h'.isAlpha = true := by decide
  rw [readScheme, letter]
  rw [show 'h' :: 't' :: 't' :: 'p' :: 's' :: ':' :: cs = ['h', 't', 't', 'p', 's'] ++ ':' :: cs
    from rfl, List.dropWhile_append_of_pos inside, List.takeWhile_append_of_pos inside,
    List.dropWhile_cons_of_neg colon, List.takeWhile_cons_of_neg colon, List.append_nil, scheme]
  rfl

/-- Between visible characters only tabs and line ends do not count. -/
theorem significant_of_visible {text : String} {first last : Char} {middle : List Char}
    (parts : text.toList = first :: (middle ++ [last])) (visible : 0x20 < first.toNat)
    (visible' : 0x20 < last.toNat) : significant text = text.toList.filter isCounted := by
  have inner : ((text.toList.dropWhile fun c => decide (c.toNat ≤ 0x20)).reverse.dropWhile
      fun c => decide (c.toNat ≤ 0x20)).reverse = text.toList := by
    rw [parts, List.dropWhile_cons_of_neg (by simpa using visible), ← List.cons_append,
      List.reverse_append, List.reverse_singleton, List.singleton_append,
      List.dropWhile_cons_of_neg (by simpa using visible'), List.reverse_cons, List.reverse_reverse]
  unfold significant
  dsimp only
  rw [inner]
  rfl

theorem significant_regionalText (region : String) : significant (Endpoint.regionalText region) =
    'h' :: 't' :: 't' :: 'p' :: 's' :: ':' :: '/' :: '/' :: serverOf region := by
  have front : "https://dynamodb.".toList =
    'h' :: 't' :: 't' :: 'p' :: 's' :: ':' :: '/' :: '/' :: hostStart.toList := by
    decide +kernel
  have text : (Endpoint.regionalText region).toList =
      'h' :: 't' :: 't' :: 'p' :: 's' :: ':' :: '/' :: '/' ::
        (hostStart.toList ++ (region.toList ++ hostEnd.toList)) := by
    show ("https://dynamodb." ++ region ++ hostEnd).toList = _
    rw [String.toList_append, String.toList_append, front]
    simp only [List.cons_append, List.append_assoc]
  have ends : hostEnd.toList = hostEnd.toList.dropLast ++ ['m'] := by decide +kernel
  have parts : (Endpoint.regionalText region).toList =
      'h' :: (('t' :: 't' :: 'p' :: 's' :: ':' :: '/' :: '/' ::
        (hostStart.toList ++ (region.toList ++ hostEnd.toList.dropLast))) ++ ['m']) := by
    rw [text]
    simp [← ends]
  have kept : hostStart.toList.filter isCounted = hostStart.toList ∧
      hostEnd.toList.filter isCounted = hostEnd.toList := by decide +kernel
  have within : (hostStart.toList ++ (region.toList ++ hostEnd.toList)).filter isCounted =
      serverOf region := by
    rw [List.filter_append, List.filter_append, kept.1, kept.2]
    rfl
  rw [significant_of_visible parts (by decide) (by decide), text, ← within]
  rfl

theorem parse_regionalText (region : String) : Url.parse (Endpoint.regionalText region) =
    readHosted "https" (.special 443) ('/' :: '/' :: serverOf region) := by
  rw [Url.parse, significant_regionalText, readScheme_https]
  rfl

theorem serverOf_cons (region : String) : ∃ rest, serverOf region = 'd' :: rest := by
  rw [serverOf, toList_hostStart]
  exact ⟨_, rfl⟩

/-- The text behind the scheme ends with a letter that keeps its segment. -/
theorem serverOf_concat (region : String) :
    ∃ front, serverOf region = front ++ ['m'] := by
  have ends : hostEnd.toList = hostEnd.toList.dropLast ++ ['m'] := by decide +kernel
  refine ⟨hostStart.toList ++ (counted region ++ hostEnd.toList.dropLast), ?_⟩
  rw [serverOf, ends]
  simp

theorem mem_serverOf {region : String} {c : Char} (special : c ∈ ':' :: delimiters) :
    c ∈ serverOf region ↔ c ∈ region.toList := by
  have outside : (':' :: delimiters).all (fun c => !hostStart.toList.contains c &&
      !hostEnd.toList.contains c && isCounted c) = true := by decide +kernel
  obtain ⟨⟨first, last⟩, counts⟩ :
      (c ∉ hostStart.toList ∧ c ∉ hostEnd.toList) ∧ isCounted c = true := by
    simpa using List.all_eq_true.1 outside c special
  simp [serverOf, counted, first, last, counts]

theorem endsAuthority_iff (port : Nat) {c : Char} :
    (SchemeKind.special port).endsAuthority c = true ↔ c ∈ delimiters ∧ c ≠ '@' := by
  simp only [SchemeKind.endsAuthority, SchemeKind.isSlash, SchemeKind.isSpecial, Bool.true_and,
    Bool.or_eq_true, beq_iff_eq, delimiters, List.mem_cons, List.not_mem_nil, or_false]
  constructor
  · rintro (((rfl | rfl) | rfl) | rfl) <;> decide
  · tauto

theorem dropWhile_slashes (region : String) :
    ('/' :: '/' :: serverOf region).dropWhile (SchemeKind.special 443).isSlash =
      serverOf region := by
  rw [List.dropWhile_cons_of_pos rfl, List.dropWhile_cons_of_pos rfl, serverOf, toList_hostStart]
  rfl

/-- The URL of a region whose name in the host is known. -/
def regionalUrl (name : String) : Url where
  scheme := "https"
  authority? := some ⟨"", "", some (.domain (regionalName name)), none⟩
  path := "/"
  query? := none
  fragment? := none

/-- A URL of a host that is asked by nobody. -/
structure IsHostAlone (u : Url) : Prop extends IsRoot u where
  anonymous : ∀ a, u.authority? = some a → a.username = "" ∧ a.password = ""

section

variable {region : String} (within : IsHostPart region)

include within

theorem IsHostPart.endsAuthority {c : Char} (member : c ∈ serverOf region) :
    (SchemeKind.special 443).endsAuthority c = false := by
  rw [Bool.eq_false_iff]
  intro ends
  obtain ⟨special, -⟩ := (endsAuthority_iff 443).1 ends
  exact within c ((mem_serverOf (List.mem_cons_of_mem _ special)).1 member) special

theorem IsHostPart.anonymous : '@' ∉ serverOf region := by
  intro member
  have special : '@' ∈ delimiters := by decide
  exact within '@' ((mem_serverOf (List.mem_cons_of_mem _ special)).1 member) special

theorem regionalUrl_of_ok {u : Url}
    (parsed : Url.parse (Endpoint.regionalText region) = .ok u) :
    ∃ name, hostName? (counted region) = some name ∧ u = regionalUrl name := by
  rw [parse_regionalText] at parsed
  obtain ⟨a, rest, authority, rfl⟩ := readHosted_eq_ok parsed
  rw [dropWhile_slashes] at authority
  obtain ⟨front, ends⟩ := serverOf_concat region
  obtain ⟨host, hosted, rfl, rfl⟩ := readAuthority_eq_ok_of_host
    (fun c member => within.endsAuthority member) within.anonymous
    (by rw [ends, List.getLast?_concat]) (by decide) (by decide) authority
  rw [serverOf, readSpecial_regional] at hosted
  cases named : hostName? (counted region) with
  | none =>
    rw [named] at hosted
    cases hosted
  | some name =>
    rw [named] at hosted
    cases hosted
    exact ⟨name, rfl, rfl⟩

theorem parse_of_hostName? {name : String} (unported : ':' ∉ region.toList)
    (named : hostName? (counted region) = some name) :
    Url.parse (Endpoint.regionalText region) = .ok (regionalUrl name) := by
  have whole (c : Char) (member : c ∈ serverOf region) := within.endsAuthority member
  have server := serverText_eq_self whole within.anonymous
  have parsed : Host.readSpecial (serverText 443 (serverOf region)) =
      .ok (.domain (regionalName name)) := by
    rw [server, serverOf, readSpecial_regional, named]
  have some_ : serverText 443 (serverOf region) ≠ [] := by
    obtain ⟨rest, first⟩ := serverOf_cons region
    rw [server, first]
    exact List.cons_ne_nil _ _
  have authority := readAuthority_of_server parsed some_
    (by rwa [server, mem_serverOf List.mem_cons_self])
  rw [userText_eq_nil whole within.anonymous, afterAuthority_eq_nil whole] at authority
  rw [parse_regionalText, readHosted, dropWhile_slashes, authority]
  rfl

end

/-- The user in front of a host begins with the first letter of what was to be the host. -/
theorem username_ne_empty {region : String} (named : '@' ∈ authorityText 443 (serverOf region)) :
    (readUserinfo (userText 443 (serverOf region))).1 ≠ "" := by
  obtain ⟨rest, first⟩ := serverOf_cons region
  have authority : ∃ rest, authorityText 443 (serverOf region) = 'd' :: rest := by
    rw [first, authorityText, List.takeWhile_cons_of_pos (by decide)]
    exact ⟨_, rfl⟩
  obtain ⟨rest, first⟩ := authority
  obtain ⟨user, split, parts⟩ := splitUserinfo_of_mem named
  rw [userText, split, Option.getD_some, readUserinfo]
  rw [first] at parts
  cases user with
  | nil => cases (List.cons.inj parts).1
  | cons c user =>
    obtain rfl := (List.cons.inj parts).1
    have encoded : percentEncode .userinfo (('d' :: user).takeWhile (· ≠ ':')) =
        'd' :: percentEncode .userinfo (user.takeWhile (· ≠ ':')) := by
      rw [List.takeWhile_cons_of_pos (by decide)]
      rfl
    dsimp only
    rw [encoded]
    intro empty
    have none_ := congrArg String.toList empty
    rw [String.toList_ofList] at none_
    cases none_

/-- With a slash, a query, a fragment or a user in it, a region gives a URL of more than a host. -/
theorem not_isHostAlone {region : String} {c : Char} (member : c ∈ region.toList)
    (special : c ∈ delimiters) {u : Url}
    (parsed : Url.parse (Endpoint.regionalText region) = .ok u) : ¬ IsHostAlone u := by
  rw [parse_regionalText] at parsed
  obtain ⟨a, rest, authority, rfl⟩ := readHosted_eq_ok parsed
  rw [dropWhile_slashes] at authority
  obtain ⟨user, -, -, rfl⟩ := readsAuthority_of_ok authority
  by_cases whole : ∀ c ∈ serverOf region, (SchemeKind.special 443).endsAuthority c = false
  · -- Only an at-sign is left, and what stands before it begins with the first letter of the host.
    have inside := (mem_serverOf (List.mem_cons_of_mem _ special)).2 member
    have sign : c = '@' := by
      by_contra other
      have ends := (endsAuthority_iff 443).2 ⟨special, other⟩
      rw [whole c inside] at ends
      cases ends
    have named : '@' ∈ authorityText 443 (serverOf region) := by
      rwa [authorityText_eq_self whole, ← sign]
    intro alone
    exact username_ne_empty named ((congrArg Prod.fst user).symm.trans (alone.anonymous a rfl).1)
  · obtain ⟨c, inside, ends⟩ := not_forall₂.1 whole
    obtain ⟨front, last⟩ := serverOf_concat region
    rw [last] at inside
    obtain ⟨d, after, border, rest⟩ :=
      afterAuthority_concat 443 (by decide) inside (by simpa using ends)
    have keeps : KeepsSegment 'm' := ⟨by decide, by decide⟩
    rw [last, rest]
    exact fun alone => not_isRoot_of_after keeps (by decide) border alone.toIsRoot

end RecordStore.Url

namespace RecordStore.Endpoint

open RecordStore.Text RecordStore.Url

/-! ## Endpoints -/

theorem resolve_regional (region : String) :
    regional.resolve region = (resolveRegional region, []) := rfl

theorem resolveRegional_of_ok {region : String} {u : Url}
    (parsed : Url.parse (regionalText region) = .ok u) :
    resolveRegional region = .ok u := by
  rw [resolveRegional, parsed]

theorem parse_of_resolveRegional {region : String} {u : Url}
    (resolved : resolveRegional region = .ok u) :
    Url.parse (regionalText region) = .ok u := by
  unfold resolveRegional at resolved
  split at resolved
  · next u' parsed =>
    cases resolved
    exact parsed
  · cases resolved

section

variable {region : String} (plain : IsPlainLabel region.toList)

include plain

theorem notMem_of_isPlainLabel {c : Char}
    (listed : c ∈ '%' :: '\t' :: '\n' :: '\r' :: ':' :: delimiters) : c ∉ region.toList := by
  have forbidden : ∀ c ∈ '%' :: '\t' :: '\n' :: '\r' :: ':' :: delimiters,
      isForbiddenInDomain c = true := List.all_eq_true.1 (by decide)
  intro member
  have allowed := plain.allowed c member
  rw [forbidden c listed] at allowed
  cases allowed

theorem isHostPart_of_isPlainLabel : IsHostPart region := by
  intro c member special
  exact notMem_of_isPlainLabel plain (List.mem_append_right ['%', '\t', '\n', '\r', ':'] special)
    member

theorem hostName?_of_isPlainLabel : hostName? (counted region) =
    some (String.ofList (region.toList.map Char.toLower)) := by
  have all : counted region = region.toList := by
    refine List.filter_eq_self.2 fun c member => ?_
    rw [isCounted, Bool.not_eq_true', Bool.or_eq_false_iff, Bool.or_eq_false_iff,
      beq_eq_false_iff_ne, beq_eq_false_iff_ne, beq_eq_false_iff_ne]
    refine ⟨⟨?_, ?_⟩, ?_⟩ <;>
      exact fun same => notMem_of_isPlainLabel plain (by decide) (same ▸ member)
  rw [all, hostName?, percentDecode_eq_encoded (notMem_of_isPlainLabel plain List.mem_cons_self)
    plain.ascii, fromUTF8?_encoded, Option.bind_some, plain.domainToAscii_eq]

/-- A region that is one plain label stands in the host in small letters. -/
theorem resolveRegional_of_isPlainLabel : resolveRegional region =
    .ok (regionalUrl (String.ofList (region.toList.map Char.toLower))) :=
  resolveRegional_of_ok (parse_of_hostName? (isHostPart_of_isPlainLabel plain)
    (notMem_of_isPlainLabel plain (by decide)) (hostName?_of_isPlainLabel plain))

end

/-- **Regional endpoints.**  The endpoint of a region is found, or the region is refused as part of
the configuration.  What is found is no more than a host exactly if the region holds no delimiter;
then the host is that of the region, with its name as a host name.  Every region that has a name
and holds neither a delimiter nor a colon is found. -/
theorem regional_host (region : String) :
    (∀ error, (regional.resolve region).1 = .error error →
      ∃ fault, error = .configuration (.invalidRegion region fault)) ∧
    (∀ u, (regional.resolve region).1 = .ok u →
      (IsHostAlone u ↔ IsHostPart region) ∧
      (IsHostPart region → ∃ name, hostName? (counted region) = some name ∧ u = regionalUrl name)) ∧
    (IsHostPart region → ':' ∉ region.toList → ∀ name, hostName? (counted region) = some name →
      (regional.resolve region).1 = .ok (regionalUrl name)) := by
  rw [resolve_regional]
  dsimp only
  refine ⟨fun error refused => ?_, fun u found => ?_, fun within unported name named =>
    resolveRegional_of_ok (parse_of_hostName? within unported named)⟩
  · unfold resolveRegional at refused
    split at refused
    · cases refused
    · next fault _ =>
      cases refused
      exact ⟨fault, rfl⟩
  · have parsed := parse_of_resolveRegional found
    refine ⟨⟨fun alone c member special => not_isHostAlone member special parsed alone,
      fun within => ?_⟩, fun within => regionalUrl_of_ok within parsed⟩
    obtain ⟨name, -, rfl⟩ := regionalUrl_of_ok within parsed
    refine ⟨⟨rfl, rfl, rfl⟩, fun a same => ?_⟩
    cases same
    exact ⟨rfl, rfl⟩

/-- Capital letters of a region are small in its host. -/
theorem regional_host_capitals :
    (regional.resolve "EU-West-1").1 = .ok (regionalUrl "eu-west-1") := by
  have plain : IsPlainLabel "EU-West-1".toList := by decide
  refine (regional_host "EU-West-1").2.2 (isHostPart_of_isPlainLabel plain)
    (notMem_of_isPlainLabel plain (by decide)) "eu-west-1" ?_
  rw [hostName?_of_isPlainLabel plain]
  decide

/-- The region of a host behind an at-sign and before a slash. -/
def regionOfHost (cs : List Char) : String := String.ofList ('x' :: '@' :: (cs ++ ['/']))

/-- In the URL of such a region the authority ends behind the host. -/
theorem authorityText_regionOfHost {cs : List Char}
    (plain : ∀ c ∈ cs, c ∉ ':' :: delimiters ∧ isCounted c = true) :
    authorityText 443 (serverOf (regionOfHost cs)) = hostStart.toList ++ ['x'] ++ '@' :: cs := by
  let user := hostStart.toList ++ ['x']
  have server : serverOf (regionOfHost cs) = (user ++ '@' :: cs) ++ '/' :: hostEnd.toList := by
    have kept : cs.filter isCounted = cs := List.filter_eq_self.2 fun c member => (plain c member).2
    rw [serverOf, counted, regionOfHost, String.toList_ofList, List.filter_cons_of_pos (by decide),
      List.filter_cons_of_pos (by decide), List.filter_append, kept,
      List.filter_cons_of_pos (by decide), List.filter_nil]
    simp [user]
  have inside : ∀ c ∈ user ++ '@' :: cs, (!(SchemeKind.special 443).endsAuthority c) = true := by
    have front : ∀ c ∈ user ++ ['@'], (!(SchemeKind.special 443).endsAuthority c) = true :=
      List.all_eq_true.1 (by decide +kernel)
    have behind : ∀ c ∈ cs, (!(SchemeKind.special 443).endsAuthority c) = true := by
      intro c member
      rw [Bool.not_eq_true', Bool.eq_false_iff]
      exact fun ends => (plain c member).1
        (List.mem_cons_of_mem _ ((endsAuthority_iff 443).1 ends).1)
    rw [List.append_cons]
    exact List.forall_mem_append.2 ⟨front, behind⟩
  rw [server, authorityText, List.takeWhile_append_of_pos inside,
    List.takeWhile_cons_of_neg (by decide), List.append_nil]

/-- Every host without a port is that of the endpoint of some region. -/
theorem resolveRegional_regionOfHost {cs : List Char} {host : Host}
    (parsed : Host.readSpecial cs = .ok host) (some_ : cs ≠ [])
    (plain : ∀ c ∈ cs, c ∉ ':' :: delimiters ∧ isCounted c = true) :
    ∃ u a, resolveRegional (regionOfHost cs) = .ok u ∧ u.authority? = some a ∧
      a.host? = some host := by
  have absent (c : Char) (listed : c ∈ ':' :: delimiters) : c ∉ cs :=
    fun member => (plain c member).1 listed
  have text : serverText 443 (serverOf (regionOfHost cs)) = cs := by
    rw [serverText, authorityText_regionOfHost plain, splitUserinfo_append (absent '@' (by decide))]
  rw [← text] at parsed some_
  have unported : ':' ∉ serverText 443 (serverOf (regionOfHost cs)) := by
    rw [text]
    exact absent ':' (by decide)
  have read := readAuthority_of_server parsed some_ unported
  have found := parse_regionalText (regionOfHost cs)
  rw [readHosted, dropWhile_slashes, read] at found
  exact ⟨_, _, resolveRegional_of_ok found, rfl, rfl⟩

/-- The endpoint of a region that is a host behind an at-sign lies outside the domain. -/
theorem regional_host_elsewhere : ∃ u, (regional.resolve "x@localhost/").1 = .ok u ∧
    u.host? = some "localhost" ∧ ¬ IsHostAlone u := by
  have chars : "localhost".toList = ['l', 'o', 'c', 'a', 'l', 'h', 'o', 's', 't'] := by decide
  have label : IsPlainLabel "localhost".toList := by decide
  have named : hostName? "localhost".toList = some "localhost" := by
    rw [hostName?, percentDecode_eq_encoded (by decide) label.ascii, fromUTF8?_encoded,
      Option.bind_some, label.domainToAscii_eq]
    decide
  have host : Host.readSpecial "localhost".toList = .ok (.domain "localhost") := by
    rw [chars, readSpecial_eq_readDomain (by decide), ← chars]
    exact readDomain_of_name named (by decide) (by decide +kernel)
  have plain : ∀ c ∈ "localhost".toList, c ∉ ':' :: delimiters ∧ isCounted c = true := by
    simp [delimiters, isCounted]
  obtain ⟨u, a, found, authority, there⟩ := resolveRegional_regionOfHost host (by decide) plain
  rw [show regionOfHost "localhost".toList = "x@localhost/" by decide] at found
  have outside : ¬ IsHostAlone u := not_isHostAlone (c := '@') (by decide) (by decide)
    (parse_of_resolveRegional found)
  refine ⟨u, found, ?_, outside⟩
  rw [Url.host?, authority, Option.bind_some, there]
  rfl

end RecordStore.Endpoint
