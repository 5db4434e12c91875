/-
RecordStore.Proofs.Signing.Unambiguity -- what is signed can be read in one way only

Both texts of a signature are lines (`Canonical.text_eq`, `stringToSign_eq`), and
as long as no part of them holds a line break the lines can be told apart
(`Text.lines_injective`).  The number of lines tells whether a token is signed, so
two texts that are the same have the same headers, each with the same value up to
blanks around it (`Canonical.parts_of_text`); the host of an endpoint has none
(`trim_hostHeader`).  What else a value holds, be it a colon, a semicolon or a
slash, does no harm.  A line break does: values that hold one can be moved from one
header to another (`Canonical.text_eq_of_broken`).
-/
import RecordStore.Proofs.Signing.Verification
import RecordStore.Proofs.Url.HostText

namespace RecordStore

set_option autoImplicit false

open RecordStore.Text RecordStore.Number

/-! ## Lines -/

namespace Text

/-- Lines can be told apart, since none of them goes over its end. -/
theorem lines_injective {xs ys : List String} (some_ : xs ≠ []) (others : ys ≠ [])
    (plain : ∀ line ∈ xs, '\n' ∉ line.toList) (plain' : ∀ line ∈ ys, '\n' ∉ line.toList)
    (same : "\n".intercalate xs = "\n".intercalate ys) : xs = ys := by
  have single : "\n".toList = ['\n'] := by decide
  rw [← splitOn_intercalate single some_ plain, same, splitOn_intercalate single others plain']

theorem mem_of_mem_trim {s : String} {c : Char} (member : c ∈ (trim s).toList) :
    c ∈ s.toList := by
  rw [trim, trimChars, String.toList_ofList, List.mem_reverse] at member
  have member := (List.dropWhile_sublist isBlank).subset member
  exact (List.dropWhile_sublist isBlank).subset (List.mem_reverse.1 member)

namespace Hex

theorem digit_injective {m n : Nat} (small : m < 16) (small' : n < 16) (same : digit m = digit n) :
    m = n := by
  have values : some m = some n := by rw [← value?_digit small, same, value?_digit small']
  exact Option.some.inj values

theorem ofByte_injective {a b : UInt8} (same : ofByte a = ofByte b) : a = b := by
  have small : a.toNat < 256 := a.toNat_lt
  have small' : b.toNat < 256 := b.toNat_lt
  obtain ⟨high, low⟩ : digit (a.toNat / 16) = digit (b.toNat / 16) ∧
      digit (a.toNat % 16) = digit (b.toNat % 16) := by simpa [ofByte] using same
  have high := digit_injective (by omega) (by omega) high
  have low := digit_injective (by omega) (by omega) low
  exact UInt8.toNat_inj.1 (by omega)

/-- Different bytes are written differently. -/
theorem ofBytes_injective {xs ys : List UInt8} (same : ofBytes xs = ofBytes ys) : xs = ys := by
  replace same : xs.flatMap ofByte = ys.flatMap ofByte := String.ofList_injective same
  induction xs generalizing ys with
  | nil =>
    cases ys with
    | nil => rfl
    | cons b ys => cases same
  | cons a xs ih =>
    cases ys with
    | nil => cases same
    | cons b ys =>
      rw [List.flatMap_cons, List.flatMap_cons] at same
      obtain ⟨first, rest⟩ := List.append_inj same rfl
      rw [ofByte_injective first, ih rest]

end Hex

end Text

namespace Signing

theorem newline_notMem_hexDigest (bytes : List UInt8) : '\n' ∉ (hexDigest bytes).toList :=
  fun member => absurd (Hex.mem_ofBytes member).1 (by decide)

theorem digest_of_hexDigest {xs ys : List UInt8} (same : hexDigest xs = hexDigest ys) :
    Sha256.digest xs = Sha256.digest ys := Hex.ofBytes_injective same

/-! ## The first text -/

namespace Canonical

/-- A header as it is signed: without the blanks around its value. -/
def trimmed (header : String × String) : String × String := (header.1, trim header.2)

/-- The line of a header, without its end. -/
def openLine (header : String × String) : String := header.1 ++ ":" ++ trim header.2

/-- The lines of the first text. -/
def lines (c : Canonical) : List String :=
  ["POST", c.rootedPath, ""] ++ (c.headers.map openLine ++ ["", c.signedNames, hexDigest c.body])

theorem intercalate_openLines (headers : List (String × String)) (next : String)
    (rest : List String) :
    "\n".intercalate (headers.map openLine ++ next :: rest) =
      headerLines headers ++ "\n".intercalate (next :: rest) := by
  induction headers with
  | nil => exact String.empty_append.symm
  | cons header headers ih =>
    have some_ : headers.map openLine ++ next :: rest ≠ [] := by simp
    rw [List.map_cons, List.cons_append, String.intercalate_cons_of_ne_nil some_, ih]
    simp only [headerLines, headerLine, openLine, String.append_assoc]

theorem text_eq (c : Canonical) : c.text = "\n".intercalate c.lines := by
  have some_ : c.headers.map openLine ++ ["", c.signedNames, hexDigest c.body] ≠ [] := by simp
  rw [lines, List.cons_append, List.cons_append, List.cons_append, List.nil_append,
    String.intercalate_cons_cons, String.intercalate_cons_cons,
    String.intercalate_cons_of_ne_nil some_, intercalate_openLines, String.intercalate_cons_cons,
    String.intercalate_cons_cons, String.intercalate_singleton]
  refine String.toList_inj.1 ?_
  simp [text]

/-- No part of what is signed goes over the end of its line. -/
structure Plain (c : Canonical) : Prop where
  path : '\n' ∉ c.path.toList
  values : ∀ header ∈ c.headers, '\n' ∉ header.2.toList

theorem newline_notMem_lines {c : Canonical} (plain : c.Plain) {line : String}
    (member : line ∈ c.lines) : '\n' ∉ line.toList := by
  have rooted : '\n' ∉ c.rootedPath.toList := by
    unfold rootedPath
    split
    · decide
    · exact plain.path
  have names : '\n' ∉ c.signedNames.toList := by
    rw [signedNames, names_headers]
    cases c.token?.isSome <;> decide
  have each (header : String × String) (there : header ∈ c.headers) :
      '\n' ∉ (openLine header).toList := by
    have name : '\n' ∉ header.1.toList := by
      have known : header.1 ∈ c.headers.map (·.1) := List.mem_map_of_mem there
      rw [names_headers] at known
      revert known
      generalize header.1 = name
      cases c.token?.isSome <;> revert name <;> decide
    simp only [openLine, String.toList_append, List.mem_append, not_or]
    exact ⟨⟨name, by decide⟩, fun member => plain.values header there (mem_of_mem_trim member)⟩
  simp only [lines, List.mem_append, List.mem_cons, List.mem_map, List.not_mem_nil, or_false]
    at member
  obtain (rfl | rfl | rfl) | ⟨header, there, rfl⟩ | rfl | rfl | rfl := member
  · decide
  · exact rooted
  · decide
  · exact each header there
  · decide
  · exact names
  · exact newline_notMem_hexDigest c.body

theorem length_headers (c : Canonical) :
    c.headers.length = 4 + if c.token?.isSome then 1 else 0 := by
  rw [← List.length_map (·.1), names_headers]
  cases c.token?.isSome <;> rfl

/-- Headers of the same names and with the same lines have the same values, up to blanks. -/
theorem trimmed_of_openLine {headers others : List (String × String)}
    (names : headers.map (·.1) = others.map (·.1))
    (lines : headers.map openLine = others.map openLine) :
    headers.map trimmed = others.map trimmed := by
  induction headers generalizing others with
  | nil =>
    obtain rfl := List.map_eq_nil_iff.1 names.symm
    rfl
  | cons header headers ih =>
    cases others with
    | nil => cases names
    | cons other others =>
      obtain ⟨name, names⟩ := List.cons.inj names
      obtain ⟨line, lines⟩ := List.cons.inj lines
      have value : trim header.2 = trim other.2 := by
        dsimp only at name
        rw [openLine, openLine, name] at line
        exact (String.append_right_inj _).1 line
      have first : trimmed header = trimmed other := Prod.ext name value
      rw [List.map_cons, List.map_cons, first, ih names lines]

/-- What the first text tells: whether there is a token, the path, the header values up to blanks
and the digest of the body. -/
theorem parts_of_text {c d : Canonical} (plain : c.Plain) (plain' : d.Plain)
    (same : c.text = d.text) :
    c.token?.isSome = d.token?.isSome ∧ c.rootedPath = d.rootedPath ∧
      c.headers.map trimmed = d.headers.map trimmed ∧ hexDigest c.body = hexDigest d.body := by
  have lines : c.lines = d.lines := by
    rw [text_eq, text_eq] at same
    exact lines_injective (by simp [lines]) (by simp [lines]) (fun _ => newline_notMem_lines plain)
      (fun _ => newline_notMem_lines plain') same
  -- A token takes one line more.
  have count : c.headers.length = d.headers.length := by
    have count := congrArg List.length lines
    simpa [Canonical.lines] using count
  have token : c.token?.isSome = d.token?.isSome := by
    rw [length_headers, length_headers] at count
    cases there : c.token?.isSome <;> cases there' : d.token?.isSome <;> simp_all
  have names : c.headers.map (·.1) = d.headers.map (·.1) := by
    rw [names_headers, names_headers, token]
  obtain ⟨start, rest⟩ := List.append_inj lines rfl
  obtain ⟨middle, ending⟩ := List.append_inj rest (by simpa using count)
  simp only [List.cons.injEq, and_true, true_and] at start ending
  exact ⟨token, start, trimmed_of_openLine names middle, ending.2⟩

theorem values_of_headers {c d : Canonical}
    (same : c.headers.map trimmed = d.headers.map trimmed) :
    trim c.contentType = trim d.contentType ∧ trim c.host = trim d.host ∧
      trim c.stamp = trim d.stamp ∧ c.token?.map trim = d.token?.map trim ∧
        trim c.target = trim d.target := by
  revert same
  unfold headers
  cases c.token? <;> cases d.token? <;> simp +contextual [trimmed]

/-- A target that holds line breaks can end in what reads as more headers, and a content type can
begin with them.  So values move from one header to another under the same text. -/
theorem text_eq_of_broken (c : Canonical) (untoken : c.token? = none) {host target : String}
    {first last : String}
    (begins : first = trim c.contentType ++ "\nhost:" ++ trim c.host ++ "\nx-amz-date:" ++
      trim c.stamp ++ "\nx-amz-target:" ++ trim c.target)
    (ends : last = trim c.target ++ "\nhost:" ++ trim host ++ "\nx-amz-date:" ++
      trim c.stamp ++ "\nx-amz-target:" ++ trim target)
    (inked : trim first = first) (inked' : trim last = last) :
    text { c with contentType := first, host, target } = text { c with target := last } := by
  have lines : headerLines (headers { c with contentType := first, host, target }) =
      headerLines (headers { c with target := last }) := by
    simp only [headers, untoken, List.append_nil, List.cons_append, List.nil_append, headerLines,
      headerLine, inked, inked']
    rw [begins, ends]
    refine String.toList_inj.1 ?_
    simp
  have names : signedNames { c with contentType := first, host, target } =
      signedNames { c with target := last } := by
    rw [signedNames, signedNames, names_headers, names_headers]
  rw [text, text, lines, names]
  rfl

example :
    let c : Canonical := ⟨"/", "c", "h", "D", none, "t", []⟩
    let first := "c\nhost:h\nx-amz-date:D\nx-amz-target:t"
    text { c with contentType := first, host := "g", target := "s" } =
      text { c with target := "t\nhost:g\nx-amz-date:D\nx-amz-target:s" } := by decide +kernel

end Canonical

/-! ## The second text -/

theorem stringToSign_eq (time : Calendar) (region canonical : String) :
    stringToSign time region canonical = "\n".intercalate [algorithm, time.stampText,
      scope time.dateText region, hexDigest canonical.toUTF8.toList] := by
  simp only [stringToSign, String.intercalate_cons_cons, String.intercalate_singleton,
    String.append_assoc]

theorem newline_notMem_scope {time : Calendar} (year : time.FourDigitYear) {region : String}
    (plain : '\n' ∉ region.toList) : '\n' ∉ (scope time.dateText region).toList := by
  have date : '\n' ∉ time.dateText.toList := fun member =>
    absurd (Calendar.isDigit_of_mem_dateText year member) (by decide)
  have fixed : '\n' ∉ "/".toList ∧ '\n' ∉ service.toList ∧ '\n' ∉ "/aws4_request".toList := by
    decide
  simp only [scope, String.toList_append, List.mem_append, not_or]
  exact ⟨⟨⟨⟨⟨date, fixed.1⟩, plain⟩, fixed.1⟩, fixed.2.1⟩, fixed.2.2⟩

/-- What the second text tells: the stamp, the region and the digest of the first text. -/
theorem parts_of_stringToSign {time other : Calendar} (year : time.FourDigitYear)
    (year' : other.FourDigitYear) (proper : time.Proper) (proper' : other.Proper)
    {region region' : String} (plain : '\n' ∉ region.toList) (plain' : '\n' ∉ region'.toList)
    {canonical canonical' : String}
    (same : stringToSign time region canonical = stringToSign other region' canonical') :
    time.stampText = other.stampText ∧ region = region' ∧
      hexDigest canonical.toUTF8.toList = hexDigest canonical'.toUTF8.toList := by
  have unbroken {time : Calendar} (year : time.FourDigitYear) {region : String}
      (plain : '\n' ∉ region.toList) (canonical : String) :
      ∀ line ∈ [algorithm, time.stampText, scope time.dateText region,
        hexDigest canonical.toUTF8.toList], '\n' ∉ line.toList := by
    have stamp : '\n' ∉ time.stampText.toList := fun member =>
      absurd (isBlank_of_mem_stampText year member) (by decide)
    simp only [List.forall_mem_cons]
    exact ⟨by decide, stamp, newline_notMem_scope year plain, newline_notMem_hexDigest _,
      fun _ member => nomatch member⟩
  rw [stringToSign_eq, stringToSign_eq] at same
  have lines := lines_injective (List.cons_ne_nil _ _) (List.cons_ne_nil _ _)
    (unbroken year plain canonical) (unbroken year' plain' canonical') same
  simp only [List.cons.injEq, and_true, true_and] at lines
  obtain ⟨stamp, scopes, digest⟩ := lines
  -- The date is the start of the stamp, so the scopes differ in the region only.
  have date : time.dateText = other.dateText := by
    refine String.toList_inj.1 ?_
    rw [← Calendar.take_stampText year proper, stamp, Calendar.take_stampText year' proper']
  have region : region = region' := by
    rw [scope, scope, date] at scopes
    exact (String.append_right_inj _).1 ((String.append_left_inj _).1 ((String.append_left_inj _).1
      ((String.append_left_inj _).1 scopes)))
  exact ⟨stamp, region, digest⟩

/-! ## Hosts -/

theorem isBlank_of_isVisible {c : Char} (visible : Url.isVisible c = true) : isBlank c = false := by
  obtain ⟨low, high⟩ := Url.isVisible_iff.1 visible
  simp only [isBlank, Bool.or_eq_false_iff, Bool.and_eq_false_iff, decide_eq_false_iff_not,
    beq_eq_false_iff_ne]
  omega

theorem visible_integerText (i : Int) : Url.Visible (integerText i).toList := by
  unfold integerText
  split
  · rw [String.toList_ofList, Url.visible_cons]
    exact ⟨rfl, Url.visible_digits _⟩
  · rw [String.toList_ofList]
    exact Url.visible_digits _

/-- A host header is a single word. -/
theorem visible_hostHeader {url : Url} (parsed : url.Parsed) {header : String}
    (hosted : hostHeader url = .ok header) : Url.Visible header.toList := by
  unfold hostHeader at hosted
  split at hosted
  · next host named =>
    have visible := parsed.visible_host named
    split at hosted
    · obtain rfl := Except.ok.inj hosted
      simp only [String.toList_append, Url.visible_append]
      exact ⟨⟨visible, Url.visible_cons.2 ⟨rfl, Url.visible_nil⟩⟩, visible_integerText _⟩
    · obtain rfl := Except.ok.inj hosted
      exact visible
  · cases hosted

theorem trim_hostHeader {url : Url} (parsed : url.Parsed) {header : String}
    (hosted : hostHeader url = .ok header) : trim header = header := by
  have visible := visible_hostHeader parsed hosted
  exact trim_eq_self
    (fun c first => isBlank_of_isVisible (visible c (List.mem_of_head? first)))
    fun c last => isBlank_of_isVisible (visible c (List.mem_of_getLast? last))

/-! ## Occasions -/

/-- All that a signature is made of: who signs what, and when. -/
structure Occasion where
  credentials : Credentials
  request : Signable
  now : Timestamp

namespace Occasion

variable (o p : Occasion)

def time : Calendar := .ofTimestamp o.now

/-- What is signed, with the host header of the endpoint. -/
def canonical (host : String) : Canonical := o.request.canonical o.credentials host o.time

/-- The second text. -/
def toSign (host : String) : String :=
  stringToSign o.time o.request.region (o.canonical host).text

/-- The value of the `authorization` header for a signature. -/
def authorization (host signature : String) : String :=
  algorithm ++ " Credential=" ++ o.credentials.id ++ "/" ++ scope o.time.dateText o.request.region
    ++ ", SignedHeaders=" ++ (o.canonical host).signedNames ++ ", Signature=" ++ signature

/-- The headers that signing gives: the signature is a keyed digest of the second text. -/
def headers (host : String) : List (String × String) :=
  let key := signingKey o.credentials.secret o.time.dateText o.request.region
  let signature := Hex.ofBytes (Sha256.keyed key (o.toSign host).toUTF8.toList)
  [("authorization", o.authorization host signature), ("x-amz-date", o.time.stampText)]
    ++ (match o.credentials.token? with
      | some token => [("x-amz-security-token", token)]
      | none => [])

theorem sign_eq {o : Occasion} {host : String} (hosted : hostHeader o.request.endpoint = .ok host) :
    sign o.credentials o.request o.now = .ok (o.headers host) := by
  unfold sign
  rw [hosted]
  rfl

/-- The endpoint has a host, no text that is signed goes over the end of its line, and the year
has four digits. -/
structure Plain (host : String) : Prop where
  hosted : hostHeader o.request.endpoint = .ok host
  region : '\n' ∉ o.request.region.toList
  contentType : '\n' ∉ o.request.contentType.toList
  target : '\n' ∉ o.request.target.toList
  token : ∀ token, o.credentials.token? = some token → '\n' ∉ token.toList
  host : '\n' ∉ host.toList
  path : '\n' ∉ o.request.endpoint.path.toList
  year : o.time.FourDigitYear

theorem Plain.canonical {o : Occasion} {host : String} (plain : o.Plain host) :
    (o.canonical host).Plain where
  path := plain.path
  values header member := by
    have stamp : '\n' ∉ o.time.stampText.toList := fun member =>
      absurd (isBlank_of_mem_stampText plain.year member) (by decide)
    unfold Canonical.headers at member
    rw [List.mem_append, List.mem_append] at member
    obtain (given | token) | target := member
    · simp only [List.mem_cons, List.not_mem_nil, or_false] at given
      obtain rfl | rfl | rfl := given
      · exact plain.contentType
      · exact plain.host
      · exact stamp
    · cases held : o.credentials.token? with
      | none => simp [Occasion.canonical, Signable.canonical, held] at token
      | some text =>
        obtain rfl : header = ("x-amz-security-token", text) := by
          simpa [Occasion.canonical, Signable.canonical, held] using token
        exact plain.token text held
    · obtain rfl := List.mem_singleton.1 target
      exact plain.target

/-- Two occasions agree on the request that is signed, up to blanks around header values. -/
structure SameRequest (host other : String) : Prop where
  path : (o.canonical host).rootedPath = (p.canonical other).rootedPath
  /-- The hosts of endpoints have no blanks around them to begin with. -/
  hostHeader : o.request.endpoint.Parsed → p.request.endpoint.Parsed → host = other
  trimmedHost : trim host = trim other
  hasToken : o.credentials.token?.isSome = p.credentials.token?.isSome
  token : o.credentials.token?.map trim = p.credentials.token?.map trim
  contentType : trim o.request.contentType = trim p.request.contentType
  target : trim o.request.target = trim p.request.target
  stamp : o.time.stampText = p.time.stampText
  body : Sha256.digest o.request.body = Sha256.digest p.request.body
  /-- Every header keeps its value, -/
  headers : (o.canonical host).headers.map Canonical.trimmed =
    (p.canonical other).headers.map Canonical.trimmed
  /-- and the names that are listed are the same. -/
  names : (o.canonical host).signedNames = (p.canonical other).signedNames

/-- Two occasions agree on when, where and what is signed. -/
structure SameScope (host other : String) : Prop where
  stamp : o.time.stampText = p.time.stampText
  region : o.request.region = p.request.region
  canonical : Sha256.digest (o.canonical host).text.toUTF8.toList =
    Sha256.digest (p.canonical other).text.toUTF8.toList

variable {o p} {host other : String}

theorem sameRequest_of_text (plain : o.Plain host) (plain' : p.Plain other)
    (same : (o.canonical host).text = (p.canonical other).text) : o.SameRequest p host other := by
  obtain ⟨hasToken, path, headers, body⟩ :=
    Canonical.parts_of_text plain.canonical plain'.canonical same
  obtain ⟨contentType, (trimmedHost : trim host = trim other),
    (stamp : trim o.time.stampText = trim p.time.stampText), token, target⟩ :=
    Canonical.values_of_headers headers
  rw [trim_stampText plain.year, trim_stampText plain'.year] at stamp
  have names : (o.canonical host).signedNames = (p.canonical other).signedNames := by
    rw [Canonical.signedNames, Canonical.signedNames, Canonical.names_headers,
      Canonical.names_headers, hasToken]
  have hostHeader (parsed : o.request.endpoint.Parsed) (parsed' : p.request.endpoint.Parsed) :
      host = other := by
    rwa [trim_hostHeader parsed plain.hosted, trim_hostHeader parsed' plain'.hosted] at trimmedHost
  have body := digest_of_hexDigest body
  exact { path, hostHeader, trimmedHost, hasToken, token, contentType, target, stamp, body, headers,
          names }

theorem sameScope_of_toSign (plain : o.Plain host) (plain' : p.Plain other)
    (same : o.toSign host = p.toSign other) : o.SameScope p host other := by
  obtain ⟨stamp, region, digest⟩ := parts_of_stringToSign plain.year plain'.year
    (Calendar.proper_ofTimestamp o.now) (Calendar.proper_ofTimestamp p.now) plain.region
    plain'.region same
  exact ⟨stamp, region, digest_of_hexDigest digest⟩

end Occasion

/-- **Signed texts can be read in one way only.**  Whoever signs whatever requests, in years of four
digits and without line breaks: occasions with the same first text agree on the request, and those
with the same second text agree on the stamp, the region and the digest of the first text.  The
second text is what is signed. -/
theorem signedTexts_unambiguous {o p : Occasion} {host other : String} (plain : o.Plain host)
    (plain' : p.Plain other) :
    (sign o.credentials o.request o.now = .ok (o.headers host) ∧
      sign p.credentials p.request p.now = .ok (p.headers other)) ∧
    ((o.canonical host).text = (p.canonical other).text → o.SameRequest p host other) ∧
    (o.toSign host = p.toSign other → o.SameScope p host other) :=
  ⟨⟨Occasion.sign_eq plain.hosted, Occasion.sign_eq plain'.hosted⟩,
    Occasion.sameRequest_of_text plain plain', Occasion.sameScope_of_toSign plain plain'⟩

/-- Two endpoints with one host, of which one has an empty path, and values that differ in blanks
and read as if they were more than one value. -/
theorem signedTexts_unambiguous_blanks :
    let address := some ⟨"", "", some (.ipv6 [0, 0, 0, 0, 0, 0, 0, 1]), some 8000⟩
    let host := "[::1]:8000"
    let o : Occasion := ⟨⟨"AKID", "secret", some " x-amz-target:t;u"⟩,
      ⟨"eu/1/kv", ⟨"http", address, "/", none, none⟩, "Get;host:b", "text/plain ", []⟩, 1767323045⟩
    let p : Occasion := ⟨⟨"OTHER", "key", some "x-amz-target:t;u\t"⟩,
      ⟨"eu/1/kv", ⟨"kv", address, "", none, none⟩, " Get;host:b", "text/plain", []⟩, 1767323045⟩
    (Url.parse "http://[0:0::1]:8000" = .ok o.request.endpoint ∧
      Url.parse "kv://[::1]:8000" = .ok p.request.endpoint) ∧
    (o.Plain host ∧ p.Plain host) ∧
    ((o.canonical host).text = (p.canonical host).text ∧ o.SameRequest p host host) ∧
    (o.toSign host = p.toSign host ∧ o.SameScope p host host) := by
  intro address host o p
  have plain : o.Plain host :=
    { hosted := rfl, region := by decide, contentType := by decide, target := by decide
      token := fun token held => Option.some.inj held ▸ by decide
      host := by decide, path := by decide, year := by decide }
  have plain' : p.Plain host :=
    { hosted := rfl, region := by decide, contentType := by decide, target := by decide
      token := fun token held => Option.some.inj held ▸ by decide
      host := by decide, path := by decide, year := by decide }
  have lines : Canonical.headerLines (o.canonical host).headers =
      Canonical.headerLines (p.canonical host).headers := by decide
  have path : (o.canonical host).rootedPath = (p.canonical host).rootedPath := by decide
  have names : (o.canonical host).signedNames = (p.canonical host).signedNames := by decide
  have text : (o.canonical host).text = (p.canonical host).text := by
    rw [Canonical.text, Canonical.text, lines, path, names]
    rfl
  have toSign : o.toSign host = p.toSign host := congrArg (stringToSign o.time "eu/1/kv") text
  obtain ⟨-, request, scope⟩ := signedTexts_unambiguous plain plain'
  exact ⟨⟨rfl, rfl⟩, ⟨plain, plain'⟩, ⟨text, request text⟩, ⟨toSign, scope toSign⟩⟩

end Signing

end RecordStore
