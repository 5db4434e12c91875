/-
RecordStore.Proofs.Signing.Verification -- a receiver finds signatures to be right

What is sent tells a receiver all that the signature covers.  The signed headers
are sent with the signed values (`Http.Sending.mem_sent`), their names and the scope
can be read back from the `authorization` header (`Sending.read?_authorization`), and
what the receiver brings together from them is the text that was signed
(`Sending.canonical?_of_arrives`).  So it computes the signature that was sent
(`Http.signatures_verify`).
-/
import RecordStore.Proofs.Calendar
import RecordStore.Proofs.Signing.Receiver

namespace RecordStore

set_option autoImplicit false

open RecordStore.Text RecordStore.Number

/-! ## Blanks -/

namespace Text

theorem dropWhile_isBlank_of_head {cs : List Char} (head : ∀ c ∈ cs.head?, isBlank c = false) :
    cs.dropWhile isBlank = cs := by
  cases cs with
  | nil => rfl
  | cons c rest =>
    have first : isBlank c = false := head c rfl
    rw [List.dropWhile_cons, first]
    rfl

/-- Nothing is removed from a text that neither begins nor ends with a blank. -/
theorem trim_eq_self {s : String} (first : ∀ c ∈ s.toList.head?, isBlank c = false)
    (last : ∀ c ∈ s.toList.getLast?, isBlank c = false) : trim s = s := by
  have back : s.toList.reverse.dropWhile isBlank = s.toList.reverse :=
    dropWhile_isBlank_of_head (by rwa [List.head?_reverse])
  rw [trim, trimChars, dropWhile_isBlank_of_head first, back, List.reverse_reverse,
    String.ofList_toList]

theorem isBlank_of_isDigit {c : Char} (digit : isDigit c = true) : isBlank c = false := by
  have digits : ∀ n < 10, isBlank (Char.ofNat (48 + n)) = false := by decide
  obtain ⟨low, high⟩ := isDigit_iff.1 digit
  have code : c.toNat = 48 + (c.toNat - 48) := by omega
  rw [← Char.ofNat_toNat c, code]
  exact digits _ (by omega)

/-- A byte is written without blanks and without separators. -/
theorem Hex.mem_ofBytes {bytes : List UInt8} {c : Char} (member : c ∈ (Hex.ofBytes bytes).toList) :
    isBlank c = false ∧ c ≠ ',' := by
  rw [Hex.ofBytes, String.toList_ofList] at member
  obtain ⟨b, -, member⟩ := List.mem_flatMap.1 member
  have digits : ∀ n < 16, isBlank (Hex.digit n) = false ∧ Hex.digit n ≠ ',' := by decide
  have small : b.toNat < 256 := b.toNat_lt
  simp only [Hex.ofByte, List.mem_cons, List.not_mem_nil, or_false] at member
  obtain rfl | rfl := member
  · exact digits _ (by omega)
  · exact digits _ (by omega)

/-- A stamp has no blanks. -/
theorem isBlank_of_mem_stampText {time : Calendar} (year : time.FourDigitYear) {c : Char}
    (member : c ∈ time.stampText.toList) : isBlank c = false := by
  obtain digit | rfl | rfl := Calendar.mem_stampText year member
  · exact isBlank_of_isDigit digit
  · rfl
  · rfl

theorem trim_stampText {time : Calendar} (year : time.FourDigitYear) :
    trim time.stampText = time.stampText :=
  trim_eq_self (fun _ first => isBlank_of_mem_stampText year (List.mem_of_head? first))
    fun _ last => isBlank_of_mem_stampText year (List.mem_of_getLast? last)

/-! ## Pieces -/

/-- Texts between separators are read back, if none of them holds one. -/
theorem splitOn_intercalate {separator : Char} {between : String}
    (single : between.toList = [separator]) {parts : List String} (some_ : parts ≠ [])
    (plain : ∀ part ∈ parts, separator ∉ part.toList) :
    ((between.intercalate parts).toList.splitOn separator).map String.ofList = parts := by
  have whole : ([separator].intercalate (parts.map String.toList)).splitOn separator =
      parts.map String.toList :=
    List.splitOn_intercalate separator (by simpa using plain) (by simpa using some_)
  rw [String.toList_intercalate, single, whole]
  simp [Function.comp_def]

/-! ## Lines -/

instance (s : String) : Decidable (Unbroken s) :=
  inferInstanceAs (Decidable ('\n' ∉ s.toList ∧ '\r' ∉ s.toList))

theorem unbroken_append {s t : String} : Unbroken (s ++ t) ↔ Unbroken s ∧ Unbroken t := by
  unfold Unbroken
  simp only [String.toList_append, List.mem_append, not_or]
  exact and_and_and_comm

/-- Without blanks there are no line breaks. -/
theorem unbroken_of_inked {s : String} (inked : ∀ c ∈ s.toList, isBlank c = false) :
    Unbroken s :=
  ⟨fun member => absurd (inked _ member) (by decide),
    fun member => absurd (inked _ member) (by decide)⟩

end Text

/-- The signed headers are those that every request has, and the token if there is one. -/
theorem Signing.Canonical.names_headers (c : Signing.Canonical) : c.headers.map (·.1) =
    ["content-type", "host", "x-amz-date"] ++
      (if c.token?.isSome then ["x-amz-security-token"] else []) ++ ["x-amz-target"] := by
  unfold Signing.Canonical.headers
  cases c.token? <;> rfl

/-! ## What is sent -/

namespace Http

open RecordStore.Signing

/-- An operation to be sent with a body, and by whom, to where and when. -/
structure Sending where
  credentials : Credentials
  region : String
  endpoint : Url
  now : Timestamp
  operation : String
  body : String

namespace Sending

variable (c : Sending)

def target : String := "DynamoDB_20120810." ++ c.operation

/-- What is signed. -/
def signable : Signable :=
  ⟨c.region, c.endpoint, c.target, contentType, c.body.toUTF8.toList⟩

/-- The post that is sent. -/
def post : Except WireError Post := do
  let signed ← sign c.credentials c.signable c.now
  return ⟨c.endpoint, [("content-type", contentType), ("x-amz-target", c.target)] ++ signed, c.body⟩

/-- A request is sent as an operation with its JSON text. -/
theorem post_request (credentials : Credentials) (region : String) (endpoint : Url)
    (now : Timestamp) (r : Wire.Request) :
    Http.post credentials region endpoint now r =
      post ⟨credentials, region, endpoint, now, r.operationName, r.toJson.render⟩ := rfl

def time : Calendar := .ofTimestamp c.now

/-- The host of the endpoint with its port, unless it is the usual one. -/
def host : String :=
  (c.endpoint.authority?.map fun a => Url.hostAndPort a.host? a.port?).getD ""

/-- The text that is signed, by its parts. -/
def canonical : Canonical := c.signable.canonical c.credentials c.host c.time

theorem names_canonical : c.canonical.headers.map (·.1) =
    ["content-type", "host", "x-amz-date"] ++
      (if c.credentials.token?.isSome then ["x-amz-security-token"] else []) ++
        ["x-amz-target"] := c.canonical.names_headers

def signature : String :=
  Signing.signature c.credentials c.region c.time c.canonical.text

/-- The value of the `authorization` header. -/
def authorization : String :=
  algorithm ++ " Credential=" ++ c.credentials.id ++ "/" ++ scope c.time.dateText c.region
    ++ ", SignedHeaders=" ++ c.canonical.signedNames ++ ", Signature=" ++ c.signature

/-- The headers that are sent. -/
def headers : List (String × String) :=
  [("content-type", contentType), ("x-amz-target", c.target)] ++
    ([("authorization", c.authorization), ("x-amz-date", c.time.stampText)] ++
      (match c.credentials.token? with
        | some token => [("x-amz-security-token", token)]
        | none => []))

section

variable {c} {a : Url.Authority} {host : Url.Host} (authority : c.endpoint.authority? = some a)

include authority

theorem host_eq : c.host = Url.hostAndPort a.host? a.port? := by
  rw [Sending.host, authority]
  rfl

theorem hostHeader_eq (hosted : a.host? = some host) : hostHeader c.endpoint = .ok c.host := by
  have shown : c.endpoint.host? = some host.text := by
    rw [Url.host?, authority, Option.bind_some, hosted]
    rfl
  have port : c.endpoint.port? = a.port? := by
    rw [Url.port?, authority, Option.bind_some]
  rw [hostHeader, shown, port, host_eq authority, hosted]
  cases a.port? with
  | none => exact congrArg Except.ok String.append_empty.symm
  | some port => exact congrArg Except.ok String.append_assoc

/-- A request for an endpoint with a host is sent. -/
theorem post_eq (hosted : a.host? = some host) : c.post = .ok ⟨c.endpoint, c.headers, c.body⟩ := by
  unfold post sign
  show ((hostHeader c.endpoint).bind _).bind _ = _
  rw [hostHeader_eq authority hosted]
  rfl

theorem headers_canonical : c.canonical.headers =
    [("content-type", contentType), ("host", Url.hostAndPort a.host? a.port?),
      ("x-amz-date", c.time.stampText)] ++
      (match c.credentials.token? with
        | some token => [("x-amz-security-token", token)]
        | none => []) ++
          [("x-amz-target", c.target)] := by
  have host : c.canonical.host = Url.hostAndPort a.host? a.port? := host_eq authority
  rw [Canonical.headers, host]
  rfl

theorem stamp_mem_headers : ("x-amz-date", c.time.stampText) ∈ c.canonical.headers := by
  rw [headers_canonical authority]
  simp

/-- Every signed header is sent with the signed value. -/
theorem mem_sent {header : String × String} (signed : header ∈ c.canonical.headers) :
    header ∈ Post.sent ⟨c.endpoint, c.headers, c.body⟩ := by
  rw [headers_canonical authority] at signed
  unfold Post.sent headers
  dsimp only
  rw [authority]
  revert signed
  cases c.credentials.token? with
  | none =>
    simp only [List.mem_append, List.mem_cons, List.not_mem_nil, or_false]
    rintro ((rfl | rfl | rfl) | rfl) <;> simp
  | some token =>
    simp only [List.mem_append, List.mem_cons, List.not_mem_nil, or_false]
    rintro (((rfl | rfl | rfl) | rfl) | rfl) <;> simp

/-- No header is sent twice. -/
theorem nodup_sent : ((Post.sent ⟨c.endpoint, c.headers, c.body⟩).map (·.1)).Nodup := by
  unfold Post.sent headers
  dsimp only
  rw [authority]
  cases c.credentials.token? <;> simp

end

/-! ## What is read -/

/-- What the `authorization` header says. -/
def said : Authorization where
  scope := scope c.time.dateText c.region
  date := c.time.dateText
  region := c.region
  service := service
  terminator := "aws4_request"
  names := c.canonical.headers.map (·.1)
  signature := c.signature

theorem ascending_names : (c.canonical.headers.map (·.1)).Pairwise (· < ·) := by
  rw [names_canonical]
  cases c.credentials.token?.isSome <;> decide

/-- The names are read back as they were written. -/
theorem splitOn_signedNames :
    (c.canonical.signedNames.toList.splitOn ';').map String.ofList =
      c.canonical.headers.map (·.1) := by
  have plain : ∀ name ∈ c.canonical.headers.map (·.1), ';' ∉ name.toList := by
    rw [names_canonical]
    cases c.credentials.token?.isSome <;> decide
  have some_ : c.canonical.headers.map (·.1) ≠ [] := by
    rw [names_canonical]
    exact List.cons_ne_nil _ _
  exact splitOn_intercalate (by decide) some_ plain

theorem comma_notMem_signedNames : ',' ∉ c.canonical.signedNames.toList := by
  rw [Canonical.signedNames, names_canonical]
  cases c.credentials.token?.isSome <;> decide

theorem comma_notMem_signature : ',' ∉ c.signature.toList :=
  fun member => (Hex.mem_ofBytes member).2 rfl

theorem toList_scope (date region : String) : (scope date region).toList =
    date.toList ++
      '/' :: ((region.toList ++ '/' :: service.toList) ++ '/' :: "aws4_request".toList) := by
  simp [scope]

/-- The `authorization` header is read back as it was written. -/
theorem read?_authorization (year : c.time.FourDigitYear) :
    Authorization.read? c.credentials.id c.authorization = some c.said := by
  have date : '/' ∉ c.time.dateText.toList := fun member =>
    absurd (Calendar.isDigit_of_mem_dateText year member) (by decide)
  have written : c.authorization.toList =
      ("AWS4-HMAC-SHA256 Credential=" ++ c.credentials.id ++ "/").toList ++
        (scope c.time.dateText c.region).toList ++
          ',' :: (" SignedHeaders=".toList ++ c.canonical.signedNames.toList) ++
            ',' :: (" Signature=".toList ++ c.signature.toList) := by
    simp [authorization, algorithm]
  rw [toList_scope] at written
  have read := Authorization.read?_eq date (by decide) (by decide) c.comma_notMem_signedNames
    c.comma_notMem_signature written
  rw [read, ← toList_scope, c.splitOn_signedNames]
  simp only [String.ofList_toList]
  rfl

/-! ## What is computed -/

/-- The `authorization` header neither begins nor ends with a blank. -/
theorem trim_authorization : trim c.authorization = c.authorization := by
  have parts : c.authorization.toList = 'A' :: ("WS4-HMAC-SHA256 Credential=" ++ c.credentials.id ++
      "/" ++ scope c.time.dateText c.region ++ ", SignedHeaders=" ++ c.canonical.signedNames ++
        ", Signature").toList ++ '=' :: c.signature.toList := by
    simp [authorization, algorithm]
  refine trim_eq_self (fun d first => ?_) fun d last => ?_
  · rw [parts] at first
    obtain rfl : 'A' = d := Option.some.inj first
    rfl
  · rw [parts, List.getLast?_append, List.getLast?_cons, Option.some_or, ← List.getLast?_cons]
      at last
    rcases List.mem_cons.1 (List.mem_of_getLast? last) with rfl | member
    · rfl
    · exact (Hex.mem_ofBytes member).1

/-- What is sent goes to an endpoint, and no part of it that others chose has a line break. -/
structure Plain (c : Sending) : Prop where
  anonymous : ∀ a, c.endpoint.authority? = some a → a.userinfo = ""
  region : Unbroken c.region
  id : Unbroken c.credentials.id
  token : ∀ token, c.credentials.token? = some token → Unbroken token
  operation : Unbroken c.operation

theorem unbroken_authorization (plain : c.Plain) (year : c.time.FourDigitYear) :
    Unbroken c.authorization := by
  have date : Unbroken c.time.dateText := unbroken_of_inked fun _ member =>
    isBlank_of_isDigit (Calendar.isDigit_of_mem_dateText year member)
  have names : Unbroken c.canonical.signedNames := by
    rw [Canonical.signedNames, names_canonical]
    cases c.credentials.token?.isSome <;> decide
  have signature : Unbroken c.signature := unbroken_of_inked fun _ member =>
    (Hex.mem_ofBytes member).1
  have whole : Unbroken (scope c.time.dateText c.region) := by
    simp only [scope, unbroken_append, date, plain.region, true_and]
    decide
  simp only [authorization, unbroken_append, plain.id, whole, names, signature, and_true]
  decide

theorem unbroken_target (plain : c.Plain) : Unbroken c.target := by
  unfold Sending.target
  rw [unbroken_append]
  exact ⟨by decide, plain.operation⟩

/-- The transport sends all headers as they are. -/
theorem plain_post (plain : c.Plain) (year : c.time.FourDigitYear) :
    Post.Plain ⟨c.endpoint, c.headers, c.body⟩ where
  anonymous := plain.anonymous
  unbroken header member := by
    have stamp : Unbroken c.time.stampText :=
      unbroken_of_inked fun _ => isBlank_of_mem_stampText year
    have member : header ∈ c.headers := member
    unfold headers at member
    rw [List.mem_append, List.mem_append] at member
    obtain given | signed | token := member
    · simp only [List.mem_cons, List.not_mem_nil, or_false] at given
      obtain rfl | rfl := given
      · show Unbroken contentType
        decide
      · exact c.unbroken_target plain
    · simp only [List.mem_cons, List.not_mem_nil, or_false] at signed
      obtain rfl | rfl := signed
      · exact c.unbroken_authorization plain year
      · exact stamp
    · cases held : c.credentials.token? with
      | none =>
        rw [held] at token
        cases token
      | some text =>
        rw [held] at token
        obtain rfl := List.mem_singleton.1 token
        exact plain.token text held

section

variable {c} {a : Url.Authority} (authority : c.endpoint.authority? = some a) {r : Received}
  (plain : c.Plain) (year : c.time.FourDigitYear)
  (arrives : Arrives ⟨c.endpoint, c.headers, c.body⟩ r)

include plain year arrives

theorem authorization?_of_arrives : r.authorization? c.credentials.id = some c.said := by
  obtain ⟨value, there, same⟩ := arrives.headers (c.plain_post plain year)
    ("authorization", c.authorization) (by simp [Post.sent, headers])
  have there : r.header? "authorization" = some value := there
  have same : trim value = c.authorization := same.trans c.trim_authorization
  rw [Received.authorization?, there, Option.bind_eq_bind, Option.bind_some, same]
  exact c.read?_authorization year

include authority

theorem received_of_signed {header : String × String} (signed : header ∈ c.canonical.headers) :
    ∃ value, r.header? header.1 = some value ∧ trim value = trim header.2 :=
  arrives.headers (c.plain_post plain year) header (mem_sent authority signed)

/-- The lines of headers that arrived are those of the headers that were signed. -/
theorem lines?_of_arrives (headers : List (String × String))
    (signed : ∀ header ∈ headers, header ∈ c.canonical.headers) :
    r.lines? (headers.map (·.1)) = some (Canonical.headerLines headers) := by
  induction headers with
  | nil => rfl
  | cons header rest ih =>
    obtain ⟨value, there, same⟩ := received_of_signed authority plain year arrives
      (signed header List.mem_cons_self)
    have later := ih fun other member => signed other (List.mem_cons_of_mem _ member)
    rw [List.map_cons, Received.lines?, there, Option.bind_eq_bind, Option.bind_some, later, same]
    rfl

/-- What arrived is brought into the text that was signed. -/
theorem canonical?_of_arrives (query : c.endpoint.query? = none) :
    r.canonical? (c.canonical.headers.map (·.1)) = some c.canonical.text := by
  have sorted : (c.canonical.headers.map (·.1)).mergeSort (fun a b => decide (a ≤ b)) =
      c.canonical.headers.map (·.1) := by
    refine List.mergeSort_of_pairwise ?_
    rw [names_canonical]
    cases c.credentials.token?.isSome <;> decide
  have lines := lines?_of_arrives authority plain year arrives c.canonical.headers
    fun _ member => member
  have path : r.path = c.canonical.rootedPath := arrives.path
  have empty : r.query = "" := by rw [arrives.query, query]; rfl
  have body : r.body = c.canonical.body := arrives.body
  unfold Received.canonical?
  dsimp only
  rw [sorted, lines, arrives.method, path, empty, body]
  refine congrArg some (String.toList_inj.1 ?_)
  simp [Canonical.text, Canonical.signedNames]

/-- The receiver computes the signature that was sent. -/
theorem signature?_of_arrives (query : c.endpoint.query? = none) :
    r.signature? c.credentials.secret c.said = some c.signature := by
  obtain ⟨value, there, same⟩ := received_of_signed authority plain year arrives
    (stamp_mem_headers authority)
  have there : r.header? "x-amz-date" = some value := there
  have same : trim value = c.time.stampText := same.trans (trim_stampText year)
  have canonical : r.canonical? c.said.names = some c.canonical.text :=
    canonical?_of_arrives authority plain year arrives query
  have label : "AWS4-HMAC-SHA256\n" = algorithm ++ "\n" := rfl
  unfold Received.signature?
  rw [there, canonical, label]
  dsimp only [Option.bind_eq_bind, Option.bind_some, Option.pure_def]
  rw [same]
  rfl

end

/-- What a receiver finds out about a request that was sent in this way, whose `authorization`
header says `auth`. -/
structure Verified (c : Sending) (post : Post) (r : Received) (auth : Authorization) : Prop where
  read : r.authorization? c.credentials.id = some auth
  /-- The signature that the receiver computes is the one that was sent. -/
  signature : r.signature? c.credentials.secret auth = some auth.signature
  ascending : auth.names.Pairwise (· < ·)
  names : auth.names = ["content-type", "host", "x-amz-date"] ++
    (if c.credentials.token?.isSome then ["x-amz-security-token"] else []) ++ ["x-amz-target"]
  /-- The named headers are those that were signed, -/
  signed : auth.names = c.canonical.headers.map (·.1)
  /-- and they are sent, and arrive, with the signed values. -/
  sent : ∀ header ∈ c.canonical.headers, header ∈ post.sent ∧
    ∃ value, r.header? header.1 = some value ∧ trim value = trim header.2
  /-- The scope has the date of the stamp. -/
  date : ∃ stamp, r.header? "x-amz-date" = some stamp ∧
    (trim stamp).toList.take 8 = auth.date.toList

theorem verified_of_arrives {c : Sending} {a : Url.Authority}
    (authority : c.endpoint.authority? = some a) (query : c.endpoint.query? = none)
    (plain : c.Plain) (year : c.time.FourDigitYear) {r : Received}
    (arrives : Arrives ⟨c.endpoint, c.headers, c.body⟩ r) :
    c.Verified ⟨c.endpoint, c.headers, c.body⟩ r c.said where
  read := authorization?_of_arrives plain year arrives
  signature := signature?_of_arrives authority plain year arrives query
  ascending := c.ascending_names
  names := c.names_canonical
  signed := rfl
  sent header signed :=
    ⟨mem_sent authority signed, received_of_signed authority plain year arrives signed⟩
  date := by
    obtain ⟨stamp, there, same⟩ := received_of_signed authority plain year arrives
      (stamp_mem_headers authority)
    refine ⟨stamp, there, ?_⟩
    rw [same.trans (trim_stampText year)]
    exact Calendar.take_stampText year (Calendar.proper_ofTimestamp c.now)

end Sending

/-- **Signed requests verify.**  Whoever sends whatever operation with whatever body, in a year of
four digits and without line breaks, to an endpoint that has a host, and neither user info nor a
query, sends a post that can arrive; every request goes out in this way.  However the post arrives,
a receiver that knows the secret computes the signature that was sent, from what arrived and from
the scope that the request names. -/
theorem signatures_verify (c : Sending) {a : Url.Authority} {host : Url.Host}
    (authority : c.endpoint.authority? = some a) (hosted : a.host? = some host)
    (query : c.endpoint.query? = none) (plain : c.Plain) (year : c.time.FourDigitYear) :
    (∀ request : Wire.Request, c.operation = request.operationName →
      c.body = request.toJson.render →
        post c.credentials c.region c.endpoint c.now request = c.post) ∧
    ∃ post, c.post = .ok post ∧ (∃ r, Arrives post r) ∧
      ∀ r, Arrives post r → ∃ auth, c.Verified post r auth := by
  refine ⟨fun request operation body => ?_, _, Sending.post_eq authority hosted,
    ⟨_, arrives_received (Sending.nodup_sent authority)⟩,
    fun r arrives => ⟨c.said, Sending.verified_of_arrives authority query plain year arrives⟩⟩
  rw [Sending.post_request, ← operation, ← body]

/-- A token with a blank after it, a port, and a region that reads as if more parts followed. -/
theorem signatures_verify_oddRegion :
    let c : Sending := ⟨⟨"AKID", "secret", some "token "⟩, "eu/1, Signature=", ⟨"http",
      some ⟨"", "", some (.domain "localhost"), some 8000⟩, "/", none, none⟩, 1767323045, "GetItem",
      "\x7b\x7d"⟩
    c.host = "localhost:8000" ∧ c.time.stampText = "20260102T030405Z" ∧ c.Plain ∧
      ∃ post, c.post = .ok post ∧ (∃ r, Arrives post r) ∧
        ∀ r, Arrives post r → ∃ auth, c.Verified post r auth := by
  intro c
  have plain : c.Plain := by
    refine ⟨fun a there => ?_, by decide, by decide, fun token held => ?_, by decide⟩
    · obtain rfl := Option.some.inj there
      rfl
    · obtain rfl := Option.some.inj held
      decide
  exact ⟨by decide, by decide, plain, (signatures_verify c rfl rfl rfl plain (by decide)).2⟩

end Http

end RecordStore
