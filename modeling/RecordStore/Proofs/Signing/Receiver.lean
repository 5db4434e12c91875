/-
RecordStore.Proofs.Signing.Receiver -- how a signed request is checked

A receiver has nothing but the request as it arrived, and the secret that belongs
to the identity of the sender.  It takes the scope of the signature, the names of
the signed headers and the signature from the `authorization` header, brings what
it received into one text, and derives the key for the scope.  A request is taken
to arrive with the headers that it was sent with, up to blanks around their
values, and with the host of its URL (`Arrives`); there may be other headers.
-/
import RecordStore.Http

namespace RecordStore

set_option autoImplicit false

open RecordStore.Text

/-! ## Arrival -/

/-- The text is a single line. -/
def Text.Unbroken (s : String) : Prop := '\n' ∉ s.toList ∧ '\r' ∉ s.toList

/-- A request as it arrives. -/
structure Received where
  method : String
  path : String
  query : String
  headers : List (String × String)
  body : List UInt8

def Received.header? (r : Received) (name : String) : Option String := r.headers.lookup name

namespace Http

/-- The headers of a post with that of its host, which the transport adds. -/
def Post.sent (post : Post) : List (String × String) :=
  (match post.url.authority? with
    | some a => [("host", Url.hostAndPort a.host? a.port?)]
    | none => [])
    ++ post.headers

/-- The post has no header that the transport would refuse or replace: a value with a line break
cannot be sent, and user info would be sent as an `authorization`. -/
structure Post.Plain (post : Post) : Prop where
  anonymous : ∀ a, post.url.authority? = some a → a.userinfo = ""
  unbroken : ∀ header ∈ post.headers, Unbroken header.2

/-- The post arrives as this request. -/
structure Arrives (post : Post) (r : Received) : Prop where
  method : r.method = "POST"
  path : r.path = if post.url.path.isEmpty then "/" else post.url.path
  query : r.query = post.url.query?.getD ""
  body : r.body = post.body.toUTF8.toList
  headers : post.Plain → ∀ header ∈ post.sent, ∃ value, r.header? header.1 = some value ∧
    trim value = trim header.2

/-- The post as it was sent. -/
def Post.received (post : Post) : Received where
  method := "POST"
  path := if post.url.path.isEmpty then "/" else post.url.path
  query := post.url.query?.getD ""
  headers := post.sent
  body := post.body.toUTF8.toList

/-- A post arrives as it was sent, if no header is sent twice. -/
theorem arrives_received {post : Post} (distinct : (post.sent.map (·.1)).Nodup) :
    Arrives post post.received where
  method := rfl
  path := rfl
  query := rfl
  body := rfl
  headers _ header member := by
    have found (headers : List (String × String)) (distinct : (headers.map (·.1)).Nodup)
        (member : header ∈ headers) : headers.lookup header.1 = some header.2 := by
      induction headers with
      | nil => cases member
      | cons first rest ih =>
        obtain ⟨fresh, distinct⟩ := List.nodup_cons.1 distinct
        rcases List.mem_cons.1 member with rfl | later
        · exact List.lookup_cons_self
        · have ne : (header.1 == first.1) = false := beq_false_of_ne fun same =>
            fresh (List.mem_map.2 ⟨header, later, same⟩)
          rw [List.lookup_cons, ne]
          exact ih distinct later
    exact ⟨header.2, found post.sent distinct member, rfl⟩

end Http

namespace Signing

/-! ## Reading -/

/-- What stands before and after the first separator. -/
def cut? (separator : Char) : List Char → Option (List Char × List Char)
  | [] => none
  | c :: rest =>
    if c = separator then some ([], rest)
    else (cut? separator rest).map fun parts => (c :: parts.1, parts.2)

/-- What stands before and after the last separator. -/
def cutLast? (separator : Char) (cs : List Char) : Option (List Char × List Char) :=
  (cut? separator cs.reverse).map fun parts => (parts.2.reverse, parts.1.reverse)

/-- What follows a text. -/
def after? : (start cs : List Char) → Option (List Char)
  | [], cs => some cs
  | c :: start, d :: cs => if c = d then after? start cs else none
  | _ :: _, [] => none

theorem cut?_append {separator : Char} {before : List Char} (absent : separator ∉ before)
    (rest : List Char) : cut? separator (before ++ separator :: rest) = some (before, rest) := by
  induction before with
  | nil => exact if_pos rfl
  | cons c before ih =>
    have ne : c ≠ separator := fun same => absent (same ▸ List.mem_cons_self)
    rw [List.cons_append, cut?, if_neg ne, ih fun member => absent (List.mem_cons_of_mem c member)]
    rfl

theorem cutLast?_append {separator : Char} {rest : List Char} (absent : separator ∉ rest)
    (before : List Char) :
    cutLast? separator (before ++ separator :: rest) = some (before, rest) := by
  have absent' : separator ∉ rest.reverse := fun member => absent (List.mem_reverse.1 member)
  rw [cutLast?, List.reverse_append, List.reverse_cons, List.append_assoc, List.singleton_append,
    cut?_append absent' before.reverse]
  simp

theorem after?_append (start cs : List Char) : after? start (start ++ cs) = some cs := by
  induction start with
  | nil => rfl
  | cons c start ih => rw [List.cons_append, after?, if_pos rfl, ih]

/-- What the `authorization` header says: the scope of the signature, as a whole and by its parts,
the signed headers, and the signature. -/
structure Authorization where
  scope : String
  date : String
  region : String
  service : String
  terminator : String
  names : List String
  signature : String

/-- The header value is read from its end on, because nothing is known of the region. -/
def Authorization.read? (id text : String) : Option Authorization := do
  let (rest, signature) ← cutLast? ',' text.toList
  let signature ← after? " Signature=".toList signature
  let (credential, names) ← cutLast? ',' rest
  let names ← after? " SignedHeaders=".toList names
  let scope ← after? ("AWS4-HMAC-SHA256 Credential=" ++ id ++ "/").toList credential
  let (date, rest) ← cut? '/' scope
  let (rest, terminator) ← cutLast? '/' rest
  let (region, service) ← cutLast? '/' rest
  return ⟨.ofList scope, .ofList date, .ofList region, .ofList service, .ofList terminator,
    (names.splitOn ';').map .ofList, .ofList signature⟩

/-- A header value is read by its parts, whatever the identity and the region are. -/
theorem Authorization.read?_eq {id text : String}
    {date region service terminator names signature : List Char} (dates : '/' ∉ date)
    (services : '/' ∉ service) (terminators : '/' ∉ terminator) (lists : ',' ∉ names)
    (signatures : ',' ∉ signature)
    (written : text.toList = ("AWS4-HMAC-SHA256 Credential=" ++ id ++ "/").toList ++
      (date ++ '/' :: ((region ++ '/' :: service) ++ '/' :: terminator)) ++
        ',' :: (" SignedHeaders=".toList ++ names) ++ ',' :: (" Signature=".toList ++ signature)) :
    read? id text = some
      ⟨.ofList (date ++ '/' :: ((region ++ '/' :: service) ++ '/' :: terminator)), .ofList date,
      .ofList region, .ofList service, .ofList terminator, (names.splitOn ';').map .ofList,
      .ofList signature⟩ := by
  have label : ',' ∉ " SignedHeaders=".toList ∧ ',' ∉ " Signature=".toList := by decide
  have signatures : ',' ∉ " Signature=".toList ++ signature := by
    rw [List.mem_append]
    exact not_or.2 ⟨label.2, signatures⟩
  have lists : ',' ∉ " SignedHeaders=".toList ++ names := by
    rw [List.mem_append]
    exact not_or.2 ⟨label.1, lists⟩
  simp only [read?, written, cutLast?_append signatures, cutLast?_append lists,
    cut?_append dates, cutLast?_append terminators, cutLast?_append services, after?_append,
    Option.bind_eq_bind, Option.bind_some, Option.pure_def]

end Signing

/-! ## Checking -/

namespace Received

open RecordStore.Signing

def authorization? (r : Received) (id : String) : Option Authorization := do
  Authorization.read? id (trim (← r.header? "authorization"))

/-- The lines of headers. -/
def lines? (r : Received) : List String → Option String
  | [] => some ""
  | name :: rest => do return name ++ ":" ++ trim (← r.header? name) ++ "\n" ++ (← r.lines? rest)

/-- What arrived as one text. -/
def canonical? (r : Received) (names : List String) : Option String := do
  let names := names.mergeSort fun a b => decide (a ≤ b)
  return r.method ++ "\n" ++ r.path ++ "\n" ++ r.query ++ "\n" ++ (← r.lines? names) ++ "\n"
    ++ ";".intercalate names ++ "\n" ++ hexDigest r.body

/-- The signature that the request must have. -/
def signature? (r : Received) (secret : String) (a : Authorization) : Option String := do
  let stamp := trim (← r.header? "x-amz-date")
  let canonical ← r.canonical? a.names
  let text := "AWS4-HMAC-SHA256\n" ++ stamp ++ "\n" ++ a.scope ++ "\n"
    ++ hexDigest canonical.toUTF8.toList
  let key := [a.date, a.region, a.service, a.terminator].foldl
    (fun key part => Sha256.keyed key part.toUTF8.toList) ("AWS4" ++ secret).toUTF8.toList
  return Hex.ofBytes (Sha256.keyed key text.toUTF8.toList)

end Received

end RecordStore
