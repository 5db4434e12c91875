/-
RecordStore.Proofs.Wire.Loopback -- a server behind protocol JSON

A server that is called directly can be put behind posts: it reads each request
from the operation named in the header and the body, and writes what it answers
(`respond`).  A client that posts to it sees what a direct call gives and leaves
the server in the same state (`serve_loopback`), because both ends recover each
message from its text.  What cannot be said in a response, such as a failure of
the caller to sign, is no answer of a server (`Sendable`).
-/
import Mathlib.Data.List.TakeWhile
import RecordStore.Emulator
import RecordStore.Http
import RecordStore.Proofs.Operation
import RecordStore.Proofs.Wire.Protocol

namespace RecordStore.Wire

set_option autoImplicit false

open RecordStore.Json RecordStore.Signing

/-- A way to order the members of objects when a value is written. -/
structure Scribe where
  arrange : Json → Json
  reorders : ∀ j : Json, j.Reordered (arrange j)

/-- Members as they stand. -/
def Scribe.plain : Scribe := ⟨id, Reordered.refl⟩

def Scribe.text (scribe : Scribe) (j : Json) : String := (scribe.arrange j).render

/-! ## Requests and their answers as messages -/

namespace Request

def kind : Request → Message
  | .read _ => .itemRead
  | .write _ => .itemWrite
  | .batchRead _ => .batchRead
  | .batchWrite _ => .batchWrite

def body : (r : Request) → r.kind.Body
  | .read r => r
  | .write r => r
  | .batchRead r => r
  | .batchWrite r => r

def answerKind : Request → Message
  | .read _ => .itemFound
  | .write _ => .itemWritten
  | .batchRead _ => .batchFound
  | .batchWrite _ => .batchWritten

def answerBody : (r : Request) → r.Response → r.answerKind.Body
  | .read _, response => response
  | .write _, response => response
  | .batchRead _, response => response
  | .batchWrite _, response => response

/-- A request that can be written and read: its maps are in their one form and it does not nest
too deep. -/
structure Fits (r : Request) : Prop where
  canonical : r.kind.Canonical r.body
  shallow : r.toJson.depth ≤ maxLevels

/-- How the body of a post is read, by the operation that its header names. -/
def readers : List (String × Reader Request) := [
  ("DynamoDB_20120810.GetItem", ItemRead.schema.read.map .read),
  ("DynamoDB_20120810.PutItem", ItemWrite.schema.read.map .write),
  ("DynamoDB_20120810.BatchGetItem", BatchRead.schema.read.map .batchRead),
  ("DynamoDB_20120810.BatchWriteItem", BatchWrite.schema.read.map .batchWrite)]

theorem exists_reader {r : Request} (canonical : r.kind.Canonical r.body) :
    ∃ read, readers.lookup (Http.target r) = some read ∧ read.Recovers r.toJson r := by
  have whole := r.kind.recovers canonical
  cases r with
  | read r => exact ⟨_, rfl, whole.map Request.read⟩
  | write r => exact ⟨_, rfl, whole.map Request.write⟩
  | batchRead r => exact ⟨_, rfl, whole.map Request.batchRead⟩
  | batchWrite r => exact ⟨_, rfl, whole.map Request.batchWrite⟩

/-- The request that a post is, if it is one. -/
def ofPost? (post : Http.Post) : Option Request := do
  let read ← readers.lookup (← post.headers.lookup "x-amz-target")
  (read.parse post.body).toOption

theorem ofPost?_post {credentials : Credentials} {region : String} {endpoint : Url}
    {now : Timestamp} {r : Request} (fits : r.Fits) {post : Http.Post}
    (posted : Http.post credentials region endpoint now r = .ok post) : ofPost? post = some r := by
  obtain ⟨read, found, recovers⟩ := exists_reader fits.canonical
  unfold Http.post at posted
  obtain ⟨signed, -, rest⟩ := bind_eq_ok.1 posted
  cases rest
  have parsed := recovers.parse (Reordered.refl _) fits.shallow
  show (readers.lookup (Http.target r)).bind (fun read =>
    (read.parse r.toJson.render).toOption) = _
  rw [found]
  show (read.parse r.toJson.render).toOption = _
  rw [parsed]
  rfl

/-- The answer to a request is recovered by the reader of its answers. -/
theorem recovers_answer {r : Request} {response : r.Response}
    (canonical : r.answerKind.Canonical (r.answerBody response)) :
    r.readResponse.Recovers (r.responseToJson response) response := by
  have whole := r.answerKind.recovers canonical
  cases r <;> exact whole

end Request

/-! ## Refusals as messages -/

theorem code_of_plain {code text : String} (plain : '#' ∉ code.toList) :
    Refusal.code ⟨code, text⟩ = code := by
  have all : code.toList.reverse.takeWhile (· ≠ '#') = code.toList.reverse := by
    rw [List.takeWhile_eq_self_iff]
    intro c member
    rw [List.mem_reverse] at member
    rw [decide_eq_true_eq]
    rintro rfl
    exact plain member
  unfold Refusal.code
  rw [all, List.reverse_reverse, String.ofList_toList]

/-- A refusal as it is written in the body of a response. -/
def Refusal.toJson (r : Refusal) : Json :=
  .object [("__type", .string r.kind), ("message", .string r.text)]

theorem recovers_refusal (r : Refusal) : Refusal.schema.read.Recovers r.toJson r := by
  have text := (recovers_string r.text).map fun text (r : Refusal) => { r with text }
  have whole := Schema.recovers_two Refusal.schema rfl (by decide) rfl
    (Field.recovers_named (recovers_string r.kind)) text fun _ => rfl
  exact whole

/-! ## A server behind posts -/

section

variable {σ : Type}

/-- What a server sends for an outcome.  Failures on the way to a server have no response. -/
def sent (scribe : Scribe) {r : Request} : Except WireError r.Response → Option Http.Response
  | .ok response => some ⟨200, scribe.text (r.responseToJson response)⟩
  | .error (.service status code text) => some ⟨status, scribe.text (Refusal.toJson ⟨code, text⟩)⟩
  | .error _ => none

/-- A server answers a post as it answers the request that the post is. -/
def respond (server : WireClient σ) (scribe : Scribe) (post : Http.Post) (s : σ) :
    Option Http.Response × σ :=
  match Request.ofPost? post with
  | some r =>
    let (outcome, s) := server.serve r s
    (sent scribe outcome, s)
  | none => (some ⟨400, scribe.text (Refusal.toJson ⟨"SerializationException", ""⟩)⟩, s)

/-- The client that posts its requests to a server. -/
def loopback (server : WireClient σ) (scribe : Scribe) (credentials : Credentials)
    (region : String) (endpoint : Url) (now : Timestamp) : WireClient σ where
  serve r s :=
    (Http.exchange credentials region endpoint (fun post => (respond server scribe post s).1) now r,
      match Http.post credentials region endpoint now r with
      | .ok post => (respond server scribe post s).2
      | .error _ => s)

/-- What a server can say in a response, or by sending none. -/
inductive Sendable (r : Request) : Except WireError r.Response → Prop
  | answer (response : r.Response) (canonical : r.answerKind.Canonical (r.answerBody response))
      (shallow : (r.responseToJson response).depth ≤ maxLevels) : Sendable r (.ok response)
  | refusal (status : Nat) (code text : String) (failed : Http.isSuccess status = false)
      (named : code ≠ "") (plain : '#' ∉ code.toList) :
      Sendable r (.error (.service status code text))
  | nothing : Sendable r (.error .network)

/-- What a server sent is understood as what it answered. -/
theorem interpret_sent {r : Request} {outcome : Except WireError r.Response}
    (sendable : Sendable r outcome) (scribe : Scribe) :
    (match sent scribe outcome with
      | some response => Http.interpret r response
      | none => .error .network) = outcome := by
  cases sendable with
  | answer response canonical shallow =>
    have parsed := (Request.recovers_answer canonical).parse
      (scribe.reorders (r.responseToJson response)) shallow
    show (Reader.parse r.readResponse (scribe.text (r.responseToJson response))).mapError
      WireError.serialization = _
    unfold Scribe.text
    rw [parsed]
    rfl
  | refusal status code text failed named plain =>
    have parsed := (recovers_refusal ⟨code, text⟩).parse
      (scribe.reorders (Refusal.toJson ⟨code, text⟩)) (Nat.le_of_ble_eq_true rfl)
    have found : Http.refusalOf? (scribe.text (Refusal.toJson ⟨code, text⟩)) =
        some (code, text) := by
      unfold Http.refusalOf? Scribe.text
      rw [parsed]
      simp [named, code_of_plain plain]
    show Http.interpret r ⟨status, scribe.text (Refusal.toJson ⟨code, text⟩)⟩ = _
    unfold Http.interpret Http.refusal
    rw [failed, found]
    rfl
  | nothing => rfl

/-- A request to an endpoint with a host can be signed. -/
theorem exists_sign (credentials : Credentials) (signable : Signable) {host : String}
    (hosted : hostHeader signable.endpoint = .ok host) (now : Timestamp) :
    ∃ headers, sign credentials signable now = .ok headers := by
  unfold sign
  rw [hosted]
  exact ⟨_, rfl⟩

theorem exists_post (credentials : Credentials) (region : String) {endpoint : Url} {host : String}
    (hosted : hostHeader endpoint = .ok host) (now : Timestamp) (r : Request) :
    ∃ post, Http.post credentials region endpoint now r = .ok post := by
  obtain ⟨headers, signed⟩ := exists_sign credentials
    ⟨region, endpoint, Http.target r, Http.contentType, r.toJson.render.toUTF8.toList⟩ hosted now
  unfold Http.post
  dsimp only
  rw [signed]
  exact ⟨_, rfl⟩

/-- Posting to a server is calling it. -/
theorem serve_loopback {server : WireClient σ} {r : Request} {s : σ} (fits : r.Fits)
    (sendable : Sendable r (server.serve r s).1) (scribe : Scribe) (credentials : Credentials)
    (region : String) {endpoint : Url} {host : String} (hosted : hostHeader endpoint = .ok host)
    (now : Timestamp) :
    (loopback server scribe credentials region endpoint now).serve r s = server.serve r s := by
  obtain ⟨post, posted⟩ := exists_post credentials region hosted now r
  have answered : respond server scribe post s =
      (sent scribe (server.serve r s).1, (server.serve r s).2) := by
    unfold respond
    rw [Request.ofPost?_post fits posted]
  have understood := interpret_sent sendable scribe
  unfold loopback Http.exchange
  dsimp only
  rw [posted]
  apply Prod.ext
  · show (match (respond server scribe post s).1 with
      | some response => Http.interpret r response
      | none => .error .network) = _
    rw [answered]
    exact understood
  · show (respond server scribe post s).2 = _
    rw [answered]

/-- Requests put to a client one after the other. -/
def serveAll (client : WireClient σ) :
    List Request → σ → List ((r : Request) × Except WireError r.Response) × σ
  | [], s => ([], s)
  | r :: rest, s =>
    let (outcome, s) := client.serve r s
    let (outcomes, s) := serveAll client rest s
    (⟨r, outcome⟩ :: outcomes, s)

/-- All that is asked and answered can be said in protocol JSON. -/
inductive Expressible (server : WireClient σ) : List Request → σ → Prop
  | nil (s : σ) : Expressible server [] s
  | cons {r : Request} {rest : List Request} {s : σ} (fits : r.Fits)
      (sendable : Sendable r (server.serve r s).1)
      (later : Expressible server rest (server.serve r s).2) : Expressible server (r :: rest) s

theorem serveAll_loopback {server : WireClient σ} {requests : List Request} {s : σ}
    (expressible : Expressible server requests s) (scribe : Scribe) (credentials : Credentials)
    (region : String) {endpoint : Url} {host : String} (hosted : hostHeader endpoint = .ok host)
    (now : Timestamp) :
    serveAll (loopback server scribe credentials region endpoint now) requests s =
      serveAll server requests s := by
  induction expressible with
  | nil s => rfl
  | @cons r rest s fits sendable _ ih =>
    have one := serve_loopback fits sendable scribe credentials region hosted now
    unfold serveAll
    rw [one]
    generalize server.serve r s = reached at ih
    obtain ⟨outcome, next⟩ := reached
    dsimp only at ih ⊢
    rw [ih]

end

/-! ## The protocol as a whole -/

/-- A message of any kind is read back from its text, with the members of its objects in any order,
when it nests at most 127 levels; messages of one kind that differ have different texts; and requests
posted to a server as JSON are answered as requests put to it directly. -/
theorem protocol_roundtrip :
    (∀ (m : Message) (x : m.Body), m.Canonical x → (m.toJson x).depth ≤ 127 →
      ∀ j, (m.toJson x).Reordered j → m.schema.read.parse j.render = .ok x) ∧
    (∀ (m : Message) (x y : m.Body), m.Canonical x → m.Canonical y →
      ∀ j j', (m.toJson x).Reordered j → (m.toJson y).Reordered j' → j.render = j'.render →
        x = y) ∧
    (∀ {σ : Type} (server : WireClient σ) (requests : List Request) (s : σ),
      Expressible server requests s →
      ∀ (scribe : Scribe) (credentials : Credentials) (region : String) (endpoint : Url)
        (host : String), hostHeader endpoint = .ok host → ∀ now : Timestamp,
        serveAll (loopback server scribe credentials region endpoint now) requests s =
          serveAll server requests s) := by
  refine ⟨?_, ?_, ?_⟩
  · intro m x canonical fits j same
    exact (m.recovers canonical).parse same fits
  · intro m x y first second j j' same same' text
    exact (m.recovers first).unique (m.recovers second) same same' text
  · intro σ server requests s expressible scribe credentials region endpoint host hosted now
    exact serveAll_loopback expressible scribe credentials region hosted now

/-- An item with a list that holds a map and a text with characters that are escaped. -/
def nestedItem : Item :=
  (∅ : Item).insert "a" (.list [.map [("b", .null true), ("c", .list [])], .string "\"\\"])

theorem canonical_nestedItem : Item.Canonical nestedItem := by
  intro e member
  rw [show nestedItem.entries =
    [("a", .list [.map [("b", .null true), ("c", .list [])], .string "\"\\"])] by rfl,
    List.mem_singleton] at member
  subst member
  apply AttributeValue.Canonical.list
  intro v member
  rcases List.mem_pair.1 member with rfl | rfl
  · apply AttributeValue.Canonical.map
    · exact List.pairwise_pair.2 (by decide)
    · intro e member
      rcases List.mem_pair.1 member with rfl | rfl
      · exact .null true
      · exact .list [] nofun
  · exact .string _

theorem canonical_keyItem (key : String) : Item.Canonical (keyItem key) := by
  intro e member
  rw [List.mem_singleton.1 member]
  exact .string key

/-- A request with its members the other way round, its text against that of another request, and a
write and a read of what it wrote, posted to an emulator. -/
theorem protocol_roundtrip_nested :
    ItemRead.schema.read.parse (Json.object
        [("Key", Item.toJson nestedItem), ("TableName", .string "t")]).render =
      .ok ⟨"t", nestedItem⟩ ∧
    (ItemRead.toJson ⟨"t", nestedItem⟩).render ≠ (ItemRead.toJson ⟨"t", keyItem "k"⟩).render ∧
    serveAll (loopback Emulator.client .plain ⟨"id", "secret", none⟩ "us-east-1"
        ⟨"http", some ⟨"", "", some (.domain "localhost"), none⟩, "/", none, none⟩ 0)
        [.write ⟨"t", keyItem "k"⟩, .read ⟨"t", keyItem "k"⟩] (.empty 0) =
      serveAll Emulator.client [.write ⟨"t", keyItem "k"⟩, .read ⟨"t", keyItem "k"⟩] (.empty 0) := by
  have nested : Message.itemRead.Canonical ⟨"t", nestedItem⟩ :=
    Message.canonical_of_items rfl canonical_nestedItem
  have flat : Message.itemRead.Canonical ⟨"t", keyItem "k"⟩ :=
    Message.canonical_of_items rfl (canonical_keyItem "k")
  refine ⟨?_, ?_, ?_⟩
  · refine protocol_roundtrip.1 .itemRead ⟨"t", nestedItem⟩ nested (by decide) _ ?_
    exact .object (.swap _ _ _) (ReorderedMembers.refl _)
  · intro same
    have equal := protocol_roundtrip.2.1 .itemRead _ _ nested flat _ _ (Reordered.refl _)
      (Reordered.refl _) same
    exact absurd equal (by decide)
  · refine protocol_roundtrip.2.2 _ _ _ ?_ _ _ _ _ "localhost" rfl 0
    have written : Sendable (.write ⟨"t", keyItem "k"⟩) (.ok ItemWritten.mk) :=
      .answer _ nofun (by decide)
    have found : Sendable (.read ⟨"t", keyItem "k"⟩) (.ok (ItemFound.mk (some (keyItem "k")))) :=
      .answer _ (Message.canonical_of_items rfl (canonical_keyItem "k")) (by decide)
    have write : Request.Fits (.write ⟨"t", keyItem "k"⟩) :=
      ⟨Message.canonical_of_items rfl (canonical_keyItem "k"), by decide⟩
    exact .cons write written (.cons ⟨flat, by decide⟩ found (.nil _))

end RecordStore.Wire
