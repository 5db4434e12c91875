/-
RecordStore.Proofs.Wire.Refusal -- how a response ends a request

A response to a request is a success or a refusal by its status alone
(`Http.Concluded`).  A refusal has the code that its body names, the last part of
the kind, and the text beside it (`Refusal.code_lastPart`), whichever of its two
names the text has and in whatever order the members stand (`Refusal.parse_members`).
Where the body names no kind, the code is made of the status and the text is the
whole body.  A kind that ends with its separator is a kind all the same, so its
code is empty (`Http.refusal_emptyCode`).
-/
import RecordStore.Proofs.Wire.Loopback

namespace RecordStore

set_option autoImplicit false

open RecordStore.Json RecordStore.Signing RecordStore.Wire

namespace Wire.Refusal

/-! ## Codes -/

/-- What stands after the last number sign of a kind, or all of it. -/
inductive LastPart : (kind code : String) → Prop
  | whole {kind : String} (plain : '#' ∉ kind.toList) : LastPart kind kind
  | after (before : String) {code : String} (plain : '#' ∉ code.toList) :
      LastPart (before ++ "#" ++ code) code

theorem LastPart.plain {kind code : String} (last : LastPart kind code) : '#' ∉ code.toList := by
  cases last with
  | whole plain => exact plain
  | after before plain => exact plain

/-- Of a kind that says something only one that ends with a number sign has nothing after it. -/
theorem LastPart.eq_empty {kind code : String} (last : LastPart kind code) (named : kind ≠ "") :
    code = "" ↔ ∃ before, kind = before ++ "#" := by
  cases last with
  | whole plain =>
    constructor
    · intro empty
      exact absurd empty named
    · rintro ⟨before, rfl⟩
      simp at plain
  | after before plain =>
    constructor
    · rintro rfl
      exact ⟨before, by simp⟩
    · rintro ⟨other, same⟩
      have chars := congrArg (fun s => s.toList.reverse.head?) same
      rw [String.ext_iff]
      cases shape : code.toList.reverse with
      | nil => simpa using shape
      | cons c rest =>
        have last : c = '#' := by simpa [shape] using chars
        have member : c ∈ code.toList := by
          rw [← List.mem_reverse, shape]
          exact List.mem_cons_self
        exact absurd (last ▸ member) plain

theorem code_lastPart (r : Refusal) : LastPart r.kind r.code := by
  obtain ⟨kind, text⟩ := r
  by_cases sign : '#' ∈ kind.toList
  · obtain ⟨part, before, shape, plain⟩ :=
      List.eq_append_cons_of_mem (List.mem_reverse.2 sign)
    have code : Refusal.code ⟨kind, text⟩ = .ofList part.reverse := by
      have unsigned : ∀ c ∈ part, decide (c ≠ '#') = true := fun c member =>
        decide_eq_true fun same => plain (same ▸ member)
      unfold Refusal.code
      dsimp only
      rw [shape, List.takeWhile_append_of_pos unsigned]
      simp
    have whole : kind = .ofList before.reverse ++ "#" ++ .ofList part.reverse := by
      apply String.toList_injective
      rw [← List.reverse_inj, shape]
      simp
    rw [code]
    show LastPart kind _
    rw [whole]
    exact .after _ (by simpa using plain)
  · rw [code_of_plain sign]
    exact .whole sign

/-! ## Bodies -/

/-- The members that a refusal is written with.  The text may be left out when it is empty, and goes
by either of two names. -/
inductive Members : Refusal → List (String × Json) → Prop
  | kind (kind : String) : Members ⟨kind, ""⟩ [("__type", .string kind)]
  | whole (kind text : String) {name : String} (named : name = "message" ∨ name = "Message") :
      Members ⟨kind, text⟩ [("__type", .string kind), (name, .string text)]

/-- The member that sets the kind. -/
def kindAssignment (kind : String) : Assignment Refusal where
  field := .named "__type" false readString fun kind r => { r with kind }
  json := .string kind
  set r := { r with kind }

/-- The member that sets the text. -/
def textAssignment (text : String) : Assignment Refusal where
  field := { name := "message", aliases := ["Message"], required := false,
             read := readString.map fun text r => { r with text } }
  json := .string text
  set r := { r with text }

theorem sets_kind (kind : String) : schema.Sets ("__type", .string kind) (kindAssignment kind) := by
  have taken := (recovers_string kind).map fun kind (r : Refusal) => { r with kind }
  exact ⟨rfl, taken _ (.string kind)⟩

theorem sets_text (text : String) {name : String} (named : name = "message" ∨ name = "Message") :
    schema.Sets (name, .string text) (textAssignment text) := by
  have taken := (recovers_string text).map fun text (r : Refusal) => { r with text }
  refine ⟨?_, taken _ (.string text)⟩
  rcases named with rfl | rfl <;> rfl

/-- The members set the fields of the refusal, each one of its own. -/
theorem Members.exists_assigned {r : Refusal} {members : List (String × Json)}
    (written : r.Members members) :
    ∃ assigned : List (Assignment Refusal), List.Forall₂ schema.Sets members assigned ∧
      (assigned.map Assignment.name).Nodup ∧
      (∀ a ∈ assigned, ∀ b ∈ assigned, ∀ x, b.set (a.set x) = a.set (b.set x)) ∧
      assigned.foldl (fun x a => a.set x) schema.default = r := by
  cases written with
  | kind kind =>
    refine ⟨[kindAssignment kind], .cons (sets_kind kind) .nil, by simp, ?_, rfl⟩
    simp
  | whole kind text named =>
    refine ⟨[kindAssignment kind, textAssignment text],
      .cons (sets_kind kind) (.cons (sets_text text named) .nil), ?_, ?_, rfl⟩
    · simp [Assignment.name, kindAssignment, textAssignment, Field.named]
    · simp [kindAssignment, textAssignment]

theorem Members.depth {r : Refusal} {members : List (String × Json)} (written : r.Members members) :
    (Json.object members).depth = 1 := by
  cases written <;> rfl

/-- A refusal is read from its members in any order. -/
theorem parse_members {r : Refusal} {members shuffled : List (String × Json)}
    (written : r.Members members) (perm : shuffled.Perm members) :
    schema.read.parse (Json.object shuffled).render = .ok r := by
  obtain ⟨assigned, each, distinct, commute, rfl⟩ := written.exists_assigned
  obtain ⟨moved, each, perm'⟩ := List.perm_comp_forall₂ perm each
  have distinct' : (moved.map Assignment.name).Nodup := (perm'.map _).nodup_iff.2 distinct
  have optional : ∀ f ∈ schema.fields, f.required = false := by
    simp [schema, Field.named]
  have takes := schema.takes_members each distinct' fun f member required => by
    rw [optional f member] at required
    cases required
  have flat : (Json.object shuffled).depth = 1 :=
    (congrArg (· + 1) (depthMembers_perm perm).symm).trans written.depth
  rw [perm'.symm.foldl_eq' commute]
  exact takes.parse (flat ▸ Nat.le_of_ble_eq_true rfl)

end Wire.Refusal

/-! ## Responses -/

namespace Http

/-- The body reads as a refusal whose kind says something. -/
def Names (text : String) (refusal : Refusal) : Prop :=
  Refusal.schema.read.parse text = .ok refusal ∧ refusal.kind ≠ ""

theorem Names.unique {text : String} {refusal other : Refusal} (names : Names text refusal)
    (names' : Names text other) : other = refusal :=
  Except.ok.inj (names'.1.symm.trans names.1)

theorem refusalOf?_of_names {text : String} {refusal : Refusal} (names : Names text refusal) :
    refusalOf? text = some (refusal.code, refusal.text) := by
  unfold refusalOf?
  rw [names.1]
  simp [names.2]

theorem refusalOf?_eq_none {text : String} (nothing : ∀ refusal, ¬ Names text refusal) :
    refusalOf? text = none := by
  unfold refusalOf?
  split
  · next refusal reads =>
    have empty : refusal.kind = "" := by
      by_contra named
      exact nothing refusal ⟨reads, named⟩
    simp [empty]
  · rfl

/-- A body that names a kind is a refusal with its code and its text. -/
theorem interpret_of_names {r : Request} {response : Response} {refusal : Refusal}
    (failed : isSuccess response.status = false) (names : Names response.text refusal) :
    interpret r response = .error (.service response.status refusal.code refusal.text) := by
  rw [interpret, failed, Http.refusal, refusalOf?_of_names names]
  rfl

/-- Where a request can be signed, the response that comes back is all that counts. -/
theorem exchange_eq_interpret {endpoint : Url} {host : String}
    (hosted : hostHeader endpoint = .ok host) (credentials : Credentials) (region : String)
    (now : Timestamp) (r : Request) (response : Response) :
    exchange credentials region endpoint (fun _ => some response) now r = interpret r response := by
  obtain ⟨post, posted⟩ := exists_post credentials region hosted now r
  unfold exchange
  rw [posted]
  rfl

/-- How a response ends a request: with what it holds, or with why that cannot be read, and without
success as a refusal, with the code and the text that the body names, or with the status and the
whole body where it names none. -/
inductive Concluded (r : Request) (response : Response) : Except WireError r.Response → Prop
  | answered {answer : r.Response} (success : isSuccess response.status = true)
      (reads : Json.Reader.parse r.readResponse response.text = .ok answer) :
      Concluded r response (.ok answer)
  | unreadable {cause : Json.Cause} (success : isSuccess response.status = true)
      (reads : Json.Reader.parse r.readResponse response.text = .error cause) :
      Concluded r response (.error (.serialization cause))
  | named {refusal : Refusal} {code : String} (failed : isSuccess response.status = false)
      (names : Names response.text refusal) (last : Refusal.LastPart refusal.kind code) :
      Concluded r response (.error (.service response.status code refusal.text))
  | unnamed (failed : isSuccess response.status = false)
      (nothing : ∀ refusal, ¬ Names response.text refusal) :
      Concluded r response (.error (.service response.status
        ("HTTP " ++ Number.integerText response.status) response.text))

theorem concluded_interpret (r : Request) (response : Response) :
    Concluded r response (interpret r response) := by
  unfold interpret
  split
  · next success =>
    cases reads : Json.Reader.parse r.readResponse response.text with
    | ok answer => exact .answered success reads
    | error cause => exact .unreadable success reads
  · next failure =>
    have failed := eq_false_of_ne_true failure
    by_cases named : ∃ refusal, Names response.text refusal
    · obtain ⟨refusal, names⟩ := named
      rw [Http.refusal, refusalOf?_of_names names]
      exact .named failed names refusal.code_lastPart
    · have nothing := not_exists.1 named
      rw [Http.refusal, refusalOf?_eq_none nothing]
      exact .unnamed failed nothing

/-- A code has no number sign, and is empty exactly where the kind that the body names ends with
one. -/
theorem Concluded.code {r : Request} {response : Response} {status : Nat} {code text : String}
    (concluded : Concluded r response (.error (.service status code text))) :
    '#' ∉ code.toList ∧ (code = "" ↔
      ∃ refusal before, Names response.text refusal ∧ refusal.kind = before ++ "#") := by
  cases concluded with
  | @named refusal code failed names last =>
    refine ⟨last.plain, (last.eq_empty names.2).trans ?_⟩
    constructor
    · rintro ⟨before, ends⟩
      exact ⟨refusal, before, names, ends⟩
    · rintro ⟨other, before, names', ends⟩
      rw [names.unique names'] at ends
      exact ⟨before, ends⟩
  | unnamed failed nothing =>
    have plain : '#' ∉ (Number.integerText response.status).toList := by
      have positive : ¬ (response.status : Int) < 0 := by omega
      rw [Number.integerText, if_neg positive, String.toList_ofList]
      exact fun member => absurd (Number.isDigit_of_mem_digits member) (by decide)
    constructor
    · simpa using plain
    · constructor
      · intro empty
        simp at empty
      · rintro ⟨refusal, -, names, -⟩
        exact absurd names (nothing refusal)

/-- **How a response ends a request.**  Whatever the status and the body of the last response, the
request is concluded by them.  The code of a refusal is empty only where the kind that the body names
ends with a number sign, and a refusal that is written with a kind is understood as it was written. -/
theorem response_concludes {endpoint : Url} {host : String}
    (hosted : hostHeader endpoint = .ok host) (credentials : Credentials) (region : String)
    (now : Timestamp) (r : Request) (response : Response) :
    let ended := exchange credentials region endpoint (fun _ => some response) now r
    Concluded r response ended ∧
      (∀ status code text, ended = .error (.service status code text) →
        '#' ∉ code.toList ∧ (code = "" ↔
          ∃ refusal before, Names response.text refusal ∧ refusal.kind = before ++ "#")) ∧
      ∀ (refusal : Refusal) (members shuffled : List (String × Json)), refusal.Members members →
        shuffled.Perm members → response.text = (Json.object shuffled).render →
        refusal.kind ≠ "" → isSuccess response.status = false →
        ended = .error (.service response.status refusal.code refusal.text) := by
  intro ended
  have reached : ended = interpret r response :=
    exchange_eq_interpret hosted credentials region now r response
  have concluded : Concluded r response ended := reached ▸ concluded_interpret r response
  refine ⟨concluded, ?_, ?_⟩
  · intro status code text refused
    rw [refused] at concluded
    exact concluded.code
  · intro refusal members shuffled written perm body named failed
    have reads := Refusal.parse_members written perm
    rw [← body] at reads
    exact reached.trans (interpret_of_names failed ⟨reads, named⟩)

/-- A refusal with its text first and under its other name. -/
theorem response_concludes_notFound :
    let endpoint : Url := ⟨"http", some ⟨"", "", some (.domain "localhost"), none⟩, "/", none, none⟩
    let body := (Json.object [("Message", .string "no table"),
      ("__type", .string "com.amazonaws.dynamodb.v20120810#ResourceNotFoundException")]).render
    hostHeader endpoint = .ok "localhost" ∧
      exchange ⟨"id", "secret", none⟩ "us-west-2" endpoint (fun _ => some ⟨400, body⟩) 0
          (.read ⟨"t", keyItem "k"⟩) =
        .error (.service 400 "ResourceNotFoundException" "no table") := by
  intro endpoint body
  have hosted : hostHeader endpoint = .ok "localhost" := rfl
  obtain ⟨-, -, understood⟩ := response_concludes hosted ⟨"id", "secret", none⟩ "us-west-2" 0
    (.read ⟨"t", keyItem "k"⟩) ⟨400, body⟩
  refine ⟨hosted, ?_⟩
  exact understood ⟨"com.amazonaws.dynamodb.v20120810#ResourceNotFoundException", "no table"⟩ _ _
    (.whole _ _ (.inr rfl)) (.swap _ _ _) rfl (by decide) rfl

/-- The kind of this body says something, but nothing after its number sign: the request is refused
with an empty code, and not with the status and the whole body. -/
theorem refusal_emptyCode :
    let endpoint : Url := ⟨"http", some ⟨"", "", some (.domain "localhost"), none⟩, "/", none, none⟩
    let body := (Json.object [("__type", .string "a#"), ("message", .string "no table")]).render
    let ended := exchange ⟨"id", "secret", none⟩ "us-west-2" endpoint (fun _ => some ⟨400, body⟩) 0
      (.read ⟨"t", keyItem "k"⟩)
    ended = .error (.service 400 "" "no table") ∧
      (¬ ∃ code text, ended = .error (.service 400 code text) ∧ code ≠ "") ∧
      ended ≠ .error (.service 400 "HTTP 400" body) := by
  intro endpoint body ended
  have hosted : hostHeader endpoint = .ok "localhost" := rfl
  have names : Names body ⟨"a#", "no table"⟩ :=
    ⟨Refusal.parse_members (.whole _ _ (.inl rfl)) (.refl _), by decide⟩
  have code : Refusal.code ⟨"a#", "no table"⟩ = "" := by decide
  have refused : ended = .error (.service 400 "" "no table") := by
    rw [← code]
    have failed : isSuccess 400 = false := by decide
    exact (exchange_eq_interpret hosted _ _ _ _ _).trans (interpret_of_names failed names)
  clear_value ended
  subst refused
  refine ⟨rfl, ?_, ?_⟩
  · rintro ⟨code, text, same, some_⟩
    cases same
    exact some_ rfl
  · intro same
    have code := (WireError.service.inj (Except.error.inj same)).2.1
    exact absurd code (by decide)

end Http

end RecordStore
