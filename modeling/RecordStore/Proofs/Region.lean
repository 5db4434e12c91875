/-
RecordStore.Proofs.Region -- which region is used

A region may be named in settings and in two variables of the environment, and there
is a last resort (`Settings.sources`).  The first source that names one is used, but
for an empty first variable, behind which the second one is not seen
(`Settings.Hidden`).  The region that comes out is never empty, so it stays the same
when it is resolved again (`Builder.region_ofSettings`), and it is the one region of
a remote service: that of its regional endpoint and of its signatures
(`region_resolution`).
-/
import RecordStore.Builder
import RecordStore.Proofs.Url.RegionalHost

namespace RecordStore

set_option autoImplicit false

open RecordStore.Signing

/-! ## Sources -/

namespace Settings

/-- Where a region may be named, in order. -/
def sources (region? : Option String) (env : Environment) : List (Option String) :=
  [region?, env.text? "AWS_REGION", env.text? "AWS_DEFAULT_REGION"]

/-- The region of the first source that names one; an empty text names none. -/
def firstNamed? (sources : List (Option String)) : Option String :=
  sources.findSome? (·.filter fun s => !s.isEmpty)

/-- No region is configured, and the first variable is set to the empty text. -/
def Hidden (region? : Option String) (env : Environment) : Prop :=
  (region?.filter fun s => !s.isEmpty) = none ∧ env.text? "AWS_REGION" = some ""

theorem firstNamed?_cons (source : Option String) (rest : List (Option String)) :
    firstNamed? (source :: rest) = (source.filter fun s => !s.isEmpty).or (firstNamed? rest) := by
  unfold firstNamed?
  rw [List.findSome?_cons]
  cases source.filter fun s => !s.isEmpty <;> rfl

theorem environmentRegion?_of_empty {env : Environment}
    (empty : env.text? "AWS_REGION" = some "") : environmentRegion? env = none := by
  rw [environmentRegion?, empty]
  rfl

theorem environmentRegion?_eq {env : Environment} (shown : env.text? "AWS_REGION" ≠ some "") :
    environmentRegion? env =
      firstNamed? [env.text? "AWS_REGION", env.text? "AWS_DEFAULT_REGION"] := by
  rw [firstNamed?_cons, firstNamed?_cons, environmentRegion?]
  cases first : env.text? "AWS_REGION" with
  | none => simp [firstNamed?]
  | some s =>
    have some_ : s ≠ "" := fun empty => shown (by rw [first, empty])
    have kept : (some s).filter (fun s => !s.isEmpty) = some s := by simp [some_]
    rw [Option.some_or, kept, Option.some_or]

theorem environmentRegion?_ne_empty {env : Environment} {region : String}
    (named : environmentRegion? env = some region) : region ≠ "" := by
  have kept := (Option.filter_eq_some_iff.1 named).2
  rintro rfl
  cases kept

/-- Which region is used. -/
structure Resolves (region? : Option String) (env : Environment) (region : String) : Prop where
  some_ : region ≠ ""
  named : ¬ Hidden region? env →
    region = (firstNamed? (sources region? env)).getD defaultRegion
  /-- Behind an empty first variable the second one is not seen. -/
  hidden : Hidden region? env → region = defaultRegion

theorem resolveRegion_ne_empty (region? : Option String) (env : Environment) :
    resolveRegion region? env ≠ "" := by
  unfold resolveRegion
  cases configured : region?.filter fun s => !s.isEmpty with
  | some region =>
    have kept := (Option.filter_eq_some_iff.1 configured).2
    rintro rfl
    cases kept
  | none =>
    rw [Option.none_or]
    cases named : environmentRegion? env with
    | none => decide
    | some region => exact environmentRegion?_ne_empty named

theorem resolves_resolveRegion (region? : Option String) (env : Environment) :
    Resolves region? env (resolveRegion region? env) where
  some_ := resolveRegion_ne_empty region? env
  named shown := by
    rw [resolveRegion, sources, firstNamed?_cons]
    cases configured : region?.filter fun s => !s.isEmpty with
    | some region => rfl
    | none =>
      rw [environmentRegion?_eq fun empty => shown ⟨configured, empty⟩]
  hidden hidden := by
    rw [resolveRegion, hidden.1, environmentRegion?_of_empty hidden.2]
    rfl

/-- A region that is named is used. -/
theorem resolveRegion_some {region : String} (some_ : region ≠ "") (env : Environment) :
    resolveRegion (some region) env = region := by
  have kept : (some region).filter (fun s => !s.isEmpty) = some region := by simp [some_]
  rw [resolveRegion, kept, Option.some_or, Option.getD_some]

/-- Settings of the environment name the region that the environment gives. -/
theorem resolvedRegion_ofEnvironment (env : Environment) :
    (ofEnvironment env).1.resolvedRegion env = resolveRegion none env := by
  show resolveRegion (environmentRegion? env) env = resolveRegion none env
  cases named : environmentRegion? env with
  | none => rfl
  | some region =>
    rw [resolveRegion_some (environmentRegion?_ne_empty named)]
    unfold resolveRegion
    rw [named]
    rfl

end Settings

/-! ## Uses -/

/-- A builder of settings uses their region in every environment. -/
theorem Builder.region_ofSettings (s : Settings) (env env' : Environment) :
    (ofSettings s env).region env' = s.resolvedRegion env :=
  Settings.resolveRegion_some (Settings.resolveRegion_ne_empty s.region? env) env'

/-- The region of a remote service. -/
structure Remote.Uses (service : Remote) (endpoint : Endpoint) (region : String) : Prop where
  /-- A regional endpoint is that of the region. -/
  regional : endpoint = .regional → Endpoint.resolveRegional region = .ok service.endpoint
  /-- Every request is signed for the region, in the scope and with the key. -/
  signed : ∀ now r post,
    Http.post service.credentials service.region service.endpoint now r = .ok post →
    post.url = service.endpoint ∧ ∃ names canonical,
      ("authorization", "AWS4-HMAC-SHA256 Credential=" ++ service.credentials.id ++ "/"
        ++ scope (Calendar.ofTimestamp now).dateText region ++ ", SignedHeaders=" ++ names
        ++ ", Signature="
        ++ signature service.credentials region (Calendar.ofTimestamp now) canonical)
        ∈ post.headers

/-- The header of a signature names the region that was signed for. -/
theorem Signing.authorization_of_sign {credentials : Credentials} {s : Signable} {now : Timestamp}
    {headers : List (String × String)} (signed : sign credentials s now = .ok headers) :
    ∃ names canonical,
      ("authorization", "AWS4-HMAC-SHA256 Credential=" ++ credentials.id ++ "/"
        ++ scope (Calendar.ofTimestamp now).dateText s.region ++ ", SignedHeaders=" ++ names
        ++ ", Signature=" ++ signature credentials s.region (Calendar.ofTimestamp now) canonical)
        ∈ headers := by
  obtain ⟨host, -, done⟩ := bind_eq_ok.1 signed
  cases done
  exact ⟨_, _, List.mem_append_left _ List.mem_cons_self⟩

theorem Builder.uses_remote {b : Builder} {env : Environment}
    {transport : Http.Post → Option Http.Response} {adapter : Adapter} {service : Remote}
    (built : (b.remote env transport).1 = .ok (adapter, service)) :
    service.Uses b.endpoint (Settings.resolveRegion b.region? env) := by
  unfold Builder.remote at built
  dsimp only at built
  split at built
  · cases built
  · next credentials held =>
    obtain ⟨endpoint, resolved, built⟩ := bind_eq_ok.1 built
    obtain ⟨_, -, done⟩ := bind_eq_ok.1 built
    cases done
    refine ⟨fun regional => ?_, fun now r post made => ?_⟩
    · rw [regional, Endpoint.resolve_regional] at resolved
      dsimp only at resolved
      exact resolved
    · obtain ⟨headers, signed, made⟩ := bind_eq_ok.1 made
      cases made
      obtain ⟨names, canonical, member⟩ := authorization_of_sign signed
      exact ⟨rfl, names, canonical, List.mem_append_right _ member⟩

/-- **One region.**  The region of settings is that of the first source that names one, with the
last resort behind them all, but for an empty first variable, and so is the region of a builder; it
is never empty.  Settings that were taken from the environment give the region of the environment, a
builder of settings keeps theirs, and a remote service that is built uses the region of its builder
for its regional endpoint and for all signatures. -/
theorem region_resolution (s : Settings) (b : Builder) (env : Environment) :
    Settings.Resolves s.region? env (s.resolvedRegion env) ∧
    (Settings.ofEnvironment env).1.resolvedRegion env = Settings.resolveRegion none env ∧
    (∀ env', (Builder.ofSettings s env).region env' = s.resolvedRegion env) ∧
    Settings.Resolves b.region? env (b.region env) ∧
    ∀ transport adapter service, (b.remote env transport).1 = .ok (adapter, service) →
      service.Uses b.endpoint (b.region env) :=
  ⟨Settings.resolves_resolveRegion s.region? env, Settings.resolvedRegion_ofEnvironment env,
    Builder.region_ofSettings s env, Settings.resolves_resolveRegion b.region? env,
    fun _ _ _ built => Builder.uses_remote built⟩

/-- A store of settings without a region, where the first variable names one. -/
theorem region_resolution_variable :
    let env := (((∅ : Environment).insert "AWS_REGION" "eu-west-1".toUTF8.toList).insert
      "AWS_DEFAULT_REGION" "us-west-2".toUTF8.toList)
    let s : Settings := { Settings.default with container := "users" }
    let b : Builder := { Builder.ofSettings s env with credentials? := some ⟨"id", "secret", none⟩ }
    s.resolvedRegion env = "eu-west-1" ∧ b.region ∅ = "eu-west-1" ∧
      ∃ adapter service, (b.remote ∅ fun _ => none).1 = .ok (adapter, service) ∧
        service.endpoint.host? = some "dynamodb.eu-west-1.amazonaws.com" ∧
        service.Uses .regional "eu-west-1" := by
  intro env s b
  obtain ⟨-, -, keeps, -⟩ := region_resolution s b env
  obtain ⟨-, -, -, -, uses⟩ := region_resolution s b ∅
  have named : s.resolvedRegion env = "eu-west-1" := by decide +kernel
  have region : b.region ∅ = "eu-west-1" := (keeps ∅).trans named
  have plain : Url.IsPlainLabel "eu-west-1".toList := by decide
  have resolved : Endpoint.resolveRegional "eu-west-1" = .ok (Url.regionalUrl "eu-west-1") := by
    rw [Endpoint.resolveRegional_of_isPlainLabel plain]
    decide
  have adapts : b.adapter.toOption.isSome = true := by decide +kernel
  obtain ⟨adapter, shown⟩ := Option.isSome_iff_exists.1 adapts
  have built : (b.remote ∅ fun _ => none).1 = .ok (adapter,
      ⟨Url.regionalUrl "eu-west-1", "eu-west-1", ⟨"id", "secret", none⟩, fun _ => none⟩) := by
    unfold Builder.remote
    rw [region]
    show (Endpoint.resolveRegional "eu-west-1" >>= _) = _
    rw [resolved, ok_of_toOption shown]
    rfl
  have used := uses _ _ _ built
  rw [region] at used
  exact ⟨named, region, adapter, _, built, rfl, used⟩

/-- Behind an empty first variable the region of the second one is not seen. -/
theorem region_hidden :
    let env : Environment := (((∅ : Environment).insert "AWS_REGION" "".toUTF8.toList).insert
      "AWS_DEFAULT_REGION" "eu-west-1".toUTF8.toList)
    (Settings.firstNamed? (Settings.sources none env)).getD Settings.defaultRegion = "eu-west-1" ∧
      Settings.default.resolvedRegion env = "us-east-1" := by
  decide +kernel

end RecordStore
