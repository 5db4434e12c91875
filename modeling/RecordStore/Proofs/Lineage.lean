/-
RecordStore.Proofs.Lineage -- whom a cancellation reaches

Contexts are made and cancelled in any order.  A `Lineage` keeps beside them how
each one came to be and which were cancelled when.  From that alone, and without
tokens, it is said whom a cancellation reaches (`Lineage.Reaches`): the context
itself, its clones and those it is a clone of, and from each of these its children.

On the side of the tokens, one counts as cancelled once another that it derives
from was.  That the one relation is the other (`Lineage.Sound.derives`,
`Lineage.Sound.reaches`) needs what every act keeps (`Lineage.Sound`): that each
token was made for one context, which the others that have it are clones of.
-/
import RecordStore.Proofs.Tokens

namespace RecordStore

set_option autoImplicit false

/-! ## Lineages -/

namespace Lineage

/-- How a context came to be. -/
inductive Origin
  /-- With a new token, derived from no other, and a deadline or none. -/
  | root (deadline? : Option Instant)
  /-- Derived from the context of this number, whose deadline it has. -/
  | child (parent : Nat)
  /-- The same context again. -/
  | clone (original : Nat)
  deriving DecidableEq

structure Member where
  origin : Origin
  context : Context
  deriving DecidableEq

/-- A cancellation by means of the token of a member. -/
structure Cancellation where
  member : Nat
  time : Instant
  deriving DecidableEq

inductive Act
  | make (origin : Origin)
  | cancel (cancellation : Cancellation)
  deriving DecidableEq

end Lineage

/-- Contexts in the order in which they came to be, with their tokens, and what was cancelled. -/
structure Lineage where
  forest : TokenForest
  members : List Lineage.Member
  cancelled : List Lineage.Cancellation

namespace Lineage

def empty : Lineage := ⟨.empty, [], []⟩

/-- A new member with what making its context gives. -/
def join (s : Lineage) (origin : Origin) (made : Context × TokenForest) : Lineage :=
  ⟨made.2, s.members ++ [⟨origin, made.1⟩], s.cancelled⟩

/-- One act.  An act on a context that there is not does nothing. -/
def act (s : Lineage) : Act → Lineage
  | .make (.root deadline?) => s.join (.root deadline?) (Context.root s.forest deadline?)
  | .make (.child k) =>
    match s.members[k]? with
    | some parent => s.join (.child k) (parent.context.child s.forest)
    | none => s
  | .make (.clone k) =>
    match s.members[k]? with
    | some original => s.join (.clone k) (original.context, s.forest)
    | none => s
  | .cancel cancellation =>
    match s.members[cancellation.member]? with
    | some target =>
      ⟨s.forest.cancel target.context.token cancellation.time, s.members,
        s.cancelled ++ [cancellation]⟩
    | none => s

/-- Acts one after the other. -/
def run (acts : List Act) : Lineage := acts.foldl act empty

/-! ## What follows from origins alone -/

def origin? (s : Lineage) (j : Nat) : Option Origin := s.members[j]?.map Member.origin

/-- A cancellation of one member reaches another: itself, clones either way, and children. -/
inductive Reaches (s : Lineage) (i : Nat) : Nat → Prop
  | self : Reaches s i i
  | child {j k : Nat} (before : Reaches s i k) (origin : s.origin? j = some (.child k)) :
      Reaches s i j
  | clone {j k : Nat} (before : Reaches s i k) (origin : s.origin? j = some (.clone k)) :
      Reaches s i j
  | original {j k : Nat} (before : Reaches s i j) (origin : s.origin? j = some (.clone k)) :
      Reaches s i k

/-- The root from which a member comes through children and clones. -/
inductive RootOf (s : Lineage) : Nat → Nat → Prop
  | root {j : Nat} {deadline? : Option Instant} (origin : s.origin? j = some (.root deadline?)) :
      RootOf s j j
  | child {j k r : Nat} (origin : s.origin? j = some (.child k)) (before : RootOf s k r) :
      RootOf s j r
  | clone {j k r : Nat} (origin : s.origin? j = some (.clone k)) (before : RootOf s k r) :
      RootOf s j r

/-- A cancellation that reaches the member has come. -/
def Cancelled (s : Lineage) (j : Nat) (t : Instant) : Prop :=
  ∃ cancellation ∈ s.cancelled, cancellation.time ≤ t ∧ s.Reaches cancellation.member j

/-- The deadline of the member's root has come. -/
def Late (s : Lineage) (j : Nat) (t : Instant) : Prop :=
  ∃ r deadline, s.RootOf j r ∧ s.origin? r = some (.root (some deadline)) ∧ deadline ≤ t

section

variable {s : Lineage} {i j k r : Nat}

theorem Reaches.trans (first : s.Reaches i j) (second : s.Reaches j k) : s.Reaches i k := by
  induction second with
  | self => exact first
  | child _ origin ih => exact .child ih origin
  | clone _ origin ih => exact .clone ih origin
  | original _ origin ih => exact .original ih origin

theorem rootOf_of_child (origin : s.origin? j = some (.child k)) :
    s.RootOf j r ↔ s.RootOf k r := by
  refine ⟨fun rooted => ?_, .child origin⟩
  cases rooted with
  | root other => cases origin.symm.trans other
  | child other before =>
    cases origin.symm.trans other
    exact before
  | clone other _ => cases origin.symm.trans other

theorem rootOf_of_clone (origin : s.origin? j = some (.clone k)) :
    s.RootOf j r ↔ s.RootOf k r := by
  refine ⟨fun rooted => ?_, .clone origin⟩
  cases rooted with
  | root other => cases origin.symm.trans other
  | child other _ => cases origin.symm.trans other
  | clone other before =>
    cases origin.symm.trans other
    exact before

/-- Nothing is reached under another root. -/
theorem Reaches.rootOf_iff (reaches : s.Reaches i j) : s.RootOf i r ↔ s.RootOf j r := by
  induction reaches with
  | self => exact Iff.rfl
  | child _ origin ih => rw [ih, rootOf_of_child origin]
  | clone _ origin ih => rw [ih, rootOf_of_clone origin]
  | original _ origin ih => rw [ih, rootOf_of_clone origin]

theorem RootOf.unique {r' : Nat} (rooted : s.RootOf j r) (other : s.RootOf j r') : r = r' := by
  induction rooted with
  | root origin =>
    cases other with
    | root => rfl
    | child origin' _ => cases origin.symm.trans origin'
    | clone origin' _ => cases origin.symm.trans origin'
  | child origin _ ih => exact ih ((rootOf_of_child origin).1 other)
  | clone origin _ ih => exact ih ((rootOf_of_clone origin).1 other)

end

/-! ## What every act keeps -/

/-- A context of this place in the order is what its origin says. -/
def Traced (s : Lineage) (j : Nat) (ctx : Context) : Origin → Prop
  | .root deadline? => s.forest.derivation? ctx.token = some none ∧ ctx.deadline? = deadline?
  | .child k => k < j ∧ ∃ parent, s.members[k]? = some parent ∧
      s.forest.derivation? ctx.token = some (some parent.context.token) ∧
      ctx.deadline? = parent.context.deadline?
  | .clone k => k < j ∧ ∃ original, s.members[k]? = some original ∧ ctx = original.context

/-- A member that is not a clone. -/
def Member.Founds (m : Member) : Prop := ∀ k, m.origin ≠ .clone k

structure Sound (s : Lineage) : Prop where
  ordered : s.forest.Ordered
  traced : ∀ {j : Nat} {m : Member}, s.members[j]? = some m →
    s.Traced j m.context m.origin
  known : ∀ {j : Nat} {m : Member}, s.members[j]? = some m → m.context.token < s.forest.size
  /-- Each token was made for one member. -/
  founder : ∀ {j j' : Nat} {m m' : Member}, s.members[j]? = some m → s.members[j']? = some m' →
    m.Founds → m'.Founds → m.context.token = m'.context.token → j = j'
  named : ∀ cancellation ∈ s.cancelled, cancellation.member < s.members.length
  /-- The tokens know of the cancellations and of nothing else. -/
  recorded : ∀ id t, Lifespan.reached (s.forest.ownEnd? id) t = true ↔
    ∃ cancellation ∈ s.cancelled, cancellation.time ≤ t ∧
      ∃ m : Member, s.members[cancellation.member]? = some m ∧ m.context.token = id

section

variable {s s' : Lineage} {i j k r : Nat} {m : Member}

theorem sound_empty : empty.Sound where
  ordered := nofun
  traced member := nomatch member
  known member := nomatch member
  founder member := nomatch member
  named _ member := nomatch member
  recorded _ _ := ⟨nofun, fun ⟨_, member, _⟩ => nomatch member⟩

/-- What a context is does not change when tokens and members are added. -/
theorem Traced.mono {ctx : Context} {origin : Origin} (traced : s.Traced j ctx origin)
    (derivations : ∀ id derived?, s.forest.derivation? id = some derived? →
      s'.forest.derivation? id = some derived?)
    (members : ∀ (k : Nat) (m : Member), s.members[k]? = some m → s'.members[k]? = some m) :
    s'.Traced j ctx origin := by
  cases origin with
  | root deadline? => exact ⟨derivations _ _ traced.1, traced.2⟩
  | child k =>
    obtain ⟨older, parent, member, derived, deadline⟩ := traced
    exact ⟨older, parent, members k parent member, derivations _ _ derived, deadline⟩
  | clone k =>
    obtain ⟨older, original, member, same⟩ := traced
    exact ⟨older, original, members k original member, same⟩

/-! ### A new member -/

section

variable {origin : Origin} {made : Context × TokenForest}

theorem member_join : (s.join origin made).members[j]? = some m ↔
    s.members[j]? = some m ∨ j = s.members.length ∧ m = ⟨origin, made.1⟩ := by
  unfold join
  rw [List.getElem?_append]
  by_cases old : j < s.members.length
  · rw [if_pos old, or_iff_left]
    exact fun ⟨newest, _⟩ => Nat.ne_of_lt old newest
  · rw [if_neg old, List.getElem?_eq_none (Nat.not_lt.1 old), List.getElem?_singleton]
    by_cases newest : j = s.members.length
    · simp [newest, eq_comm]
    · simp [newest, show ¬ j - s.members.length = 0 by omega]

theorem member_join_of_member (member : s.members[j]? = some m) :
    (s.join origin made).members[j]? = some m := member_join.2 (.inl member)

theorem lt_of_member (member : s.members[j]? = some m) : j < s.members.length :=
  (List.getElem?_eq_some_iff.1 member).1

/-- A new member keeps the lineage sound if its token is new, unless it is a clone, and no older
token is touched. -/
theorem Sound.join (sound : s.Sound) (ordered : made.2.Ordered)
    (derivations : ∀ id derived?, s.forest.derivation? id = some derived? →
      made.2.derivation? id = some derived?)
    (size : s.forest.size ≤ made.2.size) (ends : ∀ id, made.2.ownEnd? id = s.forest.ownEnd? id)
    (traced : (s.join origin made).Traced s.members.length made.1 origin)
    (known : made.1.token < made.2.size)
    (fresh : (∀ k, origin ≠ .clone k) → s.forest.size ≤ made.1.token) :
    (s.join origin made).Sound where
  ordered := ordered
  traced member := by
    rcases member_join.1 member with old | ⟨rfl, rfl⟩
    · exact (sound.traced old).mono derivations fun _ _ => member_join_of_member
    · exact traced
  known member := by
    rcases member_join.1 member with old | ⟨rfl, rfl⟩
    · exact Nat.lt_of_lt_of_le (sound.known old) size
    · exact known
  founder := by
    -- A founder that is new has a token that no older member has.
    have apart : ∀ {j : Nat} {m : Member}, s.members[j]? = some m → (∀ k, origin ≠ .clone k) →
        m.context.token ≠ made.1.token := fun old founds same =>
      Nat.not_lt.2 (fresh founds) (same ▸ sound.known old)
    intro j j' m m' member member' founds founds' same
    rcases member_join.1 member with old | ⟨rfl, rfl⟩ <;>
      rcases member_join.1 member' with old' | ⟨rfl, rfl⟩
    · exact sound.founder old old' founds founds' same
    · exact absurd same (apart old founds')
    · exact absurd same.symm (apart old' founds)
    · rfl
  named cancellation member := by
    have old := sound.named cancellation member
    simp only [Lineage.join, List.length_append, List.length_singleton]
    omega
  recorded id t := by
    show Lifespan.reached (made.2.ownEnd? id) t = true ↔ _
    rw [ends, sound.recorded]
    refine exists_congr fun cancellation => and_congr_right fun member => and_congr_right fun _ => ?_
    have old := sound.named cancellation member
    refine exists_congr fun m => and_congr_left fun _ => ?_
    rw [member_join, or_iff_left]
    exact fun ⟨newest, _⟩ => Nat.ne_of_lt old newest

end

/-- A context with a new token. -/
theorem Sound.join_add (sound : s.Sound) {origin : Origin} {parent? : Option Nat}
    {deadline? : Option Instant} (parents : ∀ parent, parent? = some parent → parent < s.forest.size)
    (traced : (s.join origin (⟨s.forest.size, deadline?⟩, (s.forest.add parent?).2)).Traced
      s.members.length ⟨s.forest.size, deadline?⟩ origin) :
    (s.join origin (⟨s.forest.size, deadline?⟩, (s.forest.add parent?).2)).Sound :=
  sound.join (TokenForest.ordered_add sound.ordered parents)
    (fun _ _ => TokenForest.derivation?_add_of_some)
    (by rw [TokenForest.size_add]; exact Nat.le_succ _)
    (fun _ => TokenForest.ownEnd?_add parent?) traced
    (by rw [TokenForest.size_add]; exact Nat.lt_succ_self _)
    (fun _ => Nat.le_refl _)

theorem Sound.cancel (sound : s.Sound) {cancellation : Cancellation} {target : Member}
    (there : s.members[cancellation.member]? = some target) :
    (⟨s.forest.cancel target.context.token cancellation.time, s.members,
      s.cancelled ++ [cancellation]⟩ : Lineage).Sound where
  ordered id parent derived := by
    rw [TokenForest.derivation?_cancel] at derived
    exact sound.ordered id parent derived
  traced member := (sound.traced member).mono
    (fun _ _ derived => by rw [TokenForest.derivation?_cancel, derived]) fun _ _ same => same
  known member := by
    rw [TokenForest.size_cancel]
    exact sound.known member
  founder := sound.founder
  named earlier member := by
    rcases List.mem_append.1 member with old | new
    · exact sound.named earlier old
    · rw [List.mem_singleton.1 new]
      exact lt_of_member there
  recorded id t := by
    simp only [TokenForest.reached_ownEnd?_cancel (sound.known there), sound.recorded,
      List.mem_append, List.mem_singleton, or_and_right, exists_or, exists_eq_left, there,
      Option.some.injEq, exists_eq_left']
    rw [and_comm (a := id = _), eq_comm (a := id)]

theorem Sound.act (sound : s.Sound) (act : Act) : (s.act act).Sound := by
  unfold Lineage.act
  split
  next deadline? =>
    exact sound.join_add nofun ⟨TokenForest.derivation?_add_size none, rfl⟩
  next k =>
    split
    next parent there =>
      refine sound.join_add (fun token same => Option.some.inj same ▸ sound.known there) ?_
      exact ⟨lt_of_member there, parent, member_join_of_member there,
        TokenForest.derivation?_add_size _, rfl⟩
    next => exact sound
  next k =>
    split
    next original there =>
      refine sound.join sound.ordered (fun _ _ same => same) (Nat.le_refl _) (fun _ => rfl) ?_
        (sound.known there) fun clone => absurd rfl (clone k)
      exact ⟨lt_of_member there, original, member_join_of_member there, rfl⟩
    next => exact sound
  next cancellation =>
    split
    next target there => exact sound.cancel there
    next => exact sound

theorem sound_run (acts : List Act) : (run acts).Sound :=
  List.foldlRecOn acts Lineage.act sound_empty fun _ sound act _ => sound.act act

/-! ## Descent among contexts and among tokens -/

theorem origin?_of_member (member : s.members[j]? = some m) : s.origin? j = some m.origin := by
  rw [origin?, member, Option.map_some]

theorem exists_member {origin : Origin} (known : s.origin? j = some origin) :
    ∃ m, s.members[j]? = some m ∧ m.origin = origin := Option.map_eq_some_iff.1 known

theorem Sound.traced_of_origin (sound : s.Sound) (member : s.members[j]? = some m)
    {origin : Origin} (known : s.origin? j = some origin) : s.Traced j m.context origin := by
  rw [origin?_of_member member, Option.some.injEq] at known
  exact known ▸ sound.traced member

/-- A member has the context of one that is not a clone, and shares its cancellations. -/
theorem Sound.exists_founder (sound : s.Sound) (member : s.members[j]? = some m) :
    ∃ f first, s.members[f]? = some first ∧ first.Founds ∧ first.context = m.context ∧
      s.Reaches f j ∧ s.Reaches j f := by
  induction j using Nat.strongRecOn generalizing m with
  | ind j ih =>
    by_cases clone : ∃ k, m.origin = .clone k
    · obtain ⟨k, same⟩ := clone
      have origin : s.origin? j = some (.clone k) := by rw [origin?_of_member member, same]
      obtain ⟨older, original, there, shared⟩ := sound.traced_of_origin member origin
      obtain ⟨f, first, found, founds, context, down, up⟩ := ih k older there
      exact ⟨f, first, found, founds, context.trans shared.symm, .clone down origin,
        (Reaches.original .self origin).trans up⟩
    · exact ⟨j, m, member, not_exists.1 clone, rfl, .self, .self⟩

/-- What a cancellation reaches derives from the token that was cancelled. -/
theorem Sound.derives (sound : s.Sound) {m' : Member} (member : s.members[i]? = some m)
    (member' : s.members[j]? = some m') (reaches : s.Reaches i j) :
    s.forest.Derives m.context.token m'.context.token := by
  induction reaches generalizing m' with
  | self =>
    cases member.symm.trans member'
    exact .self
  | child _ origin ih =>
    obtain ⟨-, parent, there, derived, -⟩ := sound.traced_of_origin member' origin
    exact .step (ih there) derived
  | clone _ origin ih =>
    obtain ⟨-, original, there, same⟩ := sound.traced_of_origin member' origin
    rw [same]
    exact ih there
  | original _ origin ih =>
    obtain ⟨cloned, there, -⟩ := exists_member origin
    obtain ⟨-, original, found, same⟩ := sound.traced_of_origin there origin
    cases member'.symm.trans found
    rw [← same]
    exact ih there

/-- A member whose token derives from the cancelled one is reached. -/
theorem Sound.reaches (sound : s.Sound) {m' : Member} (member : s.members[i]? = some m)
    (member' : s.members[j]? = some m')
    (derives : s.forest.Derives m.context.token m'.context.token) : s.Reaches i j := by
  generalize token : m'.context.token = id at derives
  induction derives generalizing j m' with
  | self =>
    obtain ⟨f, first, there, founds, same, -, up⟩ := sound.exists_founder member
    obtain ⟨f', first', there', founds', same', down, -⟩ := sound.exists_founder member'
    have one : f = f' := sound.founder there there' founds founds' (by rw [same, same', token])
    exact up.trans (one ▸ down)
  | @step id parent _ derived ih =>
    -- The member that the token was made for is a child, of a member with the older token.
    obtain ⟨f, first, there, founds, same, down, -⟩ := sound.exists_founder member'
    rw [← token, ← same] at derived
    have origin := origin?_of_member there
    cases born : first.origin with
    | root deadline? =>
      rw [born] at origin
      cases (sound.traced_of_origin there origin).1.symm.trans derived
    | child k =>
      rw [born] at origin
      obtain ⟨-, older, found, from_older, -⟩ := sound.traced_of_origin there origin
      have shared : older.context.token = parent := by
        simpa using from_older.symm.trans derived
      exact (Reaches.child (ih found shared) origin).trans down
    | clone k => exact absurd born (founds k)

/-- **The context of a member counts as cancelled exactly once a cancellation reaches it.** -/
theorem Sound.reached_cancelledAt? (sound : s.Sound) (member : s.members[j]? = some m)
    {t : Instant} :
    Lifespan.reached (s.forest.cancelledAt? m.context.token) t = true ↔ s.Cancelled j t := by
  rw [TokenForest.reached_cancelledAt? sound.ordered]
  constructor
  · rintro ⟨_, derives, own⟩
    obtain ⟨cancellation, recorded, come, target, there, rfl⟩ := (sound.recorded _ t).1 own
    exact ⟨cancellation, recorded, come, sound.reaches there member derives⟩
  · rintro ⟨cancellation, recorded, come, reaches⟩
    obtain ⟨target, there⟩ : ∃ target, s.members[cancellation.member]? = some target :=
      ⟨_, List.getElem?_eq_getElem (sound.named cancellation recorded)⟩
    exact ⟨target.context.token, sound.derives there member reaches,
      (sound.recorded _ t).2 ⟨cancellation, recorded, come, target, there, rfl⟩⟩

/-! ## Roots -/

theorem Sound.exists_root (sound : s.Sound) (member : s.members[j]? = some m) :
    ∃ r, s.RootOf j r ∧ s.origin? r = some (.root m.context.deadline?) := by
  induction j using Nat.strongRecOn generalizing m with
  | ind j ih =>
    have origin := origin?_of_member member
    cases born : m.origin with
    | root deadline? =>
      rw [born] at origin
      exact ⟨j, .root origin, by rw [origin, (sound.traced_of_origin member origin).2]⟩
    | child k =>
      rw [born] at origin
      obtain ⟨older, parent, there, -, same⟩ := sound.traced_of_origin member origin
      obtain ⟨r, rooted, made⟩ := ih k older there
      exact ⟨r, .child origin rooted, by rw [same, made]⟩
    | clone k =>
      rw [born] at origin
      obtain ⟨older, original, there, same⟩ := sound.traced_of_origin member origin
      obtain ⟨r, rooted, made⟩ := ih k older there
      exact ⟨r, .clone origin rooted, by rw [same, made]⟩

/-- The deadline of a member is that of its root. -/
theorem Sound.reached_deadline? (sound : s.Sound) (member : s.members[j]? = some m)
    {t : Instant} : Lifespan.reached m.context.deadline? t = true ↔ s.Late j t := by
  obtain ⟨r, rooted, made⟩ := sound.exists_root member
  constructor
  · intro come
    cases deadline : m.context.deadline? with
    | none =>
      rw [deadline] at come
      cases come
    | some d =>
      rw [deadline] at come made
      exact ⟨r, d, rooted, made, Lifespan.reached_some.1 come⟩
  · rintro ⟨r', d, rooted', made', come⟩
    rw [rooted'.unique rooted, made, Option.some.injEq, Origin.root.injEq] at made'
    rw [made']
    exact Lifespan.reached_some.2 come

/-! ## Further acts -/

theorem Sound.cancelledAt?_add (sound : s.Sound) (member : s.members[j]? = some m)
    (parent? : Option Nat) : (s.forest.add parent?).2.cancelledAt? m.context.token =
      s.forest.cancelledAt? m.context.token :=
  TokenForest.cancelledAtIn?_cons (sound.known member)

/-- Making a context, from whichever other, leaves all others as they are. -/
theorem Sound.reason?_make (sound : s.Sound) (member : s.members[j]? = some m) (origin : Origin)
    (t : Instant) :
    m.context.reason? (s.act (.make origin)).forest t = m.context.reason? s.forest t := by
  have same : (s.act (.make origin)).forest.cancelledAt? m.context.token =
      s.forest.cancelledAt? m.context.token := by
    cases origin with
    | root deadline? => exact sound.cancelledAt?_add member none
    | child k =>
      cases there : s.members[k]? with
      | some parent =>
        simp only [Lineage.act, there]
        exact sound.cancelledAt?_add member _
      | none => simp only [Lineage.act, there]
    | clone k =>
      cases there : s.members[k]? with
      | some original =>
        simp only [Lineage.act, there]
        rfl
      | none => simp only [Lineage.act, there]
  unfold Context.reason? Context.lifespan
  rw [same]

theorem act_cancel {cancellation : Cancellation} {target : Member}
    (there : s.members[cancellation.member]? = some target) :
    s.act (.cancel cancellation) =
      ⟨s.forest.cancel target.context.token cancellation.time, s.members,
        s.cancelled ++ [cancellation]⟩ := by
  simp only [Lineage.act, there]

theorem Reaches.of_origins (reaches : s.Reaches i j)
    (origins : ∀ j, s'.origin? j = s.origin? j) : s'.Reaches i j := by
  induction reaches with
  | self => exact .self
  | child _ origin ih => exact .child ih (by rw [origins, origin])
  | clone _ origin ih => exact .clone ih (by rw [origins, origin])
  | original _ origin ih => exact .original ih (by rw [origins, origin])

/-- A further cancellation counts for those that it reaches. -/
theorem cancelled_act {cancellation : Cancellation} {target : Member} {t : Instant}
    (there : s.members[cancellation.member]? = some target) :
    (s.act (.cancel cancellation)).Cancelled j t ↔
      s.Cancelled j t ∨ cancellation.time ≤ t ∧ s.Reaches cancellation.member j := by
  have origins : ∀ j, (s.act (.cancel cancellation)).origin? j = s.origin? j := by
    intro j
    rw [act_cancel there]
    rfl
  have same : ∀ i, (s.act (.cancel cancellation)).Reaches i j ↔ s.Reaches i j := fun i =>
    ⟨fun reaches => reaches.of_origins fun j => (origins j).symm,
      fun reaches => reaches.of_origins origins⟩
  have log : (s.act (.cancel cancellation)).cancelled = s.cancelled ++ [cancellation] := by
    rw [act_cancel there]
  simp only [Cancelled, same, log, List.mem_append, List.mem_singleton, or_and_right, exists_or,
    exists_eq_left]

theorem Sound.reason?_eq_canceled (sound : s.Sound) (member : s.members[j]? = some m)
    {t : Instant} : m.context.reason? s.forest t = some .canceled ↔ s.Cancelled j t :=
  Lifespan.reason?_eq_canceled.trans (sound.reached_cancelledAt? member)

theorem Sound.reason?_eq_deadlineExceeded (sound : s.Sound) (member : s.members[j]? = some m)
    {t : Instant} : m.context.reason? s.forest t = some .deadlineExceeded ↔
      ¬ s.Cancelled j t ∧ s.Late j t :=
  Lifespan.reason?_eq_deadlineExceeded.trans
    (and_congr (not_congr (sound.reached_cancelledAt? member)) (sound.reached_deadline? member))

theorem Sound.reason?_ne_none (sound : s.Sound) (member : s.members[j]? = some m)
    {t : Instant} : m.context.reason? s.forest t ≠ none ↔ s.Cancelled j t ∨ s.Late j t := by
  rw [Context.reason?, Lifespan.over_iff_holds]
  constructor
  · rintro ⟨reason, holds⟩
    cases reason with
    | canceled => exact .inl ((sound.reached_cancelledAt? member).1 holds)
    | deadlineExceeded => exact .inr ((sound.reached_deadline? member).1 holds)
  · rintro (cancelled | late)
    · exact ⟨.canceled, (sound.reached_cancelledAt? member).2 cancelled⟩
    · exact ⟨.deadlineExceeded, (sound.reached_deadline? member).2 late⟩

/-- Whom a cancellation does not reach it leaves alone. -/
theorem Sound.reason?_cancel (sound : s.Sound) (member : s.members[j]? = some m)
    {cancellation : Cancellation} (spared : ¬ s.Reaches cancellation.member j) (t : Instant) :
    m.context.reason? (s.act (.cancel cancellation)).forest t = m.context.reason? s.forest t := by
  cases there : s.members[cancellation.member]? with
  | none => simp only [Lineage.act, there]
  | some target =>
    have kept : (s.act (.cancel cancellation)).members[j]? = some m := by rwa [act_cancel there]
    have same : Lifespan.reached
          ((s.act (.cancel cancellation)).forest.cancelledAt? m.context.token) t =
        Lifespan.reached (s.forest.cancelledAt? m.context.token) t := by
      rw [Bool.eq_iff_iff, (sound.act _).reached_cancelledAt? kept,
        sound.reached_cancelledAt? member, cancelled_act there, or_iff_left]
      exact fun ⟨_, reaches⟩ => spared reaches
    unfold Context.reason? Context.lifespan Lifespan.reason?
    rw [same]

/-- Whom a cancellation reaches is cancelled from its instant on. -/
theorem Sound.canceled_of_reaches (sound : s.Sound) (member : s.members[j]? = some m)
    {cancellation : Cancellation} {target : Member} {t : Instant}
    (there : s.members[cancellation.member]? = some target)
    (reaches : s.Reaches cancellation.member j) (come : cancellation.time ≤ t) :
    m.context.reason? (s.act (.cancel cancellation)).forest t = some .canceled := by
  have kept : (s.act (.cancel cancellation)).members[j]? = some m := by rwa [act_cancel there]
  rw [(sound.act _).reason?_eq_canceled kept, cancelled_act there]
  exact .inr ⟨come, reaches⟩

/-! ## Ancestors, siblings and strangers -/

/-- Nobody reaches what it was derived from, or anything that reaches that. -/
theorem Sound.not_reaches_ancestor (sound : s.Sound) (origin : s.origin? j = some (.child k))
    (above : s.Reaches i k) : ¬ s.Reaches j i := by
  intro reaches
  obtain ⟨m, member, -⟩ := exists_member origin
  obtain ⟨-, parent, there, derived, -⟩ := sound.traced_of_origin member origin
  have le := (sound.derives member there (reaches.trans above)).le sound.ordered
  exact Nat.not_lt.2 le (sound.ordered _ _ derived)

/-- Two children of a context, or of clones of one, do not reach each other. -/
theorem Sound.not_reaches_sibling (sound : s.Sound) {j' k' : Nat}
    (origin : s.origin? j = some (.child k)) (origin' : s.origin? j' = some (.child k'))
    (down : s.Reaches k k') (up : s.Reaches k' k) (other : j ≠ j') : ¬ s.Reaches j j' := by
  intro reaches
  obtain ⟨m, member, born⟩ := exists_member origin
  obtain ⟨m', member', born'⟩ := exists_member origin'
  obtain ⟨-, parent, there, derived, -⟩ := sound.traced_of_origin member origin
  obtain ⟨-, parent', there', derived', -⟩ := sound.traced_of_origin member' origin'
  have same : parent.context.token = parent'.context.token :=
    Nat.le_antisymm ((sound.derives there there' down).le sound.ordered)
      ((sound.derives there' there up).le sound.ordered)
  have derives := sound.derives member member' reaches
  generalize token : m'.context.token = id at derives derived'
  cases derives with
  | self =>
    refine other (sound.founder member member' ?_ ?_ token.symm)
    · exact fun k clone => nomatch born.symm.trans clone
    · exact fun k clone => nomatch born'.symm.trans clone
  | step before derived'' =>
    rw [derived'', Option.some.injEq, Option.some.injEq] at derived'
    rw [derived', ← same] at before
    exact Nat.not_lt.2 (before.le sound.ordered) (sound.ordered _ _ derived)

/-- Nobody reaches what has another root. -/
theorem not_reaches_of_root {r' : Nat} (rooted : s.RootOf i r) (rooted' : s.RootOf j r')
    (other : r ≠ r') : ¬ s.Reaches i j :=
  fun reaches => other ((reaches.rootOf_iff.1 rooted).unique rooted')

/-! ## The whole -/

/-- What a member's context reports, whatever has been made and cancelled, and whom its
cancellation concerns. -/
structure Reports (s : Lineage) (j : Nat) (ctx : Context) : Prop where
  canceled : ∀ t, ctx.reason? s.forest t = some .canceled ↔ s.Cancelled j t
  late : ∀ t, ctx.reason? s.forest t = some .deadlineExceeded ↔ ¬ s.Cancelled j t ∧ s.Late j t
  live : ∀ t, ctx.reason? s.forest t = none ↔ ¬ s.Cancelled j t ∧ ¬ s.Late j t
  /-- A cancellation that does not reach the context changes nothing for it. -/
  spared : ∀ cancellation t, ¬ s.Reaches cancellation.member j →
    ctx.reason? (s.act (.cancel cancellation)).forest t = ctx.reason? s.forest t
  struck : ∀ cancellation t, cancellation.member < s.members.length →
    s.Reaches cancellation.member j → cancellation.time ≤ t →
    ctx.reason? (s.act (.cancel cancellation)).forest t = some .canceled
  /-- Contexts that are made later change nothing for it. -/
  made : ∀ origin t, ctx.reason? (s.act (.make origin)).forest t = ctx.reason? s.forest t
  ancestors : ∀ i k, s.origin? j = some (.child k) → s.Reaches i k → ¬ s.Reaches j i
  siblings : ∀ i k k', s.origin? j = some (.child k) → s.origin? i = some (.child k') →
    s.Reaches k k' → s.Reaches k' k → j ≠ i → ¬ s.Reaches j i
  strangers : ∀ i r r', s.RootOf j r → s.RootOf i r' → r ≠ r' → ¬ s.Reaches j i
  descendants : ∀ (i : Nat) (m : Member) t, s.members[i]? = some m → s.Reaches j i →
    ctx.reason? s.forest t ≠ none → m.context.reason? s.forest t ≠ none

theorem Cancelled.of_reaches {t : Instant} (cancelled : s.Cancelled j t) (reaches : s.Reaches j i) :
    s.Cancelled i t := by
  obtain ⟨cancellation, recorded, come, before⟩ := cancelled
  exact ⟨cancellation, recorded, come, before.trans reaches⟩

theorem Late.of_reaches {t : Instant} (late : s.Late j t) (reaches : s.Reaches j i) :
    s.Late i t := by
  obtain ⟨r, deadline, rooted, made, come⟩ := late
  exact ⟨r, deadline, reaches.rootOf_iff.1 rooted, made, come⟩

theorem Sound.reports (sound : s.Sound) (member : s.members[j]? = some m) :
    s.Reports j m.context where
  canceled _ := sound.reason?_eq_canceled member
  late _ := sound.reason?_eq_deadlineExceeded member
  live t := by
    rw [← not_or, ← not_iff_not, not_not]
    exact sound.reason?_ne_none member
  spared _ t spared := sound.reason?_cancel member spared t
  struck _ _ inside reaches come :=
    sound.canceled_of_reaches member (List.getElem?_eq_getElem inside) reaches come
  made := sound.reason?_make member
  ancestors _ _ := sound.not_reaches_ancestor
  siblings _ _ _ := sound.not_reaches_sibling
  strangers _ _ _ := not_reaches_of_root
  descendants i m' t member' reaches ended := by
    rw [sound.reason?_ne_none member] at ended
    rw [sound.reason?_ne_none member']
    exact ended.imp (·.of_reaches reaches) (·.of_reaches reaches)

/-- **A cancellation reaches exactly the descendants.**  After any acts, a context is cancelled if
it, a clone of it, or an ancestor or a clone of one has been, and otherwise over once the deadline
of its root has come.  Its ancestors, its siblings and what has another root do not notice when it
is cancelled, and its descendants are over when it is. -/
theorem reports_of_run {acts : List Act} {j : Nat} {m : Member}
    (member : (run acts).members[j]? = some m) : (run acts).Reports j m.context :=
  (sound_run acts).reports member

/-- A clone of a child is cancelled at 5.  The child, and what is derived from it before or after,
is cancelled then; the root and the child's sibling have only their deadline. -/
theorem reports_clonedChild :
    let s := run [.make (.root (some 9)), .make (.child 0), .make (.clone 1), .make (.child 1),
      .cancel ⟨2, 5⟩, .make (.child 1), .make (.child 0)]
    s.Reports 4 ⟨3, some 9⟩ ∧
      s.members.map (fun m => m.context.reason? s.forest 4) = [none, none, none, none, none, none] ∧
      s.members.map (fun m => m.context.reason? s.forest 5) =
        [none, some .canceled, some .canceled, some .canceled, some .canceled, none] ∧
      s.members.map (fun m => m.context.reason? s.forest 9) =
        [some .deadlineExceeded, some .canceled, some .canceled, some .canceled, some .canceled,
          some .deadlineExceeded] :=
  ⟨reports_of_run (j := 4) (m := ⟨.child 1, ⟨3, some 9⟩⟩) rfl, by decide, by decide, by decide⟩

end

end Lineage

end RecordStore
