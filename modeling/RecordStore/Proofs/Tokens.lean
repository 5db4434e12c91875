/-
RecordStore.Proofs.Tokens -- what a token derives from

A token counts as cancelled from the first instant at which one that it derives
from was cancelled itself (`TokenForest.reached_cancelledAt?`).  New tokens and
cancellations do not change from which token another derives, and a cancellation
is kept with one token only.
-/
import RecordStore.Proofs.Lifespan

namespace RecordStore

set_option autoImplicit false

namespace TokenForest

/-- The token of a number. -/
def tokenIn? : List Token → Nat → Option Token
  | [], _ => none
  | token :: older, id => if id = older.length then some token else tokenIn? older id

def token? (forest : TokenForest) (id : Nat) : Option Token := tokenIn? forest.newestFirst id

def size (forest : TokenForest) : Nat := forest.newestFirst.length

/-- What a token was derived from, if there is such a token. -/
def derivation? (forest : TokenForest) (id : Nat) : Option (Option Nat) :=
  (forest.token? id).map Token.parent?

/-- When a token was cancelled itself. -/
def ownEnd? (forest : TokenForest) (id : Nat) : Option Instant :=
  (forest.token? id).bind Token.cancelledAt?

/-- Tokens are derived from older ones. -/
def Ordered (forest : TokenForest) : Prop :=
  ∀ id parent, forest.derivation? id = some (some parent) → parent < id

/-- A token is another one or derived from it, directly or not. -/
inductive Derives (forest : TokenForest) (a : Nat) : Nat → Prop
  | self : Derives forest a a
  | step {id parent : Nat} (before : Derives forest a parent)
      (derived : forest.derivation? id = some (some parent)) : Derives forest a id

section

variable {forest : TokenForest} {tokens : List Token} {id k : Nat} {time t : Instant}

theorem tokenIn?_isSome : (tokenIn? tokens id).isSome = true ↔ id < tokens.length := by
  induction tokens with
  | nil => simp [tokenIn?]
  | cons newest older ih =>
    rw [List.length_cons, tokenIn?]
    split
    next head => simp [head]
    next =>
      rw [ih]
      omega

theorem lt_of_tokenIn? {token : Token} (found : tokenIn? tokens id = some token) :
    id < tokens.length :=
  tokenIn?_isSome.1 (by rw [found, Option.isSome_some])

theorem tokenIn?_of_length_le (newer : tokens.length ≤ id) : tokenIn? tokens id = none := by
  rw [← Option.not_isSome_iff_eq_none, tokenIn?_isSome]
  exact Nat.not_lt.2 newer

theorem tokenIn?_cons_of_some {newest token : Token} (found : tokenIn? tokens id = some token) :
    tokenIn? (newest :: tokens) id = some token := by
  rw [tokenIn?, if_neg (Nat.ne_of_lt (lt_of_tokenIn? found)), found]

/-- Older tokens do not depend on newer ones. -/
theorem cancelledAtIn?_cons {newest : Token} (older : id < tokens.length) :
    cancelledAtIn? (newest :: tokens) id = cancelledAtIn? tokens id := by
  rw [cancelledAtIn?, if_neg (Nat.ne_of_lt older)]

theorem cancelledAtIn?_of_some
    (ordered : ∀ id token parent, tokenIn? tokens id = some token →
      token.parent? = some parent → parent < id)
    {token : Token} (found : tokenIn? tokens id = some token) :
    cancelledAtIn? tokens id =
      Lifespan.earlier token.cancelledAt? (token.parent?.bind (cancelledAtIn? tokens)) := by
  induction tokens with
  | nil => cases found
  | cons newest older ih =>
    -- Whatever a token in this list is derived from is older than the newest one.
    have parents : ∀ parent, token.parent? = some parent → parent < older.length := by
      intro parent derived
      have before := ordered id token parent found derived
      have inside := lt_of_tokenIn? found
      rw [List.length_cons] at inside
      omega
    have same : token.parent?.bind (cancelledAtIn? (newest :: older)) =
        token.parent?.bind (cancelledAtIn? older) := by
      cases derived : token.parent? with
      | none => rfl
      | some parent => exact cancelledAtIn?_cons (parents parent derived)
    rw [same]
    by_cases head : id = older.length
    · rw [tokenIn?, if_pos head] at found
      cases found
      rw [cancelledAtIn?, if_pos head]
    · rw [tokenIn?, if_neg head] at found
      rw [cancelledAtIn?, if_neg head]
      exact ih (fun id token parent found => ordered id token parent
        (tokenIn?_cons_of_some found)) found

theorem cancelledAtIn?_of_none (missing : tokenIn? tokens id = none) :
    cancelledAtIn? tokens id = none := by
  induction tokens with
  | nil => rfl
  | cons newest older ih =>
    by_cases head : id = older.length
    · rw [tokenIn?, if_pos head] at missing
      cases missing
    · rw [tokenIn?, if_neg head] at missing
      rw [cancelledAtIn?, if_neg head, ih missing]

theorem ordered_tokens (ordered : forest.Ordered) (id : Nat) (token : Token) (parent : Nat)
    (found : tokenIn? forest.newestFirst id = some token) (derived : token.parent? = some parent) :
    parent < id :=
  ordered id parent (by rw [derivation?, token?, found, Option.map_some, derived])

/-- **A token counts as cancelled once one that it derives from was cancelled itself.** -/
theorem reached_cancelledAt? (ordered : forest.Ordered) :
    Lifespan.reached (forest.cancelledAt? id) t = true ↔
      ∃ a, forest.Derives a id ∧ Lifespan.reached (forest.ownEnd? a) t = true := by
  constructor
  · induction id using Nat.strongRecOn with
    | ind id ih =>
      intro reached
      unfold cancelledAt? at reached
      cases found : tokenIn? forest.newestFirst id with
      | none =>
        rw [cancelledAtIn?_of_none found] at reached
        cases reached
      | some token =>
        rw [cancelledAtIn?_of_some (ordered_tokens ordered) found,
          Lifespan.reached_earlier] at reached
        rcases reached with own | inherited
        · exact ⟨id, .self, by rw [ownEnd?, token?, found, Option.bind_some, own]⟩
        · cases derived : token.parent? with
          | none =>
            rw [derived] at inherited
            cases inherited
          | some parent =>
            rw [derived, Option.bind_some] at inherited
            have before := ordered_tokens ordered id token parent found derived
            obtain ⟨a, derives, own⟩ := ih parent before inherited
            refine ⟨a, .step derives ?_, own⟩
            rw [derivation?, token?, found, Option.map_some, derived]
  · rintro ⟨a, derives, own⟩
    induction derives with
    | self =>
      cases found : tokenIn? forest.newestFirst a with
      | none =>
        rw [ownEnd?, token?, found] at own
        cases own
      | some token =>
        rw [ownEnd?, token?, found, Option.bind_some] at own
        rw [cancelledAt?, cancelledAtIn?_of_some (ordered_tokens ordered) found]
        exact Lifespan.reached_earlier.2 (.inl own)
    | @step id parent before derived ih =>
      obtain ⟨token, found, same⟩ := Option.map_eq_some_iff.1 derived
      rw [cancelledAt?, cancelledAtIn?_of_some (ordered_tokens ordered) found,
        Lifespan.reached_earlier, same]
      exact .inr ih

theorem Derives.le {a : Nat} (derives : forest.Derives a id) (ordered : forest.Ordered) :
    a ≤ id := by
  induction derives with
  | self => exact Nat.le_refl a
  | step _ derived ih => exact ih.trans (Nat.le_of_lt (ordered _ _ derived))

/-! ### What acts do to tokens -/

theorem token?_add (parent? : Option Nat) :
    (forest.add parent?).2.token? id =
      if id = forest.size then some ⟨parent?, none⟩ else forest.token? id := rfl

@[simp] theorem size_add (parent? : Option Nat) : (forest.add parent?).2.size = forest.size + 1 := rfl

theorem derivation?_of_size_le (newer : forest.size ≤ id) : forest.derivation? id = none := by
  rw [derivation?, token?, tokenIn?_of_length_le newer, Option.map_none]

theorem derivation?_add_of_some {parent? derived? : Option Nat}
    (derived : forest.derivation? id = some derived?) :
    (forest.add parent?).2.derivation? id = some derived? := by
  have older : id ≠ forest.size := by
    rintro rfl
    rw [derivation?_of_size_le (Nat.le_refl _)] at derived
    cases derived
  rw [derivation?, token?_add, if_neg older]
  exact derived

theorem derivation?_add_size (parent? : Option Nat) :
    (forest.add parent?).2.derivation? forest.size = some parent? := by
  rw [derivation?, token?_add, if_pos rfl, Option.map_some]

theorem ownEnd?_add (parent? : Option Nat) :
    (forest.add parent?).2.ownEnd? id = forest.ownEnd? id := by
  unfold ownEnd?
  rw [token?_add]
  by_cases newest : id = forest.size
  · rw [if_pos newest, token?, tokenIn?_of_length_le (Nat.le_of_eq newest.symm)]
    rfl
  · rw [if_neg newest]

theorem ordered_add (ordered : forest.Ordered) {parent? : Option Nat}
    (known : ∀ parent, parent? = some parent → parent < forest.size) :
    (forest.add parent?).2.Ordered := by
  intro id parent derived
  by_cases newest : id = forest.size
  · rw [newest, derivation?_add_size] at derived
    rw [newest]
    exact known parent (Option.some.inj derived)
  · rw [derivation?, token?_add, if_neg newest] at derived
    exact ordered id parent derived

theorem length_cancelIn : (cancelIn k time tokens).length = tokens.length := by
  induction tokens with
  | nil => rfl
  | cons newest older ih =>
    unfold cancelIn
    split
    · rfl
    · rw [List.length_cons, List.length_cons, ih]

theorem tokenIn?_cancelIn :
    tokenIn? (cancelIn k time tokens) id = (tokenIn? tokens id).map fun token =>
      if id = k then { token with cancelledAt? := Lifespan.earlier token.cancelledAt? (some time) }
      else token := by
  induction tokens with
  | nil => rfl
  | cons newest older ih =>
    by_cases target : k = older.length
    · rw [cancelIn, if_pos target, tokenIn?, tokenIn?]
      by_cases head : id = older.length
      · rw [if_pos head, if_pos head, Option.map_some, if_pos (head.trans target.symm)]
      · have other : id ≠ k := fun same => head (same.trans target)
        simp only [if_neg head, if_neg other, Option.map_id']
    · rw [cancelIn, if_neg target, tokenIn?, tokenIn?, length_cancelIn]
      by_cases head : id = older.length
      · have other : id ≠ k := fun same => target (same.symm.trans head)
        rw [if_pos head, if_pos head, Option.map_some, if_neg other]
      · rw [if_neg head, if_neg head, ih]

theorem size_cancel : (forest.cancel k time).size = forest.size := length_cancelIn

theorem derivation?_cancel : (forest.cancel k time).derivation? id = forest.derivation? id := by
  unfold derivation? token? cancel
  rw [tokenIn?_cancelIn, Option.map_map]
  congr 1
  funext token
  simp only [Function.comp_apply]
  split <;> rfl

/-- A cancellation counts for the token itself, from its instant on. -/
theorem reached_ownEnd?_cancel (known : k < forest.size) :
    Lifespan.reached ((forest.cancel k time).ownEnd? id) t = true ↔
      Lifespan.reached (forest.ownEnd? id) t = true ∨ id = k ∧ time ≤ t := by
  unfold ownEnd? token? cancel
  rw [tokenIn?_cancelIn]
  cases found : tokenIn? forest.newestFirst id with
  | none =>
    have other : id ≠ k := by
      rintro rfl
      obtain ⟨token, there⟩ := Option.isSome_iff_exists.1 (tokenIn?_isSome.2 known)
      rw [found] at there
      cases there
    simp [other]
  | some token =>
    by_cases target : id = k
    · rw [Option.map_some, if_pos target, Option.bind_some, Option.bind_some,
        Lifespan.reached_earlier, Lifespan.reached_some, and_iff_right target]
    · simp [target]

end

end TokenForest

end RecordStore
