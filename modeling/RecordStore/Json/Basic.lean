/-
RecordStore.Json.Basic -- JSON values

A number is a whole number of 64 bits, signed or unsigned, or a finite double;
the two kinds stay apart, so `1` and `1.0` are different values.  The members of
an object are listed in ascending key order without repeats (`Canonical`), which
every reader of this library establishes.
-/
import RecordStore.Dict
import RecordStore.Number.Binary64

namespace RecordStore

set_option autoImplicit false

namespace Json

/-- A whole number that fits 64 bits, with or without a sign. -/
structure Whole where
  value : Int
  ge : -0x8000_0000_0000_0000 ≤ value
  lt : value < 0x1_0000_0000_0000_0000
  deriving DecidableEq

/-- The whole number `i`, if it fits. -/
def Whole.ofInt? (i : Int) : Option Whole :=
  if h : -0x8000_0000_0000_0000 ≤ i ∧ i < 0x1_0000_0000_0000_0000 then some ⟨i, h.1, h.2⟩ else none

inductive Numeral
  | whole (n : Whole)
  | real (x : Number.Binary64)
  deriving DecidableEq, BEq

end Json

/-- A JSON value. -/
inductive Json
  | null
  | bool (b : Bool)
  | number (n : Json.Numeral)
  | string (s : String)
  | array (items : List Json)
  | object (members : List (String × Json))

namespace Json

/-- The number `n`, or null when it needs more than 64 bits. -/
def ofNat (n : Nat) : Json :=
  match Whole.ofInt? n with
  | some w => .number (.whole w)
  | none => .null

mutual

/-- Equality of values, where the two zeros of doubles are equal. -/
def same : Json → Json → Bool
  | .null, .null => true
  | .bool a, .bool b => a == b
  | .number a, .number b => a == b
  | .string a, .string b => a == b
  | .array a, .array b => sameItems a b
  | .object a, .object b => sameMembers a b
  | _, _ => false

def sameItems : List Json → List Json → Bool
  | [], [] => true
  | a :: as, b :: bs => same a b && sameItems as bs
  | _, _ => false

def sameMembers : List (String × Json) → List (String × Json) → Bool
  | [], [] => true
  | (k, a) :: as, (l, b) :: bs => k == l && same a b && sameMembers as bs
  | _, _ => false

end

instance : BEq Json := ⟨same⟩

mutual

/-- How deep arrays and objects nest. -/
def depth : Json → Nat
  | .array items => depthItems items + 1
  | .object members => depthMembers members + 1
  | _ => 0

def depthItems : List Json → Nat
  | [] => 0
  | j :: rest => max (depth j) (depthItems rest)

def depthMembers : List (String × Json) → Nat
  | [] => 0
  | (_, j) :: rest => max (depth j) (depthMembers rest)

end

/-- Members are in strict key order, at every depth. -/
inductive Canonical : Json → Prop
  | null : Canonical .null
  | bool (b : Bool) : Canonical (.bool b)
  | number (n : Numeral) : Canonical (.number n)
  | string (s : String) : Canonical (.string s)
  | array (items : List Json) (each : ∀ j ∈ items, Canonical j) : Canonical (.array items)
  | object (members : List (String × Json)) (sorted : Entries.Sorted members)
      (each : ∀ m ∈ members, Canonical m.2) : Canonical (.object members)

end Json

end RecordStore
