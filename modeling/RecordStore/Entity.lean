/-
RecordStore.Entity -- some kinds of values that applications keep

Each kind has a codec and the key under which a value of it is kept.
-/
import RecordStore.Codec
import RecordStore.Number.Whole

namespace RecordStore.Entity

set_option autoImplicit false

open RecordStore.Number

/-- Values that are kept under a key of their own. -/
structure Kind (α : Type) where
  codec : Codec α
  keyOf : α → String

structure User where
  id : Int
  name : String

structure Profile where
  id : Int
  name : String
  tags : List String

structure Zed where
  zeta : Int
  alpha : String
  note : Option String

def User.codec : Codec User where
  write u := do return .object [("id", ← Codec.nat32.write u.id), ("name", .string u.name)]
  read := Json.Schema.read {
    title := "User"
    default := ⟨0, ""⟩
    fields := [
      .named "id" true Codec.nat32.read fun id u => { u with id },
      .named "name" true Codec.string.read fun name u => { u with name }] }

def Profile.codec : Codec Profile where
  write p := do
    return .object [("id", ← Codec.nat64.write p.id), ("name", .string p.name),
      ("tags", .array (p.tags.map Json.string))]
  read := Json.Schema.read {
    title := "Profile"
    default := ⟨0, "", []⟩
    fields := [
      .named "id" true Codec.nat64.read fun id p => { p with id },
      .named "name" true Codec.string.read fun name p => { p with name },
      .named "tags" true (Codec.list Codec.string).read fun tags p => { p with tags }] }

def Zed.codec : Codec Zed where
  write z := do
    return .object [("zeta", ← Codec.int64.write z.zeta), ("alpha", .string z.alpha),
      ("note", ← (Codec.option Codec.string).write z.note)]
  read := Json.Schema.read {
    title := "Zed"
    default := ⟨0, "", none⟩
    fields := [
      .named "zeta" true Codec.int64.read fun zeta z => { z with zeta },
      .named "alpha" true Codec.string.read fun alpha z => { z with alpha },
      .named "note" false (Codec.option Codec.string).read fun note z => { z with note }] }

def user : Kind User := ⟨User.codec, fun u => integerText u.id⟩

def profile : Kind Profile := ⟨Profile.codec, (·.name)⟩

def zed : Kind Zed := ⟨Zed.codec, (·.alpha)⟩

/-- The member `id` of any value: a string as it is, none if absent or null, else its text. -/
def idOf : Json → String
  | .object members =>
    match Entries.get? "id" members with
    | some (.string s) => s
    | some .null | none => ""
    | some other => other.render
  | _ => ""

def any : Kind Json := ⟨Codec.any, idOf⟩

def string : Kind String := ⟨Codec.string, id⟩

def int64 : Kind Int := ⟨Codec.int64, integerText⟩

def real : Kind Binary64 := ⟨Codec.real, fun _ => "f"⟩

def bool : Kind Bool := ⟨Codec.bool, fun b => if b then "true" else "false"⟩

def bytes : Kind (List Int) := ⟨Codec.list Codec.nat8, fun bytes => integerText bytes.length⟩

def optionalString : Kind (Option String) := ⟨Codec.option Codec.string, fun s => s.getD ""⟩

end RecordStore.Entity
