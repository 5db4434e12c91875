/-
RecordStore.Environment -- variables that a process was given

A variable holds bytes.  One whose bytes are not the encoding of a text counts as
not set.
-/
import RecordStore.Dict

namespace RecordStore

set_option autoImplicit false

/-- Variables and their bytes. -/
abbrev Environment := Dict (List UInt8)

namespace Environment

/-- The text of a variable. -/
def text? (env : Environment) (name : String) : Option String := do
  String.fromUTF8? ⟨(← env.get? name).toArray⟩

/-- The text of a variable, unless it is empty. -/
def nonempty? (env : Environment) (name : String) : Option String :=
  (env.text? name).filter fun s => !s.isEmpty

end Environment

end RecordStore
