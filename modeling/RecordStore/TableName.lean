/-
RecordStore.TableName -- from a container to the table that holds it
-/

namespace RecordStore

set_option autoImplicit false

/-- How the name of a table is derived from the name of a container. -/
inductive TableName
  | verbatim
  | prefixed (start : String)
  | derived (derive : String → String)

namespace TableName

/-- The table of a container. -/
def resolve : TableName → String → String
  | .verbatim, container => container
  | .prefixed start, container => start ++ container
  | .derived derive, container => derive container

/-- A derivation is a function and is not shown. -/
def shown (_ : TableName) : String := "TableNaming(..)"

end TableName

end RecordStore
