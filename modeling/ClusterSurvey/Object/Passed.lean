import ClusterSurvey.Json.Fields
import ClusterSurvey.Object.FieldTable

/-! Fields that are passed on as they came. -/
namespace ClusterSurvey

def Json.isPassable : Json → Bool
  | .null => false
  | j => j.isSound depthLimit

/-- A value that can be passed on: it is there, and nothing in it is broken. -/
abbrev PassedValue : Type := {j : Json // j.isPassable = true}

def PassedValue.ofJson? (j : Json) : Option PassedValue :=
  if h : j.isPassable = true then some ⟨j, h⟩ else none

def PassedFields (table : FieldTable) : Type :=
  {name : String // name ∈ table.names} → Option PassedValue

namespace PassedFields

variable {table : FieldTable}

instance : EmptyCollection (PassedFields table) := ⟨fun _ => none⟩
instance : Inhabited (PassedFields table) := ⟨∅⟩

/-- The fields of the table that an object has; any other is passed over. -/
def ofJson? (table : FieldTable) (j : Json) : Option (PassedFields table) := do
  let _ ← j.obj?
  guard (table.names.all fun name => (j.optional PassedValue.ofJson? name).isSome)
  return fun name => (j.optional PassedValue.ofJson? name).join

def fields (f : PassedFields table) : List (String × Option Json) :=
  table.names.attach.map fun name =>
    (name.val, ((f name).map (·.val)).or (Json.lookup name.val table.least))

def toJson (f : PassedFields table) : Json := .ofFields (Json.inOrder f.fields)

end PassedFields

end ClusterSurvey
